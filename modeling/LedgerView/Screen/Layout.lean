import LedgerView.Screen.Canvas

/-
  The parts of the screen.

  From top to bottom there are the header, the body, the status
  line and the command line; the body has a sidebar and the
  table.  Parts given as a share of the whole end at the nearest
  column or row, and so do the columns of the table, which are
  of equal width with one blank column between them.

  Key definitions include:
    * `share`
    * `Layout`
    * `Layout.of`
    * `columnRects`
-/

namespace LedgerView

------------------------------------------------------------
-- Shares
------------------------------------------------------------

/- A quotient rounded to the nearest number, halves up. -/
def nearest
    (n d : Nat) : Nat :=
  (2 * n + d) / (2 * d)

/- A share of a whole, in hundredths. -/
def share
    (percent whole : Nat) : Nat :=
  nearest (percent * whole) 100

/- What lies between two shares of a whole: start and length. -/
def between
    (first last whole : Nat) : Nat × Nat :=
  (share first whole, share last whole - share first whole)

------------------------------------------------------------
-- Parts
------------------------------------------------------------

/- The parts of the screen. -/
structure Layout where
  title : Rect
  mode : Rect
  sidebar : Rect
  table : Rect
  statusLine : Rect
  commandLine : Rect
  help : Rect
deriving Repr, DecidableEq

namespace Layout

/- Rows of the header. -/
def headerHeight : Nat := 3

/- Rows of the status line and the command line. -/
def footerHeight : Nat := 2

/- Columns of the sidebar. -/
def sidebarWidth : Nat := 18

/- The parts of a screen of some size. -/
def of
    (width height : Nat) : Layout :=
  let titleWidth := share 65 width
  let bodyHeight := height - headerHeight - footerHeight
  let (helpX, helpWidth) := between 18 82 width
  let (helpY, helpHeight) := between 15 85 height
  { title := ⟨0, 0, titleWidth, headerHeight⟩
    mode := ⟨titleWidth, 0, width - titleWidth, headerHeight⟩
    sidebar := ⟨0, headerHeight, sidebarWidth, bodyHeight⟩
    table :=
      ⟨sidebarWidth, headerHeight, width - sidebarWidth,
        bodyHeight⟩
    statusLine := ⟨0, height - 2, width, 1⟩
    commandLine := ⟨0, height - 1, width, 1⟩
    help := ⟨helpX, helpY, helpWidth, helpHeight⟩ }

end Layout

------------------------------------------------------------
-- Columns
------------------------------------------------------------

/- Start and width of each of `n` columns. -/
def columnSpans
    (n width : Nat) : List (Nat × Nat) :=
  let start := fun i => nearest (i * (width + 1)) n
  (List.range n).map fun i =>
    (start i, start (i + 1) - start i - 1)

/- The places of the cells in a row of the table. -/
def columnRects
    (n : Nat)
    (row : Rect) : List Rect :=
  (columnSpans n row.width).map fun (start, width) =>
    ⟨row.x + start, row.y, width, row.height⟩

end LedgerView
