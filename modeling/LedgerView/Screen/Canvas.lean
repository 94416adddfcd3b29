import LedgerView.Screen.Style
import LedgerView.Text.Blank
import LedgerView.Text.Columns

/-
  A screen of cells.

  Each cell holds a glyph and looks in some way.  Text is
  written from left to right and cut where its place ends; a
  glyph that does not fit in full is left out, with all that
  comes after it.

  Key definitions include:
    * `Cell`
    * `Canvas`
    * `Rect`
    * `Canvas.fill`
    * `Canvas.write`
    * `Canvas.box`
    * `Canvas.lines`
    * `Canvas.runs`
-/

namespace LedgerView

------------------------------------------------------------
-- Cells
------------------------------------------------------------

/- One place of the screen. -/
structure Cell where
  glyph : List Char := [' ']
  style : Style := {}
deriving Repr, DecidableEq, Inhabited

/- A screen, row by row. -/
structure Canvas where
  width : Nat
  height : Nat
  cells : Array Cell

/- A rectangle of cells. -/
structure Rect where
  x : Nat
  y : Nat
  width : Nat
  height : Nat
deriving Repr, DecidableEq

/- What is left of a rectangle inside its border. -/
def Rect.inner
    (r : Rect) : Rect :=
  ⟨r.x + 1, r.y + 1, r.width - 2, r.height - 2⟩

/- One of the rows of a rectangle. -/
def Rect.row
    (r : Rect)
    (n : Nat) : Rect :=
  ⟨r.x, r.y + n, r.width, 1⟩

/- A text that looks the same throughout. -/
structure Span where
  text : String
  paint : Paint := {}

namespace Canvas

/- A screen with nothing on it. -/
def blank
    (width height : Nat) : Canvas :=
  ⟨width, height, Array.replicate (width * height) {}⟩

/- Change a cell, if there is one at the place. -/
def modify
    (c : Canvas)
    (x y : Nat)
    (f : Cell → Cell) : Canvas :=
  if x < c.width && y < c.height then
    { c with cells := c.cells.modify (y * c.width + x) f }
  else
    c

/- The cell at a place. -/
def cell
    (c : Canvas)
    (x y : Nat) : Cell :=
  c.cells.getD (y * c.width + x) {}

/- Change every cell of a rectangle. -/
def modifyRect
    (c : Canvas)
    (r : Rect)
    (f : Cell → Cell) : Canvas :=
  (List.range r.height).foldl
    (fun c dy =>
      (List.range r.width).foldl
        (fun c dx => c.modify (r.x + dx) (r.y + dy) f) c)
    c

/- Change the looks of a rectangle. -/
def fill
    (c : Canvas)
    (r : Rect)
    (p : Paint) : Canvas :=
  c.modifyRect r fun cell =>
    { cell with style := cell.style.paint p }

/- Wipe a rectangle. -/
def wipe
    (c : Canvas)
    (r : Rect) : Canvas :=
  c.modifyRect r fun _ => {}

/- Put a glyph at a place. -/
def put
    (c : Canvas)
    (x y : Nat)
    (glyph : List Char)
    (p : Paint) : Canvas :=
  c.modify x y fun cell =>
    { glyph := glyph, style := cell.style.paint p }

------------------------------------------------------------
-- Text
------------------------------------------------------------

/- The glyphs of a line with their looks. -/
def styledGlyphs
    (line : List Span) : List (Text.Glyph × Paint) :=
  line.flatMap fun span =>
    (Text.glyphs span.text.toList).map fun g => (g, span.paint)

/- Write glyphs from a place on, before the column `stop`. -/
def writeGlyphs
    (y stop : Nat) :
    Canvas → Nat → List (Text.Glyph × Paint) → Canvas
  | c, _, [] => c
  | c, x, (g, p) :: rest =>
      let next := x + g.columns
      if next ≤ stop then
        let c := c.put x y g.text p
        let hidden : Rect := ⟨x + 1, y, g.columns - 1, 1⟩
        writeGlyphs y stop (c.wipe hidden) next rest
      else
        c

/- Write a line of text into the first row of a rectangle. -/
def write
    (c : Canvas)
    (r : Rect)
    (line : List Span) : Canvas :=
  if 0 < r.height then
    writeGlyphs r.y (r.x + r.width) c r.x (styledGlyphs line)
  else
    c

/- Write lines into the rows of a rectangle, while they last. -/
def writeLines
    (c : Canvas)
    (r : Rect)
    (lines : List (List Span)) : Canvas :=
  ((lines.take r.height).zipIdx).foldl
    (fun c (line, n) => c.write (r.row n) line) c

------------------------------------------------------------
-- Boxes
------------------------------------------------------------

/- The border's glyph at a place in a rectangle. -/
def borderGlyph?
    (r : Rect)
    (dx dy : Nat) : Option Char :=
  let right := dx + 1 = r.width
  let bottom := dy + 1 = r.height
  if dy = 0 then
    some (if dx = 0 then '┌' else if right then '┐' else '─')
  else if bottom then
    some (if dx = 0 then '└' else if right then '┘' else '─')
  else if dx = 0 ∨ right then
    some '│'
  else
    none

/- Draw a border with a title upon it. -/
def box
    (c : Canvas)
    (r : Rect)
    (title : String)
    (p : Paint) : Canvas :=
  let c :=
    (List.range r.height).foldl
      (fun c dy =>
        (List.range r.width).foldl
          (fun c dx =>
            match borderGlyph? r dx dy with
            | some glyph => c.put (r.x + dx) (r.y + dy) [glyph] p
            | none => c)
          c)
      c
  c.write ⟨r.x + 1, r.y, r.width - 2, 1⟩ [⟨title, {}⟩]

------------------------------------------------------------
-- Reading the Screen
------------------------------------------------------------

/- The cells of a row. -/
def rowCells
    (c : Canvas)
    (y : Nat) : List Cell :=
  (List.range c.width).map fun x => c.cell x y

/- The text of a row, without spaces at its end. -/
def line
    (c : Canvas)
    (y : Nat) : String :=
  String.ofList
    (Text.dropLastWhile (· == ' ')
      ((c.rowCells y).flatMap (·.glyph)))

/- The text of every row. -/
def lines
    (c : Canvas) : List String :=
  (List.range c.height).map c.line

/- Cells in a row that look the same. -/
structure Run where
  y : Nat
  x : Nat
  length : Nat
  style : Style
deriving Repr, DecidableEq

/- Put a cell before the runs of the cells after it. -/
def extendRuns
    (y x : Nat)
    (style : Style) : List Run → List Run
  | [] => [⟨y, x, 1, style⟩]
  | run :: rest =>
      if run.style = style then
        { run with x := x, length := run.length + 1 } :: rest
      else
        ⟨y, x, 1, style⟩ :: run :: rest

/- The runs of a row. -/
def rowRuns
    (c : Canvas)
    (y : Nat) : List Run :=
  (c.rowCells y).zipIdx.foldr
    (fun (cell, x) runs => extendRuns y x cell.style runs) []

/- The runs of all rows that look in some special way. -/
def runs
    (c : Canvas) : List Run :=
  ((List.range c.height).flatMap c.rowRuns).filter
    (·.style != {})

end Canvas

end LedgerView
