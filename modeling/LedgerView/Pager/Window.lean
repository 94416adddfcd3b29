import LedgerView.Word

/-
  The window of rows that a table keeps.

  A window is a run of rows without gaps, newest first, with
  what is known about its place in the whole list: how many
  rows precede it unseen (its shadow) and whether it reaches
  the oldest row (it is drained).  Counts are 64-bit words; a
  sum or product that does not fit stops at the greatest word.

  Key definitions include:
    * `Window`
    * `Window.pageRows`
    * `Window.absoluteStart`
    * `Window.currentPage`
    * `Window.totalRowCount`
    * `Window.pageCount`
    * `Window.clampStart`
    * `Window.reset`
    * `stitch`
-/

namespace LedgerView

------------------------------------------------------------
-- Windows
------------------------------------------------------------

/- The rows kept, and their place in the list. -/
structure Window (ρ : Type) where
  /- Newest first, without gaps. -/
  rows : List ρ
  /- Where in `rows` the visible page begins. -/
  startIndex : Nat
  /- Rows known to precede the kept ones. -/
  shadow : Nat
  /- The last row kept is the oldest of the list. -/
  drained : Bool
  /- Rows on a page. -/
  pageSize : Nat
deriving Repr, DecidableEq

namespace Window

variable {ρ : Type}

/- An empty window; a page has at least one row. -/
def empty
    (pageSize : Nat) : Window ρ :=
  { rows := []
    startIndex := 0
    shadow := 0
    drained := false
    pageSize := max pageSize 1 }

instance : Inhabited (Window ρ) :=
  ⟨empty 1⟩

/- The rows of the visible page. -/
def pageRows
    (w : Window ρ) : List ρ :=
  (w.rows.drop w.startIndex).take w.pageSize

/- The first row of the visible page. -/
def firstVisible
    (w : Window ρ) : Option ρ :=
  w.pageRows.head?

/- The place of the visible page in the whole list. -/
def absoluteStart
    (w : Window ρ) : Nat :=
  saturate (w.shadow + w.startIndex)

/- The number of the visible page, counted from one. -/
def currentPage
    (w : Window ρ) : Nat :=
  saturate (w.absoluteStart / w.pageSize + 1)

/- The rows known to exist. -/
def knownRowCount
    (w : Window ρ) : Nat :=
  saturate (w.shadow + w.rows.length)

/-
  The number of rows shown to users.  It is exact for a drained
  window; before that, one more than the known rows, rounded up
  to a multiple of `presumed`.
-/
def totalRowCount
    (w : Window ρ)
    (presumed : Nat) : Nat :=
  if w.drained then
    w.knownRowCount
  else
    let grain := max presumed 1
    saturate (divUp (saturate (w.knownRowCount + 1)) grain * grain)

/- The number of pages shown to users, at least one. -/
def pageCount
    (w : Window ρ)
    (presumed : Nat) : Nat :=
  max (divUp (w.totalRowCount presumed) w.pageSize) 1

/- Where the last page of the known rows begins. -/
def lastPageStart
    (w : Window ρ) : Nat :=
  (w.knownRowCount - 1) / w.pageSize * w.pageSize

/-
  The index at which a page wanted to begin at `start` begins.
  A drained window goes no further than its last page.
-/
def clampStart
    (w : Window ρ)
    (start : Nat) : Nat :=
  let start :=
    if w.drained then min start w.lastPageStart else start
  min (start - w.shadow) w.rows.length

/- Forget every row; the page size stays. -/
def reset
    (w : Window ρ) : Window ρ :=
  { w with
    rows := []
    startIndex := 0
    shadow := 0
    drained := false }

end Window

------------------------------------------------------------
-- Stitching
------------------------------------------------------------

/- What became of the rows kept so far. -/
inductive Stitch where
  | concatenated (added : Nat)
  | replaced
deriving Repr, DecidableEq

/-
  Put a fresh run in front of the current one.  The runs meet
  when the last fresh row and the first current row have the
  same key; that row is then kept once, as it was.  Runs that
  do not meet leave the fresh one alone.
-/
def stitch
    {ρ κ : Type}
    [DecidableEq κ]
    (key : ρ → κ)
    (fresh current : List ρ) : List ρ × Stitch :=
  match fresh.getLast?, current.head? with
  | some last, some first =>
      if key last = key first then
        (fresh.dropLast ++ current, .concatenated (fresh.length - 1))
      else
        (fresh, .replaced)
  | _, _ => (fresh, .replaced)

end LedgerView
