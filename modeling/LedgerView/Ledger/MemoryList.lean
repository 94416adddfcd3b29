import LedgerView.Pager.Source

/-
  A list of rows held in memory.

  The rows stand in descending order of their keys, and no two
  have the same key.  A list can be unavailable: it then holds
  nothing and answers no query.

  Key definitions include:
    * `MemoryList`
    * `MemoryList.ofRows`
    * `MemoryList.unavailable`
    * `MemoryList.insert`
    * `MemoryList.remove`
    * `MemoryList.answer`
-/

namespace LedgerView

/- Rows in descending order of their keys. -/
structure MemoryList (ρ : Type) where
  rows : List ρ
  available : Bool := true
deriving Repr, DecidableEq, Inhabited

namespace MemoryList

variable {ρ κ : Type}
variable [Ord κ]

------------------------------------------------------------
-- Building
------------------------------------------------------------

/-
  Put a row at its place.  Of a row that is there with the same
  key, `merge old new` is kept.
-/
def insertRow
    (key : ρ → κ)
    (merge : ρ → ρ → ρ)
    (row : ρ) : List ρ → List ρ
  | [] => [row]
  | r :: rest =>
      match compare (key row) (key r) with
      | .gt => row :: r :: rest
      | .eq => merge r row :: rest
      | .lt => r :: insertRow key merge row rest

/- The list of some rows; of equal keys the first counts. -/
def ofRows
    (key : ρ → κ)
    (rows : List ρ) : MemoryList ρ :=
  { rows :=
      rows.foldl
        (fun all row => insertRow key (fun old _ => old) row all)
        [] }

/- A list that answers no query. -/
def unavailable : MemoryList ρ :=
  { rows := [], available := false }

------------------------------------------------------------
-- Changing
------------------------------------------------------------

/- Put a row at its place, replacing one of the same key. -/
def insert
    (key : ρ → κ)
    (row : ρ)
    (m : MemoryList ρ) : MemoryList ρ :=
  { m with rows := insertRow key (fun _ new => new) row m.rows }

/- Take out the row with a key. -/
def remove
    [DecidableEq κ]
    (key : ρ → κ)
    (k : κ)
    (m : MemoryList ρ) : MemoryList ρ × Option ρ :=
  let here := fun row => decide (key row = k)
  ({ m with rows := m.rows.eraseP here }, m.rows.find? here)

/- The newest row. -/
def head?
    (m : MemoryList ρ) : Option ρ :=
  m.rows.head?

------------------------------------------------------------
-- Answering
------------------------------------------------------------

/- Answer a query. -/
def answer
    (key : ρ → κ)
    (m : MemoryList ρ)
    (q : ListQuery κ) : Reply ρ :=
  if m.available then
    .ok (some (selectRows key m.rows q))
  else
    .ok none

end MemoryList

end LedgerView
