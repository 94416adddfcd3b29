import LedgerView.Pager.Source
import LedgerView.Text.Decimal

/-
  A source that follows a script.

  It lists whole numbers in descending order; the key of a
  number is its quotient by a divisor.  Its answers can be
  scripted in advance, made to fail, withheld, or allowed to
  exceed the limit.  Every query is recorded.

  Key definitions include:
    * `Script`
    * `Script.Change`
    * `Script.change`
    * `Script.answer`
    * `Script.record`
    * `Script.takeCalls`
-/

namespace LedgerView

/- An answer fixed in advance. -/
inductive ScriptedReply where
  | rows (rows : List Nat)
  | nothing
  | fail (reason : String)
deriving Repr

/- A source of numbers and the state of its script. -/
structure Script where
  rows : List Nat
  divisor : Nat := 1
  replies : List ScriptedReply := []
  failure : Option String := none
  withheld : Bool := false
  sloppy : Bool := false
  /- Queries asked since they were last taken, latest first. -/
  calls : List (ListQuery Nat) := []
deriving Repr

namespace Script

/- Put a number at its place, unless it is there already. -/
def insertRow
    (row : Nat) : List Nat → List Nat
  | [] => [row]
  | r :: rest =>
      if r < row then row :: r :: rest
      else if r = row then r :: rest
      else r :: insertRow row rest

/- A source that lists some numbers. -/
def ofRows
    (rows : List Nat)
    (divisor : Nat)
    (withheld : Bool) : Script :=
  { rows := rows.foldl (fun all row => insertRow row all) []
    divisor := divisor
    withheld := withheld }

/- The key of a number. -/
def key
    (s : Script)
    (row : Nat) : Nat :=
  row / s.divisor

/- Read a key: a 64-bit number. -/
def readKey?
    (text : String) : Option Nat :=
  Text.natural? (2 ^ 64) text.toList

/- A change of a source or of its script. -/
inductive Change where
  | push (rows : List Nat)
  | remove (rows : List Nat)
  | fail (reason : Option String)
  | withhold (on : Bool)
  | exceed (on : Bool)
  | reply (replies : List ScriptedReply)
deriving Repr

/- Make a change. -/
def change
    (s : Script)
    (c : Change) : Script :=
  match c with
  | .push rows =>
      { s with
        rows :=
          rows.foldl (fun all row => insertRow row all) s.rows }
  | .remove rows =>
      { s with
        rows := s.rows.filter fun row => !rows.contains row }
  | .fail reason => { s with failure := reason }
  | .withhold on => { s with withheld := on }
  | .exceed on => { s with sloppy := on }
  | .reply replies => { s with replies := replies }

/- Note a query. -/
def record
    (s : Script)
    (q : ListQuery Nat) : Script :=
  { s with calls := q :: s.calls }

/- The queries noted since last time, in order. -/
def takeCalls
    (s : Script) : List (ListQuery Nat) × Script :=
  (s.calls.reverse, { s with calls := [] })

/- The answer that the listed numbers give. -/
def select
    (s : Script)
    (q : ListQuery Nat) : List Nat :=
  let limit := if s.sloppy then s.rows.length else q.limit
  selectRows s.key s.rows { q with limit := limit }

/- Answer a query that has been noted. -/
def answer
    (s : Script)
    (q : ListQuery Nat) : Reply Nat × Script :=
  match s.replies with
  | reply :: rest =>
      let s := { s with replies := rest }
      match reply with
      | .rows rows => (.ok (some rows), s)
      | .nothing => (.ok none, s)
      | .fail reason => (.error (.refused reason), s)
  | [] =>
      match s.failure with
      | some reason => (.error (.refused reason), s)
      | none =>
          if s.withheld then (.ok none, s)
          else (.ok (some (s.select q)), s)

/- Note a query and answer it. -/
def ask
    (s : Script)
    (q : ListQuery Nat) : Reply Nat × Script :=
  (s.record q).answer q

end Script

end LedgerView
