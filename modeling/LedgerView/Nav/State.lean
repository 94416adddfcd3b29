import LedgerView.Nav.Error
import LedgerView.Nav.Params
import LedgerView.Text.Decimal

/-
  The place of a table, as its parameters record it.

  Two parameters hold the number of the page and the key of its
  first row.  Both together anchor a page.

  Key definitions include:
    * `maxPage`
    * `parsePage`
    * `NavNames`
    * `NavState`
    * `NavState.read`
    * `NavState.write`
    * `NavState.isAnchored`
-/

namespace LedgerView

------------------------------------------------------------
-- Page Numbers
------------------------------------------------------------

/- The greatest page that links and commands may name. -/
def maxPage : Nat := 2 ^ 32 - 1

/- Read the number of a page; blanks around it do not count. -/
def parsePage
    (text : String) : Except NavError Nat :=
  match Text.natural? (2 ^ 64) (Text.trimChars text.toList) with
  | some page =>
      if 1 ≤ page ∧ page ≤ maxPage then .ok page
      else .error (.invalidPage text)
  | none => .error (.invalidPage text)

------------------------------------------------------------
-- Recorded Places
------------------------------------------------------------

/- The names of the two parameters. -/
structure NavNames where
  page : String := "p"
  key : String := "k"
deriving Repr, DecidableEq, Inhabited

/- What the parameters say. -/
structure NavState where
  page : Option Nat := none
  key : Option String := none
deriving Repr, DecidableEq, Inhabited

namespace NavState

/- Read the parameters.  An empty key counts as none. -/
def read
    (store : Params)
    (names : NavNames) : Except NavError NavState := do
  let page ← (store.get? names.page).mapM parsePage
  let key := (store.get? names.key).filter (!·.isEmpty)
  return ⟨page, key⟩

/- What the parameters say, or nothing if they are at fault. -/
def readOrEmpty
    (store : Params)
    (names : NavNames) : NavState :=
  match read store names with
  | .ok state => state
  | .error _ => {}

/- Record a place; what it lacks is dropped. -/
def write
    (s : NavState)
    (store : Params)
    (names : NavNames) : Params :=
  (store.set names.page (s.page.map toString)).set
    names.key s.key

/- Whether a page and the key of its first row are known. -/
def isAnchored
    (s : NavState) : Bool :=
  s.page.isSome && s.key.isSome

end NavState

end LedgerView
