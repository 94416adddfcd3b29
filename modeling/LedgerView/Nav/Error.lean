import LedgerView.Text.Quoted

/-
  Faults of navigation.

  Key definitions include:
    * `NavError`
    * `NavError.message`
-/

namespace LedgerView

/- A page that cannot be shown, or a link that cannot be read. -/
inductive NavError where
  | invalidPage (text : String)
  | invalidLink (link reason : String)
deriving Repr, DecidableEq

namespace NavError

/- The wording shown to users. -/
def message : NavError → String
  | invalidPage text =>
      "page must be a positive integer, got " ++ Text.quote text
  | invalidLink link reason =>
      "invalid link " ++ Text.quote link ++ ": " ++ reason

/- The fault of a page number. -/
def ofPage
    (page : Nat) : NavError :=
  invalidPage (toString page)

end NavError

end LedgerView
