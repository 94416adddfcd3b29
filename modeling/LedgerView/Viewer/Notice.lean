/-
  Short messages to the user.

  Key definitions include:
    * `NoticeLevel`
    * `Notice`
-/

namespace LedgerView

/- How much a message matters. -/
inductive NoticeLevel where
  | info
  | warn
  | error
deriving Repr, DecidableEq, Inhabited

/- The name in records. -/
def NoticeLevel.name : NoticeLevel → String
  | info => "info"
  | warn => "warn"
  | error => "error"

/- A message. -/
structure Notice where
  text : String
  level : NoticeLevel
deriving Repr, DecidableEq, Inhabited

end LedgerView
