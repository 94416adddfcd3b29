/-
  Faults of the settings.

  Key definitions include:
    * `ConfigError`
    * `ConfigError.message?`
-/

namespace LedgerView

/- Why settings cannot be used. -/
inductive ConfigError where
  /- The settings file is there but cannot be opened. -/
  | closed
  /- The settings file is no document of settings. -/
  | unreadable
  | invalid (field reason : String)
deriving Repr, DecidableEq

namespace ConfigError

/- A number that has to be positive. -/
def notPositive
    (field : String) : ConfigError :=
  invalid field "must be greater than zero"

/- The wording shown to users, where there is one. -/
def message? : ConfigError → Option String
  | closed | unreadable => none
  | invalid field reason =>
      some ("invalid " ++ field ++ ": " ++ reason)

end ConfigError

end LedgerView
