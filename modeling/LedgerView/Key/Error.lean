import LedgerView.Text.Quoted

/-
  Why a text is no ordering key.

  Key definitions include:
    * `KeyError`
    * `KeyError.message`
-/

namespace LedgerView

/- The kind of key that was expected, with the text as given. -/
inductive KeyError where
  | timestamp (text : String)
  | entityId (text : String)
deriving Repr, DecidableEq

namespace KeyError

/- The wording shown to users. -/
def message : KeyError → String
  | timestamp text =>
      "invalid timestamp " ++ Text.quote text ++
        " (expected seconds.nanoseconds)"
  | entityId text =>
      "invalid entity id " ++ Text.quote text ++
        " (expected shard.realm.num)"

end KeyError

end LedgerView
