/-
  Named places that hold one thing each.

  Key definitions include:
    * `Slots`
    * `Slots.put`
    * `Slots.get?`
    * `Slots.drop`
-/

namespace LedgerView

/- Things under names; a name holds one thing. -/
abbrev Slots (α : Type) :=
  List (String × α)

namespace Slots

variable {α : Type}

/- The thing under a name. -/
def get?
    (slots : Slots α)
    (name : String) : Option α :=
  (slots.find? (·.1 == name)).map (·.2)

/- Drop what is under a name. -/
def drop
    (slots : Slots α)
    (name : String) : Slots α :=
  slots.filter (·.1 != name)

/- Put a thing under a name in place of what was there. -/
def put
    (slots : Slots α)
    (name : String)
    (thing : α) : Slots α :=
  (name, thing) :: slots.drop name

end Slots

end LedgerView
