/-
  JSON values.

  Of numbers only those without fraction and exponent that fit
  64 bits keep their value: nothing in this library reads any
  other.  The names of an object are distinct.

  Key definitions include:
    * `Json`
    * `Json.lookup?`
-/

namespace LedgerView

/- A JSON value. -/
inductive Json where
  | null
  | bool (value : Bool)
  | integer (value : Int)
  | real
  | string (text : String)
  | array (items : List Json)
  | object (fields : List (String × Json))
deriving Repr, Inhabited

namespace Json

/- The value under a name. -/
def lookup?
    (fields : List (String × Json))
    (name : String) : Option Json :=
  (fields.find? (·.1 == name)).map (·.2)

/- Put a value under a name, replacing an earlier one. -/
def insertField
    (fields : List (String × Json))
    (name : String)
    (value : Json) : List (String × Json) :=
  fields.filter (·.1 != name) ++ [(name, value)]

end Json

end LedgerView
