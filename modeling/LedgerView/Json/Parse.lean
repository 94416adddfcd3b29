import LedgerView.Json.Token

/-
  Reading a JSON text.

  The tokens are taken one by one; the open arrays and objects
  form a stack.  A text holds one value with nothing after it,
  no comma stands before a closing bracket, and at most 127
  arrays and objects are open at a time.  Of fields with one
  name the last is kept.

  Key definitions include:
    * `Json.Open`
    * `Json.Expect`
    * `Json.Reader.step?`
    * `Json.parse?`
-/

namespace LedgerView

namespace Json

------------------------------------------------------------
-- State of a Reader
------------------------------------------------------------

/- An array or object whose end has not been seen. -/
inductive Open where
  | array (items : List Json)
  | object (fields : List (String × Json)) (name : String)

/- What may come next. -/
inductive Expect where
  | value
  | itemOrClose
  | nameOrClose
  | name
  | colon
  | commaOrClose
  | nothing

/- The open containers, innermost first, and what may follow. -/
structure Reader where
  stack : List Open
  expect : Expect
  result : Json

namespace Reader

/- Nothing has been read. -/
def initial : Reader :=
  ⟨[], .value, .null⟩

/- The most containers that may be open at a time. -/
def maxDepth : Nat := 127

/- Put a finished value where it belongs. -/
def give
    (r : Reader)
    (value : Json) : Reader :=
  match r.stack with
  | [] => { r with expect := .nothing, result := value }
  | .array items :: rest =>
      { r with
        stack := .array (value :: items) :: rest
        expect := .commaOrClose }
  | .object fields name :: rest =>
      { r with
        stack := .object (insertField fields name value) name :: rest
        expect := .commaOrClose }

/- Open a container, if there is room for one more. -/
def push?
    (r : Reader)
    (container : Open)
    (expect : Expect) : Option Reader :=
  if r.stack.length < maxDepth then
    some { r with stack := container :: r.stack, expect := expect }
  else
    none

/- Close the innermost container with an array's bracket. -/
def closeArray?
    (r : Reader) : Option Reader :=
  match r.stack with
  | .array items :: rest =>
      some ({ r with stack := rest }.give (.array items.reverse))
  | _ => none

/- Close the innermost container with an object's bracket. -/
def closeObject?
    (r : Reader) : Option Reader :=
  match r.stack with
  | .object fields _ :: rest =>
      some ({ r with stack := rest }.give (.object fields))
  | _ => none

/- Begin a value. -/
def beginValue?
    (r : Reader)
    (token : Token) : Option Reader :=
  match token with
  | .scalar value => some (r.give value)
  | .string text => some (r.give (.string text))
  | .openArray => r.push? (.array []) .itemOrClose
  | .openObject => r.push? (.object [] "") .nameOrClose
  | _ => none

/- Take the name of a field. -/
def beginField?
    (r : Reader)
    (token : Token) : Option Reader :=
  match token, r.stack with
  | .string name, .object fields _ :: rest =>
      some
        { r with
          stack := .object fields name :: rest
          expect := .colon }
  | _, _ => none

/- Take one token. -/
def step?
    (r : Reader)
    (token : Token) : Option Reader :=
  match r.expect, token with
  | .value, _ => r.beginValue? token
  | .itemOrClose, .closeArray => r.closeArray?
  | .itemOrClose, _ => r.beginValue? token
  | .nameOrClose, .closeObject => r.closeObject?
  | .nameOrClose, _ => r.beginField? token
  | .name, _ => r.beginField? token
  | .colon, .colon => some { r with expect := .value }
  | .commaOrClose, .closeArray => r.closeArray?
  | .commaOrClose, .closeObject => r.closeObject?
  | .commaOrClose, .comma =>
      match r.stack with
      | .array _ :: _ => some { r with expect := .value }
      | .object _ _ :: _ => some { r with expect := .name }
      | [] => none
  | _, _ => none

/- The value, when the text ended where it may. -/
def finish?
    (r : Reader) : Option Json :=
  match r.expect with
  | .nothing => some r.result
  | _ => none

end Reader

------------------------------------------------------------
-- Reading
------------------------------------------------------------

/- Read a text that holds one value. -/
def parse?
    (s : String) : Option Json := do
  let tokens ← tokens? s
  let reader ← tokens.foldlM Reader.step? Reader.initial
  reader.finish?

end Json

end LedgerView
