import LedgerView.Text.Decimal
import LedgerView.Text.Hex

/-
  JSON text laid out for reading.

  Each item of an array or object stands on a line of its own,
  two spaces further to the right than its container.  An empty
  container is written without a line end.

  Key definitions include:
    * `Json.Layout.string`
    * `Json.Layout.array`
    * `Json.Layout.object`
-/

namespace LedgerView.Json.Layout

/- The escape of a character, or the character itself. -/
def escape
    (c : Char) : List Char :=
  match c with
  | '"' => ['\\', '"']
  | '\\' => ['\\', '\\']
  | '\x08' => ['\\', 'b']
  | '\x0c' => ['\\', 'f']
  | '\n' => ['\\', 'n']
  | '\r' => ['\\', 'r']
  | '\t' => ['\\', 't']
  | _ =>
      if c < ' ' then
        ['\\', 'u'] ++ Text.padLeft 4 (Text.hexDigits c.toNat)
      else
        [c]

/- A string. -/
def string
    (text : String) : String :=
  String.ofList (['"'] ++ text.toList.flatMap escape ++ ['"'])

/- The blanks in front of an item inside so many containers. -/
def indent
    (depth : Nat) : String :=
  String.ofList (List.replicate (2 * depth) ' ')

/- A container between two marks, inside so many others. -/
def container
    (opening closing : String)
    (depth : Nat)
    (items : List String) : String :=
  if items.isEmpty then
    opening ++ closing
  else
    let lines := items.map (indent (depth + 1) ++ ·)
    opening ++ "\n" ++ ",\n".intercalate lines ++ "\n" ++
      indent depth ++ closing

/- An array of written items. -/
def array
    (depth : Nat)
    (items : List String) : String :=
  container "[" "]" depth items

/- An object of names with written values. -/
def object
    (depth : Nat)
    (fields : List (String × String)) : String :=
  container "\x7b" "\x7d" depth
    (fields.map fun (name, value) => string name ++ ": " ++ value)

end LedgerView.Json.Layout
