import LedgerView.Text.Blank
import LedgerView.Toml.Token

/-
  Flat TOML documents.

  Each line holds one key with a text or a whole number, or
  nothing.  Tables and other values are not read.  Numbers may
  be hexadecimal, octal or binary, and single underscores may
  stand between digits.  No key stands twice.

  Key definitions include:
    * `Toml.Value`
    * `Toml.Document`
    * `Toml.integer?`
    * `Toml.parse?`
-/

namespace LedgerView

namespace Toml

------------------------------------------------------------
-- Numbers
------------------------------------------------------------

/- The value of a digit in a radix. -/
def digit?
    (radix : Nat)
    (c : Char) : Option Nat :=
  (Text.hexValue? c).filter (· < radix)

/- The values of digits that underscores may part. -/
def digits?
    (radix : Nat)
    (s : List Char) : Option (List Nat) :=
  let groups := Text.splitAll (· == '_') s
  if groups.any List.isEmpty then
    none
  else
    groups.flatten.mapM (digit? radix)

/- The number that digits stand for. -/
def ofDigits
    (radix : Nat)
    (digits : List Nat) : Nat :=
  digits.foldl (fun n d => n * radix + d) 0

/- Decimal digits; none is a zero in front. -/
def decimal?
    (s : List Char) : Option Nat :=
  match digits? 10 s with
  | some (0 :: _ :: _) => none
  | other => other.map (ofDigits 10)

/- A number in one of the other radixes. -/
def radixNumber?
    (radix : Nat)
    (s : List Char) : Option Nat :=
  (digits? radix s).map (ofDigits radix)

/- A whole number of any size. -/
def wholeNumber? : List Char → Option Int
  | '0' :: 'x' :: rest => (radixNumber? 16 rest).map Int.ofNat
  | '0' :: 'o' :: rest => (radixNumber? 8 rest).map Int.ofNat
  | '0' :: 'b' :: rest => (radixNumber? 2 rest).map Int.ofNat
  | '+' :: rest => (decimal? rest).map Int.ofNat
  | '-' :: rest => (decimal? rest).map fun n => -(Int.ofNat n)
  | s => (decimal? s).map Int.ofNat

/- A whole number that fits 64 bits with a sign. -/
def integer?
    (s : String) : Option Int :=
  (wholeNumber? s.toList).filter fun n =>
    -(2 ^ 63) ≤ n && n < 2 ^ 63

------------------------------------------------------------
-- Lines
------------------------------------------------------------

/- What a key has. -/
inductive Value where
  | text (content : String)
  | integer (n : Int)
deriving Repr, DecidableEq

/- The keys of a document with what they have. -/
abbrev Document :=
  List (String × Value)

/- Whether a character may stand in a key without quotes. -/
def isKeyChar
    (c : Char) : Bool :=
  c.isAlphanum || c == '_' || c == '-'

/- The key that a token stands for. -/
def key? : Token → Option String
  | .word text => if text.all isKeyChar then some text else none
  | .text content => some content
  | _ => none

/- The value that a token stands for. -/
def value? : Token → Option Value
  | .word text => (integer? text).map .integer
  | .text content => some (.text content)
  | .block content => some (.text content)
  | _ => none

/- The keys of one line: one or none. -/
def line? : List Token → Option Document
  | [] => some []
  | [key, .equals, value] => do
      return [(← key? key, ← value? value)]
  | _ => none

/- Split tokens at the ends of lines. -/
def splitLines : List Token → List (List Token)
  | [] => [[]]
  | .lineEnd :: rest => [] :: splitLines rest
  | token :: rest =>
      match splitLines rest with
      | [] => [[token]]
      | line :: lines => (token :: line) :: lines

------------------------------------------------------------
-- Documents
------------------------------------------------------------

/- Read a document. -/
def parse?
    (s : String) : Option Document := do
  let lines ← (splitLines (← tokens? s)).mapM line?
  let document := lines.flatten
  if (document.map Prod.fst).Nodup then some document else none

end Toml

end LedgerView
