import LedgerView.Text.Hex
import LedgerView.Text.Utf8

/-
  Percent encoding.

  A byte is written as a percent sign and two hexadecimal
  capitals.  Which characters are written so depends on where
  they stand; those outside ASCII always are.  On reading, a
  percent sign without two digits stands for itself.

  Key definitions include:
    * `Percent.byte`
    * `Percent.encodeChar`
    * `Percent.encode`
    * `Percent.decode`
    * `Percent.isControl`
    * `Percent.inFragment`
    * `Percent.inPath`
    * `Percent.inUserinfo`
    * `Percent.inQuery`
-/

namespace LedgerView.Percent

------------------------------------------------------------
-- Bytes
------------------------------------------------------------

/- A hexadecimal digit, in capitals. -/
def digit
    (n : Nat) : Char :=
  if n < 10 then Char.ofNat (0x30 + n) else Char.ofNat (0x37 + n)

/- A byte in percent encoding. -/
def byte
    (b : UInt8) : List Char :=
  ['%', digit (b.toNat / 16), digit (b.toNat % 16)]

------------------------------------------------------------
-- Writing
------------------------------------------------------------

/- Encode a character if it is in a set or outside ASCII. -/
def encodeChar
    (inSet : Char → Bool)
    (c : Char) : List Char :=
  if inSet c || c.toNat ≥ 0x80 then
    (Text.utf8Char c).flatMap byte
  else
    [c]

/- Encode every character of a text that is in a set. -/
def encode
    (inSet : Char → Bool)
    (s : List Char) : List Char :=
  s.flatMap (encodeChar inSet)

------------------------------------------------------------
-- Reading
------------------------------------------------------------

/- The bytes that a text stands for. -/
def decode : List Char → List UInt8
  | '%' :: a :: b :: rest =>
      match Text.hexValue? a, Text.hexValue? b with
      | some high, some low =>
          UInt8.ofNat (high * 16 + low) :: decode rest
      | _, _ => Text.utf8Char '%' ++ decode (a :: b :: rest)
  | c :: rest => Text.utf8Char c ++ decode rest
  | [] => []

------------------------------------------------------------
-- Sets
------------------------------------------------------------

/- Controls. -/
def isControl
    (c : Char) : Bool :=
  c.toNat < 0x20 || c.toNat == 0x7F

/- What is encoded in a fragment. -/
def inFragment
    (c : Char) : Bool :=
  isControl c || c == ' ' || c == '"' || c == '<' || c == '>' ||
    c == '\x60'

/- What is encoded in a path. -/
def inPath
    (c : Char) : Bool :=
  inFragment c || c == '#' || c == '?' || c == '\x7b' ||
    c == '\x7d'

/- What is encoded in a user name or a password. -/
def inUserinfo
    (c : Char) : Bool :=
  inPath c || c == '/' || c == ':' || c == ';' || c == '=' ||
    c == '@' || c == '[' || c == '\\' || c == ']' ||
    c == '^' || c == '|'

/-
  What is encoded in a query; in the query of a common scheme
  also the apostrophe.
-/
def inQuery
    (special : Bool)
    (c : Char) : Bool :=
  isControl c || c == ' ' || c == '"' || c == '#' || c == '<' ||
    c == '>' || (special && c == '\'')

end LedgerView.Percent
