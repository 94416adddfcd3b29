import LedgerView.Text.Blank
import LedgerView.Url.Percent

/-
  Pairs in the form of a query.

  Pairs are separated by ampersands, and name and value by the
  first equals sign.  A space is written as a plus sign; letters,
  digits and four marks stand for themselves; any other byte is
  percent-encoded.

  Key definitions include:
    * `Form.encodeText`
    * `Form.encode`
    * `Form.decodeText`
    * `Form.decode`
-/

namespace LedgerView.Form

------------------------------------------------------------
-- Writing
------------------------------------------------------------

/- Whether a character stands for itself. -/
def isPlain
    (c : Char) : Bool :=
  ('a' ≤ c && c ≤ 'z') || ('A' ≤ c && c ≤ 'Z') ||
    ('0' ≤ c && c ≤ '9') ||
    c == '*' || c == '-' || c == '.' || c == '_'

/- A character of a name or a value. -/
def encodeChar
    (c : Char) : List Char :=
  if c == ' ' then ['+']
  else Percent.encodeChar (fun c => !isPlain c) c

/- A name or a value. -/
def encodeText
    (s : List Char) : List Char :=
  s.flatMap encodeChar

/- A pair. -/
def encodePair
    (pair : String × String) : List Char :=
  encodeText pair.1.toList ++ ['='] ++ encodeText pair.2.toList

/- Pairs, in order. -/
def encode
    (pairs : List (String × String)) : List Char :=
  (pairs.map encodePair).intersperse ['&'] |>.flatten

------------------------------------------------------------
-- Reading
------------------------------------------------------------

/- The text of a name or a value. -/
def decodeText
    (s : List Char) : String :=
  let spaced := s.map fun c => if c == '+' then ' ' else c
  String.ofList (Text.utf8Decode (Percent.decode spaced))

/- A pair; without an equals sign the value is empty. -/
def decodePair
    (s : List Char) : String × String :=
  let (name, value) := Text.splitFirst (· == '=') s
  (decodeText name, decodeText (value.getD []))

/- The pairs, in order; empty places between marks do not count. -/
def decode
    (s : List Char) : List (String × String) :=
  ((Text.splitAll (· == '&') s).filter (!·.isEmpty)).map decodePair

end LedgerView.Form
