import LedgerView.Text.CodePoints
import LedgerView.Text.Hex

/-
  Quoted form of a text, as error messages show it.

  The text stands between double quotes.  Quotes, backslashes
  and the common controls have short escapes.  Marks that would
  attach to the preceding character and characters without a
  visible form are written by their code point.

  Key definitions include:
    * `quoteChar`
    * `quote`
-/

namespace LedgerView.Text

------------------------------------------------------------
-- Quoting
------------------------------------------------------------

/- Whether a character is shown by its code point. -/
def needsCode
    (c : Char) : Bool :=
  memToggled extenders c || memToggled unprintable c

/- The quoted form of one character. -/
def quoteChar
    (c : Char) : List Char :=
  if c == '"' then ['\\', '"']
  else if c == '\\' then ['\\', '\\']
  else if c == '\n' then ['\\', 'n']
  else if c == '\r' then ['\\', 'r']
  else if c == '\t' then ['\\', 't']
  else if c == '\x00' then ['\\', '0']
  else if needsCode c then
    ['\\', 'u', '\x7b'] ++ hexDigits c.toNat ++ ['\x7d']
  else [c]

/- A string between double quotes, with its escapes. -/
def quote
    (s : String) : String :=
  String.ofList (['"'] ++ s.toList.flatMap quoteChar ++ ['"'])

end LedgerView.Text
