import LedgerView.Json.Number
import LedgerView.Text.Hex

/-
  Tokens of a JSON text.

  The text is read one character at a time.  Inside a string,
  control characters are refused; escapes by code take four
  hexadecimal digits, two of them in a row when they form a
  surrogate pair, and a lone surrogate is refused.

  Key definitions include:
    * `Json.Token`
    * `Json.Scan`
    * `Json.Scan.step?`
    * `Json.tokens?`
-/

namespace LedgerView

namespace Json

------------------------------------------------------------
-- Tokens
------------------------------------------------------------

/- The pieces of a JSON text. -/
inductive Token where
  | openArray
  | closeArray
  | openObject
  | closeObject
  | comma
  | colon
  | string (text : String)
  | scalar (value : Json)
deriving Repr, Inhabited

------------------------------------------------------------
-- State of a Scan
------------------------------------------------------------

/-
  Where the scan stands.  Collected characters are kept
  backwards.  While a code is read, `high` is the surrogate
  waiting for its partner.
-/
inductive Scan where
  | between
  | word (seen : List Char)
  | number (seen : List Char)
  | text (seen : List Char)
  | escape (seen : List Char)
  | code (seen : List Char) (high : Option Nat) (digits value : Nat)
  | partner (seen : List Char) (high : Nat)
  | partnerCode (seen : List Char) (high : Nat)

namespace Scan

/- Whether a character may belong to a number. -/
def isNumberChar
    (c : Char) : Bool :=
  Text.isDigit c || c == '+' || c == '-' || c == '.' ||
    c == 'e' || c == 'E'

/- The value that a word stands for. -/
def wordValue? : List Char → Option Json
  | ['n', 'u', 'l', 'l'] => some .null
  | ['t', 'r', 'u', 'e'] => some (.bool true)
  | ['f', 'a', 'l', 's', 'e'] => some (.bool false)
  | _ => none

/- Start the token that a character begins, or skip a blank. -/
def start?
    (c : Char) : Option (List Token × Scan) :=
  match c with
  | ' ' | '\n' | '\t' | '\r' => some ([], between)
  | '[' => some ([.openArray], between)
  | ']' => some ([.closeArray], between)
  | '\x7b' => some ([.openObject], between)
  | '\x7d' => some ([.closeObject], between)
  | ',' => some ([.comma], between)
  | ':' => some ([.colon], between)
  | '"' => some ([], text [])
  | _ =>
      if c == '-' || Text.isDigit c then
        some ([], number [c])
      else if c.isAlpha then
        some ([], word [c])
      else
        none

/- The token of a number or a word that has come to its end. -/
def close?
    (value : Option Json) : Option Token :=
  value.map .scalar

/- The value of a number's characters, given backwards. -/
def numberValue?
    (seen : List Char) : Option Json :=
  (NumberText.parse? seen.reverse).bind ofNumberText?

/- The character of an escape by letter. -/
def escaped?
    (c : Char) : Option Char :=
  match c with
  | '"' => some '"'
  | '\\' => some '\\'
  | '/' => some '/'
  | 'b' => some '\x08'
  | 'f' => some '\x0c'
  | 'n' => some '\n'
  | 'r' => some '\r'
  | 't' => some '\t'
  | _ => none

/- Continue a string after four digits of a code. -/
def afterCode?
    (seen : List Char)
    (high : Option Nat)
    (value : Nat) : Option Scan :=
  let isLow := 0xDC00 ≤ value && value ≤ 0xDFFF
  match high with
  | some h =>
      if isLow then
        let whole :=
          0x10000 + (h - 0xD800) * 0x400 + (value - 0xDC00)
        some (text (Char.ofNat whole :: seen))
      else
        none
  | none =>
      if isLow then none
      else if 0xD800 ≤ value && value ≤ 0xDBFF then
        some (partner seen value)
      else
        some (text (Char.ofNat value :: seen))

/- Read one character. -/
def step?
    (scan : Scan)
    (c : Char) : Option (List Token × Scan) :=
  match scan with
  | between => start? c
  | word seen =>
      if c.isAlpha then
        some ([], word (c :: seen))
      else do
        let token ← close? (wordValue? seen.reverse)
        let (tokens, next) ← start? c
        return (token :: tokens, next)
  | number seen =>
      if isNumberChar c then
        some ([], number (c :: seen))
      else do
        let token ← close? (numberValue? seen)
        let (tokens, next) ← start? c
        return (token :: tokens, next)
  | text seen =>
      if c == '"' then
        some ([.string (String.ofList seen.reverse)], between)
      else if c == '\\' then
        some ([], escape seen)
      else if c.toNat < 0x20 then
        none
      else
        some ([], text (c :: seen))
  | escape seen =>
      if c == 'u' then
        some ([], code seen none 0 0)
      else
        (escaped? c).map fun e => ([], text (e :: seen))
  | code seen high digits value => do
      let d ← Text.hexValue? c
      let value := value * 16 + d
      if digits == 3 then
        return ([], ← afterCode? seen high value)
      else
        return ([], code seen high (digits + 1) value)
  | partner seen high =>
      if c == '\\' then some ([], partnerCode seen high) else none
  | partnerCode seen high =>
      if c == 'u' then
        some ([], code seen (some high) 0 0)
      else
        none

/- The last token, once the text has ended. -/
def finish? : Scan → Option (List Token)
  | between => some []
  | word seen => (close? (wordValue? seen.reverse)).map ([·])
  | number seen => (close? (numberValue? seen)).map ([·])
  | _ => none

end Scan

------------------------------------------------------------
-- Tokens of a Text
------------------------------------------------------------

/- The tokens from a state of the scan on, put after `acc`. -/
def tokensFrom?
    (scan : Scan)
    (acc : List Token) :
    List Char → Option (List Token)
  | [] => scan.finish?.map fun last => acc.reverse ++ last
  | c :: rest =>
      match scan.step? c with
      | some (tokens, next) =>
          tokensFrom? next (tokens.reverse ++ acc) rest
      | none => none

/- The tokens of a text. -/
def tokens?
    (s : String) : Option (List Token) :=
  tokensFrom? .between [] s.toList

end Json

end LedgerView
