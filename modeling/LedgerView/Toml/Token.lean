import LedgerView.Text.Decimal
import LedgerView.Text.Hex

/-
  Tokens of a TOML document.

  Comments and blanks fall away.  A text stands between double
  quotes, where backslashes escape, or between single quotes,
  where they do not.  Three quotes begin a text of several
  lines: a line end right after them is dropped, line ends are
  read as line feeds, and up to two quotes may touch the closing
  ones.  Anything else up to the next mark is a word.

  Key definitions include:
    * `Toml.Token`
    * `Toml.Form`
    * `Toml.Scan`
    * `Toml.Scan.step?`
    * `Toml.tokens?`
-/

namespace LedgerView

namespace Toml

------------------------------------------------------------
-- Tokens
------------------------------------------------------------

/- The pieces of a document. -/
inductive Token where
  | word (text : String)
  | equals
  | lineEnd
  /- A text on one line, which may also be a key. -/
  | text (content : String)
  /- A text that may have several lines. -/
  | block (content : String)
deriving Repr, DecidableEq

------------------------------------------------------------
-- State of a Scan
------------------------------------------------------------

/- How a text is written. -/
structure Form where
  quote : Char
  isBlock : Bool

namespace Form

/- Whether backslashes escape. -/
def escapes
    (f : Form) : Bool :=
  f.quote == '"'

/- The token of a text, whose characters are given backwards. -/
def token
    (f : Form)
    (seen : List Char) : Token :=
  let content := String.ofList seen.reverse
  if f.isBlock then .block content else .text content

end Form

/-
  Where the scan stands.  Collected characters are kept
  backwards.
-/
inductive Scan where
  | between
  | comment
  /- After a carriage return outside of texts. -/
  | lineBreak
  | word (seen : List Char)
  /- After the first one or two quotes of a text. -/
  | opened (quote : Char) (second : Bool)
  /- After three quotes, perhaps with a carriage return. -/
  | blockOpened (form : Form) (broken : Bool)
  | text (form : Form) (seen : List Char)
  /- After some quotes within a text of several lines. -/
  | quotes (form : Form) (seen : List Char) (count : Nat)
  /- After a carriage return within a text. -/
  | textBreak (form : Form) (seen : List Char)
  | escape (form : Form) (seen : List Char)
  /- Within a code, of which `left + 1` digits are to come. -/
  | code (form : Form) (seen : List Char) (left value : Nat)
  /- After an escaped line end, or on the way to one. -/
  | margin (form : Form) (seen : List Char) (ended : Bool)
  /- After a carriage return on that way. -/
  | marginBreak (form : Form) (seen : List Char)

namespace Scan

------------------------------------------------------------
-- Outside of Texts
------------------------------------------------------------

/- Whether a character may stand in texts and comments. -/
def isPlain
    (c : Char) : Bool :=
  c == '\t' || (' ' ≤ c && c != '\x7f')

/- Start the token that a character begins, or skip a blank. -/
def start
    (c : Char) : List Token × Scan :=
  match c with
  | ' ' | '\t' => ([], between)
  | '\n' => ([.lineEnd], between)
  | '\r' => ([], lineBreak)
  | '#' => ([], comment)
  | '=' => ([.equals], between)
  | '"' | '\'' => ([], opened c false)
  | _ => ([], word [c])

/- Whether a character ends a word. -/
def endsWord
    (c : Char) : Bool :=
  [' ', '\t', '\n', '\r', '#', '=', '"', '\''].contains c

/- The token of a word, whose characters are given backwards. -/
def wordToken
    (seen : List Char) : Token :=
  .word (String.ofList seen.reverse)

/- Put a token before what a character starts. -/
def thenStart
    (token : Token)
    (c : Char) : List Token × Scan :=
  let (tokens, next) := start c
  (token :: tokens, next)

------------------------------------------------------------
-- Inside of Texts
------------------------------------------------------------

/- The character of an escape by letter. -/
def escaped?
    (c : Char) : Option Char :=
  match c with
  | '"' => some '"'
  | '\\' => some '\\'
  | 'b' => some '\x08'
  | 'f' => some '\x0c'
  | 'n' => some '\n'
  | 'r' => some '\r'
  | 't' => some '\t'
  | _ => none

/- The character of a code. -/
def codePoint?
    (n : Nat) : Option Char :=
  if n.isValidChar then some (Char.ofNat n) else none

/- Read a character of a text. -/
def inText?
    (f : Form)
    (seen : List Char)
    (c : Char) : Option (List Token × Scan) :=
  if c == f.quote then
    if f.isBlock then some ([], quotes f seen 1)
    else some ([f.token seen], between)
  else if c == '\\' && f.escapes then
    some ([], escape f seen)
  else if c == '\n' && f.isBlock then
    some ([], text f ('\n' :: seen))
  else if c == '\r' && f.isBlock then
    some ([], textBreak f seen)
  else if isPlain c then
    some ([], text f (c :: seen))
  else
    none

/- Put quotes at the end of what was collected. -/
def withQuotes
    (f : Form)
    (seen : List Char)
    (count : Nat) : List Char :=
  List.replicate count f.quote ++ seen

/- Read a character after some quotes in a row. -/
def afterQuotes?
    (f : Form)
    (seen : List Char)
    (count : Nat)
    (c : Char) : Option (List Token × Scan) :=
  if c == f.quote then
    if count = 4 then
      some ([f.token (withQuotes f seen 2)], between)
    else
      some ([], quotes f seen (count + 1))
  else if 3 ≤ count then
    some (thenStart (f.token (withQuotes f seen (count - 3))) c)
  else
    inText? f (withQuotes f seen count) c

/- Read a character after a backslash. -/
def afterBackslash?
    (f : Form)
    (seen : List Char)
    (c : Char) : Option (List Token × Scan) :=
  match escaped? c with
  | some e => some ([], text f (e :: seen))
  | none =>
      match c, f.isBlock with
      | 'u', _ => some ([], code f seen 3 0)
      | 'U', _ => some ([], code f seen 7 0)
      | ' ', true | '\t', true => some ([], margin f seen false)
      | '\n', true => some ([], margin f seen true)
      | '\r', true => some ([], marginBreak f seen)
      | _, _ => none

/- Read a digit of a code. -/
def inCode?
    (f : Form)
    (seen : List Char)
    (left value : Nat)
    (c : Char) : Option (List Token × Scan) := do
  let value := value * 16 + (← Text.hexValue? c)
  match left with
  | 0 => return ([], text f ((← codePoint? value) :: seen))
  | left + 1 => return ([], code f seen left value)

/- Read a character around an escaped line end. -/
def inMargin?
    (f : Form)
    (seen : List Char)
    (ended : Bool)
    (c : Char) : Option (List Token × Scan) :=
  match c with
  | ' ' | '\t' => some ([], margin f seen ended)
  | '\n' => some ([], margin f seen true)
  | '\r' => some ([], marginBreak f seen)
  | _ => if ended then inText? f seen c else none

------------------------------------------------------------
-- Steps
------------------------------------------------------------

/- A line feed has to come. -/
def onLineFeed?
    (c : Char)
    (next : List Token × Scan) : Option (List Token × Scan) :=
  if c == '\n' then some next else none

/- Read one character. -/
def step?
    (scan : Scan)
    (c : Char) : Option (List Token × Scan) :=
  match scan with
  | between => some (start c)
  | comment =>
      if c == '\n' || c == '\r' then some (start c)
      else if isPlain c then some ([], comment)
      else none
  | lineBreak => onLineFeed? c ([.lineEnd], between)
  | word seen =>
      if endsWord c then some (thenStart (wordToken seen) c)
      else some ([], word (c :: seen))
  | opened quote false =>
      if c == quote then some ([], opened quote true)
      else inText? ⟨quote, false⟩ [] c
  | opened quote true =>
      if c == quote then
        some ([], blockOpened ⟨quote, true⟩ false)
      else
        some (thenStart (.text "") c)
  | blockOpened f false =>
      if c == '\n' then some ([], text f [])
      else if c == '\r' then some ([], blockOpened f true)
      else inText? f [] c
  | blockOpened f true => onLineFeed? c ([], text f [])
  | text f seen => inText? f seen c
  | quotes f seen count => afterQuotes? f seen count c
  | textBreak f seen => onLineFeed? c ([], text f ('\n' :: seen))
  | escape f seen => afterBackslash? f seen c
  | code f seen left value => inCode? f seen left value c
  | margin f seen ended => inMargin? f seen ended c
  | marginBreak f seen => onLineFeed? c ([], margin f seen true)

/- The last token, once the document has ended. -/
def finish? : Scan → Option (List Token)
  | between | comment => some []
  | word seen => some [wordToken seen]
  | opened _ true => some [.text ""]
  | quotes f seen count =>
      if 3 ≤ count then
        some [f.token (withQuotes f seen (count - 3))]
      else
        none
  | _ => none

end Scan

------------------------------------------------------------
-- Tokens of a Document
------------------------------------------------------------

/- The tokens from a state of the scan on, put after `acc`. -/
def tokensFrom?
    (scan : Scan)
    (acc : List Token) :
    List Char → Option (List Token)
  | [] => scan.finish?.map fun last => acc.reverse ++ last
  | c :: rest =>
      match scan.step? c with
      | some (tokens, next) =>
          tokensFrom? next (tokens.reverse ++ acc) rest
      | none => none

/- The tokens of a document; a mark of byte order is skipped. -/
def tokens?
    (s : String) : Option (List Token) :=
  match s.toList with
  | '\ufeff' :: rest => tokensFrom? .between [] rest
  | all => tokensFrom? .between [] all

end Toml

end LedgerView
