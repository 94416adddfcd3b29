import LedgerView.Nav.State
import LedgerView.Text.Case

/-
  Typed commands.

  A command is one word and perhaps an argument after a space.
  Case does not count in the word.  What cannot be read is kept
  as it was typed, without the blanks around it.

  Key definitions include:
    * `ExportFormat`
    * `PromptCommand`
    * `PromptCommand.parse`
-/

namespace LedgerView

/- The forms in which a page can be saved. -/
inductive ExportFormat where
  | csv
  | json
deriving Repr, DecidableEq, Inhabited

/- What a user types. -/
inductive PromptCommand where
  | page (number : Nat)
  | size (rows : Nat)
  | live
  | table (name : String)
  | account (text : String)
  | token (text : String)
  | clear
  | save (format : ExportFormat)
  | link
  | help
  | quit
  | unknown (text : String)
deriving Repr, DecidableEq, Inhabited

namespace PromptCommand

/- The word of a command, and its argument if it has one. -/
def split
    (text : List Char) : String × Option String :=
  let (word, rest) := Text.splitFirst (· == ' ') text
  let argument :=
    (rest.map Text.trimChars).filter (!·.isEmpty)
  (Text.lowercase (String.ofList word),
    argument.map String.ofList)

/- The format that a word names. -/
def format?
    (text : String) : Option ExportFormat :=
  match Text.lowercase text with
  | "csv" => some .csv
  | "json" => some .json
  | _ => none

/- A number of rows. -/
def size?
    (text : String) : Option Nat :=
  (Text.natural? (2 ^ 64) text.toList).filter (0 < ·)

/- The command of a word with its argument. -/
def ofWord?
    (word : String)
    (argument : Option String) : Option PromptCommand :=
  match word with
  | "page" | "p" => do
      return page (← (parsePage (← argument)).toOption)
  | "size" | "pagesize" => do return size (← size? (← argument))
  | "live" => some live
  | "table" | "t" => argument.map table
  | "account" | "acct" => argument.map account
  | "token" => argument.map token
  | "clear" => some clear
  | "export" =>
      match argument with
      | none => some (save .csv)
      | some text => (format? text).map save
  | "link" => some link
  | "help" | "h" => some help
  | "q" | "quit" | "exit" => some quit
  | _ => none

/- Read a command, without the colon that begins it. -/
def parse
    (text : String) : PromptCommand :=
  let text := Text.trimChars text.toList
  let (word, argument) := split text
  (ofWord? word argument).getD (unknown (String.ofList text))

end PromptCommand

end LedgerView
