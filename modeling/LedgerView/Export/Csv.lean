/-
  Comma-separated values.

  A field stands between quotes when it holds a comma, a quote
  or a line end; quotes inside are doubled.  An empty line would
  be no record, so two quotes stand for one.  All records have
  as many fields as the first.  At a record of another length
  writing stops: its fields are there, but neither its line end
  nor the quote that would close its last field.

  Key definitions include:
    * `Csv.field`
    * `Csv.line`
    * `Csv.LengthFault`
    * `Csv.write`
-/

namespace LedgerView.Csv

------------------------------------------------------------
-- Records
------------------------------------------------------------

/- Whether a field has to stand between quotes. -/
def needsQuotes
    (text : List Char) : Bool :=
  text.any fun c => [',', '"', '\n', '\r'].contains c

/- A field whose closing quote has not been written. -/
def openField
    (text : List Char) : List Char :=
  let double := fun c => if c == '"' then ['"', c] else [c]
  if needsQuotes text then '"' :: text.flatMap double else text

/- A field. -/
def field
    (text : List Char) : List Char :=
  openField text ++ if needsQuotes text then ['"'] else []

/- The fields of a record, the last one by a function. -/
def fieldsWith
    (last : List Char → List Char) :
    List (List Char) → List Char
  | [] => []
  | [text] => last text
  | text :: rest => field text ++ ',' :: fieldsWith last rest

/- A record with its line end. -/
def line
    (record : List (List Char)) : List Char :=
  match fieldsWith field record with
  | [] => ['"', '"', '\n']
  | text => text ++ ['\n']

------------------------------------------------------------
-- Tables
------------------------------------------------------------

/- A record whose length differs from the first one's. -/
structure LengthFault where
  found : Nat
  expected : Nat
deriving Repr, DecidableEq

/- The wording shown to users. -/
def LengthFault.message
    (e : LengthFault) : String :=
  "CSV error: found record with " ++ toString e.found ++
    " fields, but the previous record has " ++
    toString e.expected ++ " fields"

/- Records of one length; what is written, and the fault. -/
def writeRecords
    (length : Nat) :
    List (List (List Char)) → List Char × Option LengthFault
  | [] => ([], none)
  | record :: rest =>
      if record.length = length then
        let (text, fault) := writeRecords length rest
        (line record ++ text, fault)
      else
        (fieldsWith openField record,
          some ⟨record.length, length⟩)

/- Headings with the records below them. -/
def write
    (headings : List String)
    (records : List (List String)) :
    String × Option LengthFault :=
  let all := (headings :: records).map (·.map String.toList)
  let (text, fault) := writeRecords headings.length all
  (String.ofList text, fault)

end LedgerView.Csv
