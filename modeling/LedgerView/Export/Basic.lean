import LedgerView.Config.Place
import LedgerView.Export.Csv
import LedgerView.Json.Layout
import LedgerView.Session.Snapshot
import LedgerView.Viewer.Notice
import LedgerView.Viewer.Prompt

/-
  Saving the visible page.

  A page is saved as records under the headings of its columns,
  or as an object that also tells where the page is from.  The
  name of the file tells the table and the time.

  Key definitions include:
    * `ExportFile`
    * `ExportTarget`
    * `Exported`
    * `Snapshot.save`
-/

namespace LedgerView

------------------------------------------------------------
-- Contents
------------------------------------------------------------

/- The last of the pairs of each name. -/
def lastOfEach :
    List (String × String) → List (String × String)
  | [] => []
  | pair :: rest =>
      if rest.any (·.1 == pair.1) then lastOfEach rest
      else pair :: lastOfEach rest

namespace Snapshot

/- A row as an object inside two containers. -/
def rowText
    (p : Snapshot)
    (row : List String) : String :=
  let fields := lastOfEach (p.columns.zip row)
  Json.Layout.object 2
    ((fields.mergeSort fun a b => a.1 ≤ b.1).map
      fun (name, cell) => (name, Json.Layout.string cell))

/- The page as an object. -/
def text
    (p : Snapshot) : String :=
  Json.Layout.object 0
    [ ("table", Json.Layout.string p.table.name)
    , ("page", toString p.page)
    , ("page_size", toString p.pageSize)
    , ("link", Json.Layout.string p.link)
    , ("rows", Json.Layout.array 1 (p.rows.map p.rowText)) ]

end Snapshot

------------------------------------------------------------
-- Files
------------------------------------------------------------

/- A file to be written. -/
structure ExportFile where
  path : String
  name : String
  content : String
deriving Repr, DecidableEq

/- Where a file can go, and the time for its name. -/
structure ExportTarget where
  /- The folder, or why there is none. -/
  folder : Except String String
  stamp : String

/- How saving ended. -/
inductive Exported where
  | noRows
  | noFolder (reason : String)
  | saved (file : ExportFile) (rows : Nat)
  | broken (file : ExportFile) (reason : String)

namespace Exported

/- What users are told. -/
def notice : Exported → Notice
  | noRows => ⟨"No rows to export", .warn⟩
  | noFolder reason =>
      ⟨"Failed to create export directory: " ++ reason, .error⟩
  | saved file rows =>
      ⟨"Exported " ++ toString rows ++ " rows to " ++ file.path,
        .info⟩
  | broken _ reason => ⟨"Export failed: " ++ reason, .error⟩

/- The file to be written. -/
def file? : Exported → Option ExportFile
  | saved file _ => some file
  | broken file _ => some file
  | noRows | noFolder _ => none

end Exported

/- The ending of file names. -/
def ExportFormat.suffix : ExportFormat → String
  | .csv => "csv"
  | .json => "json"

namespace Snapshot

/- What a file of the page holds, and what went wrong. -/
def content
    (p : Snapshot)
    (format : ExportFormat) : String × Option String :=
  match format with
  | .csv =>
      let (text, fault) := Csv.write p.columns p.rows
      (text, fault.map Csv.LengthFault.message)
  | .json => (p.text, none)

/- Save the page. -/
def save
    (p : Snapshot)
    (format : ExportFormat)
    (target : ExportTarget) : Exported :=
  if p.rows.isEmpty then
    .noRows
  else
    match target.folder with
    | .error reason => .noFolder reason
    | .ok folder =>
        let name :=
          p.table.name ++ "-" ++ target.stamp ++ "." ++
            format.suffix
        let (content, fault) := p.content format
        let file : ExportFile :=
          ⟨joinPath folder name, name, content⟩
        match fault with
        | none => .saved file p.rows.length
        | some reason => .broken file reason

end Snapshot

end LedgerView
