import LedgerView.Export.Basic
import LedgerView.Pager.Window
import LedgerView.Viewer.Prompt
import LedgerView.Workspace.Message

/-
  What the user sees and does.

  The viewer shows the latest page of one table and keeps a
  queue of commands for the workspace.  It tells the workspace
  of every table and filter that the user chooses; a page of
  another table than the chosen one is passed over.

  Key definitions include:
    * `Viewer`
    * `Action`
    * `Reaction`
    * `Viewer.receive`
    * `Viewer.execute`
    * `Viewer.apply`
    * `Viewer.tick`
-/

namespace LedgerView

------------------------------------------------------------
-- State
------------------------------------------------------------

/- A message that is shown, and for how long it has been. -/
structure Status where
  notice : Notice
  /- In milliseconds. -/
  age : Nat := 0
deriving Repr, DecidableEq

/- What the user sees. -/
structure Viewer where
  table : TableKind
  /- The latest page of the table. -/
  page : Option Snapshot := none
  filter : Filter := {}
  /- The name of where the rows come from. -/
  sourceLabel : String := "demo"
  selected : Nat := 0
  /- The command that is being typed, if one is. -/
  typed : Option (List Char) := none
  helpOpen : Bool := false
  quit : Bool := false
  status : Option Status := none
  /- Commands for the workspace that have not been sent. -/
  outbox : List Command := []
deriving Repr, DecidableEq

/- What is to be done about an input. -/
inductive Action where
  | nothing
  | send (command : Command)
  | copy (text : String)
  | notify (notice : Notice)
  | toggleHelp
  | quit
deriving Repr, DecidableEq

/- What an input led to. -/
structure Reaction where
  viewer : Viewer
  action : Action := .nothing
  /- A file to be written. -/
  file : Option ExportFile := none

/- A warning. -/
def Action.warn
    (text : String) : Action :=
  .notify ⟨text, .warn⟩

namespace Viewer

------------------------------------------------------------
-- Messages
------------------------------------------------------------

/- Show a message. -/
def setStatus
    (v : Viewer)
    (notice : Notice) : Viewer :=
  { v with status := some { notice := notice } }

/- How long a message is shown, in milliseconds. -/
def statusLifetime : Nat := 4000

/- Let some time pass; an old message goes. -/
def tick
    (elapsed : Nat)
    (v : Viewer) : Viewer :=
  let older := fun (s : Status) => { s with age := s.age + elapsed }
  { v with
    status :=
      (v.status.map older).filter (·.age ≤ statusLifetime) }

/- Queue a command for the workspace. -/
def request
    (v : Viewer)
    (command : Command) : Viewer :=
  { v with outbox := v.outbox ++ [command] }

/- Take the queued commands. -/
def takeOutbox
    (v : Viewer) : Viewer × List Command :=
  ({ v with outbox := [] }, v.outbox)

/- Take note of what the workspace tells. -/
def receive
    (v : Viewer) : Event → Viewer
  | .page page =>
      if page.table = v.table then
        { v with
          filter := v.filter.adopt page.filter page.table
          selected := min v.selected (page.rows.length - 1)
          page := some page }
      else
        v
  | .notice text => v.setStatus ⟨text, .info⟩
  | .fault text => v.setStatus ⟨text, .error⟩

------------------------------------------------------------
-- Views
------------------------------------------------------------

/- How the table is shown. -/
def mode
    (v : Viewer) : PagerMode :=
  match v.page with
  | some page => page.mode
  | none => .unmounted

/- The link of the page. -/
def link?
    (v : Viewer) : Option String :=
  v.page.map (·.link)

/- The key of the selected row. -/
def selectedKey?
    (v : Viewer) : Option String :=
  v.page.bind fun page => page.keys[v.selected]?

------------------------------------------------------------
-- Choices
------------------------------------------------------------

/- Show another table. -/
def switchTable
    (v : Viewer)
    (table : TableKind) : Viewer :=
  if table = v.table then
    v
  else
    { v with table := table, page := none, selected := 0 }.request
      (.switchTable table)

/- Show the next table. -/
def nextTable
    (v : Viewer) : Viewer :=
  v.switchTable v.table.next

/- Ask for more or fewer rows on a page, but at least one. -/
def resize
    (v : Viewer)
    (delta : Int) : Viewer :=
  match v.page with
  | none => v
  | some page =>
      let size := max (saturate (page.pageSize + delta).toNat) 1
      if size = page.pageSize then v
      else v.request (.setPageSize size)

/- Select the row below. -/
def selectNext
    (v : Viewer) : Viewer :=
  let rows := ((v.page).map (·.rows.length)).getD 0
  if v.selected + 1 < rows then
    { v with selected := v.selected + 1 }
  else
    v

/- Select the row above. -/
def selectPrevious
    (v : Viewer) : Viewer :=
  { v with selected := v.selected - 1 }

/- Choose a filter. -/
def chooseFilter
    (v : Viewer)
    (filter : Filter) : Reaction :=
  if filter = v.filter then
    { viewer := v }
  else
    { viewer := { v with filter := filter }
      action := .send (.setFilter filter) }

/- Choose a filter with an entity id that was typed. -/
def chooseEntity
    (v : Viewer)
    (text : String)
    (change : EntityId → Filter) : Reaction :=
  match EntityId.parse text with
  | .ok id => v.chooseFilter (change id)
  | .error e => { viewer := v, action := .warn e.message }

/- Choose a table by a name that was typed. -/
def chooseTable
    (v : Viewer)
    (name : String) : Reaction :=
  match TableKind.parse name with
  | .ok table => { viewer := v.switchTable table }
  | .error e => { viewer := v, action := .warn e.message }

/- Save the page. -/
def save
    (v : Viewer)
    (target : ExportTarget)
    (format : ExportFormat) : Reaction :=
  match v.page with
  | none =>
      { viewer := v, action := .warn "Nothing to export yet" }
  | some page =>
      let exported := page.save format target
      { viewer := v
        action := .notify exported.notice
        file := exported.file? }

/- Copy a text, if there is one. -/
def copy
    (v : Viewer)
    (text : Option String)
    (otherwise : String) : Reaction :=
  match text with
  | some text => { viewer := v, action := .copy text }
  | none => { viewer := v, action := .warn otherwise }

------------------------------------------------------------
-- Commands
------------------------------------------------------------

/- Carry out a typed command. -/
def perform
    (v : Viewer)
    (target : ExportTarget) : PromptCommand → Reaction
  | .page number =>
      { viewer := v, action := .send (.gotoPage number) }
  | .size rows =>
      { viewer := v, action := .send (.setPageSize rows) }
  | .live => { viewer := v, action := .send .live }
  | .table name => v.chooseTable name
  | .account text =>
      v.chooseEntity text fun id =>
        { v.filter with account := some id }
  | .token text =>
      v.chooseEntity text fun id =>
        { v.filter with token := some id }
  | .clear => v.chooseFilter {}
  | .save format => v.save target format
  | .link => v.copy v.link? "No link yet"
  | .help => { viewer := v, action := .toggleHelp }
  | .quit => { viewer := v, action := .quit }
  | .unknown text =>
      { viewer := v, action := .warn ("Unknown command: " ++ text) }

/- Carry out a command as it was typed. -/
def execute
    (v : Viewer)
    (target : ExportTarget)
    (text : String) : Reaction :=
  v.perform target (.parse text)

/- Do what an action says, other than copying. -/
def apply
    (v : Viewer) : Action → Viewer
  | .nothing | .copy _ => v
  | .send command => v.request command
  | .notify notice => v.setStatus notice
  | .toggleHelp => { v with helpOpen := !v.helpOpen }
  | .quit => { v with quit := true }

/- Do what an action says.  There is no clipboard to copy to. -/
def dispatch
    (v : Viewer)
    (action : Action) : Viewer :=
  match action with
  | .copy text =>
      v.setStatus ⟨"Clipboard not available: " ++ text, .warn⟩
  | other => v.apply other

end Viewer

end LedgerView
