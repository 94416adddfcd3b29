import LedgerView.Session.Basic
import LedgerView.Table.PerTable
import LedgerView.Workspace.Message

/-
  The tables that are in use.

  A workspace keeps a session for every table that was opened,
  one of which is active and mounted.  A table that is left is
  unmounted, and when it is shown again it resumes where it was
  left.  The filter is common to all tables.

  Key definitions include:
    * `Workspace`
    * `Workspace.openAt`
    * `Workspace.handle`
    * `Workspace.settle`
    * `Workspace.runBackground`
    * `Workspace.advance`
    * `Workspace.close`
-/

namespace LedgerView

/- The tables that are in use. -/
structure Workspace where
  backend : Backend
  /- How tables that are yet to be opened page and refresh. -/
  config : PagerConfig
  filter : Filter
  sessions : PerTable (Option Session)
  active : TableKind

namespace Workspace

------------------------------------------------------------
-- Sessions
------------------------------------------------------------

/- A session as it is when a table is shown first. -/
def freshSession
    (w : Workspace)
    (kind : TableKind) : Session :=
  .new w.backend kind w.config
    ((w.filter.restrictTo kind).write .empty)

/- The session of a table; opened, if it has not been yet. -/
def session
    (w : Workspace)
    (kind : TableKind) : Session :=
  (w.sessions.get kind).getD (w.freshSession kind)

/- The session of the active table. -/
def current
    (w : Workspace) : Session :=
  w.session w.active

/- Put a session at its table. -/
def setSession
    (w : Workspace)
    (kind : TableKind)
    (s : Session) : Workspace :=
  { w with sessions := w.sessions.set kind (some s) }

/- Put a session at the active table. -/
def setCurrent
    (w : Workspace)
    (s : Session) : Workspace :=
  w.setSession w.active s

/- Change every session there is. -/
def mapSessions
    (w : Workspace)
    (f : Session → Session) : Workspace :=
  { w with sessions := w.sessions.map (Option.map f) }

/- What is shown. -/
def snapshot
    (w : Workspace) : Snapshot :=
  w.current.snapshot

------------------------------------------------------------
-- Telling
------------------------------------------------------------

/- A fault of navigation or of a source, as events tell it. -/
def loadFault
    (e : PagerError) : Event :=
  .fault ("Load failed: " ++ e.message)

/- What is told of the end of an operation. -/
def report : Ended → List Event
  | .ok _ => []
  | .error e => [loadFault e]

/- Change the active session by an operation, and report it. -/
def perform
    (w : Workspace)
    (operation : Session → Session × Ended) :
    Workspace × List Event :=
  let (s, ended) := operation w.current
  (w.setCurrent s, report ended)

------------------------------------------------------------
-- Opening
------------------------------------------------------------

/- Mount the active table. -/
def mount
    (now : Nat)
    (w : Workspace) : Workspace × List Event :=
  w.perform (Session.mount w.backend now)

/- What of a recorded filter counts, beside the present one. -/
def recordedFilter
    (present recorded : Filter) : Filter :=
  { account := recorded.account <|> present.account
    token := recorded.token <|> present.token }

/-
  A workspace whose active table is opened where parameters say,
  with the filter that they carry.
-/
def openAt
    (backend : Backend)
    (config : PagerConfig)
    (kind : TableKind)
    (nav : Params)
    (now : Nat) : Workspace × List Event :=
  let w : Workspace :=
    { backend := backend
      config := config
      filter := recordedFilter {} (.read nav)
      sessions := .all none
      active := kind }
  (w.setCurrent (.new backend kind config nav)).mount now

------------------------------------------------------------
-- Commands
------------------------------------------------------------

/- Leave the active table for another one. -/
def switchTo
    (now : Nat)
    (kind : TableKind)
    (w : Workspace) : Workspace × List Event :=
  if kind = w.active then
    (w, [])
  else
    let w := w.setCurrent w.current.unmount
    { w with active := kind }.mount now

/- Begin to go to a page. -/
def goto
    (page : Nat)
    (w : Workspace) : Workspace × List Event :=
  match w.current.goto page with
  | (s, .ok ()) => (w.setCurrent s, [])
  | (s, .error e) => (w.setCurrent s, [.fault e.message])

/- What is told at either end of a table. -/
def endNotice
    (forward : Bool) : Event :=
  .notice
    (if forward then "Already on the last page"
    else "Already on the first page")

/- Begin to go one page on or back. -/
def step
    (forward : Bool)
    (w : Workspace) : Workspace × List Event :=
  match w.current.step forward with
  | (s, .ok (some _)) => (w.setCurrent s, [])
  | (s, .ok none) => (w.setCurrent s, [endNotice forward])
  | (s, .error e) => (w.setCurrent s, [.fault e.message])

/- What is told of pausing. -/
def pauseNotice : Option Bool → Event
  | some true => .notice "Auto refresh paused"
  | some false => .notice "Auto refresh resumed"
  | none => .notice "Auto refresh runs in the live view only"

/- Pause or resume the live view. -/
def togglePause
    (now : Nat)
    (w : Workspace) : Workspace × List Event :=
  let (s, state) := w.current.togglePause now
  (w.setCurrent s, [pauseNotice state])

/- Change the page size, also of tables yet to be opened. -/
def setPageSize
    (pageSize : Nat)
    (w : Workspace) : Workspace × List Event :=
  let config := { w.config with pageSize := max pageSize 1 }
  { w with config := config }.perform
    (Session.setPageSize w.backend pageSize)

/- Filter one table, if it has been opened. -/
def filterTable
    (now : Nat)
    (told : Workspace × List Event)
    (kind : TableKind) : Workspace × List Event :=
  let (w, events) := told
  match w.sessions.get kind with
  | none => (w, events)
  | some s =>
      let (s, ended) := s.setFilter w.backend now w.filter
      let w := w.setSession kind s
      match ended with
      | .ok _ => (w, events)
      | .error e => (w, events ++ [loadFault e])

/- Filter every table. -/
def setFilter
    (now : Nat)
    (filter : Filter)
    (w : Workspace) : Workspace × List Event :=
  TableKind.all.foldl (filterTable now)
    ({ w with filter := filter }, [])

/- Close every table. -/
def close
    (w : Workspace) : Workspace :=
  w.mapSessions Session.unmount

/- Do what is asked. -/
def handle
    (now : Nat)
    (w : Workspace) : Command → Workspace × List Event
  | .switchTable table => w.switchTo now table
  | .gotoPage page => w.goto page
  | .nextPage => w.step true
  | .previousPage => w.step false
  | .live => w.perform (Session.startLive w.backend now)
  | .togglePause => w.togglePause now
  | .refresh => w.perform (Session.refresh w.backend)
  | .setPageSize pageSize => w.setPageSize pageSize
  | .setFilter filter => w.setFilter now filter
  | .shutdown => (w.close, [])

------------------------------------------------------------
-- Background
------------------------------------------------------------

/- Report the pending move of the active table, if it ended. -/
def settle
    (w : Workspace) : Workspace × List Event :=
  match w.current.settle with
  | (s, some ended) => (w.setCurrent s, report ended)
  | (s, none) => (w.setCurrent s, [])

/- Run every background move. -/
def runBackground
    (w : Workspace) : Workspace :=
  w.mapSessions (Session.runBackground w.backend)

/- Run the ticks due up to a moment. -/
def advance
    (moment : Nat)
    (w : Workspace) : Workspace :=
  w.mapSessions (Session.advance w.backend moment)

/- Let the source of all rows grow. -/
def grow
    (w : Workspace) : Workspace :=
  { w with backend := w.backend.grow }

end Workspace

end LedgerView
