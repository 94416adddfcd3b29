import LedgerView.Ledger.Backend
import LedgerView.Nav.FilterParams
import LedgerView.Session.Snapshot

/-
  A table in use.

  A session is a table of one kind with its filter.  Moves to a
  page run in the background, one after another in the order in
  which they were begun; the latest is the pending one, from
  which the next step counts, and whose outcome is reported.

  Key definitions include:
    * `Session`
    * `Session.new`
    * `Session.goto`
    * `Session.step`
    * `Session.setFilter`
    * `Session.runBackground`
    * `Session.settle`
    * `Session.advance`
    * `Session.snapshot`
-/

namespace LedgerView

/- A table of rows. -/
abbrev RowTable :=
  Controller RowSource Row Key

/- The move that was asked for last. -/
structure Pending where
  page : Nat
  /- The number of its move. -/
  id : Nat
  result : Option Ended

/- A table in use. -/
structure Session where
  kind : TableKind
  filter : Filter
  table : RowTable
  pending : Option Pending
  /- Moves begun that have not run, with their numbers. -/
  background : List (Nat × Move Row Key)
  /- The number of the next move. -/
  nextId : Nat

namespace Session

------------------------------------------------------------
-- Opening
------------------------------------------------------------

/- A session whose filter is recorded in its parameters. -/
def new
    (backend : Backend)
    (kind : TableKind)
    (config : PagerConfig)
    (nav : Params) : Session :=
  let filter := (Filter.read nav).restrictTo kind
  { kind := kind
    filter := filter
    table := .new (backend.source kind filter) config nav {}
    pending := none
    background := []
    nextId := 0 }

/- Stop waiting for the move asked for last. -/
def forgetPending
    (s : Session) : Session :=
  { s with pending := none }

/- Run an operation of the table to its end. -/
def perform
    (backend : Backend)
    (s : Session)
    (begun : RowTable × Begun Row Key) : Session × Ended :=
  let (table, ended) := Controller.perform backend.ask begun
  ({ s with table := table }, ended)

/- Open the table from its parameters. -/
def mount
    (backend : Backend)
    (now : Nat)
    (s : Session) : Session × Ended :=
  s.forgetPending.perform backend (s.table.beginMount now)

/- Close the table; its parameters stay. -/
def unmount
    (s : Session) : Session :=
  { s.forgetPending with table := s.table.unmount }

------------------------------------------------------------
-- Moving
------------------------------------------------------------

/- Begin to go to a page in the background. -/
def goto
    (s : Session)
    (page : Nat) : Session × Except PagerError Unit :=
  if page = 0 then
    (s, .error (.nav (.ofPage page)))
  else
    let s := s.forgetPending
    match s.table.beginGoto page with
    | (table, .moving move) =>
        ({ s with
            table := table
            pending := some ⟨page, s.nextId, none⟩
            background := s.background ++ [(s.nextId, move)]
            nextId := s.nextId + 1 },
          .ok ())
    | (table, .failed e) => ({ s with table := table }, .error e)
    | (table, .ended _) => ({ s with table := table }, .ok ())

/- The page from which the next step counts. -/
def stepBase
    (s : Session) : Nat :=
  match s.pending with
  | some pending => pending.page
  | none => s.table.currentPage

/- The page one step away; none beyond either end. -/
def stepTarget
    (s : Session)
    (forward : Bool) : Option Nat :=
  let base := s.stepBase
  if forward then
    if s.table.window.drained && s.table.pageCount ≤ base then
      none
    else
      some (saturate (base + 1))
  else if base ≤ 1 then
    none
  else
    some (base - 1)

/- Begin to go one page on or back; tells the page. -/
def step
    (s : Session)
    (forward : Bool) :
    Session × Except PagerError (Option Nat) :=
  match s.stepTarget forward with
  | none => (s, .ok none)
  | some target =>
      match s.goto target with
      | (s, .ok ()) => (s, .ok (some target))
      | (s, .error e) => (s, .error e)

/- Go live. -/
def startLive
    (backend : Backend)
    (now : Nat)
    (s : Session) : Session × Ended :=
  s.forgetPending.perform backend (s.table.beginLive now)

/- Pause or resume the live view; tells whether it is paused. -/
def togglePause
    (now : Nat)
    (s : Session) : Session × Option Bool :=
  let (table, state) := s.table.togglePause now
  ({ s with table := table }, state)

/- Reload what is shown. -/
def refresh
    (backend : Backend)
    (s : Session) : Session × Ended :=
  s.forgetPending.perform backend s.table.beginRefresh

/- Change the page size. -/
def setPageSize
    (backend : Backend)
    (pageSize : Nat)
    (s : Session) : Session × Ended :=
  s.forgetPending.perform backend
    (s.table.beginSetPageSize pageSize)

/- Change the filter, if the table reads what is changed. -/
def setFilter
    (backend : Backend)
    (now : Nat)
    (filter : Filter)
    (s : Session) : Session × Except PagerError (Option Outcome) :=
  if s.filter.affects filter s.kind then
    let filter := filter.restrictTo s.kind
    let table := { s.table with nav := filter.write s.table.nav }
    let s := { s.forgetPending with filter := filter }
    let source := backend.source s.kind filter
    let (s, ended) :=
      s.perform backend (table.beginReplace now source)
    (s, ended.map some)
  else
    (s, .ok none)

------------------------------------------------------------
-- Background
------------------------------------------------------------

/- Note how a background move ended, if it is the pending one. -/
def noteEnd
    (s : Session)
    (id : Nat)
    (ended : Ended) : Session :=
  match s.pending with
  | some pending =>
      if pending.id = id then
        { s with
          pending := some { pending with result := some ended } }
      else
        s
  | none => s

/- Run one background move to its end. -/
def runMove
    (backend : Backend)
    (s : Session)
    (entry : Nat × Move Row Key) : Session :=
  let (table, ended) := s.table.completeMove backend.ask entry.2
  { s with table := table }.noteEnd entry.1 ended

/- Run every background move, in the order of their beginning. -/
def runBackground
    (backend : Backend)
    (s : Session) : Session :=
  s.background.foldl (runMove backend) { s with background := [] }

/- Take the outcome of the pending move, once it has one. -/
def settle
    (s : Session) : Session × Option Ended :=
  match s.pending with
  | some { result := some ended, .. } => (s.forgetPending, some ended)
  | _ => (s, none)

/- Run the timer's ticks due up to a moment. -/
def advance
    (backend : Backend)
    (moment : Nat)
    (s : Session) : Session :=
  { s with table := s.table.advance backend.ask moment }

------------------------------------------------------------
-- Showing
------------------------------------------------------------

/- The link to what is shown. -/
def link
    (s : Session) : Link :=
  ⟨s.kind.name, s.table.nav⟩

/- What is shown. -/
def snapshot
    (s : Session) : Snapshot :=
  let rows := s.table.window.pageRows
  { table := s.kind
    columns := s.kind.columns
    rows := rows.map Row.cells
    keys := rows.map fun row => row.key.toString
    page := s.table.currentPage
    pageCount := s.table.pageCount
    totalRowCount := s.table.totalRowCount
    drained := s.table.window.drained
    pageSize := s.table.config.pageSize
    mode := s.table.mode
    live := s.table.liveStatus
    filter := s.filter
    link := s.link.toString }

end Session

end LedgerView
