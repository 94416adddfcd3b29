import LedgerView.Session.Basic

/-
  A session at work on the synthetic ledger.

  Time passes only when it is advanced, and background moves run
  only then or when they are to be settled.

  Key definitions include:
    * `SessionBench`
    * `SessionBench.Step`
    * `SessionBench.step`
-/

namespace LedgerView

/- A session with the source of its rows, and the time. -/
structure SessionBench where
  backend : Backend
  session : Session
  now : Nat

/- What a step yields. -/
inductive SessionResult where
  | nothing
  | ended (ended : Ended)
  | failed (fault : PagerError)
  | page (target : Nat)
  | paused (state : Bool)
  | removed (key : Key)

namespace SessionBench

/- A step of a session at the bench. -/
inductive Step where
  | mount
  | unmount
  | goto (page : Nat)
  | step (forward : Bool)
  | live
  | togglePause
  | refresh
  | setPageSize (pageSize : Nat)
  | setFilter (filter : Filter)
  /- Settle a move only if it has run already. -/
  | settleNow
  | settle
  | advance (ms : Nat)
  /- Changes of the rows that the session's source stands for. -/
  | insert (row : Row)
  | remove (key : String)

/- A session of a table that has not been mounted. -/
def new
    (transactions : Nat)
    (kind : TableKind)
    (config : PagerConfig)
    (nav : Params) : SessionBench :=
  let backend := Backend.demo (.new transactions)
  ⟨backend, .new backend kind config nav, 0⟩

/- Put another session at the bench. -/
def put
    (b : SessionBench)
    (s : Session) : SessionBench :=
  { b with session := s }

/- Take an operation that has ended. -/
def finish
    (b : SessionBench)
    (done : Session × Ended) : SessionBench × SessionResult :=
  (b.put done.1, .ended done.2)

/- Take a move that has been begun. -/
def began
    (b : SessionBench)
    (done : Session × Except PagerError (Option Nat)) :
    SessionBench × SessionResult :=
  (b.put done.1,
    match done.2 with
    | .ok (some page) => .page page
    | .ok none => .nothing
    | .error e => .failed e)

/- Take a filter that has been set. -/
def filtered
    (b : SessionBench)
    (done : Session × Except PagerError (Option Outcome)) :
    SessionBench × SessionResult :=
  (b.put done.1,
    match done.2 with
    | .ok (some outcome) => .ended (.ok outcome)
    | .ok none => .nothing
    | .error e => .failed e)

/- Settle the pending move. -/
def settle
    (b : SessionBench)
    (s : Session) : SessionBench × SessionResult :=
  let (s, ended) := s.settle
  (b.put s, ended.elim .nothing .ended)

/- Change the rows that the session's source stands for. -/
def change
    (b : SessionBench)
    (f : MemoryList Row → MemoryList Row) : SessionBench :=
  let table := b.session.table
  let (backend, source) := b.backend.change table.feed.source f
  let feed := { table.feed with source := source }
  { b with
    backend := backend
    session := { b.session with table := { table with feed := feed } } }

/- Take the row with a key out of these rows. -/
def remove
    (b : SessionBench)
    (key : Key) : SessionBench × SessionResult :=
  let rows := b.backend.rows? b.session.table.feed.source
  let found := rows.bind fun list => (list.remove Row.key key).2
  (b.change fun list => (list.remove Row.key key).1,
    found.elim .nothing fun row => .removed row.key)

/- Take a step. -/
def step
    (b : SessionBench) : Step → SessionBench × SessionResult
  | .mount => b.finish (b.session.mount b.backend b.now)
  | .unmount => (b.put b.session.unmount, .nothing)
  | .goto page =>
      let (s, begun) := b.session.goto page
      b.began (s, begun.map fun _ => none)
  | .step forward => b.began (b.session.step forward)
  | .live => b.finish (b.session.startLive b.backend b.now)
  | .togglePause =>
      let (s, state) := b.session.togglePause b.now
      (b.put s, state.elim .nothing .paused)
  | .refresh => b.finish (b.session.refresh b.backend)
  | .setPageSize pageSize =>
      b.finish (b.session.setPageSize b.backend pageSize)
  | .setFilter filter =>
      b.filtered (b.session.setFilter b.backend b.now filter)
  | .settleNow => b.settle b.session
  | .settle => b.settle (b.session.runBackground b.backend)
  | .advance ms =>
      let now := b.now + ms
      let s := b.session.runBackground b.backend
      ({ b with session := s.advance b.backend now, now := now },
        .nothing)
  | .insert row => (b.change (·.insert Row.key row), .nothing)
  | .remove text =>
      match Key.parse? b.session.kind text with
      | some key => b.remove key
      | none => (b, .nothing)

end SessionBench

end LedgerView
