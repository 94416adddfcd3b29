import LedgerView.Pager.Buffer
import LedgerView.Pager.Script
import LedgerView.Pager.Slots

/-
  A buffer at work on a scripted source.

  Operations are run to their end, or begun and held at each
  query that they ask, so that any number of them overlap and
  are resumed in any order, one answer at a time.

  Key definitions include:
    * `Task`
    * `Workbench`
    * `Workbench.finish`
    * `Workbench.hold`
    * `Workbench.resume`
    * `Workbench.Step`
    * `Workbench.step`
-/

namespace LedgerView

/- Something that queries the source: an edit or a bare load. -/
inductive Task where
  | edit (flight : Flight Nat Nat)
  | read (load : Load Nat Nat)

namespace Task

/- What the task loads. -/
def load : Task → Load Nat Nat
  | edit flight => flight.load
  | read load => load

/- The task with its load further on. -/
def withLoad
    (t : Task)
    (load : Load Nat Nat) : Task :=
  match t with
  | edit flight => edit { flight with load := load }
  | read _ => read load

end Task

/- What a step yields. -/
inductive BenchResult where
  | nothing
  | held
  | noSuchSlot
  | outcome (outcome : Outcome)
  | failed (fault : PagerError)
  | rows (rows : List Nat)
  | number (n : Nat)
  | flag (b : Bool)
  | described (text : String) (maxLimit : Nat)

/- The buffer, its source, and the operations that wait. -/
structure Workbench where
  source : Script
  buffer : Buffer Nat
  /- The notice that the subscriber has seen. -/
  seen : UInt64
  prepared : Slots (PreparedMove Nat)
  held : Slots Task

namespace Workbench

------------------------------------------------------------
-- What Can Be Asked For
------------------------------------------------------------

/- An operation on the buffer. -/
inductive Request where
  | move (page : Nat) (anchor : Option Nat)
  | refresh
  | headLoad (key count : Nat)
  | tailLoad (key : Option Nat) (count : Nat) (inclusive : Bool)
  | lastLoad (key count : Nat)

/- A step of a session at the bench. -/
inductive Step where
  | perform (request : Request)
  | start (slot : String) (request : Request)
  | pass (slot : String) (loads : Nat)
  | drop (slot : String)
  | prepare (slot : String) (page : Nat)
  | run (slot : String) (anchor : Option Nat)
  | abort
  | clear
  | setPageSize (pageSize : Nat)
  | changed
  | describe
  | onSource (change : Script.Change)

/- A fresh bench. -/
def new
    (pageSize maxLimit : Nat)
    (source : Script) : Workbench :=
  let buffer := Buffer.empty pageSize maxLimit
  { source := source
    buffer := buffer
    seen := buffer.notices
    prepared := []
    held := [] }

/- The key of a row of the source. -/
def key
    (b : Workbench) : Nat → Nat :=
  b.source.key

/- Begin an operation. -/
def begin
    (b : Workbench)
    (request : Request) : Except PagerError Task :=
  match request with
  | .move page anchor =>
      match b.buffer.prepareMove b.key page with
      | .ok move => .ok (.edit (move.begin anchor))
      | .error e => .error (.nav e)
  | .refresh => .ok (.edit (b.buffer.beginRefresh b.key))
  | .headLoad key count => .ok (.read (.above key count))
  | .tailLoad key count inclusive =>
      .ok (.read (.below key count inclusive))
  | .lastLoad key count =>
      .ok (.read (.newest b.buffer.maxLimit key count))

------------------------------------------------------------
-- Running Tasks
------------------------------------------------------------

/- End a task that has loaded everything. -/
def finish
    (b : Workbench)
    (t : Task) : Workbench × BenchResult :=
  match t with
  | .edit flight =>
      let (buffer, outcome) := b.buffer.commit b.key flight
      ({ b with buffer := buffer }, .outcome outcome)
  | .read load => (b, .rows load.rows)

/- Run a task to its end. -/
def perform
    (b : Workbench)
    (t : Task) : Workbench × BenchResult :=
  match t.load.run b.key b.buffer.maxLimit b.buffer.maxLimit_pos
      Script.ask b.source with
  | (.ok load, source) =>
      { b with source := source }.finish (t.withLoad load)
  | (.error e, source) =>
      ({ b with source := source }, .failed (.source e))

/-
  Go on with a task until its next query, which is asked and
  waits for its answer, or to its end.
-/
def hold
    (b : Workbench)
    (slot : String)
    (t : Task) : Workbench × BenchResult :=
  if t.load.isDone then
    b.finish t
  else
    let query := t.load.query b.buffer.maxLimit
    ({ b with
        source := b.source.record query
        held := b.held.put slot t },
      .held)

/- Answer the query of a waiting task and hold it at the next. -/
def answerOne
    (b : Workbench)
    (slot : String)
    (t : Task) : Workbench × BenchResult :=
  let b := { b with held := b.held.drop slot }
  match b.source.answer (t.load.query b.buffer.maxLimit) with
  | (.ok rows, source) =>
      let load :=
        t.load.receive b.key b.buffer.maxLimit (rows.getD [])
      { b with source := source }.hold slot (t.withLoad load)
  | (.error e, source) =>
      ({ b with source := source }, .failed (.source e))

/- Answer up to `loads` queries of a waiting task. -/
def resume
    (b : Workbench)
    (slot : String) :
    Nat → Workbench × BenchResult
  | 0 =>
      match b.held.get? slot with
      | some _ => (b, .held)
      | none => (b, .noSuchSlot)
  | loads + 1 =>
      match b.held.get? slot with
      | none => (b, .noSuchSlot)
      | some t =>
          match b.answerOne slot t with
          | (b, .held) => b.resume slot loads
          | done => done

------------------------------------------------------------
-- Steps
------------------------------------------------------------

/- Take one step. -/
def step
    (b : Workbench)
    (s : Step) : Workbench × BenchResult :=
  match s with
  | .perform request =>
      match b.begin request with
      | .ok task => b.perform task
      | .error e => (b, .failed e)
  | .start slot request =>
      match b.begin request with
      | .ok task => b.hold slot task
      | .error e => (b, .failed e)
  | .pass slot loads => b.resume slot loads
  | .drop slot =>
      ({ b with held := b.held.drop slot },
        .flag (b.held.get? slot).isSome)
  | .prepare slot page =>
      match b.buffer.prepareMove b.key page with
      | .ok move =>
          ({ b with prepared := b.prepared.put slot move },
            .number move.page)
      | .error e => (b, .failed (.nav e))
  | .run slot anchor =>
      match b.prepared.get? slot with
      | some move =>
          { b with prepared := b.prepared.drop slot }.perform
            (.edit (move.begin anchor))
      | none => (b, .noSuchSlot)
  | .abort => ({ b with buffer := b.buffer.abort }, .nothing)
  | .clear => ({ b with buffer := b.buffer.clear }, .nothing)
  | .setPageSize pageSize =>
      let buffer := b.buffer.setPageSize pageSize
      ({ b with buffer := buffer }, .number buffer.window.pageSize)
  | .changed =>
      ({ b with seen := b.buffer.notices },
        .flag (b.buffer.notices != b.seen))
  | .describe =>
      (b, .described b.buffer.describe b.buffer.maxLimit)
  | .onSource change =>
      ({ b with source := b.source.change change }, .nothing)

end Workbench

end LedgerView
