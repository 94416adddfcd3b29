import LedgerView.Pager.Controller
import LedgerView.Pager.Script
import LedgerView.Pager.Slots

/-
  A table at work on scripted sources.

  Operations run to their end, except for moves that are begun
  and held at each of their queries.  Time passes only when it
  is advanced.

  Key definitions include:
    * `TableBench`
    * `TableBench.Step`
    * `TableBench.step`
-/

namespace LedgerView

instance : Listing Script Nat Nat where
  key := Script.key
  write := fun _ key => toString key
  read? := fun _ text => Script.readKey? text

/- A table of numbers. -/
abbrev ScriptedTable :=
  Controller Script Nat Nat

/- A move that waits, and whether its query has been asked. -/
structure HeldMove where
  move : Move Nat Nat
  asked : Bool

/- The table, the time, and the moves that wait. -/
structure TableBench where
  table : ScriptedTable
  now : Nat
  held : Slots HeldMove

/- What a step yields. -/
inductive TableResult where
  | nothing
  | begun
  | held
  | noSuchSlot
  | outcome (outcome : Outcome)
  | failed (fault : PagerError)
  | paused (state : Option Bool)
  | key (key : Option Nat)

namespace TableBench

/- A step of a session at the bench. -/
inductive Step where
  | mount
  | unmount
  | live
  | goto (page : Nat)
  | next
  | previous
  | refresh
  | togglePause
  | resume
  | setPageSize (pageSize : Nat)
  | replaceSource (source : Script)
  | abort
  | setParam (name : String) (value : Option String)
  | decode (text : String)
  | advance (ms : Nat)
  | begin (slot : String) (page : Nat) (asleep : Bool)
  | pass (slot : String) (loads : Nat)
  | onSource (change : Script.Change)

/- A table that has not been mounted. -/
def new
    (source : Script)
    (config : PagerConfig)
    (nav : Params)
    (names : NavNames) : TableBench :=
  ⟨.new source config nav names, 0, []⟩

/- Run an operation to its end. -/
def perform
    (b : TableBench)
    (begun : ScriptedTable × Begun Nat Nat) :
    TableBench × TableResult :=
  match Controller.perform Script.ask begun with
  | (table, .ok outcome) => ({ b with table := table }, .outcome outcome)
  | (table, .error e) => ({ b with table := table }, .failed e)

/- Change the source of a move. -/
def setSource
    (b : TableBench)
    (m : Move Nat Nat)
    (source : Script) : TableBench :=
  let feed := { b.table.feedAt m.feed with source := source }
  { b with table := b.table.setFeedAt m.feed feed }

/- The query that a move waits for. -/
def query
    (b : TableBench)
    (m : Move Nat Nat) : ListQuery Nat :=
  m.flight.load.query (b.table.feedAt m.feed).buffer.maxLimit

/-
  Go on with a move until its next query, which is asked and
  waits for its answer, or to its end.
-/
def hold
    (b : TableBench)
    (slot : String)
    (m : Move Nat Nat) : TableBench × TableResult :=
  if m.flight.load.isDone then
    let (table, outcome) := b.table.finish m
    ({ b with table := table }, .outcome outcome)
  else
    let source := (b.table.feedAt m.feed).source
    let b := b.setSource m (source.record (b.query m))
    ({ b with held := b.held.put slot ⟨m, true⟩ }, .held)

/- Answer the query of a waiting move and hold it at the next. -/
def answerOne
    (b : TableBench)
    (slot : String)
    (m : Move Nat Nat) : TableBench × TableResult :=
  let b := { b with held := b.held.drop slot }
  let feed := b.table.feedAt m.feed
  match feed.source.answer (b.query m) with
  | (.ok rows, source) =>
      let flight :=
        m.flight.receive feed.source.key feed.buffer.maxLimit
          (rows.getD [])
      (b.setSource m source).hold slot { m with flight := flight }
  | (.error e, source) => (b.setSource m source, .failed (.source e))

/- Answer up to `loads` queries of a waiting move. -/
def resume
    (b : TableBench)
    (slot : String) :
    Nat → TableBench × TableResult
  | 0 =>
      match b.held.get? slot with
      | some _ => (b, .held)
      | none => (b, .noSuchSlot)
  | loads + 1 =>
      match b.held.get? slot with
      | none => (b, .noSuchSlot)
      | some held =>
          match b.answerOne slot held.move with
          | (b, .held) => b.resume slot loads
          | done => done

/- Go on with a waiting move; one asleep is woken first. -/
def pass
    (b : TableBench)
    (slot : String)
    (loads : Nat) : TableBench × TableResult :=
  match b.held.get? slot with
  | some ⟨move, false⟩ =>
      match { b with held := b.held.drop slot }.hold slot move with
      | (b, .held) => b.resume slot loads
      | done => done
  | _ => b.resume slot loads

/- Take one step. -/
def step
    (b : TableBench)
    (s : Step) : TableBench × TableResult :=
  match s with
  | .mount => b.perform (b.table.beginMount b.now)
  | .unmount => ({ b with table := b.table.unmount }, .nothing)
  | .live => b.perform (b.table.beginLive b.now)
  | .goto page => b.perform (b.table.beginGoto page)
  | .next => b.perform b.table.beginNext
  | .previous => b.perform b.table.beginPrevious
  | .refresh => b.perform b.table.beginRefresh
  | .togglePause =>
      let (table, state) := b.table.togglePause b.now
      ({ b with table := table }, .paused state)
  | .resume => ({ b with table := b.table.resume b.now }, .nothing)
  | .setPageSize pageSize =>
      b.perform (b.table.beginSetPageSize pageSize)
  | .replaceSource source =>
      b.perform (b.table.beginReplace b.now source)
  | .abort => ({ b with table := b.table.abort }, .nothing)
  | .setParam name value =>
      ({ b with
          table :=
            { b.table with nav := b.table.nav.set name value } },
        .nothing)
  | .decode text => (b, .key (Script.readKey? text))
  | .advance ms =>
      let now := b.now + ms
      ({ b with
          now := now
          table := b.table.advance Script.ask now },
        .nothing)
  | .begin slot page asleep =>
      match b.table.beginGoto page with
      | (table, .moving move) =>
          let b := { b with table := table }
          if asleep then
            ({ b with held := b.held.put slot ⟨move, false⟩ }, .begun)
          else
            b.hold slot move
      | begun => b.perform begun
  | .pass slot loads => b.pass slot loads
  | .onSource change =>
      let feed := b.table.feed
      let feed := { feed with source := feed.source.change change }
      ({ b with table := { b.table with feed := feed } }, .nothing)

end TableBench

end LedgerView
