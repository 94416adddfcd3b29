import LedgerView.Proofs.Table.Stepwise
import LedgerView.Proofs.Workspace.Deeds
import LedgerView.Workspace.Worker

/-
  Commands that overlap with background moves.

  The worker takes one command after another.  What a command
  does at once is done at once; if a move is left to do, the
  worker waits for it before it goes on.  While it waits, and
  while it does not, background moves are answered and end on
  every table in any order, timers tick, and the ledger
  changes.  A command that filters reaches the tables one after
  another, in any order, and waits for each.

  Key definitions include:
    * `Session.undertake`
    * `Session.beginFilter`
    * `Session.stir`
    * `Workspace.undertake`
    * `SpaceTraffic`
    * `SpaceTraffic.Event`
    * `SpaceTraffic.step`
    * `SpaceTraffic.run`
    * `SpaceTraffic.opening`
    * `SpaceTraffic.start`
-/

namespace LedgerView

variable {ρ κ : Type}

------------------------------------------------------------
-- Moves under Way
------------------------------------------------------------

/- The move that is left to do, if there is one. -/
def Begun.move? : Begun ρ κ → Option (Move ρ κ)
  | .moving move => some move
  | _ => none

------------------------------------------------------------
-- Sessions
------------------------------------------------------------

namespace Session

/- Ask the table for something; no move is pending then. -/
def undertake
    (now : Nat)
    (s : Session)
    (errand : Errand RowSource) :
    Session × Option (Begun Row Key) :=
  let begun := s.table.undertake now errand
  ({ s.forgetPending with table := begun.1 }, begun.2)

/- What a change of the filter does at once. -/
def beginFilter
    (backend : Backend)
    (now : Nat)
    (filter : Filter)
    (s : Session) : Session × Option (Begun Row Key) :=
  if s.filter.affects filter s.kind then
    let filter := filter.restrictTo s.kind
    let table := { s.table with nav := filter.write s.table.nav }
    let source := backend.source s.kind filter
    let begun := table.beginReplace now source
    ({ s.forgetPending with filter := filter, table := begun.1 },
      some begun.2)
  else
    (s, none)

/- Answer a background move; without an answer it fails. -/
def answerMove
    (place : Nat)
    (reply : Reply Row)
    (s : Session) : Session :=
  match s.background[place]? with
  | some (id, m) =>
      if m.flight.load.isDone then
        s
      else
        match reply with
        | .ok rows =>
            { s with
              background :=
                s.background.set place
                  (id, s.table.feedMove m rows) }
        | .error e =>
            { s with
              background :=
                s.background.eraseIdx place }.noteEnd id
              (.error (.source e))
  | none => s

/- End a background move that has loaded everything. -/
def finishMove
    (place : Nat)
    (s : Session) : Session :=
  match s.background[place]? with
  | some (id, m) =>
      if m.flight.load.isDone then
        let ended := s.table.finish m
        { s with
          table := ended.1
          background :=
            s.background.eraseIdx place }.noteEnd id (.ok ended.2)
      else
        s
  | none => s

/- Something that happens to a session by itself. -/
inductive Stir where
  /- The query of a background move is answered. -/
  | answer (place : Nat) (reply : Reply Row)
  /- A background move that has loaded everything ends. -/
  | finish (place : Nat)
  | beat (beat : Beat Row)

/- The place of the background move that is concerned. -/
def Stir.place? : Stir → Option Nat
  | .answer place _ | .finish place => some place
  | .beat _ => none

/- What becomes of a session by itself. -/
def stir
    (s : Session) : Stir → Session
  | .answer place reply => s.answerMove place reply
  | .finish place => s.finishMove place
  | .beat beat => { s with table := s.table.beat beat }

end Session

------------------------------------------------------------
-- Workspaces
------------------------------------------------------------

namespace Workspace

/- A workspace whose only session is yet to be mounted. -/
def opened
    (backend : Backend)
    (config : PagerConfig)
    (kind : TableKind)
    (nav : Params) : Workspace :=
  let w : Workspace :=
    { backend := backend
      config := config
      filter := recordedFilter {} (.read nav)
      sessions := .all none
      active := kind }
  w.setCurrent (.new backend kind config nav)

/- It is what is mounted when a workspace is opened. -/
theorem openAt_eq
    (backend : Backend)
    (config : PagerConfig)
    (kind : TableKind)
    (nav : Params)
    (now : Nat) :
    openAt backend config kind nav now =
      (opened backend config kind nav).mount now :=
  rfl

/- Change the session of a table, if it has one. -/
def alter
    (table : TableKind)
    (f : Session → Session)
    (w : Workspace) : Workspace :=
  { w with
    sessions :=
      w.sessions.set table ((w.sessions.get table).map f) }

/- A move, with the table on which it was begun. -/
abbrev OwnMove :=
  TableKind × Move Row Key

/- Ask the table in use for something; tells the move left. -/
def ask
    (now : Nat)
    (errand : Errand RowSource)
    (w : Workspace) : Workspace × Option OwnMove :=
  let begun := w.current.undertake now errand
  (w.setCurrent begun.1,
    (begun.2.bind Begun.move?).map (w.active, ·))

/- The active table is unmounted, and another one is active. -/
def leaveFor
    (table : TableKind)
    (w : Workspace) : Workspace :=
  { w.setCurrent w.current.unmount with active := table }

/- Begin to filter one table; tells the move left. -/
def beginFilter
    (now : Nat)
    (table : TableKind)
    (w : Workspace) : Workspace × Option OwnMove :=
  match w.sessions.get table with
  | some s =>
      let begun := s.beginFilter w.backend now w.filter
      (w.setSession table begun.1,
        (begun.2.bind Begun.move?).map (table, ·))
  | none => (w, none)

/-
  What a command does at once, and the move that it then waits
  for.  A change of the filter only notes the filter at once.
-/
def undertake
    (now : Nat)
    (w : Workspace) : Command → Workspace × Option OwnMove
  | .switchTable table =>
      if table = w.active then
        (w, none)
      else
        (w.leaveFor table).ask now .mount
  | .gotoPage page => ((w.goto page).1, none)
  | .nextPage => ((w.step true).1, none)
  | .previousPage => ((w.step false).1, none)
  | .live => w.ask now .live
  | .togglePause => ((w.togglePause now).1, none)
  | .refresh => w.ask now .refresh
  | .setPageSize pageSize =>
      let config := { w.config with pageSize := max pageSize 1 }
      { w with config := config }.ask now (.setPageSize pageSize)
  | .setFilter filter => ({ w with filter := filter }, none)
  | .shutdown => (w.close, none)

/-
  How often was aborted, on all tables together, on the way from
  one workspace to a later one.
-/
def abortsSince
    (w w' : Workspace) : Nat :=
  (TableKind.all.map fun table =>
    (w.session table).table.abortsSince
      (w'.session table).table).sum

end Workspace

/- The tables that are yet to be filtered after a command. -/
def Command.unfiltered : Command → List TableKind
  | .setFilter _ => TableKind.all
  | _ => []

------------------------------------------------------------
-- Workspaces under Traffic
------------------------------------------------------------

/- A workspace, and what the command under way waits for. -/
structure SpaceTraffic where
  space : Workspace
  /- The move of the command under way. -/
  waiting : Option Workspace.OwnMove
  /- The tables that the command under way is yet to filter. -/
  unfiltered : List TableKind
  /- How often was aborted so far, on all tables together. -/
  aborts : Nat

namespace SpaceTraffic

/- Something that happens. -/
inductive Event where
  /- The worker takes the next command. -/
  | command (now : Nat) (command : Command)
  /- The command under way filters a table. -/
  | filter (now : Nat) (table : TableKind)
  /- The query of the command under way is answered. -/
  | answer (reply : Reply Row)
  /- The move of the command ends, having loaded everything. -/
  | finish
  /- Something happens on a table by itself. -/
  | stir (table : TableKind) (stir : Session.Stir)
  /- The outcome of the pending move is reported. -/
  | settle
  /- Rows come or go, or a node begins to answer otherwise. -/
  | supply (backend : Backend)

/- Whether a workspace goes on after what happens. -/
def Event.GoesOn : Event → Prop
  | .command _ .shutdown => False
  | _ => True

/- Whether no command is under way. -/
def idle
    (s : SpaceTraffic) : Bool :=
  s.waiting.isNone && s.unfiltered.isEmpty

/- Put another workspace in place, counting what it aborted. -/
def become
    (s : SpaceTraffic)
    (w : Workspace) : SpaceTraffic :=
  { s with
    space := w
    aborts := s.aborts + s.space.abortsSince w }

/- Go on to another workspace, and wait for a move. -/
def await
    (s : SpaceTraffic)
    (next : Workspace × Option Workspace.OwnMove) :
    SpaceTraffic :=
  { s.become next.1 with waiting := next.2 }

/- Begin to do what is asked. -/
def obey
    (now : Nat)
    (command : Command)
    (s : SpaceTraffic) : SpaceTraffic :=
  { s.await (s.space.undertake now command) with
    unfiltered := command.unfiltered }

/- Begin to filter one of the tables yet to be filtered. -/
def filterNext
    (now : Nat)
    (table : TableKind)
    (s : SpaceTraffic) : SpaceTraffic :=
  { s.await (s.space.beginFilter now table) with
    unfiltered := s.unfiltered.erase table }

/- Answer the query of the command; without an answer it fails. -/
def answerOwn
    (own : Workspace.OwnMove)
    (reply : Reply Row)
    (s : SpaceTraffic) : SpaceTraffic :=
  match reply with
  | .ok rows =>
      let table := (s.space.session own.1).table
      { s with
        waiting := some (own.1, table.feedMove own.2 rows) }
  | .error _ => { s with waiting := none }

/- End the move of the command, which is then done with it. -/
def finishOwn
    (own : Workspace.OwnMove)
    (s : SpaceTraffic) : SpaceTraffic :=
  s.await
    (s.space.alter own.1 fun session =>
      { session with table := (session.table.finish own.2).1 },
      none)

/-
  What an event changes.  An event that cannot happen, such as a
  command while another one is under way, changes nothing.
-/
def step
    (s : SpaceTraffic)
    (event : Event) : SpaceTraffic :=
  match event with
  | .command now command =>
      if s.idle then s.obey now command else s
  | .filter now table =>
      if s.waiting.isNone && s.unfiltered.contains table then
        s.filterNext now table
      else s
  | .answer reply =>
      match s.waiting with
      | some own =>
          if own.2.flight.load.isDone then s
          else s.answerOwn own reply
      | none => s
  | .finish =>
      match s.waiting with
      | some own =>
          if own.2.flight.load.isDone then s.finishOwn own else s
      | none => s
  | .stir table stir =>
      s.become (s.space.alter table (Session.stir · stir))
  | .settle =>
      if s.idle then s.become s.space.settle.1 else s
  | .supply backend =>
      s.become { s.space with backend := backend }

/- What a list of events changes. -/
def run
    (s : SpaceTraffic)
    (events : List Event) : SpaceTraffic :=
  events.foldl step s

/- What happens after some events starts where they ended. -/
theorem run_append
    (s : SpaceTraffic)
    (events more : List Event) :
    s.run (events ++ more) = (s.run events).run more :=
  List.foldl_append

/- A workspace as it is before its first table is mounted. -/
def opening
    (settings : Settings) : SpaceTraffic :=
  let place := Worker.placeOf settings
  { space :=
      .opened settings.backend settings.config place.1 place.2.1
    waiting := none
    unfiltered := []
    aborts := 0 }

/-
  A workspace as it starts: its first table is opened where a
  link says, and is being mounted.
-/
def start
    (settings : Settings) : SpaceTraffic :=
  let s := opening settings
  s.await (s.space.ask 0 .mount)

end SpaceTraffic

end LedgerView
