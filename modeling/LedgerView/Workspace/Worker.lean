import LedgerView.Workspace.Basic

/-
  The worker, which keeps a workspace running.

  Commands wait in a queue.  The worker turns at fixed times: it
  does what was asked, reports a background move that has ended,
  and sends a snapshot if what is shown has changed since the
  last one.  Background moves run between turns.  The worker
  ends when it is told to, or when nobody can ask it any more.

  Key definitions include:
    * `Settings`
    * `Worker`
    * `Worker.start`
    * `Worker.send`
    * `Worker.turn`
    * `Worker.wait`
    * `Worker.poll`
-/

namespace LedgerView

/- Where a workspace starts. -/
structure Settings where
  backend : Backend
  config : PagerConfig
  table : TableKind
  /- A link to reopen; it names the table itself. -/
  link : Option Link

/- A workspace that is kept running. -/
structure Worker where
  space : Workspace
  /- Commands that wait for the next turn. -/
  queue : List Command
  /- Whether nobody can send commands any more. -/
  hungUp : Bool
  running : Bool
  /- The snapshot that was sent last. -/
  lastSent : Option Snapshot
  /- Events that have not been taken yet. -/
  events : List Event
  now : Nat

/- The table that is shown first. -/
def Settings.firstTable
    (s : Settings) : TableKind :=
  let named := s.link.bind fun link =>
    (TableKind.parse link.table).toOption
  named.getD s.table

namespace Worker

/- Milliseconds between turns. -/
def turnPeriod : Nat := 50

/- Milliseconds between two rows of a growing ledger. -/
def growthPeriod : Nat := 2000

/- The number of transactions of a ledger at the start. -/
def firstTransactions : Nat := 1200

------------------------------------------------------------
-- Turns
------------------------------------------------------------

/- Tell something. -/
def tell
    (w : Worker)
    (events : List Event) : Worker :=
  { w with events := w.events ++ events }

/- End; commands that wait are dropped. -/
def stop
    (w : Worker) : Worker :=
  { w with
    space := w.space.close
    queue := []
    running := false }

/- Do the commands in the queue, up to one to end. -/
def handleAll
    (w : Worker) : List Command → Worker
  | [] => { w with queue := [] }
  | .shutdown :: _ => w.stop
  | command :: rest =>
      let (space, events) := w.space.handle w.now command
      handleAll ({ w with space := space }.tell events) rest

/- Report a background move that has ended. -/
def settle
    (w : Worker) : Worker :=
  let (space, events) := w.space.settle
  { w with space := space }.tell events

/- Send a snapshot, if it differs from the last one. -/
def publish
    (w : Worker) : Worker :=
  let snapshot := w.space.snapshot
  if w.lastSent = some snapshot then
    w
  else
    { w with lastSent := some snapshot }.tell [.page snapshot]

/- One turn. -/
def turn
    (w : Worker) : Worker :=
  let w := w.handleAll w.queue
  if !w.running then
    w
  else if w.hungUp then
    w.stop
  else
    w.settle.publish

/- Run what was begun in the background. -/
def runBackground
    (w : Worker) : Worker :=
  { w with space := w.space.runBackground }

------------------------------------------------------------
-- Starting
------------------------------------------------------------

/- The table of a link with its parameters, if it names one. -/
def placeOf
    (settings : Settings) : TableKind × Params × List Event :=
  match settings.link with
  | none => (settings.table, .empty, [])
  | some link =>
      match TableKind.parse link.table with
      | .ok table => (table, link.query, [])
      | .error e =>
          (settings.table, .empty,
            [.fault ("Ignoring link: " ++ e.message)])

/- Start, with the first turn at time 0. -/
def start
    (settings : Settings) : Worker :=
  let (table, nav, faults) := placeOf settings
  let (space, events) :=
    Workspace.openAt settings.backend settings.config table nav 0
  let w : Worker :=
    { space := space
      queue := []
      hungUp := false
      running := true
      lastSent := none
      events := faults ++ events
      now := 0 }
  w.turn.runBackground

------------------------------------------------------------
-- Time
------------------------------------------------------------

/- Let timers run up to a moment. -/
def tickUntil
    (w : Worker)
    (moment : Nat) : Worker :=
  { w with space := w.space.advance moment, now := moment }

/- Let the ledger grow, when the time has come. -/
def growAt
    (w : Worker)
    (moment : Nat) : Worker :=
  if w.running && moment % growthPeriod = 0 then
    { w with space := w.space.grow }
  else
    w

/-
  Go on to a moment at which the worker turns.  Of what is due
  at the same time, the ledger grows first, and the turn comes
  last.
-/
def nextTurn
    (w : Worker)
    (moment : Nat) : Worker :=
  let w :=
    ((w.tickUntil (moment - 1)).growAt moment).tickUntil moment
  if w.running then w.turn.runBackground else w

/- The moments after `now` up to `moment` to turn at. -/
def turnMoments
    (now moment : Nat) : List Nat :=
  (List.range' (now / turnPeriod + 1)
    (moment / turnPeriod - now / turnPeriod)).map
      (· * turnPeriod)

/- Let some milliseconds pass. -/
def wait
    (w : Worker)
    (ms : Nat) : Worker :=
  let moment := w.now + ms
  ((turnMoments w.now moment).foldl nextTurn w).tickUntil moment

------------------------------------------------------------
-- Talking
------------------------------------------------------------

/- Whether commands can be sent. -/
def listens
    (w : Worker) : Bool :=
  w.running && !w.hungUp

/- Send a command; tells whether it could be sent. -/
def send
    (w : Worker)
    (command : Command) : Worker × Bool :=
  if w.listens then
    ({ w with queue := w.queue ++ [command] }, true)
  else
    (w, false)

/- Send commands in turn; tells which could be sent. -/
def sendAll
    (w : Worker)
    (commands : List Command) : Worker × List Bool :=
  commands.foldl
    (fun (w, sent) command =>
      let (w, ok) := w.send command
      (w, sent ++ [ok]))
    (w, [])

/- Give up sending commands for good. -/
def hangUp
    (w : Worker) : Worker :=
  { w with hungUp := true }

/- Take the events told so far. -/
def poll
    (w : Worker) : Worker × List Event :=
  ({ w with events := [] }, w.events)

end Worker

end LedgerView
