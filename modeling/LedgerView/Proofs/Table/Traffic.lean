import Mathlib.Algebra.GroupWithZero.Nat
import LedgerView.Pager.Controller

/-
  Operations that overlap on one table.

  Any number of operations is asked of a table, each of which
  may leave a promise: a move that still has to load and to
  end.  Promises are answered query by query, ended or given up
  in any order, while the timer of the live view ticks and the
  sources change.  A promise keeps its place among the promises
  for good, so a place names an operation.

  Key definitions include:
    * `Errand`
    * `Controller.undertake`
    * `Controller.abortsSince`
    * `Promise`
    * `TableTraffic`
    * `TableTraffic.Event`
    * `TableTraffic.step`
    * `TableTraffic.run`
    * `TableTraffic.Along`
-/

namespace LedgerView

variable {σ ρ κ : Type}

------------------------------------------------------------
-- Operations of a Table
------------------------------------------------------------

/- An operation that can be asked of a table. -/
inductive Errand (σ : Type) where
  | mount
  | unmount
  | live
  | goto (page : Nat)
  | next
  | previous
  | refresh
  | togglePause
  | resume
  | setPageSize (pageSize : Nat)
  | replace (source : σ)

namespace Controller

/-
  The generation of a feed; feeds that are still to come start
  in generation 0.
-/
def generation
    (c : Controller σ ρ κ)
    (n : Nat) : UInt64 :=
  if n ≤ c.past.length then
    (c.feedAt n).buffer.guard.generation
  else
    0

/-
  How often was aborted, on all feeds together, on the way from
  one table to a later one.
-/
def abortsSince
    (c c' : Controller σ ρ κ) : Nat :=
  ((List.range (c'.past.length + 1)).map fun n =>
    (c'.generation n - c.generation n).toNat).sum

variable [Listing σ ρ κ]

/- What an operation does at once, and what it leaves to do. -/
def undertake
    (now : Nat)
    (c : Controller σ ρ κ)
    (errand : Errand σ) :
    Controller σ ρ κ × Option (Begun ρ κ) :=
  match errand with
  | .mount => (c.beginMount now).map id some
  | .unmount => (c.unmount, none)
  | .live => (c.beginLive now).map id some
  | .goto page => (c.beginGoto page).map id some
  | .next => c.beginNext.map id some
  | .previous => c.beginPrevious.map id some
  | .refresh => c.beginRefresh.map id some
  | .togglePause => ((c.togglePause now).1, none)
  | .resume => (c.resume now, none)
  | .setPageSize pageSize =>
      (c.beginSetPageSize pageSize).map id some
  | .replace source => (c.beginReplace now source).map id some

end Controller

------------------------------------------------------------
-- Tables under Traffic
------------------------------------------------------------

/- What became of an operation after it was begun. -/
inductive Promise (ρ κ : Type) where
  | pending (move : Move ρ κ)
  | kept (result : Ended)
  | dropped

/- The promise that an operation leaves. -/
def Begun.promise : Begun ρ κ → Promise ρ κ
  | .ended outcome => .kept (.ok outcome)
  | .failed fault => .kept (.error fault)
  | .moving move => .pending move

/- A table and every promise made so far. -/
structure TableTraffic (σ ρ κ : Type) where
  table : Controller σ ρ κ
  promises : List (Promise ρ κ)
  /- How often was aborted so far, on all feeds together. -/
  aborts : Nat

namespace TableTraffic

/- Something that happens.  Places count from zero. -/
inductive Event (σ ρ : Type) where
  /- An operation is asked of the table. -/
  | ask (now : Nat) (errand : Errand σ)
  /- The query of a move is answered. -/
  | answer (place : Nat) (reply : Reply ρ)
  /- A move that has loaded everything ends. -/
  | finish (place : Nat)
  /- A move is given up by its caller. -/
  | drop (place : Nat)
  /- The tick that is due begins. -/
  | tick
  /- The query of the tick is answered. -/
  | answerTick (reply : Reply ρ)
  /- A tick that has loaded everything ends. -/
  | finishTick
  /- The source of a feed changes. -/
  | source (feed : Nat) (next : σ)

/- A table of which nothing has been asked. -/
def start
    (c : Controller σ ρ κ) : TableTraffic σ ρ κ :=
  ⟨c, [], 0⟩

/- Put another table in place, counting what it aborted. -/
def become
    (s : TableTraffic σ ρ κ)
    (c : Controller σ ρ κ) : TableTraffic σ ρ κ :=
  { s with
    table := c
    aborts := s.aborts + s.table.abortsSince c }

/- Note what became of a promise. -/
def resolve
    (s : TableTraffic σ ρ κ)
    (place : Nat)
    (p : Promise ρ κ) : TableTraffic σ ρ κ :=
  { s with promises := s.promises.set place p }

variable [Listing σ ρ κ]

/- Answer the query of a move; without an answer it fails. -/
def answerMove
    (s : TableTraffic σ ρ κ)
    (place : Nat)
    (m : Move ρ κ)
    (reply : Reply ρ) : TableTraffic σ ρ κ :=
  match reply with
  | .ok rows =>
      let feed := s.table.feedAt m.feed
      let flight :=
        m.flight.receive (Listing.key feed.source)
          feed.buffer.maxLimit (rows.getD [])
      s.resolve place (.pending { m with flight := flight })
  | .error e => s.resolve place (.kept (.error (.source e)))

/- Take rows for the tick that is loading. -/
def feedTick
    (c : Controller σ ρ κ)
    (rows : List ρ) : Controller σ ρ κ :=
  match c.strategy with
  | .live view =>
      match view.timer with
      | .loading due flight =>
          let flight :=
            flight.receive c.key c.buffer.maxLimit rows
          { c with
            strategy :=
              .live { view with timer := .loading due flight } }
      | _ => c
  | _ => c

/- The refresh of the tick that is loading. -/
def ticking?
    (c : Controller σ ρ κ) : Option (Flight ρ κ) :=
  match c.strategy with
  | .live { timer := .loading _ flight, .. } => some flight
  | _ => none

variable [DecidableEq κ]

/- End a move that has loaded everything. -/
def finishMove
    (s : TableTraffic σ ρ κ)
    (place : Nat)
    (m : Move ρ κ) : TableTraffic σ ρ κ :=
  let ended := s.table.finish m
  (s.become ended.1).resolve place (.kept (.ok ended.2))

/-
  What an event changes.  An event that cannot happen, such as
  an answer where nothing was asked, changes nothing.
-/
def step
    (s : TableTraffic σ ρ κ)
    (event : Event σ ρ) : TableTraffic σ ρ κ :=
  match event with
  | .ask now errand =>
      let begun := s.table.undertake now errand
      { s.become begun.1 with
        promises :=
          s.promises ++ (begun.2.map Begun.promise).toList }
  | .answer place reply =>
      match s.promises[place]? with
      | some (.pending m) =>
          if m.flight.load.isDone then s
          else s.answerMove place m reply
      | _ => s
  | .finish place =>
      match s.promises[place]? with
      | some (.pending m) =>
          if m.flight.load.isDone then s.finishMove place m else s
      | _ => s
  | .drop place =>
      match s.promises[place]? with
      | some (.pending _) => s.resolve place .dropped
      | _ => s
  | .tick => s.become s.table.beginTick
  | .answerTick reply =>
      match ticking? s.table with
      | some flight =>
          if flight.load.isDone then s
          else
            match reply with
            | .ok rows => s.become (feedTick s.table (rows.getD []))
            | .error _ => s.become (s.table.endTick none)
      | none => s
  | .finishTick =>
      match ticking? s.table with
      | some flight =>
          if flight.load.isDone then
            s.become (s.table.endTick (some flight))
          else s
      | none => s
  | .source feed next =>
      s.become
        (s.table.setFeedAt feed
          { s.table.feedAt feed with source := next })

/- An open query of a move is answered. -/
theorem step_answer
    {s : TableTraffic σ ρ κ}
    {place : Nat}
    {m : Move ρ κ}
    (reply : Reply ρ)
    (hMove : s.promises[place]? = some (.pending m))
    (hOpen : m.flight.load.isDone = false) :
    s.step (.answer place reply) =
      s.answerMove place m reply := by
  unfold step
  dsimp only
  rw [hMove]
  dsimp only
  rw [if_neg (by rw [hOpen]; decide)]

/- A move that has loaded everything ends. -/
theorem step_finish
    {s : TableTraffic σ ρ κ}
    {place : Nat}
    {m : Move ρ κ}
    (hMove : s.promises[place]? = some (.pending m))
    (hDone : m.flight.load.isDone = true) :
    s.step (.finish place) = s.finishMove place m := by
  unfold step
  dsimp only
  rw [hMove]
  dsimp only
  rw [if_pos hDone]

/- What a list of events changes. -/
def run
    (s : TableTraffic σ ρ κ)
    (events : List (Event σ ρ)) : TableTraffic σ ρ κ :=
  events.foldl step s

/- What happens after some events starts where they ended. -/
theorem run_append
    (s : TableTraffic σ ρ κ)
    (events more : List (Event σ ρ)) :
    s.run (events ++ more) = (s.run events).run more :=
  List.foldl_append

/- The last event happens where those before it ended. -/
theorem run_concat
    (s : TableTraffic σ ρ κ)
    (events : List (Event σ ρ))
    (event : Event σ ρ) :
    s.run (events ++ [event]) = (s.run events).step event := by
  rw [run_append]
  rfl

/- What holds of every event of a run, when it happens. -/
def Along
    (Holds : TableTraffic σ ρ κ → Event σ ρ → Prop)
    (s : TableTraffic σ ρ κ) : List (Event σ ρ) → Prop
  | [] => True
  | event :: rest =>
      Holds s event ∧ Along Holds (s.step event) rest

section Along

variable {Holds More : TableTraffic σ ρ κ → Event σ ρ → Prop}
variable {s : TableTraffic σ ρ κ}

instance decidableAlong
    [∀ t event, Decidable (Holds t event)]
    (s : TableTraffic σ ρ κ) :
    (events : List (Event σ ρ)) → Decidable (s.Along Holds events)
  | [] => .isTrue trivial
  | event :: rest =>
      have := decidableAlong (s.step event) rest
      inferInstanceAs (Decidable (_ ∧ _))

/- It holds of what happens first, and of what comes then. -/
theorem along_append
    {events more : List (Event σ ρ)} :
    s.Along Holds (events ++ more) ↔
      s.Along Holds events ∧ (s.run events).Along Holds more := by
  induction events generalizing s with
  | nil => exact ⟨fun hMore => ⟨trivial, hMore⟩, And.right⟩
  | cons event rest ih =>
      exact (and_congr_right fun _ => ih).trans and_assoc.symm

/- Whatever follows from it holds of every event as well. -/
theorem Along.imp
    (hMore : ∀ t event, Holds t event → More t event)
    {events : List (Event σ ρ)}
    (hAlong : s.Along Holds events) :
    s.Along More events := by
  induction events generalizing s with
  | nil => trivial
  | cons event rest ih =>
      exact ⟨hMore s event hAlong.1, ih hAlong.2⟩

/- It holds wherever a run is cut, -/
theorem Along.of_split
    {events before after : List (Event σ ρ)}
    {event : Event σ ρ}
    (hAlong : s.Along Holds events)
    (hSplit : events = before ++ event :: after) :
    Holds (s.run before) event := by
  rw [hSplit] at hAlong
  exact (along_append.mp hAlong).2.1

/- and of every event if it holds wherever a run is cut. -/
theorem along_of_split
    {events : List (Event σ ρ)}
    (hSplit : ∀ before event after,
      events = before ++ event :: after →
        Holds (s.run before) event) :
    s.Along Holds events := by
  induction events generalizing s with
  | nil => trivial
  | cons event rest ih =>
      refine ⟨hSplit [] event rest rfl, ih ?_⟩
      intro before event' after hRest
      exact hSplit (event :: before) event' after
        (congrArg _ hRest)

end Along

end TableTraffic

end LedgerView
