import LedgerView.Proofs.Live.Loads
import LedgerView.Proofs.Live.Scene
import LedgerView.Proofs.Table.Record

/-
  The scene of a table under traffic.

  Whatever a table loads was begun after an abort.  So of all
  loads that were ever begun on its feed, at most the one begun
  last can still be committed.  What remains of a table and its
  loads is a scene, and every event in which nothing is asked of
  the table is a step of that scene.

  Key definitions include:
    * `Holdings`
    * `TableTraffic.flights`
    * `TableTraffic.scene`
    * `TableTraffic.Truthful`
    * `TableTraffic.Proceeds`
    * `TableTraffic.Passes`

  Key theorems include:
    * `TableTraffic.proceeds_begin`
    * `TableTraffic.proceeds_tick`
    * `TableTraffic.parts_of_not_asked`
    * `TableTraffic.passes_of_not_asked`
    * `TableTraffic.source_step`
-/

namespace LedgerView

variable {σ ρ κ : Type}

------------------------------------------------------------
-- Sources That Hold Rows
------------------------------------------------------------

/- What every source of a kind holds; all have the same keys. -/
structure Holdings
    (σ : Type)
    {ρ κ : Type}
    [LinearOrder κ]
    [Listing σ ρ κ]
    (key : ρ → κ) where
  archive : σ → Archive key
  key_eq : ∀ source : σ, Listing.key source = key

------------------------------------------------------------
-- Scenes of Tables
------------------------------------------------------------

/- The load of a promise, if it is on this feed. -/
def Promise.flightOn?
    (feed : Nat) : Promise ρ κ → Option (Flight ρ κ)
  | .pending m => if m.feed = feed then some m.flight else none
  | _ => none

/- A move on a feed has its load there. -/
theorem Promise.flightOn?_of_eq
    {m : Move ρ κ}
    {feed : Nat}
    (hFeed : m.feed = feed) :
    (Promise.pending m).flightOn? feed = some m.flight :=
  if_pos hFeed

/- A move on another feed has none. -/
theorem Promise.flightOn?_of_ne
    {m : Move ρ κ}
    {feed : Nat}
    (hFeed : m.feed ≠ feed) :
    (Promise.pending m).flightOn? feed = none :=
  if_neg hFeed

/- The load of a promise is that of its move. -/
theorem Promise.of_mem_flightOn?
    {m : Move ρ κ}
    {feed : Nat}
    {f : Flight ρ κ}
    (hMem : f ∈ (Promise.pending m).flightOn? feed) :
    m.feed = feed ∧ f = m.flight := by
  by_cases hFeed : m.feed = feed
  · rw [flightOn?_of_eq hFeed] at hMem
    exact ⟨hFeed, (Option.some_inj.mp hMem).symm⟩
  · rw [flightOn?_of_ne hFeed] at hMem
    cases hMem

namespace TableTraffic

/- The loads of the promises on the feed in use. -/
def moves
    (s : TableTraffic σ ρ κ) : List (Flight ρ κ) :=
  s.promises.filterMap (·.flightOn? s.table.past.length)

/-
  A promise is one of many, and what becomes of it does not
  concern the others.
-/
theorem moves_at
    {s : TableTraffic σ ρ κ}
    {place : Nat}
    {p : Promise ρ κ}
    (hPlace : s.promises[place]? = some p) :
    ∃ before after,
      s.moves =
        before ++ (p.flightOn? s.table.past.length).toList ++
          after ∧
      ∀ p' : Promise ρ κ, (s.resolve place p').moves =
        before ++ (p'.flightOn? s.table.past.length).toList ++
          after := by
  rcases List.getElem?_eq_some_iff.mp hPlace with ⟨hLt, hGet⟩
  have hMoves (q : Promise ρ κ)
      (front back : List (Promise ρ κ)) :
      (front ++ q :: back).filterMap
          (·.flightOn? s.table.past.length) =
        front.filterMap (·.flightOn? s.table.past.length) ++
          (q.flightOn? s.table.past.length).toList ++
          back.filterMap (·.flightOn? s.table.past.length) := by
    rw [List.filterMap_append, List.filterMap_cons,
      List.append_assoc]
    cases q.flightOn? s.table.past.length <;> rfl
  refine
    ⟨(s.promises.take place).filterMap
        (·.flightOn? s.table.past.length),
      (s.promises.drop (place + 1)).filterMap
        (·.flightOn? s.table.past.length), ?_, fun p' => ?_⟩
  · have hSplit :
        s.promises =
          s.promises.take place ++
            p :: s.promises.drop (place + 1) := by
      rw [← hGet, List.getElem_cons_drop,
        List.take_append_drop]
    exact (congrArg _ hSplit).trans (hMoves p _ _)
  · unfold moves resolve
    dsimp only
    rw [List.set_eq_take_append_cons_drop, if_pos hLt]
    exact hMoves p' _ _

/- Every load on the feed in use: the tick, then the promises. -/
def flights
    (s : TableTraffic σ ρ κ) : List (Flight ρ κ) :=
  (ticking? s.table).toList ++ s.moves

/- A move on the feed in use has its load among them. -/
theorem mem_flights_of_pending
    {s : TableTraffic σ ρ κ}
    {m : Move ρ κ}
    (hMove : .pending m ∈ s.promises)
    (hFeed : m.feed = s.table.past.length) :
    m.flight ∈ s.flights :=
  List.mem_append_right _ (List.mem_filterMap.mpr
    ⟨_, hMove, Promise.flightOn?_of_eq hFeed⟩)

/- The loads depend on the mode, the promises and the feeds. -/
theorem flights_congr
    {s s' : TableTraffic σ ρ κ}
    (hStrategy : s'.table.strategy = s.table.strategy)
    (hPast : s'.table.past.length = s.table.past.length)
    (hPromises : s'.promises = s.promises) :
    s'.flights = s.flights := by
  unfold flights moves ticking?
  rw [hStrategy, hPast, hPromises]

/- A move that has just begun comes after the others. -/
theorem flights_concat
    (c : Controller σ ρ κ)
    (promises : List (Promise ρ κ))
    (records : Bool)
    (f : Flight ρ κ)
    (aborts : Nat) :
    (TableTraffic.mk c
        (promises ++ [.pending ⟨c.past.length, records, f⟩])
        aborts).flights =
      (TableTraffic.mk c promises aborts).flights ++ [f] := by
  have hFlight :
      (Promise.pending ⟨c.past.length, records, f⟩).flightOn?
        c.past.length = some f := Promise.flightOn?_of_eq rfl
  unfold flights moves
  dsimp only
  rw [List.filterMap_append, List.append_assoc,
    List.filterMap_cons_some hFlight]
  rfl

/- What becomes of a promise, for all that is under way. -/
theorem flights_at
    {s : TableTraffic σ ρ κ}
    {place : Nat}
    {p : Promise ρ κ}
    (hPlace : s.promises[place]? = some p) :
    ∃ before after,
      s.flights =
        before ++ (p.flightOn? s.table.past.length).toList ++
          after ∧
      ∀ p' : Promise ρ κ, (s.resolve place p').flights =
        before ++ (p'.flightOn? s.table.past.length).toList ++
          after := by
  rcases moves_at hPlace with ⟨before, after, hOld, hNew⟩
  refine ⟨(ticking? s.table).toList ++ before, after, ?_,
    fun p' => ?_⟩
  · unfold flights
    rw [hOld]
    simp only [List.append_assoc]
  · unfold flights
    rw [hNew p']
    simp only [List.append_assoc]
    rfl

variable [LinearOrder κ] [Listing σ ρ κ]
variable {key : ρ → κ}

/- What there is to know of a table that is live. -/
def scene
    (H : Holdings σ key)
    (s : TableTraffic σ ρ κ) : Scene key where
  source := H.archive s.table.feed.source
  window := s.table.window
  loads := s.table.buffer.underWay s.flights

------------------------------------------------------------
-- Truthful Sources
------------------------------------------------------------

/-
  What the source in use may do: it answers truthfully or fails,
  and gains rows at its newer end alone.
-/
def Truthful
    (H : Holdings σ key)
    (s : TableTraffic σ ρ κ) : Event σ ρ → Prop
  | .answer place reply =>
      ∀ p ∈ s.promises[place]?,
        ∀ f ∈ p.flightOn? s.table.past.length,
          (Conduct.growing key).Answers (s.scene H).source
            (f.load.query s.table.buffer.maxLimit) reply
  | .answerTick reply =>
      ∀ f ∈ ticking? s.table,
        (Conduct.growing key).Answers (s.scene H).source
          (f.load.query s.table.buffer.maxLimit) reply
  | .source feed next =>
      s.table.past.length ≤ feed →
        (Conduct.growing key).Becomes (s.scene H).source
          (H.archive next)
  | .ask _ _ | .finish _ | .drop _ | .tick | .finishTick => True

instance
    [DecidableEq ρ]
    (H : Holdings σ key)
    (s : TableTraffic σ ρ κ) :
    (event : Event σ ρ) → Decidable (s.Truthful H event)
  | .answer place reply =>
      inferInstanceAs (Decidable
        (∀ p ∈ s.promises[place]?,
          ∀ f ∈ p.flightOn? s.table.past.length,
            (Conduct.growing key).Answers (s.scene H).source
              (f.load.query s.table.buffer.maxLimit) reply))
  | .answerTick reply =>
      inferInstanceAs (Decidable
        (∀ f ∈ ticking? s.table,
          (Conduct.growing key).Answers (s.scene H).source
            (f.load.query s.table.buffer.maxLimit) reply))
  | .source feed next =>
      inferInstanceAs (Decidable
        (s.table.past.length ≤ feed →
          (Conduct.growing key).Becomes (s.scene H).source
            (H.archive next)))
  | .ask _ _ | .finish _ | .drop _ | .tick | .finishTick =>
      .isTrue trivial

------------------------------------------------------------
-- Steps of the Scene
------------------------------------------------------------

/- A step of a table that is a step of its scene. -/
structure Proceeds
    (H : Holdings σ key)
    (s s' : TableTraffic σ ρ κ) : Prop where
  attends : s'.table.buffer.Attends s'.flights
  maxLimit : s'.table.buffer.maxLimit = s.table.buffer.maxLimit
  turn :
    Scene.Turn s.table.buffer.maxLimit (s.scene H) (s'.scene H)

/- Such a step in which nothing begins. -/
structure Passes
    (H : Holdings σ key)
    (s s' : TableTraffic σ ρ κ) : Prop where
  attends : s'.table.buffer.Attends s'.flights
  maxLimit : s'.table.buffer.maxLimit = s.table.buffer.maxLimit
  passage :
    Scene.Passage s.table.buffer.maxLimit (s.scene H)
      (s'.scene H)

variable {H : Holdings σ key}
variable {s s' : TableTraffic σ ρ κ}

/- A step in which nothing changes that a scene shows. -/
theorem passes_stay
    (hAttends : s.table.buffer.Attends s.flights)
    (hFeed : s'.table.feed = s.table.feed)
    (hFlights : s'.flights = s.flights) :
    Passes H s s' := by
  have hBuffer : s'.table.buffer = s.table.buffer :=
    congrArg Feed.buffer hFeed
  have hScene : s'.scene H = s.scene H := by
    unfold scene Controller.window Controller.buffer
    rw [hFeed, hFlights]
  refine ⟨?_, congrArg Buffer.maxLimit hBuffer, ?_⟩
  · rw [hBuffer, hFlights]
    exact hAttends
  · rw [hScene]
    exact .stay

/- A load is answered, or is gone. -/
theorem passes_exchange
    (hAttends : s.table.buffer.Attends s.flights)
    (before after : List (Flight ρ κ))
    (old new : Option (Flight ρ κ))
    (hFeed : s'.table.feed = s.table.feed)
    (hOld : s.flights = before ++ old.toList ++ after)
    (hNew : s'.flights = before ++ new.toList ++ after)
    (hReply : ∀ g ∈ new, ∃ f ∈ old, ∃ reply,
      f.load.isDone = false ∧
        (Conduct.growing key).Answers (s.scene H).source
          (f.load.query s.table.buffer.maxLimit) (.ok reply) ∧
        g = f.receive key s.table.buffer.maxLimit
          (reply.getD [])) :
    Passes H s s' := by
  have hBuffer : s'.table.buffer = s.table.buffer :=
    congrArg Feed.buffer hFeed
  rw [hOld] at hAttends
  have hPlan : ∀ g ∈ new, ∃ f ∈ old, g.plan = f.plan := by
    intro g hMem
    rcases hReply g hMem with ⟨f, hFrom, reply, -, -, hSame⟩
    exact ⟨f, hFrom, by rw [hSame]; rfl⟩
  rcases hAttends.exchange hPlan with ⟨hAfter, hUnderWay⟩
  refine ⟨?_, congrArg Buffer.maxLimit hBuffer, ?_⟩
  · rw [hBuffer, hNew]
    exact hAfter
  · unfold scene Controller.window
    rw [hFeed, hBuffer, hOld, hNew]
    rcases hUnderWay with hSame | ⟨f, hFrom, hAll, hNow⟩
    · rw [hSame]
      exact .stay
    · rw [hAll, hNow]
      cases new with
      | none => exact .lose
      | some g =>
          rcases hReply g rfl with
            ⟨f', hFrom', reply, hOpen, hAnswer, hSame⟩
          rw [hFrom] at hFrom'
          cases hFrom'
          rw [hSame]
          exact .answer f reply hOpen hAnswer

/- A load ends. -/
theorem passes_commit
    (hAttends : s.table.buffer.Attends s.flights)
    (before after : List (Flight ρ κ))
    (f : Flight ρ κ)
    (hSource : s'.table.feed.source = s.table.feed.source)
    (hBuffer :
      s'.table.buffer = (s.table.buffer.commit key f).1)
    (hDone : f.load.isDone = true)
    (hOld : s.flights = before ++ f :: after)
    (hNew : s'.flights = before ++ after) :
    Passes H s s' := by
  rw [hOld] at hAttends
  rcases hAttends.commit key with ⟨hAfter, hUnderWay⟩
  refine ⟨?_, ?_, ?_⟩
  · rw [hBuffer, hNew]
    exact hAfter
  · rw [hBuffer]
    unfold Buffer.commit
    split <;> rfl
  · have hWindow :
        s'.table.window = (s.table.buffer.commit key f).1.window :=
      congrArg Buffer.window hBuffer
    unfold scene
    rw [hSource, hBuffer, hWindow, hOld, hNew]
    rcases hUnderWay with
      ⟨hAll, hNone, hNext⟩ | ⟨-, hSame, hNext⟩
    · rw [hAll, hNone, hNext]
      exact .commit f hDone
    · rw [hSame, hNext]
      exact .stay

/- Nothing needs to begin in a step of the scene. -/
theorem Passes.proceeds
    (hPasses : Passes H s s') :
    Proceeds H s s' :=
  ⟨hPasses.attends, hPasses.maxLimit, .pass hPasses.passage⟩

/- A load begins, and supersedes what was under way. -/
theorem proceeds_begin
    (hAttends : s.table.buffer.Attends s.flights)
    (before after : List (Flight ρ κ))
    (f : Flight ρ κ)
    (hSource : s'.table.feed.source = s.table.feed.source)
    (hLimit :
      s'.table.buffer.maxLimit = s.table.buffer.maxLimit)
    (hLater :
      s.table.buffer.guard.generation <
        s'.table.buffer.guard.generation)
    (hCurrent : s'.table.buffer.isCurrent f.plan = true)
    (hBefore : ∀ g ∈ before, g ∈ s.flights)
    (hAfter : ∀ g ∈ after, g ∈ s.flights)
    (hNew : s'.flights = before ++ f :: after)
    (hTurn : ∀ loads,
      Scene.Turn s.table.buffer.maxLimit
        ⟨(s.scene H).source, s.table.window, loads⟩
        ⟨(s.scene H).source, s'.table.window, [f]⟩) :
    Proceeds H s s' := by
  have hEarlier : ∀ g ∈ s.flights,
      g.plan.ticket.generation <
        s'.table.buffer.guard.generation := by
    intro g hMem
    rcases hAttends.stale g hMem with hNow | hStale
    · rw [← Buffer.generation_of_isCurrent hNow]
      exact hLater
    · exact UInt64.lt_trans hStale hLater
  rcases Buffer.attends_begin hCurrent
      (fun g hMem => hEarlier g (hBefore g hMem))
      (fun g hMem => hEarlier g (hAfter g hMem)) with
    ⟨hNext, hUnderWay⟩
  rw [← hNew] at hNext hUnderWay
  refine ⟨hNext, hLimit, ?_⟩
  unfold scene
  rw [hUnderWay, hSource]
  exact hTurn _

omit [LinearOrder κ] [Listing σ ρ κ] in
/- While aborts are few, each begins a later generation. -/
theorem Timely.generation_lt
    (hTimely : s.Timely)
    {c : Controller σ ρ κ}
    (hPast : c.past.length = s.table.past.length)
    (hAbort :
      c.buffer.guard.generation ≠
        s.table.buffer.guard.generation)
    (hFew : (s.become c).aborts < 2 ^ 64) :
    s.table.buffer.guard.generation <
      c.buffer.guard.generation := by
  have hGrows :=
    Controller.generation_mono (Nat.le_of_eq hPast.symm)
      (hTimely.generations s.table.past.length) hFew
  have hNow := c.generation_current
  rw [hPast] at hNow
  rw [s.table.generation_current, hNow] at hGrows
  exact UInt64.lt_of_le_of_ne hGrows hAbort.symm

------------------------------------------------------------
-- Timers That Are Paused
------------------------------------------------------------

/- An operation that loads nothing drops the tick, or nothing. -/
theorem passes_retime
    (hAttends : s.table.buffer.Attends s.flights)
    {c : Controller σ ρ κ}
    (view : AutoRefresh ρ κ)
    (aborts : Nat)
    (hTable : c = { s.table with strategy := .live view })
    (hTick : ticking? c = none) :
    Passes H s ⟨c, s.promises, aborts⟩ := by
  refine passes_exchange hAttends [] s.moves (ticking? s.table)
    none ?_ rfl ?_ fun g hMem => absurd hMem (Option.not_mem_none g)
  · rw [hTable]
  · unfold flights moves
    dsimp only
    rw [hTick, hTable]
    rfl

/- A table is paused, or resumed, if it is live. -/
theorem passes_togglePause
    (hAttends : s.table.buffer.Attends s.flights)
    (now : Nat) :
    Passes H s (s.step (.ask now .togglePause)) := by
  have hStep :
      s.step (.ask now .togglePause) =
        ⟨(s.table.togglePause now).1, s.promises,
          s.aborts +
            s.table.abortsSince (s.table.togglePause now).1⟩ := by
    show TableTraffic.mk _ (s.promises ++ []) _ = _
    rw [List.append_nil]
    rfl
  rw [hStep]
  unfold Controller.togglePause
  split
  · next view hLive =>
      refine passes_retime hAttends (view.toggle now) _ rfl ?_
      unfold ticking? AutoRefresh.toggle
      dsimp only
      split
      · next due flight hNext =>
          split at hNext <;> cases hNext
      · rfl
  · exact passes_stay hAttends rfl rfl

/- So is a table that is resumed in any case. -/
theorem passes_resume
    (hAttends : s.table.buffer.Attends s.flights)
    (now : Nat) :
    Passes H s (s.step (.ask now .resume)) := by
  have hStep :
      s.step (.ask now .resume) =
        ⟨s.table.resume now, s.promises,
          s.aborts + s.table.abortsSince (s.table.resume now)⟩ := by
    show TableTraffic.mk _ (s.promises ++ []) _ = _
    rw [List.append_nil]
    rfl
  rw [hStep]
  unfold Controller.resume
  split
  · next view hLive =>
      exact passes_retime hAttends (view.resume now) _ rfl rfl
  · exact passes_stay hAttends rfl rfl

------------------------------------------------------------
-- Moves
------------------------------------------------------------

/- The query of a move is answered, well or not. -/
theorem passes_answerMove
    (hAttends : s.table.buffer.Attends s.flights)
    {place : Nat}
    {m : Move ρ κ}
    {reply : Reply ρ}
    (hMove : s.promises[place]? = some (.pending m))
    (hOpen : m.flight.load.isDone = false)
    (hTruthful : s.Truthful H (.answer place reply)) :
    Passes H s (s.answerMove place m reply) := by
  rcases flights_at hMove with ⟨before, after, hOld, hNew⟩
  cases reply with
  | error e =>
      exact passes_exchange hAttends before after _ none rfl
        hOld (hNew _)
        fun g hMem => absurd hMem (Option.not_mem_none g)
  | ok rows =>
      refine passes_exchange hAttends before after _ _ rfl
        hOld (hNew _) fun g hMem => ?_
      rcases Promise.of_mem_flightOn? hMem with ⟨hFeed, hSame⟩
      have hFlight :
          (Promise.pending m).flightOn? s.table.past.length =
            some m.flight := Promise.flightOn?_of_eq hFeed
      have hAnswer := hTruthful _ hMove _ hFlight
      have hCurrent : s.table.feedAt m.feed = s.table.feed := by
        rw [hFeed, Controller.feedAt_current]
      refine ⟨m.flight, hFlight, rows, hOpen, hAnswer, ?_⟩
      rw [hSame]
      dsimp only
      rw [hCurrent, H.key_eq]
      rfl

/- A move is given up. -/
theorem passes_drop
    (hAttends : s.table.buffer.Attends s.flights)
    {place : Nat}
    {m : Move ρ κ}
    (hMove : s.promises[place]? = some (.pending m)) :
    Passes H s (s.resolve place .dropped) := by
  rcases flights_at hMove with ⟨before, after, hOld, hNew⟩
  exact passes_exchange hAttends before after _ none rfl
    hOld (hNew _)
    fun g hMem => absurd hMem (Option.not_mem_none g)

/- A move that has loaded everything ends. -/
theorem passes_finishMove
    (hAttends : s.table.buffer.Attends s.flights)
    (hTimely : s.Timely)
    {place : Nat}
    {m : Move ρ κ}
    (hMove : s.promises[place]? = some (.pending m))
    (hDone : m.flight.load.isDone = true) :
    Passes H s (s.finishMove place m) := by
  rcases flights_at hMove with ⟨before, after, hOld, hNew⟩
  have hFlights :
      (s.finishMove place m).flights = before ++ after := by
    have hKept := hNew (.kept (.ok (s.table.finish m).2))
    rw [show (Promise.kept (.ok (s.table.finish m).2) :
      Promise ρ κ).flightOn? s.table.past.length = none from rfl]
      at hKept
    rw [Option.toList_none, List.append_nil] at hKept
    rw [← hKept]
    exact flights_congr (s.table.strategy_finish m)
      (s.table.finish_parts m).2.2 rfl
  have hPlace :=
    (hTimely.moves m (List.mem_of_getElem? hMove)).feed
  by_cases hFeed : m.feed = s.table.past.length
  · rcases s.table.finish_feed m hFeed with
      ⟨-, hSource, hBuffer⟩
    rw [H.key_eq] at hBuffer
    rw [Promise.flightOn?_of_eq hFeed, Option.toList_some,
      List.append_assoc] at hOld
    exact passes_commit hAttends before after m.flight hSource
      hBuffer hDone hOld hFlights
  · rw [Promise.flightOn?_of_ne hFeed, Option.toList_none,
      List.append_nil] at hOld
    exact passes_stay hAttends (s.table.finish_past m (by omega))
      (hFlights.trans hOld.symm)

------------------------------------------------------------
-- Ticks
------------------------------------------------------------

omit [LinearOrder κ] [Listing σ ρ κ] in
/- Only the live view of a table ticks. -/
theorem exists_loading
    {c : Controller σ ρ κ}
    {f : Flight ρ κ}
    (hTick : ticking? c = some f) :
    ∃ view due, c.strategy = .live view ∧
      view.timer = .loading due f := by
  unfold ticking? at hTick
  split at hTick
  · next due flight hLive =>
      cases hTick
      exact ⟨_, due, hLive, rfl⟩
  · cases hTick

omit [LinearOrder κ] in
/- A tick that is loading ends with what it has loaded. -/
theorem endTick_of_loading
    [DecidableEq κ]
    {c : Controller σ ρ κ}
    {view : AutoRefresh ρ κ}
    {due : Nat}
    {f : Flight ρ κ}
    (hLive : c.strategy = .live view)
    (hTimer : view.timer = .loading due f)
    (loaded : Option (Flight ρ κ)) :
    c.endTick loaded =
      { c.setBuffer
          (match loaded with
            | some flight => (c.buffer.commit c.key flight).1
            | none => c.buffer) with
        strategy := .live (view.countTick due) } := by
  unfold Controller.endTick
  rw [hLive]
  rcases view with ⟨period, hPeriod, maxCount, count, paused, timer⟩
  cases hTimer
  rfl

omit [LinearOrder κ] [Listing σ ρ κ] in
/- A tick that was counted is over. -/
theorem ticking?_countTick
    {c : Controller σ ρ κ}
    {view : AutoRefresh ρ κ}
    {due : Nat}
    (hLive : c.strategy = .live (view.countTick due)) :
    ticking? c = none := by
  unfold ticking?
  rw [hLive]
  unfold AutoRefresh.countTick
  dsimp only
  split
  · next due flight hNext => split at hNext <;> cases hNext
  · rfl

/- A timer that is not waiting does not tick. -/
theorem passes_tick
    (hAttends : s.table.buffer.Attends s.flights)
    (hIdle : ∀ view due, s.table.strategy = .live view →
      view.timer ≠ .waiting due) :
    Passes H s (s.step .tick) := by
  have hSame : s.table.beginTick = s.table := by
    unfold Controller.beginTick
    split
    · next view hLive =>
        have hView :
            view.beginTick s.table.key s.table.buffer =
              (view, s.table.buffer) := by
          unfold AutoRefresh.beginTick
          split
          · next due hTimer =>
              exact absurd hTimer (hIdle view due hLive)
          · rfl
        rw [hView]
        dsimp only
        rw [← hLive]
        rfl
    · rfl
  show Passes H s (s.become s.table.beginTick)
  rw [hSame]
  exact passes_stay hAttends rfl rfl

/- The timer ticks, or is not waiting. -/
theorem proceeds_tick
    (hAttends : s.table.buffer.Attends s.flights)
    (hTimely : s.Timely)
    (hFew : (s.step .tick).aborts < 2 ^ 64) :
    Proceeds H s (s.step .tick) := by
  by_cases hWaiting : ∃ view due,
      s.table.strategy = .live view ∧ view.timer = .waiting due
  · rcases hWaiting with ⟨view, due, hLive, hTimer⟩
    let b := s.table.buffer.abort
    let f := b.beginRefresh key
    have hBegun :
        s.table.beginTick =
          { s.table.setBuffer b with
            strategy :=
              .live { view with timer := .loading due f } } := by
      unfold Controller.beginTick
      rw [hLive]
      dsimp only
      unfold AutoRefresh.beginTick
      rw [hTimer]
      show { s.table.setBuffer b with
        strategy := Strategy.live { view with
          timer := .loading due
            (b.beginRefresh s.table.key) } } = _
      rw [show s.table.key = key from H.key_eq _]
    have hBegin : b.begin key .refresh = .ok f := rfl
    rcases Buffer.begin_eq_ok_iff.mp hBegin with
      ⟨hPlan, hCourse⟩
    change (s.become s.table.beginTick).aborts < _ at hFew
    show Proceeds H s (s.become s.table.beginTick)
    rw [hBegun] at hFew ⊢
    refine proceeds_begin hAttends [] s.moves f rfl rfl
      (hTimely.generation_lt rfl
        (Guard.generation_abort_ne _) hFew) ?_
      (fun g hMem => absurd hMem List.not_mem_nil)
      (fun g hMem => List.mem_append_right _ hMem) rfl
      fun loads => .refresh f hCourse
    rw [hPlan]
    exact Buffer.isCurrent_plan key b
  · refine (passes_tick hAttends ?_).proceeds
    intro view due hLive hTimer
    exact hWaiting ⟨view, due, hLive, hTimer⟩

/- The query of a tick is answered, well or not. -/
theorem passes_answerTick
    (hAttends : s.table.buffer.Attends s.flights)
    (reply : Reply ρ)
    (hTruthful : s.Truthful H (.answerTick reply)) :
    Passes H s (s.step (.answerTick reply)) := by
  unfold step
  dsimp only
  split
  · next f hTick =>
      rcases exists_loading hTick with
        ⟨view, due, hLive, hTimer⟩
      split
      · exact passes_stay hAttends rfl rfl
      · next hOpen =>
          cases reply with
          | ok rows =>
              have hFed :
                  feedTick s.table (rows.getD []) =
                    { s.table with
                      strategy := .live { view with
                        timer := .loading due
                          (f.receive s.table.key
                            s.table.buffer.maxLimit
                            (rows.getD [])) } } := by
                unfold feedTick
                rw [hLive]
                dsimp only
                rw [hTimer]
              dsimp only
              rw [hFed]
              refine passes_exchange hAttends [] s.moves
                (ticking? s.table)
                (some (f.receive s.table.key
                  s.table.buffer.maxLimit (rows.getD [])))
                rfl rfl rfl fun g hMem => ?_
              refine ⟨f, hTick, rows, by simpa using hOpen,
                hTruthful f hTick, ?_⟩
              rw [← Option.some_inj.mp hMem,
                show s.table.key = key from H.key_eq _]
          | error e =>
              dsimp only
              rw [endTick_of_loading hLive hTimer none]
              exact passes_retime hAttends
                (view.countTick due) _ rfl (ticking?_countTick rfl)
  · exact passes_stay hAttends rfl rfl

/- A tick that has loaded everything ends. -/
theorem passes_finishTick
    (hAttends : s.table.buffer.Attends s.flights) :
    Passes H s (s.step .finishTick) := by
  unfold step
  dsimp only
  split
  · next f hTick =>
      rcases exists_loading hTick with
        ⟨view, due, hLive, hTimer⟩
      split
      · next hDone =>
          rw [endTick_of_loading hLive hTimer (some f)]
          dsimp only
          rw [show s.table.key = key from H.key_eq _]
          refine passes_commit hAttends [] s.moves f rfl rfl
            hDone ?_ ?_
          · unfold flights
            rw [hTick]
            rfl
          · unfold flights
            rw [ticking?_countTick rfl]
            rfl
      · exact passes_stay hAttends rfl rfl
  · exact passes_stay hAttends rfl rfl

------------------------------------------------------------
-- Sources
------------------------------------------------------------

/- A source changes: the one in use, or one that was replaced. -/
theorem source_step
    (s : TableTraffic σ ρ κ)
    (feed : Nat)
    (next : σ) :
    let s' := s.step (.source feed next)
    s'.flights = s.flights ∧
      s'.table.buffer = s.table.buffer ∧
      s'.table.past.length = s.table.past.length ∧
      s'.table.feed.source =
        if s.table.past.length ≤ feed then next
        else s.table.feed.source := by
  intro s'
  have hTable :
      s'.table = s.table.setFeedAt feed
        { s.table.feedAt feed with source := next } := rfl
  by_cases hPast : feed < s.table.past.length
  · rw [if_neg (by omega), hTable]
    have hFlights : s'.flights = s.flights := by
      refine flights_congr ?_ ?_ rfl
      all_goals
        rw [hTable]
        unfold Controller.setFeedAt
        rw [if_pos hPast]
      exact List.length_set
    refine ⟨hFlights, ?_⟩
    unfold Controller.setFeedAt
    rw [if_pos hPast]
    exact ⟨rfl, List.length_set, rfl⟩
  · rw [if_pos (Nat.not_lt.mp hPast), hTable]
    rw [s.table.feedAt_of_le (Nat.not_lt.mp hPast)] at hTable ⊢
    have hFlights : s'.flights = s.flights := by
      refine flights_congr ?_ ?_ rfl
      all_goals
        rw [hTable]
        unfold Controller.setFeedAt
        rw [if_neg hPast]
    refine ⟨hFlights, ?_⟩
    unfold Controller.setFeedAt
    rw [if_neg hPast]
    exact ⟨rfl, rfl, rfl⟩

------------------------------------------------------------
-- Whatever Is Not Asked
------------------------------------------------------------

/- How a table is shown, and its feed, depend on what is asked. -/
theorem parts_of_not_asked
    {event : Event σ ρ}
    (hAsk : ∀ now errand, event ≠ .ask now errand) :
    (s.step event).table.mode = s.table.mode ∧
      (s.step event).table.past.length =
        s.table.past.length := by
  have hStride := s.stride_step event
  generalize s.step event = s' at hStride
  cases hStride with
  | ask now errand => exact absurd rfl (hAsk now errand)
  | answer place m reply hMove hOpen =>
      unfold answerMove
      split <;> exact ⟨rfl, rfl⟩
  | finish place m hMove hDone => exact (s.table.finish_parts m).2
  | drop place => exact ⟨rfl, rfl⟩
  | time event c hPassive hSame => exact ⟨hSame.mode, hSame.past⟩
  | idle event _ => exact ⟨rfl, rfl⟩

/-
  An event in which nothing is asked of the table, no tick
  begins, and its source stays as it is, lets its scene pass.
-/
theorem passes_of_not_asked
    (hAttends : s.table.buffer.Attends s.flights)
    (hTimely : s.Timely)
    (event : Event σ ρ)
    (hAsk : ∀ now errand, event ≠ .ask now errand)
    (hSource : ∀ feed next, event ≠ .source feed next)
    (hTick : event ≠ .tick)
    (hTruthful : s.Truthful H event) :
    Passes H s (s.step event) := by
  have hIdle : Passes H s s := passes_stay hAttends rfl rfl
  cases event with
  | ask now errand => exact absurd rfl (hAsk now errand)
  | answer place reply =>
      unfold step
      dsimp only
      split
      · next m hMove =>
          split
          · exact hIdle
          · next hOpen =>
              exact passes_answerMove hAttends hMove
                (by simpa using hOpen) hTruthful
      · exact hIdle
  | finish place =>
      unfold step
      dsimp only
      split
      · next m hMove =>
          split
          · next hDone =>
              exact passes_finishMove hAttends hTimely hMove hDone
          · exact hIdle
      · exact hIdle
  | drop place =>
      unfold step
      dsimp only
      split
      · next m hMove => exact passes_drop hAttends hMove
      · exact hIdle
  | tick => exact absurd rfl hTick
  | answerTick reply =>
      exact passes_answerTick hAttends reply hTruthful
  | finishTick => exact passes_finishTick hAttends
  | source feed next => exact absurd rfl (hSource feed next)

end TableTraffic

end LedgerView
