import LedgerView.Proofs.Table.Anew
import LedgerView.Proofs.Table.Scene

/-
  Live tables under traffic.

  Whatever goes live is aborted first, and so is a live table
  before it is refreshed, ticks, or takes another page size.  So
  every event of a live table that is only tended is a step of
  its scene.

  Key definitions include:
    * `TableTraffic.Attended`
    * `TableTraffic.Allows`

  Key theorems include:
    * `TableTraffic.proceeds_step`
    * `TableTraffic.live_step`
-/

namespace LedgerView

variable {σ ρ κ : Type}

/- The operations by which a live table is tended. -/
def Errand.Tends : Errand σ → Prop
  | .refresh | .togglePause | .resume => True
  | .setPageSize pageSize => pageSize ≤ maxWord
  | _ => False

instance :
    (errand : Errand σ) → Decidable errand.Tends
  | .refresh | .togglePause | .resume => .isTrue trivial
  | .setPageSize pageSize =>
      inferInstanceAs (Decidable (pageSize ≤ maxWord))
  | .mount | .unmount | .live | .goto _ | .next | .previous
  | .replace _ => .isFalse id

/- A table in that mode has a live view. -/
theorem Controller.live_of_mode
    {c : Controller σ ρ κ}
    (hMode : c.mode = .autoRefresh) :
    ∃ view, c.strategy = .live view := by
  unfold mode at hMode
  split at hMode
  · cases hMode
  · next view hView => exact ⟨view, hView⟩
  · cases hMode

namespace TableTraffic

variable [LinearOrder κ] [Listing σ ρ κ]
variable {key : ρ → κ}

/- What holds of a table while it is live. -/
structure Attended
    (s : TableTraffic σ ρ κ) : Prop where
  live : ∃ view, s.table.strategy = .live view
  attends : s.table.buffer.Attends s.flights

------------------------------------------------------------
-- What Is Allowed
------------------------------------------------------------

/-
  What may happen to a live table.  It is asked only to refresh,
  to pause or resume, or to change its page size; its source
  answers truthfully or fails; and the source gains newer rows,
  but not while a refresh is under way.
-/
def Allows
    (H : Holdings σ key)
    (s : TableTraffic σ ρ κ) : Event σ ρ → Prop
  | .ask _ errand => errand.Tends
  | .answer place reply =>
      ∀ p ∈ s.promises[place]?,
        ∀ f ∈ p.flightOn? s.table.past.length,
          (Conduct.growing key).Answers (s.scene H).source
            (f.load.query s.table.buffer.maxLimit) reply
  | .answerTick reply =>
      ∀ f ∈ ticking? s.table,
        (Conduct.growing key).Answers (s.scene H).source
          (f.load.query s.table.buffer.maxLimit) reply
  | .source feed next =>
      s.table.past.length ≤ feed →
        (Conduct.growing key).Becomes (s.scene H).source
            (H.archive next) ∧
          ((s.scene H).Refreshing →
            (H.archive next).rows = (s.scene H).source.rows)
  | .finish _ | .drop _ | .tick | .finishTick => True

instance
    [DecidableEq ρ]
    (H : Holdings σ key)
    (s : TableTraffic σ ρ κ) :
    (event : Event σ ρ) → Decidable (s.Allows H event)
  | .ask _ errand => inferInstanceAs (Decidable errand.Tends)
  | .answer place reply =>
      inferInstanceAs (Decidable
        (∀ p ∈ s.promises[place]?,
          ∀ f ∈ p.flightOn? s.table.past.length,
            (Conduct.growing key).Answers (s.scene H).source
              (f.load.query s.table.buffer.maxLimit) reply))
  | .answerTick reply =>
      inferInstanceAs (Decidable
        (∀ f ∈ ticking? s.table,
          (Conduct.growing key).Answers (s.scene H).source
            (f.load.query s.table.buffer.maxLimit) reply))
  | .source feed next =>
      inferInstanceAs (Decidable
        (s.table.past.length ≤ feed →
          (Conduct.growing key).Becomes (s.scene H).source
              (H.archive next) ∧
            ((s.scene H).Refreshing →
              (H.archive next).rows = (s.scene H).source.rows)))
  | .finish _ | .drop _ | .tick | .finishTick => .isTrue trivial

variable {H : Holdings σ key}
variable {s s' : TableTraffic σ ρ κ}

------------------------------------------------------------
-- Operations of a Live Table
------------------------------------------------------------

/- An operation of a live table begins to load. -/
theorem proceeds_ask
    (hAttends : s.table.buffer.Attends s.flights)
    (hTimely : s.Timely)
    {now : Nat}
    {errand : Errand σ}
    {c : Controller σ ρ κ}
    {f : Flight ρ κ}
    (hBegun :
      s.table.undertake now errand =
        (c, some (.moving ⟨c.past.length, false, f⟩)))
    (hPast : c.past = s.table.past)
    (hStrategy : c.strategy = s.table.strategy)
    (hSource : c.feed.source = s.table.feed.source)
    (hLimit : c.buffer.maxLimit = s.table.buffer.maxLimit)
    (hAbort : c.buffer.guard = s.table.buffer.guard.abort)
    (hPlan : f.plan = c.buffer.plan key)
    (hTurn : ∀ loads,
      Scene.Turn s.table.buffer.maxLimit
        ⟨(s.scene H).source, s.table.window, loads⟩
        ⟨(s.scene H).source, c.window, [f]⟩)
    (hFew : (s.step (.ask now errand)).aborts < 2 ^ 64) :
    Proceeds H s (s.step (.ask now errand)) := by
  have hLength : c.past.length = s.table.past.length :=
    congrArg List.length hPast
  have hStep :
      s.step (.ask now errand) =
        ⟨c, s.promises ++ [.pending ⟨c.past.length, false, f⟩],
          s.aborts + s.table.abortsSince c⟩ := by
    unfold step
    dsimp only
    rw [hBegun]
    rfl
  rw [hStep] at hFew ⊢
  refine proceeds_begin hAttends s.flights [] f hSource hLimit
    (hTimely.generation_lt hLength
      (hAbort ▸ Guard.generation_abort_ne _) hFew) ?_
    (fun g hMem => hMem)
    (fun g hMem => absurd hMem List.not_mem_nil) ?_ hTurn
  · rw [hPlan]
    exact Buffer.isCurrent_plan key c.buffer
  · have hSame :
        (TableTraffic.mk c s.promises
          (s.aborts + s.table.abortsSince c)).flights =
          s.flights := flights_congr hStrategy hLength rfl
    rw [← hSame]
    exact flights_concat c s.promises false f _

/- A live table is refreshed. -/
theorem proceeds_refresh
    (hAttended : s.Attended)
    (hTimely : s.Timely)
    (now : Nat)
    (hFew : (s.step (.ask now .refresh)).aborts < 2 ^ 64) :
    Proceeds H s (s.step (.ask now .refresh)) := by
  rcases hAttended.live with ⟨view, hLive⟩
  let c := s.table.abort
  let f := c.buffer.beginRefresh key
  have hBegun :
      s.table.undertake now .refresh =
        (c, some (.moving ⟨c.past.length, false, f⟩)) := by
    show Prod.map id some s.table.beginRefresh = _
    unfold Controller.beginRefresh
    rw [hLive]
    show (c, some (Begun.moving ⟨c.past.length, false,
      c.buffer.beginRefresh c.key⟩)) = _
    rw [show c.key = key from H.key_eq _]
  have hBegin : c.buffer.begin key .refresh = .ok f := rfl
  rcases Buffer.begin_eq_ok_iff.mp hBegin with ⟨hPlan, hCourse⟩
  exact proceeds_ask hAttended.attends hTimely hBegun rfl rfl rfl
    rfl rfl hPlan (fun loads => .refresh f hCourse) hFew

/- A live table takes another page size. -/
theorem proceeds_setPageSize
    (hAttended : s.Attended)
    (hTimely : s.Timely)
    (now pageSize : Nat)
    (hWord : pageSize ≤ maxWord)
    (hFew :
      (s.step (.ask now (.setPageSize pageSize))).aborts <
        2 ^ 64) :
    Proceeds H s (s.step (.ask now (.setPageSize pageSize))) := by
  rcases hAttended.live with ⟨view, hLive⟩
  let resized := s.table.resized pageSize
  let c := resized.abort
  have hSize : c.window = s.table.window.resize pageSize :=
    s.table.window_resized pageSize
  have hPage : PageExists 1 c.window.pageSize := by
    rw [hSize]
    show (1 - 1) * max pageSize 1 + max pageSize 1 ≤ maxWord
    unfold maxWord at hWord ⊢
    omega
  have hExists :
      (Operation.move 1 (none : Option κ)).Exists
        c.buffer.window.pageSize := hPage
  rcases exists_course key c.buffer.maxLimit c.buffer.window
      hExists with
    ⟨edit, load, hCourse⟩
  let f : Flight ρ κ := ⟨c.buffer.plan key, edit, load⟩
  have hBegun :
      s.table.undertake now (.setPageSize pageSize) =
        (c, some (.moving ⟨c.past.length, false, f⟩)) := by
    show Prod.map id some (s.table.beginSetPageSize pageSize) = _
    rw [Controller.beginSetPageSize_eq, hLive]
    dsimp only
    rw [resized.beginMove_of_begin (H.key_eq _) false
      (Buffer.begin_of_course hCourse)]
    rfl
  refine proceeds_ask hAttended.attends hTimely hBegun rfl rfl rfl
    rfl rfl rfl (fun loads => ?_) hFew
  have hCourse' :
      Course key s.table.buffer.maxLimit
        (s.table.window.resize pageSize) (.move 1 none) edit
        load := by
    rw [← hSize]
    exact hCourse
  rw [hSize]
  exact .resize pageSize f hCourse'

------------------------------------------------------------
-- Steps of a Live Table
------------------------------------------------------------

/- What is allowed is truthful. -/
theorem truthful_of_allows
    {event : Event σ ρ}
    (hAllows : s.Allows H event) :
    s.Truthful H event := by
  cases event with
  | source feed next => exact fun hPast => (hAllows hPast).1
  | answer place reply => exact hAllows
  | answerTick reply => exact hAllows
  | _ => trivial

/- A source changes: the one in use, or one that was replaced. -/
theorem proceeds_source
    (hAttends : s.table.buffer.Attends s.flights)
    (feed : Nat)
    (next : σ)
    (hAllows : s.Allows H (.source feed next)) :
    Proceeds H s (s.step (.source feed next)) := by
  rcases s.source_step feed next with
    ⟨hFlights, hBuffer, -, hSource⟩
  refine ⟨?_, congrArg Buffer.maxLimit hBuffer, ?_⟩
  · rw [hBuffer, hFlights]
    exact hAttends
  · unfold scene Controller.window
    rw [hFlights, hBuffer, hSource]
    rw [show (s.step (.source feed next)).table.feed.buffer =
      s.table.feed.buffer from hBuffer]
    split
    · next hPast =>
        rcases hAllows hPast with ⟨hGrown, hStill⟩
        exact .grow hGrown hStill
    · exact .pass .stay

/- Every step of a live table is a step of its scene. -/
theorem proceeds_step
    (hAttended : s.Attended)
    (hTimely : s.Timely)
    (event : Event σ ρ)
    (hAllows : s.Allows H event)
    (hFew : (s.step event).aborts < 2 ^ 64) :
    Proceeds H s (s.step event) := by
  have hAttends := hAttended.attends
  by_cases hSource : ∃ feed next, event = .source feed next
  · rcases hSource with ⟨feed, next, rfl⟩
    exact proceeds_source hAttends feed next hAllows
  cases event with
  | ask now errand =>
      cases errand with
      | refresh => exact proceeds_refresh hAttended hTimely now hFew
      | setPageSize pageSize =>
          exact proceeds_setPageSize hAttended hTimely now pageSize
            hAllows hFew
      | togglePause =>
          exact (passes_togglePause hAttends now).proceeds
      | resume => exact (passes_resume hAttends now).proceeds
      | _ => exact absurd hAllows id
  | tick => exact proceeds_tick hAttends hTimely hFew
  | _ =>
      refine (passes_of_not_asked hAttends hTimely _ ?_ ?_ ?_
        (truthful_of_allows hAllows)).proceeds
      · intro now errand hSame
        cases hSame
      · intro feed next hSame
        exact hSource ⟨feed, next, hSame⟩
      · intro hSame
        cases hSame

/- A live table that is only tended stays live. -/
theorem live_step
    (hLive : ∃ view, s.table.strategy = .live view)
    {event : Event σ ρ}
    (hAllows : s.Allows H event) :
    ∃ view, (s.step event).table.strategy = .live view := by
  have hMode : s.table.mode = .autoRefresh := by
    rcases hLive with ⟨view, hView⟩
    unfold Controller.mode
    rw [hView]
  apply Controller.live_of_mode
  by_cases hAsk : ∃ now errand, event = .ask now errand
  · rcases hAsk with ⟨now, errand, rfl⟩
    refine (s.table.mode_undertake now errand).trans ?_
    cases errand with
    | refresh | togglePause | resume | setPageSize _ => exact hMode
    | _ => exact absurd hAllows id
  · refine (parts_of_not_asked fun now errand hSame => ?_).1.trans
      hMode
    exact hAsk ⟨now, errand, hSame⟩

end TableTraffic

end LedgerView
