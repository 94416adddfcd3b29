import LedgerView.Proofs.Live.Traffic
import LedgerView.Proofs.Table.Reopen
import LedgerView.Proofs.Table.Sizes

/-
  The live page is the newest page.

  From the moment at which a table goes live, and as long as it
  is only refreshed, paused, resumed, and given other page
  sizes, every refresh that is committed shows the newest rows
  of the source.  They fill a page, unless a page was never made
  as long as it should be, or more rows came in than one query
  gives.

  Key definitions include:
    * `TableTraffic.AllowsAll`
    * `TableTraffic.Refreshes`
    * `TableTraffic.Undisturbed`
    * `TableTraffic.Tended`

  Key theorems include:
    * `TableTraffic.tended_live`
    * `TableTraffic.tended_run`
    * `TableTraffic.live_page_newest`
-/

namespace LedgerView

variable {σ ρ κ : Type}

namespace Controller

variable [Listing σ ρ κ]
variable {c : Controller σ ρ κ}

------------------------------------------------------------
-- Going Live
------------------------------------------------------------

/- What goes live does so afresh, on its source or another. -/
theorem undertake_of_live
    {now : Nat}
    {errand : Errand σ}
    (hForgets : c.Forgets errand)
    (hLive : (c.undertake now errand).1.mode = .autoRefresh) :
    ∃ d : Controller σ ρ κ,
      c.undertake now errand = (d.beginLive now).map id some ∧
        (d = c ∨ ∃ source, d = c.supplied source) := by
  cases errand with
  | mount =>
      refine ⟨c, ?_, .inl rfl⟩
      show (c.beginMount now).map id some = _
      unfold beginMount
      rw [if_neg (by rw [hForgets]; decide)]
  | live => exact ⟨c, rfl, .inl rfl⟩
  | replace source =>
      refine ⟨c.supplied source, ?_, .inr ⟨source, rfl⟩⟩
      change (c.beginReplace now source).1.mode = _ at hLive
      show (c.beginReplace now source).map id some = _
      rw [beginReplace_eq] at hLive ⊢
      cases hMode : c.mode with
      | pagination =>
          rw [hMode] at hLive
          dsimp only at hLive
          rw [mode_beginGoto] at hLive
          cases hLive
      | autoRefresh => rfl
      | unmounted => exact absurd hMode hForgets
  | _ => exact absurd hForgets id

end Controller

namespace TableTraffic

variable [Listing σ ρ κ]

/- The pages of a table are never empty. -/
theorem pageSize_step
    [DecidableEq κ]
    {s : TableTraffic σ ρ κ}
    (hPage : 1 ≤ s.table.window.pageSize)
    (event : Event σ ρ) :
    1 ≤ (s.step event).table.window.pageSize := by
  cases event with
  | ask now errand =>
      exact Controller.pageSize_undertake now hPage errand
  | answer place reply =>
      unfold step answerMove
      dsimp only
      split
      · split
        · exact hPage
        · split <;> exact hPage
      · exact hPage
  | finish place =>
      unfold step
      dsimp only
      split
      · next m hMove =>
          split
          · show 1 ≤ (s.table.finish m).1.window.pageSize
            rw [Controller.pageSize_finish]
            exact hPage
          · exact hPage
      · exact hPage
  | drop place =>
      unfold step
      dsimp only
      split <;> exact hPage
  | tick =>
      show 1 ≤ s.table.beginTick.window.pageSize
      rw [Controller.window_beginTick]
      exact hPage
  | answerTick reply =>
      unfold step
      dsimp only
      split
      · split
        · exact hPage
        · split
          · show 1 ≤ (feedTick s.table _).window.pageSize
            rw [Controller.window_feedTick]
            exact hPage
          · show 1 ≤ (s.table.endTick none).window.pageSize
            rw [Controller.pageSize_endTick]
            exact hPage
      · exact hPage
  | finishTick =>
      unfold step
      dsimp only
      split
      · next f hTick =>
          split
          · show 1 ≤ (s.table.endTick (some f)).window.pageSize
            rw [Controller.pageSize_endTick]
            exact hPage
          · exact hPage
      · exact hPage
  | source feed next =>
      show 1 ≤ (s.table.setFeedAt feed
        { s.table.feedAt feed with
          source := next }).window.pageSize
      by_cases hFeed : feed < s.table.past.length
      · unfold Controller.setFeedAt
        rw [if_pos hFeed]
        exact hPage
      · rw [s.table.feedAt_of_le (Nat.not_lt.mp hFeed)]
        unfold Controller.setFeedAt
        rw [if_neg hFeed]
        exact hPage

/- They never become empty. -/
theorem pageSize_run
    [DecidableEq κ]
    {s : TableTraffic σ ρ κ}
    (hPage : 1 ≤ s.table.window.pageSize)
    (events : List (Event σ ρ)) :
    1 ≤ (s.run events).table.window.pageSize := by
  induction events generalizing s with
  | nil => exact hPage
  | cons event rest ih => exact ih (pageSize_step hPage event)

variable [LinearOrder κ]
variable {key : ρ → κ} {H : Holdings σ key}
variable {s : TableTraffic σ ρ κ}

/-
  What holds of a live table from the moment it goes live: what
  is under way is attended to, and the window keeps what a live
  window keeps.
-/
structure Tended
    (H : Holdings σ key)
    (s : TableTraffic σ ρ κ) : Prop where
  timely : s.Timely
  attended : s.Attended
  kept : (s.scene H).Kept s.table.buffer.maxLimit

omit [LinearOrder κ] in
/- All that was under way was begun before a table went live. -/
theorem Timely.earlier_of_live
    (hTimely : s.Timely)
    {n : Nat}
    {d : Controller σ ρ κ}
    (hFrom : d = s.table ∨ ∃ source, d = s.table.supplied source)
    (hFew : (s.become (d.beginLive n).1).aborts < 2 ^ 64) :
    let c := (d.beginLive n).1
    ∀ g ∈ s.promises.filterMap (·.flightOn? c.past.length),
      g.plan.ticket.generation < c.buffer.guard.generation := by
  intro c g hMem
  rcases List.mem_filterMap.mp hMem with ⟨p, hPromise, hFlight⟩
  cases p with
  | kept result => cases hFlight
  | dropped => cases hFlight
  | pending m =>
      rcases Promise.of_mem_flightOn? hFlight with ⟨hFeed, hSame⟩
      have hAwaits := hTimely.moves m hPromise
      rcases hFrom with hHere | ⟨source, hThere⟩
      · have hPast : c.past = s.table.past := by
          show d.past = _
          rw [hHere]
        have hAbort :
            c.buffer.guard.generation =
              s.table.buffer.guard.generation + 1 + 1 := by
          show d.buffer.guard.generation + 1 + 1 = _
          rw [hHere]
        have hAge := hAwaits.age
        rw [hFeed, hPast, s.table.generation_current] at hAge
        rw [hSame]
        refine UInt64.lt_of_le_of_lt hAge
          (hTimely.generation_lt (congrArg List.length hPast) ?_
            hFew)
        rw [hAbort]
        simp [UInt64.add_assoc]
      · -- no move was begun on a source that is new
        have hPast : c.past = (s.table.supplied source).past := by
          show d.past = _
          rw [hThere]
        have hLater : c.past.length = s.table.past.length + 1 := by
          rw [hPast]
          exact List.length_append
        have hKnown := hAwaits.feed
        omega

/- A table that goes live supersedes all that was under way. -/
theorem tended_live
    (hTimely : s.Timely)
    (hPage : 1 ≤ s.table.window.pageSize)
    {now : Nat}
    {errand : Errand σ}
    (hForgets : s.table.Forgets errand)
    (hLive : (s.step (.ask now errand)).table.mode = .autoRefresh)
    (hFew : (s.step (.ask now errand)).aborts < 2 ^ 64) :
    Tended H (s.step (.ask now errand)) ∧
      ((s.step (.ask now errand)).scene H).Whole := by
  rcases Controller.undertake_of_live hForgets hLive with
    ⟨d, hBegun, hFrom⟩
  let c := (d.beginLive now).1
  let f := c.buffer.beginRefresh key
  have hNext :
      s.step (.ask now errand) =
        ⟨c, s.promises ++ [.pending ⟨c.past.length, false, f⟩],
          s.aborts + s.table.abortsSince c⟩ := by
    unfold step
    dsimp only
    rw [hBegun]
    show TableTraffic.mk c (s.promises ++ [.pending
      ⟨c.past.length, false, c.buffer.beginRefresh c.key⟩]) _ = _
    rw [show c.key = key from H.key_eq _]
    rfl
  have hTimely' := hTimely.step (.ask now errand) hFew
  rw [hNext] at hFew hTimely' ⊢
  have hEarlier := hTimely.earlier_of_live hFrom hFew
  have hBegin : c.buffer.begin key .refresh = .ok f := rfl
  rcases Buffer.begin_eq_ok_iff.mp hBegin with ⟨hPlan, hCourse⟩
  have hCurrent : c.buffer.isCurrent f.plan = true := by
    rw [hPlan]
    exact Buffer.isCurrent_plan key c.buffer
  rcases Buffer.attends_begin hCurrent hEarlier
      (fun g hMem => absurd hMem List.not_mem_nil) with
    ⟨hAttends, hUnderWay⟩
  have hSize : 1 ≤ d.window.pageSize := by
    rcases hFrom with hHere | ⟨source, hThere⟩
    · rw [hHere]
      exact hPage
    · rw [hThere]
      exact Nat.le_max_right _ _
  let begun : TableTraffic σ ρ κ :=
    ⟨c, s.promises ++ [.pending ⟨c.past.length, false, f⟩],
      s.aborts + s.table.abortsSince c⟩
  have hFlights :
      begun.flights =
        s.promises.filterMap (·.flightOn? c.past.length) ++
          [f] :=
    flights_concat c s.promises false f _
  rw [← hFlights] at hAttends hUnderWay
  have hScene :
      begun.scene H =
        ⟨H.archive d.feed.source, d.window.reset, [f]⟩ := by
    unfold scene
    rw [hUnderWay]
    rfl
  refine ⟨⟨hTimely', ⟨⟨_, rfl⟩, hAttends⟩, ?_⟩, .inl rfl⟩
  show (begun.scene H).Kept c.buffer.maxLimit
  rw [hScene]
  exact (Scene.kept_reset _ hSize).turn c.buffer.maxLimit_pos
    (.refresh f hCourse)

/- It is kept by every event that is allowed. -/
theorem Tended.step
    (hTended : Tended H s)
    (event : Event σ ρ)
    (hAllows : s.Allows H event)
    (hFew : (s.step event).aborts < 2 ^ 64) :
    Tended H (s.step event) := by
  have hProceeds :=
    proceeds_step hTended.attended hTended.timely event hAllows
      hFew
  have hLive := live_step hTended.attended.live hAllows
  refine
    ⟨hTended.timely.step event hFew, ⟨hLive, hProceeds.attends⟩,
      ?_⟩
  rw [hProceeds.maxLimit]
  exact hTended.kept.turn s.table.buffer.maxLimit_pos
    hProceeds.turn

------------------------------------------------------------
-- Runs of a Live Table
------------------------------------------------------------

/- Every event of a run is allowed when it comes. -/
def AllowsAll
    (H : Holdings σ key)
    (s : TableTraffic σ ρ κ) : List (Event σ ρ) → Prop
  | [] => True
  | event :: rest =>
      s.Allows H event ∧ AllowsAll H (s.step event) rest

/-
  No event of a run leaves a page too short: no load that makes
  a page longer is lost, and no refresh is committed that could
  not read all that came in although a page would hold it.
-/
def Undisturbed
    (H : Holdings σ key)
    (s : TableTraffic σ ρ κ) : List (Event σ ρ) → Prop
  | [] => True
  | event :: rest =>
      ¬Scene.Shortens s.table.buffer.maxLimit (s.scene H)
          ((s.step event).scene H) ∧
        Undisturbed H (s.step event) rest

instance decidableAllowsAll
    [DecidableEq ρ]
    (H : Holdings σ key)
    (s : TableTraffic σ ρ κ) :
    (events : List (Event σ ρ)) → Decidable (s.AllowsAll H events)
  | [] => .isTrue trivial
  | event :: rest =>
      have := decidableAllowsAll H (s.step event) rest
      inferInstanceAs (Decidable (_ ∧ _))

instance decidableUndisturbed
    [DecidableEq ρ]
    (H : Holdings σ key)
    (s : TableTraffic σ ρ κ) :
    (events : List (Event σ ρ)) →
      Decidable (s.Undisturbed H events)
  | [] => .isTrue trivial
  | event :: rest =>
      have := decidableUndisturbed H (s.step event) rest
      inferInstanceAs (Decidable (_ ∧ _))

omit [LinearOrder κ] in
/- The load that an event ends, if it is on the feed in use. -/
def ending?
    (s : TableTraffic σ ρ κ) :
    Event σ ρ → Option (Flight ρ κ)
  | .finish place =>
      s.promises[place]?.bind (·.flightOn? s.table.past.length)
  | .finishTick => ticking? s.table
  | _ => none

omit [LinearOrder κ] in
/- Whether an event commits a refresh. -/
def Refreshes
    (s : TableTraffic σ ρ κ)
    (event : Event σ ρ) : Prop :=
  ∃ f ∈ s.ending? event,
    f.load.isDone = true ∧ f.edit.refreshes = true ∧
      s.table.buffer.isCurrent f.plan = true

instance
    (s : TableTraffic σ ρ κ)
    (event : Event σ ρ) : Decidable (s.Refreshes event) := by
  unfold Refreshes
  infer_instance

/- What is allowed in two parts is allowed one after the other. -/
theorem allowsAll_append
    {events more : List (Event σ ρ)} :
    s.AllowsAll H (events ++ more) ↔
      s.AllowsAll H events ∧ (s.run events).AllowsAll H more := by
  induction events generalizing s with
  | nil => exact ⟨fun hMore => ⟨trivial, hMore⟩, And.right⟩
  | cons event rest ih =>
      exact (and_congr_right fun _ => ih).trans and_assoc.symm

/- So it is with what is undisturbed. -/
theorem undisturbed_append
    {events more : List (Event σ ρ)} :
    s.Undisturbed H (events ++ more) ↔
      s.Undisturbed H events ∧
        (s.run events).Undisturbed H more := by
  induction events generalizing s with
  | nil => exact ⟨fun hMore => ⟨trivial, hMore⟩, And.right⟩
  | cons event rest ih =>
      exact (and_congr_right fun _ => ih).trans and_assoc.symm

/- A live table is tended in every run that is allowed. -/
theorem tended_run
    (hTended : Tended H s)
    {events : List (Event σ ρ)}
    (hAllows : s.AllowsAll H events)
    (hFew : (s.run events).aborts < 2 ^ 64) :
    Tended H (s.run events) := by
  induction events generalizing s with
  | nil => exact hTended
  | cons event rest ih =>
      have hNext : (s.step event).aborts < 2 ^ 64 :=
        Nat.lt_of_le_of_lt (aborts_le_run _ rest) hFew
      exact ih (hTended.step event hAllows.1 hNext) hAllows.2 hFew

/- Its page stays whole in a run that does not disturb it. -/
theorem whole_run
    (hTended : Tended H s)
    (hWhole : (s.scene H).Whole)
    {events : List (Event σ ρ)}
    (hAllows : s.AllowsAll H events)
    (hFew : (s.run events).aborts < 2 ^ 64)
    (hUndisturbed : s.Undisturbed H events) :
    ((s.run events).scene H).Whole := by
  induction events generalizing s with
  | nil => exact hWhole
  | cons event rest ih =>
      have hNext : (s.step event).aborts < 2 ^ 64 :=
        Nat.lt_of_le_of_lt (aborts_le_run _ rest) hFew
      have hProceeds : Proceeds H s (s.step event) :=
        proceeds_step hTended.attended hTended.timely event
          hAllows.1 hNext
      have hStill :=
        (hTended.kept.whole_turn s.table.buffer.maxLimit_pos
          hWhole hProceeds.turn).resolve_right hUndisturbed.1
      exact ih (hTended.step event hAllows.1 hNext) hStill
        hAllows.2 hFew hUndisturbed.2

------------------------------------------------------------
-- Committed Refreshes
------------------------------------------------------------

/- What is left by an event that commits a refresh. -/
theorem scene_of_refreshes
    (H : Holdings σ key)
    {event : Event σ ρ}
    (hRefreshes : s.Refreshes event) :
    ∃ f ∈ (s.scene H).loads,
      f.load.isDone = true ∧ f.edit.refreshes = true ∧
        (s.step event).table.feed.source =
          s.table.feed.source ∧
        (s.step event).table.window =
          f.edit.apply key f.load.rows s.table.window := by
  rcases hRefreshes with
    ⟨f, hEnding, hDone, hRefreshes, hCurrent⟩
  -- whatever ends on the feed in use is among its loads
  have hLoad (hMem : f ∈ s.flights) : f ∈ (s.scene H).loads :=
    List.mem_filter.mpr ⟨hMem, hCurrent⟩
  have hCommit :
      (s.table.buffer.commit key f).1.window =
        f.edit.apply key f.load.rows s.table.window := by
    unfold Buffer.commit
    rw [if_pos hCurrent]
    rfl
  cases event with
  | finish place =>
      rcases Option.bind_eq_some_iff.mp hEnding with
        ⟨p, hPlace, hFlight⟩
      cases p with
      | kept result => cases hFlight
      | dropped => cases hFlight
      | pending m =>
          rcases Promise.of_mem_flightOn? hFlight with
            ⟨hFeed, hSame⟩
          have hMem : f ∈ s.moves :=
            List.mem_filterMap.mpr
              ⟨_, List.mem_of_getElem? hPlace, hFlight⟩
          have hStep := step_finish hPlace (hSame ▸ hDone)
          rcases s.table.finish_feed m hFeed with
            ⟨-, hSource, hBuffer⟩
          rw [H.key_eq, ← hSame] at hBuffer
          refine ⟨f, hLoad (List.mem_append_right _ hMem), hDone,
            hRefreshes, ?_, ?_⟩
          · rw [hStep]
            exact hSource
          · rw [hStep]
            exact (congrArg Buffer.window hBuffer).trans hCommit
  | finishTick =>
      have hTick : ticking? s.table = some f := hEnding
      rcases exists_loading hTick with
        ⟨view, due, hLive, hTimer⟩
      have hMem : f ∈ s.flights := by
        unfold flights
        rw [hTick]
        exact List.mem_cons_self
      have hStep :
          s.step .finishTick =
            s.become (s.table.endTick (some f)) := by
        unfold step
        dsimp only
        rw [hTick]
        exact if_pos hDone
      rw [hStep, endTick_of_loading hLive hTimer (some f)]
      dsimp only
      rw [show s.table.key = key from H.key_eq _]
      exact ⟨f, hLoad hMem, hDone, hRefreshes, rfl, hCommit⟩
  | _ => cases hEnding

/-
  The live page is the newest page.  Whatever was asked of a
  table before it goes live, and however refreshes, ticks,
  pauses and new page sizes overlap from then on, an event that
  commits a refresh leaves the table live and shows the newest
  rows: a page of them, as far as the refresh reaches.  It
  reaches over a whole page in every run in which no event has
  left the page too short.
-/
theorem live_page_newest
    (H : Holdings σ key)
    (source : σ)
    (config : PagerConfig)
    (nav : Params)
    (names : NavNames)
    (earlier : List (Event σ ρ))
    (now : Nat)
    (errand : Errand σ)
    (later : List (Event σ ρ))
    (event : Event σ ρ) :
    let paged : TableTraffic σ ρ κ :=
      (start (.new source config nav names)).run earlier
    let first := paged.step (.ask now errand)
    let before := first.run later
    let after := before.step event
    let rows := (H.archive after.table.feed.source).rows
    let w := after.table.window
    paged.table.Forgets errand →
    first.table.mode = .autoRefresh →
    first.AllowsAll H (later ++ [event]) →
    after.aborts < 2 ^ 64 →
    before.Refreshes event →
    after.table.mode = .autoRefresh ∧
      w.pageRows =
        rows.take (min w.pageSize
          ((before.scene H).reach
            before.table.buffer.maxLimit)) ∧
      (first.Undisturbed H (later ++ [event]) →
        w.pageRows = rows.take w.pageSize) := by
  intro paged first before after rows w hForgets hLive hAllows
    hFew hRefreshes
  have hBefore : before.aborts < 2 ^ 64 :=
    Nat.lt_of_le_of_lt (before.aborts_le_step event) hFew
  have hFirst : first.aborts < 2 ^ 64 :=
    Nat.lt_of_le_of_lt (first.aborts_le_run later) hBefore
  have hPaged : paged.aborts < 2 ^ 64 :=
    Nat.lt_of_le_of_lt (paged.aborts_le_step _) hFirst
  have hTimely : paged.Timely :=
    timely_run (timely_start source config nav names) earlier
      hPaged
  have hPage : 1 ≤ paged.table.window.pageSize :=
    pageSize_run (s := start (.new source config nav names))
      (Nat.le_max_right config.pageSize 1) earlier
  rcases tended_live (H := H) hTimely hPage hForgets hLive
    hFirst with ⟨hTended, hWhole⟩
  rcases allowsAll_append.mp hAllows with ⟨hLater, hEvent, -⟩
  have hTendedBefore : Tended H before :=
    tended_run hTended hLater hBefore
  have hTendedAfter := hTendedBefore.step event hEvent hFew
  rcases scene_of_refreshes H hRefreshes with
    ⟨f, hLoad, hDone, hRefresh, hSource, hWindow⟩
  have hSize : w.pageSize = before.table.window.pageSize := by
    show (before.step event).table.window.pageSize = _
    rw [hWindow, Edit.apply_pageSize]
  have hRows : rows = (before.scene H).source.rows := by
    show (H.archive (before.step event).table.feed.source).rows = _
    rw [hSource]
    rfl
  have hShown :=
    hTendedBefore.kept.pageRows_of_refresh
      before.table.buffer.maxLimit_pos hLoad hDone hRefresh
  have hPageRows :
      w.pageRows =
        rows.take (min w.pageSize
          ((before.scene H).reach
            before.table.buffer.maxLimit)) := by
    rw [hRows, hSize]
    exact (congrArg Window.pageRows hWindow).trans hShown
  refine ⟨?_, hPageRows, fun hUndisturbed => ?_⟩
  · rcases hTendedAfter.attended.live with ⟨view, hView⟩
    show after.table.mode = _
    unfold Controller.mode
    rw [hView]
  · rcases undisturbed_append.mp hUndisturbed with
      ⟨hCalm, hShortens, -⟩
    have hWholeBefore : (before.scene H).Whole :=
      whole_run hTended hWhole hLater hBefore hCalm
    have hLengthening :=
      hTendedBefore.kept.not_lengthening hLoad hRefresh
    have hFlooded :
        ¬(before.scene H).Flooded before.table.buffer.maxLimit := by
      intro hFlooded
      have hChanged :=
        hTendedBefore.kept.rows_ne_of_flooded
          before.table.buffer.maxLimit_pos hLoad hDone hRefresh
          hFlooded
      refine hShortens (.inr
        ⟨⟨f, hLoad, hRefresh⟩, hFlooded, fun hSame => ?_⟩)
      exact hChanged
        ((congrArg Window.rows hWindow).symm.trans hSame)
    rw [hPageRows, hRows, hSize]
    exact hTendedBefore.kept.take_reach hWholeBefore
      hLengthening hFlooded

------------------------------------------------------------
-- Rows That Come In
------------------------------------------------------------

/- A spring whose rows do not change by themselves. -/
def springs : Holdings Spring (id : Nat → Nat) where
  archive := Spring.archive
  key_eq := Spring.chronicle.key_eq

/- A table of the first numbers. -/
def numbers
    (count pageSize maxLimit : Nat) :
    TableTraffic Spring Nat Nat :=
  start
    (.new ⟨count, 0⟩
      { pageSize := pageSize, maxLimit := maxLimit } .empty {})

/-
  A table goes live; its page is made longer, a row comes in,
  and the timer ticks.
-/
def lengthened : List (Event Spring Nat) :=
  [.answer 1 (.ok (some [4, 3])), .finish 1,
   .ask 10 (.setPageSize 3), .answer 2 (.ok (some [2])),
   .finish 2, .source 0 ⟨6, 0⟩, .tick,
   .answerTick (.ok (some [5, 4]))]

/- The tick shows the row that came in on a whole page. -/
theorem live_page_newest_lengthened :
    let paged := (numbers 5 2 2).run [.ask 0 (.goto 1)]
    let first := paged.step (.ask 5 .live)
    let before := first.run lengthened
    let after := before.step .finishTick
    (paged.table.Forgets .live ∧
      first.table.mode = .autoRefresh ∧
      first.AllowsAll springs (lengthened ++ [.finishTick]) ∧
      after.aborts < 2 ^ 64 ∧ before.Refreshes .finishTick ∧
      first.Undisturbed springs (lengthened ++ [.finishTick])) ∧
    after.table.window.pageRows = [5, 4, 3] ∧
    after.table.window.pageRows =
      (springs.archive after.table.feed.source).rows.take
        after.table.window.pageSize := by
  intro paged first before after
  have hForgets : paged.table.Forgets .live := trivial
  have hLive : first.table.mode = .autoRefresh := by
    decide +kernel
  have hAllows :
      first.AllowsAll springs (lengthened ++ [.finishTick]) := by
    decide +kernel
  have hFew : after.aborts < 2 ^ 64 := by decide +kernel
  have hRefreshes : before.Refreshes .finishTick := by
    decide +kernel
  have hUndisturbed :
      first.Undisturbed springs
        (lengthened ++ [.finishTick]) := by
    decide +kernel
  have hRows : after.table.window.pageRows = [5, 4, 3] := by
    decide +kernel
  have hNewest :=
    live_page_newest springs ⟨5, 0⟩
      { pageSize := 2, maxLimit := 2 } .empty {}
      [.ask 0 (.goto 1)] 5 .live lengthened .finishTick hForgets
      hLive hAllows hFew hRefreshes
  have hPage := hNewest.2.2 hUndisturbed
  refine
    ⟨⟨hForgets, hLive, hAllows, hFew, hRefreshes, hUndisturbed⟩,
      hRows, ?_⟩
  -- the names are spelled out lest the run be computed again
  dsimp only [after, before, first, paged, numbers]
  exact hPage

/-
  The two ways in which a page comes out too short.  Two rows
  come in at once, and one query gives only one of them; a tick
  comes before the page has been made longer.
-/
theorem live_page_too_short :
    (let first := (numbers 2 2 1).step (.ask 0 .live)
      let later : List (Event Spring Nat) :=
        [.answer 0 (.ok (some [1])), .answer 0 (.ok (some [0])),
         .finish 0, .source 0 ⟨4, 0⟩, .tick,
         .answerTick (.ok (some [3]))]
      let after := (first.run later).step .finishTick
      first.AllowsAll springs (later ++ [.finishTick]) ∧
        (first.run later).Refreshes .finishTick ∧
        after.table.window.pageRows = [3] ∧
        (springs.archive after.table.feed.source).rows.take
          after.table.window.pageSize = [3, 2]) ∧
    (let first := (numbers 3 1 50).step (.ask 0 .live)
      let later : List (Event Spring Nat) :=
        [.answer 0 (.ok (some [2])), .finish 0,
         .ask 10 (.setPageSize 3), .tick,
         .answerTick (.ok (some [2]))]
      let after := (first.run later).step .finishTick
      first.AllowsAll springs (later ++ [.finishTick]) ∧
        (first.run later).Refreshes .finishTick ∧
        after.table.window.pageRows = [2] ∧
        (springs.archive after.table.feed.source).rows.take
          after.table.window.pageSize = [2, 1, 0]) := by
  decide +kernel

end TableTraffic

end LedgerView
