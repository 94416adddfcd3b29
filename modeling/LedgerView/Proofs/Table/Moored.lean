import LedgerView.Proofs.Live.Moored
import LedgerView.Proofs.Table.Anew
import LedgerView.Proofs.Table.Scene

/-
  Tables whose windows stand.

  If whatever is opened at a key is opened at one that is deep
  enough, then the window of a table stands on its source,
  however operations overlap.

  Key definitions include:
    * `TableTraffic.Moored`

  Key theorems include:
    * `TableTraffic.Moored.step`
    * `TableTraffic.moored_run`
-/

namespace LedgerView

variable {σ ρ κ : Type}

------------------------------------------------------------
-- Tables That Begin Anew
------------------------------------------------------------

namespace Controller

variable [LinearOrder κ] [Listing σ ρ κ]
variable {key : ρ → κ} {c c' : Controller σ ρ κ}

/- A table that begins anew begins on a window that stands, -/
theorem Restarts.stands
    (H : Holdings σ key)
    (hRestarts : c.Restarts c')
    (hStands : c.window.Stands (H.archive c.feed.source)) :
    c'.window.Stands (H.archive c'.feed.source) := by
  cases hRestarts with
  | same hSource hWindow hLive =>
      rw [hSource, hWindow]
      exact hStands
  | cleared hSource hWindow =>
      rw [hSource, hWindow]
      exact hStands.reset
  | resized pageSize hSource hWindow hLive =>
      rw [hSource, hWindow]
      exact hStands.resize pageSize
  | supplied pageSize hWindow =>
      rw [hWindow]
      exact Window.stands_empty _ pageSize

omit [LinearOrder κ] [Listing σ ρ κ] in
/- which is shown from its first row if the table is live. -/
theorem Restarts.first
    (hRestarts : c.Restarts c')
    (hFirst : c.mode = .autoRefresh →
      c.window.shadow = 0 ∧ c.window.startIndex = 0)
    (hMode : c'.mode = .autoRefresh) :
    c'.window.shadow = 0 ∧ c'.window.startIndex = 0 := by
  cases hRestarts with
  | same hSource hWindow hLive =>
      rw [hWindow]
      exact hFirst (hLive hMode)
  | cleared hSource hWindow =>
      rw [hWindow]
      exact ⟨rfl, rfl⟩
  | resized pageSize hSource hWindow hLive =>
      rcases hFirst (hLive hMode) with ⟨hShadow, hStart⟩
      rw [hWindow]
      refine ⟨hShadow, ?_⟩
      show min c.window.startIndex _ = 0
      rw [hStart, Nat.zero_min]
  | supplied pageSize hWindow =>
      rw [hWindow]
      exact ⟨rfl, rfl⟩

end Controller

------------------------------------------------------------
-- Promises
------------------------------------------------------------

namespace TableTraffic

section Promises

variable [Listing σ ρ κ] [DecidableEq κ]
variable {s : TableTraffic σ ρ κ}

/- Only what is asked of a table leaves a promise, -/
theorem length_promises_of_not_asked
    {event : Event σ ρ}
    (hAsk : ∀ now errand, event ≠ .ask now errand) :
    (s.step event).promises.length = s.promises.length := by
  have hStride := s.stride_step event
  generalize s.step event = s' at hStride
  cases hStride with
  | ask now errand => exact absurd rfl (hAsk now errand)
  | answer place m reply hMove hOpen =>
      unfold answerMove
      split <;> exact List.length_set
  | finish place m hMove hDone => exact List.length_set
  | drop place => exact List.length_set
  | time event c hPassive hSame => rfl
  | idle event _ => rfl

/- and no promise is ever forgotten. -/
theorem length_promises_step
    (s : TableTraffic σ ρ κ)
    (event : Event σ ρ) :
    s.promises.length ≤ (s.step event).promises.length := by
  by_cases hAsk : ∃ now errand, event = .ask now errand
  · rcases hAsk with ⟨now, errand, rfl⟩
    show _ ≤ (s.promises ++ _).length
    rw [List.length_append]
    exact Nat.le_add_right _ _
  · refine Nat.le_of_eq (length_promises_of_not_asked ?_).symm
    exact fun now errand hSame => hAsk ⟨now, errand, hSame⟩

/- A move that is under way is the same but for its answers. -/
theorem pending_of_step
    {event : Event σ ρ}
    {place : Nat}
    {m' : Move ρ κ}
    (hPlace : place < s.promises.length)
    (hMove :
      (s.step event).promises[place]? = some (.pending m')) :
    ∃ m, s.promises[place]? = some (.pending m) ∧
      m'.feed = m.feed ∧ m'.flight.plan = m.flight.plan ∧
        m'.flight.edit = m.flight.edit := by
  have hStay
      (hSame : s.promises[place]? = some (.pending m')) :
      ∃ m, s.promises[place]? = some (.pending m) ∧
        m'.feed = m.feed ∧ m'.flight.plan = m.flight.plan ∧
          m'.flight.edit = m.flight.edit :=
    ⟨m', hSame, rfl, rfl, rfl⟩
  have hStride := s.stride_step event
  generalize s.step event = s' at hStride hMove
  -- a promise that is kept or dropped is not this one
  have hSet
      {other : Nat}
      {p : Promise ρ κ}
      (hNow :
        (s.promises.set other p)[place]? = some (.pending m'))
      (hOver : ∀ m, p ≠ .pending m) :
      s.promises[place]? = some (.pending m') := by
    rw [List.getElem?_set] at hNow
    split at hNow
    · split at hNow
      · exact absurd (Option.some_inj.mp hNow) (hOver m')
      · cases hNow
    · exact hNow
  cases hStride with
  | ask now errand =>
      rw [List.getElem?_append_left hPlace] at hMove
      exact hStay hMove
  | answer other m reply hOld hOpen =>
      cases reply with
      | error e => exact hStay (hSet hMove fun _ hSame => nomatch hSame)
      | ok rows =>
          change (s.promises.set other _)[place]? = _ at hMove
          rw [List.getElem?_set] at hMove
          split at hMove
          · next hSame =>
              rw [if_pos (hSame ▸ hPlace)] at hMove
              cases hMove
              exact ⟨m, hSame ▸ hOld, rfl, rfl, rfl⟩
          · exact hStay hMove
  | finish other m hOld hDone =>
      exact hStay (hSet hMove fun _ hSame => nomatch hSame)
  | drop other =>
      exact hStay (hSet hMove fun _ hSame => nomatch hSame)
  | time event c hPassive hSame => exact hStay hMove
  | idle event hAsk => exact hStay hMove

/-
  Whatever is under way was under way before, but for the
  answers that it has.
-/
def PromisedBefore
    (s s' : TableTraffic σ ρ κ) : Prop :=
  ∀ m', .pending m' ∈ s'.promises →
    ∃ m, .pending m ∈ s.promises ∧
      m'.feed = m.feed ∧ m'.flight.plan = m.flight.plan

/- So it is unless something is asked. -/
theorem promisedBefore_of_not_asked
    {event : Event σ ρ}
    (hAsk : ∀ now errand, event ≠ .ask now errand) :
    s.PromisedBefore (s.step event) := by
  intro m' hMove
  rcases List.mem_iff_getElem?.mp hMove with ⟨place, hPlace⟩
  have hLess := (List.getElem?_eq_some_iff.mp hPlace).1
  rw [length_promises_of_not_asked hAsk] at hLess
  rcases pending_of_step hLess hPlace with
    ⟨m, hOld, hFeed, hPlan, -⟩
  exact ⟨m, List.mem_of_getElem? hOld, hFeed, hPlan⟩

end Promises

------------------------------------------------------------
-- Tables Whose Windows Stand
------------------------------------------------------------

variable [LinearOrder κ] [Listing σ ρ κ]
variable {key : ρ → κ}

omit [LinearOrder κ] in
/- An event that opens the recorded page, if that is anchored. -/
def Opens
    (s : TableTraffic σ ρ κ) : Event σ ρ → Prop
  | .ask _ errand => s.table.Opens errand
  | _ => False

instance
    (s : TableTraffic σ ρ κ) :
    (event : Event σ ρ) → Decidable (s.Opens event)
  | .ask _ errand =>
      inferInstanceAs (Decidable (s.table.Opens errand))
  | .answer _ _ | .finish _ | .drop _ | .tick | .answerTick _
  | .finishTick | .source _ _ => .isFalse id

/-
  If a page is opened at its recorded key, there are as many
  rows above that key as stand above the page.
-/
def OpensDeep
    (H : Holdings σ key)
    (s : TableTraffic σ ρ κ)
    (event : Event σ ρ) : Prop :=
  s.Opens event →
    ∀ page k, s.table.navState.page = some page →
      s.table.anchor? = some k →
        pageOffset page s.table.window.pageSize ≤
          (H.archive s.table.feed.source).depth k

/-
  What holds of a table and its promises if that was so at all
  times: its window stands, and every load that can still be
  committed will leave it standing.  A live table is shown from
  its first row, for an unmounted one nothing is under way, and
  what was begun on a source that was replaced is stale.
-/
structure Moored
    (H : Holdings σ key)
    (s : TableTraffic σ ρ κ) : Prop where
  timely : s.Timely
  attends : s.table.buffer.Attends s.flights
  moored : (s.scene H).Moored s.table.buffer.maxLimit
  fronted : s.table.mode = .autoRefresh → (s.scene H).Fronted
  idle : s.table.mode = .unmounted → (s.scene H).loads = []
  bygone : ∀ m, .pending m ∈ s.promises →
    m.feed < s.table.past.length →
      m.generation < s.table.generation m.feed

variable {H : Holdings σ key} {s : TableTraffic σ ρ κ}

/- It holds of a table of which nothing has been asked. -/
theorem moored_start
    (H : Holdings σ key)
    (source : σ)
    (config : PagerConfig)
    (nav : Params)
    (names : NavNames) :
    (start (.new source config nav names) :
      TableTraffic σ ρ κ).Moored H where
  timely := timely_start source config nav names
  attends := Buffer.attends_of_earlier
    fun _ hMem => absurd hMem List.not_mem_nil
  moored := Scene.moored_idle
    (Window.stands_empty _ config.pageSize)
  fronted := fun hMode => nomatch hMode
  idle := fun _ => rfl
  bygone := fun _ hMove => absurd hMove List.not_mem_nil

------------------------------------------------------------
-- Operations
------------------------------------------------------------

omit [LinearOrder κ] [Listing σ ρ κ] in
/- What is not left to load is no load. -/
theorem flights_of_idle
    {left : Option (Begun ρ κ)}
    (hNone : ∀ m, left ≠ some (.moving m))
    (c : Controller σ ρ κ)
    (promises : List (Promise ρ κ))
    (aborts : Nat) :
    (TableTraffic.mk c
        (promises ++ (left.map Begun.promise).toList)
        aborts).flights =
      (TableTraffic.mk c promises aborts).flights := by
  unfold flights moves
  dsimp only
  rw [List.filterMap_append]
  rcases left with _ | outcome | fault | m
  · exact congrArg _ (List.append_nil _)
  · exact congrArg _ (List.append_nil _)
  · exact congrArg _ (List.append_nil _)
  · exact absurd rfl (hNone m)

omit [LinearOrder κ] [Listing σ ρ κ] in
/- Nor is it a promise that is still to be kept. -/
theorem pending_of_idle
    {left : Option (Begun ρ κ)}
    (hNone : ∀ m, left ≠ some (.moving m))
    {promises : List (Promise ρ κ)}
    {m : Move ρ κ}
    (hMove :
      .pending m ∈ promises ++ (left.map Begun.promise).toList) :
    .pending m ∈ promises := by
  rcases List.mem_append.mp hMove with hOld | hNew
  · exact hOld
  · rcases left with _ | outcome | fault | m'
    · cases hNew
    · cases List.mem_singleton.mp hNew
    · cases List.mem_singleton.mp hNew
    · exact absurd rfl (hNone m')

omit [LinearOrder κ] [Listing σ ρ κ] in
/- While aborts are few, whatever was begun is superseded. -/
theorem earlier_of_quits
    (hTimely : s.Timely)
    (hAttends : s.table.buffer.Attends s.flights)
    {c : Controller σ ρ κ}
    (hQuits : s.table.Quits c)
    (hFew : s.aborts + s.table.abortsSince c < 2 ^ 64)
    (aborts : Nat) :
    ∀ f ∈ (TableTraffic.mk c s.promises aborts).flights,
      f.plan.ticket.generation <
        c.buffer.guard.generation := by
  have hGrows :
      s.table.generation s.table.past.length <
        c.generation s.table.past.length :=
    UInt64.lt_of_le_of_ne
      (Controller.generation_mono hQuits.past
        (hTimely.generations _) hFew) hQuits.later.symm
  have hEarlier (f : Flight ρ κ)
      (hPast : c.past.length = s.table.past.length)
      (hMem : f ∈ s.flights) :
      f.plan.ticket.generation < c.buffer.guard.generation := by
    rw [s.table.generation_current, ← hPast,
      c.generation_current] at hGrows
    rcases hAttends.stale f hMem with hCurrent | hStale
    · rw [← Buffer.generation_of_isCurrent hCurrent]
      exact hGrows
    · exact UInt64.lt_trans hStale hGrows
  intro f hMem
  rcases List.mem_append.mp hMem with hTick | hMove
  · rcases hQuits.ticks f (Option.mem_toList.mp hTick) with
      ⟨hPast, hOld⟩
    exact hEarlier f hPast
      (List.mem_append_left _ (Option.mem_toList.mpr hOld))
  · rcases List.mem_filterMap.mp hMove with ⟨p, hPromise, hFlight⟩
    rcases p with m | result | -
    · rcases Promise.of_mem_flightOn? hFlight with ⟨hFeed, rfl⟩
      have hOld := (hTimely.moves m hPromise).feed
      have hPast : c.past.length = s.table.past.length :=
        Nat.le_antisymm (hFeed ▸ hOld) hQuits.past
      exact hEarlier m.flight hPast
        (mem_flights_of_pending hPromise (hFeed.trans hPast))
    · cases hFlight
    · cases hFlight

/-
  A table that begins anew, with the one load that it leaves or
  with none.
-/
structure Restarted
    (H : Holdings σ key)
    (c : Controller σ ρ κ)
    (loads : List (Flight ρ κ))
    (s' : TableTraffic σ ρ κ) : Prop where
  table : s'.table = c
  attends : c.buffer.Attends s'.flights
  scene : s'.scene H = ⟨H.archive c.feed.source, c.window, loads⟩

/- There is no load if none is left. -/
theorem restarted_of_idle
    (H : Holdings σ key)
    {c : Controller σ ρ κ}
    {left : Option (Begun ρ κ)}
    (hNone : ∀ m, left ≠ some (.moving m))
    {aborts : Nat}
    (hEarlier : ∀ f ∈ (TableTraffic.mk c s.promises aborts).flights,
      f.plan.ticket.generation < c.buffer.guard.generation) :
    Restarted H c []
      ⟨c, s.promises ++ (left.map Begun.promise).toList, aborts⟩ := by
  rw [← flights_of_idle hNone] at hEarlier
  refine ⟨rfl, Buffer.attends_of_earlier hEarlier, ?_⟩
  exact congrArg _ (Buffer.underWay_of_earlier hEarlier)

/- A load that is left is the only one. -/
theorem restarted_of_load
    (H : Holdings σ key)
    {c : Controller σ ρ κ}
    {f : Flight ρ κ}
    (hPlan : f.plan = c.buffer.plan c.key)
    (records : Bool)
    {aborts : Nat}
    (hEarlier : ∀ f ∈ (TableTraffic.mk c s.promises aborts).flights,
      f.plan.ticket.generation < c.buffer.guard.generation) :
    Restarted H c [f]
      ⟨c, s.promises ++ [.pending ⟨c.past.length, records, f⟩],
        aborts⟩ := by
  have hCurrent : c.buffer.isCurrent f.plan = true := by
    rw [hPlan]
    exact Buffer.isCurrent_plan _ _
  rcases Buffer.attends_begin hCurrent hEarlier
      fun _ hMem => absurd hMem List.not_mem_nil with
    ⟨hAttends, hUnderWay⟩
  rw [← flights_concat c s.promises records f aborts]
    at hAttends hUnderWay
  exact ⟨rfl, hAttends, congrArg _ hUnderWay⟩

/- Its window stands, and so it does when the load is done. -/
theorem Restarted.moored
    {c : Controller σ ρ κ}
    {loads : List (Flight ρ κ)}
    {s' : TableTraffic σ ρ κ}
    (hRestarted : Restarted H c loads s')
    (hTimely : s'.Timely)
    (hMoored :
      Scene.Moored c.buffer.maxLimit
        ⟨H.archive c.feed.source, c.window, loads⟩)
    (hFronted : c.mode = .autoRefresh →
      c.window.shadow = 0 ∧ c.window.startIndex = 0)
    (hFronts : c.mode = .autoRefresh → ∀ f ∈ loads, f.edit.Fronts)
    (hIdle : c.mode = .unmounted → loads = [])
    (hBygone : ∀ m, .pending m ∈ s'.promises →
      m.feed < c.past.length →
        m.generation < c.generation m.feed) :
    s'.Moored H := by
  rcases hRestarted with ⟨rfl, hAttends, hScene⟩
  refine ⟨hTimely, hAttends, ?_, fun hMode => ?_, fun hMode => ?_,
    hBygone⟩
  all_goals rw [hScene]
  · exact hMoored
  · rcases hFronted hMode with ⟨hShadow, hStart⟩
    exact ⟨hShadow, hStart, hFronts hMode⟩
  · exact hIdle hMode

/- Every promise is stale once the feed in use was aborted. -/
theorem Moored.stale_of_later
    (hMoored : s.Moored H)
    {c : Controller σ ρ κ}
    (hPast : s.table.past.length ≤ c.past.length)
    (hLater :
      c.generation s.table.past.length ≠
        s.table.generation s.table.past.length)
    (hFew : s.aborts + s.table.abortsSince c < 2 ^ 64)
    {m : Move ρ κ}
    (hMove : .pending m ∈ s.promises) :
    m.generation < c.generation m.feed := by
  have hGrows : s.table.generation m.feed ≤ c.generation m.feed :=
    Controller.generation_mono hPast
      (hMoored.timely.generations _) hFew
  have hAwaits := hMoored.timely.moves m hMove
  rcases Nat.lt_or_eq_of_le hAwaits.feed with hLess | hFeed
  · exact UInt64.lt_of_lt_of_le (hMoored.bygone m hMove hLess)
      hGrows
  · refine UInt64.lt_of_le_of_lt hAwaits.age ?_
    refine UInt64.lt_of_le_of_ne hGrows ?_
    rw [hFeed]
    exact hLater.symm

/- The window still stands when a table begins anew. -/
theorem Moored.anew
    (hMoored : s.Moored H)
    {now : Nat}
    {errand : Errand σ}
    (hOpens : s.OpensDeep H (.ask now errand))
    {c : Controller σ ρ κ}
    {left : Option (Begun ρ κ)}
    (hQuits : s.table.Quits c)
    (hLeaves : s.table.Leaves errand c left)
    (hFew : s.aborts + s.table.abortsSince c < 2 ^ 64)
    (hTimely :
      (TableTraffic.mk c
        (s.promises ++ (left.map Begun.promise).toList)
        (s.aborts + s.table.abortsSince c)).Timely) :
    (TableTraffic.mk c
      (s.promises ++ (left.map Begun.promise).toList)
      (s.aborts + s.table.abortsSince c)).Moored H := by
  have hStands := hQuits.restarts.stands H hMoored.moored.stands
  have hFirst := hQuits.restarts.first fun hLive =>
    ⟨(hMoored.fronted hLive).shadow,
      (hMoored.fronted hLive).startIndex⟩
  have hEarlier := earlier_of_quits hMoored.timely
    hMoored.attends hQuits hFew (s.aborts + s.table.abortsSince c)
  cases hLeaves with
  | idle hNone =>
      refine (restarted_of_idle H hNone hEarlier).moored hTimely
        (Scene.moored_idle hStands) hFirst
        (fun _ _ hMem => absurd hMem List.not_mem_nil)
        (fun _ => rfl) fun m hMove _ => ?_
      exact hMoored.stale_of_later hQuits.past hQuits.later hFew
        (pending_of_idle hNone hMove)
  | load op records f hBegin hMounted hOp hAnchor =>
      rw [show c.key = key from H.key_eq _] at hBegin
      rcases Buffer.begin_eq_ok_iff.mp hBegin with ⟨hPlan, hCourse⟩
      rw [← show c.key = key from H.key_eq _] at hPlan
      refine (restarted_of_load H hPlan records hEarlier).moored
        hTimely (Scene.moored_begin hStands hCourse ?_) hFirst
        ?_ (fun hMode => absurd hMode hMounted) ?_
      · intro page k hSame
        rcases hAnchor page k hSame with
          ⟨hKey, hSource, hSize, rfl | ⟨hErrand, hPage⟩⟩
        · show (1 - 1) * _ ≤ _
          rw [Nat.sub_self, Nat.zero_mul]
          exact Nat.zero_le _
        · rw [hSource, hSize]
          exact hOpens hErrand page k hPage hKey
      · intro hMode
        exact List.forall_mem_singleton.mpr
          (Scene.fronts_of_course (hFirst hMode).1 hCourse
            (hOp hMode))
      · intro m hMove hFeed
        rcases List.mem_append.mp hMove with hOld | hNew
        · exact hMoored.stale_of_later hQuits.past hQuits.later hFew hOld
        · cases List.mem_singleton.mp hNew
          exact absurd hFeed (Nat.lt_irrefl _)

omit [LinearOrder κ] in
/- No feed goes back to an earlier generation. -/
theorem Timely.generation_le_step
    [DecidableEq κ]
    (hTimely : s.Timely)
    (event : Event σ ρ)
    (hFew : (s.step event).aborts < 2 ^ 64)
    (n : Nat) :
    s.table.generation n ≤ (s.step event).table.generation n := by
  have hStride := s.stride_step event
  generalize s.step event = s' at hStride hFew
  cases hStride with
  | ask now errand =>
      exact Controller.generation_mono
        (s.table.succeeds_undertake now errand).past
        (hTimely.generations n) hFew
  | answer place m reply hMove hOpen =>
      cases reply <;> exact UInt64.le_refl _
  | finish place m hMove hDone =>
      exact Controller.generation_mono
        (Nat.le_of_eq (s.table.finish_parts m).2.2.symm)
        (hTimely.generations n) hFew
  | drop place => exact UInt64.le_refl _
  | time event c hPassive hSame =>
      exact Controller.generation_mono hSame.succeeds.past
        (hTimely.generations n) hFew
  | idle event _ => exact UInt64.le_refl _

/- Nothing begins, and what is under way stays on its source. -/
theorem Moored.rest
    (hMoored : s.Moored H)
    {event : Event σ ρ}
    (hFew : (s.step event).aborts < 2 ^ 64)
    (hPromises : s.PromisedBefore (s.step event))
    (hPast :
      (s.step event).table.past.length = s.table.past.length)
    (hAttends :
      (s.step event).table.buffer.Attends (s.step event).flights)
    (hScene :
      ((s.step event).scene H).Moored
        (s.step event).table.buffer.maxLimit)
    (hFronted : (s.step event).table.mode = .autoRefresh →
      ((s.step event).scene H).Fronted)
    (hIdle : (s.step event).table.mode = .unmounted →
      ((s.step event).scene H).loads = []) :
    (s.step event).Moored H := by
  refine ⟨hMoored.timely.step event hFew, hAttends, hScene,
    hFronted, hIdle, fun m' hMove hFeed => ?_⟩
  rcases hPromises m' hMove with ⟨m, hOld, hSame, hPlan⟩
  rw [hPast, hSame] at hFeed
  have hStale := hMoored.bygone m hOld hFeed
  have hGeneration : m'.generation = m.generation := by
    unfold Move.generation
    rw [hPlan]
  rw [hGeneration, hSame]
  exact UInt64.lt_of_lt_of_le hStale
    (hMoored.timely.generation_le_step event hFew m.feed)

/- A step of the scene in which nothing begins. -/
theorem Moored.passes
    (hMoored : s.Moored H)
    {event : Event σ ρ}
    (hFew : (s.step event).aborts < 2 ^ 64)
    (hPromises : s.PromisedBefore (s.step event))
    (hPast :
      (s.step event).table.past.length = s.table.past.length)
    (hMode : (s.step event).table.mode = s.table.mode)
    (hPasses : Passes H s (s.step event)) :
    (s.step event).Moored H := by
  refine hMoored.rest hFew hPromises hPast hPasses.attends ?_
    (fun hLive => ?_) fun hUnmounted => ?_
  · rw [hPasses.maxLimit]
    exact hMoored.moored.passage s.table.buffer.maxLimit_pos
      hPasses.passage
  · rw [hMode] at hLive
    exact (hMoored.fronted hLive).passage hPasses.passage
  · rw [hMode] at hUnmounted
    exact hPasses.passage.loads_eq_nil (hMoored.idle hUnmounted)

/- Only its pages change while a table is not mounted. -/
theorem Moored.resized
    (hMoored : s.Moored H)
    {event : Event σ ρ}
    (hFew : (s.step event).aborts < 2 ^ 64)
    (hMode : s.table.mode = .unmounted)
    {pageSize : Nat}
    (hTable : (s.step event).table = s.table.resized pageSize)
    (hFlights : (s.step event).flights = s.flights)
    (hPromises : s.PromisedBefore (s.step event)) :
    (s.step event).Moored H := by
  have hSameMode : (s.step event).table.mode = .unmounted := by
    rw [hTable]
    exact hMode
  have hNone := List.filter_eq_nil_iff.mp (hMoored.idle hMode)
  have hEarlier : ∀ f ∈ (s.step event).flights,
      f.plan.ticket.generation <
        (s.step event).table.buffer.guard.generation := by
    intro f hMem
    rw [hFlights] at hMem
    rw [hTable]
    exact (hMoored.attends.stale f hMem).resolve_left
      (hNone f hMem)
  have hScene :
      (s.step event).scene H =
        ⟨H.archive (s.step event).table.feed.source,
          (s.step event).table.window, []⟩ :=
    congrArg _ (Buffer.underWay_of_earlier hEarlier)
  refine hMoored.rest hFew hPromises ?_
    (Buffer.attends_of_earlier hEarlier) ?_ ?_ ?_
  · rw [hTable]
    rfl
  · rw [hScene, hTable, s.table.window_resized pageSize]
    exact Scene.moored_idle (hMoored.moored.stands.resize pageSize)
  · rw [hSameMode]
    exact fun hLive => nomatch hLive
  · rw [hScene]
    exact fun _ => rfl

/- What can become of a table that is asked for something. -/
inductive Asked
    (H : Holdings σ key)
    (s : TableTraffic σ ρ κ)
    (errand : Errand σ) : TableTraffic σ ρ κ → Prop where
  | anew
      (c : Controller σ ρ κ)
      (left : Option (Begun ρ κ))
      (hQuits : s.table.Quits c)
      (hLeaves : s.table.Leaves errand c left) :
      Asked H s errand
        ⟨c, s.promises ++ (left.map Begun.promise).toList,
          s.aborts + s.table.abortsSince c⟩
  | rest
      (s' : TableTraffic σ ρ κ)
      (hPasses : Passes H s s')
      (hPromises : s.PromisedBefore s')
      (hPast : s'.table.past.length = s.table.past.length)
      (hMode : s'.table.mode = s.table.mode) :
      Asked H s errand s'
  | resize
      (s' : TableTraffic σ ρ κ)
      (pageSize : Nat)
      (hMode : s.table.mode = .unmounted)
      (hTable : s'.table = s.table.resized pageSize)
      (hFlights : s'.flights = s.flights)
      (hPromises : s.PromisedBefore s') :
      Asked H s errand s'

/- Nothing else can. -/
theorem asked_ask
    (H : Holdings σ key)
    (hAttends : s.table.buffer.Attends s.flights)
    (now : Nat)
    (errand : Errand σ) :
    Asked H s errand (s.step (.ask now errand)) := by
  have hPasses (hTimer :
      errand = .togglePause ∨ errand = .resume) :
      Passes H s (s.step (.ask now errand)) := by
    rcases hTimer with rfl | rfl
    · exact passes_togglePause hAttends now
    · exact passes_resume hAttends now
  have hUndertakes := s.table.undertakes_undertake now errand
  have hStep :
      s.step (.ask now errand) =
        ⟨(s.table.undertake now errand).1,
          s.promises ++ ((s.table.undertake now errand).2.map
            Begun.promise).toList,
          s.aborts + s.table.abortsSince
            (s.table.undertake now errand).1⟩ := rfl
  generalize (s.table.undertake now errand).1 = c at *
  generalize (s.table.undertake now errand).2 = left at *
  have hBefore (hNone : ∀ m, left ≠ some (.moving m)) :
      s.PromisedBefore (s.step (.ask now errand)) := by
    intro m hMove
    rw [hStep] at hMove
    exact ⟨m, pending_of_idle hNone hMove, rfl, rfl⟩
  cases hUndertakes with
  | anew c left hQuits hLeaves =>
      rw [hStep]
      exact .anew c left hQuits hLeaves
  | keep left hNone =>
      refine .rest _ (passes_stay hAttends ?_ ?_) (hBefore hNone)
        ?_ ?_
      all_goals rw [hStep]
      exact flights_of_idle hNone s.table s.promises _
  | resize pageSize left hMode hNone =>
      refine .resize _ pageSize hMode (by rw [hStep]) ?_
        (hBefore hNone)
      rw [hStep, flights_of_idle hNone]
      exact flights_congr rfl rfl rfl
  | timer c hErrand hSame =>
      refine .rest _ (hPasses hErrand)
        (hBefore fun m hMove => nomatch hMove) ?_ ?_
      all_goals rw [hStep]
      · exact hSame.past
      · exact hSame.mode

/- Whatever is asked of a table, its window stands. -/
theorem Moored.ask
    (hMoored : s.Moored H)
    {now : Nat}
    {errand : Errand σ}
    (hOpens : s.OpensDeep H (.ask now errand))
    (hFew : (s.step (.ask now errand)).aborts < 2 ^ 64) :
    (s.step (.ask now errand)).Moored H := by
  have hTimely := hMoored.timely.step (.ask now errand) hFew
  have hAsked := asked_ask H hMoored.attends now errand
  generalize hStep : s.step (.ask now errand) = s' at *
  cases hAsked with
  | anew c left hQuits hLeaves =>
      exact hMoored.anew hOpens hQuits hLeaves hFew hTimely
  | rest s' hPasses hPromises hPast hMode =>
      subst hStep
      exact hMoored.passes hFew hPromises hPast hMode hPasses
  | resize s' pageSize hMode hTable hFlights hPromises =>
      subst hStep
      exact hMoored.resized hFew hMode hTable hFlights hPromises

------------------------------------------------------------
-- Whatever Is Not Asked
------------------------------------------------------------

/- The source of a table gains rows, or another source does. -/
theorem Moored.source
    (hMoored : s.Moored H)
    {feed : Nat}
    {next : σ}
    (hTruthful : s.Truthful H (.source feed next))
    (hFew : (s.step (.source feed next)).aborts < 2 ^ 64) :
    (s.step (.source feed next)).Moored H := by
  have hAsk : ∀ now errand,
      (.source feed next : Event σ ρ) ≠ .ask now errand :=
    fun _ _ hSame => nomatch hSame
  rcases s.source_step feed next with
    ⟨hFlights, hBuffer, hPast, hSource⟩
  have hMode := (parts_of_not_asked hAsk (s := s)).1
  have hScene :
      (s.step (.source feed next)).scene H =
        ⟨H.archive (if s.table.past.length ≤ feed then next
            else s.table.feed.source),
          s.table.window, (s.scene H).loads⟩ := by
    unfold scene Controller.window
    rw [hFlights, hBuffer, hSource,
      show (s.step (.source feed next)).table.feed.buffer =
        s.table.feed.buffer from hBuffer]
  refine hMoored.rest hFew (promisedBefore_of_not_asked hAsk) hPast
    ?_ ?_ (fun hLive => ?_) fun hUnmounted => ?_
  · rw [hBuffer, hFlights]
    exact hMoored.attends
  · rw [hBuffer, hScene]
    split
    · next hNow => exact hMoored.moored.grow (hTruthful hNow)
    · exact hMoored.moored
  · rw [hScene]
    have hFronted := hMoored.fronted (hMode ▸ hLive)
    exact ⟨hFronted.shadow, hFronted.startIndex, hFronted.fronts⟩
  · rw [hScene]
    exact hMoored.idle (hMode ▸ hUnmounted)

/- A tick begins, or nothing. -/
theorem Moored.tick
    (hMoored : s.Moored H)
    (hFew : (s.step .tick).aborts < 2 ^ 64) :
    (s.step .tick).Moored H := by
  have hAsk : ∀ now errand,
      (.tick : Event σ ρ) ≠ .ask now errand :=
    fun _ _ hSame => nomatch hSame
  rcases parts_of_not_asked hAsk (s := s) with ⟨hMode, hPast⟩
  have hProceeds := proceeds_tick (H := H) hMoored.attends
    hMoored.timely hFew
  refine hMoored.rest hFew (promisedBefore_of_not_asked hAsk) hPast
    hProceeds.attends ?_ (fun hLive => ?_) fun hUnmounted => ?_
  · rw [hProceeds.maxLimit]
    exact hMoored.moored.turn s.table.buffer.maxLimit_pos
      hProceeds.turn
  · exact (hMoored.fronted (hMode ▸ hLive)).turn hProceeds.turn
  · have hPasses : Passes H s (s.step .tick) := by
      refine passes_tick hMoored.attends fun view due hLive => ?_
      rw [hMode] at hUnmounted
      unfold Controller.mode at hUnmounted
      rw [hLive] at hUnmounted
      cases hUnmounted
    exact hPasses.passage.loads_eq_nil
      (hMoored.idle (hMode ▸ hUnmounted))

/-
  Whatever happens to a table, its window stands on its source
  as long as the source tells the truth and gains only newer
  rows, and pages are opened at keys that are deep enough.
-/
theorem Moored.step
    (hMoored : s.Moored H)
    (event : Event σ ρ)
    (hTruthful : s.Truthful H event)
    (hOpens : s.OpensDeep H event)
    (hFew : (s.step event).aborts < 2 ^ 64) :
    (s.step event).Moored H := by
  by_cases hSource : ∃ feed next, event = .source feed next
  · rcases hSource with ⟨feed, next, rfl⟩
    exact hMoored.source hTruthful hFew
  cases event with
  | ask now errand => exact hMoored.ask hOpens hFew
  | tick => exact hMoored.tick hFew
  | source feed next => exact absurd ⟨feed, next, rfl⟩ hSource
  | _ =>
      refine hMoored.passes hFew (promisedBefore_of_not_asked ?_)
        (parts_of_not_asked ?_).2 (parts_of_not_asked ?_).1
        (passes_of_not_asked hMoored.attends hMoored.timely _ ?_
          ?_ ?_ hTruthful)
      all_goals
        intros
        exact fun hSame => nomatch hSame

------------------------------------------------------------
-- Runs
------------------------------------------------------------

/- So it is in every run. -/
theorem moored_run
    (hMoored : s.Moored H)
    {events : List (Event σ ρ)}
    (hTruthful : s.Along (Truthful H) events)
    (hOpens : s.Along (OpensDeep H) events)
    (hFew : (s.run events).aborts < 2 ^ 64) :
    (s.run events).Moored H := by
  induction events generalizing s with
  | nil => exact hMoored
  | cons event rest ih =>
      have hNext : (s.step event).aborts < 2 ^ 64 :=
        Nat.lt_of_le_of_lt (aborts_le_run _ rest) hFew
      exact ih (hMoored.step event hTruthful.1 hOpens.1 hNext)
        hTruthful.2 hOpens.2 hFew

------------------------------------------------------------
-- Loads That Are Tracked
------------------------------------------------------------

/- For an unmounted table every promise is stale. -/
theorem Moored.stale_of_unmounted
    (hMoored : s.Moored H)
    (hMode : s.table.mode = .unmounted)
    {m : Move ρ κ}
    (hMove : .pending m ∈ s.promises) :
    m.generation < s.table.generation m.feed := by
  have hAwaits := hMoored.timely.moves m hMove
  rcases Nat.lt_or_eq_of_le hAwaits.feed with hLess | hFeed
  · exact hMoored.bygone m hMove hLess
  · have hMem := mem_flights_of_pending hMove hFeed
    have hNone :=
      List.filter_eq_nil_iff.mp (hMoored.idle hMode) _ hMem
    rw [hFeed, s.table.generation_current]
    exact (hMoored.attends.stale _ hMem).resolve_left hNone

omit [LinearOrder κ] in
/- A tick that begins aborts. -/
theorem generation_beginTick_ne
    {c : Controller σ ρ κ}
    {view : AutoRefresh ρ κ}
    {due : Nat}
    (hLive : c.strategy = .live view)
    (hTimer : view.timer = .waiting due) :
    c.beginTick.generation c.past.length ≠
      c.generation c.past.length := by
  have hPast : c.beginTick.past.length = c.past.length :=
    c.resembles_beginTick.past
  rw [c.generation_current, ← hPast,
    c.beginTick.generation_current]
  unfold Controller.beginTick
  rw [hLive]
  dsimp only
  unfold AutoRefresh.beginTick
  rw [hTimer]
  exact Guard.generation_abort_ne _

/-
  In every step nothing begins, or a source changes, or every
  promise has become stale.
-/
theorem Moored.passes_or_stale
    (hMoored : s.Moored H)
    (event : Event σ ρ)
    (hTruthful : s.Truthful H event)
    (hFew : (s.step event).aborts < 2 ^ 64) :
    (Passes H s (s.step event) ∧
        (s.step event).table.past.length =
          s.table.past.length) ∨
      (∃ feed next, event = .source feed next) ∨
      ∀ m, .pending m ∈ s.promises →
        m.generation < (s.step event).table.generation m.feed := by
  by_cases hSource : ∃ feed next, event = .source feed next
  · exact .inr (.inl hSource)
  cases event with
  | ask now errand =>
      have hGrows := hMoored.timely.generation_le_step _ hFew
      have hAsked := asked_ask H hMoored.attends now errand
      generalize s.step (.ask now errand) = s' at *
      cases hAsked with
      | anew c left hQuits hLeaves =>
          exact .inr (.inr fun m hMove =>
            hMoored.stale_of_later hQuits.past hQuits.later hFew
              hMove)
      | rest s' hPasses hPromises hPast hMode =>
          exact .inl ⟨hPasses, hPast⟩
      | resize s' pageSize hMode hTable hFlights hPromises =>
          exact .inr (.inr fun m hMove =>
            UInt64.lt_of_lt_of_le
              (hMoored.stale_of_unmounted hMode hMove)
              (hGrows m.feed))
  | tick =>
      by_cases hWaiting : ∃ view due,
          s.table.strategy = .live view ∧
            view.timer = .waiting due
      · rcases hWaiting with ⟨view, due, hLive, hTimer⟩
        exact .inr (.inr fun m hMove =>
          hMoored.stale_of_later
            (Nat.le_of_eq s.table.resembles_beginTick.past.symm)
            (generation_beginTick_ne hLive hTimer) hFew hMove)
      · refine .inl ⟨passes_tick hMoored.attends ?_,
          s.table.resembles_beginTick.past⟩
        intro view due hLive hTimer
        exact hWaiting ⟨view, due, hLive, hTimer⟩
  | source feed next => exact absurd ⟨feed, next, rfl⟩ hSource
  | _ =>
      refine .inl ⟨passes_of_not_asked hMoored.attends
        hMoored.timely _ ?_ ?_ ?_ hTruthful,
          (parts_of_not_asked ?_).2⟩
      all_goals
        intros
        exact fun hSame => nomatch hSame

end TableTraffic

end LedgerView
