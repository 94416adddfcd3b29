import LedgerView.Pager.TableBench
import LedgerView.Proofs.Nav.Params
import LedgerView.Proofs.Table.Operation

/-
  When the parameters of a table change.

  The parameters of a table change in two ways.  A move to a
  page that is committed records the page that the table then
  shows; an operation that goes live, or that replaces the
  source of a mounted table, removes the record.  A move that
  was begun before the table left its pages comes too late to
  record anything, so a live table has no record.

  Key definitions include:
    * `Controller.Awaits`
    * `TableTraffic.Timely`
    * `TableTraffic.Records`
    * `TableTraffic.Forgets`

  Key theorems include:
    * `TableTraffic.timely_run`
    * `TableTraffic.nav_follows_mode`
-/

namespace LedgerView

variable {σ ρ κ : Type}

------------------------------------------------------------
-- Moves in Time
------------------------------------------------------------

/- The generation in which a move was begun. -/
def Move.generation
    (m : Move ρ κ) : UInt64 :=
  m.flight.plan.ticket.generation

namespace Controller

/-
  What holds of a move under way: it is no younger than its
  feed, and if it is recorded then it is either stale or a move
  to a page that the table still shows.
-/
structure Awaits
    (c : Controller σ ρ κ)
    (m : Move ρ κ) : Prop where
  feed : m.feed ≤ c.past.length
  age : m.generation ≤ c.generation m.feed
  due : m.records = true →
    m.generation < c.generation m.feed ∨
      (m.feed = c.past.length ∧ c.mode = .pagination)

variable {c c' : Controller σ ρ κ} {m : Move ρ κ}

/- A move that has just been begun is in time. -/
theorem awaits_of_due
    (hDue : (Begun.moving m).DueOn c) :
    c.Awaits m := by
  rcases hDue with ⟨hFeed, ⟨key, hPlan⟩, hRecords⟩
  have hGeneration : m.generation = c.generation m.feed := by
    rw [hFeed, c.generation_current]
    unfold Move.generation
    rw [hPlan]
    rfl
  exact
    { feed := Nat.le_of_eq hFeed
      age := by rw [hGeneration]; exact UInt64.le_refl _
      due := fun hRecorded =>
        Or.inr ⟨hFeed, hRecords hRecorded⟩ }

/- It stays so whatever becomes of the table. -/
theorem Awaits.succeeds
    (hAwaits : c.Awaits m)
    (hSucceeds : c.Succeeds c')
    (hGrows : c.generation m.feed ≤ c'.generation m.feed) :
    c'.Awaits m where
  feed := Nat.le_trans hAwaits.feed hSucceeds.past
  age := UInt64.le_trans hAwaits.age hGrows
  due hRecords := by
    rcases hAwaits.due hRecords with hStale | ⟨hFeed, hMode⟩
    · exact Or.inl (UInt64.lt_of_lt_of_le hStale hGrows)
    · rcases hSucceeds.stale hMode with ⟨hStill, hPast⟩ | hAborted
      · exact Or.inr ⟨by rw [hFeed, hPast], hStill⟩
      · rw [← hFeed] at hAborted
        refine Or.inl (UInt64.lt_of_le_of_lt hAwaits.age ?_)
        exact UInt64.lt_of_le_of_ne hGrows (Ne.symm hAborted)

/- Its answers do not matter. -/
theorem Awaits.of_plan
    {m' : Move ρ κ}
    (hAwaits : c.Awaits m)
    (hFeed : m'.feed = m.feed)
    (hRecords : m'.records = m.records)
    (hPlan : m'.flight.plan = m.flight.plan) :
    c.Awaits m' := by
  have hGeneration : m'.generation = m.generation := by
    unfold Move.generation
    rw [hPlan]
  exact
    { feed := by rw [hFeed]; exact hAwaits.feed
      age := by rw [hFeed, hGeneration]; exact hAwaits.age
      due := by
        rw [hFeed, hRecords, hGeneration]
        exact hAwaits.due }

/- A recorded move is committed only while its pages are shown. -/
theorem Awaits.shown_of_committed
    [Listing σ ρ κ]
    [DecidableEq κ]
    (hAwaits : c.Awaits m)
    (hRecords : m.records = true)
    (hOutcome : (c.finish m).2 = .committed) :
    m.feed = c.past.length ∧ c.mode = .pagination := by
  have hGeneration : c.generation m.feed = m.generation := by
    rw [finish_snd] at hOutcome
    unfold Buffer.commit at hOutcome
    split at hOutcome
    · next hCurrent =>
        unfold Buffer.isCurrent Guard.isCurrent at hCurrent
        rw [Bool.and_eq_true, beq_iff_eq] at hCurrent
        unfold generation
        rw [if_pos hAwaits.feed]
        exact hCurrent.1
    · cases hOutcome
  rcases hAwaits.due hRecords with hStale | hShown
  · rw [hGeneration] at hStale
    exact absurd hStale (UInt64.lt_irrefl _)
  · exact hShown

end Controller

------------------------------------------------------------
-- Tables in Time
------------------------------------------------------------

namespace TableTraffic

/-
  What holds of a table and its promises: every abort was
  counted, every move under way is in time, and a live table
  has no recorded place.
-/
structure Timely
    (s : TableTraffic σ ρ κ) : Prop where
  generations : ∀ n, (s.table.generation n).toNat ≤ s.aborts
  moves : ∀ m, .pending m ∈ s.promises → s.table.Awaits m
  live : s.table.mode = .autoRefresh →
    s.table.nav.Placeless s.table.names

/- It holds of a table of which nothing has been asked. -/
theorem timely_start
    (source : σ)
    (config : PagerConfig)
    (nav : Params)
    (names : NavNames) :
    (start (.new source config nav names) :
      TableTraffic σ ρ κ).Timely where
  generations n := by
    show ((Controller.new source config nav names :
      Controller σ ρ κ).generation n).toNat ≤ 0
    unfold Controller.generation
    split <;> exact Nat.le_refl 0
  moves m hMove := absurd hMove List.not_mem_nil
  live hLive := nomatch hLive

namespace Timely

variable {s : TableTraffic σ ρ κ}

/- It is kept by every change that supersedes what it must. -/
theorem become
    (hTimely : s.Timely)
    {c : Controller σ ρ κ}
    (hSucceeds : s.table.Succeeds c)
    (hLive : c.mode = .autoRefresh → c.nav.Placeless c.names)
    (hFew : (s.become c).aborts < 2 ^ 64) :
    (s.become c).Timely where
  generations n :=
    Controller.generation_le hSucceeds.past
      (hTimely.generations n)
  moves m hMove :=
    (hTimely.moves m hMove).succeeds hSucceeds
      (Controller.generation_mono hSucceeds.past
        (hTimely.generations m.feed) hFew)
  live := hLive

/- It is kept by every change that leaves the mode alone. -/
theorem resemble
    (hTimely : s.Timely)
    {c : Controller σ ρ κ}
    (hSame : s.table.Resembles c)
    (hFew : (s.become c).aborts < 2 ^ 64) :
    (s.become c).Timely := by
  refine hTimely.become hSame.succeeds (fun hLive => ?_) hFew
  rw [hSame.mode] at hLive
  rw [hSame.nav, hSame.names]
  exact hTimely.live hLive

/- It is kept by what becomes of a promise. -/
theorem resolve
    (hTimely : s.Timely)
    {place : Nat}
    {p : Promise ρ κ}
    (hPromise : ∀ m, p = .pending m → s.table.Awaits m) :
    (s.resolve place p).Timely where
  generations := hTimely.generations
  moves m hMove := by
    rcases List.mem_or_eq_of_mem_set hMove with hOld | hNew
    · exact hTimely.moves m hOld
    · exact hPromise m hNew.symm
  live := hTimely.live

variable [Listing σ ρ κ]

/- It is kept by whatever is asked of the table. -/
theorem ask
    (hTimely : s.Timely)
    (now : Nat)
    (errand : Errand σ)
    (hFew :
      (s.become (s.table.undertake now errand).1).aborts <
        2 ^ 64) :
    ({ s.become (s.table.undertake now errand).1 with
      promises := s.promises ++
        ((s.table.undertake now errand).2.map
          Begun.promise).toList } :
      TableTraffic σ ρ κ).Timely := by
  have hSucceeds := s.table.succeeds_undertake now errand
  have hLive :
      (s.table.undertake now errand).1.mode = .autoRefresh →
        (s.table.undertake now errand).1.nav.Placeless
          (s.table.undertake now errand).1.names := by
    intro hMode
    rw [hSucceeds.names]
    by_cases hForgets : s.table.Forgets errand
    · rw [Controller.nav_undertake_of_forgets hForgets]
      exact NavState.placeless_write _ _
    · rw [Controller.nav_undertake_of_not_forgets hForgets]
      exact hTimely.live (Controller.live_of_undertake hMode hForgets)
  have hNext := hTimely.become hSucceeds hLive hFew
  refine ⟨hNext.generations, fun m hMove => ?_, hNext.live⟩
  rcases List.mem_append.mp hMove with hOld | hNew
  · exact hNext.moves m hOld
  · rw [Option.mem_toList, Option.map_eq_some_iff] at hNew
    rcases hNew with ⟨begun, hBegun, hPromise⟩
    have hDue := s.table.due_undertake hBegun
    cases begun with
    | ended outcome => cases hPromise
    | failed fault => cases hPromise
    | moving move =>
        cases hPromise
        exact Controller.awaits_of_due hDue

/- It is kept by an answer. -/
theorem answerMove
    (hTimely : s.Timely)
    {place : Nat}
    {m : Move ρ κ}
    (hMove : .pending m ∈ s.promises)
    (reply : Reply ρ) :
    (s.answerMove place m reply).Timely := by
  have hAwaits := hTimely.moves m hMove
  unfold TableTraffic.answerMove
  split
  · refine hTimely.resolve fun m' hSame => ?_
    cases hSame
    exact hAwaits.of_plan rfl rfl rfl
  · exact hTimely.resolve fun m' hSame => nomatch hSame

variable [DecidableEq κ]

/- It is kept by the end of a move, which may record its page. -/
theorem finishMove
    (hTimely : s.Timely)
    {place : Nat}
    {m : Move ρ κ}
    (hMove : .pending m ∈ s.promises)
    (hFew : (s.finishMove place m).aborts < 2 ^ 64) :
    (s.finishMove place m).Timely := by
  have hAwaits := hTimely.moves m hMove
  rcases s.table.finish_parts m with ⟨hNames, hMode, hPast⟩
  refine (hTimely.become
    (Controller.succeeds_of_mode hNames hPast hMode)
    (fun hLive => ?_) hFew).resolve
      fun m' hSame => nomatch hSame
  rw [hMode] at hLive
  rw [hNames, s.table.nav_finish_of_not_recorded m ?_]
  · exact hTimely.live hLive
  · rintro ⟨hRecords, hOutcome⟩
    rw [(hAwaits.shown_of_committed hRecords hOutcome).2] at hLive
    cases hLive

/- It is kept by every step. -/
theorem step
    (hTimely : s.Timely)
    (event : Event σ ρ)
    (hFew : (s.step event).aborts < 2 ^ 64) :
    (s.step event).Timely := by
  have hStride := s.stride_step event
  generalize s.step event = s' at hStride hFew
  cases hStride with
  | ask now errand => exact hTimely.ask now errand hFew
  | answer place m reply hMove hOpen =>
      exact hTimely.answerMove (List.mem_of_getElem? hMove) reply
  | finish place m hMove hDone =>
      exact hTimely.finishMove (List.mem_of_getElem? hMove) hFew
  | drop place =>
      exact hTimely.resolve fun m hSame => nomatch hSame
  | time event c hPassive hSame =>
      exact hTimely.resemble hSame hFew
  | idle event hAsk => exact hTimely

end Timely

variable [Listing σ ρ κ] [DecidableEq κ]

/- No abort is taken back by a step. -/
theorem aborts_le_step
    (s : TableTraffic σ ρ κ)
    (event : Event σ ρ) :
    s.aborts ≤ (s.step event).aborts := by
  have hStride := s.stride_step event
  generalize s.step event = s' at hStride
  cases hStride with
  | ask now errand => exact Nat.le_add_right _ _
  | answer place m reply hMove hOpen =>
      unfold answerMove
      split <;> exact Nat.le_refl _
  | finish place m hMove hDone => exact Nat.le_add_right _ _
  | drop place => exact Nat.le_refl _
  | time event c hPassive hSame => exact Nat.le_add_right _ _
  | idle event hAsk => exact Nat.le_refl _

/- Nor by a run. -/
theorem aborts_le_run
    (s : TableTraffic σ ρ κ)
    (events : List (Event σ ρ)) :
    s.aborts ≤ (s.run events).aborts := by
  induction events generalizing s with
  | nil => exact Nat.le_refl _
  | cons event rest ih =>
      exact Nat.le_trans (s.aborts_le_step event)
        (ih (s.step event))

/- Every table under traffic is in time. -/
theorem timely_run
    {s : TableTraffic σ ρ κ}
    (hTimely : s.Timely)
    (events : List (Event σ ρ))
    (hFew : (s.run events).aborts < 2 ^ 64) :
    (s.run events).Timely := by
  induction events generalizing s with
  | nil => exact hTimely
  | cons event rest ih =>
      have hNext : (s.step event).aborts < 2 ^ 64 :=
        Nat.lt_of_le_of_lt (aborts_le_run _ rest) hFew
      exact ih (hTimely.step event hNext) hFew

------------------------------------------------------------
-- The Record
------------------------------------------------------------

/- Whether an event commits a move whose page is recorded. -/
def Records
    (s : TableTraffic σ ρ κ) : Event σ ρ → Prop
  | .finish place =>
      (∃ m, s.promises[place]? = some (.pending m) ∧
        m.records = true) ∧
      (s.step (.finish place)).promises[place]? =
        some (.kept (.ok .committed))
  | _ => False

omit [Listing σ ρ κ] [DecidableEq κ] in
instance decidablePending
    (Holds : Move ρ κ → Prop)
    [DecidablePred Holds] :
    (p : Option (Promise ρ κ)) →
      Decidable (∃ m, p = some (.pending m) ∧ Holds m)
  | some (.pending m) => decidable_of_iff (Holds m) (by simp)
  | some (.kept _) | some .dropped | none => .isFalse (by simp)

omit [Listing σ ρ κ] [DecidableEq κ] in
instance decidableCommitted :
    (p : Option (Promise ρ κ)) →
      Decidable (p = some (.kept (.ok .committed)))
  | some (.kept (.ok .committed)) => .isTrue rfl
  | some (.kept (.ok .discarded)) | some (.kept (.error _))
  | some (.pending _) | some .dropped | none =>
      .isFalse (by simp)

instance
    (s : TableTraffic σ ρ κ) :
    (event : Event σ ρ) → Decidable (s.Records event)
  | .finish place =>
      inferInstanceAs (Decidable
        ((∃ m, s.promises[place]? = some (.pending m) ∧
          m.records = true) ∧
        (s.step (.finish place)).promises[place]? =
          some (.kept (.ok .committed))))
  | .ask _ _ | .answer _ _ | .drop _ | .tick | .answerTick _
  | .finishTick | .source _ _ => .isFalse id

omit [DecidableEq κ] in
/- Whether an event removes the recorded place. -/
def Forgets
    (s : TableTraffic σ ρ κ) : Event σ ρ → Prop
  | .ask _ errand => s.table.Forgets errand
  | _ => False

/-
  What an event may do to the parameters of a table: record the
  page that the table shows from then on, remove the record, or
  leave everything as it is.
-/
structure KeepsRecord
    (s : TableTraffic σ ρ κ)
    (event : Event σ ρ)
    (names : NavNames) : Prop where
  others : ∀ other, other ≠ names.page → other ≠ names.key →
    (s.step event).table.nav.get? other =
      s.table.nav.get? other
  recorded : s.Records event →
    (s.step event).table.mode = .pagination ∧
    (s.step event).table.nav.get? names.page =
      some (toString (s.step event).table.currentPage) ∧
    (s.step event).table.nav.get? names.key =
      (s.step event).table.visiblePlace.key
  forgotten : s.Forgets event →
    (s.step event).table.nav.Placeless names
  kept : ¬s.Records event → ¬s.Forgets event →
    (s.step event).table.nav = s.table.nav

/- A step that neither records nor forgets. -/
theorem keepsRecord_of_nav
    {s : TableTraffic σ ρ κ}
    {event : Event σ ρ}
    {names : NavNames}
    (hRecords : ¬s.Records event)
    (hForgets : ¬s.Forgets event)
    (hNav : (s.step event).table.nav = s.table.nav) :
    s.KeepsRecord event names where
  others other _ _ := by rw [hNav]
  recorded h := absurd h hRecords
  forgotten h := absurd h hForgets
  kept _ _ := hNav

/- What is asked of a table records nothing at once. -/
theorem keepsRecord_ask
    (s : TableTraffic σ ρ κ)
    (now : Nat)
    (errand : Errand σ) :
    s.KeepsRecord (.ask now errand) s.table.names := by
  by_cases hForgets : s.table.Forgets errand
  · have hNav :
        (s.step (.ask now errand)).table.nav =
          ({} : NavState).write s.table.nav s.table.names :=
      Controller.nav_undertake_of_forgets hForgets
    exact
      { others := fun other hPage hKey => by
          rw [hNav, NavState.get?_write_of_ne _ _ hPage hKey]
        recorded := fun hRecords => absurd hRecords id
        forgotten := fun _ => by
          rw [hNav]
          exact NavState.placeless_write _ _
        kept := fun _ hNot => absurd hForgets hNot }
  · exact keepsRecord_of_nav id hForgets
      (Controller.nav_undertake_of_not_forgets hForgets)

/- A move that ends records its page, or changes nothing. -/
theorem keepsRecord_finish
    {s : TableTraffic σ ρ κ}
    (hTimely : s.Timely)
    (hNames : s.table.names.Distinct)
    {place : Nat}
    {m : Move ρ κ}
    (hMove : s.promises[place]? = some (.pending m))
    (hStep : s.step (.finish place) = s.finishMove place m) :
    s.KeepsRecord (.finish place) s.table.names := by
  have hNav :
      (s.step (.finish place)).table.nav =
        (s.table.finish m).1.nav := by
    rw [hStep]
    rfl
  have hKept :
      (s.step (.finish place)).promises[place]? =
        some (.kept (.ok (s.table.finish m).2)) := by
    rw [hStep]
    have hPlace := (List.getElem?_eq_some_iff.mp hMove).1
    exact List.getElem?_set_self hPlace
  by_cases hRecorded :
      m.records = true ∧ (s.table.finish m).2 = .committed
  · rcases hRecorded with ⟨hRecords, hOutcome⟩
    rcases (hTimely.moves m (List.mem_of_getElem? hMove)
      ).shown_of_committed hRecords hOutcome with ⟨hFeed, hMode⟩
    rw [s.table.nav_finish_of_recorded m hFeed hRecords
      hOutcome] at hNav
    have hTable :
        (s.step (.finish place)).table = (s.table.finish m).1 := by
      rw [hStep]
      rfl
    rw [← hTable] at hNav
    exact
      { others := fun other hPage hKey => by
          rw [hNav, NavState.get?_write_of_ne _ _ hPage hKey]
        recorded := fun _ => by
          refine ⟨?_, ?_, ?_⟩
          · rw [hTable, (s.table.finish_parts m).2.1, hMode]
          · rw [hNav, NavState.get?_write_page _ _ hNames]
            rfl
          · rw [hNav, NavState.get?_write_key]
        forgotten := fun hForgets => absurd hForgets id
        kept := fun hNot _ => absurd
          ⟨⟨m, hMove, hRecords⟩, by rw [hKept, hOutcome]⟩ hNot }
  · refine keepsRecord_of_nav ?_ id
      (hNav.trans (s.table.nav_finish_of_not_recorded m hRecorded))
    rintro ⟨⟨m', hMove', hRecords⟩, hCommitted⟩
    rw [hMove] at hMove'
    rw [hKept] at hCommitted
    cases hMove'
    exact hRecorded ⟨hRecords, by injections⟩

/- Every step records, forgets, or leaves everything alone. -/
theorem keepsRecord_step
    {s : TableTraffic σ ρ κ}
    (hTimely : s.Timely)
    (hNames : s.table.names.Distinct)
    (event : Event σ ρ) :
    s.KeepsRecord event s.table.names := by
  have hStride := s.stride_step event
  generalize hStep : s.step event = s' at hStride
  cases hStride with
  | ask now errand => exact s.keepsRecord_ask now errand
  | answer place m reply hMove hOpen =>
      refine keepsRecord_of_nav id id ?_
      rw [hStep]
      unfold answerMove
      split <;> rfl
  | finish place m hMove hDone =>
      exact keepsRecord_finish hTimely hNames hMove hStep
  | drop place =>
      refine keepsRecord_of_nav id id ?_
      rw [hStep]
      rfl
  | time event c hPassive hSame =>
      refine keepsRecord_of_nav ?_ ?_ ?_
      · cases event <;> first | exact id | exact absurd hPassive id
      · cases event <;> first | exact id | exact absurd hPassive id
      · rw [hStep]
        exact hSame.nav
  | idle event hAsk =>
      refine keepsRecord_of_nav ?_ ?_ (by rw [hStep])
      · cases event with
        | finish place =>
            rintro ⟨⟨m, hMove, -⟩, hCommitted⟩
            rw [hStep, hMove] at hCommitted
            cases hCommitted
        | _ => exact id
      · cases event with
        | ask now errand => exact absurd rfl (hAsk now errand)
        | _ => exact id

/- The names of the parameters stay. -/
theorem names_step
    (s : TableTraffic σ ρ κ)
    (event : Event σ ρ) :
    (s.step event).table.names = s.table.names := by
  have hStride := s.stride_step event
  generalize s.step event = s' at hStride
  cases hStride with
  | ask now errand => exact (s.table.succeeds_undertake now errand).names
  | answer place m reply hMove hOpen =>
      unfold answerMove
      split <;> rfl
  | finish place m hMove hDone => exact (s.table.finish_parts m).1
  | drop place => rfl
  | time event c hPassive hSame => exact hSame.names
  | idle event hAsk => rfl

/- They stay in every run. -/
theorem names_run
    (s : TableTraffic σ ρ κ)
    (events : List (Event σ ρ)) :
    (s.run events).table.names = s.table.names := by
  induction events generalizing s with
  | nil => rfl
  | cons event rest ih =>
      exact (ih (s.step event)).trans (s.names_step event)

/-
  Whatever is asked of a table, and however its moves and ticks
  overlap, a live table has no recorded place; and every event
  either records the page that the table then shows, by a move
  to a page that is committed, or removes the record, by going
  live or taking another source, or leaves the parameters as
  they are.  No other parameter is ever touched.
-/
theorem nav_follows_mode
    (source : σ)
    (config : PagerConfig)
    (nav : Params)
    (names : NavNames)
    (hNames : names.Distinct)
    (events : List (Event σ ρ))
    (hFew :
      ((start (.new source config nav names) :
        TableTraffic σ ρ κ).run events).aborts < 2 ^ 64) :
    let s : TableTraffic σ ρ κ :=
      start (.new source config nav names)
    ((s.run events).table.mode = .autoRefresh →
      (s.run events).table.nav.Placeless names) ∧
    ∀ before event after, events = before ++ event :: after →
      (s.run before).KeepsRecord event names := by
  intro s
  have hStart : s.Timely := timely_start source config nav names
  refine ⟨fun hLive => ?_, fun before event after hEvents => ?_⟩
  · have hTimely := timely_run hStart events hFew
    have hSame : (s.run events).table.names = names :=
      s.names_run events
    rw [← hSame]
    exact hTimely.live hLive
  · have hBefore : (s.run before).aborts < 2 ^ 64 := by
      rw [hEvents] at hFew
      change (s.run (before ++ event :: after)).aborts < _ at hFew
      rw [run_append] at hFew
      exact Nat.lt_of_le_of_lt (aborts_le_run _ _) hFew
    have hSame : (s.run before).table.names = names :=
      s.names_run before
    have hKeeps := keepsRecord_step
      (timely_run hStart before hBefore) (by rw [hSame]; exact hNames)
      event
    rw [hSame] at hKeeps
    exact hKeeps

/- A table of numbers, with a parameter that is not its own. -/
def numbersTable : TableTraffic Script Nat Nat :=
  start
    (.new { rows := [3, 2, 1] } { pageSize := 2 }
      (Params.empty.set "account" (some "7")) {})

/-
  A live table goes to page 2, but goes live again before that
  move has loaded; later it goes to page 2 once more.
-/
def overtaken : List (Event Script Nat) :=
  [.ask 0 .mount, .answer 0 (.ok (some [3, 2])), .finish 0,
   .ask 10 (.goto 2), .ask 20 .live,
   .answer 1 (.ok (some [1])), .finish 1,
   .answer 2 (.ok (some [4, 3])), .finish 2,
   .ask 30 (.goto 2), .answer 3 (.ok (some [2, 1])), .finish 3]

/- The first of the two moves is not recorded, the second is. -/
theorem nav_follows_mode_overtaken :
    (({} : NavNames).Distinct ∧
      (numbersTable.run overtaken).aborts < 2 ^ 64) ∧
    (numbersTable.run (overtaken.take 9)).table.nav.Placeless {} ∧
    (numbersTable.run (overtaken.take 11)).KeepsRecord
      (.finish 3) {} ∧
    (numbersTable.run overtaken).table.nav.pairs =
      [("account", "7"), ("k", "2"), ("p", "2")] := by
  have hNames : ({} : NavNames).Distinct := by decide
  have hFew : (numbersTable.run overtaken).aborts < 2 ^ 64 := by
    decide +kernel
  have hFewLive :
      (numbersTable.run (overtaken.take 9)).aborts < 2 ^ 64 := by
    decide +kernel
  have hLive :=
    (nav_follows_mode _ _ _ _ hNames (overtaken.take 9) hFewLive).1
  have hKeeps :=
    (nav_follows_mode _ _ _ _ hNames overtaken hFew).2
  exact
    ⟨⟨hNames, hFew⟩, hLive (by decide +kernel),
      hKeeps (overtaken.take 11) (.finish 3) [] rfl,
      by decide +kernel⟩

end TableTraffic

end LedgerView
