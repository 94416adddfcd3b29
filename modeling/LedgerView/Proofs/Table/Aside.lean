import LedgerView.Proofs.Nav.Params
import LedgerView.Proofs.Table.Restart
import LedgerView.Proofs.Table.Shown

/-
  What a table keeps whatever it does.

  Only the replacement of its source gives a table another one,
  and of its parameters no table touches any but those of its
  place.  A table that is not shown has no timer, and a move
  that was superseded before it ended changes neither what is
  shown nor what is recorded.

  Key definitions include:
    * `Errand.KeepsSource`
    * `Beat`
    * `Controller.beat`
    * `Controller.Abides`

  Key theorems include:
    * `Controller.abides_undertake`
    * `Controller.abides_beat`
    * `Controller.abides_finish`
    * `Controller.beat_of_unmounted`
    * `Controller.finish_of_stale`
-/

namespace LedgerView

variable {σ ρ κ : Type}

/- Whether an operation leaves a table the source it has. -/
def Errand.KeepsSource : Errand σ → Prop
  | .replace _ => False
  | _ => True

------------------------------------------------------------
-- Beats
------------------------------------------------------------

/- Something that the timer of a live view does. -/
inductive Beat (ρ : Type) where
  /- The tick that is due begins. -/
  | begin
  /- The query of the tick is answered. -/
  | answer (reply : Reply ρ)
  /- A tick that has loaded everything ends. -/
  | finish

/- The event of a table that a beat is. -/
def Beat.event : Beat ρ → TableTraffic.Event σ ρ
  | .begin => .tick
  | .answer reply => .answerTick reply
  | .finish => .finishTick

namespace Controller

/- A table that is not shown has nothing to show it by. -/
theorem strategy_of_unmounted
    {c : Controller σ ρ κ}
    (hUnmounted : c.mode = .unmounted) :
    c.strategy = .unmounted := by
  unfold mode at hUnmounted
  split at hUnmounted
  · next hStrategy => exact hStrategy
  · exact nomatch hUnmounted
  · exact nomatch hUnmounted

variable [Listing σ ρ κ] [DecidableEq κ]

/- What a table becomes by a beat of its timer. -/
def beat
    (c : Controller σ ρ κ)
    (beat : Beat ρ) : Controller σ ρ κ :=
  ((TableTraffic.start c).step beat.event).table

/- A beat begins a tick, feeds it, ends it, or does nothing. -/
theorem beat_cases
    (c : Controller σ ρ κ)
    (beat : Beat ρ) :
    c.beat beat = c ∨ c.beat beat = c.beginTick ∨
      (∃ rows, c.beat beat = TableTraffic.feedTick c rows) ∨
      ∃ loaded, c.beat beat = c.endTick loaded := by
  unfold Controller.beat Beat.event TableTraffic.step
  cases beat with
  | begin => exact .inr (.inl rfl)
  | answer reply =>
      dsimp only
      split
      · split
        · exact .inl rfl
        · split
          · exact .inr (.inr (.inl ⟨_, rfl⟩))
          · exact .inr (.inr (.inr ⟨none, rfl⟩))
      · exact .inl rfl
  | finish =>
      dsimp only
      split
      · split
        · exact .inr (.inr (.inr ⟨some _, rfl⟩))
        · exact .inl rfl
      · exact .inl rfl

/- A table whose timer beats resembles itself. -/
theorem resembles_beat
    (c : Controller σ ρ κ)
    (beat : Beat ρ) :
    c.Resembles (c.beat beat) := by
  rcases c.beat_cases beat with
    hBeat | hBeat | ⟨rows, hBeat⟩ | ⟨loaded, hBeat⟩
  · rw [hBeat]
    exact c.resembles_refl
  · rw [hBeat]
    exact c.resembles_beginTick
  · rw [hBeat]
    exact c.resembles_feedTick rows
  · rw [hBeat]
    exact c.resembles_endTick loaded

/- A table that is not shown has no timer that could beat. -/
theorem beat_of_unmounted
    {c : Controller σ ρ κ}
    (hUnmounted : c.mode = .unmounted)
    (beat : Beat ρ) :
    c.beat beat = c := by
  have hStrategy := strategy_of_unmounted hUnmounted
  rcases c.beat_cases beat with
    hBeat | hBeat | ⟨rows, hBeat⟩ | ⟨loaded, hBeat⟩
  · exact hBeat
  · rw [hBeat]
    unfold beginTick
    rw [hStrategy]
  · rw [hBeat]
    unfold TableTraffic.feedTick
    rw [hStrategy]
  · rw [hBeat]
    unfold endTick
    rw [hStrategy]

end Controller

------------------------------------------------------------
-- Sources and Other Parameters
------------------------------------------------------------

namespace Controller

/-
  What a table keeps: the names of its parameters, its source,
  and every parameter that is not of its place.
-/
structure Abides
    (c c' : Controller σ ρ κ) : Prop where
  names : c'.names = c.names
  source : c'.feed.source = c.feed.source
  others : ∀ other, other ≠ c.names.page → other ≠ c.names.key →
    c'.nav.get? other = c.nav.get? other

/- A table that keeps all its parameters abides. -/
theorem abides_of_nav
    {c c' : Controller σ ρ κ}
    (hNames : c'.names = c.names)
    (hSource : c'.feed.source = c.feed.source)
    (hNav : c'.nav = c.nav) :
    c.Abides c' where
  names := hNames
  source := hSource
  others other _ _ := by rw [hNav]

/- So does one that records a place. -/
theorem abides_of_write
    {c c' : Controller σ ρ κ}
    (hNames : c'.names = c.names)
    (hSource : c'.feed.source = c.feed.source)
    {place : NavState}
    (hNav : c'.nav = place.write c.nav c.names) :
    c.Abides c' where
  names := hNames
  source := hSource
  others other hPage hKey := by
    rw [hNav, NavState.get?_write_of_ne _ _ hPage hKey]

variable [Listing σ ρ κ]

/- Going to a page keeps the source, -/
theorem source_beginGoto
    (c : Controller σ ρ κ)
    (page : Nat) :
    (c.beginGoto page).1.feed.source = c.feed.source := by
  have hPaginate : c.paginate.feed.source = c.feed.source := by
    unfold paginate
    split <;> rfl
  rw [beginGoto_fst]
  split <;> exact hPaginate

/- and so does everything else but to replace it. -/
theorem source_undertake
    (now : Nat)
    (c : Controller σ ρ κ)
    {errand : Errand σ}
    (hKeeps : errand.KeepsSource) :
    (c.undertake now errand).1.feed.source = c.feed.source := by
  cases errand with
  | mount =>
      show (c.beginMount now).1.feed.source = _
      unfold beginMount
      split
      · rw [beginRecorded_fst]
        rfl
      · rfl
  | unmount => rfl
  | live => rfl
  | goto page => exact c.source_beginGoto page
  | next => exact c.source_beginGoto (c.currentPage + 1)
  | previous =>
      exact c.source_beginGoto (max (c.currentPage - 1) 1)
  | refresh =>
      show c.beginRefresh.1.feed.source = _
      unfold beginRefresh
      split
      · rfl
      · rw [beginRecorded_fst]
        rfl
      · rfl
  | togglePause =>
      show (c.togglePause now).1.feed.source = _
      unfold togglePause
      split <;> rfl
  | resume =>
      show (c.resume now).feed.source = _
      unfold resume
      split <;> rfl
  | setPageSize pageSize =>
      show (c.beginSetPageSize pageSize).1.feed.source = _
      rw [beginSetPageSize_eq]
      split
      · exact (c.resized pageSize).source_beginGoto _
      · rw [beginMove_fst]
        rfl
      · rfl
  | replace source => exact absurd hKeeps id

/- Another source is taken at once. -/
theorem source_beginReplace
    (now : Nat)
    (c : Controller σ ρ κ)
    (source : σ) :
    (c.beginReplace now source).1.feed.source = source := by
  rw [beginReplace_eq]
  split
  · exact (c.supplied source).forgetPlace.source_beginGoto 1
  · rfl
  · rfl

/- What is asked of a table touches its place at most. -/
theorem others_undertake
    (now : Nat)
    (c : Controller σ ρ κ)
    (errand : Errand σ) :
    ∀ other, other ≠ c.names.page → other ≠ c.names.key →
      (c.undertake now errand).1.nav.get? other =
        c.nav.get? other := by
  intro other hPage hKey
  by_cases hForgets : c.Forgets errand
  · rw [nav_undertake_of_forgets hForgets]
    exact NavState.get?_write_of_ne _ _ hPage hKey
  · rw [nav_undertake_of_not_forgets hForgets]

/- A table abides by what is asked of it, -/
theorem abides_undertake
    (now : Nat)
    (c : Controller σ ρ κ)
    {errand : Errand σ}
    (hKeeps : errand.KeepsSource) :
    c.Abides (c.undertake now errand).1 where
  names := (c.succeeds_undertake now errand).names
  source := c.source_undertake now hKeeps
  others := c.others_undertake now errand

variable [DecidableEq κ]

/- by the beats of its timer, -/
theorem abides_beat
    (c : Controller σ ρ κ)
    (beat : Beat ρ) :
    c.Abides (c.beat beat) := by
  have hSame := c.resembles_beat beat
  refine abides_of_nav hSame.names ?_ hSame.nav
  rcases c.beat_cases beat with
    hBeat | hBeat | ⟨rows, hBeat⟩ | ⟨loaded, hBeat⟩
  · rw [hBeat]
  · rw [hBeat]
    unfold beginTick
    split <;> rfl
  · rw [hBeat]
    unfold TableTraffic.feedTick
    split
    · split <;> rfl
    · rfl
  · rw [hBeat]
    unfold endTick
    split <;> rfl

/- and by the ends of its moves. -/
theorem abides_finish
    (c : Controller σ ρ κ)
    (m : Move ρ κ) :
    c.Abides (c.finish m).1 := by
  have hNames := (c.finish_parts m).1
  have hSource := (c.endures_finish m).source
  let feed := c.feedAt m.feed
  let ended :=
    feed.buffer.commit (Listing.key feed.source) m.flight
  have hSet :=
    c.resembles_setFeedAt m.feed { feed with buffer := ended.1 }
  by_cases hRecorded :
      m.records = true ∧ (c.finish m).2 = .committed
  · rcases hRecorded with ⟨hRecords, hOutcome⟩
    rw [finish_snd] at hOutcome
    have hPlace : ∃ place : NavState,
        (c.finish m).1.nav = place.write c.nav c.names := by
      unfold finish
      dsimp only
      rw [hRecords, hOutcome]
      dsimp only
      unfold record
      rw [hSet.nav, hSet.names]
      exact ⟨_, rfl⟩
    rcases hPlace with ⟨place, hNav⟩
    exact abides_of_write hNames hSource hNav
  · exact abides_of_nav hNames hSource
      (c.nav_finish_of_not_recorded m hRecorded)

------------------------------------------------------------
-- Superseded Moves
------------------------------------------------------------

/-
  A move that was superseded changes neither what the table
  shows nor its parameters, on whatever source it was begun.
-/
theorem finish_of_stale
    (c : Controller σ ρ κ)
    {m : Move ρ κ}
    (hStale :
      (c.feedAt m.feed).buffer.guard.generation ≠
        m.flight.plan.ticket.generation) :
    (c.finish m).1.window = c.window ∧
      (c.finish m).1.nav = c.nav := by
  let feed := c.feedAt m.feed
  let key := Listing.key feed.source
  have hDiscarded :
      feed.buffer.commit key m.flight =
        ({ feed.buffer with
          guard := feed.buffer.guard.noteDiscarded },
          .discarded) := by
    refine if_neg ?_
    unfold Buffer.isCurrent Guard.isCurrent
    rw [Bool.and_eq_true, beq_iff_eq]
    exact fun hCurrent => hStale hCurrent.1
  constructor
  · by_cases hFeed : m.feed < c.past.length
    · unfold Controller.window
      rw [c.finish_past m hFeed]
    · have hCurrent : c.feedAt m.feed = c.feed :=
        c.feedAt_of_le (Nat.not_lt.mp hFeed)
      have hFinish :
          (c.finish m).1.feed.buffer.window =
            (feed.buffer.commit key m.flight).1.window := by
        unfold finish
        dsimp only
        unfold setFeedAt
        rw [if_neg hFeed]
        split <;> rfl
      unfold Controller.window
      rw [hFinish, hDiscarded]
      exact congrArg (fun feed => feed.buffer.window) hCurrent
  · refine c.nav_finish_of_not_recorded m fun hRecorded => ?_
    have hOutcome := hRecorded.2
    rw [finish_snd, hDiscarded] at hOutcome
    cases hOutcome

end Controller

end LedgerView
