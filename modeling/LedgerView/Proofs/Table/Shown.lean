import LedgerView.Proofs.Load.Whole
import LedgerView.Proofs.Table.Sizes

/-
  Tables out of sight.

  How a table is shown is settled when an operation is begun;
  no move and no timer changes it.  A table that is not shown
  has no timer, and the moves that were begun on it may fill
  its window, but they change neither its source nor the size
  of its pages.

  Key definitions include:
    * `Controller.Endures`

  Key theorems include:
    * `Controller.mode_perform`
    * `Controller.resembles_advance`
    * `Controller.advance_of_unmounted`
    * `Controller.endures_completeMove`
-/

namespace LedgerView

variable {σ ρ κ : Type}

namespace Controller

variable {c c' c'' : Controller σ ρ κ}

------------------------------------------------------------
-- Moves
------------------------------------------------------------

section Moves

variable [Listing σ ρ κ] [DecidableEq κ]
variable (ask : σ → ListQuery κ → Reply ρ × σ)

/- No move changes how the table is shown, -/
theorem mode_completeMove
    (c : Controller σ ρ κ)
    (m : Move ρ κ) :
    (c.completeMove ask m).1.mode = c.mode := by
  unfold completeMove
  dsimp only
  split
  · next f source _ =>
      let read := c.setFeedAt m.feed
        { c.feedAt m.feed with source := source }
      exact (read.finish_parts { m with flight := f }).2.1.trans
        (c.resembles_setFeedAt m.feed _).mode
  · exact (c.resembles_setFeedAt m.feed _).mode

/- nor what is left of an operation. -/
theorem mode_perform
    (begun : Controller σ ρ κ × Begun ρ κ) :
    (perform ask begun).1.mode = begun.1.mode := by
  rcases begun with ⟨c, outcome | e | m⟩
  · rfl
  · rfl
  · exact c.mode_completeMove ask m

end Moves

------------------------------------------------------------
-- Timers
------------------------------------------------------------

/- A table resembles itself, -/
theorem resembles_refl
    (c : Controller σ ρ κ) :
    c.Resembles c :=
  ⟨rfl, rfl, rfl, rfl⟩

/- and what resembles it step by step. -/
theorem Resembles.trans
    (h : c.Resembles c')
    (h' : c'.Resembles c'') :
    c.Resembles c'' :=
  ⟨h'.names.trans h.names, h'.nav.trans h.nav,
    h'.mode.trans h.mode, h'.past.trans h.past⟩

section Timers

variable [Listing σ ρ κ] [DecidableEq κ]
variable (ask : σ → ListQuery κ → Reply ρ × σ)

/- A tick changes neither the mode nor the parameters, -/
theorem resembles_tick
    (c : Controller σ ρ κ) :
    c.Resembles (c.tick ask) := by
  have hBegun := c.resembles_beginTick
  have hRead (source : σ) :
      c.beginTick.Resembles { c.beginTick with
        feed := { c.beginTick.feed with source := source } } :=
    ⟨rfl, rfl, rfl, rfl⟩
  unfold tick
  dsimp only
  split
  · split
    · exact (hBegun.trans (hRead _)).trans
        (resembles_endTick _ _)
    · exact (hBegun.trans (hRead _)).trans
        (resembles_endTick _ _)
  · exact hBegun

/- nor does any number of them, -/
theorem resembles_tickUntil
    (moment fuel : Nat)
    (c : Controller σ ρ κ) :
    c.Resembles (tickUntil ask moment fuel c) := by
  induction fuel generalizing c with
  | zero => exact c.resembles_refl
  | succ fuel ih =>
      unfold tickUntil
      split
      · split
        · exact (c.resembles_tick ask).trans (ih _)
        · exact c.resembles_refl
      · exact c.resembles_refl

/- nor any time that passes. -/
theorem resembles_advance
    (moment : Nat)
    (c : Controller σ ρ κ) :
    c.Resembles (c.advance ask moment) := by
  unfold advance
  split
  · exact resembles_tickUntil ask moment _ c
  · exact c.resembles_refl

/- A table that is not shown has no timer. -/
theorem advance_of_unmounted
    (moment : Nat)
    (hUnmounted : c.mode = .unmounted) :
    c.advance ask moment = c := by
  have hDue : c.due? = none := by
    unfold due?
    unfold mode at hUnmounted
    split
    · next view hLive =>
        rw [hLive] at hUnmounted
        exact nomatch hUnmounted
    · rfl
  unfold advance
  rw [hDue]

end Timers

------------------------------------------------------------
-- Sources That Stay
------------------------------------------------------------

/-
  What moves leave alone when sources do not change by being
  asked: the mode, the source in use, and the page size.
-/
structure Endures
    (c c' : Controller σ ρ κ) : Prop where
  mode : c'.mode = c.mode
  source : c'.feed.source = c.feed.source
  pageSize : c'.window.pageSize = c.window.pageSize

/- A table endures as it is, -/
theorem endures_refl
    (c : Controller σ ρ κ) :
    c.Endures c :=
  ⟨rfl, rfl, rfl⟩

/- and step by step. -/
theorem Endures.trans
    (h : c.Endures c')
    (h' : c'.Endures c'') :
    c.Endures c'' :=
  ⟨h'.mode.trans h.mode, h'.source.trans h.source,
    h'.pageSize.trans h.pageSize⟩

end Controller

/- A load reads from a source that stays as it is. -/
theorem Load.source_run
    {key : ρ → κ}
    {limit : Nat}
    {ask : σ → ListQuery κ → Reply ρ × σ}
    (hLimit : 0 < limit)
    (hAsk : ∀ source q, (ask source q).2 = source)
    (source : σ)
    (l : Load ρ κ) :
    (l.run key limit hLimit ask source).2 = source := by
  induction l using chunk_induction key hLimit
    generalizing source with
  | done l hDone => rw [run_of_isDone hLimit source hDone]
  | loading l hOpen ih =>
      have hSame := hAsk source (l.query limit)
      rcases hReply : ask source (l.query limit) with
        ⟨reply, next⟩
      rw [hReply] at hSame
      cases reply with
      | error e =>
          rw [run_of_error hLimit hOpen hReply]
          exact hSame
      | ok rows =>
          rw [run_of_answer hLimit hOpen hReply]
          exact (ih (rows.getD []) next).trans hSame

/- So does a flight. -/
theorem Buffer.source_fly
    {ask : σ → ListQuery κ → Reply ρ × σ}
    (hAsk : ∀ source q, (ask source q).2 = source)
    (key : ρ → κ)
    (b : Buffer ρ)
    (source : σ)
    (f : Flight ρ κ) :
    (b.fly key ask source f).2 = source := by
  have hRun :
      (f.load.run key b.maxLimit b.maxLimit_pos ask source).2 =
        source :=
    f.load.source_run b.maxLimit_pos hAsk source
  unfold fly
  split <;>
  · next hEnd =>
      rw [hEnd] at hRun
      exact hRun

namespace Controller

/- Whatever is loaded into a feed, the table endures. -/
theorem endures_setFeedAt
    (c : Controller σ ρ κ)
    (n : Nat)
    (feed : Feed σ ρ)
    (hSource : feed.source = (c.feedAt n).source)
    (hSize :
      feed.buffer.window.pageSize =
        (c.feedAt n).buffer.window.pageSize) :
    c.Endures (c.setFeedAt n feed) := by
  unfold setFeedAt
  split
  · exact ⟨rfl, rfl, rfl⟩
  · next hCurrent =>
      rw [c.feedAt_of_le (Nat.not_lt.mp hCurrent)]
        at hSource hSize
      exact ⟨rfl, hSource, hSize⟩

variable [Listing σ ρ κ] [DecidableEq κ]
variable {ask : σ → ListQuery κ → Reply ρ × σ}

/- It endures the end of a move on any of its feeds, -/
theorem endures_finish
    (c : Controller σ ρ κ)
    (m : Move ρ κ) :
    c.Endures (c.finish m).1 := by
  let feed := c.feedAt m.feed
  let buffer :=
    (feed.buffer.commit (Listing.key feed.source) m.flight).1
  have hSet :=
    c.endures_setFeedAt m.feed { feed with buffer := buffer } rfl
      (Buffer.pageSize_commit ..)
  unfold finish
  dsimp only
  split <;> exact ⟨hSet.mode, hSet.source, hSet.pageSize⟩

/- a move as a whole, -/
theorem endures_completeMove
    (hAsk : ∀ source q, (ask source q).2 = source)
    (c : Controller σ ρ κ)
    (m : Move ρ κ) :
    c.Endures (c.completeMove ask m).1 := by
  let feed := c.feedAt m.feed
  have hSource :
      (feed.buffer.fly (Listing.key feed.source) ask feed.source
        m.flight).2 = feed.source :=
    feed.buffer.source_fly hAsk _ _ m.flight
  have hRead (source : σ) (hSame : source = feed.source) :
      c.Endures (c.setFeedAt m.feed
        { feed with source := source }) :=
    c.endures_setFeedAt m.feed _ hSame rfl
  unfold completeMove
  dsimp only
  split
  · next flight source hFly =>
      rw [hFly] at hSource
      exact (hRead source hSource).trans (endures_finish _ _)
  · next e source hFly =>
      rw [hFly] at hSource
      exact hRead source hSource

/- and what is left of an operation. -/
theorem endures_perform
    (hAsk : ∀ source q, (ask source q).2 = source)
    (begun : Controller σ ρ κ × Begun ρ κ) :
    begun.1.Endures (perform ask begun).1 := by
  rcases begun with ⟨c, outcome | e | m⟩
  · exact c.endures_refl
  · exact c.endures_refl
  · exact c.endures_completeMove hAsk m

end Controller

end LedgerView
