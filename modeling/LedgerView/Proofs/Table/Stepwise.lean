import LedgerView.Proofs.Load.Whole
import LedgerView.Proofs.Table.Aside

/-
  Moves and ticks, answer by answer.

  A move that runs to its end takes one answer after the other
  until it has loaded everything.  A tick is begun, answered and
  ended in the same way.  Whatever a table runs to its end on
  sources that stay as they are, it can as well run in steps.

  Key definitions include:
    * `Controller.feedMove`
    * `Controller.replyTo`
    * `Controller.beatAll`
    * `Controller.completeTick`

  Key theorems include:
    * `Controller.move_induction`
    * `Controller.completeMove_of_answer`
    * `Controller.exists_beats_tick`
    * `Controller.exists_beats_advance`
-/

namespace LedgerView

variable {σ ρ κ : Type}

namespace Controller

------------------------------------------------------------
-- Moves
------------------------------------------------------------

/- Putting back a feed that is there changes nothing. -/
theorem setFeedAt_feedAt
    (c : Controller σ ρ κ)
    (n : Nat) :
    c.setFeedAt n (c.feedAt n) = c := by
  unfold setFeedAt
  split
  · next hPast =>
      unfold feedAt
      rw [List.getD_eq_getElem?_getD, List.getElem?_eq_getElem hPast,
        Option.getD_some, List.set_getElem_self]
  · next hCurrent =>
      rw [c.feedAt_of_le (Nat.not_lt.mp hCurrent)]

variable [Listing σ ρ κ]

/- A move that takes what answers its query. -/
def feedMove
    (c : Controller σ ρ κ)
    (m : Move ρ κ)
    (rows : Option (List ρ)) : Move ρ κ :=
  let feed := c.feedAt m.feed
  { m with
    flight :=
      m.flight.receive (Listing.key feed.source)
        feed.buffer.maxLimit (rows.getD []) }

/- What a source replies to the query of a move. -/
def replyTo
    (ask : σ → ListQuery κ → Reply ρ × σ)
    (c : Controller σ ρ κ)
    (m : Move ρ κ) : Reply ρ :=
  let feed := c.feedAt m.feed
  (ask feed.source
    (m.flight.load.query feed.buffer.maxLimit)).1

/-
  What holds of the moves that have loaded everything, and of
  every move that it holds of once that is answered, holds of
  all moves.
-/
theorem move_induction
    (c : Controller σ ρ κ)
    {Holds : Move ρ κ → Prop}
    (done : ∀ m, m.flight.load.isDone = true → Holds m)
    (loading : ∀ m, m.flight.load.isDone = false →
      (∀ rows, Holds (c.feedMove m rows)) → Holds m)
    (m : Move ρ κ) :
    Holds m := by
  suffices hAll : ∀ l,
      Holds { m with flight := { m.flight with load := l } } from
    hAll m.flight.load
  intro l
  induction l using Load.chunk_induction
      (Listing.key (c.feedAt m.feed).source)
      (c.feedAt m.feed).buffer.maxLimit_pos with
  | done l hDone => exact done _ hDone
  | loading l hOpen ih =>
      exact loading _ hOpen fun rows => ih (rows.getD [])

variable [DecidableEq κ]
variable {ask : σ → ListQuery κ → Reply ρ × σ}
variable {c : Controller σ ρ κ} {m : Move ρ κ}

/- A move that has loaded everything only ends. -/
theorem completeMove_of_isDone
    (hDone : m.flight.load.isDone = true) :
    c.completeMove ask m =
      ((c.finish m).1, .ok (c.finish m).2) := by
  let feed := c.feedAt m.feed
  have hFly :
      feed.buffer.fly (Listing.key feed.source) ask feed.source
        m.flight = (.ok m.flight, feed.source) := by
    unfold Buffer.fly
    rw [Load.run_of_isDone _ _ hDone]
  have hSame : c.setFeedAt m.feed feed = c :=
    c.setFeedAt_feedAt m.feed
  unfold completeMove
  dsimp only
  rw [hFly]
  dsimp only
  rw [hSame]

/- One whose query is not answered fails, -/
theorem completeMove_of_failure
    (hAsk : ∀ source q, (ask source q).2 = source)
    (hOpen : m.flight.load.isDone = false)
    {e : SourceError}
    (hReply : c.replyTo ask m = .error e) :
    c.completeMove ask m = (c, .error (.source e)) := by
  let feed := c.feedAt m.feed
  have hFly :
      feed.buffer.fly (Listing.key feed.source) ask feed.source
        m.flight = (.error e, feed.source) := by
    unfold Buffer.fly
    rw [Load.run_of_error _ hOpen
      (Prod.ext hReply (hAsk feed.source _))]
  have hSame : c.setFeedAt m.feed feed = c :=
    c.setFeedAt_feedAt m.feed
  unfold completeMove
  dsimp only
  rw [hFly]
  dsimp only
  rw [hSame]

/- and one that is answered goes on from there. -/
theorem completeMove_of_answer
    (hAsk : ∀ source q, (ask source q).2 = source)
    (hOpen : m.flight.load.isDone = false)
    {rows : Option (List ρ)}
    (hReply : c.replyTo ask m = .ok rows) :
    c.completeMove ask m =
      c.completeMove ask (c.feedMove m rows) := by
  let feed := c.feedAt m.feed
  have hFly :
      feed.buffer.fly (Listing.key feed.source) ask feed.source
          m.flight =
        feed.buffer.fly (Listing.key feed.source) ask feed.source
          (c.feedMove m rows).flight := by
    unfold Buffer.fly
    rw [Load.run_of_answer _ hOpen
      (Prod.ext hReply (hAsk feed.source _))]
    rfl
  unfold completeMove
  dsimp only
  rw [hFly]
  rfl

------------------------------------------------------------
-- Ticks
------------------------------------------------------------

/- What a table becomes by several beats. -/
def beatAll
    (c : Controller σ ρ κ)
    (beats : List (Beat ρ)) : Controller σ ρ κ :=
  beats.foldl beat c

/- Load everything that a tick is missing, and end it. -/
def completeTick
    (ask : σ → ListQuery κ → Reply ρ × σ)
    (c : Controller σ ρ κ) : Controller σ ρ κ :=
  match c.strategy with
  | .live { timer := .loading _ flight, .. } =>
      match c.buffer.fly c.key ask c.feed.source flight with
      | (.ok flight, source) =>
          { c with feed := { c.feed with source := source } }.endTick
            (some flight)
      | (.error _, source) =>
          { c with feed := { c.feed with source := source } }.endTick
            none
  | _ => c

/- A tick is begun and completed. -/
theorem tick_eq
    (ask : σ → ListQuery κ → Reply ρ × σ)
    (c : Controller σ ρ κ) :
    c.tick ask = c.beginTick.completeTick ask :=
  rfl

/- A table whose timer loads nothing is left as it is, -/
theorem completeTick_of_none
    (hTick : TableTraffic.ticking? c = none) :
    c.completeTick ask = c := by
  unfold completeTick
  split
  · next flight hStrategy =>
      unfold TableTraffic.ticking? at hTick
      rw [hStrategy] at hTick
      cases hTick
  · rfl

/- and a tick that loads is completed by what it loads. -/
theorem completeTick_of_some
    (hAsk : ∀ source q, (ask source q).2 = source)
    {flight : Flight ρ κ}
    (hTick : TableTraffic.ticking? c = some flight) :
    c.completeTick ask =
      c.endTick
        (c.buffer.fly c.key ask c.feed.source
          flight).1.toOption := by
  have hSource :=
    c.buffer.source_fly hAsk c.key c.feed.source flight
  unfold TableTraffic.ticking? at hTick
  unfold completeTick
  split
  · next hStrategy =>
      rw [hStrategy] at hTick
      cases hTick
      split <;>
      · next hFly =>
          rw [hFly] at hSource ⊢
          cases hSource
          rfl
  · next hOther =>
      split at hTick
      · next hStrategy => exact (hOther _ _ _ _ _ _ _ hStrategy).elim
      · cases hTick

/- A tick that has loaded everything ends, -/
theorem beat_finish
    {flight : Flight ρ κ}
    (hTick : TableTraffic.ticking? c = some flight)
    (hDone : flight.load.isDone = true) :
    c.beat .finish = c.endTick (some flight) := by
  unfold beat Beat.event TableTraffic.step TableTraffic.start
  dsimp only
  rw [hTick]
  dsimp only
  rw [if_pos hDone]
  rfl

/- one that is answered takes the rows, -/
theorem beat_answer
    {flight : Flight ρ κ}
    (hTick : TableTraffic.ticking? c = some flight)
    (hOpen : flight.load.isDone = false)
    (rows : Option (List ρ)) :
    c.beat (.answer (.ok rows)) =
      TableTraffic.feedTick c (rows.getD []) := by
  unfold beat Beat.event TableTraffic.step TableTraffic.start
  dsimp only
  rw [hTick]
  dsimp only
  rw [if_neg (by rw [hOpen]; decide)]
  rfl

/- and one that fails ends without any. -/
theorem beat_failure
    {flight : Flight ρ κ}
    (hTick : TableTraffic.ticking? c = some flight)
    (hOpen : flight.load.isDone = false)
    (e : SourceError) :
    c.beat (.answer (.error e)) = c.endTick none := by
  unfold beat Beat.event TableTraffic.step TableTraffic.start
  dsimp only
  rw [hTick]
  dsimp only
  rw [if_neg (by rw [hOpen]; decide)]
  rfl

/- A tick that takes rows loads on, and ends the same. -/
theorem feedTick_parts
    {flight : Flight ρ κ}
    (hTick : TableTraffic.ticking? c = some flight)
    (rows : List ρ) :
    let c' := TableTraffic.feedTick c rows
    TableTraffic.ticking? c' =
        some (flight.receive c.key c.buffer.maxLimit rows) ∧
      c'.feed = c.feed ∧
      ∀ loaded, c'.endTick loaded = c.endTick loaded := by
  unfold TableTraffic.ticking? at hTick
  split at hTick
  · next hStrategy =>
      cases hTick
      unfold TableTraffic.feedTick
      rw [hStrategy]
      refine ⟨rfl, rfl, fun loaded => ?_⟩
      unfold endTick
      rw [hStrategy]
      rfl
  · cases hTick

/- So it is completed from there as it was to be before. -/
theorem completeTick_feedTick
    (hAsk : ∀ source q, (ask source q).2 = source)
    {flight : Flight ρ κ}
    (hTick : TableTraffic.ticking? c = some flight)
    (hOpen : flight.load.isDone = false)
    {rows : Option (List ρ)}
    (hReply :
      ask c.feed.source (flight.load.query c.buffer.maxLimit) =
        (.ok rows, c.feed.source)) :
    (TableTraffic.feedTick c (rows.getD [])).completeTick ask =
      c.completeTick ask := by
  rcases feedTick_parts hTick (rows.getD []) with
    ⟨hLater, hFeed, hEnd⟩
  have hKey :
      (TableTraffic.feedTick c (rows.getD [])).key = c.key := by
    unfold key
    rw [hFeed]
  have hBuffer :
      (TableTraffic.feedTick c (rows.getD [])).buffer =
        c.buffer := by
    unfold buffer
    rw [hFeed]
  rw [completeTick_of_some hAsk hLater,
    completeTick_of_some hAsk hTick, hEnd, hKey, hBuffer, hFeed]
  unfold Buffer.fly
  rw [Load.run_of_answer _ hOpen hReply]
  rfl

/- The beats of a timer complete the tick that is loading, -/
theorem exists_beats_completeTick
    (hAsk : ∀ source q, (ask source q).2 = source)
    (c : Controller σ ρ κ) :
    ∃ beats, c.beatAll beats = c.completeTick ask := by
  cases hTick : TableTraffic.ticking? c with
  | none => exact ⟨[], (completeTick_of_none hTick).symm⟩
  | some flight =>
      -- every answer leaves fewer rows to be wanted
      induction hCount : flight.load.remaining using
          Nat.strong_induction_on generalizing c flight with
      | _ n ih =>
          have hComplete := completeTick_of_some hAsk hTick
          unfold Buffer.fly at hComplete
          cases hLoad : flight.load.isDone with
          | true =>
              rw [Load.run_of_isDone _ _ hLoad] at hComplete
              rw [hComplete]
              exact ⟨[.finish], beat_finish hTick hLoad⟩
          | false =>
              let q := flight.load.query c.buffer.maxLimit
              have hReply : ask c.feed.source q =
                  ((ask c.feed.source q).1, c.feed.source) :=
                Prod.ext rfl (hAsk c.feed.source q)
              cases hRows : (ask c.feed.source q).1 with
              | error e =>
                  rw [hRows] at hReply
                  rw [Load.run_of_error _ hLoad hReply]
                    at hComplete
                  rw [hComplete]
                  exact ⟨[.answer (.error e)],
                    beat_failure hTick hLoad e⟩
              | ok rows =>
                  rw [hRows] at hReply
                  have hLess := Load.remaining_receive_lt c.key
                    c.buffer.maxLimit flight.load (rows.getD [])
                    c.buffer.maxLimit_pos
                    (Load.remaining_ne_zero hLoad)
                  rcases ih _ (by rw [← hCount]; exact hLess) _ _
                      (feedTick_parts hTick (rows.getD [])).1 rfl
                    with ⟨beats, hBeats⟩
                  refine ⟨.answer (.ok rows) :: beats, ?_⟩
                  rw [← completeTick_feedTick hAsk hTick hLoad
                    hReply, ← hBeats, ← beat_answer hTick hLoad]
                  rfl

/- run a whole tick, -/
theorem exists_beats_tick
    (hAsk : ∀ source q, (ask source q).2 = source)
    (c : Controller σ ρ κ) :
    ∃ beats, c.beatAll beats = c.tick ask := by
  rcases c.beginTick.exists_beats_completeTick hAsk with
    ⟨beats, hBeats⟩
  refine ⟨.begin :: beats, ?_⟩
  rw [tick_eq, ← hBeats]
  rfl

/- several ticks, -/
theorem exists_beats_tickUntil
    (hAsk : ∀ source q, (ask source q).2 = source)
    (moment fuel : Nat)
    (c : Controller σ ρ κ) :
    ∃ beats, c.beatAll beats = tickUntil ask moment fuel c := by
  induction fuel generalizing c with
  | zero => exact ⟨[], rfl⟩
  | succ fuel ih =>
      unfold tickUntil
      split
      · split
        · rcases c.exists_beats_tick hAsk with ⟨beats, hBeats⟩
          rcases ih (c.tick ask) with ⟨more, hMore⟩
          refine ⟨beats ++ more, ?_⟩
          unfold beatAll at hBeats hMore ⊢
          rw [List.foldl_append, hBeats, hMore]
        · exact ⟨[], rfl⟩
      · exact ⟨[], rfl⟩

/- and every tick that is due up to a moment. -/
theorem exists_beats_advance
    (hAsk : ∀ source q, (ask source q).2 = source)
    (moment : Nat)
    (c : Controller σ ρ κ) :
    ∃ beats, c.beatAll beats = c.advance ask moment := by
  unfold advance
  split
  · exact c.exists_beats_tickUntil hAsk moment _
  · exact ⟨[], rfl⟩

end Controller

end LedgerView
