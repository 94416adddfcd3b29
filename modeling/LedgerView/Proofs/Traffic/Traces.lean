import LedgerView.Proofs.Traffic.Basic

/-
  What operations leave behind.

  An operation changes the window once, at its end, and only if
  it is then committed.  Until then, and also if it fails or is
  discarded, readers of the window see nothing of it.  Every
  change takes the next revision and is told to every reader.
  So the revision counts the changes, and the guard counts what
  was discarded.

  Key definitions include:
    * `Buffer.hasNews`
    * `Buffer.Untouched`
    * `Buffer.Published`
    * `Traffic.Leaves`
    * `Traffic.Counted`

  Key theorems include:
    * `Traffic.leaves_step`
    * `Traffic.counted_run`
    * `Traffic.only_commits_leave_traces`
-/

namespace LedgerView

variable {ε ρ κ : Type}

------------------------------------------------------------
-- Readers
------------------------------------------------------------

namespace Buffer

/- Whether a reader who was told so often has missed a change. -/
def hasNews
    (b : Buffer ρ)
    (seen : UInt64) : Bool :=
  b.notices != seen

/- Whether no reader can tell one buffer from another. -/
structure Untouched
    (b b' : Buffer ρ) : Prop where
  window : b'.window = b.window
  revision : b'.revision = b.revision
  news : ∀ seen, b'.hasNews seen = b.hasNews seen

/- Whether a change was made, and told to every reader. -/
structure Published
    (b b' : Buffer ρ) : Prop where
  revision : b'.revision = b.revision + 1
  notices : b'.notices = b.notices + 1

/- What the guard counts is no reader's concern. -/
theorem untouched_guard
    (b : Buffer ρ)
    (guard : Guard) :
    b.Untouched { b with guard := guard } :=
  ⟨rfl, rfl, fun _ => rfl⟩

/- A buffer is untouched as long as it stays as it is. -/
theorem untouched_refl
    (b : Buffer ρ) :
    b.Untouched b :=
  b.untouched_guard b.guard

/- Readers of an untouched buffer were told as often. -/
theorem Untouched.notices
    {b b' : Buffer ρ}
    (hSame : b.Untouched b') :
    b'.notices = b.notices := by
  have hNews := hSame.news b.notices
  unfold hasNews at hNews
  simpa using hNews

end Buffer

------------------------------------------------------------
-- What an Event Leaves
------------------------------------------------------------

/- Whether what was done was discarded. -/
def Record.discarded
    (r : Record ρ κ) : Bool :=
  match r.result with
  | .ok .discarded => true
  | _ => false

namespace Traffic

/- How many operations were discarded so far. -/
def discards
    (s : Traffic ε ρ κ) : Nat :=
  s.history.countP Record.discarded

/- What is done to the window at once by an event. -/
def Event.deed? : Event ε ρ κ → Option (Deed κ)
  | .clear => some .clear
  | .setPageSize pageSize => some (.setPageSize pageSize)
  | _ => none

/-
  What an event may leave behind.  An operation that fails, at
  whatever query, and one that is discarded leave a note, but
  nothing that a reader could see.  What is committed is told to
  every reader, and so is what is done at once.
-/
inductive Leaves
    (s : Traffic ε ρ κ) :
    Event ε ρ κ → Traffic ε ρ κ → Prop where
  | nothing
      (event : Event ε ρ κ)
      (s' : Traffic ε ρ κ)
      (hDeed : event.deed? = none)
      (hHistory : s'.history = s.history)
      (hSame : s.buffer.Untouched s'.buffer)
      (hCount :
        s'.buffer.guard.discarded = s.buffer.guard.discarded) :
      Leaves s event s'
  | failure
      (place : Nat)
      (v : Voyage ρ κ)
      (e : SourceError)
      (s' : Traffic ε ρ κ)
      (hVoyage : s.voyages[place]? = some v)
      (hHistory :
        s'.history = s.history ++
          [⟨.operation v.operation, .error (.source e),
            s.buffer.window⟩])
      (hSame : s.buffer.Untouched s'.buffer)
      (hCount :
        s'.buffer.guard.discarded = s.buffer.guard.discarded) :
      Leaves s (.answer place (.error e)) s'
  | discard
      (place : Nat)
      (v : Voyage ρ κ)
      (s' : Traffic ε ρ κ)
      (hVoyage : s.voyages[place]? = some v)
      (hHistory :
        s'.history = s.history ++
          [⟨.operation v.operation, .ok .discarded,
            s.buffer.window⟩])
      (hSame : s.buffer.Untouched s'.buffer)
      (hCount :
        s'.buffer.guard.discarded =
          s.buffer.guard.discarded + 1) :
      Leaves s (.commit place) s'
  | commit
      (place : Nat)
      (v : Voyage ρ κ)
      (s' : Traffic ε ρ κ)
      (hVoyage : s.voyages[place]? = some v)
      (hHistory :
        s'.history = s.history ++
          [⟨.operation v.operation, .ok .committed,
            s'.buffer.window⟩])
      (hTold : s.buffer.Published s'.buffer)
      (hCount :
        s'.buffer.guard.discarded = s.buffer.guard.discarded) :
      Leaves s (.commit place) s'
  | deed
      (event : Event ε ρ κ)
      (deed : Deed κ)
      (s' : Traffic ε ρ κ)
      (hDeed : event.deed? = some deed)
      (hHistory :
        s'.history = s.history ++
          [⟨deed, .ok .committed, s'.buffer.window⟩])
      (hTold : s.buffer.Published s'.buffer)
      (hCount :
        s'.buffer.guard.discarded = s.buffer.guard.discarded) :
      Leaves s event s'

/- An event that is done to something else leaves nothing. -/
theorem leaves_of_buffer
    {s s' : Traffic ε ρ κ}
    {event : Event ε ρ κ}
    (hDeed : event.deed? = none)
    (hHistory : s'.history = s.history)
    (hBuffer : s'.buffer = s.buffer) :
    s.Leaves event s' := by
  refine .nothing event s' hDeed hHistory ?_ (by rw [hBuffer])
  rw [hBuffer]
  exact s.buffer.untouched_refl

section Steps

variable (key : ρ → κ) (s : Traffic ε ρ κ)

/- An answer leaves nothing, or the note of a failure. -/
theorem leaves_answer
    {place : Nat}
    {v : Voyage ρ κ}
    (reply : Reply ρ)
    (hVoyage : s.voyages[place]? = some v) :
    s.Leaves (.answer place reply)
      (s.answer key place v reply) := by
  cases reply with
  | ok rows => exact leaves_of_buffer rfl rfl rfl
  | error e =>
      exact .failure place v e _ hVoyage rfl
        s.buffer.untouched_refl rfl

variable [DecidableEq κ]

/- The end of an operation is a change, or it is discarded. -/
theorem leaves_commit
    {place : Nat}
    {v : Voyage ρ κ}
    (hVoyage : s.voyages[place]? = some v) :
    s.Leaves (.commit place) (s.commit key place v) := by
  unfold commit Buffer.commit
  split
  · exact .commit place v _ hVoyage rfl ⟨rfl, rfl⟩ rfl
  · exact .discard place v _ hVoyage rfl
      (s.buffer.untouched_guard _) rfl

/- Nothing else is left behind by any event. -/
theorem leaves_step
    (event : Event ε ρ κ) :
    s.Leaves event (s.step key event) := by
  unfold step
  cases event with
  | source next => exact leaves_of_buffer rfl rfl rfl
  | prepare page =>
      dsimp only
      split <;> exact leaves_of_buffer rfl rfl rfl
  | depart place anchor =>
      dsimp only
      split <;> exact leaves_of_buffer rfl rfl rfl
  | refresh => exact leaves_of_buffer rfl rfl rfl
  | answer place reply =>
      dsimp only
      split
      · next v hVoyage =>
          split
          · exact leaves_of_buffer rfl rfl rfl
          · exact s.leaves_answer key reply hVoyage
      · exact leaves_of_buffer rfl rfl rfl
  | commit place =>
      dsimp only
      split
      · next v hVoyage =>
          split
          · exact s.leaves_commit key hVoyage
          · exact leaves_of_buffer rfl rfl rfl
      · exact leaves_of_buffer rfl rfl rfl
  | drop place => exact leaves_of_buffer rfl rfl rfl
  | abort =>
      exact .nothing .abort _ rfl rfl
        (s.buffer.untouched_guard _) rfl
  | clear => exact .deed .clear .clear _ rfl rfl ⟨rfl, rfl⟩ rfl
  | setPageSize pageSize =>
      exact .deed _ (.setPageSize pageSize) _ rfl rfl ⟨rfl, rfl⟩
        rfl

end Steps

------------------------------------------------------------
-- Counting
------------------------------------------------------------

/-
  Whether revisions and notices count the changes, and the guard
  counts what was discarded.  Words wrap around, and so do these
  counts.
-/
structure Counted
    (s : Traffic ε ρ κ) : Prop where
  revision : s.buffer.revision = .ofNat s.changes
  notices : s.buffer.notices = .ofNat s.changes
  discarded : s.buffer.guard.discarded = .ofNat s.discards

/- They do when nothing has happened. -/
theorem counted_start
    (source : ε)
    (pageSize maxLimit : Nat) :
    (start source pageSize maxLimit :
      Traffic ε ρ κ).Counted :=
  ⟨rfl, rfl, rfl⟩

namespace Counted

variable {s s' : Traffic ε ρ κ}

/- They still do when readers see what they saw, -/
theorem untouched
    (hCounted : s.Counted)
    (hSame : s.buffer.Untouched s'.buffer)
    (hChanges : s'.changes = s.changes)
    (hDiscarded :
      s'.buffer.guard.discarded = .ofNat s'.discards) :
    s'.Counted where
  revision := by
    rw [hSame.revision, hChanges, hCounted.revision]
  notices := by
    rw [hSame.notices, hChanges, hCounted.notices]
  discarded := hDiscarded

/- and when a change is told to them, -/
theorem published
    (hCounted : s.Counted)
    (hTold : s.buffer.Published s'.buffer)
    (hChanges : s'.changes = s.changes + 1)
    (hDiscards : s'.discards = s.discards)
    (hCount :
      s'.buffer.guard.discarded = s.buffer.guard.discarded) :
    s'.Counted where
  revision := by
    rw [hTold.revision, hChanges, UInt64.ofNat_add,
      hCounted.revision]
    rfl
  notices := by
    rw [hTold.notices, hChanges, UInt64.ofNat_add,
      hCounted.notices]
    rfl
  discarded := by
    rw [hCount, hDiscards, hCounted.discarded]

/- and so whatever an event leaves behind. -/
theorem leaves
    {event : Event ε ρ κ}
    (hCounted : s.Counted)
    (hLeaves : s.Leaves event s') :
    s'.Counted := by
  have hSame := hCounted.discarded
  -- Either count grows by how often its kind is noted.
  have hChanges {notes : List (Record ρ κ)}
      (hHistory : s'.history = s.history ++ notes) :
      s'.changes = s.changes + notes.countP Record.committed := by
    unfold changes
    rw [hHistory, List.countP_append]
  have hDiscards {notes : List (Record ρ κ)}
      (hHistory : s'.history = s.history ++ notes) :
      s'.discards = s.discards + notes.countP Record.discarded := by
    unfold discards
    rw [hHistory, List.countP_append]
  cases hLeaves with
  | nothing _ _ hDeed hHistory hUntouched hCount =>
      rw [← List.append_nil s.history] at hHistory
      refine hCounted.untouched hUntouched (hChanges hHistory) ?_
      rw [hCount, hDiscards hHistory, hSame]
      rfl
  | failure place v e _ hVoyage hHistory hUntouched hCount =>
      refine hCounted.untouched hUntouched (hChanges hHistory) ?_
      rw [hCount, hDiscards hHistory, hSame]
      rfl
  | discard place v _ hVoyage hHistory hUntouched hCount =>
      refine hCounted.untouched hUntouched (hChanges hHistory) ?_
      rw [hCount, hDiscards hHistory, hSame, UInt64.ofNat_add]
      rfl
  | commit place v _ hVoyage hHistory hTold hCount =>
      exact hCounted.published hTold (hChanges hHistory)
        (hDiscards hHistory) hCount
  | deed _ deed _ hDeed hHistory hTold hCount =>
      exact hCounted.published hTold (hChanges hHistory)
        (hDiscards hHistory) hCount

/- A reader has missed a change if one was made since. -/
theorem hasNews_iff
    (hCounted : s.Counted)
    (hLater : s'.Counted)
    (hChanges : s.changes ≤ s'.changes)
    (hFew : s'.changes < 2 ^ 64) :
    s'.buffer.hasNews s.buffer.notices = true ↔
      s.changes < s'.changes := by
  unfold Buffer.hasNews
  rw [hCounted.notices, hLater.notices, bne_iff_ne, ne_eq,
    ← UInt64.toNat_inj, UInt64.toNat_ofNat_of_lt' hFew,
    UInt64.toNat_ofNat_of_lt' (Nat.lt_of_le_of_lt hChanges hFew)]
  omega

end Counted

variable [DecidableEq κ]

/- So they do all along. -/
theorem counted_run
    (key : ρ → κ)
    {s : Traffic ε ρ κ}
    (hCounted : s.Counted)
    (events : List (Event ε ρ κ)) :
    (s.run key events).Counted := by
  induction events generalizing s with
  | nil => exact hCounted
  | cons event rest ih =>
      exact ih (hCounted.leaves (s.leaves_step key event))

/-
  What every run of overlapping operations leaves behind.  No
  event leaves more than it may: what fails or is discarded is
  noted, and otherwise unseen.  As long as counts fit a word,
  the guard counts what was discarded, the revision counts the
  changes, and a reader who last looked at some earlier moment
  has news if and only if there was a change since then.
-/
theorem only_commits_leave_traces
    (key : ρ → κ)
    (source : ε)
    (pageSize maxLimit : Nat)
    (events : List (Event ε ρ κ)) :
    let s := (start source pageSize maxLimit).run key events
    (∀ event, s.Leaves event (s.step key event)) ∧
    (s.discards < 2 ^ 64 →
      s.buffer.guard.discarded.toNat = s.discards) ∧
    (s.changes < 2 ^ 64 →
      s.buffer.revision.toNat = s.changes ∧
      ∀ earlier later, events = earlier ++ later →
        let seen := (start source pageSize maxLimit).run key earlier
        (s.buffer.hasNews seen.buffer.notices = true ↔
          seen.changes < s.changes)) := by
  intro s
  have hStart :
      (start source pageSize maxLimit : Traffic ε ρ κ).Counted :=
    counted_start source pageSize maxLimit
  have hCounted : s.Counted := counted_run key hStart events
  refine ⟨s.leaves_step key, fun hFew => ?_, fun hFew => ⟨?_, ?_⟩⟩
  · rw [hCounted.discarded, UInt64.toNat_ofNat_of_lt' hFew]
  · rw [hCounted.revision, UInt64.toNat_ofNat_of_lt' hFew]
  · intro earlier later hEvents seen
    have hLater : s = seen.run key later := by
      dsimp only [s, seen]
      rw [hEvents]
      exact List.foldl_append
    refine (counted_run key hStart earlier).hasNews_iff hCounted
      ?_ hFew
    rw [hLater]
    exact seen.changes_le_run key later

/-
  A move fails at its second query, while a refresh is committed;
  another move is overtaken by a new page size.
-/
def hindered : List (Event Unit Nat Nat) :=
  [.prepare 2, .depart 0 none, .refresh,
    .answer 0 (.ok (some [5, 4])),
    .answer 0 (.error (.refused "gone")),
    .answer 0 (.ok (some [5, 4])), .commit 0,
    .prepare 2, .depart 0 none, .setPageSize 3,
    .answer 0 (.ok (some [3, 2])), .commit 0]

/- What was noted is what readers can tell apart. -/
theorem only_commits_leave_traces_hindered :
    let s := (start () 2 2).run (id : Nat → Nat) hindered
    (s.discards < 2 ^ 64 ∧ s.changes < 2 ^ 64) ∧
    s.history.map Record.result =
      [.error (.source (.refused "gone")), .ok .committed,
        .ok .committed, .ok .discarded] ∧
    s.buffer.guard.discarded.toNat = 1 ∧
    s.buffer.revision.toNat = 2 ∧
    (let seen := (start () 2 2).run id (hindered.take 9)
    s.buffer.hasNews seen.buffer.notices = true) ∧
    (let seen := (start () 2 2).run id (hindered.take 10)
    ¬s.buffer.hasNews seen.buffer.notices = true) ∧
    s.Leaves .clear (s.step id .clear) := by
  intro s
  have hDiscards : s.discards < 2 ^ 64 := by decide
  have hChanges : s.changes < 2 ^ 64 := by decide
  rcases only_commits_leave_traces id () 2 2 hindered with
    ⟨hLeaves, hDiscarded, hCounts⟩
  rcases hCounts hChanges with ⟨hRevision, hNews⟩
  refine
    ⟨⟨hDiscards, hChanges⟩, rfl,
      (hDiscarded hDiscards).trans (by decide),
      hRevision.trans (by decide), ?_, ?_, hLeaves .clear⟩
  · refine (hNews (hindered.take 9) (hindered.drop 9) ?_).mpr ?_
    · exact (List.take_append_drop 9 hindered).symm
    · decide
  · intro seen hMissed
    refine absurd ((hNews (hindered.take 10) (hindered.drop 10)
      ?_).mp hMissed) (by decide)
    exact (List.take_append_drop 10 hindered).symm

end Traffic

end LedgerView
