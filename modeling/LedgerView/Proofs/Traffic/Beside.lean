import LedgerView.Proofs.Traffic.Invariant
import LedgerView.Proofs.Traffic.Traces

/-
  An operation beside others.

  An operation is begun on a buffer and loads, while others
  change the same buffer.  The revision tells whether they did.
  So what is committed in the end changes the very window that
  it was begun for.

  Key definitions include:
    * `Traffic.Since`

  Key theorems include:
    * `Traffic.since_run`
    * `Traffic.window_commit`
-/

namespace LedgerView

variable {ε ρ κ : Type}

namespace Traffic

/-
  What the revision tells of all that happened in between: as
  long as there was no change the window is the same.
-/
structure Since
    (s s' : Traffic ε ρ κ) : Prop where
  changes : s.changes ≤ s'.changes
  revision :
    s'.buffer.revision =
      s.buffer.revision + .ofNat (s'.changes - s.changes)
  window :
    s'.changes = s.changes → s'.buffer.window = s.buffer.window

/- Nothing has happened yet. -/
theorem since_refl
    (s : Traffic ε ρ κ) :
    s.Since s where
  changes := Nat.le_refl _
  revision := by
    rw [Nat.sub_self]
    exact (UInt64.add_zero _).symm
  window := fun _ => rfl

/- An event leaves the buffer untouched, or it is a change. -/
theorem Leaves.changes
    {s s' : Traffic ε ρ κ}
    {event : Event ε ρ κ}
    (hLeaves : s.Leaves event s') :
    (s.buffer.Untouched s'.buffer ∧ s'.changes = s.changes) ∨
      (s.buffer.Published s'.buffer ∧
        s'.changes = s.changes + 1) := by
  have hNoted {notes : List (Record ρ κ)}
      (hHistory : s'.history = s.history ++ notes) :
      s'.changes = s.changes + notes.countP Record.committed := by
    unfold Traffic.changes
    rw [hHistory, List.countP_append]
  cases hLeaves with
  | nothing _ _ hDeed hHistory hSame hCount =>
      rw [← List.append_nil s.history] at hHistory
      exact .inl ⟨hSame, hNoted hHistory⟩
  | failure place v e _ hVoyage hHistory hSame hCount =>
      exact .inl ⟨hSame, hNoted hHistory⟩
  | discard place v _ hVoyage hHistory hSame hCount =>
      exact .inl ⟨hSame, hNoted hHistory⟩
  | commit place v _ hVoyage hHistory hTold hCount =>
      exact .inr ⟨hTold, hNoted hHistory⟩
  | deed _ deed _ hDeed hHistory hTold hCount =>
      exact .inr ⟨hTold, hNoted hHistory⟩

/- The revision still tells so after one more event. -/
theorem Since.leaves
    {s middle s' : Traffic ε ρ κ}
    {event : Event ε ρ κ}
    (hSince : s.Since middle)
    (hLeaves : middle.Leaves event s') :
    s.Since s' := by
  have hBefore := hSince.changes
  rcases hLeaves.changes with
    ⟨hSame, hChanges⟩ | ⟨hTold, hChanges⟩
  · refine ⟨by omega, ?_, ?_⟩
    · rw [hSame.revision, hChanges, hSince.revision]
    · intro hNone
      rw [hSame.window]
      exact hSince.window (hChanges.symm.trans hNone)
  · refine ⟨by omega, ?_, fun hNone => by omega⟩
    have hCount :
        s'.changes - s.changes = middle.changes - s.changes + 1 := by
      omega
    rw [hTold.revision, hSince.revision, hCount,
      UInt64.ofNat_add, UInt64.add_assoc]
    rfl

variable [DecidableEq κ]

/- The revision tells so whatever happens. -/
theorem since_run
    (key : ρ → κ)
    (s : Traffic ε ρ κ)
    (events : List (Event ε ρ κ)) :
    s.Since (s.run key events) := by
  have hSteps :
      ∀ {middle : Traffic ε ρ κ}, s.Since middle →
        s.Since (middle.run key events) := by
    intro middle hSince
    induction events generalizing middle with
    | nil => exact hSince
    | cons event rest ih =>
        exact ih (hSince.leaves (middle.leaves_step key event))
  exact hSteps s.since_refl

/-
  What is committed changes the window that it was begun for, as
  long as the changes in between fit a word.
-/
theorem window_commit
    {key : ρ → κ}
    {s : Traffic ε ρ κ}
    {events : List (Event ε ρ κ)}
    {f : Flight ρ κ}
    (hPlan : f.plan = s.buffer.plan key)
    (hFew : (s.run key events).changes < s.changes + 2 ^ 64)
    (hCommitted :
      ((s.run key events).buffer.commit key f).2 = .committed) :
    ((s.run key events).buffer.commit key f).1.window =
      f.edit.apply key f.load.rows s.buffer.window := by
  have hSince := s.since_run key events
  have hChanges := hSince.changes
  have hCurrent := Buffer.isCurrent_of_committed hCommitted
  have hRevision := Buffer.revision_of_isCurrent hCurrent
  rw [hPlan] at hRevision
  have hCount :
      UInt64.ofNat ((s.run key events).changes - s.changes) =
        0 := by
    have hSame : s.buffer.revision = _ :=
      hRevision.trans hSince.revision
    rw [eq_comm, UInt64.add_eq_left] at hSame
    exact hSame
  have hNone : (s.run key events).changes = s.changes := by
    have hFits :
        (s.run key events).changes - s.changes < 2 ^ 64 := by
      omega
    have hZero := congrArg UInt64.toNat hCount
    rw [UInt64.toNat_ofNat_of_lt' hFits] at hZero
    exact Nat.le_antisymm (Nat.sub_eq_zero_iff_le.mp hZero)
      hChanges
  rw [Buffer.commit_of_isCurrent hCurrent]
  show Edit.apply key f.edit f.load.rows _ = _
  rw [hSince.window hNone]

end Traffic

end LedgerView
