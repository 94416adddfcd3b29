import LedgerView.Proofs.Traffic.Basic

/-
  Invariants of a buffer under traffic.

  A plan holds the revision of the buffer at which it was made.
  While fewer than 2^64 changes were made, equal revisions mean
  that the window has not changed since.  So an operation that
  is committed edits the very window it was planned for, and a
  property of windows is kept by every interleaving once it is
  kept by whole operations.

  Key definitions include:
    * `Invariant`
    * `Invariant.Sound`

  Key theorems include:
    * `Invariant.sound_step`
    * `Invariant.sound_run`
-/

namespace LedgerView

variable {ε ρ κ : Type}

------------------------------------------------------------
-- Plans and Revisions
------------------------------------------------------------

/-
  A plan is no later than the buffer, and if it is no earlier
  either, then `P`.
-/
def Buffer.Dates
    (b : Buffer ρ)
    (p : Plan κ)
    (P : Prop) : Prop :=
  p.revision ≤ b.revision ∧ (p.revision = b.revision → P)

/- A move that can have been prepared for a window. -/
def PreparedMove.IsFor
    (key : ρ → κ)
    (limit : Nat)
    (w : Window ρ)
    (m : PreparedMove κ) : Prop :=
  ∃ b : Buffer ρ, b.maxLimit = limit ∧ b.window = w ∧
    b.prepareMove key m.page = .ok m

namespace Buffer

/- A plan made now is as late as the buffer. -/
theorem dates_plan
    (key : ρ → κ)
    (b : Buffer ρ)
    {P : Prop}
    (hP : P) :
    b.Dates (b.plan key) P :=
  ⟨UInt64.le_refl _, fun _ => hP⟩

/- A plan is current only at its own revision. -/
theorem revision_of_isCurrent
    {b : Buffer ρ}
    {p : Plan κ}
    (hCurrent : b.isCurrent p = true) :
    p.revision = b.revision := by
  unfold isCurrent at hCurrent
  rw [Bool.and_eq_true, beq_iff_eq] at hCurrent
  exact hCurrent.2.symm

/- What a plan promises can be replaced by what follows. -/
theorem Dates.imp
    {b : Buffer ρ}
    {p : Plan κ}
    {P Q : Prop}
    (hDates : b.Dates p P)
    (hImp : P → Q) :
    b.Dates p Q :=
  ⟨hDates.1, fun hSame => hImp (hDates.2 hSame)⟩

/- Every plan is outdated once the revision has grown. -/
theorem Dates.of_later
    {b b' : Buffer ρ}
    {p : Plan κ}
    {P Q : Prop}
    (hDates : b.Dates p P)
    (hLater : b.revision < b'.revision) :
    b'.Dates p Q := by
  have hLt : p.revision < b'.revision :=
    UInt64.lt_of_le_of_lt hDates.1 hLater
  refine ⟨UInt64.le_of_lt hLt, ?_⟩
  intro hSame
  rw [hSame] at hLt
  exact absurd hLt (UInt64.lt_irrefl _)

/- The page of a prepared move is the one it was made for. -/
theorem prepareMove_page
    {key : ρ → κ}
    {b : Buffer ρ}
    {page : Nat}
    {m : PreparedMove κ}
    (hPrepare : b.prepareMove key page = .ok m) :
    b.prepareMove key m.page = .ok m := by
  rcases eq_of_prepareMove hPrepare with ⟨hPage, hMove⟩
  have hSame :
      pageOffset (max page 1) b.window.pageSize =
        pageOffset page b.window.pageSize := by
    simp [pageOffset]
  have hAgain :
      PageExists (max page 1) b.window.pageSize := by
    unfold PageExists
    rw [hSame]
    exact hPage
  rw [hMove, b.prepareMove_of_exists hAgain, hSame]
  simp

/- A prepared move keeps the plan that was made for it. -/
theorem plan_of_prepareMove
    {key : ρ → κ}
    {b : Buffer ρ}
    {page : Nat}
    {m : PreparedMove κ}
    (hPrepare : b.prepareMove key page = .ok m) :
    m.plan = b.plan key := by
  rw [(eq_of_prepareMove hPrepare).2]

end Buffer

/- A move that begins keeps its plan. -/
theorem PreparedMove.begin_plan
    (m : PreparedMove κ)
    (anchor : Option κ) :
    (m.begin anchor : Flight ρ κ).plan = m.plan := by
  unfold PreparedMove.begin
  dsimp only
  split
  · rfl
  · split
    · split
      · rfl
      · split <;> rfl
    · rfl

------------------------------------------------------------
-- Invariants
------------------------------------------------------------

/-
  A property of windows that whole operations keep.  It comes
  with what is known, as long as the window does not change, of
  an operation under way.
-/
structure Invariant
    [DecidableEq κ]
    (C : Conduct ε ρ κ)
    (key : ρ → κ)
    (limit : Nat) where
  Holds : ε → Window ρ → Prop
  Serves : ε → Window ρ → Voyage ρ κ → Prop
  begins :
    ∀ {source : ε} {b : Buffer ρ} {op : Operation κ}
      {f : Flight ρ κ},
      b.maxLimit = limit → Holds source b.window →
        b.begin key op = .ok f → Serves source b.window ⟨op, f⟩
  receives :
    ∀ {source : ε} {w : Window ρ} {v : Voyage ρ κ}
      {rows : Option (List ρ)},
      Serves source w v → v.flight.load.isDone = false →
      C.Answers source (v.flight.load.query limit) (.ok rows) →
        Serves source w
          { v with
            flight := v.flight.receive key limit (rows.getD []) }
  commits :
    ∀ {source : ε} {w : Window ρ} {v : Voyage ρ κ},
      Holds source w → Serves source w v →
      v.flight.load.isDone = true →
        Holds source
          (v.flight.edit.apply key v.flight.load.rows w)
  becomes :
    ∀ {source next : ε} {w : Window ρ},
      C.Becomes source next → Holds source w → Holds next w
  serves_becomes :
    ∀ {source next : ε} {w : Window ρ} {v : Voyage ρ κ},
      C.Becomes source next → Holds source w →
        Serves source w v → Serves next w v
  resets :
    ∀ {source : ε} {w : Window ρ},
      Holds source w → Holds source w.reset
  resizes :
    ∀ {source : ε} {b : Buffer ρ} (pageSize : Nat),
      Holds source b.window →
        Holds source (b.setPageSize pageSize).window

namespace Invariant

variable [DecidableEq κ]
variable {C : Conduct ε ρ κ} {key : ρ → κ} {limit : Nat}
variable (I : Invariant C key limit)

/-
  The invariant holds, the revision counts the changes, and
  what is under way and up to date serves the window.
-/
structure Sound
    (s : Traffic ε ρ κ) : Prop where
  maxLimit : s.buffer.maxLimit = limit
  holds : I.Holds s.source s.buffer.window
  revision : s.buffer.revision.toNat = s.changes
  prepared :
    ∀ m ∈ s.prepared,
      s.buffer.Dates m.plan (m.IsFor key limit s.buffer.window)
  voyages :
    ∀ v ∈ s.voyages,
      s.buffer.Dates v.flight.plan
        (I.Serves s.source s.buffer.window v)

variable {I}

/- A note on something that changed nothing changes nothing. -/
theorem Sound.note
    {s : Traffic ε ρ κ}
    (hSound : I.Sound s)
    {deed : Deed κ}
    {result : Except PagerError Outcome}
    (hResult : result ≠ .ok .committed) :
    I.Sound (s.note deed result) := by
  have hChanges := s.changes_note_of_ne deed hResult
  exact
    { maxLimit := hSound.maxLimit
      holds := hSound.holds
      revision := hSound.revision.trans hChanges.symm
      prepared := hSound.prepared
      voyages := hSound.voyages }

/- Voyages may be given up. -/
theorem Sound.erase
    {s : Traffic ε ρ κ}
    (hSound : I.Sound s)
    (place : Nat) :
    I.Sound { s with voyages := s.voyages.eraseIdx place } :=
  { hSound with
    voyages := by
      intro v hv
      exact hSound.voyages v (List.mem_of_mem_eraseIdx hv) }

/- The buffer's guard is of no account here. -/
theorem Sound.guard
    {s : Traffic ε ρ κ}
    (hSound : I.Sound s)
    (guard : Guard) :
    I.Sound
      { s with buffer := { s.buffer with guard := guard } } :=
  ⟨hSound.maxLimit, hSound.holds, hSound.revision,
    hSound.prepared, hSound.voyages⟩

/- Moves that are up to date may be prepared. -/
theorem Sound.prepare
    {s : Traffic ε ρ κ}
    (hSound : I.Sound s)
    {page : Nat}
    {m : PreparedMove κ}
    (hPrepare : s.buffer.prepareMove key page = .ok m) :
    I.Sound { s with prepared := s.prepared ++ [m] } := by
  have hFor : m.IsFor key limit s.buffer.window :=
    ⟨s.buffer, hSound.maxLimit, rfl,
      Buffer.prepareMove_page hPrepare⟩
  refine
    ⟨hSound.maxLimit, hSound.holds, hSound.revision, ?_,
      hSound.voyages⟩
  intro m' hm'
  rcases List.mem_append.mp hm' with hOld | hNew
  · exact hSound.prepared m' hOld
  · rw [List.mem_singleton.mp hNew,
      Buffer.plan_of_prepareMove hPrepare]
    exact s.buffer.dates_plan key hFor

/- Operations that are up to date may begin. -/
theorem Sound.embark
    {s : Traffic ε ρ κ}
    (hSound : I.Sound s)
    {v : Voyage ρ κ}
    (hDates :
      s.buffer.Dates v.flight.plan
        (I.Serves s.source s.buffer.window v)) :
    I.Sound { s with voyages := s.voyages ++ [v] } := by
  refine
    ⟨hSound.maxLimit, hSound.holds, hSound.revision,
      hSound.prepared, ?_⟩
  intro v' hv'
  rcases List.mem_append.mp hv' with hOld | hNew
  · exact hSound.voyages v' hOld
  · rw [List.mem_singleton.mp hNew]
    exact hDates

/- A prepared move begins as it would for the window it is for. -/
theorem Sound.depart
    {s : Traffic ε ρ κ}
    (hSound : I.Sound s)
    {place : Nat}
    {m : PreparedMove κ}
    (hPlace : s.prepared[place]? = some m)
    (anchor : Option κ) :
    I.Sound
      { s with
        prepared := s.prepared.eraseIdx place
        voyages :=
          s.voyages ++ [⟨.move m.page anchor, m.begin anchor⟩] } := by
  have hRest :
      I.Sound
        { s with prepared := s.prepared.eraseIdx place } :=
    { hSound with
      prepared := by
        intro m' hm'
        exact hSound.prepared m' (List.mem_of_mem_eraseIdx hm') }
  apply hRest.embark
  dsimp only
  rw [PreparedMove.begin_plan]
  apply (hSound.prepared m (List.mem_of_getElem? hPlace)).imp
  intro hFor
  rcases hFor with ⟨b, hLimit, hWindow, hPrepare⟩
  have hHolds := hSound.holds
  rw [← hWindow] at hHolds ⊢
  apply I.begins hLimit hHolds
  unfold Buffer.begin
  simp only [hPrepare]

/- A refresh begins for the window as it stands. -/
theorem Sound.refresh
    {s : Traffic ε ρ κ}
    (hSound : I.Sound s) :
    I.Sound
      { s with
        voyages :=
          s.voyages ++ [⟨.refresh, s.buffer.beginRefresh key⟩] } := by
  have hBegin :
      s.buffer.begin key .refresh =
        .ok (s.buffer.beginRefresh key) := rfl
  apply hSound.embark
  dsimp only
  rw [(Buffer.begin_eq_ok_iff.mp hBegin).1]
  exact s.buffer.dates_plan key
    (I.begins hSound.maxLimit hSound.holds hBegin)

/-
  A window is published with a new revision, under which
  everything under way is outdated.
-/
theorem Sound.publish
    {s : Traffic ε ρ κ}
    (hSound : I.Sound s)
    {w : Window ρ}
    (hHolds : I.Holds s.source w)
    (hChanges : s.changes + 1 < 2 ^ 64)
    (deed : Deed κ) :
    I.Sound
      ({ s with buffer := s.buffer.publish w }.note deed
        (.ok .committed)) := by
  have hNext :
      (s.buffer.publish w).revision.toNat = s.changes + 1 := by
    have hAdd : (s.buffer.publish w).revision =
        s.buffer.revision + 1 := rfl
    rw [hAdd, UInt64.toNat_add, hSound.revision,
      UInt64.toNat_one, Nat.mod_eq_of_lt hChanges]
  have hLater :
      s.buffer.revision < (s.buffer.publish w).revision := by
    rw [UInt64.lt_iff_toNat_lt, hNext, hSound.revision]
    exact Nat.lt_succ_self _
  exact
    { maxLimit := hSound.maxLimit
      holds := hHolds
      revision := by
        rw [Traffic.changes_note_committed]
        exact hNext
      prepared := fun m hm =>
        (hSound.prepared m hm).of_later hLater
      voyages := fun v hv =>
        (hSound.voyages v hv).of_later hLater }

/- An answer brings an operation on, or ends it with an error. -/
theorem Sound.answer
    {s : Traffic ε ρ κ}
    (hSound : I.Sound s)
    {place : Nat}
    {v : Voyage ρ κ}
    {reply : Reply ρ}
    (hVoyage : s.voyages[place]? = some v)
    (hDone : v.flight.load.isDone = false)
    (hAnswer :
      C.Answers s.source
        (v.flight.load.query s.buffer.maxLimit) reply) :
    I.Sound (s.answer key place v reply) := by
  cases reply with
  | error e =>
      apply (hSound.erase place).note
      intro hEq
      cases hEq
  | ok rows =>
      rw [hSound.maxLimit] at hAnswer
      have hOld :=
        hSound.voyages v (List.mem_of_getElem? hVoyage)
      refine
        ⟨hSound.maxLimit, hSound.holds, hSound.revision,
          hSound.prepared, ?_⟩
      intro v' hv'
      rcases List.mem_or_eq_of_mem_set hv' with hMem | hEq
      · exact hSound.voyages v' hMem
      · rw [hEq, hSound.maxLimit]
        exact hOld.imp fun hServes =>
          I.receives hServes hDone hAnswer

/-
  An operation edits the window it was planned for, or is
  discarded.
-/
theorem Sound.commit
    {s : Traffic ε ρ κ}
    (hSound : I.Sound s)
    {place : Nat}
    {v : Voyage ρ κ}
    (hVoyage : s.voyages[place]? = some v)
    (hDone : v.flight.load.isDone = true)
    (hChanges : (s.commit key place v).changes < 2 ^ 64) :
    I.Sound (s.commit key place v) := by
  unfold Traffic.commit Buffer.commit at hChanges ⊢
  by_cases hCurrent : s.buffer.isCurrent v.flight.plan = true
  · rw [if_pos hCurrent] at hChanges ⊢
    have hServes :=
      (hSound.voyages v (List.mem_of_getElem? hVoyage)).2
        (Buffer.revision_of_isCurrent hCurrent)
    have hHolds := I.commits hSound.holds hServes hDone
    apply (hSound.erase place).publish hHolds
    rw [Traffic.changes_note_committed] at hChanges
    exact hChanges
  · rw [if_neg hCurrent]
    apply Sound.note
    · exact (hSound.erase place).guard _
    · intro hEq
      cases hEq

------------------------------------------------------------
-- Runs
------------------------------------------------------------

/- Every possible event keeps an invariant. -/
theorem sound_step
    {s : Traffic ε ρ κ}
    {event : Traffic.Event ε ρ κ}
    (hSound : I.Sound s)
    (hAdmits : C.Admits s event)
    (hChanges : (s.step key event).changes < 2 ^ 64) :
    I.Sound (s.step key event) := by
  cases event with
  | source next =>
      have hNext : C.Becomes s.source next := hAdmits
      exact
        { maxLimit := hSound.maxLimit
          holds := I.becomes hNext hSound.holds
          revision := hSound.revision
          prepared := hSound.prepared
          voyages := fun v hv =>
            (hSound.voyages v hv).imp
              (I.serves_becomes hNext hSound.holds) }
  | prepare page =>
      unfold Traffic.step
      dsimp only
      split
      · next m hPrepare => exact hSound.prepare hPrepare
      · exact hSound
  | depart place anchor =>
      unfold Traffic.step
      dsimp only
      split
      · next m hPlace => exact hSound.depart hPlace anchor
      · exact hSound
  | refresh => exact hSound.refresh
  | answer place reply =>
      unfold Traffic.step
      dsimp only
      split
      · next v hVoyage =>
          split
          · exact hSound
          · next hNot =>
              have hAnswer := hAdmits v hVoyage
              exact hSound.answer hVoyage
                (by simpa using hNot) hAnswer
      · exact hSound
  | commit place =>
      unfold Traffic.step at hChanges ⊢
      dsimp only at hChanges ⊢
      split
      · next v hVoyage =>
          rw [hVoyage] at hChanges
          dsimp only at hChanges
          split
          · next hDone =>
              rw [if_pos hDone] at hChanges
              exact hSound.commit hVoyage hDone hChanges
          · exact hSound
      · exact hSound
  | drop place => exact hSound.erase place
  | abort => exact hSound.guard s.buffer.guard.abort
  | clear =>
      have hReset := I.resets hSound.holds
      apply (hSound.guard s.buffer.guard.abort).publish hReset
      unfold Traffic.step at hChanges
      rw [Traffic.changes_note_committed] at hChanges
      exact hChanges
  | setPageSize pageSize =>
      have hResize := I.resizes pageSize hSound.holds
      apply hSound.publish hResize
      unfold Traffic.step at hChanges
      rw [Traffic.changes_note_committed] at hChanges
      exact hChanges

/- Every possible interleaving keeps an invariant. -/
theorem sound_run
    {s : Traffic ε ρ κ}
    {events : List (Traffic.Event ε ρ κ)}
    (hSound : I.Sound s)
    (hAllows : C.Allows key s events)
    (hChanges : (s.run key events).changes < 2 ^ 64) :
    I.Sound (s.run key events) := by
  induction events generalizing s with
  | nil => exact hSound
  | cons event rest ih =>
      rcases hAllows with ⟨hFirst, hRest⟩
      have hStep : (s.step key event).changes < 2 ^ 64 :=
        Nat.lt_of_le_of_lt
          ((s.step key event).changes_le_run key rest) hChanges
      exact ih (sound_step hSound hFirst hStep) hRest hChanges

/- A fresh buffer is sound if the empty window is. -/
theorem sound_start
    (source : ε)
    (pageSize maxLimit : Nat)
    (hLimit : limit = max maxLimit 1)
    (hEmpty : I.Holds source (.empty pageSize)) :
    I.Sound (.start source pageSize maxLimit) where
  maxLimit := hLimit.symm
  holds := hEmpty
  revision := rfl
  prepared := fun _ hm => absurd hm List.not_mem_nil
  voyages := fun _ hv => absurd hv List.not_mem_nil

end Invariant

end LedgerView
