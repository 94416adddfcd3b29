import LedgerView.Proofs.Buffer.Operation

/-
  Operations that overlap on one buffer.

  Any number of operations is under way at once.  Moves are
  prepared, run, answered query by query and committed in any
  order, while the source changes, and while others abort,
  clear the window or change its page size.  An interleaving is
  a list of events.  A commit is an event of its own, so it may
  come any time after the last answer.

  Key definitions include:
    * `Conduct`
    * `Traffic`
    * `Traffic.Event`
    * `Traffic.step`
    * `Traffic.run`
    * `Conduct.Allows`
-/

namespace LedgerView

------------------------------------------------------------
-- Sources
------------------------------------------------------------

/- How a source behaves, as far as it is known. -/
structure Conduct (ε ρ κ : Type) where
  /- Whether it may answer a query in this way. -/
  Answers : ε → ListQuery κ → Reply ρ → Prop
  /- Whether it may change in this way between two answers. -/
  Becomes : ε → ε → Prop

------------------------------------------------------------
-- Buffers under Traffic
------------------------------------------------------------

/- An operation under way, with what was asked for. -/
structure Voyage (ρ κ : Type) where
  operation : Operation κ
  flight : Flight ρ κ

/- A buffer, its source, and everything under way. -/
structure Traffic (ε ρ κ : Type) where
  source : ε
  buffer : Buffer ρ
  prepared : List (PreparedMove κ)
  voyages : List (Voyage ρ κ)
  /- What ended so far, with the windows that were left. -/
  history : List (Record ρ κ)

namespace Traffic

variable {ε ρ κ : Type}

/- Something that happens.  Places count from zero. -/
inductive Event (ε ρ κ : Type) where
  /- The source changes. -/
  | source (next : ε)
  /- A move to a page is prepared. -/
  | prepare (page : Nat)
  /- A prepared move begins. -/
  | depart (place : Nat) (anchor : Option κ)
  /- A refresh begins. -/
  | refresh
  /- The query of an operation is answered. -/
  | answer (place : Nat) (reply : Reply ρ)
  /- An operation that has loaded everything ends. -/
  | commit (place : Nat)
  /- An operation is given up by its caller. -/
  | drop (place : Nat)
  | abort
  | clear
  | setPageSize (pageSize : Nat)

/- A fresh buffer. -/
def start
    (source : ε)
    (pageSize maxLimit : Nat) : Traffic ε ρ κ :=
  { source := source
    buffer := .empty pageSize maxLimit
    prepared := []
    voyages := []
    history := [] }

/-
  How often the window changed so far: by an operation that was
  committed, a clear, or a new page size.  Each takes the next
  revision, which is a 64-bit word.
-/
def changes
    (s : Traffic ε ρ κ) : Nat :=
  s.history.countP Record.committed

/- Note how something ended. -/
def note
    (s : Traffic ε ρ κ)
    (deed : Deed κ)
    (result : Except PagerError Outcome) : Traffic ε ρ κ :=
  { s with
    history := s.history ++ [⟨deed, result, s.buffer.window⟩] }

/- What is noted as committed is one change more. -/
theorem changes_note_committed
    (s : Traffic ε ρ κ)
    (deed : Deed κ) :
    (s.note deed (.ok .committed)).changes = s.changes + 1 := by
  unfold changes note
  rw [List.countP_append]
  rfl

/- What is noted as something else is no change. -/
theorem changes_note_of_ne
    (s : Traffic ε ρ κ)
    (deed : Deed κ)
    {result : Except PagerError Outcome}
    (hResult : result ≠ .ok .committed) :
    (s.note deed result).changes = s.changes := by
  have hNot :
      Record.committed
          (⟨deed, result, s.buffer.window⟩ : Record ρ κ) =
        false := by
    unfold Record.committed
    split
    · next hEq => exact absurd hEq hResult
    · rfl
  unfold changes note
  rw [List.countP_append]
  simp [hNot]

/- A note takes no change back. -/
theorem changes_le_note
    (s : Traffic ε ρ κ)
    (deed : Deed κ)
    (result : Except PagerError Outcome) :
    s.changes ≤ (s.note deed result).changes := by
  unfold changes note
  rw [List.countP_append]
  exact Nat.le_add_right _ _

variable [DecidableEq κ]

/- Take an answer; an operation that gets none fails. -/
def answer
    (key : ρ → κ)
    (s : Traffic ε ρ κ)
    (place : Nat)
    (v : Voyage ρ κ)
    (reply : Reply ρ) : Traffic ε ρ κ :=
  match reply with
  | .ok rows =>
      let flight :=
        v.flight.receive key s.buffer.maxLimit (rows.getD [])
      { s with
        voyages := s.voyages.set place { v with flight := flight } }
  | .error e =>
      { s with voyages := s.voyages.eraseIdx place }.note
        (.operation v.operation) (.error (.source e))

/- End an operation that has loaded everything. -/
def commit
    (key : ρ → κ)
    (s : Traffic ε ρ κ)
    (place : Nat)
    (v : Voyage ρ κ) : Traffic ε ρ κ :=
  let ended := s.buffer.commit key v.flight
  { s with
    buffer := ended.1
    voyages := s.voyages.eraseIdx place }.note
      (.operation v.operation) (.ok ended.2)

/-
  What an event changes.  An event that cannot happen, such as
  an answer where nothing was asked, changes nothing.
-/
def step
    (key : ρ → κ)
    (s : Traffic ε ρ κ)
    (event : Event ε ρ κ) : Traffic ε ρ κ :=
  match event with
  | .source next => { s with source := next }
  | .prepare page =>
      match s.buffer.prepareMove key page with
      | .ok m => { s with prepared := s.prepared ++ [m] }
      | .error _ => s
  | .depart place anchor =>
      match s.prepared[place]? with
      | some m =>
          { s with
            prepared := s.prepared.eraseIdx place
            voyages :=
              s.voyages ++ [⟨.move m.page anchor, m.begin anchor⟩] }
      | none => s
  | .refresh =>
      { s with
        voyages :=
          s.voyages ++ [⟨.refresh, s.buffer.beginRefresh key⟩] }
  | .answer place reply =>
      match s.voyages[place]? with
      | some v =>
          if v.flight.load.isDone then s
          else s.answer key place v reply
      | none => s
  | .commit place =>
      match s.voyages[place]? with
      | some v =>
          if v.flight.load.isDone then s.commit key place v else s
      | none => s
  | .drop place =>
      { s with voyages := s.voyages.eraseIdx place }
  | .abort => { s with buffer := s.buffer.abort }
  | .clear =>
      { s with buffer := s.buffer.clear }.note
        .clear (.ok .committed)
  | .setPageSize pageSize =>
      { s with buffer := s.buffer.setPageSize pageSize }.note
        (.setPageSize pageSize) (.ok .committed)

/- A step takes no change back. -/
theorem changes_le_step
    (key : ρ → κ)
    (s : Traffic ε ρ κ)
    (event : Event ε ρ κ) :
    s.changes ≤ (s.step key event).changes := by
  unfold step
  cases event with
  | source next => exact Nat.le_refl _
  | prepare page =>
      dsimp only
      split <;> exact Nat.le_refl _
  | depart place anchor =>
      dsimp only
      split <;> exact Nat.le_refl _
  | refresh => exact Nat.le_refl _
  | answer place reply =>
      dsimp only
      split
      · split
        · exact Nat.le_refl _
        · unfold answer
          split
          · exact Nat.le_refl _
          · exact changes_le_note { s with voyages := _ } _ _
      · exact Nat.le_refl _
  | commit place =>
      dsimp only
      split
      · next v hVoyage =>
          split
          · let ended := s.buffer.commit key v.flight
            exact changes_le_note
              { s with
                buffer := ended.1
                voyages := s.voyages.eraseIdx place }
              (.operation v.operation) (.ok ended.2)
          · exact Nat.le_refl _
      · exact Nat.le_refl _
  | drop place => exact Nat.le_refl _
  | abort => exact Nat.le_refl _
  | clear =>
      exact changes_le_note { s with buffer := s.buffer.clear }
        .clear (.ok .committed)
  | setPageSize pageSize =>
      exact changes_le_note
        { s with buffer := s.buffer.setPageSize pageSize }
        (.setPageSize pageSize) (.ok .committed)

/- What a list of events changes. -/
def run
    (key : ρ → κ)
    (s : Traffic ε ρ κ)
    (events : List (Event ε ρ κ)) : Traffic ε ρ κ :=
  events.foldl (step key) s

/- A run takes no change back. -/
theorem changes_le_run
    (key : ρ → κ)
    (s : Traffic ε ρ κ)
    (events : List (Event ε ρ κ)) :
    s.changes ≤ (s.run key events).changes := by
  induction events generalizing s with
  | nil => exact Nat.le_refl _
  | cons event rest ih =>
      exact Nat.le_trans (changes_le_step key s event)
        (ih (s.step key event))

end Traffic

------------------------------------------------------------
-- Possible Events
------------------------------------------------------------

namespace Conduct

variable {ε ρ κ : Type}

/- Whether an event agrees with how the source behaves. -/
def Admits
    (C : Conduct ε ρ κ)
    (s : Traffic ε ρ κ)
    (event : Traffic.Event ε ρ κ) : Prop :=
  match event with
  | .source next => C.Becomes s.source next
  | .answer place reply =>
      ∀ v ∈ s.voyages[place]?,
        C.Answers s.source
          (v.flight.load.query s.buffer.maxLimit) reply
  | _ => True

instance
    (C : Conduct ε ρ κ)
    [∀ source q reply, Decidable (C.Answers source q reply)]
    [∀ source next, Decidable (C.Becomes source next)]
    (s : Traffic ε ρ κ)
    (event : Traffic.Event ε ρ κ) :
    Decidable (C.Admits s event) := by
  unfold Admits
  cases event <;> infer_instance

variable [DecidableEq κ]

/- Whether every event agrees with how the source behaves. -/
def Allows
    (C : Conduct ε ρ κ)
    (key : ρ → κ)
    (s : Traffic ε ρ κ) :
    List (Traffic.Event ε ρ κ) → Prop
  | [] => True
  | event :: rest =>
      C.Admits s event ∧ C.Allows key (s.step key event) rest

instance decidableAllows
    (C : Conduct ε ρ κ)
    [∀ source q reply, Decidable (C.Answers source q reply)]
    [∀ source next, Decidable (C.Becomes source next)]
    (key : ρ → κ)
    (s : Traffic ε ρ κ) :
    (events : List (Traffic.Event ε ρ κ)) →
      Decidable (C.Allows key s events)
  | [] => .isTrue trivial
  | event :: rest =>
      have := decidableAllows C key (s.step key event) rest
      inferInstanceAs (Decidable (_ ∧ _))

end Conduct

end LedgerView
