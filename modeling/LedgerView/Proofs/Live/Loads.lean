import LedgerView.Pager.Buffer

/-
  The loads of a buffer that can still be committed.

  Loads are begun one after the other, each after an abort.  So
  of all that were ever begun, at most the last one is current;
  the others were planned in an earlier generation and stay
  stale while aborts are few.

  Key definitions include:
    * `Buffer.underWay`
    * `Buffer.Attends`

  Key theorems include:
    * `Buffer.attends_begin`
    * `Buffer.Attends.exchange`
    * `Buffer.Attends.commit`
-/

namespace LedgerView

variable {ρ κ : Type}

------------------------------------------------------------
-- Loads That Can Be Committed
------------------------------------------------------------

/- An abort begins another generation. -/
theorem Guard.generation_abort_ne
    (g : Guard) :
    g.abort.generation ≠ g.generation := by
  simp [Guard.abort]

namespace Buffer

/- The loads that can still be committed. -/
def underWay
    (b : Buffer ρ)
    (flights : List (Flight ρ κ)) : List (Flight ρ κ) :=
  flights.filter fun f => b.isCurrent f.plan

/-
  What holds of a buffer and its loads: one of them at most can
  be committed, and the others were superseded by an abort.
-/
structure Attends
    (b : Buffer ρ)
    (flights : List (Flight ρ κ)) : Prop where
  stale : ∀ f ∈ flights, b.isCurrent f.plan = true ∨
    f.plan.ticket.generation < b.guard.generation
  lone : (b.underWay flights).length ≤ 1

variable {b b' : Buffer ρ}
variable {before after : List (Flight ρ κ)}

/- What was planned for a buffer can be committed there. -/
theorem isCurrent_plan
    (key : ρ → κ)
    (b : Buffer ρ) :
    b.isCurrent (b.plan key) = true := by
  simp [isCurrent, plan, Guard.isCurrent, Guard.ticket]

/- What is current was planned in the same generation. -/
theorem generation_of_isCurrent
    {p : Plan κ}
    (hCurrent : b.isCurrent p = true) :
    b.guard.generation = p.ticket.generation := by
  unfold isCurrent Guard.isCurrent at hCurrent
  rw [Bool.and_eq_true, beq_iff_eq] at hCurrent
  exact hCurrent.1

/- What was planned in an earlier generation is not current. -/
theorem not_isCurrent_of_lt
    {p : Plan κ}
    (hEarlier : p.ticket.generation < b.guard.generation) :
    ¬b.isCurrent p = true := by
  intro hCurrent
  rw [generation_of_isCurrent hCurrent] at hEarlier
  exact UInt64.lt_irrefl _ hEarlier

/- What is under way of two lists of loads. -/
theorem underWay_append
    (b : Buffer ρ)
    (before after : List (Flight ρ κ)) :
    b.underWay (before ++ after) =
      b.underWay before ++ b.underWay after :=
  List.filter_append ..

/- A load that can be committed is under way. -/
theorem underWay_cons_of_current
    {f : Flight ρ κ}
    (rest : List (Flight ρ κ))
    (hCurrent : b.isCurrent f.plan = true) :
    b.underWay (f :: rest) = f :: b.underWay rest := by
  unfold underWay
  rw [List.filter_cons, if_pos hCurrent]

/- A load that was superseded is not. -/
theorem underWay_cons_of_not_current
    {f : Flight ρ κ}
    (rest : List (Flight ρ κ))
    (hCurrent : ¬b.isCurrent f.plan = true) :
    b.underWay (f :: rest) = b.underWay rest := by
  unfold underWay
  rw [List.filter_cons, if_neg hCurrent]

/- Nothing that was begun earlier is under way. -/
theorem underWay_of_earlier
    {flights : List (Flight ρ κ)}
    (hEarlier : ∀ f ∈ flights,
      f.plan.ticket.generation < b.guard.generation) :
    b.underWay flights = [] :=
  List.filter_eq_nil_iff.mpr fun f hMem =>
    not_isCurrent_of_lt (hEarlier f hMem)

/- So a buffer attends to whatever it has superseded. -/
theorem attends_of_earlier
    {flights : List (Flight ρ κ)}
    (hEarlier : ∀ f ∈ flights,
      f.plan.ticket.generation < b.guard.generation) :
    b.Attends flights where
  stale := fun f hMem => .inr (hEarlier f hMem)
  lone := by
    rw [underWay_of_earlier hEarlier]
    exact Nat.zero_le 1

/- What has just begun is all that is under way. -/
theorem attends_begin
    {f : Flight ρ κ}
    (hCurrent : b.isCurrent f.plan = true)
    (hBefore : ∀ g ∈ before,
      g.plan.ticket.generation < b.guard.generation)
    (hAfter : ∀ g ∈ after,
      g.plan.ticket.generation < b.guard.generation) :
    b.Attends (before ++ f :: after) ∧
      b.underWay (before ++ f :: after) = [f] := by
  have hUnderWay : b.underWay (before ++ f :: after) = [f] := by
    rw [underWay_append, underWay_cons_of_current _ hCurrent,
      underWay_of_earlier hBefore, underWay_of_earlier hAfter]
    rfl
  refine ⟨⟨fun g hMem => ?_, ?_⟩, hUnderWay⟩
  · rcases List.mem_append.mp hMem with hOld | hRest
    · exact .inr (hBefore g hOld)
    · rcases List.mem_cons.mp hRest with hNew | hOld
      · exact .inl (by rw [hNew]; exact hCurrent)
      · exact .inr (hAfter g hOld)
  · rw [hUnderWay]
    exact Nat.le_refl 1

/- A load that can be committed is the only one. -/
theorem Attends.rest_nil
    {f : Flight ρ κ}
    (hAttends : b.Attends (before ++ f :: after))
    (hCurrent : b.isCurrent f.plan = true) :
    b.underWay before = [] ∧ b.underWay after = [] ∧
      b.underWay (before ++ f :: after) = [f] := by
  have hSplit :
      b.underWay (before ++ f :: after) =
        b.underWay before ++ f :: b.underWay after := by
    rw [underWay_append, underWay_cons_of_current _ hCurrent]
  have hLone := hAttends.lone
  rw [hSplit, List.length_append, List.length_cons] at hLone
  have hBefore : b.underWay before = [] :=
    List.length_eq_zero_iff.mp (by omega)
  have hAfter : b.underWay after = [] :=
    List.length_eq_zero_iff.mp (by omega)
  refine ⟨hBefore, hAfter, ?_⟩
  rw [hSplit, hBefore, hAfter]
  rfl

/-
  A load is answered, or is gone.  If it could be committed then
  it was all that was under way.
-/
theorem Attends.exchange
    {old new : Option (Flight ρ κ)}
    (hAttends : b.Attends (before ++ old.toList ++ after))
    (hPlan : ∀ g ∈ new, ∃ f ∈ old, g.plan = f.plan) :
    b.Attends (before ++ new.toList ++ after) ∧
      (b.underWay (before ++ new.toList ++ after) =
          b.underWay (before ++ old.toList ++ after) ∨
        ∃ f, old = some f ∧
          b.underWay (before ++ old.toList ++ after) = [f] ∧
          b.underWay (before ++ new.toList ++ after) =
            new.toList) := by
  cases old with
  | none =>
      have hNone : new = none := by
        cases new with
        | none => rfl
        | some g =>
            rcases hPlan g rfl with ⟨f, hMem, _⟩
            cases hMem
      rw [hNone]
      exact ⟨hAttends, .inl rfl⟩
  | some f =>
      have hSame : ∀ g ∈ new.toList, g.plan = f.plan := by
        intro g hMem
        rcases hPlan g (Option.mem_toList.mp hMem) with
          ⟨f', hOld, hEq⟩
        cases hOld
        exact hEq
      have hStale : ∀ g ∈ before ++ new.toList ++ after,
          b.isCurrent g.plan = true ∨
            g.plan.ticket.generation < b.guard.generation := by
        intro g hMem
        simp only [List.mem_append] at hMem
        rcases hMem with (hOld | hNew) | hOld
        · exact hAttends.stale g (by simp [hOld])
        · rw [hSame g hNew]
          exact hAttends.stale f (by simp)
        · exact hAttends.stale g (by simp [hOld])
      rw [Option.toList_some, List.append_assoc before [f] after,
        List.singleton_append] at hAttends ⊢
      by_cases hCurrent : b.isCurrent f.plan = true
      · rcases hAttends.rest_nil hCurrent with
          ⟨hBefore, hAfter, hAll⟩
        have hNew : b.underWay new.toList = new.toList :=
          List.filter_eq_self.mpr fun g hMem => by
            rw [hSame g hMem]
            exact hCurrent
        have hUnderWay :
            b.underWay (before ++ new.toList ++ after) =
              new.toList := by
          rw [underWay_append, underWay_append, hBefore, hAfter,
            hNew, List.nil_append, List.append_nil]
        refine ⟨⟨hStale, ?_⟩, .inr ⟨f, rfl, hAll, hUnderWay⟩⟩
        rw [hUnderWay]
        cases new with
        | none => exact Nat.zero_le 1
        | some g => exact Nat.le_refl 1
      · have hNew : b.underWay new.toList = [] :=
          List.filter_eq_nil_iff.mpr fun g hMem => by
            rw [hSame g hMem]
            exact hCurrent
        have hUnderWay :
            b.underWay (before ++ new.toList ++ after) =
              b.underWay (before ++ f :: after) := by
          rw [underWay_append, underWay_append, hNew,
            List.append_nil, underWay_append,
            underWay_cons_of_not_current _ hCurrent]
        refine ⟨⟨hStale, ?_⟩, .inl hUnderWay⟩
        rw [hUnderWay]
        exact hAttends.lone

/- A load ends.  If it can be committed then it is. -/
theorem Attends.commit
    [DecidableEq κ]
    {f : Flight ρ κ}
    (hAttends : b.Attends (before ++ f :: after))
    (key : ρ → κ) :
    (b.commit key f).1.Attends (before ++ after) ∧
      ((b.underWay (before ++ f :: after) = [f] ∧
          (b.commit key f).1.underWay (before ++ after) = [] ∧
          (b.commit key f).1.window =
            f.edit.apply key f.load.rows b.window) ∨
        (b.isCurrent f.plan ≠ true ∧
          (b.commit key f).1.underWay (before ++ after) =
            b.underWay (before ++ f :: after) ∧
          (b.commit key f).1.window = b.window)) := by
  have hOthers : ∀ g ∈ before ++ after,
      g ∈ before ++ f :: after := by
    intro g hMem
    rcases List.mem_append.mp hMem with hOld | hOld
    · exact List.mem_append_left _ hOld
    · exact List.mem_append_right _ (List.mem_cons_of_mem _ hOld)
  unfold Buffer.commit
  by_cases hCurrent : b.isCurrent f.plan = true
  · rcases hAttends.rest_nil hCurrent with
      ⟨hBefore, hAfter, hAll⟩
    have hEarlier : ∀ g ∈ before ++ after,
        g.plan.ticket.generation < b.guard.generation := by
      intro g hMem
      refine (hAttends.stale g (hOthers g hMem)).resolve_left ?_
      rcases List.mem_append.mp hMem with hOld | hOld
      · exact List.filter_eq_nil_iff.mp hBefore g hOld
      · exact List.filter_eq_nil_iff.mp hAfter g hOld
    rw [if_pos hCurrent]
    let next := b.publish (f.edit.apply key f.load.rows b.window)
    have hNone : next.underWay (before ++ after) = [] :=
      underWay_of_earlier hEarlier
    refine ⟨⟨fun g hMem => .inr (hEarlier g hMem), ?_⟩,
      .inl ⟨hAll, hNone, rfl⟩⟩
    show (next.underWay (before ++ after)).length ≤ 1
    rw [hNone]
    exact Nat.zero_le 1
  · have hSame :
        b.underWay (before ++ after) =
          b.underWay (before ++ f :: after) := by
      rw [underWay_append, underWay_append,
        underWay_cons_of_not_current _ hCurrent]
    rw [if_neg hCurrent]
    refine ⟨⟨fun g hMem => hAttends.stale g (hOthers g hMem), ?_⟩,
      .inr ⟨hCurrent, hSame, rfl⟩⟩
    show (b.underWay (before ++ after)).length ≤ 1
    rw [hSame]
    exact hAttends.lone

end Buffer

end LedgerView
