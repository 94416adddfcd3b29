import LedgerView.Pager.Buffer

/-
  What the edits make of a window.

  Key theorems include:
    * `Edit.apply_pageSize`
    * `Edit.startIndex_apply_le`
    * `Edit.apply_join_cases`
-/

namespace LedgerView

namespace Edit

variable {ρ κ : Type}

/- A page is shown within the rows kept. -/
theorem startIndex_showPage_le
    (w : Window ρ)
    (start : Nat) :
    (showPage w start).startIndex ≤
      (showPage w start).rows.length :=
  Nat.min_le_right _ _

variable [DecidableEq κ]

/-
  A join either puts rows in front, when the last fresh row and
  the first row kept have one key, or starts over.
-/
theorem apply_join_cases
    (key : ρ → κ)
    (fresh : List ρ)
    (w : Window ρ) :
    (∃ newer a b older,
      fresh = newer ++ [a] ∧ w.rows = b :: older ∧
        key a = key b ∧
        apply key .join fresh w =
          { w with rows := newer ++ b :: older }) ∨
      apply key .join fresh w = { w.reset with rows := fresh } := by
  simp only [apply, stitch]
  cases hFresh : fresh.getLast? with
  | none => exact .inr rfl
  | some a =>
      cases hRows : w.rows.head? with
      | none => exact .inr rfl
      | some b =>
          by_cases hKey : key a = key b
          · rcases List.getLast?_eq_some_iff.mp hFresh with
              ⟨newer, hNewer⟩
            rcases List.head?_eq_some_iff.mp hRows with
              ⟨older, hOlder⟩
            refine
              .inl ⟨newer, a, b, older, hNewer, hOlder, hKey, ?_⟩
            simp only [if_pos hKey]
            rw [hNewer, List.dropLast_concat, hOlder]
          · right
            simp only [if_neg hKey]

/- A join with the first row kept changes nothing. -/
theorem apply_join_head
    (key : ρ → κ)
    {w : Window ρ}
    {row : ρ}
    (hRow : w.rows.head? = some row) :
    apply key .join [row] w = w := by
  have hStitch :
      stitch key [row] w.rows = (w.rows, .concatenated 0) := by
    unfold stitch
    rw [hRow]
    exact if_pos rfl
  simp only [apply, hStitch]

/- No edit changes the page size. -/
theorem apply_pageSize
    (key : ρ → κ)
    (edit : Edit)
    (loaded : List ρ)
    (w : Window ρ) :
    (edit.apply key loaded w).pageSize = w.pageSize := by
  cases edit with
  | join =>
      rcases apply_join_cases key loaded w with
        ⟨_, _, _, _, _, _, _, hApply⟩ | hApply
      · rw [hApply]
      · rw [hApply]
        rfl
  | _ => rfl

/- The visible page begins within the rows kept. -/
theorem startIndex_apply_le
    (key : ρ → κ)
    (edit : Edit)
    (loaded : List ρ)
    {w : Window ρ}
    (hStart : w.startIndex ≤ w.rows.length) :
    (edit.apply key loaded w).startIndex ≤
      (edit.apply key loaded w).rows.length := by
  cases edit with
  | anchored start pageSize => exact Nat.zero_le _
  | initial start stop => exact startIndex_showPage_le _ _
  | head start wanted => exact startIndex_showPage_le _ _
  | tail start wanted => exact startIndex_showPage_le _ _
  | turn start => exact startIndex_showPage_le _ _
  | newest pageSize => exact Nat.zero_le _
  | join =>
      rcases apply_join_cases key loaded w with
        ⟨newer, _, b, older, _, hRows, _, hApply⟩ | hApply
      · rw [hApply]
        rw [hRows] at hStart
        simp only [List.length_append]
        omega
      · rw [hApply]
        exact Nat.zero_le _

end Edit

end LedgerView
