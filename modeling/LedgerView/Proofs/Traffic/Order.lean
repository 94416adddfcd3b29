import Mathlib.Data.Nat.Basic
import LedgerView.Proofs.Traffic.Shape

/-
  Windows over a source that keeps to the order.

  Such a source answers every query by rows in the order asked
  for and on the side asked for, if at all.  Nothing is known of
  how one answer relates to another: between any two, rows may
  come and go.  The rows kept still descend.

  Key definitions include:
    * `Conduct.honest`
    * `Shape.descending`

  Key theorems include:
    * `Traffic.window_descends`
-/

namespace LedgerView

variable {ρ κ : Type} [LinearOrder κ]

------------------------------------------------------------
-- Honest Sources
------------------------------------------------------------

instance
    (order : SortOrder)
    (a b : κ) :
    Decidable (order.Precedes a b) := by
  unfold SortOrder.Precedes
  cases order <;> infer_instance

instance
    (key : ρ → κ)
    (q : ListQuery κ)
    (rows : List ρ) :
    Decidable (q.Honest key rows) := by
  unfold ListQuery.Honest
  infer_instance

namespace Conduct

/-
  A source whose answers are honest.  It may also have none, or
  fail; and it may change in any way.
-/
def honest
    (key : ρ → κ) : Conduct Unit ρ κ where
  Answers := fun _ q reply =>
    match reply with
    | .ok (some rows) => q.Honest key rows
    | .ok none => True
    | .error _ => True
  Becomes := fun _ _ => True

instance
    (key : ρ → κ)
    (source : Unit)
    (q : ListQuery κ) :
    (reply : Reply ρ) →
      Decidable ((honest key).Answers source q reply)
  | .error _ => .isTrue trivial
  | .ok none => .isTrue trivial
  | .ok (some rows) =>
      inferInstanceAs (Decidable (q.Honest key rows))

instance
    (key : ρ → κ)
    (source next : Unit) :
    Decidable ((honest key).Becomes source next) :=
  .isTrue trivial

variable {key : ρ → κ} {source : Unit} {q : ListQuery κ}
variable {reply : Option (List ρ)}

/- No answer at all is an honest empty one. -/
theorem honest_getD
    (hAnswer : (honest key).Answers source q (.ok reply)) :
    q.Honest key (reply.getD []) := by
  cases reply with
  | none => exact ⟨List.Pairwise.nil, by simp⟩
  | some rows => exact hAnswer

/- What is used of an honest answer is honest. -/
theorem honest_take
    (count : Nat)
    (hAnswer : (honest key).Answers source q (.ok reply)) :
    q.Honest key ((reply.getD []).take count) := by
  rcases honest_getD hAnswer with ⟨hOrder, hWants⟩
  constructor
  · exact hOrder.sublist (List.take_sublist _ _)
  · intro row hRow
    exact hWants row (List.mem_of_mem_take hRow)

end Conduct

------------------------------------------------------------
-- Rows in Order
------------------------------------------------------------

/- Descending rows stay so however an honest source is read. -/
def Shape.descending
    (key : ρ → κ) : Shape (Conduct.honest key) key where
  Fits := fun _ rows => Descending key rows
  Ends := fun _ _ => True
  fits_nil := fun _ => List.Pairwise.nil
  fits_first := by
    intro source q reply hAnswer hDesc
    have hOrder := (Conduct.honest_take q.limit hAnswer).1
    rw [hDesc] at hOrder
    exact hOrder
  ends_first := fun _ _ _ _ => trivial
  fits_older := by
    intro source rows row limit reply hFits hAnswer
    rcases Conduct.honest_take limit hAnswer with
      ⟨hOrder, hWants⟩
    apply Descending.append_iff.mpr
    refine ⟨hFits, hOrder, ?_⟩
    intro a ha b hb
    have hBelow : key b < key row :=
      Operator.accepts_lt_iff.mp (hWants b hb)
    exact lt_of_lt_of_le hBelow (hFits.last_le a ha)
  ends_older := fun _ _ _ => trivial
  fits_newer := by
    intro source rows row limit reply hFits hAnswer
    rcases Conduct.honest_take limit hAnswer with
      ⟨hOrder, hWants⟩
    apply Descending.append_iff.mpr
    refine ⟨List.pairwise_reverse.mpr hOrder, hFits, ?_⟩
    intro a ha b hb
    have hAbove : key row < key a :=
      Operator.accepts_gt_iff.mp
        (hWants a (List.mem_reverse.mp ha))
    exact lt_of_le_of_lt (hFits.le_head b hb) hAbove
  fits_meet := by
    intro source fresh rows a b hFresh hRows hKey
    apply Descending.append_iff.mpr
    rcases Descending.append_iff.mp hFresh with
      ⟨hNewer, _, hAcross⟩
    refine ⟨hNewer, hRows, ?_⟩
    intro c hc d hd
    have hAbove : key a < key c :=
      hAcross c hc a (List.mem_singleton_self _)
    rw [hKey] at hAbove
    exact lt_of_le_of_lt (hRows.le_head d hd) hAbove
  ends_append := fun _ _ _ => trivial
  fits_becomes := fun _ hFits => hFits
  ends_becomes := fun _ _ => trivial

namespace Traffic

/-
  However operations overlap and whatever an honest source
  answers, the rows kept descend strictly, and the visible page
  begins within them.
-/
theorem window_descends
    (key : ρ → κ)
    (pageSize maxLimit : Nat)
    (events : List (Event Unit ρ κ))
    (hAllows :
      (Conduct.honest key).Allows key
        (start () pageSize maxLimit) events)
    (hChanges :
      ((start () pageSize maxLimit).run key
        events).changes < 2 ^ 64) :
    let w :=
      ((start () pageSize maxLimit).run key
        events).buffer.window
    Descending key w.rows ∧ (w.rows.map key).Nodup ∧
      w.startIndex ≤ w.rows.length ∧ 1 ≤ w.pageSize := by
  intro w
  have hSuits : (Shape.descending key).Suits _ w :=
    Shape.suits_run _ pageSize maxLimit hAllows hChanges
  have hFits : Descending key w.rows := hSuits.fits
  exact
    ⟨hFits, hFits.nodup, hSuits.startIndex_le,
      hSuits.pageSize_pos⟩

/-
  Moves and refreshes that overlap, an abort and a new page
  size, over a source whose rows come and go and which answers
  with more rows than it was asked for.
-/
def unsettled : List (Event Unit Nat Nat) :=
  [.prepare 1, .prepare 2, .depart 0 none,
    .answer 0 (.ok (some [9, 7, 6])), .refresh, .commit 0,
    .depart 0 (some 8), .answer 1 (.ok (some [8, 3])),
    .commit 1, .answer 0 (.ok (some [20, 11])), .commit 0,
    .refresh, .answer 0 (.ok (some [12, 9])), .commit 0,
    .prepare 2, .depart 0 none,
    .answer 0 (.ok (some [5, 2])), .refresh, .commit 0,
    .abort, .answer 0 (.ok none), .commit 0, .setPageSize 3]

theorem window_descends_unsettled :
    let s := (start () 2 2).run (id : Nat → Nat) unsettled
    let w := s.buffer.window
    (Conduct.honest id).Allows id (start () 2 2) unsettled ∧
      s.changes < 2 ^ 64 ∧ w.rows = [12, 9, 7, 5] ∧
      Descending id w.rows ∧ (w.rows.map id).Nodup ∧
      w.startIndex ≤ w.rows.length ∧ 1 ≤ w.pageSize := by
  intro s w
  have hAllows :
      (Conduct.honest id).Allows id (start () 2 2)
        unsettled := by
    decide
  have hChanges : s.changes < 2 ^ 64 := by decide
  have hRows : w.rows = [12, 9, 7, 5] := by decide
  exact
    ⟨hAllows, hChanges, hRows,
      window_descends id 2 2 unsettled hAllows hChanges⟩

end Traffic

end LedgerView
