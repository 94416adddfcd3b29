import Mathlib.Data.Prod.Lex
import LedgerView.Row.Basic

/-
  The order of the keys.

  Keys compare as the numbers they consist of, one after the
  other, with moments before entities.  So they are in a linear
  order, and what is known of lists in such an order is true of
  the lists of the ledger.

  Key definitions include:
    * `Key.rank`

  Key theorems include:
    * `Key.rank_injective`
    * `Key.compare_eq_rank`
-/

namespace LedgerView

namespace Key

/- The numbers that order a key. -/
def rank : Key → Nat ×ₗ Nat ×ₗ Nat ×ₗ Nat
  | time t =>
      toLex (0, toLex (t.seconds.toNat, toLex (t.nanos.toNat, 0)))
  | entity e =>
      toLex
        (1, toLex (e.shard.toNat, toLex (e.realm.toNat, e.num.toNat)))

/- They tell the keys apart. -/
theorem rank_injective : Function.Injective rank := by
  intro a b hRank
  cases a with
  | time t =>
      cases b with
      | time t' =>
          rcases t with ⟨seconds, nanos⟩
          rcases t' with ⟨seconds', nanos'⟩
          simpa [rank, UInt64.toNat_inj, UInt32.toNat_inj]
            using hRank
      | entity e => simp [rank] at hRank
  | entity e =>
      cases b with
      | time t => simp [rank] at hRank
      | entity e' =>
          rcases e with ⟨shard, realm, num⟩
          rcases e' with ⟨shard', realm', num'⟩
          simpa [rank, UInt64.toNat_inj] using hRank

/- Words compare as the numbers that they stand for. -/
theorem compare_word
    (a b : UInt64) :
    Ord.compare a b = Ord.compare a.toNat b.toNat := by
  simp only [Ord.compare, compareOfLessAndEq,
    UInt64.lt_iff_toNat_lt, UInt64.toNat_inj]

/- So do shorter words. -/
theorem compare_shortWord
    (a b : UInt32) :
    Ord.compare a b = Ord.compare a.toNat b.toNat := by
  simp only [Ord.compare, compareOfLessAndEq,
    UInt32.lt_iff_toNat_lt, UInt32.toNat_inj]

/- Keys compare as their numbers do. -/
theorem compare_eq_rank
    (a b : Key) :
    Ord.compare a b = Ord.compare a.rank b.rank := by
  cases a with
  | time t =>
      cases b with
      | time t' =>
          have hTime :
              Ord.compare (time t) (time t') =
                (Ord.compare t.seconds t'.seconds).then
                  (Ord.compare t.nanos t'.nanos) := rfl
          rw [hTime, compare_word, compare_shortWord]
          simp [rank, Prod.Lex.compare_def, compareLex, compareOn]
      | entity e => rfl
  | entity e =>
      cases b with
      | time t => rfl
      | entity e' =>
          have hEntity :
              Ord.compare (entity e) (entity e') =
                ((Ord.compare e.shard e'.shard).then
                  (Ord.compare e.realm e'.realm)).then
                    (Ord.compare e.num e'.num) := rfl
          rw [hEntity, compare_word, compare_word, compare_word]
          simp [rank, Prod.Lex.compare_def, compareLex, compareOn,
            Ordering.then_assoc]

/- Equality is decided as it is elsewhere. -/
instance : LinearOrder Key :=
  let byRank : LinearOrder Key :=
    .liftWithOrd' rank rank_injective compare_eq_rank
  { byRank with
    toDecidableEq := inferInstance
    compare_eq_compareOfLessAndEq := by
      intro a b
      rw [byRank.compare_eq_compareOfLessAndEq a b]
      congr! }

end Key

end LedgerView
