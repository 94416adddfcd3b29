import Mathlib.Algebra.Order.Field.Rat
import Mathlib.Tactic.FieldSimp
import Mathlib.Tactic.Ring
import LedgerView.Proofs.Text.Blank
import LedgerView.Proofs.Text.Decimal

/-
  Decimal fractions.

  A fraction is digits, possibly followed by a point and
  further digits, which count as parts of one.  A number that
  is divided by a power of ten is written as a fraction of
  which nothing can be left out, and is read as the quotient.

  Key definitions include:
    * `Text.fraction?`
    * `Text.Tidy`
    * `Text.Numeral`

  Key theorems include:
    * `Text.Numeral.fraction?_eq`
    * `Text.Numeral.tidy`
    * `Text.numeral_div_of_mod_eq_zero`
    * `Text.numeral_div_of_mod_ne_zero`
-/

namespace LedgerView.Text

------------------------------------------------------------
-- What Is Read as a Fraction
------------------------------------------------------------

/- The value of digits, and of the digits behind a point. -/
def fraction?
    (s : List Char) : Option ℚ :=
  match splitFirst (· == '.') s with
  | (whole, none) => (digits? whole).map Nat.cast
  | (whole, some parts) => do
      let n ← digits? whole
      let m ← digits? parts
      return n + m / 10 ^ parts.length

/-
  Nothing of a fraction can be left out: a zero is in front
  only as the whole part, and what has a point ends neither in
  the point nor in a zero.
-/
structure Tidy
    (s : List Char) : Prop where
  front : s.head? = some '0' → s = ['0'] ∨ ['0', '.'] <+: s
  back : '.' ∈ s → s.getLast? ≠ some '.' ∧ s.getLast? ≠ some '0'

------------------------------------------------------------
-- How a Fraction Is Written
------------------------------------------------------------

/-
  The text of a fraction: its whole part alone, or with a point
  and further digits, of which the last is not zero.
-/
inductive Numeral : List Char → ℚ → Prop where
  | whole
      (n : Nat) :
      Numeral (decimal n) n
  | parts
      (n : Nat)
      {s : List Char}
      {m : Nat}
      (hDigits : Digits s m)
      (hLast : s.getLast? ≠ some '0') :
      Numeral (decimal n ++ '.' :: s) (n + m / 10 ^ s.length)

namespace Numeral

variable {s : List Char} {q : ℚ}

/- A fraction is read as it was written. -/
theorem fraction?_eq
    (hNumeral : Numeral s q) :
    fraction? s = some q := by
  unfold fraction?
  cases hNumeral with
  | whole n =>
      rw [splitFirst_eq_self (digits_decimal n).ne_dot]
      dsimp only
      rw [digits?_decimal, Option.map_some]
  | parts n hDigits hLast =>
      rw [splitFirst_append (digits_decimal n).ne_dot rfl]
      dsimp only
      rw [digits?_decimal, digits?_eq_some_iff.mpr hDigits]
      rfl

/- Nothing that is written of a fraction can be left out. -/
theorem tidy
    (hNumeral : Numeral s q) :
    Tidy s := by
  cases hNumeral with
  | whole n =>
      refine ⟨fun hHead => .inl (decimal_of_head?_eq_zero hHead),
        fun hDot => ?_⟩
      have hNone := (digits_decimal n).ne_dot '.' hDot
      exact absurd hNone (by decide)
  | @parts n s m hDigits hLast =>
      constructor
      · intro hHead
        rw [List.head?_append_of_ne_nil _ (digits_decimal n).ne_nil]
          at hHead
        rw [decimal_of_head?_eq_zero hHead]
        exact .inr ⟨s, rfl⟩
      · intro _
        rw [List.getLast?_append_of_ne_nil _ (List.cons_ne_nil _ _),
          List.getLast?_cons_of_ne_nil hDigits.ne_nil]
        refine ⟨fun hDot => ?_, hLast⟩
        have hNone :=
          hDigits.ne_dot '.' (List.mem_of_getLast? hDot)
        exact absurd hNone (by decide)

end Numeral

------------------------------------------------------------
-- Zeros at the End
------------------------------------------------------------

/- Zeros at the end of digits count for their places alone. -/
theorem Digits.dropLastWhile_zero
    {s : List Char}
    {n : Nat}
    (hDigits : Digits s n)
    (hSome : n ≠ 0) :
    ∃ m,
      Digits (dropLastWhile (· == '0') s) m ∧
        (m : ℚ) / 10 ^ (dropLastWhile (· == '0') s).length =
          n / 10 ^ s.length := by
  rcases exists_dropLastWhile_append '0' s with ⟨k, hSplit⟩
  generalize dropLastWhile (· == '0') s = kept at hSplit ⊢
  subst hSplit
  have hValue := hDigits.value
  rw [Nat.ofDigitChars_append, Nat.ofDigitChars_replicate_zero]
    at hValue
  refine ⟨Nat.ofDigitChars 10 kept 0, ⟨?_, ?_, rfl⟩, ?_⟩
  · intro hNone
    rw [hNone] at hValue
    exact hSome hValue.symm
  · exact fun c hMem =>
      hDigits.isDigit c (List.mem_append_left _ hMem)
  · rw [← hValue, List.length_append, List.length_replicate]
    push_cast
    field_simp
    ring

------------------------------------------------------------
-- Division by a Power of Ten
------------------------------------------------------------

/- A quotient is its whole part and what is left over. -/
theorem div_pow_ten_eq
    (n places : Nat) :
    (n : ℚ) / 10 ^ places =
      (n / 10 ^ places : Nat) +
        (n % 10 ^ places : Nat) / 10 ^ places := by
  have hSum :
      (10 : ℚ) ^ places * (n / 10 ^ places : Nat) +
          (n % 10 ^ places : Nat) =
        n := by
    exact_mod_cast Nat.div_add_mod n (10 ^ places)
  rw [← hSum]
  field_simp

/- A number without a rest is divided into a whole one. -/
theorem numeral_div_of_mod_eq_zero
    {n places : Nat}
    (hNone : n % 10 ^ places = 0) :
    Numeral (decimal (n / 10 ^ places)) (n / 10 ^ places) := by
  rw [div_pow_ten_eq, hNone, Nat.cast_zero, zero_div, add_zero]
  exact .whole _

/-
  Otherwise the rest is written behind a point, in as many
  digits as the power has zeros, but for those at the end.
-/
theorem numeral_div_of_mod_ne_zero
    {n places : Nat}
    (hRest : n % 10 ^ places ≠ 0) :
    Numeral
      (decimal (n / 10 ^ places) ++
        '.' :: dropLastWhile (· == '0')
          (padLeft places (decimal (n % 10 ^ places))))
      (n / 10 ^ places) := by
  have hPlaces : 0 < places := by
    refine Nat.pos_of_ne_zero fun hNone => hRest ?_
    rw [hNone]
    exact Nat.mod_one n
  have hFits : n % 10 ^ places < 10 ^ places :=
    Nat.mod_lt n (Nat.pow_pos (by decide))
  rcases (digits_padLeft places (n % 10 ^ places)).dropLastWhile_zero
      hRest with
    ⟨m, hDigits, hValue⟩
  rw [length_padLeft hPlaces hFits] at hValue
  rw [div_pow_ten_eq, ← hValue]
  exact .parts _ hDigits fun hLast =>
    absurd (eq_false_of_getLast?_dropLastWhile hLast) (by decide)

end LedgerView.Text
