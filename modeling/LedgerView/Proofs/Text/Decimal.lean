import LedgerView.Text.Blank
import LedgerView.Text.Decimal

/-
  Whole numbers are read as they were written.

  What is read as a number is digits, each weighted by its
  place, and the digits of a number are read as that number.

  Key definitions include:
    * `Text.Digits`

  Key theorems include:
    * `Text.digits?_eq_some_iff`
    * `Text.natural?_eq_some_iff`
    * `Text.digits?_decimal`
    * `Text.natural?_decimal`
    * `Text.Digits.lt`
    * `Text.decimal_of_head?_eq_zero`
    * `Text.digits_padLeft`
-/

namespace LedgerView.Text

/- A digit has a value. -/
theorem digitValue?_of_isDigit
    {c : Char}
    (hDigit : c.isDigit = true) :
    digitValue? c = some (c.toNat - '0'.toNat) := by
  unfold digitValue?
  rw [if_pos]
  simpa [Char.isDigit, Char.le_def] using hDigit

/- The value of digits that follow others. -/
theorem digitsFrom?_of_isDigit
    {s : List Char}
    (hDigits : ∀ c ∈ s, c.isDigit = true)
    (acc : Nat) :
    digitsFrom? acc s = some (Nat.ofDigitChars 10 s acc) := by
  induction s generalizing acc with
  | nil => rfl
  | cons c rest ih =>
      rcases List.forall_mem_cons.mp hDigits with ⟨hHead, hRest⟩
      unfold digitsFrom?
      rw [digitValue?_of_isDigit hHead]
      dsimp only
      rw [ih hRest, Nat.ofDigitChars_cons, Nat.mul_comm 10]

/- What has the value of a digit is one. -/
theorem isDigit_of_digitValue?
    {c : Char}
    {d : Nat}
    (hValue : digitValue? c = some d) :
    c.isDigit = true := by
  unfold digitValue? at hValue
  split at hValue
  · next hRange =>
      simpa [Char.isDigit, Char.le_def] using hRange
  · cases hValue

/- Nothing but digits is read as a number. -/
theorem isDigit_of_digitsFrom?
    {s : List Char}
    {acc n : Nat}
    (hRead : digitsFrom? acc s = some n) :
    ∀ c ∈ s, c.isDigit = true := by
  induction s generalizing acc with
  | nil => exact fun c hMem => nomatch hMem
  | cons c rest ih =>
      unfold digitsFrom? at hRead
      split at hRead
      · next d hValue =>
          exact List.forall_mem_cons.mpr
            ⟨isDigit_of_digitValue? hValue, ih hRead⟩
      · cases hRead

------------------------------------------------------------
-- What Is Read as a Number
------------------------------------------------------------

/- One or more digits of some value. -/
structure Digits
    (s : List Char)
    (n : Nat) : Prop where
  ne_nil : s ≠ []
  isDigit : ∀ c ∈ s, c.isDigit = true
  value : Nat.ofDigitChars 10 s 0 = n

/- A number is read of its digits and of nothing else. -/
theorem digits?_eq_some_iff
    {s : List Char}
    {n : Nat} :
    digits? s = some n ↔ Digits s n := by
  unfold digits?
  split
  · constructor
    · intro hNone
      cases hNone
    · exact fun hDigits => absurd rfl hDigits.ne_nil
  · next hSome =>
      constructor
      · intro hRead
        have hDigit := isDigit_of_digitsFrom? hRead
        rw [digitsFrom?_of_isDigit hDigit] at hRead
        exact ⟨hSome, hDigit, Option.some.inj hRead⟩
      · intro hDigits
        rw [digitsFrom?_of_isDigit hDigits.isDigit, hDigits.value]

/- So is a number with a bound, but for a plus sign. -/
theorem natural?_eq_some_iff
    {bound n : Nat}
    {s : List Char} :
    natural? bound s = some n ↔
      n < bound ∧
        (Digits s n ∨ ∃ rest, s = '+' :: rest ∧ Digits rest n) := by
  have hFits :
      ∀ value : Option Nat,
        value.filter (· < bound) = some n ↔
          n < bound ∧ value = some n := by
    intro value
    rw [Option.filter_eq_some_iff, decide_eq_true_eq]
    exact and_comm
  unfold natural?
  dsimp only
  rw [hFits]
  refine and_congr_right fun _ => ?_
  split
  · next rest =>
      rw [digits?_eq_some_iff]
      constructor
      · exact fun hDigits => .inr ⟨rest, rfl, hDigits⟩
      · rintro (hDigits | ⟨rest', hSame, hDigits⟩)
        · have hPlus := hDigits.isDigit '+' List.mem_cons_self
          exact absurd hPlus (by decide)
        · cases hSame
          exact hDigits
  · next hPlain =>
      rw [digits?_eq_some_iff]
      constructor
      · exact .inl
      · rintro (hDigits | ⟨rest, hSame, -⟩)
        · exact hDigits
        · exact absurd hSame (hPlain rest)

/- Every digit read takes one place. -/
theorem ofDigitChars_lt
    {s : List Char}
    (hDigits : ∀ c ∈ s, c.isDigit = true)
    {acc places : Nat}
    (hAcc : acc < 10 ^ places) :
    Nat.ofDigitChars 10 s acc < 10 ^ (places + s.length) := by
  induction s generalizing acc places with
  | nil => exact hAcc
  | cons c rest ih =>
      rcases List.forall_mem_cons.mp hDigits with ⟨hHead, hRest⟩
      have hRange : 48 ≤ c.toNat ∧ c.toNat ≤ 57 := by
        simpa [Char.isDigit, UInt32.le_iff_toNat_le] using hHead
      have hZero : '0'.toNat = 48 := rfl
      have hNext :
          10 * acc + (c.toNat - '0'.toNat) < 10 ^ (places + 1) := by
        rw [hZero, Nat.pow_succ]
        omega
      have hPlaces :
          places + (c :: rest).length = places + 1 + rest.length := by
        rw [List.length_cons]
        omega
      rw [Nat.ofDigitChars_cons, hPlaces]
      exact ih hRest hNext

/- A number has no more places than digits. -/
theorem Digits.lt
    {s : List Char}
    {n : Nat}
    (hDigits : Digits s n) :
    n < 10 ^ s.length := by
  have hZero : 0 < 10 ^ 0 := by decide
  have hLess := ofDigitChars_lt hDigits.isDigit hZero
  rw [hDigits.value, Nat.zero_add] at hLess
  exact hLess

/- A digit is not blank. -/
theorem isBlank_of_isDigit
    {c : Char}
    (hDigit : c.isDigit = true) :
    isBlank c = false := by
  have hRange : 48 ≤ c.toNat ∧ c.toNat ≤ 57 := by
    simpa [Char.isDigit, UInt32.le_iff_toNat_le] using hDigit
  refine Bool.eq_false_iff.mpr fun hBlank => ?_
  simp only [isBlank, Bool.or_eq_true, Bool.and_eq_true,
    decide_eq_true_eq, beq_iff_eq] at hBlank
  omega

/- There is no dot among digits. -/
theorem Digits.ne_dot
    {s : List Char}
    {n : Nat}
    (hDigits : Digits s n) :
    ∀ c ∈ s, (c == '.') = false := by
  intro c hMem
  refine beq_eq_false_iff_ne.mpr fun hDot => ?_
  have hDigit := hDigits.isDigit c hMem
  rw [hDot] at hDigit
  exact absurd hDigit (by decide)

/- Nor is there a blank. -/
theorem Digits.isBlank_eq_false
    {s : List Char}
    {n : Nat}
    (hDigits : Digits s n) :
    ∀ c ∈ s, isBlank c = false :=
  fun c hMem => isBlank_of_isDigit (hDigits.isDigit c hMem)

------------------------------------------------------------
-- What Is Written of a Number
------------------------------------------------------------

/- The digits of a number are digits. -/
theorem isDigit_of_mem_decimal
    {n : Nat}
    {c : Char}
    (hMem : c ∈ decimal n) :
    c.isDigit = true :=
  Nat.isDigit_of_mem_toDigits (by decide) (by decide) hMem

/- What is written of a number. -/
theorem toList_toString
    (n : Nat) :
    (toString n).toList = decimal n := by
  rw [Nat.toString_eq_repr, Nat.toList_repr]
  rfl

/- Of every number something is written. -/
theorem toString_ne_empty
    (n : Nat) :
    toString n ≠ "" := by
  intro hNone
  have hDigits := congrArg String.toList hNone
  rw [toList_toString] at hDigits
  exact Nat.toDigits_ne_nil hDigits

/- What is written of a number has its value. -/
theorem digits_decimal
    (n : Nat) :
    Digits (decimal n) n where
  ne_nil := Nat.toDigits_ne_nil
  isDigit := fun _ => isDigit_of_mem_decimal
  value := Nat.ofDigitChars_toDigits (by decide) (by decide)

/- A number is read as it was written. -/
theorem digits?_decimal
    (n : Nat) :
    digits? (decimal n) = some n :=
  digits?_eq_some_iff.mpr (digits_decimal n)

/- A number that fits is read as it was written. -/
theorem natural?_decimal
    {n bound : Nat}
    (hFits : n < bound) :
    natural? bound (decimal n) = some n :=
  natural?_eq_some_iff.mpr ⟨hFits, .inl (digits_decimal n)⟩

/- Zeros in front of a number do not count. -/
theorem digits_padLeft
    (width n : Nat) :
    Digits (padLeft width (decimal n)) n where
  ne_nil := fun hNil =>
    Nat.toDigits_ne_nil (List.append_eq_nil_iff.mp hNil).2
  isDigit := by
    refine List.forall_mem_append.mpr ⟨fun c hMem => ?_, ?_⟩
    · rw [List.eq_of_mem_replicate hMem]
      decide
    · exact fun c => isDigit_of_mem_decimal
  value := by
    unfold padLeft
    rw [Nat.ofDigitChars_append, Nat.ofDigitChars_replicate_zero,
      Nat.mul_zero]
    exact (digits_decimal n).value

/- No zero is written in front of a number. -/
theorem decimal_of_head?_eq_zero
    {n : Nat}
    (hHead : (decimal n).head? = some '0') :
    decimal n = ['0'] := by
  rcases List.head?_eq_some_iff.mp hHead with ⟨rest, hDecimal⟩
  by_cases hNone : rest = []
  · rw [hDecimal, hNone]
  · -- Without the zero there would be too few digits for `n`.
    have hDigits := digits_decimal n
    rw [hDecimal] at hDigits
    have hRest : Digits rest n :=
      ⟨hNone, (List.forall_mem_cons.mp hDigits.isDigit).2,
        hDigits.value⟩
    have hShort : (decimal n).length ≤ rest.length :=
      (Nat.length_toDigits_le_iff (by decide)
        (List.length_pos_iff.mpr hNone)).mpr hRest.lt
    rw [hDecimal, List.length_cons] at hShort
    omega

/- A number with few digits is padded to the width. -/
theorem length_padLeft
    {width n : Nat}
    (hWidth : 0 < width)
    (hFits : n < 10 ^ width) :
    (padLeft width (decimal n)).length = width := by
  have hLength : (decimal n).length ≤ width :=
    (Nat.length_toDigits_le_iff (by decide) hWidth).mpr hFits
  unfold padLeft
  rw [List.length_append, List.length_replicate]
  omega

end LedgerView.Text
