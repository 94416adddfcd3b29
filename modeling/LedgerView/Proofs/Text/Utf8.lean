import Mathlib.Tactic.SplitIfs
import LedgerView.Text.Utf8

/-
  UTF-8 is read as it was written.

  The first byte of a character tells how many bytes follow and
  where the next one has to lie.  For the bytes of a character
  it always lies there, so no replacement character is ever
  read.  Whatever bytes are read, one of ASCII is never lost: it
  never lies where a character goes on.

  Key definitions include:
    * `Text.Utf8State.AboveAscii`

  Key theorems include:
    * `Text.utf8Decode_utf8Encode`
    * `Text.mem_utf8DecodeFrom`
-/

namespace LedgerView.Text

------------------------------------------------------------
-- Bytes
------------------------------------------------------------

/- A small number is kept by a byte. -/
theorem toNat_byte
    {n : Nat}
    (hByte : n < 256) :
    (UInt8.ofNat n).toNat = n :=
  UInt8.toNat_ofNat_of_lt' hByte

/- A scalar value lies below or above the surrogates. -/
theorem scalar_cases
    (c : Char) :
    c.toNat < 0xD800 ∨
      (0xE000 ≤ c.toNat ∧ c.toNat < 0x110000) := by
  rcases c.valid with hLow | ⟨hAbove, hBelow⟩
  · exact Or.inl hLow
  · exact Or.inr ⟨hAbove, hBelow⟩

namespace Utf8State

/- A byte that continues a character, one of several. -/
theorem step_more
    {missing value low high n : Nat}
    (hByte : n < 256)
    (hLow : low ≤ n)
    (hHigh : n ≤ high)
    (hMissing : 1 < missing) :
    step (inside missing value low high) (UInt8.ofNat n) =
      ([], inside (missing - 1) (value * 0x40 + (n - 0x80))
        0x80 0xBF) := by
  unfold step
  dsimp only
  rw [toNat_byte hByte, if_pos (by simp [hLow, hHigh]),
    if_neg (by omega)]

/- The last byte of a character. -/
theorem step_last
    {value low high n : Nat}
    (hByte : n < 256)
    (hLow : low ≤ n)
    (hHigh : n ≤ high) :
    step (inside 1 value low high) (UInt8.ofNat n) =
      ([Char.ofNat (value * 0x40 + (n - 0x80))], start) := by
  unfold step
  dsimp only
  rw [toNat_byte hByte, if_pos (by simp [hLow, hHigh]),
    if_pos (Nat.le_refl 1)]

/- The first byte of two. -/
theorem lead_two
    {n : Nat}
    (hFrom : 0x80 ≤ n)
    (hTo : n < 0x800) :
    lead (UInt8.ofNat (0xC0 + n / 0x40)) =
      ([], inside 1 (n / 0x40) 0x80 0xBF) := by
  unfold lead
  dsimp only
  rw [toNat_byte (by omega), if_neg (by omega), if_neg (by omega),
    if_pos (by omega), Nat.add_sub_cancel_left]

/- The first byte of three, and where the second one lies. -/
theorem lead_three
    {n : Nat}
    (hFrom : 0x800 ≤ n)
    (hTo : n < 0x10000)
    (hScalar : n < 0xD800 ∨ 0xE000 ≤ n) :
    ∃ low high,
      lead (UInt8.ofNat (0xE0 + n / 0x1000)) =
        ([], inside 2 (n / 0x1000) low high) ∧
      low ≤ 0x80 + n / 0x40 % 0x40 ∧
      0x80 + n / 0x40 % 0x40 ≤ high := by
  unfold lead
  dsimp only
  rw [toNat_byte (by omega), if_neg (by omega), if_neg (by omega),
    if_neg (by omega)]
  by_cases hFirst : n / 0x1000 = 0
  · refine ⟨0xA0, 0xBF, ?_, by omega, by omega⟩
    rw [hFirst]
    rfl
  · by_cases hLast : n / 0x1000 = 0xD
    · refine ⟨0x80, 0x9F, ?_, by omega, by omega⟩
      rw [hLast]
      rfl
    · refine ⟨0x80, 0xBF, ?_, by omega, by omega⟩
      rw [if_neg (by simpa using hFirst),
        if_neg (by simp only [beq_iff_eq]; omega),
        if_pos (by omega), Nat.add_sub_cancel_left]

/- The first byte of four, and where the second one lies. -/
theorem lead_four
    {n : Nat}
    (hFrom : 0x10000 ≤ n)
    (hTo : n < 0x110000) :
    ∃ low high,
      lead (UInt8.ofNat (0xF0 + n / 0x40000)) =
        ([], inside 3 (n / 0x40000) low high) ∧
      low ≤ 0x80 + n / 0x1000 % 0x40 ∧
      0x80 + n / 0x1000 % 0x40 ≤ high := by
  unfold lead
  dsimp only
  rw [toNat_byte (by omega), if_neg (by omega), if_neg (by omega),
    if_neg (by omega), if_neg (by simp only [beq_iff_eq]; omega),
    if_neg (by simp only [beq_iff_eq]; omega), if_neg (by omega)]
  by_cases hFirst : n / 0x40000 = 0
  · refine ⟨0x90, 0xBF, ?_, by omega, by omega⟩
    rw [hFirst]
    rfl
  · by_cases hLast : n / 0x40000 = 4
    · refine ⟨0x80, 0x8F, ?_, by omega, by omega⟩
      rw [hLast]
      rfl
    · refine ⟨0x80, 0xBF, ?_, by omega, by omega⟩
      rw [if_neg (by simpa using hFirst), if_pos (by omega),
        Nat.add_sub_cancel_left]

end Utf8State

------------------------------------------------------------
-- Characters
------------------------------------------------------------

/- The bytes of a character are read as that character. -/
theorem utf8DecodeFrom_utf8Char
    (c : Char)
    (rest : List UInt8) :
    utf8DecodeFrom .start (utf8Char c ++ rest) =
      c :: utf8DecodeFrom .start rest := by
  have hScalar := scalar_cases c
  have hRead :
      ∀ n, n = c.toNat → Char.ofNat n = c := by
    intro n hSame
    rw [hSame, Char.ofNat_toNat]
  unfold utf8Char
  dsimp only
  by_cases hOne : c.toNat < 0x80
  · rw [if_pos hOne]
    simp only [List.cons_append, List.nil_append, utf8DecodeFrom,
      Utf8State.step, Utf8State.lead, toNat_byte (show
        c.toNat < 256 by omega), if_pos hOne, Char.ofNat_toNat]
  · rw [if_neg hOne]
    by_cases hTwo : c.toNat < 0x800
    · rw [if_pos hTwo]
      simp only [List.cons_append, List.nil_append, utf8DecodeFrom]
      rw [show Utf8State.step .start _ = Utf8State.lead _ from rfl,
        Utf8State.lead_two (by omega) hTwo]
      dsimp only
      rw [Utf8State.step_last (by omega) (by omega) (by omega)]
      dsimp only
      rw [hRead _ (by omega)]
      rfl
    · rw [if_neg hTwo]
      by_cases hThree : c.toNat < 0x10000
      · rw [if_pos hThree]
        rcases Utf8State.lead_three (by omega) hThree (by omega)
          with ⟨low, high, hLead, hLow, hHigh⟩
        simp only [List.cons_append, List.nil_append,
          utf8DecodeFrom]
        rw [show Utf8State.step .start _ = Utf8State.lead _
          from rfl, hLead]
        dsimp only
        rw [Utf8State.step_more (by omega) hLow hHigh (by omega)]
        dsimp only
        rw [Utf8State.step_last (by omega) (by omega) (by omega)]
        dsimp only
        rw [hRead _ (by omega)]
        rfl
      · rw [if_neg hThree]
        rcases Utf8State.lead_four (by omega)
          (show c.toNat < 0x110000 by omega)
          with ⟨low, high, hLead, hLow, hHigh⟩
        simp only [List.cons_append, List.nil_append,
          utf8DecodeFrom]
        rw [show Utf8State.step .start _ = Utf8State.lead _
          from rfl, hLead]
        dsimp only
        rw [Utf8State.step_more (by omega) hLow hHigh (by omega)]
        dsimp only
        rw [Utf8State.step_more (by omega) (by omega) (by omega)
          (by omega)]
        dsimp only
        rw [Utf8State.step_last (by omega) (by omega) (by omega)]
        dsimp only
        rw [hRead _ (by omega)]
        rfl

/- The bytes of a text are read as that text. -/
theorem utf8Decode_utf8Encode
    (s : List Char) :
    utf8Decode (utf8Encode s) = s := by
  unfold utf8Decode utf8Encode
  induction s with
  | nil => rfl
  | cons c rest ih =>
      rw [List.flatMap_cons, utf8DecodeFrom_utf8Char, ih]

------------------------------------------------------------
-- ASCII among Other Bytes
------------------------------------------------------------

/- Inside a character, a byte of ASCII is never the next one. -/
def Utf8State.AboveAscii : Utf8State → Prop
  | .start => True
  | .inside _ _ low _ => 0x80 ≤ low

/- At the start there is no next one. -/
theorem Utf8State.aboveAscii_start :
    AboveAscii .start :=
  trivial

/- The first byte of a character leads to no ASCII. -/
theorem Utf8State.aboveAscii_lead
    (b : UInt8) :
    (lead b).2.AboveAscii := by
  unfold lead
  dsimp only
  split_ifs
  all_goals simp [AboveAscii]

/- Neither does any byte. -/
theorem Utf8State.aboveAscii_step
    (state : Utf8State)
    (b : UInt8) :
    (state.step b).2.AboveAscii := by
  cases state with
  | start => exact aboveAscii_lead b
  | inside missing value low high =>
      unfold step
      dsimp only
      split_ifs
      · exact trivial
      · exact Nat.le_refl _
      · exact aboveAscii_lead b

/- A byte of ASCII is read as its character. -/
theorem Utf8State.mem_step
    {state : Utf8State}
    (hState : state.AboveAscii)
    {b : UInt8}
    (hAscii : b.toNat < 0x80) :
    Char.ofNat b.toNat ∈ (state.step b).1 := by
  have hLead : (lead b).1 = [Char.ofNat b.toNat] := by
    unfold lead
    dsimp only
    rw [if_pos hAscii]
  cases state with
  | start =>
      change _ ∈ (lead b).1
      rw [hLead]
      exact List.mem_singleton_self _
  | inside missing value low high =>
      have hLow : 0x80 ≤ low := hState
      unfold step
      dsimp only
      rw [if_neg (by simp; omega)]
      change _ ∈ replacement :: (lead b).1
      rw [hLead]
      exact List.mem_cons_of_mem _ (List.mem_singleton_self _)

/- Wherever such a byte stands, its character is read. -/
theorem mem_utf8DecodeFrom
    {state : Utf8State}
    (hState : state.AboveAscii)
    {b : UInt8}
    (hAscii : b.toNat < 0x80)
    {bytes : List UInt8}
    (hMem : b ∈ bytes) :
    Char.ofNat b.toNat ∈ utf8DecodeFrom state bytes := by
  induction bytes generalizing state with
  | nil => cases hMem
  | cons first rest ih =>
      change _ ∈ (state.step first).1 ++
        utf8DecodeFrom (state.step first).2 rest
      rcases List.mem_cons.mp hMem with hFirst | hRest
      · rw [← hFirst]
        exact List.mem_append_left _ (Utf8State.mem_step hState hAscii)
      · exact List.mem_append_right _
          (ih (Utf8State.aboveAscii_step state first) hRest)

end LedgerView.Text
