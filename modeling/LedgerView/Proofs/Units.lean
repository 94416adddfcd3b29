import LedgerView.Proofs.Text.Fraction
import LedgerView.Row.Decode

/-
  Amounts are shown exactly.

  The text of an amount, read as a fraction, is the amount in
  units, as long as the parts of one unit fit a word; a unit
  with more parts is not divided, and the text is the number of
  parts.  Either way nothing of the text can be left out, and
  no two amounts share it.

  Key definitions include:
    * `shownUnits`

  Key theorems include:
    * `unitScale?_eq`
    * `numeral_formatUnits`
    * `shownUnits_eq_div_iff`
    * `formatTinybars_exact`
    * `formatUnits_exact_iff`
-/

namespace LedgerView

------------------------------------------------------------
-- The Parts of a Unit
------------------------------------------------------------

/- The 19th power of ten is the last that fits a word. -/
theorem pow_ten_lt_word_iff
    (n : Nat) :
    10 ^ n < 2 ^ 64 ↔ n < 20 := by
  constructor
  · intro hFits
    by_contra hMany
    have hPow : 10 ^ 20 ≤ 10 ^ n :=
      Nat.pow_le_pow_right (by decide) (Nat.le_of_not_lt hMany)
    exact absurd (Nat.lt_of_le_of_lt hPow hFits) (by decide)
  · intro hFew
    have hPow : 10 ^ n ≤ 10 ^ 19 :=
      Nat.pow_le_pow_right (by decide) (Nat.le_of_lt_succ hFew)
    exact Nat.lt_of_le_of_lt hPow (by decide)

/- A unit is divided if its parts fit a word. -/
theorem unitScale?_eq
    (decimals : UInt32) :
    unitScale? decimals =
      if 10 ^ decimals.toNat < 2 ^ 64 then
        some (10 ^ decimals.toNat)
      else
        none := by
  unfold unitScale?
  simp only [pow_ten_lt_word_iff]

------------------------------------------------------------
-- The Text of an Amount
------------------------------------------------------------

/-
  The number that the text of an amount stands for: that of its
  units, or of its parts if a unit is not divided.
-/
def shownUnits
    (amount : UInt64)
    (decimals : UInt32) : ℚ :=
  if 10 ^ decimals.toNat < 2 ^ 64 then
    (amount.toNat : ℚ) / 10 ^ decimals.toNat
  else
    amount.toNat

/- The text of an amount is the fraction that it stands for. -/
theorem numeral_formatUnits
    (amount : UInt64)
    (decimals : UInt32) :
    Text.Numeral (formatUnits amount decimals).toList
      (shownUnits amount decimals) := by
  unfold formatUnits formatUnitsChars shownUnits
  rw [String.toList_ofList, unitScale?_eq]
  dsimp only
  split_ifs with hFits
  · dsimp only
    split_ifs with hRest
    · exact Text.numeral_div_of_mod_eq_zero hRest
    · rw [List.append_assoc]
      exact Text.numeral_div_of_mod_ne_zero hRest
  · exact .whole amount.toNat

example : formatUnits 1050 4 = "0.105" := by
  decide

/- Amounts of one unit that stand for one number are equal. -/
theorem shownUnits_injective
    (decimals : UInt32) :
    Function.Injective fun amount => shownUnits amount decimals := by
  intro amount other hSame
  have hScale : (10 : ℚ) ^ decimals.toNat ≠ 0 :=
    pow_ne_zero decimals.toNat (by decide)
  unfold shownUnits at hSame
  dsimp only at hSame
  refine UInt64.toNat_inj.mp ?_
  split_ifs at hSame
  · exact_mod_cast (div_left_inj' hScale).mp hSame
  · exact_mod_cast hSame

/- What is shown is the quotient, unless it is not divided. -/
theorem shownUnits_eq_div_iff
    (amount : UInt64)
    (decimals : UInt32) :
    shownUnits amount decimals =
        (amount.toNat : ℚ) / 10 ^ decimals.toNat ↔
      10 ^ decimals.toNat < 2 ^ 64 ∨ amount = 0 := by
  have hScale : (10 : ℚ) ^ decimals.toNat ≠ 0 :=
    pow_ne_zero decimals.toNat (by decide)
  unfold shownUnits
  split_ifs with hFits
  · exact iff_of_true rfl (.inl hFits)
  · rw [or_iff_right hFits, eq_div_iff hScale]
    constructor
    · intro hSame
      have hParts :
          amount.toNat * 10 ^ decimals.toNat = amount.toNat := by
        exact_mod_cast hSame
      by_contra hSome
      have hOne : 10 ^ decimals.toNat = 1 :=
        (Nat.mul_eq_left fun hZero =>
          hSome (UInt64.toNat_inj.mp hZero)).mp hParts
      rw [hOne] at hFits
      exact hFits (by decide)
    · intro hZero
      rw [hZero]
      exact zero_mul _

/- Tinybars are always divided. -/
theorem formatTinybars_exact
    (amount : UInt64) :
    ∃ text,
      formatTinybars amount = text ++ " ℏ" ∧
        Text.Tidy text.toList ∧
          Text.fraction? text.toList =
            some ((amount.toNat : ℚ) / 10 ^ 8) := by
  have hNumeral := numeral_formatUnits amount 8
  have hUnits :
      shownUnits amount 8 = (amount.toNat : ℚ) / 10 ^ 8 :=
    (shownUnits_eq_div_iff amount 8).mpr (.inl (by decide))
  rw [hUnits] at hNumeral
  exact
    ⟨formatUnits amount 8, rfl, hNumeral.tidy,
      hNumeral.fraction?_eq⟩

/-
  Nothing of the text of an amount can be left out, it is read
  as the amount in units exactly if the parts of a unit fit a
  word, as the parts otherwise, and no two amounts share it.
-/
theorem formatUnits_exact_iff
    (decimals : UInt32) :
    (∀ amount : UInt64,
        Text.Tidy (formatUnits amount decimals).toList ∧
          Text.fraction? (formatUnits amount decimals).toList =
            some (shownUnits amount decimals) ∧
          (shownUnits amount decimals =
              (amount.toNat : ℚ) / 10 ^ decimals.toNat ↔
            10 ^ decimals.toNat < 2 ^ 64 ∨ amount = 0)) ∧
      Function.Injective fun amount =>
        formatUnits amount decimals := by
  constructor
  · intro amount
    have hNumeral := numeral_formatUnits amount decimals
    exact
      ⟨hNumeral.tidy, hNumeral.fraction?_eq,
        shownUnits_eq_div_iff amount decimals⟩
  · intro amount other hSame
    have hNumber :
        some (shownUnits amount decimals) =
          some (shownUnits other decimals) :=
      calc
        some (shownUnits amount decimals)
        _ = Text.fraction? (formatUnits amount decimals).toList :=
            (numeral_formatUnits amount decimals).fraction?_eq.symm
        _ = Text.fraction? (formatUnits other decimals).toList :=
            congrArg (fun text => Text.fraction? text.toList) hSame
        _ = some (shownUnits other decimals) :=
            (numeral_formatUnits other decimals).fraction?_eq
    exact shownUnits_injective decimals (Option.some.inj hNumber)

/-
  One part of a unit that has ten to the 20th of them is shown
  as one unit.
-/
theorem finest_part_shown_as_unit :
    let holder : Holder := ⟨⟨0, 0, 98⟩, 1, 20⟩
    Row.decode .holders
          (.object
            [("account", .string "0.0.98"),
              ("balance", .integer 1),
              ("decimals", .integer 20)]) =
        .ok (.holder holder) ∧
      (Row.holder holder).cells = ["0.0.98", "1"] ∧
      Text.fraction?
          (formatUnits holder.balance holder.decimals).toList ≠
        some (1 / 10 ^ 20) := by
  decide +kernel

end LedgerView
