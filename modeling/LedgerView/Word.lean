/-
  Counts that fit a machine word.

  Counts are 64-bit words; a sum or product that does not fit
  stops at the greatest word.

  Key definitions include:
    * `maxWord`
    * `saturate`
    * `divUp`
-/

namespace LedgerView

-- A power of numbers means the same whether or not the powers of
-- a monoid are in scope.
attribute [instance (high + 1), default_instance (high + 1)] instPowNat

/- The greatest 64-bit word. -/
def maxWord : Nat := 2 ^ 64 - 1

/- A count, or the greatest word if it does not fit. -/
def saturate
    (n : Nat) : Nat :=
  min n maxWord

/- At least one is more than none. -/
theorem max_one_pos
    (n : Nat) :
    0 < max n 1 :=
  Nat.le_max_right n 1

/- Division rounded up. -/
def divUp
    (n d : Nat) : Nat :=
  (n + d - 1) / d

end LedgerView
