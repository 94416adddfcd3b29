/-
  Hexadecimal digits.

  Key definitions include:
    * `hexDigits`
    * `hexValue?`
-/

namespace LedgerView.Text

/- Small hexadecimal digits without leading zeros. -/
def hexDigits
    (n : Nat) : List Char :=
  Nat.toDigits 16 n

/- The value of a hexadecimal digit, small or capital. -/
def hexValue?
    (c : Char) : Option Nat :=
  if '0' ≤ c && c ≤ '9' then some (c.toNat - '0'.toNat)
  else if 'a' ≤ c && c ≤ 'f' then some (c.toNat - 'a'.toNat + 10)
  else if 'A' ≤ c && c ≤ 'F' then some (c.toNat - 'A'.toNat + 10)
  else none

end LedgerView.Text
