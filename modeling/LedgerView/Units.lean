import LedgerView.Text.Blank
import LedgerView.Text.Decimal

/-
  Amounts in decimal units.

  An amount counts the smallest parts of a unit; a unit has
  ten to the number of decimals of them.  The text divides
  exactly: no trailing zero stands after the point, and an
  amount too finely divided for 64 bits is shown in parts.

  Key definitions include:
    * `formatUnits`
    * `formatTinybars`
-/

namespace LedgerView

/-
  The parts of one unit, when their number fits 64 bits: the
  19th power of ten is the last that does.
-/
def unitScale?
    (decimals : UInt32) : Option Nat :=
  if decimals.toNat < 20 then
    some (10 ^ decimals.toNat)
  else
    none

/- The text of an amount of parts. -/
def formatUnitsChars
    (amount : UInt64)
    (decimals : UInt32) : List Char :=
  let n := amount.toNat
  match unitScale? decimals with
  | none => Text.decimal n
  | some scale =>
      let whole := Text.decimal (n / scale)
      let rest := n % scale
      if rest = 0 then
        whole
      else
        whole ++ ['.'] ++
          Text.dropLastWhile (· == '0')
            (Text.padLeft decimals.toNat (Text.decimal rest))

/- The text of an amount of parts, as a string. -/
def formatUnits
    (amount : UInt64)
    (decimals : UInt32) : String :=
  String.ofList (formatUnitsChars amount decimals)

/- An amount of tinybars, eight decimals of the hbar. -/
def formatTinybars
    (amount : UInt64) : String :=
  formatUnits amount 8 ++ " ℏ"

end LedgerView
