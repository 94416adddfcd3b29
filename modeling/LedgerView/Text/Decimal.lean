import LedgerView.Word

/-
  Whole numbers written in decimal.

  A number is one or more ASCII digits, possibly after a plus
  sign, and has to fit the width that the reader asks for.
  Numbers are written with the fewest digits, or padded with
  zeros on the left to a fixed width.

  Key definitions include:
    * `digitValue?`
    * `digits?`
    * `natural?`
    * `padLeft`
    * `padRight`
-/

namespace LedgerView.Text

------------------------------------------------------------
-- Digits
------------------------------------------------------------

/- The value of an ASCII digit. -/
def digitValue?
    (c : Char) : Option Nat :=
  if '0' ≤ c && c ≤ '9' then
    some (c.toNat - '0'.toNat)
  else
    none

/- Whether a character is an ASCII digit. -/
def isDigit
    (c : Char) : Bool :=
  '0' ≤ c && c ≤ '9'

/- Continue a number whose digits so far have value `acc`. -/
def digitsFrom?
    (acc : Nat) :
    List Char → Option Nat
  | [] => some acc
  | c :: rest =>
      match digitValue? c with
      | some d => digitsFrom? (acc * 10 + d) rest
      | none => none

/- The value of one or more digits. -/
def digits?
    (s : List Char) : Option Nat :=
  match s with
  | [] => none
  | _ => digitsFrom? 0 s

/-
  The value of a number below `bound`: digits, possibly after
  one plus sign.
-/
def natural?
    (bound : Nat)
    (s : List Char) : Option Nat :=
  let value :=
    match s with
    | '+' :: rest => digits? rest
    | _ => digits? s
  value.filter (· < bound)

------------------------------------------------------------
-- Writing
------------------------------------------------------------

/- The decimal digits of a number. -/
def decimal
    (n : Nat) : List Char :=
  Nat.toDigits 10 n

/- Put zeros in front up to a width. -/
def padLeft
    (width : Nat)
    (s : List Char) : List Char :=
  List.replicate (width - s.length) '0' ++ s

/- Put zeros behind up to a width. -/
def padRight
    (width : Nat)
    (s : List Char) : List Char :=
  s ++ List.replicate (width - s.length) '0'

end LedgerView.Text
