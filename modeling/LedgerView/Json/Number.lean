import LedgerView.Json.Value
import LedgerView.Text.Decimal

/-
  JSON numbers.

  A number is an optional minus, digits without a leading
  zero, an optional fraction and an optional exponent.  Whole
  numbers of 64 bits are kept.  Any other number is a binary
  floating-point number of double precision, and is refused
  when it is too large for one.

  Key definitions include:
    * `roundDouble`
    * `NumberText`
    * `NumberText.parse?`
    * `Json.ofNumberText?`
-/

namespace LedgerView

------------------------------------------------------------
-- Double Precision
------------------------------------------------------------

/- A whole number rounded to 53 significant bits, ties to even. -/
def roundDouble
    (n : Nat) : Nat :=
  let excess := n.log2 + 1 - 53
  let unit := 2 ^ excess
  let low := n / unit
  let rest := n % unit
  let up :=
    2 * rest > unit || (2 * rest == unit && low % 2 == 1)
  (if up then low + 1 else low) * unit

/-
  Whether a significand times a power of ten is beyond the
  doubles, both factors being rounded first.
-/
def exceedsDouble
    (significand : Nat)
    (exponent : Int) : Bool :=
  match exponent with
  | .negSucc _ => false
  | .ofNat e =>
      if significand == 0 then false
      else if e > 308 then true
      else
        2 ^ 1024 - 2 ^ 970 ≤
          roundDouble significand * roundDouble (10 ^ e)

------------------------------------------------------------
-- Text of a Number
------------------------------------------------------------

/- The parts of a number's text. -/
structure NumberText where
  negative : Bool
  whole : List Char
  fraction : Option (List Char)
  exponent : Option (Bool × List Char)

namespace NumberText

/- The digits at the front, and what follows them. -/
def spanDigits
    (s : List Char) : List Char × List Char :=
  (s.takeWhile Text.isDigit, s.dropWhile Text.isDigit)

/- The optional exponent, which has to end the text. -/
def readExponent?
    (negative : Bool)
    (whole : List Char)
    (fraction : Option (List Char))
    (s : List Char) : Option NumberText :=
  let finish := fun (down : Bool) (digits : List Char) =>
    if !digits.isEmpty && digits.all Text.isDigit then
      some ⟨negative, whole, fraction, some (down, digits)⟩
    else
      none
  match s with
  | [] => some ⟨negative, whole, fraction, none⟩
  | e :: rest =>
      if e == 'e' || e == 'E' then
        match rest with
        | '+' :: digits => finish false digits
        | '-' :: digits => finish true digits
        | digits => finish false digits
      else
        none

/- Read the text of a number, the whole of it. -/
def parse?
    (s : List Char) : Option NumberText :=
  let (negative, s) :=
    match s with
    | '-' :: rest => (true, rest)
    | _ => (false, s)
  let (whole, s) := spanDigits s
  if whole.isEmpty || (whole.length > 1 && whole.head? == some '0')
  then
    none
  else
    match s with
    | '.' :: rest =>
        let (fraction, rest) := spanDigits rest
        if fraction.isEmpty then
          none
        else
          readExponent? negative whole (some fraction) rest
    | _ => readExponent? negative whole none s

/-
  Take digits into a 64-bit significand until one does not fit.
  Yields the significand and the number of digits taken.
-/
def takeSignificant
    (significand taken : Nat) :
    List Char → Nat × Nat
  | [] => (significand, taken)
  | c :: rest =>
      let next :=
        significand * 10 + (Text.digitValue? c).getD 0
      if next < 2 ^ 64 then
        takeSignificant next (taken + 1) rest
      else
        (significand, taken)

/- Whether the number is too large for a double. -/
def overflows
    (t : NumberText) : Bool :=
  let (significand, taken) := takeSignificant 0 0 t.whole
  let dropped := t.whole.length - taken
  let (significand, places) :=
    takeSignificant significand 0 (t.fraction.getD [])
  let start : Int := (dropped : Int) - places
  match t.exponent with
  | none => exceedsDouble significand start
  | some (down, digits) =>
      let size := (Text.digits? digits).getD 0
      if size ≥ 2 ^ 31 then !down && significand != 0
      else if down then exceedsDouble significand (start - size)
      else exceedsDouble significand (start + size)

end NumberText

------------------------------------------------------------
-- Value of a Number
------------------------------------------------------------

namespace Json

/-
  The value of a number's text.  Minus zero is not a whole
  number: it is the double of that sign.
-/
def ofNumberText?
    (t : NumberText) : Option Json :=
  let size := (Text.digits? t.whole).getD 0
  let plain := t.fraction.isNone && t.exponent.isNone
  if plain && !t.negative && size < 2 ^ 64 then
    some (.integer size)
  else if plain && t.negative && 0 < size && size ≤ 2 ^ 63 then
    some (.integer (-(size : Int)))
  else if t.overflows then
    none
  else
    some .real

end Json

end LedgerView
