import LedgerView.Word

/-
  Punycode, the ASCII form of a label outside ASCII.

  The ASCII characters of the label stand first.  The others
  follow in ascending order, each as the distance from the one
  before, in digits of base 36 whose thresholds adapt to the
  distances seen.

  Key definitions include:
    * `Punycode.encode`
    * `Punycode.decode?`
-/

namespace LedgerView.Punycode

------------------------------------------------------------
-- Digits and Thresholds
------------------------------------------------------------

/- The character of a digit. -/
def digit
    (d : Nat) : Char :=
  if d < 26 then Char.ofNat (0x61 + d) else Char.ofNat (0x16 + d)

/- The value of a digit, in small letters. -/
def digitValue?
    (c : Char) : Option Nat :=
  if 'a' ≤ c && c ≤ 'z' then some (c.toNat - 0x61)
  else if '0' ≤ c && c ≤ '9' then some (c.toNat - 0x30 + 26)
  else none

/- The threshold of the digit at position `k`. -/
def threshold
    (k bias : Nat) : Nat :=
  max 1 (min 26 (k - bias))

/- Divide a distance until it is small, counting the steps. -/
def settle
    (delta k : Nat) : Nat × Nat :=
  if 455 < delta then settle (delta / 35) (k + 36) else (delta, k)
termination_by delta

/- The bias after a distance. -/
def adapt
    (delta points : Nat)
    (first : Bool) : Nat :=
  let delta := if first then delta / 700 else delta / 2
  let (delta, k) := settle (delta + delta / points) 0
  k + 36 * delta / (delta + 38)

------------------------------------------------------------
-- Writing
------------------------------------------------------------

/- The digits of a distance. -/
def digits
    (q k bias : Nat) : List Char :=
  let t := threshold k bias
  if t ≤ q then
    digit (t + (q - t) % (36 - t)) ::
      digits ((q - t) / (36 - t)) (k + 36) bias
  else
    [digit q]
termination_by q
decreasing_by
  have h : 1 ≤ threshold k bias := by
    simp only [threshold]
    omega
  have hLe := Nat.div_le_self
    (q - threshold k bias) (36 - threshold k bias)
  omega

/- The state of the encoder. -/
structure Encoder where
  delta : Nat
  bias : Nat
  handled : Nat
  first : Bool
  out : List Char

/- Go past one character while `n` is the one to be written. -/
def Encoder.visit
    (n : Nat)
    (e : Encoder)
    (c : Nat) : Encoder :=
  if c < n then
    { e with delta := e.delta + 1 }
  else if c == n then
    { delta := 0
      bias := adapt e.delta (e.handled + 1) e.first
      handled := e.handled + 1
      first := false
      out := e.out ++ digits e.delta 36 e.bias }
  else
    e

/- Write one distinct character, wherever it stands. -/
def Encoder.insert
    (label : List Nat)
    (state : Nat × Encoder)
    (m : Nat) : Nat × Encoder :=
  let (n, e) := state
  let e := { e with delta := e.delta + (m - n) * (e.handled + 1) }
  let e := label.foldl (Encoder.visit m) e
  (m + 1, { e with delta := e.delta + 1 })

/- The Punycode of a label. -/
def encode
    (label : List Char) : List Char :=
  let codes := label.map Char.toNat
  let basic := label.filter (·.toNat < 0x80)
  let extended :=
    (codes.filter (0x80 ≤ ·)).mergeSort.eraseDups
  let start : Encoder :=
    { delta := 0
      bias := 72
      handled := basic.length
      first := true
      out := if basic.isEmpty then [] else basic ++ ['-'] }
  (extended.foldl (Encoder.insert codes) (0x80, start)).2.out

------------------------------------------------------------
-- Reading
------------------------------------------------------------

/- The state of the decoder, between and inside distances. -/
structure Decoder where
  n : Nat := 0x80
  i : Nat := 0
  bias : Nat := 72
  out : List Nat
  /- Place, weight and position inside a distance. -/
  place : Nat := 0
  weight : Nat := 1
  k : Nat := 36
  inside : Bool := false

/- Take one digit. -/
def Decoder.take?
    (d : Decoder)
    (c : Char) : Option Decoder := do
  let value ← digitValue? c
  let place := d.place + value * d.weight
  let t := threshold d.k d.bias
  if place ≥ 2 ^ 32 then
    none
  else if value < t then
    let points := d.out.length + 1
    let whole := d.i + place
    let n := d.n + whole / points
    let i := whole % points
    if n ≤ 0x10FFFF then
      some
        { n := n
          i := i + 1
          bias := adapt place points (d.out.length == 0 || d.i == 0 && d.n == 0x80)
          out := d.out.take i ++ [n] ++ d.out.drop i }
    else
      none
  else
    some
      { d with
        place := place
        weight := d.weight * (36 - t)
        k := d.k + 36
        inside := true }

/- The label whose Punycode is given. -/
def decode?
    (text : List Char) : Option (List Char) := do
  let after := (text.reverse.takeWhile (· != '-')).reverse
  let basic :=
    if after.length == text.length then []
    else text.take (text.length - after.length - 1)
  let start : Decoder := { out := basic.map Char.toNat }
  let last ← after.foldlM Decoder.take? start
  if last.inside then none else some (last.out.map Char.ofNat)

end LedgerView.Punycode
