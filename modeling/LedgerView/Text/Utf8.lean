/-
  UTF-8.

  Characters are written as one to four bytes.  Reading never
  fails: each longest piece that begins like a character and is
  none yields one replacement character.

  Key definitions include:
    * `utf8Char`
    * `utf8Encode`
    * `Utf8State`
    * `utf8Decode`
-/

namespace LedgerView.Text

------------------------------------------------------------
-- Writing
------------------------------------------------------------

/- The bytes of a character. -/
def utf8Char
    (c : Char) : List UInt8 :=
  let n := c.toNat
  if n < 0x80 then
    [UInt8.ofNat n]
  else if n < 0x800 then
    [UInt8.ofNat (0xC0 + n / 0x40), UInt8.ofNat (0x80 + n % 0x40)]
  else if n < 0x10000 then
    [ UInt8.ofNat (0xE0 + n / 0x1000)
    , UInt8.ofNat (0x80 + n / 0x40 % 0x40)
    , UInt8.ofNat (0x80 + n % 0x40) ]
  else
    [ UInt8.ofNat (0xF0 + n / 0x40000)
    , UInt8.ofNat (0x80 + n / 0x1000 % 0x40)
    , UInt8.ofNat (0x80 + n / 0x40 % 0x40)
    , UInt8.ofNat (0x80 + n % 0x40) ]

/- The bytes of a text. -/
def utf8Encode
    (s : List Char) : List UInt8 :=
  s.flatMap utf8Char

------------------------------------------------------------
-- Reading
------------------------------------------------------------

/- The replacement character. -/
def replacement : Char := '\uFFFD'

/-
  Where reading stands: at the start of a character, or inside
  one that lacks `missing` bytes, the next of which has to lie
  between `low` and `high`.
-/
inductive Utf8State where
  | start
  | inside (missing value low high : Nat)

namespace Utf8State

/- Read the first byte of a character. -/
def lead
    (b : UInt8) : List Char × Utf8State :=
  let n := b.toNat
  if n < 0x80 then ([Char.ofNat n], start)
  else if n < 0xC2 then ([replacement], start)
  else if n < 0xE0 then ([], inside 1 (n - 0xC0) 0x80 0xBF)
  else if n == 0xE0 then ([], inside 2 0 0xA0 0xBF)
  else if n == 0xED then ([], inside 2 0xD 0x80 0x9F)
  else if n < 0xF0 then ([], inside 2 (n - 0xE0) 0x80 0xBF)
  else if n == 0xF0 then ([], inside 3 0 0x90 0xBF)
  else if n < 0xF4 then ([], inside 3 (n - 0xF0) 0x80 0xBF)
  else if n == 0xF4 then ([], inside 3 4 0x80 0x8F)
  else ([replacement], start)

/- Read one byte. -/
def step
    (s : Utf8State)
    (b : UInt8) : List Char × Utf8State :=
  match s with
  | start => lead b
  | inside missing value low high =>
      let n := b.toNat
      if low ≤ n && n ≤ high then
        let value := value * 0x40 + (n - 0x80)
        if missing ≤ 1 then
          ([Char.ofNat value], start)
        else
          ([], inside (missing - 1) value 0x80 0xBF)
      else
        let (chars, next) := lead b
        (replacement :: chars, next)

/- What is left over when the bytes end. -/
def finish : Utf8State → List Char
  | start => []
  | inside _ _ _ _ => [replacement]

end Utf8State

/- Read bytes from a state on. -/
def utf8DecodeFrom
    (s : Utf8State) :
    List UInt8 → List Char
  | [] => s.finish
  | b :: rest =>
      let (chars, next) := s.step b
      chars ++ utf8DecodeFrom next rest

/- The text that bytes stand for. -/
def utf8Decode
    (bytes : List UInt8) : List Char :=
  utf8DecodeFrom .start bytes

end LedgerView.Text
