import LedgerView.Key.Error
import LedgerView.Text.Blank
import LedgerView.Text.Decimal

/-
  Consensus timestamps.

  A timestamp counts seconds since the epoch and nanoseconds
  within the second.  It is written as seconds, a dot and nine
  digits; on reading, the fraction may be shorter or missing.
  Timestamps are ordered in time.

  Key definitions include:
    * `Timestamp`
    * `Timestamp.compare`
    * `Timestamp.toString`
    * `Timestamp.parse`
-/

namespace LedgerView

/- A moment, as the ledger stamps it. -/
structure Timestamp where
  seconds : UInt64
  nanos : UInt32
deriving Repr, DecidableEq, Inhabited

namespace Timestamp

------------------------------------------------------------
-- Order
------------------------------------------------------------

/- Seconds decide first, then nanoseconds. -/
def compare
    (a b : Timestamp) : Ordering :=
  (Ord.compare a.seconds b.seconds).then
    (Ord.compare a.nanos b.nanos)

instance : Ord Timestamp :=
  ⟨Timestamp.compare⟩

------------------------------------------------------------
-- Writing
------------------------------------------------------------

/- Seconds, a dot, and the nanoseconds in nine digits. -/
def toChars
    (t : Timestamp) : List Char :=
  Text.decimal t.seconds.toNat ++ ['.'] ++
    Text.padLeft 9 (Text.decimal t.nanos.toNat)

/- The canonical text of a timestamp. -/
protected def toString
    (t : Timestamp) : String :=
  String.ofList t.toChars

instance : ToString Timestamp :=
  ⟨Timestamp.toString⟩

------------------------------------------------------------
-- Reading
------------------------------------------------------------

/- The nanoseconds that up to nine fraction digits stand for. -/
def readFraction?
    (s : List Char) : Option UInt32 :=
  if s.length ≤ 9 then
    (Text.digits? (Text.padRight 9 s)).map UInt32.ofNat
  else
    none

/- The seconds: one or more digits, no sign. -/
def readSeconds?
    (s : List Char) : Option UInt64 :=
  ((Text.digits? s).filter (· < 2 ^ 64)).map UInt64.ofNat

/- Read a trimmed text. -/
def readChars?
    (s : List Char) : Option Timestamp :=
  let (whole, fraction) := Text.splitFirst (· == '.') s
  match readSeconds? whole, readFraction? (fraction.getD []) with
  | some seconds, some nanos => some ⟨seconds, nanos⟩
  | _, _ => none

/- Read a timestamp; blanks around it do not count. -/
def parse
    (text : String) : Except KeyError Timestamp :=
  match readChars? (Text.trimChars text.toList) with
  | some t => .ok t
  | none => .error (.timestamp text)

end Timestamp

end LedgerView
