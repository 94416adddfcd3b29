import LedgerView.Text.Blank
import LedgerView.Text.Decimal
import LedgerView.Url.Percent

/-
  Numeric addresses of hosts.

  An IPv4 address has up to four numbers, decimal, octal or
  hexadecimal, of which the last fills the remaining bytes.  An
  IPv6 address has eight groups; one run of zero groups may be
  left out, and the last two may be written as IPv4 bytes.  In
  canonical form the longest run of zeros is left out.

  Key definitions include:
    * `Ipv4.number?`
    * `Ipv4.endsInNumber`
    * `Ipv4.parse?`
    * `Ipv4.render`
    * `Ipv6.parse?`
    * `Ipv6.render`
-/

namespace LedgerView

------------------------------------------------------------
-- Numbers
------------------------------------------------------------

namespace Ipv4

/- The value of digits in a base up to 16. -/
def inBase?
    (base : Nat)
    (s : List Char) : Option Nat :=
  s.foldlM
    (fun acc c => do
      let d ← Text.hexValue? c
      if d < base then some (acc * base + d) else none)
    0

/- A number: decimal, octal after 0, hexadecimal after 0x. -/
def number?
    (s : List Char) : Option Nat :=
  match s with
  | [] => none
  | '0' :: 'x' :: rest => inBase? 16 rest
  | '0' :: 'X' :: rest => inBase? 16 rest
  | '0' :: d :: rest => inBase? 8 (d :: rest)
  | _ => inBase? 10 s

/- The parts between dots; a dot at the end does not count. -/
def parts
    (s : List Char) : List (List Char) :=
  let all := Text.splitAll (· == '.') s
  if all.length > 1 && all.getLast? == some [] then
    all.dropLast
  else
    all

/- Whether a host can only be meant as an address. -/
def endsInNumber
    (s : List Char) : Bool :=
  match (parts s).getLast? with
  | none => false
  | some last =>
      (!last.isEmpty && last.all Text.isDigit) ||
        (number? last).isSome

/- Read an address. -/
def parse?
    (s : List Char) : Option Nat := do
  let texts := parts s
  if texts.length > 4 then none
  let numbers ← texts.mapM number?
  let last ← numbers.getLast?
  let front := numbers.dropLast
  if front.any (255 < ·) || 256 ^ (4 - front.length) ≤ last then
    none
  else
    let place := fun (n i : Nat) => n * 256 ^ (3 - i)
    some ((List.zipWith place front (List.range 4)).foldl (· + ·)
      last)

/- Four decimal numbers with dots between them. -/
def render
    (n : Nat) : List Char :=
  Text.decimal (n / 2 ^ 24 % 256) ++ ['.'] ++
    Text.decimal (n / 2 ^ 16 % 256) ++ ['.'] ++
    Text.decimal (n / 2 ^ 8 % 256) ++ ['.'] ++
    Text.decimal (n % 256)

end Ipv4

------------------------------------------------------------
-- Groups
------------------------------------------------------------

namespace Ipv6

/- One byte in decimal, without leading zeros. -/
def byte?
    (s : List Char) : Option Nat :=
  if s.length > 1 && s.head? == some '0' then none
  else (Text.digits? s).filter (· < 256)

/- Two groups written as four bytes. -/
def bytes?
    (s : List Char) : Option (List Nat) := do
  match ← (Text.splitAll (· == '.') s).mapM byte? with
  | [a, b, c, d] => some [a * 256 + b, c * 256 + d]
  | _ => none

/- One group: one to four hexadecimal digits. -/
def group?
    (s : List Char) : Option Nat :=
  if s.isEmpty || s.length > 4 then none else Ipv4.inBase? 16 s

/- Groups with colons between them; bytes may stand last. -/
def groups? :
    List (List Char) → Option (List Nat)
  | [] => some []
  | [last] =>
      if last.contains '.' then bytes? last
      else (group? last).map ([·])
  | part :: rest => do
      return (← group? part) :: (← groups? rest)

/- Groups of a text, which may be empty. -/
def side?
    (s : List Char) : Option (List Nat) :=
  if s.isEmpty then some [] else groups? (Text.splitAll (· == ':') s)

/- Split at the first double colon. -/
def splitGap :
    List Char → List Char × Option (List Char)
  | ':' :: ':' :: rest => ([], some rest)
  | c :: rest =>
      let (before, after) := splitGap rest
      (c :: before, after)
  | [] => ([], none)

/- Read an address. -/
def parse?
    (s : List Char) : Option (List Nat) := do
  match splitGap s with
  | (all, none) =>
      let groups ← side? all
      if groups.length == 8 then some groups else none
  | (before, some after) =>
      if before.contains '.' then none
      let front ← side? before
      let back ← side? after
      let known := front.length + back.length
      if known ≤ 7 then
        some (front ++ List.replicate (8 - known) 0 ++ back)
      else
        none

/- The length of the run of zeros that a list begins with. -/
def zeroRun
    (groups : List Nat) : Nat :=
  (groups.takeWhile (· == 0)).length

/- Where the longest run of zeros is, if it has two or more. -/
def longestZeros
    (groups : List Nat) : Option (Nat × Nat) :=
  let runs :=
    (List.range groups.length).map fun i =>
      (i, zeroRun (groups.drop i))
  let best :=
    runs.foldl (fun b r => if b.2 < r.2 then r else b) (0, 0)
  if best.2 ≥ 2 then some best else none

/- Groups with colons between them. -/
def join
    (groups : List Nat) : List Char :=
  ((groups.map (Nat.toDigits 16)).intersperse [':']).flatten

/- The canonical text of an address. -/
def render
    (groups : List Nat) : List Char :=
  match longestZeros groups with
  | none => join groups
  | some (start, length) =>
      join (groups.take start) ++ [':', ':'] ++
        join (groups.drop (start + length))

end Ipv6

end LedgerView
