import LedgerView.Text.Case
import LedgerView.Text.Quoted
import LedgerView.Url.Address
import LedgerView.Url.Error
import LedgerView.Url.Punycode

/-
  Hosts of URLs.

  In the common schemes a host is a domain name or an address:
  percent escapes are undone, letters become small and narrow,
  labels outside ASCII are written in Punycode, and a name that
  ends in a number has to be an address.  In other schemes a
  host is any text free of a few marks.

  Key definitions include:
    * `Host.parseOpaque`
    * `Host.parseDomain`
-/

namespace LedgerView.Host

------------------------------------------------------------
-- Characters
------------------------------------------------------------

/- Marks that no host may hold. -/
def isForbidden
    (c : Char) : Bool :=
  c == '\x00' || c == '\t' || c == '\n' || c == '\r' ||
    c == ' ' || c == '#' || c == '/' || c == ':' || c == '<' ||
    c == '>' || c == '?' || c == '@' || c == '[' ||
    c == '\\' || c == ']' || c == '^' || c == '|'

/- What no domain name may hold. -/
def isForbiddenInDomain
    (c : Char) : Bool :=
  isForbidden c || c == '%' || Percent.isControl c ||
    (c.toNat ≥ 0x80 &&
      (c == Text.replacement || Text.memToggled Text.unprintable c))

------------------------------------------------------------
-- Addresses in Brackets
------------------------------------------------------------

/- An address between brackets, or `none` without a bracket. -/
def bracketed?
    (s : List Char) : Option (Except UrlError (List Char)) :=
  match s with
  | '[' :: rest =>
      if rest.getLast? == some ']' then
        match Ipv6.parse? rest.dropLast with
        | some groups =>
            some (.ok (['['] ++ Ipv6.render groups ++ [']']))
        | none => some (.error .ipv6)
      else
        some (.error .ipv6)
  | _ => none

------------------------------------------------------------
-- Hosts
------------------------------------------------------------

/- The host of an uncommon scheme. -/
def parseOpaque
    (s : List Char) : Except UrlError (List Char) :=
  match bracketed? s with
  | some result => result
  | none =>
      if s.any isForbidden then .error .domainCharacter
      else .ok (Percent.encode Percent.isControl s)

/- A wide form of an ASCII character stands for that one. -/
def narrow
    (c : Char) : Char :=
  if 0xFF01 ≤ c.toNat && c.toNat ≤ 0xFF5E then
    Char.ofNat (c.toNat - 0xFEE0)
  else if c.toNat == 0x3002 || c.toNat == 0xFF61 then
    '.'
  else
    c

/- Whether a character of a domain name is skipped. -/
def isSkipped
    (c : Char) : Bool :=
  let n := c.toNat
  n == 0xAD || n == 0x34F || n == 0x200B || n == 0x2060 ||
    n == 0x2064 || n == 0xFEFF ||
    (0x180B ≤ n && n ≤ 0x180F && n != 0x180E) ||
    (0xFE00 ≤ n && n ≤ 0xFE0F) ||
    (0xE0100 ≤ n && n ≤ 0xE01EF)

/- Whether a label starts with a mark that needs a bearer. -/
def startsWithMark
    (s : List Char) : Bool :=
  s.head?.any (Text.memToggled Text.extenders)

/- Whether what a label in Punycode stands for can be meant. -/
def isSettled
    (s : List Char) : Bool :=
  s.any (·.toNat ≥ 0x80) && !startsWithMark s &&
    s.all fun c =>
      !isForbiddenInDomain c && Text.lowerChar (narrow c) == [c]

/- A label of a domain name in ASCII. -/
def label?
    (s : List Char) : Option (List Char) :=
  let ace := ['x', 'n', '-', '-']
  if ace.isPrefixOf s then
    match Punycode.decode? (s.drop ace.length) with
    | some label =>
        if isSettled label && ace ++ Punycode.encode label == s then
          some s
        else
          none
    | none => none
  else if s.all (·.toNat < 0x80) then
    some s
  else if startsWithMark s then
    none
  else
    some (ace ++ Punycode.encode s)

/- A domain name in ASCII. -/
def domain?
    (s : List Char) : Option (List Char) := do
  let seen := s.filter fun c => !isSkipped c
  let lower := seen.flatMap fun c => Text.lowerChar (narrow c)
  if lower.any isForbiddenInDomain then none
  let labels ← (Text.splitAll (· == '.') lower).mapM label?
  return (labels.intersperse ['.']).flatten

/- The host of a common scheme. -/
def parseDomain
    (s : List Char) : Except UrlError (List Char) :=
  match bracketed? s with
  | some result => result
  | none =>
      match domain? (Text.utf8Decode (Percent.decode s)) with
      | none => .error .domainName
      | some [] => .error .emptyHost
      | some name =>
          if Ipv4.endsInNumber name then
            match Ipv4.parse? name with
            | some n => .ok (Ipv4.render n)
            | none => .error .ipv4
          else
            .ok name

end LedgerView.Host
