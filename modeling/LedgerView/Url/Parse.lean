import LedgerView.Url.Basic
import LedgerView.Url.Host

/-
  Reading URLs.

  Controls and spaces around the text and line marks inside it
  do not count.  After the scheme follow the authority, the
  path up to a question mark or a number sign, the query and
  the fragment.  Dot segments of a path are resolved; of a
  path, a double dot never drops a drive letter.

  Key definitions include:
    * `Url.readScheme?`
    * `Url.readUserinfo`
    * `Url.readService`
    * `Url.readSegments`
    * `Url.parse`
-/

namespace LedgerView.Url

------------------------------------------------------------
-- Scheme
------------------------------------------------------------

/- Whether a character may continue a scheme. -/
def isSchemeChar
    (c : Char) : Bool :=
  c.isAlphanum || c == '+' || c == '-' || c == '.'

/- The scheme in small letters, and what follows its colon. -/
def readScheme?
    (s : List Char) : Option (String × List Char) :=
  match s.head?, Text.splitFirst (· == ':') s with
  | some first, (scheme, some rest) =>
      if first.isAlpha && scheme.all isSchemeChar then
        some (String.ofList (scheme.map Char.toLower), rest)
      else
        none
  | _, _ => none

------------------------------------------------------------
-- Authority
------------------------------------------------------------

/- Whether a character ends an authority. -/
def endsAuthority
    (special : Bool)
    (c : Char) : Bool :=
  c == '/' || c == '?' || c == '#' || (special && c == '\\')

/- What stands before the last at sign, and what after it. -/
def splitLastAt
    (s : List Char) : Option (List Char × List Char) :=
  let after := (s.reverse.takeWhile (· != '@')).reverse
  if after.length == s.length then none
  else some (s.take (s.length - after.length - 1), after)

/-
  The user name and the password in an authority, and the text
  after them.  A lone at sign needs something after it.
-/
def readUserinfo
    (special : Bool)
    (s : List Char) :
    Except UrlError (List Char × List Char × List Char) :=
  let here := s.takeWhile (!endsAuthority special ·)
  let rest := s.dropWhile (!endsAuthority special ·)
  match splitLastAt here with
  | none => .ok ([], [], s)
  | some ([], after) =>
      if after.isEmpty && !rest.isEmpty then .error .emptyHost
      else .ok ([], [], after ++ rest)
  | some (info, after) =>
      let (user, password) := Text.splitFirst (· == ':') info
      let encode := Percent.encode Percent.inUserinfo
      .ok (encode user, encode (password.getD []), after ++ rest)

/-
  Split a text where its host ends.  A colon inside brackets
  belongs to the host.
-/
def splitHost
    (special inBrackets : Bool) :
    List Char → List Char × List Char
  | [] => ([], [])
  | c :: rest =>
      if (c == ':' && !inBrackets) || endsAuthority special c then
        ([], c :: rest)
      else
        let inside := c == '[' || (inBrackets && c != ']')
        let (host, after) := splitHost special inside rest
        (c :: host, after)

/- The number after a host's colon, and the text after it. -/
def readService
    (scheme : String)
    (s : List Char) :
    Except UrlError (Option Nat × List Char) :=
  let digits := s.takeWhile Text.isDigit
  let rest := s.dropWhile Text.isDigit
  let number := Text.digits? digits
  let tooBig := (number.getD 0) ≥ 2 ^ 16
  let ends :=
    match rest with
    | [] => true
    | c :: _ => endsAuthority true c
  if tooBig || !ends then
    .error .portNumber
  else if number == defaultService? scheme then
    .ok (none, rest)
  else
    .ok (number, rest)

/- The authority after its slashes, and the text after it. -/
def readAuthority
    (scheme : String)
    (s : List Char) : Except UrlError (Authority × List Char) := do
  let special := (SchemeKind.of scheme).isSpecial
  let (user, password, s) ← readUserinfo special s
  let (hostText, s) := splitHost special false s
  if special && hostText.isEmpty then throw .emptyHost
  let host ←
    if special then Host.parseDomain hostText
    else Host.parseOpaque hostText
  if host.isEmpty && s.head? == some ':' then throw .emptyHost
  let (service, s) ←
    match s with
    | ':' :: after => readService scheme after
    | _ => pure (none, s)
  if host.isEmpty && !(user.isEmpty && password.isEmpty) then
    throw .emptyHost
  return (⟨user, password, host, service⟩, s)

------------------------------------------------------------
-- Path
------------------------------------------------------------

/- Whether a segment stands for the segment itself. -/
def isSingleDot
    (s : List Char) : Bool :=
  let text := (String.ofList s).toLower
  text == "." || text == "%2e"

/- Whether a segment stands for the one before. -/
def isDoubleDot
    (s : List Char) : Bool :=
  let text := (String.ofList s).toLower
  text == ".." || text == "%2e." || text == ".%2e" ||
    text == "%2e%2e"

/- Whether a segment names a drive. -/
def isDriveLetter
    (s : List Char) : Bool :=
  match s with
  | [letter, mark] => letter.isAlpha && (mark == ':' || mark == '|')
  | _ => false

/- Drop the last segment, unless it names a drive. -/
def shorten
    (segments : List (List Char)) : List (List Char) :=
  match segments.getLast? with
  | some last =>
      if isDriveLetter last then segments else segments.dropLast
  | none => []

/- Resolve the dot segments of a path, segment by segment. -/
def resolve
    (done : List (List Char)) :
    List (List Char) → List (List Char)
  | [] => done
  | segment :: rest =>
      let closing := if rest.isEmpty then [[]] else []
      if isDoubleDot segment then
        resolve (shorten done ++ closing) rest
      else if isSingleDot segment then
        resolve (done ++ closing) rest
      else
        resolve (done ++ [segment]) rest

/- A drive's mark is written as a colon in a file's path. -/
def normalizeDrive : List (List Char) → List (List Char)
  | [letter, mark] :: rest =>
      if isDriveLetter [letter, mark] then
        [letter, ':'] :: rest
      else
        [letter, mark] :: rest
  | all => all

/- Drop the empty segments that a file's path begins with. -/
def dropLeadingEmpty : List (List Char) → List (List Char)
  | [] :: next :: rest => dropLeadingEmpty (next :: rest)
  | all => all

/- The segments of a rooted path. -/
def readSegments
    (kind : SchemeKind)
    (s : List Char) : List (List Char) :=
  let isSlash := fun c => c == '/' || (kind.isSpecial && c == '\\')
  let s :=
    match s with
    | c :: rest => if isSlash c then rest else s
    | [] => s
  let raw :=
    (Text.splitAll isSlash s).map (Percent.encode Percent.inPath)
  match kind with
  | .file => dropLeadingEmpty (resolve [] (normalizeDrive raw))
  | _ => resolve [] raw

------------------------------------------------------------
-- Query and Fragment
------------------------------------------------------------

/- Put a URL together from its place and what follows it. -/
def assemble
    (scheme : String)
    (authority : Option Authority)
    (path : UrlPath)
    (s : List Char) : Url :=
  let (before, fragment) := Text.splitFirst (· == '#') s
  let query :=
    match before with
    | '?' :: query => some query
    | _ => none
  let special := (SchemeKind.of scheme).isSpecial
  { scheme := scheme
    authority := authority
    path := path
    query := query.map (Percent.encode (Percent.inQuery special))
    fragment := fragment.map (Percent.encode Percent.inFragment) }

/- Whether a character begins a query or a fragment. -/
def endsPath
    (c : Char) : Bool :=
  c == '?' || c == '#'

/- Read a rooted path and what follows it. -/
def readPlace
    (scheme : String)
    (authority : Option Authority)
    (s : List Char) : Url :=
  let kind := SchemeKind.of scheme
  let text := s.takeWhile (!endsPath ·)
  let rest := s.dropWhile (!endsPath ·)
  let path :=
    if text.isEmpty && kind == .other then
      UrlPath.segments []
    else
      .segments (readSegments kind text)
  assemble scheme authority path rest

/- Read a path without a root, and what follows it. -/
def readRootless
    (scheme : String)
    (s : List Char) : Url :=
  let text := s.takeWhile (!endsPath ·)
  let rest := s.dropWhile (!endsPath ·)
  assemble scheme none
    (.rootless (Percent.encode Percent.isControl text)) rest

------------------------------------------------------------
-- Whole URLs
------------------------------------------------------------

/- The host of a file; a local one is left out. -/
def readFileHost
    (s : List Char) : Except UrlError (Authority × List Char) := do
  let text := s.takeWhile (!endsAuthority true ·)
  let rest := s.dropWhile (!endsAuthority true ·)
  if isDriveLetter text then
    return ({ host := [] }, s)
  else if text.isEmpty then
    return ({ host := [] }, rest)
  else
    let host ← Host.parseDomain text
    let isLocal := host == "localhost".toList
    return ({ host := if isLocal then [] else host }, rest)

/- Read what follows the colon of a scheme. -/
def readAfterScheme
    (scheme : String)
    (s : List Char) : Except UrlError Url := do
  match SchemeKind.of scheme with
  | .common =>
      let s := s.dropWhile fun c => c == '/' || c == '\\'
      let (authority, s) ← readAuthority scheme s
      return readPlace scheme (some authority) s
  | .file =>
      match s with
      | a :: b :: rest =>
          let isSlash := fun c => c == '/' || c == '\\'
          if isSlash a && isSlash b then
            let (authority, s) ← readFileHost rest
            return readPlace scheme (some authority) s
          else
            return readPlace scheme (some { host := [] }) s
      | _ => return readPlace scheme (some { host := [] }) s
  | .other =>
      match s with
      | '/' :: '/' :: rest =>
          let (authority, s) ← readAuthority scheme rest
          return readPlace scheme (some authority) s
      | '/' :: _ => return readPlace scheme none s
      | _ => return readRootless scheme s

/- Read a URL. -/
def parse
    (text : String) : Except UrlError Url :=
  let outer := fun (c : Char) => c.toNat ≤ 0x20
  let trimmed := Text.trimWhile outer text.toList
  let s :=
    trimmed.filter fun c => !(c == '\t' || c == '\n' || c == '\r')
  match readScheme? s with
  | some (scheme, rest) => readAfterScheme scheme rest
  | none => .error .relative

end LedgerView.Url
