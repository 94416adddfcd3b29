import LedgerView.Text.Decimal
import LedgerView.Url.Form

/-
  URLs.

  A URL has a scheme, perhaps an authority, a path, and perhaps
  a query and a fragment, all in the encoded form in which they
  are written.  Five schemes are common: their URLs always have
  a host and a rooted path.

  Key definitions include:
    * `SchemeKind`
    * `Authority`
    * `UrlPath`
    * `Url`
    * `Url.render`
    * `Url.appendPairs`
-/

namespace LedgerView

------------------------------------------------------------
-- Schemes
------------------------------------------------------------

/- How URLs of a scheme are read. -/
inductive SchemeKind where
  | common
  | file
  | other
deriving Repr, DecidableEq

/- The kind of a scheme, given in small letters. -/
def SchemeKind.of
    (scheme : String) : SchemeKind :=
  if scheme == "file" then .file
  else if ["http", "https", "ws", "wss", "ftp"].contains scheme
  then .common
  else .other

/- Whether a backslash counts as a slash. -/
def SchemeKind.isSpecial
    (kind : SchemeKind) : Bool :=
  kind != .other

/- The service number that a scheme implies. -/
def defaultService?
    (scheme : String) : Option Nat :=
  match scheme with
  | "http" | "ws" => some 80
  | "https" | "wss" => some 443
  | "ftp" => some 21
  | _ => none

------------------------------------------------------------
-- Parts
------------------------------------------------------------

/- Who is asked, and where. -/
structure Authority where
  user : List Char := []
  password : List Char := []
  host : List Char
  /- The number after the host, unless the scheme implies it. -/
  service : Option Nat := none
deriving Repr, DecidableEq

/- A path: a text of its own, or segments from the root. -/
inductive UrlPath where
  | rootless (text : List Char)
  | segments (all : List (List Char))
deriving Repr, DecidableEq

/- A URL. -/
structure Url where
  scheme : String
  authority : Option Authority
  path : UrlPath
  query : Option (List Char)
  fragment : Option (List Char)
deriving Repr, DecidableEq

------------------------------------------------------------
-- Writing
------------------------------------------------------------

/- The text of an authority, after its two slashes. -/
def Authority.render
    (a : Authority) : List Char :=
  let password :=
    if a.password.isEmpty then [] else ':' :: a.password
  let user :=
    if a.user.isEmpty && a.password.isEmpty then []
    else a.user ++ password ++ ['@']
  let service :=
    match a.service with
    | some n => ':' :: Text.decimal n
    | none => []
  user ++ a.host ++ service

/- The text of a path. -/
def UrlPath.render : UrlPath → List Char
  | .rootless text => text
  | .segments all => all.flatMap ('/' :: ·)

namespace Url

/- The host, unless the URL has none. -/
def host?
    (u : Url) : Option (List Char) :=
  match u.authority with
  | some a => if a.host.isEmpty then none else some a.host
  | none => none

/-
  What stands between scheme and query.  A path that would look
  like an authority is set off by a dot.
-/
def renderPlace
    (u : Url) : List Char :=
  match u.authority with
  | some a => ['/', '/'] ++ a.render ++ u.path.render
  | none =>
      let path := u.path.render
      match u.path, path with
      | .segments _, '/' :: '/' :: _ => ['/', '.'] ++ path
      | _, _ => path

/- The text of a URL. -/
def render
    (u : Url) : String :=
  let part := fun (mark : Char) (text : Option (List Char)) =>
    match text with
    | some text => mark :: text
    | none => []
  u.scheme ++ ":" ++
    String.ofList
      (u.renderPlace ++ part '?' u.query ++ part '#' u.fragment)

/- Add pairs at the end of the query. -/
def appendPairs
    (u : Url)
    (pairs : List (String × String)) : Url :=
  let before := u.query.getD []
  let added := Form.encode pairs
  let mark := if before.isEmpty || added.isEmpty then [] else ['&']
  { u with query := some (before ++ mark ++ added) }

end Url

end LedgerView
