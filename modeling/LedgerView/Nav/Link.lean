import LedgerView.Nav.Error
import LedgerView.Nav.Params
import LedgerView.Url.Parse

/-
  Links to a place in a table.

  A link is a URL of a scheme of its own whose host names the
  table and whose query holds the parameters of navigation.
  Anything else in the URL is ignored.

  Key definitions include:
    * `linkScheme`
    * `Link`
    * `Link.parse`
    * `Link.toString`
-/

namespace LedgerView

/- The scheme of links. -/
def linkScheme : String := "ledgerscope"

/- A table's name with its parameters. -/
structure Link where
  table : String
  query : Params
deriving DecidableEq

namespace Link

/- Read a link; blanks around it do not count. -/
def parse
    (text : String) : Except NavError Link :=
  let fault := fun reason => .error (.invalidLink text reason)
  match Url.parse (Text.trim text) with
  | .error e => fault e.message
  | .ok url =>
      if url.scheme != linkScheme then
        fault "unsupported scheme"
      else
        match url.host? with
        | none => fault "missing table name"
        | some host =>
            .ok
              { table := String.ofList host
                query :=
                  .parse (String.ofList (url.query.getD [])) }

/- Write a link. -/
protected def toString
    (l : Link) : String :=
  let query := l.query.toQueryString
  let place := linkScheme ++ "://" ++ l.table
  if query.isEmpty then place else place ++ "?" ++ query

end Link

end LedgerView
