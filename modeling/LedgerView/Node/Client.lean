import LedgerView.Pager.Source
import LedgerView.Url.Parse

/-
  Addresses of a node's lists.

  A node serves each list below its base address.  The query of
  a list address carries fixed filters, the key with its
  operator, the order and the limit, in this order.

  Key definitions include:
    * `NodeClient`
    * `NodeClient.ofAddress`
    * `NodeQuery`
    * `NodeQuery.pairs`
    * `NodeClient.listUrl`
-/

namespace LedgerView

/- A node, by its address without slashes at the end. -/
structure NodeClient where
  baseUrl : String
deriving Repr, DecidableEq

/- A bounded query on a list of a node. -/
structure NodeQuery where
  path : String
  /- The parameter that carries the key. -/
  keyParam : String
  key : Option String
  operator : Operator
  order : SortOrder
  limit : Nat
  filters : List (String × String)
deriving Repr, DecidableEq

/- The pairs that make up the query. -/
def NodeQuery.pairs
    (q : NodeQuery) : List (String × String) :=
  let key :=
    match q.key with
    | some key => [(q.keyParam, q.operator.name ++ ":" ++ key)]
    | none => []
  q.filters ++ key ++
    [("order", q.order.name), ("limit", toString q.limit)]

namespace NodeClient

/- The node at an address. -/
def ofAddress
    (address : String) : NodeClient :=
  ⟨Text.stripLast '/' address⟩

/- The address of a list query. -/
def listUrl
    (n : NodeClient)
    (q : NodeQuery) : Except SourceError Url :=
  let address := n.baseUrl ++ q.path
  match Url.parse address with
  | .ok url => .ok (url.appendPairs q.pairs)
  | .error e => .error (.address address e.message)

end NodeClient

end LedgerView
