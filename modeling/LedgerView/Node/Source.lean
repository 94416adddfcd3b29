import LedgerView.Json.Parse
import LedgerView.Node.Client
import LedgerView.Row.Decode
import LedgerView.Table.Filter

/-
  The lists of a node.

  Each list has a path, a name in the body of an answer, and a
  parameter for its keys.  The list of holders needs a token.
  An answer that the list does not exist counts as no answer;
  any other refusal, a body that is no object, and rows that
  cannot be read are failures.

  Key definitions include:
    * `NodeList`
    * `NodeList.of`
    * `NodeList.query?`
    * `NodeReply`
    * `NodeList.readReply`
    * `NodeList.answer`
-/

namespace LedgerView

------------------------------------------------------------
-- Lists
------------------------------------------------------------

/- A list of a node. -/
structure NodeList where
  client : NodeClient
  kind : TableKind
  /- Missing when the list cannot be told without a token. -/
  path : Option String
  /- The name of the rows in a body. -/
  field : String
  keyParam : String
  filters : List (String × String)
deriving Repr, DecidableEq

namespace NodeList

/- The list of a kind, under a filter. -/
def of
    (client : NodeClient)
    (kind : TableKind)
    (f : Filter) : NodeList :=
  let list := fun path field keyParam =>
    { client := client
      kind := kind
      path := path
      field := field
      keyParam := keyParam
      filters := [] : NodeList }
  match kind with
  | .transactions =>
      { list (some "/api/v1/transactions") "transactions"
          "timestamp" with
        filters :=
          match f.account with
          | some account => [("account.id", account.toString)]
          | none => [] }
  | .accounts =>
      list (some "/api/v1/accounts") "accounts" "account.id"
  | .tokens => list (some "/api/v1/tokens") "tokens" "token.id"
  | .holders =>
      let path := fun (token : EntityId) =>
        "/api/v1/tokens/" ++ token.toString ++ "/balances"
      list (f.token.map path) "balances" "account.id"

/- The query to send, unless the list cannot be told. -/
def query?
    (l : NodeList)
    (q : ListQuery Key) : Option NodeQuery :=
  l.path.map fun path =>
    { path := path
      keyParam := l.keyParam
      key := q.key.map Key.toString
      operator := q.operator
      order := q.order
      limit := q.limit
      filters := l.filters }

end NodeList

------------------------------------------------------------
-- Answers
------------------------------------------------------------

/- What a node sends back. -/
structure NodeReply where
  status : Nat
  body : String
deriving Repr

namespace NodeList

/- The rows in a body. -/
def readBody
    (l : NodeList)
    (body : String) : Reply Row :=
  match Json.parse? body with
  | some (.object fields) =>
      match (Json.lookup? fields l.field).getD (.array []) with
      | .array items =>
          match items.mapM (Row.decode l.kind) with
          | .ok rows => .ok (some rows)
          | .error _ => .error (.payload l.field)
      | _ => .error (.payload l.field)
  | _ => .error .unreadable

/- The rows in what a node sent back from an address. -/
def readReply
    (l : NodeList)
    (url : String)
    (reply : NodeReply) : Reply Row :=
  if reply.status = 404 then
    .ok none
  else if 400 ≤ reply.status && reply.status < 600 then
    .error (.rejected url)
  else
    l.readBody reply.body

/-
  Answer a query by asking the node at an address, which may
  send nothing back.
-/
def answer
    (send : Url → Option NodeReply)
    (l : NodeList)
    (q : ListQuery Key) : Reply Row :=
  match l.query? q with
  | none => .ok none
  | some query =>
      match l.client.listUrl query with
      | .error e => .error e
      | .ok url =>
          match send url with
          | none => .error (.unanswered url.render)
          | some reply => l.readReply url.render reply

end NodeList

end LedgerView
