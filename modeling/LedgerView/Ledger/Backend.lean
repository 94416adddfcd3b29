import LedgerView.Ledger.Demo
import LedgerView.Node.Source
import LedgerView.Pager.Controller
import LedgerView.Table.Filter

/-
  Where the rows of the tables come from.

  Rows come from a node or from the synthetic ledger.  Most of
  the ledger's lists are shared by all who use them; the
  transactions of one account are a list of its own, made when
  it is asked for.

  Key definitions include:
    * `SharedList`
    * `RowSource`
    * `Backend`
    * `Backend.source`
    * `Backend.ask`
    * `Backend.change`
    * `Backend.grow`
-/

namespace LedgerView

------------------------------------------------------------
-- Sources
------------------------------------------------------------

/- A list of the synthetic ledger. -/
inductive SharedList where
  | transactions
  | accounts
  | tokens
  | holders (token : EntityId)
deriving Repr, DecidableEq

/- Where the rows of one table come from. -/
inductive RowOrigin where
  | shared (list : SharedList)
  | own (list : MemoryList Row)
  | node (list : NodeList)

/- The source of one table. -/
structure RowSource where
  kind : TableKind
  origin : RowOrigin

instance : Listing RowSource Row Key where
  key := fun _ => Row.key
  write := fun _ => Key.toString
  read? := fun source => Key.parse? source.kind

------------------------------------------------------------
-- Backends
------------------------------------------------------------

namespace DemoLedger

/- A shared list. -/
def list
    (d : DemoLedger)
    (name : SharedList) : MemoryList Row :=
  match name with
  | .transactions => d.transactions
  | .accounts => d.accounts
  | .tokens => d.tokens
  | .holders token => (d.holders.lookup token).getD ⟨[], true⟩

/- Change a shared list. -/
def setList
    (d : DemoLedger)
    (name : SharedList)
    (list : MemoryList Row) : DemoLedger :=
  match name with
  | .transactions => { d with transactions := list }
  | .accounts => { d with accounts := list }
  | .tokens => { d with tokens := list }
  | .holders token =>
      { d with
        holders :=
          d.holders.map fun entry =>
            if entry.1 == token then (token, list) else entry }

/- Where a table of the ledger takes its rows under a filter. -/
def origin
    (d : DemoLedger)
    (kind : TableKind)
    (f : Filter) : RowOrigin :=
  match kind with
  | .transactions =>
      match f.account with
      | some account => .own (d.accountTransactions account)
      | none => .shared .transactions
  | .accounts => .shared .accounts
  | .tokens => .shared .tokens
  | .holders =>
      match f.token with
      | none => .own .unavailable
      | some token =>
          if (d.holders.lookup token).isSome then
            .shared (.holders token)
          else
            .own ⟨[], true⟩

end DemoLedger

/-
  Where all rows come from.  What a node sends back is given by
  the address asked for; nothing if it cannot be reached.
-/
inductive Backend where
  | demo (ledger : DemoLedger)
  | node (client : NodeClient) (send : Url → Option NodeReply)

namespace Backend

/- The source of a table under a filter. -/
def source
    (b : Backend)
    (kind : TableKind)
    (f : Filter) : RowSource :=
  match b with
  | demo ledger => ⟨kind, ledger.origin kind f⟩
  | node client _ => ⟨kind, .node (.of client kind f)⟩

/- The rows in memory that a source stands for. -/
def rows?
    (b : Backend)
    (source : RowSource) : Option (MemoryList Row) :=
  match source.origin, b with
  | .own list, _ => some list
  | .shared name, demo ledger => some (ledger.list name)
  | _, _ => none

/- Answer a query on a source. -/
def ask
    (b : Backend)
    (source : RowSource)
    (q : ListQuery Key) : Reply Row × RowSource :=
  match source.origin, b with
  | .node list, node _ send => (list.answer send q, source)
  | _, _ =>
      match b.rows? source with
      | some list => (list.answer Row.key q, source)
      | none => (.ok none, source)

/- Change the rows in memory that a source stands for. -/
def change
    (b : Backend)
    (source : RowSource)
    (f : MemoryList Row → MemoryList Row) : Backend × RowSource :=
  match source.origin, b with
  | .own list, _ => (b, { source with origin := .own (f list) })
  | .shared name, demo ledger =>
      (demo (ledger.setList name (f (ledger.list name))), source)
  | _, _ => (b, source)

/- Let the synthetic ledger grow by one transaction. -/
def grow : Backend → Backend
  | demo ledger => demo ledger.grow
  | node client send => node client send

end Backend

end LedgerView
