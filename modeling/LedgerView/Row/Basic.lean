import LedgerView.Key.Utc
import LedgerView.Key.EntityId
import LedgerView.Table.Kind
import LedgerView.Units

/-
  Rows of the lists.

  A row has an ordering key, which is a timestamp for a
  transaction and an entity id for anything else, and one text
  for every column of its list.

  Key definitions include:
    * `Transaction`
    * `Account`
    * `Token`
    * `Holder`
    * `Row`
    * `Key`
    * `Row.key`
    * `Row.cells`
    * `TableKind.columns`
-/

namespace LedgerView

------------------------------------------------------------
-- Kinds of Rows
------------------------------------------------------------

/- A transaction that reached consensus. -/
structure Transaction where
  consensusTimestamp : Timestamp
  transactionId : String
  name : String
  result : String
  chargedFee : UInt64
  entityId : Option EntityId
deriving Repr, DecidableEq, Inhabited

/- What an account held at some moment. -/
structure Balance where
  amount : UInt64
  timestamp : Option Timestamp
deriving Repr, DecidableEq, Inhabited

/- An account of the ledger. -/
structure Account where
  account : EntityId
  balance : Option Balance
  memo : String
  createdTimestamp : Option Timestamp
deriving Repr, DecidableEq, Inhabited

/- A token of the ledger. -/
structure Token where
  tokenId : EntityId
  symbol : String
  name : String
  tokenType : String
deriving Repr, DecidableEq, Inhabited

/- What one account holds of a token. -/
structure Holder where
  account : EntityId
  balance : UInt64
  decimals : UInt32
deriving Repr, DecidableEq, Inhabited

/- A row of one of the lists. -/
inductive Row where
  | transaction (row : Transaction)
  | account (row : Account)
  | token (row : Token)
  | holder (row : Holder)
deriving Repr, DecidableEq, Inhabited

------------------------------------------------------------
-- Keys
------------------------------------------------------------

/- An ordering key. -/
inductive Key where
  | time (stamp : Timestamp)
  | entity (id : EntityId)
deriving Repr, DecidableEq, Inhabited

namespace Key

/- Keys of one list compare as they are; moments come first. -/
def compare : Key → Key → Ordering
  | time a, time b => Ord.compare a b
  | time _, entity _ => .lt
  | entity _, time _ => .gt
  | entity a, entity b => Ord.compare a b

instance : Ord Key :=
  ⟨Key.compare⟩

/- The text of a key in links and queries. -/
protected def toString : Key → String
  | time stamp => stamp.toString
  | entity id => id.toString

instance : ToString Key :=
  ⟨Key.toString⟩

/- Read a key of a list. -/
def parse?
    (kind : TableKind)
    (text : String) : Option Key :=
  match kind with
  | .transactions => (Timestamp.parse text).toOption.map time
  | _ => (EntityId.parse text).toOption.map entity

end Key

namespace Row

/- The key that orders a row in its list. -/
def key : Row → Key
  | transaction row => .time row.consensusTimestamp
  | account row => .entity row.account
  | token row => .entity row.tokenId
  | holder row => .entity row.account

------------------------------------------------------------
-- Cells
------------------------------------------------------------

/- The text of each column. -/
def cells : Row → List String
  | transaction row =>
      [ row.consensusTimestamp.toUtcString
      , row.transactionId
      , row.name
      , row.result
      , formatTinybars row.chargedFee ]
  | account row =>
      [ row.account.toString
      , (row.balance.map fun b => formatTinybars b.amount).getD ""
      , (row.createdTimestamp.map Timestamp.toUtcString).getD ""
      , row.memo ]
  | token row =>
      [row.tokenId.toString, row.symbol, row.name, row.tokenType]
  | holder row =>
      [row.account.toString, formatUnits row.balance row.decimals]

end Row

namespace TableKind

/- The headings of a list's columns. -/
def columns : TableKind → List String
  | transactions =>
      ["timestamp", "transaction id", "type", "result", "fee"]
  | accounts => ["account", "balance", "created", "memo"]
  | tokens => ["token", "symbol", "name", "type"]
  | holders => ["account", "balance"]

end TableKind

end LedgerView
