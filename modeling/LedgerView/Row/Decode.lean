import LedgerView.Json.Value
import LedgerView.Row.Basic

/-
  Rows as JSON values.

  A row is an object of named fields, or an array of them in
  order of declaration.  Fields that may be missing have a
  default; unknown fields of an object are skipped.  The fields
  of an object are read in alphabetical order and the first
  fault counts; after that, fields that are missing count in
  order of declaration.

  Key definitions include:
    * `RowError`
    * `Row.decode`
    * `Row.encode`
-/

namespace LedgerView

------------------------------------------------------------
-- Faults
------------------------------------------------------------

/- Why a JSON value is no row. -/
inductive RowError where
  | key (fault : KeyError)
  | missing (field : String)
  | shape
deriving Repr, DecidableEq

/- The wording of a fault that has one of its own. -/
def RowError.message? : RowError → Option String
  | .key fault => some fault.message
  | .missing field =>
      some ("missing field \x60" ++ field ++ "\x60")
  | .shape => none

/- A fault, or a value read. -/
abbrev Decoded (α : Type) :=
  Except RowError α

namespace Json

------------------------------------------------------------
-- Single Values
------------------------------------------------------------

/- A string. -/
def asString : Json → Decoded String
  | .string text => .ok text
  | _ => .error .shape

/- A whole number of 64 bits. -/
def asUInt64 : Json → Decoded UInt64
  | .integer n =>
      if 0 ≤ n && n < 2 ^ 64 then .ok (UInt64.ofNat n.toNat)
      else .error .shape
  | _ => .error .shape

/- A whole number of 32 bits. -/
def asUInt32 : Json → Decoded UInt32
  | .integer n =>
      if 0 ≤ n && n < 2 ^ 32 then .ok (UInt32.ofNat n.toNat)
      else .error .shape
  | _ => .error .shape

/- A timestamp, written as a string. -/
def asTimestamp
    (value : Json) : Decoded Timestamp := do
  (Timestamp.parse (← value.asString)).mapError .key

/- An entity id, written as a string. -/
def asEntityId
    (value : Json) : Decoded EntityId := do
  (EntityId.parse (← value.asString)).mapError .key

/- A value, or null for none. -/
def nullable
    {α : Type}
    (read : Json → Decoded α)
    (value : Json) : Decoded (Option α) :=
  match value with
  | .null => .ok none
  | _ => (read value).map some

------------------------------------------------------------
-- Fields of an Object
------------------------------------------------------------

/- A field if the object has it. -/
def field?
    {α : Type}
    (fields : List (String × Json))
    (name : String)
    (read : Json → Decoded α) : Decoded (Option α) :=
  match lookup? fields name with
  | some value => (read value).map some
  | none => .ok none

/- A field, or its default if the object does not have it. -/
def fieldOr
    {α : Type}
    (fields : List (String × Json))
    (name : String)
    (default : α)
    (read : Json → Decoded α) : Decoded α :=
  return (← field? fields name read).getD default

/- A field that the object has to have. -/
def need
    {α : Type}
    (name : String)
    (value : Option α) : Decoded α :=
  match value with
  | some v => .ok v
  | none => .error (.missing name)

------------------------------------------------------------
-- Items of an Array
------------------------------------------------------------

/- The next item, which has to be there. -/
def item
    {α : Type}
    (read : Json → Decoded α) :
    StateT (List Json) (Except RowError) α := do
  match ← get with
  | [] => throw .shape
  | value :: rest =>
      set rest
      read value

/- The next item, or its default past the end. -/
def itemOr
    {α : Type}
    (default : α)
    (read : Json → Decoded α) :
    StateT (List Json) (Except RowError) α := do
  match ← get with
  | [] => return default
  | value :: rest =>
      set rest
      read value

/- Read a record from an array that holds nothing else. -/
def wholeArray
    {α : Type}
    (items : List Json)
    (read : StateT (List Json) (Except RowError) α) : Decoded α := do
  let (record, rest) ← read.run items
  if rest.isEmpty then return record else throw .shape

end Json

------------------------------------------------------------
-- Reading Rows
------------------------------------------------------------

open Json

/- Read a transaction. -/
def Transaction.decode : Json → Decoded Transaction
  | .object o => do
      let fee ← fieldOr o "charged_tx_fee" 0 asUInt64
      let stamp ← field? o "consensus_timestamp" asTimestamp
      let entity ← fieldOr o "entity_id" none (nullable asEntityId)
      let name ← fieldOr o "name" "" asString
      let result ← fieldOr o "result" "" asString
      let id ← field? o "transaction_id" asString
      let stamp ← need "consensus_timestamp" stamp
      let id ← need "transaction_id" id
      return ⟨stamp, id, name, result, fee, entity⟩
  | .array items =>
      wholeArray items do
        let stamp ← item asTimestamp
        let id ← item asString
        let name ← itemOr "" asString
        let result ← itemOr "" asString
        let fee ← itemOr 0 asUInt64
        let entity ← itemOr none (nullable asEntityId)
        return ⟨stamp, id, name, result, fee, entity⟩
  | _ => .error .shape

/- Read a balance. -/
def Balance.decode : Json → Decoded Balance
  | .object o => do
      let amount ← fieldOr o "balance" 0 asUInt64
      let stamp ← fieldOr o "timestamp" none (nullable asTimestamp)
      return ⟨amount, stamp⟩
  | .array items =>
      wholeArray items do
        let amount ← itemOr 0 asUInt64
        let stamp ← itemOr none (nullable asTimestamp)
        return ⟨amount, stamp⟩
  | _ => .error .shape

/- Read an account. -/
def Account.decode : Json → Decoded Account
  | .object o => do
      let id ← field? o "account" asEntityId
      let balance ← fieldOr o "balance" none (nullable Balance.decode)
      let created ←
        fieldOr o "created_timestamp" none (nullable asTimestamp)
      let memo ← fieldOr o "memo" "" asString
      let id ← need "account" id
      return ⟨id, balance, memo, created⟩
  | .array items =>
      wholeArray items do
        let id ← item asEntityId
        let balance ← itemOr none (nullable Balance.decode)
        let memo ← itemOr "" asString
        let created ← itemOr none (nullable asTimestamp)
        return ⟨id, balance, memo, created⟩
  | _ => .error .shape

/- Read a token. -/
def Token.decode : Json → Decoded Token
  | .object o => do
      let name ← fieldOr o "name" "" asString
      let symbol ← fieldOr o "symbol" "" asString
      let id ← field? o "token_id" asEntityId
      let type ← fieldOr o "type" "" asString
      let id ← need "token_id" id
      return ⟨id, symbol, name, type⟩
  | .array items =>
      wholeArray items do
        let id ← item asEntityId
        let symbol ← itemOr "" asString
        let name ← itemOr "" asString
        let type ← itemOr "" asString
        return ⟨id, symbol, name, type⟩
  | _ => .error .shape

/- Read a holder. -/
def Holder.decode : Json → Decoded Holder
  | .object o => do
      let id ← field? o "account" asEntityId
      let balance ← fieldOr o "balance" 0 asUInt64
      let decimals ← fieldOr o "decimals" 0 asUInt32
      let id ← need "account" id
      return ⟨id, balance, decimals⟩
  | .array items =>
      wholeArray items do
        let id ← item asEntityId
        let balance ← itemOr 0 asUInt64
        let decimals ← itemOr 0 asUInt32
        return ⟨id, balance, decimals⟩
  | _ => .error .shape

/- Read a row of a list. -/
def Row.decode
    (kind : TableKind)
    (value : Json) : Decoded Row :=
  match kind with
  | .transactions => (Transaction.decode value).map .transaction
  | .accounts => (Account.decode value).map .account
  | .tokens => (Token.decode value).map .token
  | .holders => (Holder.decode value).map .holder

------------------------------------------------------------
-- Writing Rows
------------------------------------------------------------

/- A timestamp, or null. -/
def encodeTimestamp? : Option Timestamp → Json
  | some stamp => .string stamp.toString
  | none => .null

/- An entity id, or null. -/
def encodeEntityId? : Option EntityId → Json
  | some id => .string id.toString
  | none => .null

/- Write a transaction. -/
def Transaction.encode
    (row : Transaction) : Json :=
  .object
    [ ("consensus_timestamp", .string row.consensusTimestamp.toString)
    , ("transaction_id", .string row.transactionId)
    , ("name", .string row.name)
    , ("result", .string row.result)
    , ("charged_tx_fee", .integer row.chargedFee.toNat)
    , ("entity_id", encodeEntityId? row.entityId) ]

/- Write a balance. -/
def Balance.encode
    (balance : Balance) : Json :=
  .object
    [ ("balance", .integer balance.amount.toNat)
    , ("timestamp", encodeTimestamp? balance.timestamp) ]

/- Write an account. -/
def Account.encode
    (row : Account) : Json :=
  .object
    [ ("account", .string row.account.toString)
    , ("balance", (row.balance.map Balance.encode).getD .null)
    , ("memo", .string row.memo)
    , ("created_timestamp", encodeTimestamp? row.createdTimestamp) ]

/- Write a token. -/
def Token.encode
    (row : Token) : Json :=
  .object
    [ ("token_id", .string row.tokenId.toString)
    , ("symbol", .string row.symbol)
    , ("name", .string row.name)
    , ("type", .string row.tokenType) ]

/- Write a holder. -/
def Holder.encode
    (row : Holder) : Json :=
  .object
    [ ("account", .string row.account.toString)
    , ("balance", .integer row.balance.toNat)
    , ("decimals", .integer row.decimals.toNat) ]

/- Write a row. -/
def Row.encode : Row → Json
  | .transaction row => row.encode
  | .account row => row.encode
  | .token row => row.encode
  | .holder row => row.encode

end LedgerView
