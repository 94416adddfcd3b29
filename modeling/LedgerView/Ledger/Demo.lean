import LedgerView.Ledger.MemoryList
import LedgerView.Row.Basic

/-
  A synthetic ledger.

  Its rows follow from their numbers.  It has 240 accounts, 35
  tokens, for each token between 3 and 57 holders, and as many
  transactions as wanted; new transactions can be appended.

  Key definitions include:
    * `Demo.transaction`
    * `Demo.account`
    * `Demo.token`
    * `Demo.holdersOf`
    * `DemoLedger`
    * `DemoLedger.new`
    * `DemoLedger.grow`
-/

namespace LedgerView

------------------------------------------------------------
-- Rows by Number
------------------------------------------------------------

namespace Demo

/- The second of the first transaction. -/
def genesis : Nat := 1693400000

/- An entity in shard 0 and realm 0. -/
def entity
    (num : Nat) : EntityId :=
  ⟨0, 0, UInt64.ofNat num⟩

/- The kinds of transactions, which take turns. -/
def kindName
    (n : Nat) : String :=
  match n % 5 with
  | 0 => "CRYPTOTRANSFER"
  | 1 => "CONSENSUSSUBMITMESSAGE"
  | 2 => "TOKENMINT"
  | 3 => "CONTRACTCALL"
  | _ => "CRYPTOCREATEACCOUNT"

/- A number with zeros in front up to nine digits. -/
def nineDigits
    (n : Nat) : String :=
  String.ofList (Text.padLeft 9 (Text.decimal n))

/- The transaction of a number, three seconds after the last. -/
def transaction
    (n : Nat) : Transaction :=
  let seconds := genesis + n * 3
  { consensusTimestamp :=
      ⟨UInt64.ofNat seconds, UInt32.ofNat (n * 7919 % 1000)⟩
    transactionId :=
      "0.0." ++ toString (1000 + n % 240) ++ "-" ++
        toString (seconds - 2) ++ "-" ++ nineDigits n
    name := kindName n
    result :=
      if n % 17 = 0 then "INSUFFICIENT_PAYER_BALANCE"
      else "SUCCESS"
    chargedFee := UInt64.ofNat (80000 + n * 131 % 9000)
    entityId := some (entity (1 + n % 240)) }

/- The account of a number. -/
def account
    (n : Nat) : Account :=
  { account := entity n
    balance :=
      some ⟨UInt64.ofNat (n * 97000000 % 1000000000000), none⟩
    memo :=
      if n % 10 = 0 then "treasury " ++ toString n else ""
    createdTimestamp :=
      some ⟨UInt64.ofNat (genesis - 86400 + n * 60), 0⟩ }

/- The token of a number. -/
def token
    (n : Nat) : Token :=
  { tokenId := entity (5000 + n)
    symbol := "DEMO" ++ toString n
    name := "Demo token " ++ toString n
    tokenType :=
      if n % 4 = 0 then "NON_FUNGIBLE_UNIQUE"
      else "FUNGIBLE_COMMON" }

/- The numbers of the tokens. -/
def tokenNumbers : List Nat :=
  (List.range 35).map (· + 1)

/- The holders of the token with a number. -/
def holdersOf
    (n : Nat) : List Holder :=
  let num := 5000 + n
  (List.range (num % 7 * 9 + 3)).map fun i =>
    { account := entity (1000 + i * 13 + num)
      balance := UInt64.ofNat ((i + 1) * 1250 + num)
      decimals := 2 }

end Demo

------------------------------------------------------------
-- The Ledger
------------------------------------------------------------

/- The lists of the synthetic ledger. -/
structure DemoLedger where
  transactions : MemoryList Row
  accounts : MemoryList Row
  tokens : MemoryList Row
  /- The holders of each token. -/
  holders : List (EntityId × MemoryList Row)

namespace DemoLedger

/- The list of the first transactions. -/
def firstTransactions
    (count : Nat) : List Transaction :=
  (List.range count).map Demo.transaction

/- A ledger with a number of transactions. -/
def new
    (transactions : Nat) : DemoLedger :=
  let list := fun rows => MemoryList.ofRows Row.key rows
  { transactions :=
      list ((firstTransactions transactions).map .transaction)
    accounts :=
      list
        ((List.range 240).map fun i =>
          .account (Demo.account (i + 1)))
    tokens :=
      list (Demo.tokenNumbers.map fun n => .token (Demo.token n))
    holders :=
      Demo.tokenNumbers.map fun n =>
        ((Demo.token n).tokenId,
          list ((Demo.holdersOf n).map .holder)) }

/- The transactions of one account, as they are at present. -/
def accountTransactions
    (d : DemoLedger)
    (account : EntityId) : MemoryList Row :=
  let all := firstTransactions d.transactions.rows.length
  MemoryList.ofRows Row.key
    ((all.filter (·.entityId == some account)).map .transaction)

/- Append the next transaction. -/
def grow
    (d : DemoLedger) : DemoLedger :=
  let next := Demo.transaction d.transactions.rows.length
  { d with
    transactions :=
      d.transactions.insert Row.key (.transaction next) }

end DemoLedger

end LedgerView
