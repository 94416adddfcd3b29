import LedgerView.Text.Blank
import LedgerView.Text.Case
import LedgerView.Text.Quoted

/-
  The lists that can be browsed.

  Each list has a name used in links and commands, some short
  names for typing, and a title.  The lists form a cycle.

  Key definitions include:
    * `TableKind`
    * `TableKind.all`
    * `TableKind.name`
    * `TableKind.title`
    * `TableKind.next`
    * `TableKind.parse`
-/

namespace LedgerView

/- A list of the ledger. -/
inductive TableKind where
  | transactions
  | accounts
  | tokens
  | holders
deriving Repr, DecidableEq, Inhabited

/- A text that names no list: trimmed and in lower case. -/
structure UnknownTable where
  name : String
deriving Repr, DecidableEq

/- The wording shown to users. -/
def UnknownTable.message
    (e : UnknownTable) : String :=
  "unknown table " ++ Text.quote e.name

namespace TableKind

/- Every list, in the order in which they are offered. -/
def all : List TableKind :=
  [transactions, accounts, tokens, holders]

/- The name in links and commands. -/
def name : TableKind → String
  | transactions => "transactions"
  | accounts => "accounts"
  | tokens => "tokens"
  | holders => "holders"

/- The heading shown to users. -/
def title : TableKind → String
  | transactions => "Transactions"
  | accounts => "Accounts"
  | tokens => "Tokens"
  | holders => "Token holders"

/- The list offered after this one; the last leads back. -/
def next : TableKind → TableKind
  | transactions => accounts
  | accounts => tokens
  | tokens => holders
  | holders => transactions

/- The texts that stand for a list, in lower case. -/
def aliases : TableKind → List String
  | transactions => ["transactions", "txs", "tx"]
  | accounts => ["accounts", "account", "acc"]
  | tokens => ["tokens", "token"]
  | holders => ["holders", "balances"]

/- Read a list's name; case and blanks around do not count. -/
def parse
    (text : String) : Except UnknownTable TableKind :=
  let wanted := Text.lowercase (Text.trim text)
  match all.find? (fun kind => kind.aliases.contains wanted) with
  | some kind => .ok kind
  | none => .error ⟨wanted⟩

end TableKind

end LedgerView
