import LedgerView.Nav.Params
import LedgerView.Table.Filter

/-
  Filters among the parameters of navigation.

  Key definitions include:
    * `Filter.read`
    * `Filter.write`
-/

namespace LedgerView.Filter

/- The parameter that names an account. -/
def accountName : String := "account"

/- The parameter that names a token. -/
def tokenName : String := "token"

/- An entity id among the parameters; a faulty one is ignored. -/
def readId?
    (store : Params)
    (name : String) : Option EntityId :=
  (store.get? name).bind fun text =>
    (EntityId.parse text).toOption

/- The recorded filter. -/
def read
    (store : Params) : Filter :=
  { account := readId? store accountName
    token := readId? store tokenName }

/- Record a filter; what it lacks is dropped. -/
def write
    (f : Filter)
    (store : Params) : Params :=
  (store.set accountName (f.account.map EntityId.toString)).set
    tokenName (f.token.map EntityId.toString)

end LedgerView.Filter
