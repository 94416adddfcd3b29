import LedgerView.Table.Kind
import LedgerView.Key.EntityId

/-
  Filters on the lists.

  A filter may restrict transactions to one account, and names
  the token whose holders are listed.  Each list reads only a
  part of it.

  Key definitions include:
    * `Filter`
    * `Filter.restrictTo`
    * `Filter.affects`
    * `Filter.adopt`
-/

namespace LedgerView

/- What the lists are restricted to. -/
structure Filter where
  account : Option EntityId := none
  token : Option EntityId := none
deriving Repr, DecidableEq, Inhabited

namespace Filter

/- The part of a filter that a list reads. -/
def restrictTo
    (f : Filter)
    (kind : TableKind) : Filter :=
  match kind with
  | .transactions => { account := f.account }
  | .holders => { token := f.token }
  | .accounts | .tokens => {}

/- Whether going from `f` to `next` changes a list's rows. -/
def affects
    (f next : Filter)
    (kind : TableKind) : Bool :=
  f.restrictTo kind != next.restrictTo kind

/- Replace the part that a list reads by what it reported. -/
def adopt
    (f reported : Filter)
    (kind : TableKind) : Filter :=
  match kind with
  | .transactions => { f with account := reported.account }
  | .holders => { f with token := reported.token }
  | .accounts | .tokens => f

end Filter

end LedgerView
