import LedgerView.Table.Kind

/-
  One thing for each list.

  Key definitions include:
    * `PerTable`
    * `PerTable.all`
    * `PerTable.get`
    * `PerTable.set`
    * `PerTable.map`
-/

namespace LedgerView

/- One `α` for each list. -/
structure PerTable (α : Type) where
  transactions : α
  accounts : α
  tokens : α
  holders : α
deriving Repr, DecidableEq

namespace PerTable

variable {α β : Type}

/- The same for every list. -/
def all
    (a : α) : PerTable α :=
  ⟨a, a, a, a⟩

/- What belongs to a list. -/
def get
    (t : PerTable α)
    (kind : TableKind) : α :=
  match kind with
  | .transactions => t.transactions
  | .accounts => t.accounts
  | .tokens => t.tokens
  | .holders => t.holders

/- Replace what belongs to a list. -/
def set
    (t : PerTable α)
    (kind : TableKind)
    (a : α) : PerTable α :=
  match kind with
  | .transactions => { t with transactions := a }
  | .accounts => { t with accounts := a }
  | .tokens => { t with tokens := a }
  | .holders => { t with holders := a }

/- Change what belongs to each list. -/
def map
    (f : α → β)
    (t : PerTable α) : PerTable β :=
  ⟨f t.transactions, f t.accounts, f t.tokens, f t.holders⟩

/- What was set is found again. -/
@[simp]
theorem get_set_self
    (t : PerTable α)
    (kind : TableKind)
    (a : α) :
    (t.set kind a).get kind = a := by
  cases kind <;> rfl

/- The other lists keep what they have. -/
theorem get_set_of_ne
    (t : PerTable α)
    {kind other : TableKind}
    (a : α)
    (h : other ≠ kind) :
    (t.set kind a).get other = t.get other := by
  cases kind <;> cases other <;> simp_all [get, set]

/- Setting what is there already changes nothing. -/
@[simp]
theorem set_get_self
    (t : PerTable α)
    (kind : TableKind) :
    t.set kind (t.get kind) = t := by
  cases kind <;> rfl

/- Each list has what `f` makes of it. -/
@[simp]
theorem get_map
    (f : α → β)
    (t : PerTable α)
    (kind : TableKind) :
    (t.map f).get kind = f (t.get kind) := by
  cases kind <;> rfl

/- Every list has the same. -/
@[simp]
theorem get_all
    (a : α)
    (kind : TableKind) :
    (all a).get kind = a := by
  cases kind <;> rfl

end PerTable

end LedgerView
