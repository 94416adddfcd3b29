import LedgerView.Nav.FilterParams
import LedgerView.Proofs.Key.Codec
import LedgerView.Proofs.Nav.Params

/-
  Filters are read back as they were recorded.

  An entity id is read as it was written.  So a filter among the
  parameters of a table is the filter that was recorded there.
  A list reads only a part of it, and a change of filter concerns
  a list if it changes that part.

  Key theorems include:
    * `Filter.read_write`
    * `Filter.restrictTo_restrictTo`
    * `Filter.affects_iff`
-/

namespace LedgerView

------------------------------------------------------------
-- Filters
------------------------------------------------------------

namespace Filter

/- A filter is recorded under two names. -/
theorem tokenName_ne_accountName :
    tokenName ≠ accountName := by
  decide

/- What is recorded of an entity id gives it back. -/
theorem readId?_of_get?
    {store : Params}
    {name : String}
    {id : Option EntityId}
    (hText : store.get? name = id.map EntityId.toString) :
    readId? store name = id := by
  unfold readId?
  rw [hText]
  cases id with
  | none => rfl
  | some id =>
      rw [Option.map_some, Option.bind_some,
        EntityId.parse_toString]
      rfl

/- A filter is read as it was recorded. -/
@[simp]
theorem read_write
    (f : Filter)
    (store : Params) :
    Filter.read (f.write store) = f := by
  have hAccount :
      readId? (f.write store) accountName = f.account := by
    refine readId?_of_get? ?_
    unfold Filter.write
    rw [Params.get?_set_of_ne _ _ tokenName_ne_accountName.symm,
      Params.get?_set_self]
  have hToken :
      readId? (f.write store) tokenName = f.token :=
    readId?_of_get? (Params.get?_set_self _ _ _)
  unfold Filter.read
  rw [hAccount, hToken]

/- What a list reads of a filter, it reads of that part too. -/
@[simp]
theorem restrictTo_restrictTo
    (f : Filter)
    (kind : TableKind) :
    (f.restrictTo kind).restrictTo kind =
      f.restrictTo kind := by
  cases kind <;> rfl

/- A change concerns a list if it changes what the list reads. -/
theorem affects_iff
    {f next : Filter}
    {kind : TableKind} :
    f.affects next kind = true ↔
      f.restrictTo kind ≠ next.restrictTo kind := by
  unfold affects
  exact bne_iff_ne

/- What is reported of a filter by a list that reads it. -/
theorem adopt_restrictTo
    (f : Filter)
    (kind : TableKind) :
    f.adopt (f.restrictTo kind) kind = f := by
  cases kind <;> rfl

end Filter

end LedgerView
