import LedgerView.Nav.State

/-
  Laws of the parameters of navigation.

  What is set is found again, and every other parameter stays
  as it is.  A place that is written under two different names
  is found again under both.

  Key theorems include:
    * `Params.get?_set`
    * `NavState.get?_write_page`
    * `NavState.get?_write_key`
    * `NavState.get?_write_of_ne`
-/

namespace LedgerView

------------------------------------------------------------
-- Sorted Pairs
------------------------------------------------------------

/- A name is looked up at the head, then in the rest. -/
theorem lookup_cons_eq_ite
    (name value : String)
    (rest : List Param)
    (other : String) :
    ((name, value) :: rest).lookup other =
      if other = name then some value else rest.lookup other := by
  rw [List.lookup_cons]
  by_cases hOther : other = name
  · subst hOther
    simp only [beq_self_eq_true, if_true]
  · rw [beq_false_of_ne hOther, if_neg hOther]

/- An inserted value is found under its name, and only there. -/
theorem lookup_insertParam
    (name value : String)
    (pairs : List Param)
    (other : String) :
    (insertParam name value pairs).lookup other =
      if other = name then some value
      else pairs.lookup other := by
  induction pairs with
  | nil => exact lookup_cons_eq_ite name value [] other
  | cons p rest ih =>
      obtain ⟨first, text⟩ := p
      unfold insertParam
      dsimp only
      split
      · exact lookup_cons_eq_ite name value _ other
      · split
        · next hSame =>
            subst hSame
            rw [lookup_cons_eq_ite, lookup_cons_eq_ite]
            split <;> rfl
        · next hName =>
            rw [lookup_cons_eq_ite, lookup_cons_eq_ite, ih]
            by_cases hFirst : other = first
            · subst hFirst
              rw [if_pos rfl, if_neg (Ne.symm hName), if_pos rfl]
            · rw [if_neg hFirst, if_neg hFirst]

/- What is dropped is not found; the rest is. -/
theorem lookup_filter_ne
    (name : String)
    (pairs : List Param)
    (other : String) :
    (pairs.filter (·.1 != name)).lookup other =
      if other = name then none
      else pairs.lookup other := by
  induction pairs with
  | nil => simp
  | cons p rest ih =>
      obtain ⟨first, text⟩ := p
      rw [lookup_cons_eq_ite]
      by_cases hFirst : first = name
      · subst hFirst
        rw [List.filter_cons_of_neg (by simp), ih]
        split <;> rfl
      · rw [List.filter_cons_of_pos (by simpa using hFirst),
          lookup_cons_eq_ite, ih]
        by_cases hOther : other = first
        · subst hOther
          rw [if_pos rfl, if_neg hFirst, if_pos rfl]
        · rw [if_neg hOther, if_neg hOther]

------------------------------------------------------------
-- Parameters
------------------------------------------------------------

namespace Params

/- What is inserted is found; the rest stays. -/
theorem get?_insert
    (p : Params)
    (name value other : String) :
    (p.insert name value).get? other =
      if other = name then some value
      else p.get? other :=
  lookup_insertParam name value p.pairs other

/- What is dropped is not found; the rest stays. -/
theorem get?_erase
    (p : Params)
    (name other : String) :
    (p.erase name).get? other =
      if other = name then none
      else p.get? other :=
  lookup_filter_ne name p.pairs other

/- What is set is found as it was set; the rest stays. -/
theorem get?_set
    (p : Params)
    (name : String)
    (value : Option String)
    (other : String) :
    (p.set name value).get? other =
      if other = name then value
      else p.get? other := by
  cases value with
  | some value => exact p.get?_insert name value other
  | none => exact p.get?_erase name other

/- What is set is found. -/
@[simp]
theorem get?_set_self
    (p : Params)
    (name : String)
    (value : Option String) :
    (p.set name value).get? name = value := by
  rw [get?_set, if_pos rfl]

/- Setting a parameter leaves the others alone. -/
theorem get?_set_of_ne
    (p : Params)
    {name other : String}
    (value : Option String)
    (hOther : other ≠ name) :
    (p.set name value).get? other = p.get? other := by
  rw [get?_set, if_neg hOther]

end Params

------------------------------------------------------------
-- Recorded Places
------------------------------------------------------------

/- Whether the two parameters have names of their own. -/
def NavNames.Distinct
    (names : NavNames) : Prop :=
  names.page ≠ names.key

instance
    (names : NavNames) :
    Decidable names.Distinct := by
  unfold NavNames.Distinct
  infer_instance

/- Whether neither parameter is there. -/
def Params.Placeless
    (p : Params)
    (names : NavNames) : Prop :=
  p.get? names.page = none ∧ p.get? names.key = none

instance
    (p : Params)
    (names : NavNames) :
    Decidable (p.Placeless names) := by
  unfold Params.Placeless
  infer_instance

namespace NavState

variable {names : NavNames}

/- The key that is written is found. -/
@[simp]
theorem get?_write_key
    (s : NavState)
    (store : Params)
    (names : NavNames) :
    (s.write store names).get? names.key = s.key :=
  Params.get?_set_self _ _ _

/- The page that is written is found. -/
theorem get?_write_page
    (s : NavState)
    (store : Params)
    (hNames : names.Distinct) :
    (s.write store names).get? names.page =
      s.page.map toString := by
  unfold write
  rw [Params.get?_set_of_ne _ _ hNames, Params.get?_set_self]

/- No other parameter is touched. -/
theorem get?_write_of_ne
    (s : NavState)
    (store : Params)
    {other : String}
    (hPage : other ≠ names.page)
    (hKey : other ≠ names.key) :
    (s.write store names).get? other = store.get? other := by
  unfold write
  rw [Params.get?_set_of_ne _ _ hKey, Params.get?_set_of_ne _ _ hPage]

/- Writing no place leaves none. -/
theorem placeless_write
    (store : Params)
    (names : NavNames) :
    (({} : NavState).write store names).Placeless names := by
  refine ⟨?_, get?_write_key _ _ _⟩
  unfold write
  rw [Params.get?_set]
  split
  · rfl
  · exact Params.get?_set_self _ _ _

end NavState

end LedgerView
