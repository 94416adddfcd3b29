/-
  Readers that go step by step.

  Key theorems include:
    * `mapM_eq_some_iff`
    * `bind_eq_ok_iff`
    * `map_eq_ok_iff`
-/

namespace LedgerView

/- Parts are read if each one is. -/
theorem mapM_eq_some_iff
    {α β : Type}
    {read : α → Option β}
    {parts : List α}
    {values : List β} :
    parts.mapM read = some values ↔
      parts.map read = values.map some := by
  induction parts generalizing values with
  | nil => cases values <;> simp
  | cons part rest ih =>
      simp only [List.mapM_cons, Option.bind_eq_bind,
        Option.bind_eq_some_iff, Option.pure_def,
        Option.some.injEq, ih]
      constructor
      · rintro ⟨value, hPart, more, hRest, hCons⟩
        rw [← hCons, List.map_cons, List.map_cons, hPart, hRest]
      · intro hAll
        cases values with
        | nil => cases hAll
        | cons value more =>
            rcases List.cons.inj hAll with ⟨hPart, hRest⟩
            exact ⟨value, hPart, more, hRest, rfl⟩

/- What is read in two steps is read if both are. -/
theorem bind_eq_ok_iff
    {ε α β : Type}
    {first : Except ε α}
    {next : α → Except ε β}
    {b : β} :
    (first >>= next) = .ok b ↔
      ∃ a, first = .ok a ∧ next a = .ok b := by
  cases first with
  | error e =>
      constructor
      · intro hNext
        cases hNext
      · rintro ⟨a, hFirst, -⟩
        cases hFirst
  | ok a =>
      constructor
      · intro hNext
        exact ⟨a, rfl, hNext⟩
      · rintro ⟨a', hFirst, hNext⟩
        cases hFirst
        exact hNext

/- What is made of something read was made of what was read. -/
theorem map_eq_ok_iff
    {ε α β : Type}
    {f : α → β}
    {read : Except ε α}
    {b : β} :
    read.map f = .ok b ↔ ∃ a, read = .ok a ∧ f a = b := by
  cases read with
  | error e =>
      constructor
      · intro hMap
        cases hMap
      · rintro ⟨a, hRead, -⟩
        cases hRead
  | ok a =>
      constructor
      · intro hMap
        cases hMap
        exact ⟨a, rfl, rfl⟩
      · rintro ⟨a', hRead, hMade⟩
        cases hRead
        rw [← hMade]
        rfl

end LedgerView
