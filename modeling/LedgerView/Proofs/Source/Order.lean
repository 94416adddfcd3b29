import Mathlib.Order.Lattice
import LedgerView.Pager.Source

/-
  Queries on lists in descending order.

  In a descending list the rows on one side of a key stand
  together: those below it are a suffix, those above it are a
  prefix.  So the answer to a bounded query is a run of the
  list without gaps, and a query that continues from a row of
  the list is answered by the rows next to it.

  Key definitions include:
    * `Descending`
    * `Archive`
    * `SortOrder.Precedes`
    * `ListQuery.Honest`
    * `SortOrder.Follows`

  Key theorems include:
    * `selectRows_infix_of_desc`
    * `selectRows_suffix_of_short`
    * `selectRows_older`
    * `selectRows_newer`
    * `honest_selectRows`
-/

namespace LedgerView

variable {ρ κ : Type}

------------------------------------------------------------
-- Filtering Ordered Lists
------------------------------------------------------------

/-
  A predicate that passes from each row to the later ones
  selects a suffix.
-/
theorem filter_suffix_of_pairwise
    (p : ρ → Bool)
    {rows : List ρ}
    (hLater :
      rows.Pairwise fun a b => p a = true → p b = true) :
    rows.filter p <:+ rows := by
  induction rows with
  | nil => exact List.suffix_rfl
  | cons a rest ih =>
      rcases List.pairwise_cons.mp hLater with ⟨hHead, hRest⟩
      by_cases hA : p a = true
      · have hAll : ∀ b ∈ a :: rest, p b = true := by
          intro b hb
          rcases List.mem_cons.mp hb with hEq | hMem
          · rw [hEq]
            exact hA
          · exact hHead b hMem hA
        exact ⟨[], List.filter_eq_self.mpr hAll⟩
      · rw [List.filter_cons_of_neg hA]
        exact (ih hRest).trans (List.suffix_cons a rest)

/-
  A predicate that passes from each row to the earlier ones
  selects a prefix.
-/
theorem filter_prefix_of_pairwise
    (p : ρ → Bool)
    {rows : List ρ}
    (hEarlier :
      rows.Pairwise fun a b => p b = true → p a = true) :
    rows.filter p <+: rows := by
  induction rows with
  | nil => exact List.prefix_rfl
  | cons a rest ih =>
      rcases List.pairwise_cons.mp hEarlier with
        ⟨hHead, hRest⟩
      by_cases hA : p a = true
      · rw [List.filter_cons_of_pos hA]
        exact List.cons_prefix_cons.mpr ⟨rfl, ih hRest⟩
      · have hNone : ∀ b ∈ a :: rest, ¬ p b = true := by
          intro b hb hB
          rcases List.mem_cons.mp hb with hEq | hMem
          · exact hA (hEq ▸ hB)
          · exact hA (hHead b hMem hB)
        rw [List.filter_eq_nil_iff.mpr hNone]
        exact List.nil_prefix

------------------------------------------------------------
-- Keys in Order
------------------------------------------------------------

/- The keys of the rows descend strictly, so none is repeated. -/
def Descending
    [LT κ]
    (key : ρ → κ)
    (rows : List ρ) : Prop :=
  rows.Pairwise fun a b => key b < key a

/- Rows that a source can hold: each key once, newest first. -/
structure Archive
    [LT κ]
    (key : ρ → κ) where
  rows : List ρ
  descends : Descending key rows

/- The first key may stand before the second. -/
def SortOrder.Precedes
    [LT κ]
    (order : SortOrder)
    (a b : κ) : Prop :=
  match order with
  | asc => a < b
  | desc => b < a

/-
  What every source promises of an answer: its rows stand
  strictly in the order asked for, and each is one of those
  asked for.  Nothing is said of their number.
-/
def ListQuery.Honest
    [LinearOrder κ]
    (key : ρ → κ)
    (q : ListQuery κ)
    (rows : List ρ) : Prop :=
  (rows.Pairwise fun a b => q.order.Precedes (key a) (key b)) ∧
    ∀ row ∈ rows, q.wants (key row) = true

namespace Descending

variable [LinearOrder κ]
variable {key : ρ → κ}

instance
    (key : ρ → κ)
    (rows : List ρ) :
    Decidable (Descending key rows) := by
  unfold Descending
  infer_instance

/- Part of a descending list descends. -/
theorem sublist
    {part rows : List ρ}
    (hRows : Descending key rows)
    (hPart : part.Sublist rows) :
    Descending key part :=
  List.Pairwise.sublist hPart hRows

/- Two descending lists join where the keys still descend. -/
theorem append_iff
    {newer older : List ρ} :
    Descending key (newer ++ older) ↔
      Descending key newer ∧ Descending key older ∧
        ∀ a ∈ newer, ∀ b ∈ older, key b < key a :=
  List.pairwise_append

/- No key is repeated. -/
theorem nodup
    {rows : List ρ}
    (hRows : Descending key rows) :
    (rows.map key).Nodup := by
  apply List.pairwise_map.mpr
  apply List.Pairwise.imp _ hRows
  intro a b hLt
  exact ne_of_gt hLt

/- The first key is the greatest. -/
theorem le_head
    {row : ρ}
    {older : List ρ}
    (hRows : Descending key (row :: older)) :
    ∀ b ∈ row :: older, key b ≤ key row := by
  intro b hb
  rcases List.mem_cons.mp hb with hEq | hMem
  · rw [hEq]
  · exact le_of_lt (List.rel_of_pairwise_cons hRows hMem)

/- The last key is the least. -/
theorem last_le
    {newer : List ρ}
    {row : ρ}
    (hRows : Descending key (newer ++ [row])) :
    ∀ a ∈ newer ++ [row], key row ≤ key a := by
  intro a ha
  rcases List.mem_append.mp ha with hMem | hEq
  · have hAcross := (append_iff.mp hRows).2.2
    exact le_of_lt (hAcross a hMem row (List.mem_singleton_self _))
  · rw [List.mem_singleton.mp hEq]

end Descending

------------------------------------------------------------
-- Operators in a Linear Order
------------------------------------------------------------

namespace Operator

variable [LinearOrder κ]
variable {a b : κ}

@[simp] theorem accepts_gt_iff :
    gt.accepts a b = true ↔ b < a := by
  simp [accepts, compare_gt_iff_gt]

@[simp] theorem accepts_gte_iff :
    gte.accepts a b = true ↔ b ≤ a := by
  rw [← compare_ge_iff_ge]
  simp [accepts]

@[simp] theorem accepts_lt_iff :
    lt.accepts a b = true ↔ a < b := by
  simp [accepts, compare_lt_iff_lt]

@[simp] theorem accepts_lte_iff :
    lte.accepts a b = true ↔ a ≤ b := by
  rw [← compare_le_iff_le]
  simp [accepts]

end Operator

------------------------------------------------------------
-- Directions
------------------------------------------------------------

section Directions

variable [LinearOrder κ]

/- A key that comes after another comes after all before it. -/
theorem SortOrder.Precedes.trans
    {order : SortOrder}
    {a b c : κ}
    (hFirst : order.Precedes a b)
    (hSecond : order.Precedes b c) :
    order.Precedes a c := by
  cases order with
  | asc => exact lt_trans hFirst hSecond
  | desc => exact lt_trans hSecond hFirst

/- The operator asks for the rows that come after a bound. -/
def SortOrder.Follows
    (order : SortOrder)
    (op : Operator) : Prop :=
  op.strict = op ∧
    ∀ {a b : κ}, op.accepts a b = true ↔ order.Precedes b a

/- In ascending order those are the rows above it, -/
theorem SortOrder.asc_follows :
    asc.Follows (κ := κ) .gt :=
  ⟨rfl, Operator.accepts_gt_iff⟩

/- and in descending order the rows below it. -/
theorem SortOrder.desc_follows :
    desc.Follows (κ := κ) .lt :=
  ⟨rfl, Operator.accepts_lt_iff⟩

/- The operator that leaves out the bound does so once and for all. -/
theorem Operator.strict_strict
    (op : Operator) :
    op.strict.strict = op.strict := by
  cases op <;> rfl

end Directions

------------------------------------------------------------
-- The Rows on One Side of a Row
------------------------------------------------------------

namespace Descending

variable [LinearOrder κ]
variable {key : ρ → κ}

/- The rows below a row are those that follow it. -/
theorem filter_lt
    {newer older : List ρ}
    {row : ρ}
    (hRows : Descending key (newer ++ row :: older)) :
    (newer ++ row :: older).filter
        (fun r => Operator.lt.accepts (key r) (key row)) =
      older := by
  rcases append_iff.mp hRows with ⟨_, hOlder, hAcross⟩
  have hNewer :
      newer.filter
          (fun r => Operator.lt.accepts (key r) (key row)) =
        [] := by
    apply List.filter_eq_nil_iff.mpr
    intro r hr hBelow
    have hAbove := hAcross r hr row (by simp)
    exact lt_asymm hAbove (Operator.accepts_lt_iff.mp hBelow)
  have hBelow :
      older.filter
          (fun r => Operator.lt.accepts (key r) (key row)) =
        older := by
    apply List.filter_eq_self.mpr
    intro r hr
    exact Operator.accepts_lt_iff.mpr
      (List.rel_of_pairwise_cons hOlder hr)
  rw [List.filter_append, hNewer,
    List.filter_cons_of_neg (by simp), hBelow,
    List.nil_append]

/- The rows above a row are those that precede it. -/
theorem filter_gt
    {newer older : List ρ}
    {row : ρ}
    (hRows : Descending key (newer ++ row :: older)) :
    (newer ++ row :: older).filter
        (fun r => Operator.gt.accepts (key r) (key row)) =
      newer := by
  rcases append_iff.mp hRows with ⟨_, hOlder, hAcross⟩
  have hAbove :
      newer.filter
          (fun r => Operator.gt.accepts (key r) (key row)) =
        newer := by
    apply List.filter_eq_self.mpr
    intro r hr
    exact Operator.accepts_gt_iff.mpr
      (hAcross r hr row (by simp))
  have hRest :
      older.filter
          (fun r => Operator.gt.accepts (key r) (key row)) =
        [] := by
    apply List.filter_eq_nil_iff.mpr
    intro r hr hGt
    have hLt := List.rel_of_pairwise_cons hOlder hr
    exact lt_asymm hLt (Operator.accepts_gt_iff.mp hGt)
  rw [List.filter_append, hAbove,
    List.filter_cons_of_neg (by simp), hRest,
    List.append_nil]

/- The rows down to a row are those that precede it, and it. -/
theorem filter_gte
    {newer older : List ρ}
    {row : ρ}
    (hRows : Descending key (newer ++ row :: older)) :
    (newer ++ row :: older).filter
        (fun r => Operator.gte.accepts (key r) (key row)) =
      newer ++ [row] := by
  rcases append_iff.mp hRows with ⟨_, hOlder, hAcross⟩
  have hAbove :
      newer.filter
          (fun r => Operator.gte.accepts (key r) (key row)) =
        newer := by
    apply List.filter_eq_self.mpr
    intro r hr
    exact Operator.accepts_gte_iff.mpr
      (le_of_lt (hAcross r hr row (by simp)))
  have hRest :
      older.filter
          (fun r => Operator.gte.accepts (key r) (key row)) =
        [] := by
    apply List.filter_eq_nil_iff.mpr
    intro r hr hGte
    have hLt := List.rel_of_pairwise_cons hOlder hr
    exact not_le_of_gt hLt (Operator.accepts_gte_iff.mp hGte)
  rw [List.filter_append, hAbove,
    List.filter_cons_of_pos (by simp), hRest]

/- The rows from a row down are it and those that follow it. -/
theorem filter_lte
    {newer older : List ρ}
    {row : ρ}
    (hRows : Descending key (newer ++ row :: older)) :
    (newer ++ row :: older).filter
        (fun r => Operator.lte.accepts (key r) (key row)) =
      row :: older := by
  rcases append_iff.mp hRows with ⟨_, hOlder, hAcross⟩
  have hNewer :
      newer.filter
          (fun r => Operator.lte.accepts (key r) (key row)) =
        [] := by
    apply List.filter_eq_nil_iff.mpr
    intro r hr hBelow
    have hAbove := hAcross r hr row (by simp)
    exact not_le_of_gt hAbove (Operator.accepts_lte_iff.mp hBelow)
  have hBelow :
      (row :: older).filter
          (fun r => Operator.lte.accepts (key r) (key row)) =
        row :: older := by
    apply List.filter_eq_self.mpr
    intro r hr
    exact Operator.accepts_lte_iff.mpr (hOlder.le_head r hr)
  rw [List.filter_append, hNewer, hBelow, List.nil_append]

/- A key stands at one place of a descending list. -/
theorem split_unique
    {newer older newer' older' : List ρ}
    {row row' : ρ}
    (hRows : Descending key (newer ++ row :: older))
    (hSame :
      newer ++ row :: older = newer' ++ row' :: older')
    (hKey : key row = key row') :
    newer = newer' ∧ older = older' := by
  have hRows' := hRows
  rw [hSame] at hRows'
  constructor
  · rw [← hRows.filter_gt, ← hRows'.filter_gt, hSame, hKey]
  · rw [← hRows.filter_lt, ← hRows'.filter_lt, hSame, hKey]

end Descending

------------------------------------------------------------
-- Truthful Answers
------------------------------------------------------------

section Answers

variable [LinearOrder κ]
variable {key : ρ → κ}

/- A query that asks for the rows down to the oldest one. -/
def ListQuery.ReachesDown
    (q : ListQuery κ) : Prop :=
  q.order = .desc ∧ (q.operator = .lt ∨ q.operator = .lte)

/- The rows that such a query asks for are a suffix. -/
theorem filter_wants_isSuffix
    {rows : List ρ}
    {q : ListQuery κ}
    (hRows : Descending key rows)
    (hDown : q.ReachesDown) :
    rows.filter (fun row => q.wants (key row)) <:+ rows := by
  apply filter_suffix_of_pairwise
  apply List.Pairwise.imp _ hRows
  intro a b hLt hA
  unfold ListQuery.wants at hA ⊢
  cases hKey : q.key with
  | none => rfl
  | some bound =>
      rcases hDown.2 with hOp | hOp
      · simp only [hKey, hOp, Operator.accepts_lt_iff] at hA ⊢
        exact lt_trans hLt hA
      · simp only [hKey, hOp, Operator.accepts_lte_iff] at hA ⊢
        exact le_of_lt (lt_of_lt_of_le hLt hA)

/- The rows that any other query asks for are a prefix. -/
theorem filter_wants_isPrefix
    {rows : List ρ}
    {q : ListQuery κ}
    (hRows : Descending key rows)
    (hUp : q.operator = .gt ∨ q.operator = .gte) :
    rows.filter (fun row => q.wants (key row)) <+: rows := by
  apply filter_prefix_of_pairwise
  apply List.Pairwise.imp _ hRows
  intro a b hLt hB
  unfold ListQuery.wants at hB ⊢
  cases hKey : q.key with
  | none => rfl
  | some bound =>
      rcases hUp with hOp | hOp
      · simp only [hKey, hOp, Operator.accepts_gt_iff] at hB ⊢
        exact lt_trans hB hLt
      · simp only [hKey, hOp, Operator.accepts_gte_iff] at hB ⊢
        exact le_of_lt (lt_of_le_of_lt hB hLt)

/- A descending answer is a run of the list without gaps. -/
theorem selectRows_infix_of_desc
    {rows : List ρ}
    {q : ListQuery κ}
    (hRows : Descending key rows)
    (hOrder : q.order = .desc) :
    selectRows key rows q <:+: rows := by
  have hFilter :
      rows.filter (fun row => q.wants (key row)) <:+: rows := by
    cases hOp : q.operator with
    | gt =>
        exact (filter_wants_isPrefix hRows (.inl hOp)).isInfix
    | gte =>
        exact (filter_wants_isPrefix hRows (.inr hOp)).isInfix
    | lt =>
        exact (filter_wants_isSuffix hRows
          ⟨hOrder, .inl hOp⟩).isInfix
    | lte =>
        exact (filter_wants_isSuffix hRows
          ⟨hOrder, .inr hOp⟩).isInfix
  unfold selectRows
  rw [hOrder]
  exact (List.take_prefix _ _).isInfix.trans hFilter

/-
  An answer of fewer rows than allowed goes down to the oldest
  row, if the query does.
-/
theorem selectRows_suffix_of_short
    {rows : List ρ}
    {q : ListQuery κ}
    (hRows : Descending key rows)
    (hDown : q.ReachesDown)
    (hShort : (selectRows key rows q).length < q.limit) :
    selectRows key rows q <:+ rows := by
  unfold selectRows at hShort ⊢
  rw [hDown.1] at hShort ⊢
  have hWhole :
      (rows.filter fun row => q.wants (key row)).length ≤
        q.limit := by
    have hLength := List.length_take
      (i := q.limit)
      (l := rows.filter fun row => q.wants (key row))
    simp only at hShort
    omega
  simp only
  rw [List.take_of_length_le hWhole]
  exact filter_wants_isSuffix hRows hDown

/- Below a row of the list stand the rows that follow it. -/
theorem selectRows_older
    {newer older : List ρ}
    {row : ρ}
    (limit : Nat)
    (hRows : Descending key (newer ++ row :: older)) :
    selectRows key (newer ++ row :: older)
        ⟨some (key row), .lt, .desc, limit⟩ =
      older.take limit :=
  congrArg (List.take limit) hRows.filter_lt

/- Above a row of the list stand the rows that precede it. -/
theorem selectRows_newer
    {newer older : List ρ}
    {row : ρ}
    (limit : Nat)
    (hRows : Descending key (newer ++ row :: older)) :
    selectRows key (newer ++ row :: older)
        ⟨some (key row), .gt, .asc, limit⟩ =
      newer.reverse.take limit :=
  congrArg (fun rows => rows.reverse.take limit)
    hRows.filter_gt

/- A descending list selects what is promised of a source. -/
theorem honest_selectRows
    {rows : List ρ}
    (hRows : Descending key rows)
    (q : ListQuery κ) :
    q.Honest key (selectRows key rows q) := by
  have hWanted :
      Descending key (rows.filter fun row => q.wants (key row)) :=
    hRows.sublist List.filter_sublist
  have hEach :
      ∀ row ∈ rows.filter fun row => q.wants (key row),
        q.wants (key row) = true := by
    intro row hRow
    exact (List.mem_filter.mp hRow).2
  unfold ListQuery.Honest selectRows
  cases q.order with
  | asc =>
      refine ⟨(List.pairwise_reverse.mpr hWanted).sublist
        (List.take_sublist _ _), ?_⟩
      intro row hRow
      exact hEach row
        (List.mem_reverse.mp (List.mem_of_mem_take hRow))
  | desc =>
      refine ⟨hWanted.sublist (List.take_sublist _ _), ?_⟩
      intro row hRow
      exact hEach row (List.mem_of_mem_take hRow)

end Answers

end LedgerView
