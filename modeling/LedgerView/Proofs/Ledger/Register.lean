import Mathlib.Data.Finmap
import Mathlib.Data.Finset.Sort
import Mathlib.Data.List.Destutter
import LedgerView.Ledger.MemoryList
import LedgerView.Proofs.Source.Order

/-
  A list in memory as a finite map.

  What a list of rows in memory amounts to is a register: for
  each key at most one row.  The list keeps the rows of its
  register in descending order, through every insertion and
  removal, and so answers each query with the rows that the
  register has for it.

  The place of a row is given by what a search for its key
  comes back with.  Whatever way the search takes, insertion
  puts the row there.

  Key definitions include:
    * `Register`
    * `Register.select`
    * `ListChange`
    * `MemoryList.Keeps`

  Key theorems include:
    * `MemoryList.rows_ofRows`
    * `MemoryList.Keeps.change`
    * `MemoryList.Keeps.selectRows_eq`
    * `memoryList_refines_register`
-/

namespace LedgerView

variable {ρ κ : Type}
variable [LinearOrder κ]

------------------------------------------------------------
-- Registers
------------------------------------------------------------

/- For each key the row on record, if there is one. -/
abbrev Register (ρ κ : Type) :=
  Finmap fun _ : κ => ρ

/- A call that changes the rows of a list. -/
inductive ListChange (ρ κ : Type) where
  | insert (row : ρ)
  | remove (k : κ)
deriving Repr, DecidableEq

namespace Register

/- The register of some rows; of equal keys the first counts. -/
def ofRows
    (key : ρ → κ)
    (rows : List ρ) : Register ρ κ :=
  rows.foldr (fun row f => f.insert (key row) row) ∅

/- Make a change, with the row that a removal takes out. -/
def change
    (key : ρ → κ)
    (f : Register ρ κ) :
    ListChange ρ κ → Register ρ κ × Option ρ
  | .insert row => (f.insert (key row) row, none)
  | .remove k => (f.erase k, f.lookup k)

/- Make changes in order, with the row that each takes out. -/
def changes
    (key : ρ → κ)
    (f : Register ρ κ) :
    List (ListChange ρ κ) → Register ρ κ × List (Option ρ)
  | [] => (f, [])
  | c :: rest =>
      let (next, taken) := f.change key c
      let (last, others) := changes key next rest
      (last, taken :: others)

/- The keys in an order. -/
def keysIn
    (keys : Finset κ) : SortOrder → List κ
  | .asc => keys.sort (· ≤ ·)
  | .desc => keys.sort (· ≥ ·)

/-
  The answer to a query: of the entries with a wanted key, in
  the order asked for, the first ones up to the limit.
-/
def select
    (f : Register ρ κ)
    (q : ListQuery κ) : List ρ :=
  let wanted := f.keys.filter fun k => q.wants k = true
  ((keysIn wanted q.order).filterMap f.lookup).take q.limit

/- The row under a key is the first of the rows with the key. -/
theorem lookup_ofRows
    (key : ρ → κ)
    (rows : List ρ)
    (k : κ) :
    (ofRows key rows).lookup k =
      rows.find? fun row => decide (key row = k) := by
  induction rows with
  | nil => exact Finmap.lookup_empty k
  | cons row rest ih =>
      change Finmap.lookup k
        (Finmap.insert (key row) row (ofRows key rest)) = _
      by_cases hKey : key row = k
      · subst hKey
        simp
      · rw [Finmap.lookup_insert_of_ne _ (Ne.symm hKey), ih]
        simp [hKey]

end Register

namespace MemoryList

/- Make a change, with the row that a removal takes out. -/
def change
    (key : ρ → κ)
    (m : MemoryList ρ) :
    ListChange ρ κ → MemoryList ρ × Option ρ
  | .insert row => (m.insert key row, none)
  | .remove k => m.remove key k

/- Make changes in order, with the row that each takes out. -/
def changes
    (key : ρ → κ)
    (m : MemoryList ρ) :
    List (ListChange ρ κ) → MemoryList ρ × List (Option ρ)
  | [] => (m, [])
  | c :: rest =>
      let (next, taken) := m.change key c
      let (last, others) := changes key next rest
      (last, taken :: others)

end MemoryList

------------------------------------------------------------
-- Searching a Descending List
------------------------------------------------------------

/-
  What a search for a key finds: a row with the key, or the
  place where one would stand.
-/
inductive Sought
    (key : ρ → κ)
    (k : κ) : List ρ → Prop where
  | missing
      (newer older : List ρ)
      (hAbove : ∀ a ∈ newer, k < key a)
      (hBelow : ∀ b ∈ older, key b < k) :
      Sought key k (newer ++ older)
  | found
      (newer : List ρ)
      (row : ρ)
      (older : List ρ)
      (hAbove : ∀ a ∈ newer, k < key a)
      (hKey : key row = k)
      (hBelow : ∀ b ∈ older, key b < k) :
      Sought key k (newer ++ row :: older)

section Search

variable {key : ρ → κ}

/- A search of a descending list always comes to one of them. -/
theorem Descending.sought
    {rows : List ρ}
    (hRows : Descending key rows)
    (k : κ) :
    Sought key k rows := by
  induction rows with
  | nil =>
      apply Sought.missing [] [] <;> simp
  | cons row rest ih =>
      rcases List.pairwise_cons.mp hRows with ⟨hHead, hRest⟩
      rcases lt_trichotomy (key row) k with hLt | hEq | hGt
      · apply Sought.missing [] (row :: rest) (by simp)
        intro b hb
        exact lt_of_le_of_lt (hRows.le_head b hb) hLt
      · apply Sought.found [] row rest (by simp) hEq
        intro b hb
        exact hEq ▸ hHead b hb
      · have hAbove :
            ∀ newer : List ρ, (∀ a ∈ newer, k < key a) →
              ∀ a ∈ row :: newer, k < key a := by
          intro newer hNewer a ha
          rcases List.mem_cons.mp ha with hEq | hMem
          · exact hEq ▸ hGt
          · exact hNewer a hMem
        cases ih hRest with
        | missing newer older hNewer hOlder =>
            exact .missing (row :: newer) older
              (hAbove newer hNewer) hOlder
        | found newer r older hNewer hKey hOlder =>
            exact .found (row :: newer) r older
              (hAbove newer hNewer) hKey hOlder

/- No row above or below a key has it. -/
theorem find?_eq_none_of_ne
    {k : κ}
    {rows : List ρ}
    (hNe : ∀ row ∈ rows, key row ≠ k) :
    (rows.find? fun row => decide (key row = k)) = none := by
  apply List.find?_eq_none.mpr
  intro row hRow
  simpa using hNe row hRow

/- The row found is the one at the place. -/
theorem find?_found
    {newer older : List ρ}
    {row : ρ}
    (hAbove : ∀ a ∈ newer, key row < key a) :
    (newer ++ row :: older).find?
        (fun r => decide (key r = key row)) =
      some row := by
  rw [List.find?_append,
    find?_eq_none_of_ne fun a ha => ne_of_gt (hAbove a ha)]
  simp

/- Nothing is found for a key that no row has. -/
theorem find?_missing
    {k : κ}
    {newer older : List ρ}
    (hAbove : ∀ a ∈ newer, k < key a)
    (hBelow : ∀ b ∈ older, key b < k) :
    ((newer ++ older).find? fun r => decide (key r = k)) =
      none := by
  apply find?_eq_none_of_ne
  intro r hr
  rcases List.mem_append.mp hr with hNewer | hOlder
  · exact ne_of_gt (hAbove r hNewer)
  · exact ne_of_lt (hBelow r hOlder)

/- One row more or less says nothing about other keys. -/
theorem find?_skip
    {k : κ}
    {newer older : List ρ}
    {row : ρ}
    (hNe : key row ≠ k) :
    ((newer ++ row :: older).find? fun r => decide (key r = k)) =
      (newer ++ older).find? fun r => decide (key r = k) := by
  simp [List.find?_append, hNe]

/- In a descending list every row is found by its own key. -/
theorem Descending.find?_of_mem
    {rows : List ρ}
    {row : ρ}
    (hRows : Descending key rows)
    (hMem : row ∈ rows) :
    (rows.find? fun r => decide (key r = key row)) =
      some row := by
  rcases List.append_of_mem hMem with ⟨newer, older, hSplit⟩
  subst hSplit
  apply find?_found
  intro a ha
  exact (Descending.append_iff.mp hRows).2.2 a ha row (by simp)

/- Descending lists with the same row under each key agree. -/
theorem Descending.eq_of_find?
    {rows rows' : List ρ}
    (hRows : Descending key rows)
    (hRows' : Descending key rows')
    (hFinds :
      ∀ k, (rows.find? fun r => decide (key r = k)) =
        rows'.find? fun r => decide (key r = k)) :
    rows = rows' := by
  have hMem : ∀ row, row ∈ rows ↔ row ∈ rows' := by
    intro row
    constructor
    · intro hRow
      apply List.mem_of_find?_eq_some
      rw [← hFinds (key row)]
      exact hRows.find?_of_mem hRow
    · intro hRow
      apply List.mem_of_find?_eq_some
      rw [hFinds (key row)]
      exact hRows'.find?_of_mem hRow
  have hPerm : rows.Perm rows' :=
    (List.perm_ext_iff_of_nodup
      (List.Nodup.of_map key hRows.nodup)
      (List.Nodup.of_map key hRows'.nodup)).mpr hMem
  apply List.Perm.eq_of_pairwise _ hRows hRows' hPerm
  intro a b _ _ hLt hGt
  exact (lt_asymm hLt hGt).elim

end Search

------------------------------------------------------------
-- Insertion
------------------------------------------------------------

namespace MemoryList

variable {key : ρ → κ}
variable {merge : ρ → ρ → ρ}

/- A row with a new key goes to the place found for it. -/
theorem insertRow_of_missing
    {row : ρ}
    {newer older : List ρ}
    (hAbove : ∀ a ∈ newer, key row < key a)
    (hBelow : ∀ b ∈ older, key b < key row) :
    insertRow key merge row (newer ++ older) =
      newer ++ row :: older := by
  induction newer with
  | nil =>
      cases older with
      | nil => rfl
      | cons b rest =>
          have hGt : compare (key row) (key b) = .gt :=
            compare_gt_iff_gt.mpr (hBelow b (by simp))
          simp [insertRow, hGt]
  | cons a rest ih =>
      have hLt : compare (key row) (key a) = .lt :=
        compare_lt_iff_lt.mpr (hAbove a (by simp))
      simp only [List.cons_append, insertRow, hLt]
      rw [ih fun b hb => hAbove b (by simp [hb])]

/- A row with a known key is merged with the one found. -/
theorem insertRow_of_found
    {row r : ρ}
    {newer older : List ρ}
    (hAbove : ∀ a ∈ newer, key row < key a)
    (hKey : key r = key row) :
    insertRow key merge row (newer ++ r :: older) =
      newer ++ merge r row :: older := by
  induction newer with
  | nil =>
      have hEq : compare (key row) (key r) = .eq :=
        compare_eq_iff_eq.mpr hKey.symm
      simp [insertRow, hEq]
  | cons a rest ih =>
      have hLt : compare (key row) (key a) = .lt :=
        compare_lt_iff_lt.mpr (hAbove a (by simp))
      simp only [List.cons_append, insertRow, hLt]
      rw [ih fun b hb => hAbove b (by simp [hb])]

/- A search by position: the new row takes the old one's. -/
theorem insertRow_eq_set
    {row r : ρ}
    {rows : List ρ}
    {i : Nat}
    (hRows : Descending key rows)
    (hFound : rows[i]? = some r)
    (hKey : key r = key row) :
    insertRow key (fun _ new => new) row rows =
      rows.set i row := by
  rcases List.getElem?_eq_some_iff.mp hFound with ⟨hi, hGet⟩
  have hSplit : rows.take i ++ r :: rows.drop (i + 1) = rows := by
    rw [← hGet, List.getElem_cons_drop, List.take_append_drop]
  have hAbove : ∀ a ∈ rows.take i, key row < key a := by
    rw [← hSplit] at hRows
    intro a ha
    rw [← hKey]
    exact (Descending.append_iff.mp hRows).2.2 a ha r (by simp)
  calc
    insertRow key (fun _ new => new) row rows
      = insertRow key (fun _ new => new) row
          (rows.take i ++ r :: rows.drop (i + 1)) := by
        rw [hSplit]
    _ = rows.take i ++ row :: rows.drop (i + 1) :=
        insertRow_of_found hAbove hKey
    _ = rows.set i row :=
        (List.set_eq_take_append_cons_drop.trans
          (if_pos hi)).symm

/- Insertion at the end of a first part. -/
theorem insertIdx_length_append
    (newer older : List ρ)
    (row : ρ) :
    (newer ++ older).insertIdx newer.length row =
      newer ++ row :: older := by
  induction newer with
  | nil => rfl
  | cons a rest ih =>
      simp only [List.cons_append, List.length_cons,
        List.insertIdx_succ_cons, ih]

/- A search by position: the new row moves the older ones. -/
theorem insertRow_eq_insertIdx
    {row : ρ}
    {rows : List ρ}
    {i : Nat}
    (hi : i ≤ rows.length)
    (hAbove : ∀ a ∈ rows.take i, key row < key a)
    (hBelow : ∀ b ∈ rows.drop i, key b < key row) :
    insertRow key merge row rows = rows.insertIdx i row := by
  calc
    insertRow key merge row rows
      = insertRow key merge row (rows.take i ++ rows.drop i) := by
        rw [List.take_append_drop]
    _ = rows.take i ++ row :: rows.drop i :=
        insertRow_of_missing hAbove hBelow
    _ = (rows.take i ++ rows.drop i).insertIdx
          (rows.take i).length row :=
        (insertIdx_length_append _ _ row).symm
    _ = rows.insertIdx i row := by
        rw [List.take_append_drop, List.length_take_of_le hi]

/- Insertion keeps the order, if merging keeps the key. -/
theorem descending_insertRow
    {rows : List ρ}
    {row : ρ}
    (hRows : Descending key rows)
    (hMerge : ∀ old, key old = key row →
      key (merge old row) = key row) :
    Descending key (insertRow key merge row rows) := by
  cases hRows.sought (key row) with
  | missing newer older hAbove hBelow =>
      rw [insertRow_of_missing hAbove hBelow]
      rcases Descending.append_iff.mp hRows with
        ⟨hNewer, hOlder, hAcross⟩
      apply Descending.append_iff.mpr
      refine ⟨hNewer, List.pairwise_cons.mpr ⟨hBelow, hOlder⟩, ?_⟩
      intro a ha b hb
      rcases List.mem_cons.mp hb with hEq | hMem
      · exact hEq ▸ hAbove a ha
      · exact hAcross a ha b hMem
  | found newer r older hAbove hKey hBelow =>
      rw [insertRow_of_found hAbove hKey]
      rcases Descending.append_iff.mp hRows with
        ⟨hNewer, hOlder, hAcross⟩
      have hSame := hMerge r hKey
      apply Descending.append_iff.mpr
      refine ⟨hNewer, List.pairwise_cons.mpr
        ⟨fun b hb => hSame ▸ hBelow b hb,
          (List.pairwise_cons.mp hOlder).2⟩, ?_⟩
      intro a ha b hb
      rcases List.mem_cons.mp hb with hEq | hMem
      · rw [hEq, hSame]
        exact hAbove a ha
      · exact hAcross a ha b (List.mem_cons_of_mem r hMem)

/- Under other keys an insertion changes nothing. -/
theorem find?_insertRow_of_ne
    {rows : List ρ}
    {row : ρ}
    {k : κ}
    (hRows : Descending key rows)
    (hMerge : ∀ old, key old = key row →
      key (merge old row) = key row)
    (hNe : key row ≠ k) :
    ((insertRow key merge row rows).find?
        fun r => decide (key r = k)) =
      rows.find? fun r => decide (key r = k) := by
  cases hRows.sought (key row) with
  | missing newer older hAbove hBelow =>
      rw [insertRow_of_missing hAbove hBelow, find?_skip hNe]
  | found newer r older hAbove hKey hBelow =>
      rw [insertRow_of_found hAbove hKey,
        find?_skip (by rw [hMerge r hKey]; exact hNe),
        find?_skip (by rw [hKey]; exact hNe)]

/- Under its own key the row is found, merged with an old one. -/
theorem find?_insertRow_self
    {rows : List ρ}
    {row : ρ}
    (hRows : Descending key rows)
    (hMerge : ∀ old, key old = key row →
      key (merge old row) = key row) :
    ((insertRow key merge row rows).find?
        fun r => decide (key r = key row)) =
      some
        (match rows.find? fun r => decide (key r = key row) with
        | none => row
        | some old => merge old row) := by
  cases hRows.sought (key row) with
  | missing newer older hAbove hBelow =>
      rw [insertRow_of_missing hAbove hBelow, find?_found hAbove,
        find?_missing hAbove hBelow]
  | found newer r older hAbove hKey hBelow =>
      have hAbove' : ∀ a ∈ newer, key r < key a := by
        rw [hKey]
        exact hAbove
      have hNew : ∀ a ∈ newer, key (merge r row) < key a := by
        rw [hMerge r hKey]
        exact hAbove
      have hOld :
          (newer ++ r :: older).find?
              (fun a => decide (key a = key row)) =
            some r := by
        rw [← hKey]
        exact find?_found hAbove'
      have hMerged :
          (newer ++ merge r row :: older).find?
              (fun a => decide (key a = key row)) =
            some (merge r row) := by
        rw [← hMerge r hKey]
        exact find?_found hNew
      rw [insertRow_of_found hAbove hKey, hOld, hMerged]

end MemoryList

------------------------------------------------------------
-- The First of Equal Keys
------------------------------------------------------------

namespace MemoryList

variable {key : ρ → κ}

/- Rows put in one by one, the older of equal keys kept. -/
theorem foldl_insertRow
    (rows : List ρ)
    {all : List ρ}
    (hAll : Descending key all) :
    let last :=
      rows.foldl
        (fun all row => insertRow key (fun old _ => old) row all)
        all
    Descending key last ∧
      ∀ k, (last.find? fun r => decide (key r = k)) =
        (all ++ rows).find? fun r => decide (key r = k) := by
  induction rows generalizing all with
  | nil => simpa using hAll
  | cons row rest ih =>
      have hMerge :
          ∀ old, key old = key row → key old = key row :=
        fun _ hKey => hKey
      have hNext :
          Descending key
            (insertRow key (fun old _ => old) row all) :=
        descending_insertRow hAll hMerge
      rcases ih hNext with ⟨hLast, hFinds⟩
      refine ⟨hLast, ?_⟩
      intro k
      refine (hFinds k).trans ?_
      rw [List.find?_append, List.find?_append,
        List.find?_cons]
      by_cases hKey : key row = k
      · subst hKey
        rw [find?_insertRow_self hAll hMerge]
        cases all.find? fun r => decide (key r = key row) <;>
          simp
      · rw [find?_insertRow_of_ne hAll hMerge hKey]
        simp [hKey]

/- A new list descends. -/
theorem descending_ofRows
    (key : ρ → κ)
    (rows : List ρ) :
    Descending key (ofRows key rows).rows :=
  (foldl_insertRow rows List.Pairwise.nil).1

/- A new list has of each key the first row that has it. -/
theorem find?_ofRows
    (key : ρ → κ)
    (rows : List ρ)
    (k : κ) :
    ((ofRows key rows).rows.find?
        fun r => decide (key r = k)) =
      rows.find? fun r => decide (key r = k) :=
  (foldl_insertRow rows List.Pairwise.nil).2 k

/- Newest first; equal keys may stand either way. -/
def newestFirst
    (key : ρ → κ)
    (a b : ρ) : Bool :=
  decide (key b ≤ key a)

theorem newestFirst_trans
    (a b c : ρ)
    (hAB : newestFirst key a b = true)
    (hBC : newestFirst key b c = true) :
    newestFirst key a c = true := by
  simp only [newestFirst, decide_eq_true_eq] at hAB hBC ⊢
  exact hBC.trans hAB

theorem newestFirst_total
    (a b : ρ) :
    (newestFirst key a b || newestFirst key b a) = true := by
  simpa [newestFirst] using le_total (key b) (key a)

/- Sorting keeps the rows of one key in their order. -/
theorem find?_mergeSort
    (rows : List ρ)
    (k : κ) :
    ((rows.mergeSort (newestFirst key)).find?
        fun r => decide (key r = k)) =
      rows.find? fun r => decide (key r = k) := by
  let here := fun r => decide (key r = k)
  have hOrdered :
      (rows.filter here).Pairwise fun a b =>
        newestFirst key a b = true := by
    apply List.pairwise_of_forall_mem_list
    intro a ha b hb
    have hA := List.of_mem_filter ha
    have hB := List.of_mem_filter hb
    simp only [here, decide_eq_true_eq] at hA hB
    simp [newestFirst, hA, hB]
  have hSub :
      (rows.filter here).Sublist
        (rows.mergeSort (newestFirst key)) :=
    List.sublist_mergeSort newestFirst_trans newestFirst_total
      hOrdered List.filter_sublist
  have hEq :
      (rows.mergeSort (newestFirst key)).filter here =
        rows.filter here := by
    apply List.Sublist.eq_of_length_le _ _ |>.symm
    · simpa using hSub.filter here
    · exact
        ((List.mergeSort_perm rows _).filter here).length_eq.le
  rw [← List.head?_filter, ← List.head?_filter]
  exact congrArg List.head? hEq

/- Where neighbours of one key are dropped, the first stays. -/
theorem find?_destutter
    (rows : List ρ)
    (k : κ) :
    ((rows.destutter fun a b => key a ≠ key b).find?
        fun r => decide (key r = k)) =
      rows.find? fun r => decide (key r = k) := by
  cases rows with
  | nil => rfl
  | cons row rest =>
      rw [List.destutter_cons']
      induction rest generalizing row with
      | nil => rfl
      | cons b rest ih =>
          by_cases hKey : key row = key b
          · rw [List.destutter'_cons_neg _ (by simpa using hKey),
              ih]
            by_cases hK : key row = k
            · simp [hK]
            · simp [hK, hKey ▸ hK]
          · rw [List.destutter'_cons_pos _ hKey]
            by_cases hK : key row = k
            · simp [hK]
            · simp only [List.find?_cons, hK, decide_false, ih]

/- Sorted rows without equal neighbours descend. -/
theorem descending_destutter
    {rows : List ρ}
    (hRows : rows.Pairwise fun a b => key b ≤ key a) :
    Descending key
      (rows.destutter fun a b => key a ≠ key b) := by
  have hSorted :=
    hRows.sublist
      (List.destutter_sublist (fun a b => key a ≠ key b) rows)
  have hApart :=
    List.isChain_destutter (fun a b => key a ≠ key b) rows
  have hTrans :
      Trans (fun a b : ρ => key b < key a)
        (fun a b => key b < key a) fun a b => key b < key a :=
    ⟨fun hAB hBC => lt_trans hBC hAB⟩
  apply List.isChain_iff_pairwise.mp
  apply List.isChain_iff_forall_rel_of_append_cons_cons.mpr
  intro a b before after hSplit
  have hNe : key a ≠ key b :=
    List.isChain_iff_forall_rel_of_append_cons_cons.mp
      hApart hSplit
  rw [hSplit] at hSorted
  have hLe : key b ≤ key a :=
    List.rel_of_pairwise_cons
      (List.pairwise_append.mp hSorted).2.1 (by simp)
  exact lt_of_le_of_ne hLe (Ne.symm hNe)

/-
  A new list is what sorting the rows, newest first, and then
  dropping all but the first of equal neighbours gives.
-/
theorem rows_ofRows
    (key : ρ → κ)
    (rows : List ρ) :
    (ofRows key rows).rows =
      (rows.mergeSort (newestFirst key)).destutter
        fun a b => key a ≠ key b := by
  have hSorted :
      (rows.mergeSort (newestFirst key)).Pairwise
        fun a b => key b ≤ key a := by
    apply List.Pairwise.imp _
      (List.pairwise_mergeSort newestFirst_trans
        newestFirst_total rows)
    intro a b hOrder
    exact of_decide_eq_true hOrder
  apply (descending_ofRows key rows).eq_of_find?
    (descending_destutter hSorted)
  intro k
  rw [find?_ofRows, find?_destutter, find?_mergeSort]

example :
    (ofRows Prod.fst [(2, 'a'), (5, 'b'), (2, 'c')]).rows =
      [(5, 'b'), (2, 'a')] := by
  decide

end MemoryList

------------------------------------------------------------
-- Removal
------------------------------------------------------------

section Removal

variable {key : ρ → κ}

/- The row with the key goes, and no other does. -/
theorem eraseP_found
    {newer older : List ρ}
    {row : ρ}
    (hAbove : ∀ a ∈ newer, key row < key a) :
    (newer ++ row :: older).eraseP
        (fun r => decide (key r = key row)) =
      newer ++ older := by
  rw [List.eraseP_append_right _ (by
    intro a ha
    simpa using ne_of_gt (hAbove a ha))]
  simp

/- After a removal there is nothing under the key. -/
theorem find?_eraseP_self
    {rows : List ρ}
    (hRows : Descending key rows)
    (k : κ) :
    ((rows.eraseP fun r => decide (key r = k)).find?
        fun r => decide (key r = k)) =
      none := by
  cases hRows.sought k with
  | missing newer older hAbove hBelow =>
      have hNone := find?_missing hAbove hBelow
      rw [List.eraseP_of_forall_not (List.find?_eq_none.mp hNone),
        hNone]
  | found newer row older hAbove hKey hBelow =>
      subst hKey
      rw [eraseP_found hAbove, find?_missing hAbove hBelow]

/- Under other keys a removal changes nothing. -/
theorem find?_eraseP_of_ne
    {rows : List ρ}
    {k k' : κ}
    (hRows : Descending key rows)
    (hNe : k ≠ k') :
    ((rows.eraseP fun r => decide (key r = k)).find?
        fun r => decide (key r = k')) =
      rows.find? fun r => decide (key r = k') := by
  cases hRows.sought k with
  | missing newer older hAbove hBelow =>
      have hNone := find?_missing hAbove hBelow
      rw [List.eraseP_of_forall_not (List.find?_eq_none.mp hNone)]
  | found newer row older hAbove hKey hBelow =>
      subst hKey
      rw [eraseP_found hAbove, find?_skip hNe]

end Removal

------------------------------------------------------------
-- A List That Keeps a Register
------------------------------------------------------------

namespace MemoryList

/-
  The list is available and has the rows of the register, in
  descending order.
-/
structure Keeps
    (key : ρ → κ)
    (m : MemoryList ρ)
    (f : Register ρ κ) : Prop where
  available : m.available = true
  descends : Descending key m.rows
  finds :
    ∀ k, (m.rows.find? fun row => decide (key row = k)) =
      f.lookup k

/- A new list keeps the register of its rows. -/
theorem keeps_ofRows
    (key : ρ → κ)
    (rows : List ρ) :
    Keeps key (ofRows key rows) (Register.ofRows key rows) where
  available := rfl
  descends := descending_ofRows key rows
  finds k :=
    (find?_ofRows key rows k).trans
      (Register.lookup_ofRows key rows k).symm

namespace Keeps

variable {key : ρ → κ}
variable {m : MemoryList ρ}
variable {f : Register ρ κ}

/- An insertion is one into the register. -/
theorem insert
    (hKeeps : Keeps key m f)
    (row : ρ) :
    Keeps key (m.insert key row) (f.insert (key row) row) where
  available := hKeeps.available
  descends :=
    descending_insertRow hKeeps.descends fun _ _ => rfl
  finds k := by
    have hMerge :
        ∀ old, key old = key row → key row = key row :=
      fun _ _ => rfl
    by_cases hKey : key row = k
    · subst hKey
      refine
        (find?_insertRow_self hKeeps.descends hMerge).trans ?_
      rw [Finmap.lookup_insert]
      cases m.rows.find? fun r => decide (key r = key row) <;> rfl
    · refine
        (find?_insertRow_of_ne hKeeps.descends hMerge hKey).trans ?_
      rw [Finmap.lookup_insert_of_ne _ (Ne.symm hKey)]
      exact hKeeps.finds k

/- A removal is one from the register. -/
theorem remove
    (hKeeps : Keeps key m f)
    (k : κ) :
    Keeps key (m.remove key k).1 (f.erase k) where
  available := hKeeps.available
  descends := hKeeps.descends.sublist List.eraseP_sublist
  finds k' := by
    by_cases hKey : k = k'
    · subst hKey
      rw [Finmap.lookup_erase]
      exact find?_eraseP_self hKeeps.descends k
    · rw [Finmap.lookup_erase_ne (Ne.symm hKey), ← hKeeps.finds]
      exact find?_eraseP_of_ne hKeeps.descends hKey

/-
  A change of the list is that change of the register, and what
  it takes out is the entry.
-/
theorem change
    (hKeeps : Keeps key m f)
    (c : ListChange ρ κ) :
    Keeps key (m.change key c).1 (f.change key c).1 ∧
      (m.change key c).2 = (f.change key c).2 := by
  cases c with
  | insert row => exact ⟨hKeeps.insert row, rfl⟩
  | remove k => exact ⟨hKeeps.remove k, hKeeps.finds k⟩

/- So is every row of changes. -/
theorem changes
    (hKeeps : Keeps key m f)
    (cs : List (ListChange ρ κ)) :
    Keeps key (m.changes key cs).1 (f.changes key cs).1 ∧
      (m.changes key cs).2 = (f.changes key cs).2 := by
  induction cs generalizing m f with
  | nil => exact ⟨hKeeps, rfl⟩
  | cons c rest ih =>
      rcases hKeeps.change c with ⟨hNext, hTaken⟩
      rcases ih hNext with ⟨hLast, hOthers⟩
      refine ⟨hLast, ?_⟩
      simp only [MemoryList.changes, Register.changes, hTaken,
        hOthers]

------------------------------------------------------------
-- What Is Kept
------------------------------------------------------------

/- The entry under a key is the row with it. -/
theorem lookup_key
    (hKeeps : Keeps key m f)
    {row : ρ}
    (hRow : row ∈ m.rows) :
    f.lookup (key row) = some row := by
  rw [← hKeeps.finds]
  exact hKeeps.descends.find?_of_mem hRow

/- The keys of the register are those of the rows. -/
theorem keys_eq
    (hKeeps : Keeps key m f) :
    f.keys = (m.rows.map key).toFinset := by
  ext k
  rw [Finmap.mem_keys, ← Finmap.lookup_isSome,
    ← hKeeps.finds k, List.find?_isSome]
  simp

/- There are as many rows as entries. -/
theorem length_eq
    (hKeeps : Keeps key m f) :
    m.rows.length = f.keys.card := by
  rw [hKeeps.keys_eq,
    List.toFinset_card_of_nodup hKeeps.descends.nodup,
    List.length_map]

/- The entries under the keys of some rows are these rows. -/
theorem filterMap_lookup
    (hKeeps : Keeps key m f)
    {rows : List ρ}
    (hRows : rows ⊆ m.rows) :
    (rows.map key).filterMap f.lookup = rows := by
  rw [List.filterMap_map]
  calc
    rows.filterMap (f.lookup ∘ key)
      = rows.filterMap some :=
        List.filterMap_congr fun row hRow =>
          hKeeps.lookup_key (hRows hRow)
    _ = rows := List.filterMap_some

end Keeps

end MemoryList

/- The wanted keys in descending order. -/
theorem Descending.keysIn_desc
    {key : ρ → κ}
    {rows : List ρ}
    (hRows : Descending key rows) :
    Register.keysIn (rows.map key).toFinset .desc =
      rows.map key := by
  apply (List.toFinset_sort (· ≥ ·) hRows.nodup).mpr
  apply List.pairwise_map.mpr
  apply List.Pairwise.imp _ hRows
  intro a b hLt
  exact le_of_lt hLt

/- The wanted keys in ascending order. -/
theorem Descending.keysIn_asc
    {key : ρ → κ}
    {rows : List ρ}
    (hRows : Descending key rows) :
    Register.keysIn (rows.map key).toFinset .asc =
      rows.reverse.map key := by
  rw [List.map_reverse, ← List.toFinset_reverse]
  apply (List.toFinset_sort (· ≤ ·)
    (List.nodup_reverse.mpr hRows.nodup)).mpr
  apply List.pairwise_reverse.mpr
  apply List.pairwise_map.mpr
  apply List.Pairwise.imp _ hRows
  intro a b hLt
  exact le_of_lt hLt

namespace MemoryList.Keeps

variable {key : ρ → κ}
variable {m : MemoryList ρ}
variable {f : Register ρ κ}

/- The list selects the rows that its register has for a query. -/
theorem selectRows_eq
    (hKeeps : Keeps key m f)
    (q : ListQuery κ) :
    selectRows key m.rows q = f.select q := by
  let wanted := m.rows.filter fun row => q.wants (key row)
  have hWanted : Descending key wanted :=
    hKeeps.descends.sublist List.filter_sublist
  have hPart : wanted ⊆ m.rows :=
    List.filter_subset_self m.rows
  have hKeys :
      (f.keys.filter fun k => q.wants k = true) =
        (wanted.map key).toFinset := by
    rw [hKeeps.keys_eq, ← List.toFinset_filter, List.filter_map]
    rfl
  unfold selectRows Register.select
  simp only [hKeys]
  cases q.order with
  | asc =>
      rw [hWanted.keysIn_asc, hKeeps.filterMap_lookup]
      intro row hRow
      exact hPart (List.mem_reverse.mp hRow)
  | desc =>
      rw [hWanted.keysIn_desc, hKeeps.filterMap_lookup hPart]

/- Every query is answered, with what the register has for it. -/
theorem answer_eq
    (hKeeps : Keeps key m f)
    (q : ListQuery κ) :
    m.answer key q = .ok (some (f.select q)) := by
  unfold answer
  rw [if_pos hKeeps.available, hKeeps.selectRows_eq]

/- The newest row is the first that the register has. -/
theorem head?_eq
    (hKeeps : Keeps key m f) :
    m.head? = (f.select ⟨none, .lt, .desc, 1⟩).head? := by
  rw [← hKeeps.selectRows_eq]
  simp [MemoryList.head?, selectRows, ListQuery.wants,
    List.head?_take]

end MemoryList.Keeps

/- A register has for each query what is promised of a source. -/
theorem MemoryList.Keeps.honest
    {key : ρ → κ}
    {m : MemoryList ρ}
    {f : Register ρ κ}
    (hKeeps : Keeps key m f)
    (q : ListQuery κ) :
    q.Honest key (f.select q) := by
  rw [← hKeeps.selectRows_eq]
  exact honest_selectRows hKeeps.descends q

/-
  A list in memory is a finite map.  Whatever rows it is made
  of and whatever is put in and taken out, it takes out the
  entries that the register does, its rows descend and are the
  entries of the register, as many as it has keys, and every
  query is answered with the entries that the register selects,
  which is what is promised of a source.
-/
theorem memoryList_refines_register
    (key : ρ → κ)
    (rows : List ρ)
    (cs : List (ListChange ρ κ)) :
    let m := (MemoryList.ofRows key rows).changes key cs
    let f := (Register.ofRows key rows).changes key cs
    m.2 = f.2 ∧
      Descending key m.1.rows ∧
      m.1.rows.length = f.1.keys.card ∧
      (∀ k, (m.1.rows.find? fun row => decide (key row = k)) =
        f.1.lookup k) ∧
      m.1.head? = (f.1.select ⟨none, .lt, .desc, 1⟩).head? ∧
      ∀ q, m.1.answer key q = .ok (some (f.1.select q)) ∧
        q.Honest key (f.1.select q) := by
  intro m f
  rcases (MemoryList.keeps_ofRows key rows).changes cs with
    ⟨hKeeps, hTaken⟩
  refine ⟨hTaken, hKeeps.descends, hKeeps.length_eq,
    hKeeps.finds, hKeeps.head?_eq, ?_⟩
  intro q
  exact ⟨hKeeps.answer_eq q, hKeeps.honest q⟩

end LedgerView
