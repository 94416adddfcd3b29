import LedgerView.Proofs.Load.Chunk
import LedgerView.Proofs.Source.Order

/-
  The path of a load.

  The rows that a load has still to meet stand in its order, and
  a truthful answer is their beginning.  A chunk takes them off
  the front, so that what has been read and what is still to be
  met, up to the number wanted, never changes together: the sizes
  of the chunks do not matter.

  Key definitions include:
    * `Archive.inOrder`
    * `Load.path`
    * `Load.Directed`
    * `Load.harvest`

  Key theorems include:
    * `Load.selectRows_query_path`
    * `Load.path_receive`
    * `Load.harvest_receive`
-/

namespace LedgerView

variable {ρ κ : Type} [LinearOrder κ]
variable {key : ρ → κ}

------------------------------------------------------------
-- Lists in Either Order
------------------------------------------------------------

/- The rows of an archive, newest or oldest first. -/
def Archive.inOrder
    (source : Archive key) : SortOrder → List ρ
  | .asc => source.rows.reverse
  | .desc => source.rows

/- Their keys stand in this order. -/
theorem Archive.pairwise_inOrder
    (source : Archive key)
    (order : SortOrder) :
    (source.inOrder order).Pairwise fun a b =>
      order.Precedes (key a) (key b) := by
  cases order with
  | asc => exact List.pairwise_reverse.mpr source.descends
  | desc => exact source.descends

/- No key comes after itself. -/
theorem SortOrder.Precedes.irrefl
    {order : SortOrder}
    {a : κ} :
    ¬order.Precedes a a := by
  cases order <;> exact lt_irrefl a

/- Of two keys only one comes after the other. -/
theorem SortOrder.Precedes.asymm
    {order : SortOrder}
    {a b : κ}
    (hFirst : order.Precedes a b) :
    ¬order.Precedes b a :=
  fun hSecond => irrefl (hFirst.trans hSecond)

/-
  What comes after a key that an operator accepts is accepted
  too, if the operator looks in this direction.
-/
theorem SortOrder.Follows.accepts_of_precedes
    {order : SortOrder}
    {op : Operator}
    (hFollows : order.Follows (κ := κ) op.strict)
    {a b bound : κ}
    (hAccepts : op.accepts a bound = true)
    (hAfter : order.Precedes a b) :
    op.accepts b bound = true := by
  have hBeyond := hFollows.2.mpr hAfter
  cases op with
  | gt =>
      rw [Operator.accepts_gt_iff] at hAccepts ⊢
      exact lt_trans hAccepts (Operator.accepts_gt_iff.mp hBeyond)
  | gte =>
      rw [Operator.accepts_gte_iff] at hAccepts ⊢
      exact le_of_lt
        (lt_of_le_of_lt hAccepts (Operator.accepts_gt_iff.mp hBeyond))
  | lt =>
      rw [Operator.accepts_lt_iff] at hAccepts ⊢
      exact lt_trans (Operator.accepts_lt_iff.mp hBeyond) hAccepts
  | lte =>
      rw [Operator.accepts_lte_iff] at hAccepts ⊢
      exact le_of_lt
        (lt_of_lt_of_le (Operator.accepts_lt_iff.mp hBeyond) hAccepts)

/-
  In an ordered list, the rows that come after a row are those
  that follow it.
-/
theorem filter_precedes
    {order : SortOrder}
    {before after : List ρ}
    {row : ρ}
    {p : ρ → Bool}
    (hSorted :
      (before ++ row :: after).Pairwise fun a b =>
        order.Precedes (key a) (key b))
    (hAfter :
      ∀ r, p r = true ↔ order.Precedes (key row) (key r)) :
    (before ++ row :: after).filter p = after := by
  rcases List.pairwise_append.mp hSorted with
    ⟨-, hFollowing, hAcross⟩
  have hBefore : before.filter p = [] := by
    refine List.filter_eq_nil_iff.mpr fun r hr hKept => ?_
    exact ((hAfter r).mp hKept).asymm (hAcross r hr row (by simp))
  have hRow : ¬p row = true := fun hKept =>
    SortOrder.Precedes.irrefl ((hAfter row).mp hKept)
  have hRest : after.filter p = after := by
    refine List.filter_eq_self.mpr fun r hr => ?_
    exact (hAfter r).mpr (List.rel_of_pairwise_cons hFollowing hr)
  rw [List.filter_append, hBefore, List.filter_cons_of_neg hRow,
    hRest, List.nil_append]

------------------------------------------------------------
-- What Is Still to Be Met
------------------------------------------------------------

namespace Load

variable {limit : Nat} {l : Load ρ κ}
variable (source : Archive key)

/- The rows that a load has still to meet, in its order. -/
def path
    (l : Load ρ κ) : List ρ :=
  (source.inOrder l.order).filter fun row =>
    ListQuery.wants ⟨l.cursor, l.operator, l.order, 0⟩ (key row)

/- From a key on, they are those that its operator accepts. -/
theorem path_of_cursor
    {k : κ}
    (hCursor : l.cursor = some k) :
    l.path source =
      (source.inOrder l.order).filter fun row =>
        l.operator.accepts (key row) k := by
  unfold path
  rw [hCursor]
  rfl

/- A load whose operator looks in the direction of its order. -/
def Directed
    (l : Load ρ κ) : Prop :=
  l.order.Follows (κ := κ) l.operator.strict

/- A truthful answer is the beginning of the path. -/
theorem selectRows_query_path :
    selectRows key source.rows (l.query limit) =
      (l.path source).take (l.chunkSize limit) := by
  unfold selectRows query path
  cases l.order with
  | asc =>
      show ((source.rows.filter _).reverse).take _ = _
      rw [← List.filter_reverse]
      rfl
  | desc => rfl

/- An answered load looks in the same direction. -/
theorem Directed.receive
    (hDirected : l.Directed)
    (reply : List ρ) :
    (l.receive key limit reply).Directed := by
  unfold Directed at hDirected ⊢
  rw [receive_order, receive_operator, Operator.strict_strict]
  exact hDirected

/- What comes after a row on the path is on the path. -/
theorem Directed.wants_of_precedes
    (hDirected : l.Directed)
    {row r : ρ}
    (hRow : row ∈ l.path source)
    (hAfter : l.order.Precedes (key row) (key r)) :
    ListQuery.wants ⟨l.cursor, l.operator, l.order, 0⟩ (key r) =
      true := by
  have hWants := (List.mem_filter.mp hRow).2
  unfold ListQuery.wants at hWants ⊢
  cases hCursor : l.cursor with
  | none => rfl
  | some bound =>
      rw [hCursor] at hWants
      exact hDirected.accepts_of_precedes hWants hAfter

/- A full chunk is taken off the front of the path. -/
theorem path_receive
    (hDirected : l.Directed)
    (hSize : 0 < l.chunkSize limit)
    (hFull : l.chunkSize limit ≤ (l.path source).length) :
    (l.receive key limit
        ((l.path source).take (l.chunkSize limit))).path source =
      (l.path source).drop (l.chunkSize limit) := by
  rcases List.eq_nil_or_concat
      ((l.path source).take (l.chunkSize limit)) with
    hNil | ⟨init, row, hChunk⟩
  · have hLength := congrArg List.length hNil
    rw [List.length_take, List.length_nil] at hLength
    omega
  rw [List.concat_eq_append] at hChunk
  have hCursor :
      (l.receive key limit
        ((l.path source).take (l.chunkSize limit))).cursor =
          some (key row) := by
    apply receive_cursor_of_append
    rw [List.take_take, Nat.min_self]
    exact hChunk
  have hSplit :
      l.path source =
        init ++ row :: (l.path source).drop (l.chunkSize limit) := by
    have hParts :=
      List.take_append_drop (l.chunkSize limit) (l.path source)
    rw [hChunk, List.append_assoc] at hParts
    exact hParts.symm
  have hRow : row ∈ l.path source := by
    rw [hSplit]
    exact List.mem_append_right _ List.mem_cons_self
  -- What the next queries ask for was asked for before.
  have hBeyond :
      (source.inOrder l.order).filter
          (fun r => l.operator.strict.accepts (key r) (key row)) =
        (l.path source).filter fun r =>
          l.operator.strict.accepts (key r) (key row) := by
    unfold path
    rw [List.filter_filter]
    refine List.filter_congr fun r _ => ?_
    rw [Bool.eq_iff_iff, Bool.and_eq_true, iff_self_and]
    exact fun hAccepts =>
      hDirected.wants_of_precedes source hRow
        (hDirected.2.mp hAccepts)
  have hSorted :
      (l.path source).Pairwise fun a b =>
        l.order.Precedes (key a) (key b) :=
    (source.pairwise_inOrder l.order).sublist List.filter_sublist
  rw [hSplit] at hSorted
  have hRest :=
    filter_precedes hSorted fun r => hDirected.2
  rw [← hSplit, ← hBeyond] at hRest
  rw [path_of_cursor source hCursor, receive_operator]
  exact hRest

/- What a load will have read at its end. -/
def harvest
    (l : Load ρ κ) : List ρ :=
  l.rows ++ (l.path source).take l.remaining

/- A truthful chunk does not change what will have been read. -/
theorem harvest_receive
    (hLimit : 0 < limit)
    (hDirected : l.Directed)
    (hDone : l.isDone = false) :
    (l.receive key limit
        ((l.path source).take (l.chunkSize limit))).harvest
          source = l.harvest source := by
  have hSize := chunkSize_pos hLimit hDone
  have hSizeLe : l.chunkSize limit ≤ l.remaining := chunkSize_le
  unfold harvest
  rw [receive_rows, List.take_take, Nat.min_self,
    List.append_assoc]
  congr 1
  by_cases hFull : l.chunkSize limit ≤ (l.path source).length
  · have hLength :
        l.chunkSize limit ≤
          ((l.path source).take (l.chunkSize limit)).length := by
      rw [List.length_take]
      omega
    rw [path_receive source hDirected hSize hFull,
      receive_of_full hLength, ← List.take_add,
      Nat.add_sub_cancel' hSizeLe]
  · have hShort :
        ((l.path source).take (l.chunkSize limit)).length <
          l.chunkSize limit := by
      rw [List.length_take]
      omega
    rw [receive_of_short hShort, List.take_zero,
      List.append_nil, List.take_of_length_le (by omega),
      List.take_of_length_le (by omega)]

end Load

end LedgerView
