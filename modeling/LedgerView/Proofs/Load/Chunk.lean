import LedgerView.Pager.Load

/-
  What one chunk adds to a load.

  Key theorems include:
    * `Load.remaining_ne_zero`
    * `Load.chunkSize_pos`
    * `Load.query_eq`
    * `Load.receive_of_full`
    * `Load.receive_of_short`
    * `Load.isDone_receive`
    * `Load.receive_cursor_of_append`
    * `Load.receive_cursor_of_nil`
    * `Load.chunk_induction`
-/

namespace LedgerView

namespace Load

variable {ρ κ : Type}
variable {key : ρ → κ} {limit : Nat} {l : Load ρ κ}

/- Of a load that is done no row is wanted any more. -/
theorem remaining_of_isDone
    (hDone : l.isDone = true) :
    l.remaining = 0 := by
  unfold isDone at hDone
  exact eq_of_beq hDone

/- Of a load that is not done some row is still wanted. -/
theorem remaining_ne_zero
    (hDone : l.isDone = false) :
    l.remaining ≠ 0 := by
  unfold isDone at hDone
  exact ne_of_beq_false hDone

/- A load that is not done asks for at least one row. -/
theorem chunkSize_pos
    (hLimit : 0 < limit)
    (hDone : l.isDone = false) :
    0 < l.chunkSize limit := by
  have hRemaining := remaining_ne_zero hDone
  unfold chunkSize
  omega

/- No chunk asks for more rows than are wanted. -/
theorem chunkSize_le :
    l.chunkSize limit ≤ l.remaining :=
  Nat.min_le_left _ _

/- A query says where the load stands. -/
theorem query_eq
    {cursor : Option κ}
    {op : Operator}
    {order : SortOrder}
    (limit : Nat)
    (hCursor : l.cursor = cursor)
    (hOperator : l.operator = op)
    (hOrder : l.order = order) :
    l.query limit = ⟨cursor, op, order, l.chunkSize limit⟩ := by
  unfold query
  rw [hCursor, hOperator, hOrder]

@[simp] theorem receive_order
    (reply : List ρ) :
    (l.receive key limit reply).order = l.order := rfl

@[simp] theorem receive_operator
    (reply : List ρ) :
    (l.receive key limit reply).operator = l.operator.strict :=
  rfl

@[simp] theorem receive_rows
    (reply : List ρ) :
    (l.receive key limit reply).rows =
      l.rows ++ reply.take (l.chunkSize limit) := rfl

/- A full chunk leaves the rest to be wanted. -/
theorem receive_of_full
    {reply : List ρ}
    (hFull : l.chunkSize limit ≤ reply.length) :
    (l.receive key limit reply).remaining =
      l.remaining - l.chunkSize limit := by
  have hLength :
      (reply.take (l.chunkSize limit)).length =
        l.chunkSize limit := by
    rw [List.length_take]
    omega
  unfold receive
  simp only
  rw [if_pos hLength]

/- A chunk that is not full is the last. -/
theorem receive_of_short
    {reply : List ρ}
    (hShort : reply.length < l.chunkSize limit) :
    (l.receive key limit reply).remaining = 0 := by
  have hLength :
      (reply.take (l.chunkSize limit)).length ≠
        l.chunkSize limit := by
    rw [List.length_take]
    omega
  unfold receive
  simp only
  rw [if_neg hLength]

/- A load that wants no more than one chunk is done after it. -/
theorem isDone_receive
    (reply : List ρ)
    (hOne : l.remaining ≤ limit) :
    (l.receive key limit reply).isDone = true := by
  have hSize : l.chunkSize limit = l.remaining :=
    Nat.min_eq_left hOne
  have hRemaining :
      (l.receive key limit reply).remaining = 0 := by
    by_cases hShort : reply.length < l.chunkSize limit
    · exact receive_of_short hShort
    · rw [receive_of_full (Nat.not_lt.mp hShort), hSize,
        Nat.sub_self]
  unfold isDone
  rw [hRemaining]
  rfl

/- The next chunk continues from the last row of this one. -/
theorem receive_cursor_of_append
    {reply rows : List ρ}
    {row : ρ}
    (hChunk :
      reply.take (l.chunkSize limit) = rows ++ [row]) :
    (l.receive key limit reply).cursor = some (key row) := by
  unfold receive
  simp [hChunk]

/- After an empty chunk the cursor stays. -/
theorem receive_cursor_of_nil
    {reply : List ρ}
    (hChunk : reply.take (l.chunkSize limit) = []) :
    (l.receive key limit reply).cursor = l.cursor := by
  unfold receive
  simp [hChunk]

/-
  What holds of the loads that are done, and of every load that
  it holds of once that is answered, holds of all loads.
-/
theorem chunk_induction
    (key : ρ → κ)
    (hLimit : 0 < limit)
    {Holds : Load ρ κ → Prop}
    (done : ∀ l, l.isDone = true → Holds l)
    (loading : ∀ l, l.isDone = false →
      (∀ rows, Holds (l.receive key limit rows)) → Holds l)
    (l : Load ρ κ) :
    Holds l := by
  -- every answer leaves fewer rows to be wanted
  induction hCount : l.remaining using Nat.strongRecOn
    generalizing l with
  | ind count ih =>
      cases hLoad : l.isDone with
      | true => exact done l hLoad
      | false =>
          refine loading l hLoad fun rows => ih _ ?_ _ rfl
          rw [← hCount]
          exact
            remaining_receive_lt key limit l rows hLimit
              (remaining_ne_zero hLoad)

end Load

end LedgerView
