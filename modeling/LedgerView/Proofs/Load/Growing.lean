import LedgerView.Proofs.Load.Whole

/-
  What a load reads while rows come in.

  Rows that come in above all others are not met by a load that
  has read a chunk on its way down: it goes on from the last row
  of that chunk.  So it reads what it would have read had the
  list stayed as it was when its first query was answered.

  Key definitions include:
    * `Growing`
    * `Gaining`
    * `Load.Within`

  Key theorems include:
    * `Load.Within.run`
    * `Load.run_gaining`
-/

namespace LedgerView

variable {σ ρ κ : Type} [LinearOrder κ]
variable {key : ρ → κ}

/-
  A source that answers truthfully from rows it only adds to, be
  it before an answer or after it.
-/
def Growing
    (archive : σ → Archive key)
    (ask : σ → ListQuery κ → Reply ρ × σ) : Prop :=
  ∀ source q, ∃ told : Archive key,
    (ask source q).1 = .ok (some (selectRows key told.rows q)) ∧
      (archive source).rows <:+ told.rows ∧
      told.rows <:+ (archive (ask source q).2).rows

/- A source that gains rows above all others and loses none. -/
def Gaining
    (archive : σ → Archive key)
    (ask : σ → ListQuery κ → Reply ρ × σ) : Prop :=
  ∀ source q,
    (archive source).rows <:+ (archive (ask source q).2).rows

/- Such a source grows after its answers, if these are truthful. -/
theorem growing_of_truthful
    {archive : σ → Archive key}
    {ask : σ → ListQuery κ → Reply ρ × σ}
    (hTruthful : Truthful archive ask)
    (hGaining : Gaining archive ask) :
    Growing archive ask :=
  fun source q =>
    ⟨archive source, hTruthful source q, List.suffix_rfl,
      hGaining source q⟩

------------------------------------------------------------
-- Reading from a Row On
------------------------------------------------------------

section Within

variable {row : ρ} {older : List ρ} {limit : Nat} {l : Load ρ κ}

/- A load downwards that has come to a row, or below it. -/
structure Load.Within
    (key : ρ → κ)
    (row : ρ)
    (l : Load ρ κ) : Prop where
  order : l.order = .desc
  strict : l.operator.strict = .lt
  cursor : ∃ k, l.cursor = some k ∧ k ≤ key row

/- Rows that come in above are not asked for. -/
theorem Load.Within.selectRows_query
    (part source : Archive key)
    (hWithin : l.Within key row)
    (hPart : part.rows = row :: older)
    (hSuffix : part.rows <:+ source.rows) :
    selectRows key source.rows (l.query limit) =
      (l.ahead part).take (l.chunkSize limit) := by
  rcases hWithin.cursor with ⟨k, hCursor, hBelow⟩
  rcases hSuffix with ⟨newer, hSource⟩
  have hAcross : ∀ a ∈ newer, key row < key a := by
    have hDescends := source.descends
    rw [← hSource, hPart] at hDescends
    intro a hMem
    exact (Descending.append_iff.mp hDescends).2.2 a hMem row
      List.mem_cons_self
  have hNewer :
      newer.filter
          (fun r =>
            ListQuery.wants ⟨l.cursor, l.operator, l.order, 0⟩
              (key r)) = [] := by
    refine List.filter_eq_nil_iff.mpr fun a hMem hWanted => ?_
    have hAbove := lt_of_le_of_lt hBelow (hAcross a hMem)
    unfold ListQuery.wants at hWanted
    rw [hCursor] at hWanted
    cases hOperator : l.operator with
    | lt =>
        rw [hOperator] at hWanted
        exact lt_asymm hAbove
          (Operator.accepts_lt_iff.mp hWanted)
    | lte =>
        rw [hOperator] at hWanted
        exact not_le_of_gt hAbove
          (Operator.accepts_lte_iff.mp hWanted)
    | gt =>
        have hStrict := hWithin.strict
        rw [hOperator] at hStrict
        cases hStrict
    | gte =>
        have hStrict := hWithin.strict
        rw [hOperator] at hStrict
        cases hStrict
  have hAhead : l.ahead source = l.ahead part := by
    unfold ahead
    rw [← hSource, List.filter_append, hNewer, List.nil_append]
  rw [Load.selectRows_query source hWithin.order, hAhead]

/- After a chunk of the rows ahead a load is still there. -/
theorem Load.Within.receive
    (part : Archive key)
    (hWithin : l.Within key row)
    (hPart : part.rows = row :: older) :
    (l.receive key limit
      ((l.ahead part).take (l.chunkSize limit))).Within
        key row := by
  refine ⟨hWithin.order, ?_, ?_⟩
  · rw [receive_operator, hWithin.strict]
    rfl
  · rcases List.eq_nil_or_concat
        (((l.ahead part).take (l.chunkSize limit)).take
          (l.chunkSize limit)) with
      hNil | ⟨init, last, hChunk⟩
    · rw [receive_cursor_of_nil hNil]
      exact hWithin.cursor
    · rw [List.concat_eq_append] at hChunk
      refine ⟨key last, receive_cursor_of_append hChunk, ?_⟩
      have hLast : last ∈ init ++ [last] :=
        List.mem_append_right _ List.mem_cons_self
      rw [← hChunk] at hLast
      have hAhead : last ∈ l.ahead part :=
        List.mem_of_mem_take (List.mem_of_mem_take hLast)
      have hRow : last ∈ row :: older := by
        rw [← hPart]
        exact (List.mem_filter.mp hAhead).1
      have hDescends := part.descends
      rw [hPart] at hDescends
      exact hDescends.le_head last hRow

/-
  A load that has come to a row reads on among that row and those
  that follow it, whatever comes in meanwhile.
-/
theorem Load.Within.run
    {archive : σ → Archive key}
    {ask : σ → ListQuery κ → Reply ρ × σ}
    (hWithin : l.Within key row)
    (hGrowing : Growing archive ask)
    (hLimit : 0 < limit)
    (part : Archive key)
    (hPart : part.rows = row :: older)
    {source : σ}
    (hSuffix : part.rows <:+ (archive source).rows) :
    ∃ l' later,
      l.run key limit hLimit ask source = (.ok l', later) ∧
        (archive source).rows <:+ (archive later).rows ∧
        l'.rows = l.yield part := by
  let Holds (s : σ) (l' : Load ρ κ) : Prop :=
    l'.Within key row ∧
      (archive source).rows <:+ (archive s).rows ∧
      l'.yield part = l.yield part
  have hStart : Holds source l := ⟨hWithin, List.suffix_rfl, rfl⟩
  have hChunk :
      ∀ {s : σ} {l' : Load ρ κ},
        Holds s l' → l'.isDone = false →
          ∃ reply later,
            ask s (l'.query limit) = (.ok reply, later) ∧
              Holds later
                (l'.receive key limit (reply.getD [])) := by
    intro s l' hHolds hOpen
    rcases hHolds with ⟨hStill, hLater, hSame⟩
    rcases hGrowing s (l'.query limit) with
      ⟨told, hAsk, hBefore, hAfter⟩
    rw [hStill.selectRows_query part told hPart
      (hSuffix.trans (hLater.trans hBefore))] at hAsk
    refine
      ⟨_, _, Prod.ext hAsk rfl, hStill.receive part hPart,
        hLater.trans (hBefore.trans hAfter), ?_⟩
    rw [← hSame]
    exact
      Load.yield_receive part hLimit hStill.order hStill.strict
        hOpen
  rcases Load.run_keeps hLimit hChunk hStart with
    ⟨l', later, hRun, hDone, -, hGrown, hEnd⟩
  refine ⟨l', later, hRun, hGrown, ?_⟩
  rw [← hEnd]
  unfold Load.yield
  rw [Load.remaining_of_isDone hDone, List.take_zero,
    List.append_nil]

/- A load downwards that has read a full chunk is at a row. -/
theorem Load.within_receive
    (source : Archive key)
    (hOrder : l.order = .desc)
    (hDown : l.operator.strict = .lt)
    (hSize : 0 < l.chunkSize limit)
    (hNext :
      (l.receive key limit
        ((l.ahead source).take (l.chunkSize limit))).isDone =
          false) :
    ∃ first older, source.rows = first :: older ∧
      (l.receive key limit
        ((l.ahead source).take (l.chunkSize limit))).Within
          key first := by
  let chunk := (l.ahead source).take (l.chunkSize limit)
  have hFull : l.chunkSize limit ≤ chunk.length := by
    by_contra hShort
    exact remaining_ne_zero hNext
      (receive_of_short (Nat.not_le.mp hShort))
  have hSome : chunk ≠ [] :=
    List.ne_nil_of_length_pos (Nat.lt_of_lt_of_le hSize hFull)
  rcases List.eq_nil_or_concat chunk with hNil | ⟨init, row, hChunk⟩
  · exact absurd hNil hSome
  rw [List.concat_eq_append] at hChunk
  have hCursor :
      (l.receive key limit chunk).cursor = some (key row) := by
    apply receive_cursor_of_append
    rw [List.take_of_length_le (List.length_take_le _ _)]
    exact hChunk
  have hRow : row ∈ source.rows := by
    have hLast : row ∈ chunk := by
      rw [hChunk]
      exact List.mem_concat_self
    exact (List.mem_filter.mp (List.mem_of_mem_take hLast)).1
  rcases List.exists_cons_of_ne_nil (List.ne_nil_of_mem hRow) with
    ⟨first, older, hRows⟩
  have hDescends := source.descends
  rw [hRows] at hDescends hRow
  refine
    ⟨first, older, hRows, hOrder, ?_, key row, hCursor,
      hDescends.le_head row hRow⟩
  rw [receive_operator, Operator.strict_strict]
  exact hDown

/-
  A load downwards reads the rows that were ahead of it when its
  first query was answered, whatever comes in meanwhile.
-/
theorem Load.run_gaining
    {archive : σ → Archive key}
    {ask : σ → ListQuery κ → Reply ρ × σ}
    (hTruthful : Truthful archive ask)
    (hGaining : Gaining archive ask)
    (hLimit : 0 < limit)
    (hOrder : l.order = .desc)
    (hDown : l.operator.strict = .lt)
    (source : σ) :
    ∃ l' later,
      l.run key limit hLimit ask source = (.ok l', later) ∧
        l'.rows = l.yield (archive source) := by
  by_cases hDone : l.isDone = true
  · refine ⟨l, source, run_of_isDone hLimit source hDone, ?_⟩
    unfold yield
    rw [remaining_of_isDone hDone, List.take_zero,
      List.append_nil]
  have hOpen : l.isDone = false := by simpa using hDone
  let next :=
    l.receive key limit
      ((l.ahead (archive source)).take (l.chunkSize limit))
  have hYield :
      next.yield (archive source) = l.yield (archive source) :=
    yield_receive (archive source) hLimit hOrder hDown hOpen
  have hAsk := hTruthful source (l.query limit)
  rw [selectRows_query (archive source) hOrder] at hAsk
  have hRest :
      l.run key limit hLimit ask source =
        next.run key limit hLimit ask
          (ask source (l.query limit)).2 :=
    run_of_answer hLimit hOpen (Prod.ext hAsk rfl)
  rw [hRest, ← hYield]
  by_cases hLast : next.isDone = true
  · refine ⟨next, _, run_of_isDone hLimit _ hLast, ?_⟩
    unfold yield
    rw [remaining_of_isDone hLast, List.take_zero,
      List.append_nil]
  · have hMore : next.isDone = false := by simpa using hLast
    rcases within_receive (archive source) hOrder hDown
        (chunkSize_pos hLimit hOpen) hMore with
      ⟨first, older, hRows, hWithin⟩
    rcases hWithin.run (growing_of_truthful hTruthful hGaining)
        hLimit (archive source) hRows (hGaining source _) with
      ⟨l', later, hRun, -, hEnd⟩
    exact ⟨l', later, hRun, hEnd⟩

end Within

end LedgerView
