import LedgerView.Proofs.Load.Path

/-
  What a whole load reads.

  A load whose queries are answered truthfully, from a list that
  stays as it is, reads the rows on its path, up to the number
  wanted, whatever the size of its chunks.  From newer to older
  rows these are the rows that follow its cursor.

  Key definitions include:
    * `Truthful`
    * `Steady`
    * `Archive.ask`
    * `Load.ahead`
    * `Load.yield`

  Key theorems include:
    * `Load.run_of_isDone`
    * `Load.run_of_answer`
    * `Load.run_keeps`
    * `Load.run_path`
    * `Load.run_down`
    * `Load.yield_newest`
    * `Load.run_newest`
    * `Load.run_older`
    * `Load.run_from`
    * `Load.run_newest_down`
    * `Load.run_newest_head`
-/

namespace LedgerView

variable {ρ κ σ : Type}

------------------------------------------------------------
-- Chunk by Chunk
------------------------------------------------------------

namespace Load

variable {key : ρ → κ} {limit : Nat} {l : Load ρ κ}
variable {ask : σ → ListQuery κ → Reply ρ × σ}

/- A load that is done asks for nothing. -/
theorem run_of_isDone
    (hLimit : 0 < limit)
    (source : σ)
    (hDone : l.isDone = true) :
    l.run key limit hLimit ask source = (.ok l, source) := by
  unfold run
  rw [dif_pos (remaining_of_isDone hDone)]

/- An answered load goes on from what it has then. -/
theorem run_of_answer
    (hLimit : 0 < limit)
    {source source' : σ}
    {rows : Option (List ρ)}
    (hDone : l.isDone = false)
    (hAsk : ask source (l.query limit) = (.ok rows, source')) :
    l.run key limit hLimit ask source =
      (l.receive key limit (rows.getD [])).run key limit hLimit
        ask source' := by
  rw [run, dif_neg (remaining_ne_zero hDone), hAsk]

/- A load that gets no answer fails. -/
theorem run_of_error
    (hLimit : 0 < limit)
    {source source' : σ}
    {e : SourceError}
    (hDone : l.isDone = false)
    (hAsk : ask source (l.query limit) = (.error e, source')) :
    l.run key limit hLimit ask source = (.error e, source') := by
  rw [run, dif_neg (remaining_ne_zero hDone), hAsk]

/-
  What every answered chunk keeps holds at the end, and the end
  is reached.
-/
theorem run_keeps
    {Holds : σ → Load ρ κ → Prop}
    (hLimit : 0 < limit)
    (hChunk :
      ∀ {source : σ} {l : Load ρ κ},
        Holds source l → l.isDone = false →
          ∃ reply source',
            ask source (l.query limit) = (.ok reply, source') ∧
              Holds source' (l.receive key limit (reply.getD [])))
    {source : σ}
    (hHolds : Holds source l) :
    ∃ l' source',
      l.run key limit hLimit ask source = (.ok l', source') ∧
        l'.isDone = true ∧ Holds source' l' := by
  induction l using chunk_induction key hLimit
    generalizing source with
  | done l hDone =>
      exact
        ⟨l, source, run_of_isDone hLimit source hDone, hDone,
          hHolds⟩
  | loading l hOpen ih =>
      rcases hChunk hHolds hOpen with
        ⟨reply, source', hAsk, hNext⟩
      rcases ih _ hNext with ⟨l', last, hRun, hEnd⟩
      refine ⟨l', last, ?_, hEnd⟩
      rw [run_of_answer hLimit hOpen hAsk]
      exact hRun

end Load

------------------------------------------------------------
-- Truthful Sources
------------------------------------------------------------

variable [LinearOrder κ]
variable {key : ρ → κ}

/- A source that answers from the rows it has when it is asked. -/
def Truthful
    (archive : σ → Archive key)
    (ask : σ → ListQuery κ → Reply ρ × σ) : Prop :=
  ∀ source q,
    (ask source q).1 =
      .ok (some (selectRows key (archive source).rows q))

/- A source whose rows stay as they are. -/
def Steady
    (archive : σ → Archive key)
    (ask : σ → ListQuery κ → Reply ρ × σ) : Prop :=
  ∀ source q,
    (archive (ask source q).2).rows = (archive source).rows

namespace Load

variable {limit : Nat} {l : Load ρ κ}

/-
  A load from a truthful source reads the rows on its path, up
  to the number wanted.
-/
theorem run_path
    {archive : σ → Archive key}
    {ask : σ → ListQuery κ → Reply ρ × σ}
    (hTruthful : Truthful archive ask)
    (hSteady : Steady archive ask)
    (hLimit : 0 < limit)
    (hDirected : l.Directed)
    (source : σ) :
    ∃ l' source',
      l.run key limit hLimit ask source = (.ok l', source') ∧
        l'.rows = l.harvest (archive source) := by
  let start := archive source
  let Holds (s : σ) (l' : Load ρ κ) : Prop :=
    (archive s).rows = start.rows ∧ l'.Directed ∧
      l'.harvest start = l.harvest start
  have hChunk :
      ∀ {s : σ} {l' : Load ρ κ},
        Holds s l' → l'.isDone = false →
          ∃ reply later,
            ask s (l'.query limit) = (.ok reply, later) ∧
              Holds later
                (l'.receive key limit (reply.getD [])) := by
    intro s l' hHolds hOpen
    rcases hHolds with ⟨hRows, hStill, hSame⟩
    have hAsk := hTruthful s (l'.query limit)
    rw [hRows, selectRows_query_path start] at hAsk
    refine
      ⟨_, _, Prod.ext hAsk rfl,
        (hSteady s _).trans hRows, hStill.receive _, ?_⟩
    rw [← hSame]
    exact harvest_receive start hLimit hStill hOpen
  have hStart : Holds source l := ⟨rfl, hDirected, rfl⟩
  rcases run_keeps hLimit hChunk hStart with
    ⟨l', later, hRun, hDone, -, -, hEnd⟩
  refine ⟨l', later, hRun, ?_⟩
  rw [← hEnd]
  unfold harvest
  rw [remaining_of_isDone hDone, List.take_zero, List.append_nil]

end Load

/- Answer every query from an archive, and keep the queries. -/
def Archive.ask
    (source : Archive key)
    (asked : List (ListQuery κ))
    (q : ListQuery κ) : Reply ρ × List (ListQuery κ) :=
  (.ok (some (selectRows key source.rows q)), asked ++ [q])

/- Such answers are truthful, -/
theorem Archive.truthful
    (source : Archive key) :
    Truthful (fun _ => source) source.ask :=
  fun _ _ => rfl

/- and the archive stays as it is. -/
theorem Archive.steady
    (source : Archive key) :
    Steady (fun _ => source) source.ask :=
  fun _ _ => rfl

namespace Load

variable {limit : Nat} {l : Load ρ κ} {older : List ρ}
variable (source : Archive key)

/- The rows that a load may still read. -/
def ahead
    (l : Load ρ κ) : List ρ :=
  source.rows.filter fun row =>
    ListQuery.wants ⟨l.cursor, l.operator, l.order, 0⟩ (key row)

/- What a load will have read at its end. -/
def yield
    (l : Load ρ κ) : List ρ :=
  l.rows ++ (l.ahead source).take l.remaining

/- A load down a list looks in the direction of its order. -/
theorem directed_of_down
    (hOrder : l.order = .desc)
    (hDown : l.operator.strict = .lt) :
    l.Directed := by
  unfold Directed
  rw [hOrder, hDown]
  exact SortOrder.desc_follows

/- Its path are the rows ahead, -/
theorem path_of_desc
    (hOrder : l.order = .desc) :
    l.path source = l.ahead source := by
  unfold path
  rw [hOrder]
  rfl

/- and what it will have read are those that it yields. -/
theorem harvest_of_desc
    (hOrder : l.order = .desc) :
    l.harvest source = l.yield source := by
  unfold harvest
  rw [path_of_desc source hOrder]
  rfl

/- A query down an archive is answered by the rows ahead. -/
theorem selectRows_query
    (hOrder : l.order = .desc) :
    selectRows key source.rows (l.query limit) =
      (l.ahead source).take (l.chunkSize limit) := by
  rw [selectRows_query_path, path_of_desc source hOrder]

/- A truthful chunk does not change what will have been read. -/
theorem yield_receive
    (hLimit : 0 < limit)
    (hOrder : l.order = .desc)
    (hDown : l.operator.strict = .lt)
    (hDone : l.isDone = false) :
    (l.receive key limit
        ((l.ahead source).take (l.chunkSize limit))).yield
          source = l.yield source := by
  have hSame :=
    harvest_receive source hLimit (directed_of_down hOrder hDown)
      hDone
  rw [path_of_desc source hOrder,
    harvest_of_desc source hOrder] at hSame
  rw [← hSame, harvest_of_desc source]
  exact hOrder

/-
  A load down an archive reads the rows ahead, up to the number
  wanted.
-/
theorem run_down
    (hLimit : 0 < limit)
    (asked : List (ListQuery κ))
    (hOrder : l.order = .desc)
    (hDown : l.operator.strict = .lt) :
    ∃ l' asked',
      l.run key limit hLimit source.ask asked =
          (.ok l', asked') ∧
        l'.rows = l.yield source := by
  rw [← harvest_of_desc source hOrder]
  exact
    run_path source.truthful source.steady hLimit
      (directed_of_down hOrder hDown) asked

/- A load from the top will have read the first rows. -/
theorem yield_newest
    (count : Nat) :
    (below none count false : Load ρ κ).yield source =
      source.rows.take count := by
  have hAhead :
      (below none count false : Load ρ κ).ahead source =
        source.rows :=
    List.filter_eq_self.mpr fun _ _ => rfl
  unfold yield
  rw [hAhead]
  rfl

/- Loaded from the top, an archive gives its first rows. -/
theorem run_newest
    (hLimit : 0 < limit)
    (asked : List (ListQuery κ))
    (count : Nat) :
    ∃ l' asked',
      (below none count false).run key limit hLimit source.ask
          asked = (.ok l', asked') ∧
        l'.rows = source.rows.take count := by
  have hRun :=
    run_down (l := below none count false) source hLimit asked
      rfl rfl
  rw [yield_newest] at hRun
  exact hRun

/- Loaded below one of its rows, it gives those that follow. -/
theorem run_older
    (hLimit : 0 < limit)
    (asked : List (ListQuery κ))
    (count : Nat)
    {newer : List ρ}
    {row : ρ}
    (hSource : source.rows = newer ++ row :: older) :
    ∃ l' asked',
      (below (some (key row)) count false).run key limit hLimit
          source.ask asked = (.ok l', asked') ∧
        l'.rows = older.take count := by
  have hDescends := source.descends
  rw [hSource] at hDescends
  have hAhead :
      (below (some (key row)) count false :
        Load ρ κ).ahead source = older := by
    have hBelow := hDescends.filter_lt
    rw [← hSource] at hBelow
    exact hBelow
  have hRun :=
    run_down (l := below (some (key row)) count false) source
      hLimit asked rfl rfl
  unfold yield at hRun
  rw [hAhead] at hRun
  exact hRun

/- Loaded from one of its rows on, it gives that and the rest. -/
theorem run_from
    (hLimit : 0 < limit)
    (asked : List (ListQuery κ))
    (count : Nat)
    {newer : List ρ}
    {row : ρ}
    (hSource : source.rows = newer ++ row :: older) :
    ∃ l' asked',
      (below (some (key row)) count true).run key limit hLimit
          source.ask asked = (.ok l', asked') ∧
        l'.rows = (row :: older).take count := by
  have hDescends := source.descends
  rw [hSource] at hDescends
  have hAhead :
      (below (some (key row)) count true :
        Load ρ κ).ahead source = row :: older := by
    have hFrom := hDescends.filter_lte
    rw [← hSource] at hFrom
    exact hFrom
  have hRun :=
    run_down (l := below (some (key row)) count true) source
      hLimit asked rfl rfl
  unfold yield at hRun
  rw [hAhead] at hRun
  exact hRun

/-
  Loaded from the top down to a key, it gives its rows from that
  key on, as many as one query allows.
-/
theorem run_newest_down
    (hLimit : 0 < limit)
    (asked : List (ListQuery κ))
    (k : κ) :
    ∃ l' asked',
      (newest limit k limit).run key limit hLimit source.ask
          asked = (.ok l', asked') ∧
        l'.rows =
          (source.rows.filter fun r =>
            Operator.gte.accepts (key r) k).take limit := by
  let l : Load ρ κ := newest limit k limit
  have hRemaining : l.remaining = limit := by
    simp only [l, newest]
    omega
  have hSize : l.chunkSize limit = limit := by
    unfold chunkSize
    rw [hRemaining, Nat.min_self]
  have hDone : l.isDone = false := by
    unfold isDone
    rw [hRemaining]
    exact beq_false_of_ne (Nat.ne_of_gt hLimit)
  let rows := selectRows key source.rows (l.query limit)
  have hAsk :
      source.ask asked (l.query limit) =
        (.ok (some rows), asked ++ [l.query limit]) := rfl
  have hRows :
      rows =
        (source.rows.filter fun r =>
          Operator.gte.accepts (key r) k).take limit := by
    show (source.rows.filter _).take (l.chunkSize limit) = _
    rw [hSize]
    rfl
  have hLast : (l.receive key limit rows).isDone = true :=
    isDone_receive _ (Nat.le_of_eq hRemaining)
  refine
    ⟨l.receive key limit rows, asked ++ [l.query limit], ?_, ?_⟩
  · rw [run_of_answer hLimit hDone hAsk]
    exact run_of_isDone hLimit _ hLast
  · rw [receive_rows, hSize, hRows, List.take_take,
      Nat.min_self]
    rfl

/- Loaded down to its first row, it gives that row. -/
theorem run_newest_head
    (hLimit : 0 < limit)
    (asked : List (ListQuery κ))
    {row : ρ}
    (hSource : source.rows = row :: older) :
    ∃ l' asked',
      (newest limit (key row) limit).run key limit hLimit
          source.ask asked = (.ok l', asked') ∧
        l'.rows = [row] := by
  have hDescends : Descending key ([] ++ row :: older) := by
    have hSorted := source.descends
    rw [hSource] at hSorted
    exact hSorted
  rcases run_newest_down source hLimit asked (key row) with
    ⟨l', asked', hRun, hRows⟩
  refine ⟨l', asked', hRun, ?_⟩
  have hFilter := hDescends.filter_gte
  rw [List.nil_append] at hFilter
  rw [hRows, hSource, hFilter]
  exact List.take_of_length_le hLimit

end Load

end LedgerView
