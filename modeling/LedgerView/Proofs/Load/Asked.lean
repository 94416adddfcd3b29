import LedgerView.Proofs.Load.Whole

/-
  What a load asks for.

  A load that goes on from a key asks, chunk by chunk, for rows
  on the far side of that key.  Over an honest source the row
  from which it goes on next lies beyond the one before, so that
  nothing on the near side is ever asked for.

  Key definitions include:
    * `keeping`
    * `SortOrder.Reaches`
    * `Load.Onward`
    * `ListQuery.Onward`

  Key theorems include:
    * `Load.run_keeping`
    * `Load.run_induction`
    * `Load.forall_asked_onward`
-/

namespace LedgerView

variable {σ ρ κ : Type}

------------------------------------------------------------
-- Keeping the Queries
------------------------------------------------------------

/- Ask a source, and keep the queries. -/
def keeping
    (ask : σ → ListQuery κ → Reply ρ × σ)
    (state : σ × List (ListQuery κ))
    (q : ListQuery κ) :
    Reply ρ × (σ × List (ListQuery κ)) :=
  let answered := ask state.1 q
  (answered.1, answered.2, state.2 ++ [q])

namespace Load

variable {key : ρ → κ} {limit : Nat} {l l' : Load ρ κ}
variable {ask : σ → ListQuery κ → Reply ρ × σ}

variable (key ask l) in
/- Keeping the queries makes no difference to a load. -/
theorem run_keeping
    (hLimit : 0 < limit)
    (source : σ)
    (asked : List (ListQuery κ)) :
    ∃ more,
      l.run key limit hLimit (keeping ask) (source, asked) =
        ((l.run key limit hLimit ask source).1,
          (l.run key limit hLimit ask source).2,
          asked ++ more) := by
  induction l using chunk_induction key hLimit
    generalizing source asked with
  | done l hDone =>
      refine ⟨[], ?_⟩
      rw [run_of_isDone hLimit _ hDone,
        run_of_isDone hLimit _ hDone, List.append_nil]
  | loading l hOpen ih =>
      rcases hAsk : ask source (l.query limit) with
        ⟨reply, source'⟩
      have hKept :
          keeping ask (source, asked) (l.query limit) =
            (reply, source', asked ++ [l.query limit]) := by
        unfold keeping
        rw [hAsk]
      cases reply with
      | error e =>
          refine ⟨[l.query limit], ?_⟩
          rw [run_of_error hLimit hOpen hKept,
            run_of_error hLimit hOpen hAsk]
      | ok rows =>
          rcases ih (rows.getD []) source'
              (asked ++ [l.query limit]) with ⟨more, hMore⟩
          refine ⟨l.query limit :: more, ?_⟩
          rw [run_of_answer hLimit hOpen hKept,
            run_of_answer hLimit hOpen hAsk, hMore,
            List.append_assoc, List.singleton_append]

/- What every answered chunk keeps holds of what was loaded. -/
theorem run_induction
    {Holds : σ → Load ρ κ → Prop}
    (hLimit : 0 < limit)
    (hChunk :
      ∀ {source source' : σ} {l : Load ρ κ}
        {reply : Option (List ρ)},
        Holds source l → l.isDone = false →
        ask source (l.query limit) = (.ok reply, source') →
          Holds source' (l.receive key limit (reply.getD [])))
    {source source' : σ}
    (hHolds : Holds source l)
    (hRun :
      l.run key limit hLimit ask source = (.ok l', source')) :
    Holds source' l' := by
  induction l using chunk_induction key hLimit
    generalizing source with
  | done l hDone =>
      rw [run_of_isDone hLimit _ hDone] at hRun
      cases hRun
      exact hHolds
  | loading l hOpen ih =>
      rcases hAsk : ask source (l.query limit) with
        ⟨reply, next⟩
      cases reply with
      | error e =>
          rw [run_of_error hLimit hOpen hAsk] at hRun
          cases hRun
      | ok rows =>
          rw [run_of_answer hLimit hOpen hAsk] at hRun
          exact ih _ (hChunk hHolds hOpen hAsk) hRun

end Load

------------------------------------------------------------
-- Going On from a Key
------------------------------------------------------------

variable [LinearOrder κ]

/- A key is reached from another by way of some rows. -/
def SortOrder.Reaches
    (order : SortOrder)
    (key : ρ → κ)
    (start : κ)
    (rows : List ρ)
    (k : κ) : Prop :=
  k = start ∨
    ∃ row ∈ rows, key row = k ∧ order.Precedes start k

/- A load that goes on from a key, as far as it has come. -/
structure Load.Onward
    (key : ρ → κ)
    (op : Operator)
    (order : SortOrder)
    (start : κ)
    (l : Load ρ κ) : Prop where
  cursor :
    ∃ k, l.cursor = some k ∧ order.Reaches key start l.rows k
  operator : l.operator = op
  order : l.order = order

/- A query that goes on from a key, or from a row beyond it. -/
structure ListQuery.Onward
    (key : ρ → κ)
    (op : Operator)
    (order : SortOrder)
    (start : κ)
    (rows : List ρ)
    (q : ListQuery κ) : Prop where
  bound : ∃ k, q.key = some k ∧ order.Reaches key start rows k
  operator : q.operator = op
  order : q.order = order

namespace SortOrder

variable {key : ρ → κ} {order : SortOrder} {start k : κ}
variable {rows more : List ρ}

/- A key stays in reach when there are more rows. -/
theorem Reaches.mono
    (hReaches : order.Reaches key start rows k)
    (hMore : rows ⊆ more) :
    order.Reaches key start more k := by
  rcases hReaches with hEq | ⟨row, hRow, hKey, hAfter⟩
  · exact .inl hEq
  · exact .inr ⟨row, hMore hRow, hKey, hAfter⟩

/- What comes after a key in reach comes after the start. -/
theorem Reaches.precedes
    (hReaches : order.Reaches key start rows k)
    {next : κ}
    (hNext : order.Precedes k next) :
    order.Precedes start next := by
  rcases hReaches with hEq | ⟨row, _, _, hAfter⟩
  · rw [← hEq]
    exact hNext
  · exact hAfter.trans hNext

end SortOrder

section Onward

variable {key : ρ → κ} {op : Operator} {order : SortOrder}
variable {start : κ} {limit : Nat} {l l' : Load ρ κ}

/- A query stays one that goes on when there are more rows. -/
theorem ListQuery.Onward.mono
    {rows more : List ρ}
    {q : ListQuery κ}
    (hOnward : q.Onward key op order start rows)
    (hMore : rows ⊆ more) :
    q.Onward key op order start more := by
  rcases hOnward.bound with ⟨k, hKey, hReaches⟩
  exact
    ⟨⟨k, hKey, hReaches.mono hMore⟩, hOnward.operator,
      hOnward.order⟩

/- What such a query asks for comes after the start. -/
theorem ListQuery.Onward.precedes_of_wants
    {rows : List ρ}
    {q : ListQuery κ}
    (hOnward : q.Onward key op order start rows)
    (hFollows : order.Follows (κ := κ) op)
    {k : κ}
    (hWants : q.wants k = true) :
    order.Precedes start k := by
  rcases hOnward.bound with ⟨bound, hKey, hReaches⟩
  unfold ListQuery.wants at hWants
  rw [hKey, hOnward.operator] at hWants
  exact hReaches.precedes (hFollows.2.mp hWants)

/- A load that goes on asks with such queries. -/
theorem Load.Onward.query
    (hOnward : l.Onward key op order start)
    (limit : Nat) :
    (l.query limit).Onward key op order start l.rows :=
  ⟨hOnward.cursor, hOnward.operator, hOnward.order⟩

/- An honest answer brings a load further on. -/
theorem Load.Onward.receive
    (hOnward : l.Onward key op order start)
    (hFollows : order.Follows (κ := κ) op)
    {reply : List ρ}
    (hWanted :
      ∀ row ∈ reply, (l.query limit).wants (key row) = true) :
    (l.receive key limit reply).Onward key op order start where
  operator := by
    rw [Load.receive_operator, hOnward.operator]
    exact hFollows.1
  order := hOnward.order
  cursor := by
    rcases List.eq_nil_or_concat
        (reply.take (l.chunkSize limit)) with
      hNil | ⟨init, last, hChunk⟩
    · rcases hOnward.cursor with ⟨k, hCursor, hReaches⟩
      refine
        ⟨k, (Load.receive_cursor_of_nil hNil).trans hCursor,
          hReaches.mono (by simp)⟩
    · rw [List.concat_eq_append] at hChunk
      have hLast : last ∈ reply.take (l.chunkSize limit) := by
        rw [hChunk]
        exact List.mem_concat_self
      have hAfter : order.Precedes start (key last) :=
        (hOnward.query limit).precedes_of_wants hFollows
          (hWanted last (List.mem_of_mem_take hLast))
      refine
        ⟨key last, Load.receive_cursor_of_append hChunk,
          .inr ⟨last, ?_, rfl, hAfter⟩⟩
      rw [Load.receive_rows]
      exact List.mem_append_right _ hLast

/-
  Over an honest source a load that goes on from a key asks with
  no other queries.
-/
theorem Load.forall_asked_onward
    {ask : σ → ListQuery κ → Reply ρ × σ}
    (hHonest :
      ∀ source q rows, (ask source q).1 = .ok (some rows) →
        q.Honest key rows)
    (hFollows : order.Follows (κ := κ) op)
    (hLimit : 0 < limit)
    (hOnward : l.Onward key op order start)
    {source source' : σ}
    {asked : List (ListQuery κ)}
    (hRun :
      l.run key limit hLimit (keeping ask) (source, []) =
        (.ok l', source', asked)) :
    ∀ q ∈ asked, q.Onward key op order start l'.rows := by
  let Holds (state : σ × List (ListQuery κ)) (l : Load ρ κ) :=
    l.Onward key op order start ∧
      ∀ q ∈ state.2, q.Onward key op order start l.rows
  have hKeeps : Holds (source', asked) l' := by
    have hStart : Holds (source, []) l := ⟨hOnward, by simp⟩
    refine Load.run_induction hLimit ?_ hStart hRun
    intro state state' l reply hHolds _ hAsk
    have hReply : (ask state.1 (l.query limit)).1 = .ok reply :=
      congrArg Prod.fst hAsk
    have hState : state'.2 = state.2 ++ [l.query limit] :=
      (congrArg (fun answered => answered.2.2) hAsk).symm
    have hWanted :
        ∀ row ∈ reply.getD [],
          (l.query limit).wants (key row) = true := by
      cases reply with
      | none => simp
      | some rows => exact (hHonest _ _ _ hReply).2
    have hMore :
        l.rows ⊆ (l.receive key limit (reply.getD [])).rows :=
      List.subset_append_left _ _
    refine ⟨hHolds.1.receive hFollows hWanted, ?_⟩
    rw [hState]
    intro q hq
    rcases List.mem_append.mp hq with hOld | hNew
    · exact (hHolds.2 q hOld).mono hMore
    · rw [List.mem_singleton.mp hNew]
      exact (hHolds.1.query limit).mono hMore
  exact hKeeps.2

end Onward

end LedgerView
