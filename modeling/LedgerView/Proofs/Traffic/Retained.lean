import LedgerView.Proofs.Load.Asked
import LedgerView.Proofs.Traffic.Beside

/-
  Rows that are kept.

  A move without an anchor reads on from either end of the rows
  kept, and a refresh whose run reaches down to them puts newer
  rows in front.  So the rows kept stay as they are, what
  reached down to the oldest row still does, and nothing that is
  kept is asked for again, whatever becomes of the source.

  Key definitions include:
    * `ListQuery.Beyond`

  Key theorems include:
    * `Course.keeps_rows`
    * `Course.beyond`
    * `Edit.join_keeps_rows`
    * `Traffic.kept_rows_stay`
-/

namespace LedgerView

variable {ε σ ρ κ : Type} [LinearOrder κ]
variable {key : ρ → κ}

------------------------------------------------------------
-- Queries beyond the Rows Kept
------------------------------------------------------------

/-
  A query for rows above the first row kept, or above one that
  is known to be above it, or else below the last row kept, or
  below one that is known to be below it.
-/
def ListQuery.Beyond
    (key : ρ → κ)
    (kept known : List ρ)
    (q : ListQuery κ) : Prop :=
  (∃ head, kept.head? = some head ∧
    q.Onward key .gt .asc (key head) known) ∨
    ∃ tail, kept.getLast? = some tail ∧
      q.Onward key .lt .desc (key tail) known

/- Such a query asks for nothing between the ends of what is kept. -/
theorem ListQuery.Beyond.not_wants
    {kept known : List ρ}
    {q : ListQuery κ}
    (hBeyond : q.Beyond key kept known)
    {head tail : ρ}
    (hHead : kept.head? = some head)
    (hTail : kept.getLast? = some tail)
    {k : κ}
    (hAbove : key tail ≤ k)
    (hBelow : k ≤ key head) :
    q.wants k = false := by
  rw [← Bool.not_eq_true]
  intro hWants
  rcases hBeyond with ⟨first, hFirst, hOn⟩ | ⟨last, hLast, hOn⟩
  · rw [hHead] at hFirst
    cases hFirst
    have hAfter : key head < k :=
      hOn.precedes_of_wants SortOrder.asc_follows hWants
    exact not_le_of_gt hAfter hBelow
  · rw [hTail] at hLast
    cases hLast
    have hAfter : k < key tail :=
      hOn.precedes_of_wants SortOrder.desc_follows hWants
    exact not_le_of_gt hAfter hAbove

------------------------------------------------------------
-- Moves without an Anchor
------------------------------------------------------------

section Moves

variable {w : Window ρ} {limit page : Nat}
variable {edit : Edit} {load : Load ρ κ}

/- A move keeps the rows, and that they reach the oldest row. -/
theorem Course.keeps_rows
    (hCourse : Course key limit w (.move page none) edit load)
    (hRows : w.rows ≠ [])
    (loaded : List ρ) :
    w.rows <:+: (edit.apply key loaded w).rows ∧
      (w.drained = true →
        (edit.apply key loaded w).drained = true) := by
  cases hCourse with
  | initial _ hPage hNone => exact absurd hNone hRows
  | head _ row hPage hRow hShadow =>
      exact ⟨(List.suffix_append _ _).isInfix, id⟩
  | tail _ row hPage hRow hShadow hBeyond hDrained =>
      refine ⟨(List.prefix_append _ _).isInfix, ?_⟩
      intro hWas
      rw [hDrained] at hWas
      cases hWas
  | turn _ hPage hNot hShadow hWithin =>
      exact ⟨List.infix_rfl, id⟩

/-
  All that a move asks an honest source for lies beyond the rows
  kept.
-/
theorem Course.beyond
    {ask : σ → ListQuery κ → Reply ρ × σ}
    (hHonest :
      ∀ source q rows, (ask source q).1 = .ok (some rows) →
        q.Honest key rows)
    (hCourse : Course key limit w (.move page none) edit load)
    (hRows : w.rows ≠ [])
    (hLimit : 0 < limit)
    {source source' : σ}
    {load' : Load ρ κ}
    {asked : List (ListQuery κ)}
    (hRun :
      load.run key limit hLimit (keeping ask) (source, []) =
        (.ok load', source', asked)) :
    ∀ q ∈ asked,
      q.Beyond key w.rows (edit.apply key load'.rows w).rows := by
  intro q hq
  cases hCourse with
  | initial _ hPage hNone => exact absurd hNone hRows
  | head _ row hPage hRow hShadow =>
      have hOnward :
          (Load.above (key row)
            (w.shadow - pageOffset page w.pageSize) :
              Load ρ κ).Onward key .gt .asc (key row) :=
        ⟨⟨_, rfl, .inl rfl⟩, rfl, rfl⟩
      have hAsked :=
        Load.forall_asked_onward hHonest SortOrder.asc_follows
          hLimit hOnward hRun q hq
      refine .inl ⟨row, hRow, hAsked.mono ?_⟩
      intro r hr
      exact List.mem_append_left _ (List.mem_reverse.mpr hr)
  | tail _ row hPage hRow hShadow hBeyond hDrained =>
      have hOnward :
          (Load.below (some (key row))
            (pageOffset page w.pageSize + w.pageSize -
              (w.shadow + w.rows.length)) false :
              Load ρ κ).Onward key .lt .desc (key row) :=
        ⟨⟨_, rfl, .inl rfl⟩, rfl, rfl⟩
      have hAsked :=
        Load.forall_asked_onward hHonest SortOrder.desc_follows
          hLimit hOnward hRun q hq
      refine .inr ⟨row, hRow, hAsked.mono ?_⟩
      exact List.subset_append_right _ _
  | turn _ hPage hNot hShadow hWithin =>
      rw [Load.run_of_isDone hLimit _ rfl] at hRun
      cases hRun
      cases hq

end Moves

------------------------------------------------------------
-- Refreshes
------------------------------------------------------------

/- Rows that are joined with newer ones stay as they are. -/
theorem Edit.join_keeps_rows
    {w : Window ρ}
    {fresh : List ρ}
    {added : Nat}
    (hStitch :
      (stitch key fresh w.rows).2 = .concatenated added) :
    w.rows <:+: (Edit.apply key .join fresh w).rows ∧
      (Edit.apply key .join fresh w).drained = w.drained := by
  have hJoined :
      stitch key fresh w.rows =
        (fresh.dropLast ++ w.rows, .concatenated added) := by
    unfold stitch at hStitch ⊢
    split at hStitch
    · next last first hLast hFirst =>
        split at hStitch
        · next hSame =>
            cases hStitch
            rw [if_pos hSame]
        · cases hStitch
    · cases hStitch
  have hApply :
      Edit.apply key .join fresh w =
        { w with rows := fresh.dropLast ++ w.rows } := by
    simp only [Edit.apply, hJoined]
  rw [hApply]
  exact ⟨(List.suffix_append _ _).isInfix, rfl⟩

------------------------------------------------------------
-- Whatever Happens Meanwhile
------------------------------------------------------------

namespace Traffic

/-
  Over an honest source, which may change with every answer, a
  move without an anchor that is committed in the end keeps the
  rows of a window as one run, and a drained window drained, and
  asks for nothing between the first and the last row kept.  A
  refresh that is joined to the rows kept does so too.
-/
theorem kept_rows_stay
    {ask : σ → ListQuery κ → Reply ρ × σ}
    (hHonest :
      ∀ source q rows, (ask source q).1 = .ok (some rows) →
        q.Honest key rows)
    (s : Traffic ε ρ κ)
    {op : Operation κ}
    {f f' : Flight ρ κ}
    {source source' : σ}
    {meanwhile : List (Event ε ρ κ)}
    (hRows : s.buffer.window.rows ≠ [])
    (hBegin : s.buffer.begin key op = .ok f)
    (hFly :
      s.buffer.fly key ask source f = (.ok f', source'))
    (hFew :
      (s.run key meanwhile).changes < s.changes + 2 ^ 64)
    (hCommitted :
      ((s.run key meanwhile).buffer.commit key f').2 =
        .committed) :
    let w := s.buffer.window
    let w' := ((s.run key meanwhile).buffer.commit key f').1.window
    (∀ page, op = .move page none →
      w.rows <:+: w'.rows ∧
        (w.drained = true → w'.drained = true) ∧
        ∃ asked,
          s.buffer.fly key (keeping ask) (source, []) f =
              (.ok f', source', asked) ∧
            ∀ q ∈ asked,
              q.Beyond key w.rows w'.rows ∧
                ∀ head tail k, w.rows.head? = some head →
                  w.rows.getLast? = some tail →
                  key tail ≤ k → k ≤ key head →
                    q.wants k = false) ∧
    (op = .refresh → f'.edit = .join →
      ∀ added,
        (stitch key f'.load.rows w.rows).2 =
            .concatenated added →
          w.rows <:+: w'.rows ∧ w'.drained = w.drained) := by
  intro w w'
  rcases Buffer.begin_eq_ok_iff.mp hBegin with
    ⟨hPlan, hCourse⟩
  rcases hRun :
      f.load.run key s.buffer.maxLimit s.buffer.maxLimit_pos ask
        source with ⟨loaded, last⟩
  unfold Buffer.fly at hFly
  rw [hRun] at hFly
  cases loaded with
  | error e => cases hFly
  | ok load' =>
      cases hFly
      have hWindow : w' = f.edit.apply key load'.rows w :=
        window_commit hPlan hFew hCommitted
      refine ⟨?_, ?_⟩
      · intro page hMove
        subst hMove
        rcases f.load.run_keeping key ask s.buffer.maxLimit_pos
            source [] with
          ⟨asked, hKept⟩
        rw [hRun, List.nil_append] at hKept
        have hKeeps := hCourse.keeps_rows hRows load'.rows
        rw [hWindow]
        refine ⟨hKeeps.1, hKeeps.2, asked, ?_, ?_⟩
        · unfold Buffer.fly
          rw [hKept]
        · intro q hq
          have hBeyond :=
            hCourse.beyond hHonest hRows s.buffer.maxLimit_pos
              hKept q hq
          exact
            ⟨hBeyond, fun head tail k hHead hTail hAbove hBelow =>
              hBeyond.not_wants hHead hTail hAbove hBelow⟩
      · intro _ hJoin added hStitch
        have hEdit : f.edit = .join := hJoin
        rw [hWindow, hEdit]
        exact Edit.join_keeps_rows hStitch

/- Rows that come and go with every answer. -/
def restless
    (answers : Nat)
    (q : ListQuery Nat) : Reply Nat × Nat :=
  let rows :=
    if answers % 2 = 0 then [10, 9, 8, 7, 6]
    else [13, 11, 7, 5]
  (.ok (some (selectRows id rows q)), answers + 1)

/- The third page is opened, and is the last one. -/
def lastPage : List (Event Unit Nat Nat) :=
  [.prepare 3, .depart 0 (some 7), .answer 0 (.ok (some [7, 6])),
    .answer 0 (.ok (some [])), .commit 0]

/-
  From the third page the first one is shown, by three queries
  while rows come and go and a refresh is begun.
-/
theorem kept_rows_stay_restless :
    let s := (start () 3 2).run (id : Nat → Nat) lastPage
    let s' := s.run id [.refresh, .prepare 2]
    let w := s.buffer.window
    (w.rows = [7, 6] ∧ w.drained = true ∧
        s'.changes < s.changes + 2 ^ 64) ∧
      ∃ f f' asked,
        s.buffer.begin id (.move 1 none) = .ok f ∧
          s.buffer.fly id restless 0 f = (.ok f', 3) ∧
          (s'.buffer.commit id f').2 = .committed ∧
          (s'.buffer.commit id f').1.window.rows =
            [13, 11, 9, 8, 7, 6] ∧
          (s'.buffer.commit id f').1.window.drained = true ∧
          s.buffer.fly id (keeping restless) (0, []) f =
            (.ok f', 3, asked) ∧
          ∀ q ∈ asked,
            q.Beyond id w.rows [13, 11, 9, 8, 7, 6] ∧
              q.wants 7 = false ∧ q.wants 6 = false := by
  intro s s' w
  have hHonest :
      ∀ source q rows, (restless source q).1 = .ok (some rows) →
        q.Honest id rows := by
    intro source q rows hAnswer
    cases hAnswer
    apply honest_selectRows
    split <;> decide
  have hRows : w.rows = [7, 6] := by decide
  have hDrained : w.drained = true := by decide
  have hFew : s'.changes < s.changes + 2 ^ 64 := by decide
  let f : Flight Nat Nat :=
    ⟨s.buffer.plan id, .head 0 6, .above 7 6⟩
  have hBegin : s.buffer.begin id (.move 1 none) = .ok f := rfl
  have hEnd :
      (match s.buffer.fly id restless 0 f with
        | (.ok f', source) =>
            decide
              (source = 3 ∧
                (s'.buffer.commit id f').2 = .committed ∧
                (s'.buffer.commit id f').1.window.rows =
                  [13, 11, 9, 8, 7, 6])
        | (.error _, _) => false) = true := by
    decide +kernel
  rcases hFly : s.buffer.fly id restless 0 f with ⟨end', source⟩
  rw [hFly] at hEnd
  cases end' with
  | error e => cases hEnd
  | ok f' =>
      rcases of_decide_eq_true hEnd with
        ⟨hSource, hCommitted, hWindow⟩
      subst hSource
      have hStay :=
        (kept_rows_stay hHonest s (by rw [hRows]; decide) hBegin
          hFly hFew hCommitted).1 1 rfl
      rcases hStay with ⟨_, hStays, asked, hAsked, hBeyond⟩
      refine
        ⟨⟨hRows, hDrained, hFew⟩, f, f', asked, hBegin, hFly,
          hCommitted, hWindow, hStays hDrained, hAsked, ?_⟩
      intro q hq
      rcases hBeyond q hq with ⟨hPast, hSpares⟩
      rw [hWindow] at hPast
      exact
        ⟨hPast, hSpares 7 6 7 rfl rfl (by decide) (by decide),
          hSpares 7 6 6 rfl rfl (by decide) (by decide)⟩

end Traffic

end LedgerView
