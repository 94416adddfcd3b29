import LedgerView.Proofs.Live.Scene
import LedgerView.Proofs.Traffic.Beside
import LedgerView.Proofs.Traffic.Visible

/-
  What a refresh leaves.

  A refresh reads the newest page, or down to the first row
  kept, if there is one and nothing is known to precede it.  Let
  the source stay as it is meanwhile.  Then the window that a
  committed refresh leaves is determined by the rows of the
  source and the window before.  If the source has none of the
  rows down to the first one kept, nothing is left.

  Key definitions include:
    * `Window.refreshed`
    * `Window.Overhangs`

  Key theorems include:
    * `Window.refreshed_of_few`
    * `Window.refreshed_of_many`
    * `Window.head_refreshed`
    * `Buffer.fly_refresh`
    * `Traffic.refresh_exact`
    * `Traffic.refresh_reaches_newest_iff`
-/

namespace LedgerView

variable {ε ρ κ : Type} [LinearOrder κ]
variable {key : ρ → κ} {limit : Nat} {rows : List ρ} {w : Window ρ}

------------------------------------------------------------
-- Windows
------------------------------------------------------------

namespace Window

/- The window after a refresh over rows that do not change. -/
def refreshed
    (key : ρ → κ)
    (limit : Nat)
    (rows : List ρ)
    (w : Window ρ) : Window ρ :=
  match w.rows.head?, w.shadow with
  | some head, 0 =>
      Edit.apply key .join
        ((rows.filter fun row =>
          Operator.gte.accepts (key row) (key head)).take limit)
        w
  | _, _ =>
      Edit.apply key (.newest w.pageSize)
        (rows.take w.pageSize) w

/-
  The first row kept stands above all rows of the source, and
  nothing is known to precede it.
-/
def Overhangs
    (key : ρ → κ)
    (rows : List ρ)
    (w : Window ρ) : Prop :=
  w.shadow = 0 ∧
    ∃ head, w.rows.head? = some head ∧
      ∀ row ∈ rows, key row < key head

/- A window that can be joined is joined with fresh rows. -/
theorem refreshed_join
    {head : ρ}
    (hShadow : w.shadow = 0)
    (hHead : w.rows.head? = some head) :
    w.refreshed key limit rows =
      Edit.apply key .join
        ((rows.filter fun row =>
          Operator.gte.accepts (key row) (key head)).take limit)
        w := by
  unfold refreshed
  simp only [hHead, hShadow]

/- Any other window is rebuilt from the newest page. -/
theorem refreshed_rebuild
    (key : ρ → κ)
    (limit : Nat)
    (rows : List ρ)
    (hNoHead : w.rows = [] ∨ w.shadow ≠ 0) :
    w.refreshed key limit rows =
      Edit.apply key (.newest w.pageSize)
        (rows.take w.pageSize) w := by
  unfold refreshed
  split
  · next head hHead hShadow =>
      rcases hNoHead with hRows | hNot
      · rw [hRows] at hHead
        cases hHead
      · exact absurd hShadow hNot
  · rfl

/- It is then drained if the source is shorter than a page. -/
theorem refreshed_newest
    (key : ρ → κ)
    (limit : Nat)
    (rows : List ρ)
    (hNoHead : w.rows = [] ∨ w.shadow ≠ 0) :
    w.refreshed key limit rows =
      { w with
        rows := rows.take w.pageSize
        startIndex := 0
        shadow := 0
        drained := rows.length < w.pageSize } := by
  have hShort :
      (rows.take w.pageSize).length < w.pageSize ↔
        rows.length < w.pageSize := by
    rw [List.length_take]
    omega
  rw [refreshed_rebuild key limit rows hNoHead]
  simp only [Edit.apply, reset, hShort]

section Head

variable {newer older : List ρ} {head : ρ}

/-
  Fewer newer rows than one query gives are put in front of the
  rows kept.
-/
theorem refreshed_of_few
    (hRows : Descending key (newer ++ head :: older))
    (hShadow : w.shadow = 0)
    (hHead : w.rows.head? = some head)
    (hFew : newer.length < limit) :
    w.refreshed key limit (newer ++ head :: older) =
      { w with rows := newer ++ w.rows } := by
  rcases List.head?_eq_some_iff.mp hHead with ⟨rest, hKept⟩
  have hWhole : (newer ++ [head]).take limit = newer ++ [head] := by
    apply List.take_of_length_le
    rw [List.length_append, List.length_singleton]
    exact hFew
  rw [refreshed_join hShadow hHead, hRows.filter_gte, hWhole]
  exact Edit.apply_join_of_meet key newer hKept

/-
  As many newer rows as one query gives, or more, replace the
  rows kept, as far as one query gives them.
-/
theorem refreshed_of_many
    (hRows : Descending key (newer ++ head :: older))
    (hShadow : w.shadow = 0)
    (hHead : w.rows.head? = some head)
    (hMany : limit ≤ newer.length) :
    w.refreshed key limit (newer ++ head :: older) =
      { w with
        rows := newer.take limit
        startIndex := 0
        shadow := 0
        drained := false } := by
  have hFresh : (newer ++ [head]).take limit = newer.take limit :=
    List.take_append_of_le_length hMany
  have hApart : ∀ row ∈ newer.take limit, key row ≠ key head := by
    intro row hRow
    have hAbove :=
      (Descending.append_iff.mp hRows).2.2 row
        (List.mem_of_mem_take hRow) head List.mem_cons_self
    exact ne_of_gt hAbove
  rw [refreshed_join hShadow hHead, hRows.filter_gte, hFresh]
  exact Edit.apply_join_of_apart key hHead hApart

end Head

/- A window that overhangs is left without rows. -/
theorem refreshed_of_overhangs
    (limit : Nat)
    (hOverhangs : w.Overhangs key rows) :
    w.refreshed key limit rows =
      { w with
        rows := []
        startIndex := 0
        shadow := 0
        drained := false } := by
  rcases hOverhangs with ⟨hShadow, head, hHead, hBelow⟩
  have hNone :
      (rows.filter fun row =>
        Operator.gte.accepts (key row) (key head)) = [] := by
    apply List.filter_eq_nil_iff.mpr
    intro row hRow hAbove
    exact not_le_of_gt (hBelow row hRow)
      (Operator.accepts_gte_iff.mp hAbove)
  rw [refreshed_join hShadow hHead, hNone, List.take_nil]
  exact Edit.apply_join_of_apart key hHead (by simp)

/- Joined rows begin with the key that the fresh ones begin with. -/
theorem head_apply_join
    (key : ρ → κ)
    (fresh : List ρ)
    (w : Window ρ) :
    (Edit.apply key .join fresh w).rows.head?.map key =
      fresh.head?.map key := by
  rcases Edit.apply_join_cases key fresh w with
    ⟨newer, a, b, older, hSplit, _, hKey, hApply⟩ | hApply
  · rw [hApply, hSplit]
    cases newer with
    | nil => exact congrArg some hKey.symm
    | cons first rest => rfl
  · rw [hApply]

/- A join keeps the visible page at the front if it was there. -/
theorem startIndex_apply_join
    (key : ρ → κ)
    (fresh : List ρ)
    (hStart : w.startIndex = 0) :
    (Edit.apply key .join fresh w).startIndex = 0 := by
  rcases Edit.apply_join_cases key fresh w with
    ⟨_, _, _, _, _, _, _, hApply⟩ | hApply
  · rw [hApply]
    exact hStart
  · rw [hApply]
    rfl

/-
  A refreshed window begins with the newest key of the source,
  unless it overhangs.
-/
theorem head_refreshed
    (hLimit : 0 < limit)
    (hRows : Descending key rows)
    (hPage : 1 ≤ w.pageSize)
    (hNot : ¬w.Overhangs key rows) :
    (w.refreshed key limit rows).rows.head?.map key =
      rows.head?.map key := by
  by_cases hNoHead : w.rows = [] ∨ w.shadow ≠ 0
  · rw [refreshed_newest key limit rows hNoHead]
    rw [List.head?_take, if_neg (Nat.ne_of_gt hPage)]
  · rcases not_or.mp hNoHead with ⟨hKept, hShadow⟩
    have hShadow := not_not.mp hShadow
    have hHead := List.head?_eq_some_head hKept
    let fresh :=
      rows.filter fun row =>
        Operator.gte.accepts (key row) (key (w.rows.head hKept))
    have hPrefix : fresh <+: rows :=
      filter_wants_isPrefix
        (q := ⟨some (key (w.rows.head hKept)), .gte, .desc, 0⟩)
        hRows (.inr rfl)
    have hFresh : fresh ≠ [] := by
      intro hNil
      refine hNot ⟨hShadow, _, hHead, fun row hRow => ?_⟩
      have hBelow := List.filter_eq_nil_iff.mp hNil row hRow
      rw [Operator.accepts_gte_iff] at hBelow
      exact lt_of_not_ge hBelow
    have hFirst : fresh.head? = rows.head? := by
      rcases hPrefix with ⟨rest, hRest⟩
      rcases List.exists_cons_of_ne_nil hFresh with
        ⟨first, others, hCons⟩
      rw [← hRest, hCons]
      rfl
    rw [refreshed_join hShadow hHead, head_apply_join,
      List.head?_take, if_neg (Nat.ne_of_gt hLimit), hFirst]

/- A window that shows its front still does when refreshed. -/
theorem startIndex_refreshed
    (key : ρ → κ)
    (limit : Nat)
    (rows : List ρ)
    (hStart : w.startIndex = 0) :
    (w.refreshed key limit rows).startIndex = 0 := by
  unfold refreshed
  split
  · exact startIndex_apply_join key _ hStart
  · rfl

/- A refresh does not change the page size. -/
theorem pageSize_refreshed
    (key : ρ → κ)
    (limit : Nat)
    (rows : List ρ)
    (w : Window ρ) :
    (w.refreshed key limit rows).pageSize = w.pageSize := by
  unfold refreshed
  split <;> exact Edit.apply_pageSize key _ _ w

end Window

------------------------------------------------------------
-- Whole Refreshes
------------------------------------------------------------

/- A refresh has loaded everything that its window is to become. -/
theorem Buffer.fly_refresh
    (source : Archive key)
    (b : Buffer ρ)
    (asked : List (ListQuery κ)) :
    ∃ f asked',
      b.fly key source.ask asked (b.beginRefresh key) =
          (.ok f, asked') ∧
        f.plan = b.plan key ∧
        f.edit.apply key f.load.rows b.window =
          b.window.refreshed key b.maxLimit source.rows := by
  have hExists :
      (Operation.refresh : Operation κ).Exists
        b.window.pageSize := trivial
  rcases exists_course key b.maxLimit b.window hExists with
    ⟨edit, load, hCourse⟩
  have hBegin :
      Except.ok (b.beginRefresh key) =
        Except.ok (ε := PagerError) ⟨b.plan key, edit, load⟩ :=
    begin_of_course hCourse
  rw [Except.ok.inj hBegin]
  unfold fly
  cases hCourse with
  | newest hNoHead =>
      rcases Load.run_newest source b.maxLimit_pos asked
          b.window.pageSize with ⟨l', asked', hRun, hRows⟩
      simp only [hRun]
      refine ⟨_, asked', rfl, rfl, ?_⟩
      rw [hRows, Window.refreshed_rebuild key _ _ hNoHead]
  | join row hRow hShadow =>
      rcases Load.run_newest_down source b.maxLimit_pos asked
          (key row) with ⟨l', asked', hRun, hRows⟩
      simp only [hRun]
      refine ⟨_, asked', rfl, rfl, ?_⟩
      rw [hRows, Window.refreshed_join hShadow hRow]

namespace Traffic

/-
  Whatever happens to the buffer while a refresh loads, if it is
  committed it leaves the refreshed window.
-/
theorem commit_refresh
    (source : Archive key)
    (s : Traffic ε ρ κ)
    (asked : List (ListQuery κ)) :
    ∃ f asked',
      s.buffer.fly key source.ask asked
          (s.buffer.beginRefresh key) = (.ok f, asked') ∧
        f.plan = s.buffer.plan key ∧
        ∀ meanwhile,
          let s' := s.run key meanwhile
          s'.changes < s.changes + 2 ^ 64 →
          (s'.buffer.commit key f).2 = .committed →
            (s'.buffer.commit key f).1.window =
              s.buffer.window.refreshed key s.buffer.maxLimit
                source.rows := by
  rcases s.buffer.fly_refresh source asked with
    ⟨f, asked', hFly, hPlan, hApply⟩
  refine ⟨f, asked', hFly, hPlan, ?_⟩
  intro meanwhile s' hFew hCommitted
  exact (window_commit hPlan hFew hCommitted).trans hApply

/-
  A refresh over rows that do not change.  It loads and, if
  nothing else happens, is committed.  Committed at any later
  time, it leaves the newest page of a window that is empty or
  has a shadow.  To any other window it adds the rows newer than
  the first one kept, if they are fewer than one query gives;
  otherwise it leaves those of them that one query gives.
-/
theorem refresh_exact
    (source : Archive key)
    (s : Traffic ε ρ κ)
    (asked : List (ListQuery κ)) :
    ∃ f asked',
      s.buffer.fly key source.ask asked
          (s.buffer.beginRefresh key) = (.ok f, asked') ∧
        f.plan = s.buffer.plan key ∧
        (s.buffer.commit key f).2 = .committed ∧
        ∀ meanwhile,
          let s' := s.run key meanwhile
          s'.changes < s.changes + 2 ^ 64 →
          (s'.buffer.commit key f).2 = .committed →
          let w := s.buffer.window
          let w' := (s'.buffer.commit key f).1.window
          (w.rows = [] ∨ w.shadow ≠ 0 →
            w' =
              { w with
                rows := source.rows.take w.pageSize
                startIndex := 0
                shadow := 0
                drained := source.rows.length < w.pageSize }) ∧
          ∀ newer head older,
            w.shadow = 0 → w.rows.head? = some head →
            source.rows = newer ++ head :: older →
              (newer.length < s.buffer.maxLimit →
                w' = { w with rows := newer ++ w.rows }) ∧
              (s.buffer.maxLimit ≤ newer.length →
                w' =
                  { w with
                    rows := source.rows.take s.buffer.maxLimit
                    startIndex := 0
                    shadow := 0
                    drained := false }) := by
  rcases s.commit_refresh source asked with
    ⟨f, asked', hFly, hPlan, hWindow⟩
  refine
    ⟨f, asked', hFly, hPlan,
      congrArg Prod.snd (Buffer.commit_of_plan hPlan), ?_⟩
  intro meanwhile s' hFew hCommitted w w'
  have hRefreshed :
      w' = w.refreshed key s.buffer.maxLimit source.rows :=
    hWindow meanwhile hFew hCommitted
  rw [hRefreshed]
  refine
    ⟨fun hNoHead => Window.refreshed_newest key _ _ hNoHead, ?_⟩
  intro newer head older hShadow hHead hSource
  have hDescends := source.descends
  rw [hSource] at hDescends ⊢
  refine ⟨Window.refreshed_of_few hDescends hShadow hHead, ?_⟩
  intro hMany
  rw [Window.refreshed_of_many hDescends hShadow hHead hMany,
    List.take_append_of_le_length hMany]

/- The first page of three rows is shown. -/
def opening : List (Event (Archive (id : Nat → Nat)) Nat Nat) :=
  [.prepare 1, .depart 0 none, .answer 0 (.ok (some [3, 2])),
    .commit 0]

/- A refresh and a move are begun, and go no further. -/
def hesitating :
    List (Event (Archive (id : Nat → Nat)) Nat Nat) :=
  [.refresh, .prepare 2, .depart 0 none]

/-
  Queries give two rows.  One newer row is put in front of those
  kept; two newer rows replace them.
-/
theorem refresh_exact_hesitating :
    let s := (start threeRows 2 2).run id opening
    let s' := s.run id hesitating
    let w := s.buffer.window
    let one : Archive (id : Nat → Nat) :=
      ⟨[4, 3, 2, 1], by decide⟩
    let two : Archive (id : Nat → Nat) :=
      ⟨[5, 4, 3, 2, 1], by decide⟩
    (s'.changes < s.changes + 2 ^ 64 ∧ w.rows = [3, 2] ∧
        w.shadow = 0) ∧
      (∃ f asked',
        s.buffer.fly id one.ask [] (s.buffer.beginRefresh id) =
            (.ok f, asked') ∧
          (s'.buffer.commit id f).2 = .committed ∧
          (s'.buffer.commit id f).1.window =
            { w with rows := [4, 3, 2] }) ∧
      ∃ f asked',
        s.buffer.fly id two.ask [] (s.buffer.beginRefresh id) =
            (.ok f, asked') ∧
          (s'.buffer.commit id f).2 = .committed ∧
          (s'.buffer.commit id f).1.window =
            { w with rows := [5, 4] } := by
  intro s s' w one two
  have hFew : s'.changes < s.changes + 2 ^ 64 := by decide
  have hRows : w.rows = [3, 2] := by decide
  have hShadow : w.shadow = 0 := by decide
  have hHead : w.rows.head? = some 3 := by rw [hRows]; rfl
  have hCurrent :
      s'.buffer.isCurrent (s.buffer.plan id) = true := by
    decide
  have hCommitted :
      ∀ {f : Flight Nat Nat}, f.plan = s.buffer.plan id →
        (s'.buffer.commit id f).2 = .committed := by
    intro f hPlan
    rw [← hPlan] at hCurrent
    rw [Buffer.commit_of_isCurrent hCurrent]
  refine ⟨⟨hFew, hRows, hShadow⟩, ?_, ?_⟩
  · rcases refresh_exact one s [] with
      ⟨f, asked', hFly, hPlan, _, hLeaves⟩
    have hEnd := hCommitted hPlan
    have hJoins :=
      (hLeaves hesitating hFew hEnd).2 [4] 3 [2, 1] hShadow
        hHead rfl
    exact ⟨f, asked', hFly, hEnd, hJoins.1 (by decide)⟩
  · rcases refresh_exact two s [] with
      ⟨f, asked', hFly, hPlan, _, hLeaves⟩
    have hEnd := hCommitted hPlan
    have hReplaces :=
      (hLeaves hesitating hFew hEnd).2 [5, 4] 3 [2, 1] hShadow
        hHead rfl
    refine ⟨f, asked', hFly, hEnd, ?_⟩
    exact (hReplaces.2 (by decide)).trans (by decide)

/-
  A refresh over rows that do not change, of which there are
  some.  It leaves a window that begins with the newest key, and
  shows a row if the front was shown, unless the window
  overhung; then nothing is left.
-/
theorem refresh_reaches_newest_iff
    (source : Archive key)
    (s : Traffic ε ρ κ)
    (asked : List (ListQuery κ))
    (hRows : source.rows ≠ [])
    (hPage : 1 ≤ s.buffer.window.pageSize) :
    ∃ f asked',
      s.buffer.fly key source.ask asked
          (s.buffer.beginRefresh key) = (.ok f, asked') ∧
        f.plan = s.buffer.plan key ∧
        (s.buffer.commit key f).2 = .committed ∧
        ∀ meanwhile,
          let s' := s.run key meanwhile
          s'.changes < s.changes + 2 ^ 64 →
          (s'.buffer.commit key f).2 = .committed →
          let w := s.buffer.window
          let w' := (s'.buffer.commit key f).1.window
          (w'.rows.head?.map key = source.rows.head?.map key ∧
              (w.startIndex = 0 → w'.pageRows ≠ []) ↔
            ¬w.Overhangs key source.rows) ∧
          (w.Overhangs key source.rows →
            w' =
              { w with
                rows := []
                startIndex := 0
                shadow := 0
                drained := false }) := by
  rcases s.commit_refresh source asked with
    ⟨f, asked', hFly, hPlan, hWindow⟩
  refine
    ⟨f, asked', hFly, hPlan,
      congrArg Prod.snd (Buffer.commit_of_plan hPlan), ?_⟩
  intro meanwhile s' hFew hCommitted w w'
  have hRefreshed :
      w' = w.refreshed key s.buffer.maxLimit source.rows :=
    hWindow meanwhile hFew hCommitted
  have hFirst : source.rows.head?.map key ≠ none := by
    intro hNone
    rw [Option.map_eq_none_iff, List.head?_eq_none_iff] at hNone
    exact hRows hNone
  rw [hRefreshed]
  refine ⟨⟨?_, ?_⟩, Window.refreshed_of_overhangs _⟩
  · intro hReaches hOverhangs
    rw [Window.refreshed_of_overhangs _ hOverhangs] at hReaches
    exact hFirst hReaches.1.symm
  · intro hNot
    have hHead :=
      Window.head_refreshed s.buffer.maxLimit_pos
        source.descends hPage hNot
    refine ⟨hHead, fun hStart hNil => ?_⟩
    rw [Window.pageRows_eq_nil_iff
      (Nat.lt_of_lt_of_eq hPage
        (Window.pageSize_refreshed key _ _ w).symm),
      Window.startIndex_refreshed key _ _ hStart,
      Nat.le_zero, List.length_eq_zero_iff] at hNil
    rw [hNil] at hHead
    exact hFirst hHead.symm

/- The two older rows are left of three. -/
def twoRows : Archive (id : Nat → Nat) :=
  ⟨[2, 1], by decide⟩

/- The newest row is gone, and with it all that was kept. -/
theorem refresh_reaches_newest_iff_fallen :
    let s := (start threeRows 2 50).run id opening
    let w := s.buffer.window
    (twoRows.rows ≠ [] ∧ 1 ≤ w.pageSize ∧ w.startIndex = 0 ∧
        w.Overhangs id twoRows.rows) ∧
      ∃ f asked',
        s.buffer.fly id twoRows.ask []
            (s.buffer.beginRefresh id) = (.ok f, asked') ∧
          (s.buffer.commit id f).2 = .committed ∧
          (s.buffer.commit id f).1.window.rows = [] := by
  intro s w
  have hRows : twoRows.rows ≠ [] := by decide
  have hPage : 1 ≤ w.pageSize := by decide
  have hStart : w.startIndex = 0 := by decide
  have hFew : (s.run id []).changes < s.changes + 2 ^ 64 := by
    decide
  have hOverhangs : w.Overhangs id twoRows.rows :=
    ⟨rfl, 3, rfl, by decide⟩
  rcases refresh_reaches_newest_iff twoRows s [] hRows hPage with
    ⟨f, asked', hFly, _, hCommitted, hLeaves⟩
  have hLeft := (hLeaves [] hFew hCommitted).2 hOverhangs
  exact
    ⟨⟨hRows, hPage, hStart, hOverhangs⟩, f, asked', hFly,
      hCommitted, congrArg Window.rows hLeft⟩

/-
  The first page of three rows is shown, the newest row goes,
  and a refresh that is answered truthfully leaves a blank
  table, though two rows are there.
-/
theorem refresh_left_blank :
    let before := (start threeRows 2 50).run id opening
    let begun :=
      before.run id [.source twoRows, .refresh]
    let loading : List (Event (Archive (id : Nat → Nat)) Nat Nat) :=
      [.answer 0 (.ok (some [])), .commit 0]
    let after := begun.run id loading
    (Conduct.steady id).Allows id (start threeRows 2 50)
        opening ∧
      (Conduct.steady id).Allows id begun loading ∧
      before.buffer.window.startIndex = 0 ∧
      (after.history.map Record.result).getLast? =
        some (.ok .committed) ∧
      after.source.rows = [2, 1] ∧
      ¬(after.buffer.window.rows.head? =
          after.source.rows.head? ∧
        after.buffer.window.pageRows ≠ []) := by
  decide +kernel

end Traffic

end LedgerView
