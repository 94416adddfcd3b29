import LedgerView.Proofs.Buffer.Edit

/-
  The number of the visible page and the number of pages.

  The visible page begins within the rows that are counted, and
  then it is one of the pages.  Only of a drained window that
  holds no row may it begin where the counted rows end, and if a
  page ends there it is one page too far.

  Key definitions include:
    * `Window.Placed`
    * `Window.Astray`
    * `Edit.start`

  Key theorems include:
    * `Window.Placed.currentPage_cases`
    * `Edit.placed_apply`
    * `Edit.shadow_apply_of_rows_eq_nil`
-/

namespace LedgerView

------------------------------------------------------------
-- Division Rounded Up
------------------------------------------------------------

/- A part that is begun counts as a whole one. -/
theorem divUp_succ
    {d : Nat}
    (hPos : 1 ≤ d)
    (n : Nat) :
    divUp (n + 1) d = n / d + 1 := by
  have hSum : n + 1 + d - 1 = n + d := by omega
  unfold divUp
  rw [hSum, Nat.add_div_right n hPos]

/- Of whole parts none is begun. -/
theorem divUp_of_dvd
    {d n : Nat}
    (hPos : 1 ≤ d)
    (hDvd : d ∣ n) :
    divUp n d = n / d := by
  rcases hDvd with ⟨k, hMul⟩
  have hSum : d * k + d - 1 = d - 1 + d * k := by omega
  unfold divUp
  rw [hMul, hSum, Nat.add_mul_div_left _ _ hPos,
    Nat.mul_div_cancel_left k hPos,
    Nat.div_eq_of_lt (Nat.sub_lt hPos Nat.one_pos), Nat.zero_add]

/- Otherwise one is. -/
theorem divUp_of_not_dvd
    {d n : Nat}
    (hPos : 1 ≤ d)
    (hNot : ¬d ∣ n) :
    divUp n d = n / d + 1 := by
  have hSome : n ≠ 0 := fun hZero => hNot (hZero ▸ Nat.dvd_zero d)
  rcases Nat.exists_eq_succ_of_ne_zero hSome with ⟨m, hSucc⟩
  rw [hSucc] at hNot ⊢
  rw [divUp_succ hPos, Nat.succ_div, if_neg hNot, Nat.add_zero]

/- Parts of more are at least as many. -/
theorem divUp_le_divUp
    (d : Nat)
    {m n : Nat}
    (hLe : m ≤ n) :
    divUp m d ≤ divUp n d :=
  Nat.div_le_div_right (by omega)

/- All parts together hold everything. -/
theorem le_divUp_mul
    {d : Nat}
    (hPos : 1 ≤ d)
    (n : Nat) :
    n ≤ divUp n d * d := by
  cases n with
  | zero => exact Nat.zero_le _
  | succ n =>
      rw [divUp_succ hPos, Nat.add_mul, Nat.one_mul]
      exact Nat.lt_div_mul_add hPos

------------------------------------------------------------
-- Windows
------------------------------------------------------------

namespace Window

variable {ρ : Type} {w : Window ρ}

/-
  The visible page begins at a place that can be counted, within
  the rows kept.  If the window is drained and keeps any row, the
  page begins with one.
-/
structure Placed
    (w : Window ρ) : Prop where
  pageSize_pos : 1 ≤ w.pageSize
  startIndex_le : w.startIndex ≤ w.rows.length
  place_lt : w.shadow + w.startIndex < maxWord
  onRow :
    w.drained = true → w.rows ≠ [] →
      w.startIndex < w.rows.length

/-
  The rows counted fill some pages, and there is no row on the
  page after them, which is shown.
-/
structure Astray
    (w : Window ρ) : Prop where
  rows : w.rows = []
  drained : w.drained = true
  shadow_pos : 0 < w.shadow
  dvd : w.pageSize ∣ w.shadow

/- An empty window shows its first page. -/
theorem placed_empty
    (pageSize : Nat) :
    (empty pageSize : Window ρ).Placed where
  pageSize_pos := Nat.le_max_right _ _
  startIndex_le := Nat.le_refl 0
  place_lt := by
    show 0 < maxWord
    decide
  onRow := fun hDrained => by cases hDrained

namespace Placed

/- Forgetting the rows leads back to the first page. -/
theorem reset
    (hPlaced : w.Placed) :
    w.reset.Placed where
  pageSize_pos := hPlaced.pageSize_pos
  startIndex_le := Nat.le_refl 0
  place_lt := by
    show 0 < maxWord
    decide
  onRow := fun hDrained => by cases hDrained

/- A page of another size begins with the same row. -/
theorem setPageSize
    {b : Buffer ρ}
    (hPlaced : b.window.Placed)
    (pageSize : Nat) :
    (b.setPageSize pageSize).window.Placed := by
  have hWithin := hPlaced.startIndex_le
  have hSame :
      (b.setPageSize pageSize).window.startIndex =
        b.window.startIndex :=
    Nat.min_eq_left hWithin
  exact
    { pageSize_pos := Nat.le_max_right _ _
      startIndex_le := hSame ▸ hWithin
      place_lt := by
        rw [hSame]
        exact hPlaced.place_lt
      onRow := fun hDrained hSome => by
        rw [hSame]
        exact hPlaced.onRow hDrained hSome }

/- No number is cut off to fit a word. -/
theorem currentPage_eq
    (hPlaced : w.Placed) :
    w.currentPage =
      (w.shadow + w.startIndex) / w.pageSize + 1 := by
  have hPlace := hPlaced.place_lt
  have hPage :
      (w.shadow + w.startIndex) / w.pageSize ≤
        w.shadow + w.startIndex :=
    Nat.div_le_self _ _
  unfold currentPage absoluteStart saturate
  rw [Nat.min_eq_left (Nat.le_of_lt hPlace)]
  exact Nat.min_eq_left (by omega)

/- A page that begins within the rows counted is a page. -/
theorem currentPage_le
    (hPlaced : w.Placed)
    {presumed : Nat}
    (hCounted :
      w.shadow + w.startIndex < w.totalRowCount presumed) :
    w.currentPage ≤ w.pageCount presumed := by
  rw [hPlaced.currentPage_eq, ← divUp_succ hPlaced.pageSize_pos]
  exact Nat.le_trans (divUp_le_divUp _ hCounted)
    (Nat.le_max_left _ _)

/- While more rows are presumed, the page begins within them. -/
theorem place_lt_of_not_drained
    (hPlaced : w.Placed)
    (hNot : w.drained = false)
    (presumed : Nat) :
    w.shadow + w.startIndex < w.totalRowCount presumed := by
  have hPlace := hPlaced.place_lt
  have hWithin := hPlaced.startIndex_le
  have hRound :=
    le_divUp_mul (Nat.le_max_right presumed 1)
      (saturate (w.knownRowCount + 1))
  unfold totalRowCount
  rw [hNot]
  simp only [Bool.false_eq_true, if_false, knownRowCount, saturate]
    at hRound ⊢
  omega

/- The page of a drained window begins with a row that counts. -/
theorem place_lt_of_drained
    (hPlaced : w.Placed)
    (hDrained : w.drained = true)
    (hRow : w.startIndex < w.rows.length)
    (presumed : Nat) :
    w.shadow + w.startIndex < w.totalRowCount presumed := by
  have hPlace := hPlaced.place_lt
  unfold totalRowCount knownRowCount saturate
  rw [if_pos hDrained]
  omega

/- Without rows the page begins where the shadow ends. -/
theorem startIndex_of_rows_eq_nil
    (hPlaced : w.Placed)
    (hNone : w.rows = []) :
    w.startIndex = 0 := by
  have hWithin := hPlaced.startIndex_le
  rw [hNone] at hWithin
  exact Nat.le_zero.mp hWithin

/- Without rows the pages of a drained window are the shadow's. -/
theorem pageCount_of_rows_eq_nil
    (hPlaced : w.Placed)
    (hDrained : w.drained = true)
    (hNone : w.rows = [])
    (presumed : Nat) :
    w.pageCount presumed = max (divUp w.shadow w.pageSize) 1 := by
  have hPlace := hPlaced.place_lt
  have hFits : w.shadow ≤ maxWord := by omega
  unfold pageCount totalRowCount knownRowCount saturate
  rw [if_pos hDrained, hNone, List.length_nil, Nat.add_zero,
    Nat.min_eq_left hFits]

/-
  A window without rows shows one page of its shadow, or the one
  page after all of them.
-/
theorem currentPage_of_rows_eq_nil
    (hPlaced : w.Placed)
    (hDrained : w.drained = true)
    (hNone : w.rows = [])
    (presumed : Nat) :
    (w.Astray ∧ w.currentPage = w.pageCount presumed + 1) ∨
      (¬w.Astray ∧ w.currentPage ≤ w.pageCount presumed) := by
  have hPos := hPlaced.pageSize_pos
  have hPage := hPlaced.currentPage_eq
  rw [hPlaced.startIndex_of_rows_eq_nil hNone,
    Nat.add_zero w.shadow] at hPage
  rw [hPage, hPlaced.pageCount_of_rows_eq_nil hDrained hNone]
  by_cases hDvd : w.pageSize ∣ w.shadow
  · rw [divUp_of_dvd hPos hDvd]
    by_cases hSome : 0 < w.shadow
    · have hFirst : 1 ≤ w.shadow / w.pageSize :=
        Nat.div_pos (Nat.le_of_dvd hSome hDvd) hPos
      exact Or.inl ⟨⟨hNone, hDrained, hSome, hDvd⟩, by omega⟩
    · have hZero : w.shadow = 0 := by omega
      refine Or.inr ⟨fun hAstray => hSome hAstray.shadow_pos, ?_⟩
      rw [hZero, Nat.zero_div]
      exact Nat.le_max_right _ _
  · rw [divUp_of_not_dvd hPos hDvd]
    exact
      Or.inr ⟨fun hAstray => hDvd hAstray.dvd, Nat.le_max_left _ _⟩

/-
  The visible page is one of the pages, or the window is astray
  and it is the page after them.
-/
theorem currentPage_cases
    (hPlaced : w.Placed)
    (presumed : Nat) :
    (w.Astray ∧ w.currentPage = w.pageCount presumed + 1) ∨
      (¬w.Astray ∧ w.currentPage ≤ w.pageCount presumed) := by
  by_cases hDrained : w.drained = true
  · by_cases hNone : w.rows = []
    · exact hPlaced.currentPage_of_rows_eq_nil hDrained hNone
        presumed
    · have hRow := hPlaced.onRow hDrained hNone
      exact
        Or.inr ⟨fun hAstray => hNone hAstray.rows,
          hPlaced.currentPage_le
            (hPlaced.place_lt_of_drained hDrained hRow presumed)⟩
  · have hNot : w.drained = false := by simpa using hDrained
    exact
      Or.inr ⟨fun hAstray => hDrained hAstray.drained,
        hPlaced.currentPage_le
          (hPlaced.place_lt_of_not_drained hNot presumed)⟩

end Placed

end Window

------------------------------------------------------------
-- Edits
------------------------------------------------------------

namespace Edit

variable {ρ κ : Type} {w : Window ρ}

/- Where the page begins that an edit is to show. -/
def start : Edit → Nat
  | anchored start _ => start
  | initial start _ => start
  | head start _ => start
  | tail start _ => start
  | turn start => start
  | newest _ => 0
  | join => 0

/- Any page that can be counted may be shown. -/
theorem placed_showPage
    {start : Nat}
    (hPos : 1 ≤ w.pageSize)
    (hShadow : w.shadow < maxWord)
    (hStart : start < maxWord) :
    (showPage w start).Placed where
  pageSize_pos := hPos
  startIndex_le := startIndex_showPage_le w start
  place_lt := by
    show w.shadow + w.clampStart start < maxWord
    simp only [Window.clampStart]
    split <;> omega
  onRow := by
    intro hDrained hSome
    have hRows : 0 < w.rows.length := List.length_pos_iff.mpr hSome
    have hLast : w.lastPageStart ≤ w.shadow + w.rows.length - 1 := by
      refine Nat.le_trans (Nat.div_mul_le_self _ _) ?_
      unfold Window.knownRowCount saturate
      omega
    show w.clampStart start < w.rows.length
    simp only [Window.clampStart, show w.drained = true from hDrained,
      if_true]
    omega

variable [DecidableEq κ]

/- Whatever was loaded, an edit leaves the page well placed. -/
theorem placed_apply
    (key : ρ → κ)
    {edit : Edit}
    (hPlaced : w.Placed)
    (hStart : edit.start < maxWord)
    (loaded : List ρ) :
    (edit.apply key loaded w).Placed := by
  have hPos := hPlaced.pageSize_pos
  have hPlace := hPlaced.place_lt
  have hShadow : w.shadow < maxWord := by omega
  cases edit with
  | anchored start pageSize =>
      exact
        { pageSize_pos := hPos
          startIndex_le := Nat.zero_le _
          place_lt := hStart
          onRow := fun _ hSome => List.length_pos_iff.mpr hSome }
  | initial start stop =>
      exact placed_showPage hPos (Nat.zero_lt_of_lt hStart) hStart
  | head start wanted =>
      refine placed_showPage hPos ?_ hStart
      dsimp only
      split <;> omega
  | tail start wanted => exact placed_showPage hPos hShadow hStart
  | turn start => exact placed_showPage hPos hShadow hStart
  | newest pageSize =>
      exact
        { pageSize_pos := hPos
          startIndex_le := Nat.zero_le _
          place_lt := hStart
          onRow := fun _ hSome => List.length_pos_iff.mpr hSome }
  | join =>
      rcases apply_join_cases key loaded w with
        ⟨newer, a, b, older, -, hRows, -, hApply⟩ | hApply
      · have hWithin := startIndex_apply_le key .join loaded
          hPlaced.startIndex_le
        rw [hApply] at hWithin ⊢
        refine ⟨hPos, hWithin, hPlace, fun hDrained _ => ?_⟩
        have hRow := hPlaced.onRow hDrained (by rw [hRows]; simp)
        rw [hRows] at hRow
        simp only [List.length_append]
        omega
      · rw [hApply]
        exact
          { pageSize_pos := hPos
            startIndex_le := Nat.zero_le _
            place_lt := hStart
            onRow := fun hDrained => by cases hDrained }

/-
  No edit but an anchored one makes a shadow before no rows: it
  can only leave what was there.
-/
theorem shadow_apply_of_rows_eq_nil
    (key : ρ → κ)
    {edit : Edit}
    (hFree : ∀ start pageSize, edit ≠ .anchored start pageSize)
    {loaded : List ρ}
    (hNone : (edit.apply key loaded w).rows = [])
    (hShadow : 0 < (edit.apply key loaded w).shadow) :
    w.rows = [] ∧ (edit.apply key loaded w).shadow = w.shadow := by
  cases edit with
  | anchored start pageSize => exact absurd rfl (hFree _ _)
  | initial start stop => cases hShadow
  | head start wanted =>
      rcases List.append_eq_nil_iff.mp hNone with ⟨hLoaded, hRows⟩
      have hNothing : loaded = [] := List.reverse_eq_nil_iff.mp hLoaded
      refine ⟨hRows, ?_⟩
      rw [hNothing] at hShadow ⊢
      simp only [apply, showPage, List.length_nil, Nat.sub_zero]
        at hShadow ⊢
      split
      · next hFew =>
          rw [if_pos hFew] at hShadow
          cases hShadow
      · rfl
  | tail start wanted =>
      exact ⟨(List.append_eq_nil_iff.mp hNone).1, rfl⟩
  | turn start => exact ⟨hNone, rfl⟩
  | newest pageSize => cases hShadow
  | join =>
      rcases apply_join_cases key loaded w with
        ⟨newer, a, b, older, -, -, -, hApply⟩ | hApply
      · rw [hApply] at hNone
        simp at hNone
      · rw [hApply] at hShadow
        cases hShadow

end Edit

end LedgerView
