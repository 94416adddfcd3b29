import Mathlib.Algebra.Order.Group.Nat
import LedgerView.Proofs.Traffic.GapFree
import LedgerView.Proofs.Window.Page

/-
  Pages that can be found again.

  A move in a window that begins with the newest row shows a
  page that begins where pages begin, and that is full unless
  the list ends on it.  Such a page is a run of the list that
  its first row and its number determine, however many rows
  come in above it.

  Key definitions include:
    * `Window.Complete`

  Key theorems include:
    * `Course.complete`
    * `Window.Complete.exists_run`
    * `Window.Complete.pageOffset_currentPage`
    * `Edit.apply_anchored`
-/

namespace LedgerView

variable {ρ κ : Type}

------------------------------------------------------------
-- Complete Pages
------------------------------------------------------------

namespace Window

/-
  A page of a window that begins with the newest row: it begins
  where pages begin, and is full unless the list ends on it.
-/
structure Complete
    (w : Window ρ) : Prop where
  shadow : w.shadow = 0
  pageSize_pos : 1 ≤ w.pageSize
  aligned : w.pageSize ∣ w.startIndex
  within : w.startIndex + w.pageSize ≤ maxWord
  full :
    w.drained = true ∨ w.startIndex + w.pageSize ≤ w.rows.length

variable {w : Window ρ} {page : Nat}

/- A page with rows begins before the end. -/
theorem startIndex_lt_of_pageRows
    (hRows : w.pageRows ≠ []) :
    w.startIndex < w.rows.length := by
  refine Nat.lt_of_not_le fun hEnd => hRows ?_
  unfold pageRows
  rw [List.drop_of_length_le hEnd, List.take_nil]

/- A page that is shown, unless it is empty, is complete. -/
theorem complete_showPage
    (hShadow : w.shadow = 0)
    (hPos : 1 ≤ w.pageSize)
    (hPage : PageExists page w.pageSize)
    (hReaches :
      w.Reaches (pageOffset page w.pageSize + w.pageSize))
    (hRows :
      (Edit.showPage w (pageOffset page w.pageSize)).pageRows ≠
        []) :
    (Edit.showPage w (pageOffset page w.pageSize)).Complete := by
  let start := pageOffset page w.pageSize
  let first := if w.drained then min start w.lastPageStart else start
  have hFirst : w.clampStart start = min first w.rows.length := by
    unfold clampStart
    dsimp only
    rw [hShadow, Nat.sub_zero]
  have hBegins : w.clampStart start < w.rows.length :=
    startIndex_lt_of_pageRows hRows
  have hStart : w.clampStart start = first := by omega
  have hLe : first ≤ start := by
    simp only [first]
    split
    · exact Nat.min_le_left _ _
    · exact Nat.le_refl _
  have hAligned : w.pageSize ∣ first := by
    have hOffset : w.pageSize ∣ start := Nat.dvd_mul_left _ _
    have hLast : w.pageSize ∣ w.lastPageStart :=
      Nat.dvd_mul_left _ _
    simp only [first]
    split
    · rcases Nat.le_total start w.lastPageStart with h | h
      · rw [Nat.min_eq_left h]
        exact hOffset
      · rw [Nat.min_eq_right h]
        exact hLast
    · exact hOffset
  have hExists : start + w.pageSize ≤ maxWord := hPage
  refine ⟨hShadow, hPos, ?_, ?_, ?_⟩
  · show w.pageSize ∣ w.clampStart start
    rw [hStart]
    exact hAligned
  · show w.clampStart start + w.pageSize ≤ maxWord
    omega
  · show w.drained = true ∨
      w.clampStart start + w.pageSize ≤ w.rows.length
    refine hReaches.imp_right fun hStop => ?_
    change start + w.pageSize ≤ w.rows.length at hStop
    omega

/- The number of a page whose rows can be counted. -/
theorem currentPage_of_le
    {start : Nat}
    (hStart : w.shadow + w.startIndex = start)
    (hPos : 1 ≤ w.pageSize)
    (hWithin : start + w.pageSize ≤ maxWord) :
    w.currentPage = start / w.pageSize + 1 := by
  have hWord : start ≤ maxWord := by omega
  have hDiv : start / w.pageSize ≤ start := Nat.div_le_self _ _
  have hNumber : start / w.pageSize + 1 ≤ maxWord := by omega
  unfold currentPage absoluteStart saturate
  rw [hStart, Nat.min_eq_left hWord, Nat.min_eq_left hNumber]

namespace Complete

/- The number of a complete page tells where it begins. -/
theorem currentPage_eq
    (hComplete : w.Complete) :
    w.currentPage = w.startIndex / w.pageSize + 1 :=
  currentPage_of_le (by rw [hComplete.shadow, Nat.zero_add])
    hComplete.pageSize_pos hComplete.within

/- A page of that number begins there. -/
theorem pageOffset_currentPage
    (hComplete : w.Complete) :
    pageOffset w.currentPage w.pageSize = w.startIndex := by
  unfold pageOffset
  rw [hComplete.currentPage_eq,
    Nat.max_eq_left (Nat.le_add_left 1 _), Nat.add_sub_cancel,
    Nat.div_mul_cancel hComplete.aligned]

/- Such a page exists. -/
theorem pageExists_currentPage
    (hComplete : w.Complete) :
    PageExists w.currentPage w.pageSize := by
  unfold PageExists
  rw [hComplete.pageOffset_currentPage]
  exact hComplete.within

/- A complete page is a run of the source from its first row on. -/
theorem exists_run
    [LinearOrder κ]
    {key : ρ → κ}
    {source : Archive key}
    (hComplete : w.Complete)
    (hSuits : (Shape.gapless key).Suits source w)
    (hRows : w.pageRows ≠ []) :
    ∃ row older,
      row :: older <:+ source.rows ∧
        w.firstVisible = some row ∧
        w.pageRows = (row :: older).take w.pageSize := by
  have hBegins := startIndex_lt_of_pageRows hRows
  have hPos := hComplete.pageSize_pos
  have hRun : w.rows <:+: source.rows := hSuits.fits
  -- the rows of the source from the page on
  have hRest :
      ∃ rest, rest <:+ source.rows ∧
        w.pageRows = rest.take w.pageSize := by
    rcases hComplete.full with hDrained | hFull
    · have hSome : w.rows ≠ [] := by
        intro hNil
        rw [hNil] at hBegins
        exact Nat.not_lt_zero _ hBegins
      have hEnds : w.rows <:+ source.rows :=
        hSuits.ends hDrained hSome
      exact
        ⟨w.rows.drop w.startIndex,
          (List.drop_suffix _ _).trans hEnds, rfl⟩
    · rcases hRun with ⟨newer, older, hSource⟩
      refine ⟨w.rows.drop w.startIndex ++ older, ?_, ?_⟩
      · refine ⟨newer ++ w.rows.take w.startIndex, ?_⟩
        rw [← hSource, List.append_assoc,
          ← List.append_assoc (w.rows.take w.startIndex),
          List.take_append_drop, ← List.append_assoc]
      · unfold pageRows
        rw [List.take_append_of_le_length]
        rw [List.length_drop]
        omega
  rcases hRest with ⟨rest, hSuffix, hPage⟩
  cases rest with
  | nil =>
      rw [List.take_nil] at hPage
      exact absurd hPage hRows
  | cons row older =>
      refine ⟨row, older, hSuffix, ?_, hPage⟩
      unfold firstVisible
      rw [hPage, List.head?_take, if_neg (by omega)]
      rfl

end Complete

end Window

------------------------------------------------------------
-- Moves
------------------------------------------------------------

variable [DecidableEq κ]

/-
  What a move without an anchor makes of a window that begins
  with the newest row.
-/
theorem Course.complete
    {key : ρ → κ}
    {w : Window ρ}
    {page limit : Nat}
    {edit : Edit}
    {load : Load ρ κ}
    (hShadow : w.shadow = 0)
    (hPos : 1 ≤ w.pageSize)
    (hCourse : Course key limit w (.move page none) edit load)
    (rows : List ρ) :
    (edit.apply key rows w).shadow = 0 ∧
      ((edit.apply key rows w).pageRows ≠ [] →
        (edit.apply key rows w).Complete) := by
  cases hCourse with
  | initial page hPage hRows =>
      let start := pageOffset page w.pageSize
      let u : Window ρ :=
        { w with
          rows := rows
          shadow := 0
          drained := rows.length < start + w.pageSize }
      have hReaches : u.Reaches (start + w.pageSize) := by
        by_cases hFewer : rows.length < start + w.pageSize
        · exact Or.inl (decide_eq_true hFewer)
        · exact Or.inr (Nat.not_lt.mp hFewer)
      have hPage : PageExists page u.pageSize := hPage
      exact
        ⟨rfl, Window.complete_showPage rfl hPos hPage hReaches⟩
  | head page row hPage hRow hBefore =>
      rw [hShadow] at hBefore
      exact absurd hBefore (Nat.not_lt_zero _)
  | tail page row hPage hRow hBefore hBeyond hDrained =>
      let start := pageOffset page w.pageSize
      let wanted := start + w.pageSize - (w.shadow + w.rows.length)
      let u : Window ρ :=
        { w with
          rows := w.rows ++ rows
          drained := w.drained || rows.length < wanted }
      have hReaches : u.Reaches (start + w.pageSize) := by
        by_cases hFewer : rows.length < wanted
        · left
          show (w.drained || decide (rows.length < wanted)) = true
          rw [decide_eq_true hFewer, Bool.or_true]
        · right
          show start + w.pageSize ≤ (w.rows ++ rows).length
          rw [List.length_append]
          omega
      have hPage : PageExists page u.pageSize := hPage
      exact
        ⟨hShadow,
          Window.complete_showPage hShadow hPos hPage hReaches⟩
  | turn page hPage hRows hBefore hWithin =>
      rw [hShadow, Nat.zero_add] at hWithin
      exact
        ⟨hShadow,
          Window.complete_showPage hShadow hPos hPage
            hWithin.symm⟩

/- What a move to an anchor shows. -/
theorem Edit.apply_anchored
    (key : ρ → κ)
    {w : Window ρ}
    {page : Nat}
    (hPos : 1 ≤ w.pageSize)
    (hPage : PageExists page w.pageSize)
    (hFirst : 1 ≤ page)
    (rows : List ρ) :
    let u :=
      Edit.apply key
        (.anchored (pageOffset page w.pageSize) w.pageSize) rows w
    u.pageRows = rows.take w.pageSize ∧ u.currentPage = page := by
  intro u
  have hNumber :
      u.currentPage = pageOffset page w.pageSize / w.pageSize + 1 :=
    Window.currentPage_of_le rfl hPos hPage
  refine ⟨rfl, ?_⟩
  rw [hNumber]
  unfold pageOffset
  rw [Nat.max_eq_left hFirst, Nat.mul_div_cancel _ hPos,
    Nat.sub_add_cancel hFirst]

end LedgerView
