import LedgerView.Proofs.Buffer.Operation

/-
  Pages of a window that begins with the newest row.

  Such a window holds the first rows of a list, up to a place
  that it may not know to be the end.  Its page begins where the
  page asked for begins, or where the last page of the list
  does.

  Key definitions include:
    * `pageStart`
    * `Window.Leads`
    * `Window.Reaches`
    * `Window.Shows`

  Key theorems include:
    * `Window.leads_of_take`
    * `Window.leads_of_append`
    * `Window.Leads.totalRowCount_eq`
    * `Window.Leads.shows`
    * `Window.Shows.pageRows_eq`
    * `Window.Shows.currentPage_eq`
-/

namespace LedgerView

variable {ρ : Type}

------------------------------------------------------------
-- Where Pages Begin
------------------------------------------------------------

/- Where the last page of a list begins. -/
def lastStart
    (count pageSize : Nat) : Nat :=
  (count - 1) / pageSize * pageSize

/-
  Where a page of a list begins; a page beyond the end counts
  as the last.
-/
def pageStart
    (page pageSize count : Nat) : Nat :=
  min (pageOffset page pageSize) (lastStart count pageSize)

/- The last page begins within the list. -/
theorem lastStart_le
    (count pageSize : Nat) :
    lastStart count pageSize ≤ count - 1 :=
  Nat.div_mul_le_self _ _

/- A page with a row on it is not beyond the last. -/
theorem pageOffset_le_lastStart
    {page pageSize count : Nat}
    (hPageSize : 1 ≤ pageSize)
    (hRow : pageOffset page pageSize + 1 ≤ count) :
    pageOffset page pageSize ≤ lastStart count pageSize := by
  unfold pageOffset at hRow ⊢
  unfold lastStart
  apply Nat.mul_le_mul_right
  apply (Nat.le_div_iff_mul_le hPageSize).mpr
  omega

namespace Window

------------------------------------------------------------
-- Leading Windows
------------------------------------------------------------

/- A window that holds the first rows of a list. -/
structure Leads
    (rows : List ρ)
    (w : Window ρ) : Prop where
  shadow : w.shadow = 0
  isPrefix : w.rows <+: rows
  whole :
    w.drained = true → w.rows = rows ∧ rows.length ≤ maxWord
  pageSize_pos : 1 ≤ w.pageSize
  pageSize_le : w.pageSize ≤ maxWord

/- A window that holds every row before a place, if it exists. -/
def Reaches
    (w : Window ρ)
    (stop : Nat) : Prop :=
  w.drained = true ∨ stop ≤ w.rows.length

/-
  A window that was filled up to a place, and is drained if
  there were fewer rows.
-/
theorem leads_of_take
    {rows : List ρ}
    {w : Window ρ}
    {stop : Nat}
    (hShadow : w.shadow = 0)
    (hRows : w.rows = rows.take stop)
    (hDrained : w.drained = decide (w.rows.length < stop))
    (hStop : stop ≤ maxWord)
    (hPos : 1 ≤ w.pageSize)
    (hLe : w.pageSize ≤ maxWord) :
    w.Leads rows ∧ w.Reaches stop := by
  have hLength : w.rows.length = min stop rows.length := by
    rw [hRows, List.length_take]
  refine ⟨⟨hShadow, ?_, ?_, hPos, hLe⟩, ?_⟩
  · rw [hRows]
    exact List.take_prefix _ _
  · intro hWhole
    have hFewer : w.rows.length < stop := by
      rw [hDrained] at hWhole
      exact of_decide_eq_true hWhole
    refine ⟨?_, by omega⟩
    rw [hRows]
    exact List.take_of_length_le (by omega)
  · by_cases hFewer : w.rows.length < stop
    · left
      rw [hDrained]
      exact decide_eq_true hFewer
    · right
      exact Nat.not_lt.mp hFewer

/-
  A window that is filled up to a place from where it ended, and
  is drained if there were fewer rows.
-/
theorem leads_of_append
    {rows older : List ρ}
    {w : Window ρ}
    {stop : Nat}
    (hLeads : w.Leads rows)
    (hOlder : w.rows ++ older = rows)
    (hBeyond : w.rows.length < stop)
    (hStop : stop ≤ maxWord) :
    let wanted := stop - w.rows.length
    let u : Window ρ :=
      { w with
        rows := w.rows ++ older.take wanted
        drained := (older.take wanted).length < wanted }
    u.Leads rows ∧ u.Reaches stop := by
  intro wanted u
  have hRows : u.rows = rows.take stop := by
    rw [← hOlder, List.take_append,
      List.take_of_length_le (Nat.le_of_lt hBeyond)]
  have hDrained :
      u.drained = decide (u.rows.length < stop) := by
    simp only [u, wanted, List.length_append]
    exact decide_eq_decide.mpr (by omega)
  exact
    leads_of_take hLeads.shadow hRows hDrained hStop
      hLeads.pageSize_pos hLeads.pageSize_le

namespace Leads

variable {rows : List ρ} {w : Window ρ} {page : Nat}

/- An empty window leads every list. -/
theorem of_empty
    {pageSize : Nat}
    (hPageSize : pageSize ≤ maxWord) :
    (Window.empty pageSize).Leads rows where
  shadow := rfl
  isPrefix := List.nil_prefix
  whole := fun hDrained => by cases hDrained
  pageSize_pos := Nat.le_max_right _ _
  pageSize_le := Nat.max_le.mpr ⟨hPageSize, by decide⟩

/- Forgetting the rows leaves a window that leads. -/
theorem reset
    (hLeads : w.Leads rows) :
    w.reset.Leads rows where
  shadow := rfl
  isPrefix := List.nil_prefix
  whole := fun hDrained => by cases hDrained
  pageSize_pos := hLeads.pageSize_pos
  pageSize_le := hLeads.pageSize_le

/- Which page is shown is of no account. -/
theorem showPage
    (hLeads : w.Leads rows)
    (start : Nat) :
    (Edit.showPage w start).Leads rows :=
  ⟨hLeads.shadow, hLeads.isPrefix, hLeads.whole,
    hLeads.pageSize_pos, hLeads.pageSize_le⟩

/- The row count of a drained window is exact. -/
theorem totalRowCount_eq
    (hLeads : w.Leads rows)
    (hDrained : w.drained = true)
    (presumed : Nat) :
    w.totalRowCount presumed = rows.length := by
  rcases hLeads.whole hDrained with ⟨hRows, hLe⟩
  unfold totalRowCount knownRowCount saturate
  rw [if_pos hDrained, hLeads.shadow, hRows, Nat.zero_add]
  exact Nat.min_eq_left hLe

/- The last page of a drained window is that of the list. -/
theorem lastPageStart_eq
    (hLeads : w.Leads rows)
    (hDrained : w.drained = true) :
    w.lastPageStart = lastStart rows.length w.pageSize := by
  rcases hLeads.whole hDrained with ⟨hRows, hLe⟩
  unfold lastPageStart knownRowCount saturate lastStart
  rw [hLeads.shadow, hRows, Nat.zero_add, Nat.min_eq_left hLe]

/- A page that the rows reach is not beyond the last. -/
theorem pageStart_eq
    (hLeads : w.Leads rows)
    (hRows :
      pageOffset page w.pageSize + w.pageSize ≤
        w.rows.length) :
    pageStart page w.pageSize rows.length =
      pageOffset page w.pageSize := by
  have hPos := hLeads.pageSize_pos
  have hLength := hLeads.isPrefix.length_le
  have hRow : pageOffset page w.pageSize + 1 ≤ rows.length := by
    omega
  exact Nat.min_eq_left (pageOffset_le_lastStart hPos hRow)

/- A window that reaches a page begins it where the list does. -/
theorem clampStart_eq
    (hLeads : w.Leads rows)
    (hReaches :
      w.Reaches (pageOffset page w.pageSize + w.pageSize)) :
    w.clampStart (pageOffset page w.pageSize) =
      pageStart page w.pageSize rows.length := by
  unfold clampStart
  dsimp only
  rw [hLeads.shadow, Nat.sub_zero]
  by_cases hDrained : w.drained = true
  · have hWithin := lastStart_le rows.length w.pageSize
    rw [if_pos hDrained, hLeads.lastPageStart_eq hDrained,
      (hLeads.whole hDrained).1]
    unfold pageStart
    omega
  · have hRows := hReaches.resolve_left hDrained
    rw [if_neg hDrained, hLeads.pageStart_eq hRows]
    omega

end Leads

------------------------------------------------------------
-- Visible Pages
------------------------------------------------------------

/- A leading window whose visible page is the one asked for. -/
structure Shows
    (rows : List ρ)
    (page : Nat)
    (w : Window ρ) : Prop extends Leads rows w where
  reaches : w.Reaches (pageOffset page w.pageSize + w.pageSize)
  startIndex :
    w.startIndex = pageStart page w.pageSize rows.length

variable {rows : List ρ} {w : Window ρ} {page : Nat}

/- A leading window that reaches a page can show it. -/
theorem Leads.shows
    (hLeads : w.Leads rows)
    (hReaches :
      w.Reaches (pageOffset page w.pageSize + w.pageSize)) :
    (Edit.showPage w (pageOffset page w.pageSize)).Shows rows
      page where
  toLeads := hLeads.showPage _
  reaches := hReaches
  startIndex := hLeads.clampStart_eq hReaches

namespace Shows

/- To show a page again changes nothing. -/
theorem showPage_eq
    (hShows : w.Shows rows page) :
    Edit.showPage w (pageOffset page w.pageSize) = w := by
  have hStart :
      w.clampStart (pageOffset page w.pageSize) =
        w.startIndex := by
    rw [hShows.clampStart_eq hShows.reaches, hShows.startIndex]
  unfold Edit.showPage
  rw [hStart]

/- A list with rows is shown by a window with rows. -/
theorem rows_ne_nil
    (hShows : w.Shows rows page)
    (hRows : rows ≠ []) :
    w.rows ≠ [] := by
  rcases hShows.reaches with hDrained | hReaches
  · rw [(hShows.whole hDrained).1]
    exact hRows
  · intro hNil
    have hPos := hShows.pageSize_pos
    rw [hNil, List.length_nil] at hReaches
    omega

/- The visible page is that of the list. -/
theorem pageRows_eq
    (hShows : w.Shows rows page) :
    w.pageRows =
      (rows.drop (pageStart page w.pageSize rows.length)).take
        w.pageSize := by
  unfold pageRows
  rw [hShows.startIndex]
  by_cases hDrained : w.drained = true
  · rw [(hShows.whole hDrained).1]
  · have hRows := hShows.reaches.resolve_left hDrained
    rcases hShows.isPrefix with ⟨older, hOlder⟩
    rw [hShows.pageStart_eq hRows, ← hOlder,
      List.drop_append_of_le_length (by omega),
      List.take_append_of_le_length]
    rw [List.length_drop]
    omega

/- The number of the visible page is that of the list. -/
theorem currentPage_eq
    (hShows : w.Shows rows page)
    (hPage : PageExists page w.pageSize) :
    w.currentPage =
      pageStart page w.pageSize rows.length / w.pageSize + 1 := by
  have hPos := hShows.pageSize_pos
  have hStop :
      pageStart page w.pageSize rows.length + w.pageSize ≤
        maxWord :=
    Nat.le_trans
      (Nat.add_le_add_right (Nat.min_le_left _ _) _) hPage
  have hNumber :
      pageStart page w.pageSize rows.length / w.pageSize + 1 ≤
        maxWord := by
    rw [← Nat.add_div_right _ hPos]
    exact Nat.le_trans (Nat.div_le_self _ _) hStop
  have hStart :
      pageStart page w.pageSize rows.length ≤ maxWord := by
    omega
  unfold currentPage absoluteStart saturate
  rw [hShows.shadow, hShows.startIndex, Nat.zero_add,
    Nat.min_eq_left hStart, Nat.min_eq_left hNumber]

end Shows

end Window

end LedgerView
