import LedgerView.Proofs.Window.Page

/-
  Pages of a window that begins anywhere in a list.

  The rows that precede such a window are its shadow.  A page
  asked for may begin in the shadow, or be clamped to a last
  page that begins there; then the window may hold only part of
  it.

  Key definitions include:
    * `Window.Lies`
    * `Window.raised`
    * `Window.Straddled`

  Key theorems include:
    * `Window.lies_of_drop`
    * `Window.Lies.raised`
    * `Window.Lies.extend_down`
    * `Window.Lies.pageRows_up`
    * `Window.Lies.pageRows_down`
-/

namespace LedgerView

namespace Window

variable {ρ : Type}

------------------------------------------------------------
-- Windows in a List
------------------------------------------------------------

/- A window that holds the rows of a list below its shadow. -/
structure Lies
    (rows : List ρ)
    (w : Window ρ) : Prop where
  isPrefix : w.rows <+: rows.drop w.shadow
  whole :
    w.drained = true →
      w.rows = rows.drop w.shadow ∧ rows.length ≤ maxWord
  shadow_eq : w.rows = [] → w.shadow = 0
  pageSize_pos : 1 ≤ w.pageSize
  pageSize_le : w.pageSize ≤ maxWord

/- The window with the rows from a place above it in front. -/
def raised
    (rows : List ρ)
    (start : Nat)
    (w : Window ρ) : Window ρ :=
  { w with
    rows := (rows.take w.shadow).drop start ++ w.rows
    shadow := start }

variable {rows : List ρ} {w : Window ρ}

/- A window that leads a list lies in it. -/
theorem Leads.lies
    (hLeads : w.Leads rows) :
    w.Lies rows where
  isPrefix := by
    rw [hLeads.shadow]
    exact hLeads.isPrefix
  whole := by
    rw [hLeads.shadow]
    exact hLeads.whole
  shadow_eq := fun _ => hLeads.shadow
  pageSize_pos := hLeads.pageSize_pos
  pageSize_le := hLeads.pageSize_le

namespace Lies

/- Without a shadow it leads the list. -/
theorem leads
    (hLies : w.Lies rows)
    (hShadow : w.shadow = 0) :
    w.Leads rows := by
  have hPrefix := hLies.isPrefix
  have hWhole := hLies.whole
  rw [hShadow] at hPrefix hWhole
  exact
    ⟨hShadow, hPrefix, hWhole, hLies.pageSize_pos,
      hLies.pageSize_le⟩

/- The rows known are rows of the list. -/
theorem known_le
    (hLies : w.Lies rows) :
    w.shadow + w.rows.length ≤ rows.length := by
  have hLength := hLies.isPrefix.length_le
  rw [List.length_drop] at hLength
  by_cases hRows : w.rows = []
  · rw [hLies.shadow_eq hRows, hRows]
    exact Nat.zero_le _
  · have hPos := List.length_pos_iff.mpr hRows
    omega

/- A drained window knows every row. -/
theorem known_eq
    (hLies : w.Lies rows)
    (hDrained : w.drained = true) :
    w.shadow + w.rows.length = rows.length := by
  have hKnown := hLies.known_le
  have hLength :=
    congrArg List.length (hLies.whole hDrained).1
  rw [List.length_drop] at hLength
  omega

/- The last page of a drained window is that of the list. -/
theorem lastPageStart_eq
    (hLies : w.Lies rows)
    (hDrained : w.drained = true) :
    w.lastPageStart = lastStart rows.length w.pageSize := by
  have hFits := (hLies.whole hDrained).2
  unfold lastPageStart knownRowCount saturate lastStart
  rw [hLies.known_eq hDrained, Nat.min_eq_left hFits]

/- Which page is shown is of no account. -/
theorem showPage
    (hLies : w.Lies rows)
    (start : Nat) :
    (Edit.showPage w start).Lies rows :=
  ⟨hLies.isPrefix, hLies.whole, hLies.shadow_eq,
    hLies.pageSize_pos, hLies.pageSize_le⟩

/- A row above the window splits the list. -/
theorem exists_head_split
    (hLies : w.Lies rows)
    {row : ρ}
    (hRow : w.rows.head? = some row) :
    ∃ older, rows = rows.take w.shadow ++ row :: older := by
  rcases List.head?_eq_some_iff.mp hRow with ⟨rest, hRest⟩
  rcases hLies.isPrefix with ⟨tail, hTail⟩
  refine ⟨rest ++ tail, ?_⟩
  rw [← List.cons_append, ← hRest, hTail,
    List.take_append_drop]

/- The last row of the window splits the list. -/
theorem exists_last_split
    (hLies : w.Lies rows)
    {row : ρ}
    (hRow : w.rows.getLast? = some row) :
    ∃ newer older, rows = newer ++ row :: older ∧
      w.rows ++ older = rows.drop w.shadow := by
  rcases List.getLast?_eq_some_iff.mp hRow with ⟨init, hInit⟩
  rcases hLies.isPrefix with ⟨older, hOlder⟩
  refine ⟨rows.take w.shadow ++ init, older, ?_, hOlder⟩
  have hSplit :
      rows.take w.shadow ++ (w.rows ++ older) = rows := by
    rw [hOlder, List.take_append_drop]
  rw [hInit] at hSplit
  simpa using hSplit.symm

end Lies

------------------------------------------------------------
-- Windows That Are Rebuilt or Extended
------------------------------------------------------------

/- A page that is read from its first row on lies in the list. -/
theorem lies_of_drop
    {start : Nat}
    (hRows : w.rows = (rows.drop start).take w.pageSize)
    (hShadow : w.shadow = start)
    (hDrained :
      w.drained = decide (w.rows.length < w.pageSize))
    (hStart : start < rows.length)
    (hStop : start + w.pageSize ≤ maxWord)
    (hPos : 1 ≤ w.pageSize) :
    w.Lies rows where
  isPrefix := by
    rw [hRows, hShadow]
    exact List.take_prefix _ _
  whole := by
    intro hWhole
    have hFewer : w.rows.length < w.pageSize := by
      rw [hDrained] at hWhole
      exact of_decide_eq_true hWhole
    have hLength :
        w.rows.length =
          min w.pageSize (rows.length - start) := by
      rw [hRows, List.length_take, List.length_drop]
    refine ⟨?_, by omega⟩
    rw [hShadow, hRows]
    apply List.take_of_length_le
    rw [List.length_drop]
    omega
  shadow_eq := by
    intro hNil
    have hLength := congrArg List.length hRows
    rw [hNil, List.length_take, List.length_drop,
      List.length_nil] at hLength
    omega
  pageSize_pos := hPos
  pageSize_le := by omega

namespace Lies

/- The rows of the shadow from a place on are in the list, too. -/
theorem raised
    {start : Nat}
    (hLies : w.Lies rows)
    (hStart : start < w.shadow) :
    (w.raised rows start).Lies rows := by
  have hKnown := hLies.known_le
  have hSplit :
      rows.drop start =
        (rows.take w.shadow).drop start ++
          rows.drop w.shadow := by
    have hParts := List.take_append_drop w.shadow rows
    have hLength : (rows.take w.shadow).length = w.shadow := by
      rw [List.length_take]
      omega
    rw [← List.drop_append_of_le_length (by omega), hParts]
  refine ⟨?_, ?_, ?_, hLies.pageSize_pos, hLies.pageSize_le⟩
  · show _ <+: rows.drop start
    rw [hSplit]
    exact (List.prefix_append_right_inj _).mpr hLies.isPrefix
  · intro hDrained
    rcases hLies.whole hDrained with ⟨hRows, hFits⟩
    refine ⟨?_, hFits⟩
    show _ = rows.drop start
    rw [hSplit, ← hRows]
    rfl
  · intro hNil
    have hRows : w.rows = [] := (List.append_eq_nil_iff.mp hNil).2
    have hShadow := hLies.shadow_eq hRows
    omega

/- They are as many as there are rows between the two places. -/
theorem length_raised
    {start : Nat}
    (hLies : w.Lies rows)
    (hStart : start < w.shadow) :
    (w.raised rows start).rows.length =
      w.shadow + w.rows.length - start := by
  have hKnown := hLies.known_le
  show ((rows.take w.shadow).drop start ++ w.rows).length = _
  rw [List.length_append, List.length_drop, List.length_take]
  omega

/-
  The rows up to a place are put behind, and the window is
  drained if there were fewer.
-/
theorem extend_down
    {stop : Nat}
    {older : List ρ}
    (hLies : w.Lies rows)
    (hOlder : w.rows ++ older = rows.drop w.shadow)
    (hBeyond : w.shadow + w.rows.length < stop)
    (hStop : stop ≤ maxWord)
    (hRows : w.rows ≠ []) :
    let wanted := stop - (w.shadow + w.rows.length)
    let u : Window ρ :=
      { w with
        rows := w.rows ++ older.take wanted
        drained := (older.take wanted).length < wanted }
    u.Lies rows ∧
      (u.drained = true ∨
        stop ≤ u.shadow + u.rows.length) := by
  intro wanted u
  have hPrefix : u.rows <+: rows.drop u.shadow := by
    rw [← hOlder]
    exact
      (List.prefix_append_right_inj _).mpr (List.take_prefix _ _)
  have hLength :
      (older.take wanted).length = min wanted older.length :=
    List.length_take
  have hCount := congrArg List.length hOlder
  rw [List.length_append, List.length_drop] at hCount
  have hPos := List.length_pos_iff.mpr hRows
  refine
    ⟨⟨hPrefix, ?_, ?_, hLies.pageSize_pos, hLies.pageSize_le⟩,
      ?_⟩
  · intro hDrained
    have hFewer : (older.take wanted).length < wanted :=
      of_decide_eq_true hDrained
    refine ⟨?_, by omega⟩
    rw [← hOlder]
    show w.rows ++ older.take wanted = _
    rw [List.take_of_length_le (by omega)]
  · intro hNil
    exact absurd (List.append_eq_nil_iff.mp hNil).1 hRows
  · by_cases hFewer : (older.take wanted).length < wanted
    · exact .inl (decide_eq_true hFewer)
    · right
      show stop ≤ w.shadow + (w.rows ++ older.take wanted).length
      rw [List.length_append]
      omega

end Lies

------------------------------------------------------------
-- Visible Pages
------------------------------------------------------------

/-
  A page of the list that a window cannot show whole by rows put
  at one of its ends alone.  Either the page begins in the
  shadow and ends beyond the rows kept; or the last page of the
  list, to which the page is clamped, begins in the shadow.
-/
def Straddled
    (w : Window ρ)
    (page count : Nat) : Prop :=
  let start := pageOffset page w.pageSize
  (start < w.shadow ∧
      w.shadow + w.rows.length < min (start + w.pageSize) count) ∨
    (w.shadow ≤ start ∧
      pageStart page w.pageSize count < w.shadow)

instance
    (w : Window ρ)
    (page count : Nat) :
    Decidable (w.Straddled page count) := by
  unfold Straddled
  infer_instance

section

variable {w : Window ρ} {page : Nat}

/- A page that begins in the shadow may end past the rows kept. -/
theorem not_straddled_iff_of_lt
    (hShadow : pageOffset page w.pageSize < w.shadow)
    (count : Nat) :
    ¬ w.Straddled page count ↔
      min (pageOffset page w.pageSize + w.pageSize) count ≤
        w.shadow + w.rows.length := by
  unfold Straddled
  omega

/- A page that begins below the shadow may be clamped into it. -/
theorem not_straddled_iff_of_le
    (hShadow : w.shadow ≤ pageOffset page w.pageSize)
    (count : Nat) :
    ¬ w.Straddled page count ↔
      w.shadow ≤ pageStart page w.pageSize count := by
  unfold Straddled
  omega

end

namespace Lies

variable {page : Nat}

/- A page that begins with a window shows what it holds of it. -/
theorem pageRows_up
    (hLies : w.Lies rows)
    (hShadow : w.shadow = pageOffset page w.pageSize) :
    (Edit.showPage w (pageOffset page w.pageSize)).pageRows =
      (rows.drop (pageOffset page w.pageSize)).take
        (min w.pageSize w.rows.length) := by
  have hStart :
      w.clampStart (pageOffset page w.pageSize) = 0 := by
    unfold clampStart
    dsimp only
    split <;> omega
  rcases hLies.isPrefix with ⟨older, hOlder⟩
  rw [hShadow] at hOlder
  unfold pageRows Edit.showPage
  dsimp only
  rw [hStart, List.drop_zero, ← hOlder, ← List.take_take,
    List.take_left]

/- A window that reaches a page below its shadow begins it there. -/
theorem pageRows_down
    (hLies : w.Lies rows)
    (hShadow : w.shadow ≤ pageOffset page w.pageSize)
    (hReaches :
      w.drained = true ∨
        pageOffset page w.pageSize + w.pageSize ≤
          w.shadow + w.rows.length) :
    (Edit.showPage w (pageOffset page w.pageSize)).pageRows =
      (rows.drop
          (max w.shadow
            (pageStart page w.pageSize rows.length))).take
        w.pageSize := by
  have hPos := hLies.pageSize_pos
  have hKnown := hLies.known_le
  unfold pageRows Edit.showPage clampStart
  dsimp only
  by_cases hDrained : w.drained = true
  · have hWithin := lastStart_le rows.length w.pageSize
    have hRows := hLies.known_eq hDrained
    rw [if_pos hDrained, hLies.lastPageStart_eq hDrained,
      (hLies.whole hDrained).1, List.drop_drop,
      List.length_drop]
    unfold pageStart
    congr 2
    omega
  · have hStop := hReaches.resolve_left hDrained
    have hRow :
        pageOffset page w.pageSize + 1 ≤ rows.length := by
      omega
    have hStart :
        pageStart page w.pageSize rows.length =
          pageOffset page w.pageSize :=
      Nat.min_eq_left (pageOffset_le_lastStart hPos hRow)
    rcases hLies.isPrefix with ⟨older, hOlder⟩
    have hSplit :
        rows.drop (pageOffset page w.pageSize) =
          w.rows.drop (pageOffset page w.pageSize - w.shadow) ++
            older := by
      rw [← List.drop_append_of_le_length (by omega), hOlder,
        List.drop_drop, Nat.add_sub_cancel' hShadow]
    rw [if_neg hDrained, hStart, Nat.max_eq_right hShadow,
      hSplit, Nat.min_eq_left (by omega),
      List.take_append_of_le_length]
    rw [List.length_drop]
    omega

end Lies

end Window

end LedgerView
