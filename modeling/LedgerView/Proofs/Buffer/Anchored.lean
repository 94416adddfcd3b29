import Mathlib.Data.List.Nodup
import LedgerView.Proofs.Buffer.Paging
import LedgerView.Proofs.Load.Upward
import LedgerView.Proofs.Window.Shadow

/-
  Paging from an anchor over rows that do not change.

  An anchored move to a page at the key of its first row leaves
  a window below a shadow.  Later moves put rows at one end of
  the window, never at both.  So a move shows the very page of
  the list that it asks for, unless the page reaches from the
  shadow past the window, or is clamped into the shadow.

  Key definitions include:
    * `Deed.Grounded`
    * `Deed.AllGrounded`

  Key theorems include:
    * `Course.lies`
    * `Course.pageRows_eq_iff`
    * `Buffer.lies_executeAll`
    * `Buffer.anchored_page_exact_iff`
-/

namespace LedgerView

variable {ρ κ : Type} [LinearOrder κ]
variable {key : ρ → κ} {limit : Nat}

------------------------------------------------------------
-- Parts of a List
------------------------------------------------------------

/- Pages that begin at different rows are different. -/
theorem page_ne_of_lt
    {rows : List ρ}
    {first second size : Nat}
    (hRows : Descending key rows)
    (hLt : first < second)
    (hSecond : second < rows.length)
    (hSize : 1 ≤ size) :
    (rows.drop second).take size ≠
      (rows.drop first).take size := by
  intro hSame
  have hNodup : rows.Nodup := hRows.nodup.of_map
  have hHead : rows[second]? = rows[first]? := by
    have hHeads := congrArg (fun page => page[0]?) hSame
    simpa [List.getElem?_take, List.getElem?_drop,
      show 0 < size from hSize] using hHeads
  have hEq := (List.getElem?_inj hSecond hNodup).mp hHead
  omega

/-
  A window that reaches a page below its shadow shows it, unless
  the page is clamped into the shadow.
-/
theorem Window.Lies.pageRows_eq_iff
    (source : Archive key)
    {w : Window ρ}
    {page : Nat}
    (hLies : w.Lies source.rows)
    (hShadow : w.shadow ≤ pageOffset page w.pageSize)
    (hReaches :
      w.drained = true ∨
        pageOffset page w.pageSize + w.pageSize ≤
          w.shadow + w.rows.length)
    (hRows : w.rows ≠ []) :
    (Edit.showPage w (pageOffset page w.pageSize)).pageRows =
        (source.rows.drop
          (pageStart page w.pageSize source.rows.length)).take
          w.pageSize ↔
      w.shadow ≤ pageStart page w.pageSize source.rows.length := by
  have hKnown := hLies.known_le
  have hSome := List.length_pos_iff.mpr hRows
  rw [hLies.pageRows_down hShadow hReaches]
  constructor
  · intro hSame
    by_contra hNot
    have hLt := Nat.not_le.mp hNot
    rw [Nat.max_eq_left (Nat.le_of_lt hLt)] at hSame
    exact
      page_ne_of_lt source.descends hLt (by omega)
        hLies.pageSize_pos hSame
  · intro hLe
    rw [Nat.max_eq_right hLe]

/-
  A window that is raised to a page above it shows the page,
  unless the page ends below the window.
-/
theorem Window.Lies.pageRows_raised_iff
    (source : Archive key)
    {w : Window ρ}
    {page : Nat}
    (hLies : w.Lies source.rows)
    (hShadow : pageOffset page w.pageSize < w.shadow)
    (hRows : w.rows ≠ []) :
    (Edit.showPage
          (w.raised source.rows (pageOffset page w.pageSize))
          (pageOffset page w.pageSize)).pageRows =
        (source.rows.drop
          (pageStart page w.pageSize source.rows.length)).take
          w.pageSize ↔
      ¬ w.Straddled page source.rows.length := by
  have hPos := hLies.pageSize_pos
  have hKnown := hLies.known_le
  have hSome := List.length_pos_iff.mpr hRows
  have hFirst :
      pageStart page w.pageSize source.rows.length =
        pageOffset page w.pageSize :=
    Nat.min_eq_left (pageOffset_le_lastStart hPos (by omega))
  let start := pageOffset page w.pageSize
  have hPageRows :
      (Edit.showPage (w.raised source.rows start) start).pageRows =
        (source.rows.drop start).take
          (min w.pageSize (w.shadow + w.rows.length - start)) := by
    rw [← hLies.length_raised hShadow]
    exact (hLies.raised hShadow).pageRows_up rfl
  rw [hPageRows, hFirst, w.not_straddled_iff_of_lt hShadow,
    List.take_eq_take_iff, List.length_drop]
  omega

------------------------------------------------------------
-- Deeds with Their Anchors
------------------------------------------------------------

namespace Deed

/- The page size once something is done. -/
def nextPageSize
    (deed : Deed κ)
    (pageSize : Nat) : Nat :=
  match deed with
  | .setPageSize size => max size 1
  | _ => pageSize

/-
  A deed whose anchor, if it has one, is the key of the first
  row of the page, and whose page size is a word.
-/
def Grounded
    (key : ρ → κ)
    (rows : List ρ)
    (pageSize : Nat)
    (deed : Deed κ) : Prop :=
  match deed with
  | .operation (.move page (some anchor)) =>
      rows[pageOffset page pageSize]?.map key = some anchor
  | .setPageSize size => size ≤ maxWord
  | _ => True

instance
    (key : ρ → κ)
    (rows : List ρ)
    (pageSize : Nat) :
    (deed : Deed κ) → Decidable (deed.Grounded key rows pageSize)
  | .operation (.move page (some anchor)) =>
      inferInstanceAs
        (Decidable
          (rows[pageOffset page pageSize]?.map key = some anchor))
  | .operation (.move _ none) => .isTrue trivial
  | .operation .refresh => .isTrue trivial
  | .clear => .isTrue trivial
  | .setPageSize size =>
      inferInstanceAs (Decidable (size ≤ maxWord))

/- Deeds each of which is so under the page size of its time. -/
def AllGrounded
    (key : ρ → κ)
    (rows : List ρ) :
    Nat → List (Deed κ) → Prop
  | _, [] => True
  | pageSize, deed :: rest =>
      deed.Grounded key rows pageSize ∧
        AllGrounded key rows (deed.nextPageSize pageSize) rest

instance decidableAllGrounded
    (key : ρ → κ)
    (rows : List ρ) :
    (pageSize : Nat) → (deeds : List (Deed κ)) →
      Decidable (AllGrounded key rows pageSize deeds)
  | _, [] => .isTrue trivial
  | pageSize, deed :: rest =>
      have := decidableAllGrounded key rows
        (deed.nextPageSize pageSize) rest
      inferInstanceAs (Decidable (_ ∧ _))

end Deed

------------------------------------------------------------
-- Moves and Refreshes
------------------------------------------------------------

namespace Course

variable (source : Archive key)
variable {w : Window ρ} {page : Nat} {edit : Edit} {load : Load ρ κ}

/- An anchored move to the first row of its page lies in the list. -/
theorem lies_anchored
    {anchor : κ}
    (hLies : w.Lies source.rows)
    (hAnchor :
      source.rows[pageOffset page w.pageSize]?.map key =
        some anchor)
    (hCourse :
      Course key limit w (.move page (some anchor)) edit load)
    (hLimit : 0 < limit)
    (asked : List (ListQuery κ)) :
    ∃ l' asked',
      load.run key limit hLimit source.ask asked =
          (.ok l', asked') ∧
        (edit.apply key l'.rows w).Lies source.rows := by
  cases hCourse with
  | anchored _ _ hPage =>
      let start := pageOffset page w.pageSize
      rcases Option.map_eq_some_iff.mp hAnchor with
        ⟨row, hRow, hKey⟩
      have hStart : start < source.rows.length :=
        (List.getElem?_eq_some_iff.mp hRow).1
      have hDrop :
          source.rows.drop start =
            row :: source.rows.drop (start + 1) := by
        rw [List.drop_eq_getElem_cons hStart]
        congr 1
        exact (List.getElem?_eq_some_iff.mp hRow).2
      have hSource :
          source.rows =
            source.rows.take start ++
              row :: source.rows.drop (start + 1) := by
        rw [← hDrop, List.take_append_drop]
      rw [← hKey]
      rcases Load.run_from source hLimit asked w.pageSize
          hSource with
        ⟨l', asked', hRun, hLoaded⟩
      rw [← hDrop] at hLoaded
      exact
        ⟨l', asked', hRun,
          Window.lies_of_drop hLoaded rfl rfl hStart hPage
            hLies.pageSize_pos⟩

/- What is read for a page above a window raises it to there. -/
theorem run_head
    {row : ρ}
    {start : Nat}
    (hLies : w.Lies source.rows)
    (hRow : w.rows.head? = some row)
    (hShadow : start < w.shadow)
    (hLimit : 0 < limit)
    (asked : List (ListQuery κ)) :
    ∃ l' asked',
      (Load.above (key row) (w.shadow - start)).run key limit
          hLimit source.ask asked = (.ok l', asked') ∧
        (Edit.head start (w.shadow - start)).apply key l'.rows w =
          Edit.showPage (w.raised source.rows start) start := by
  have hKnown := hLies.known_le
  rcases hLies.exists_head_split hRow with ⟨older, hSource⟩
  rcases Load.run_newer source hLimit asked (w.shadow - start)
      hSource with
    ⟨l', asked', hRun, hLoaded⟩
  refine ⟨l', asked', hRun, ?_⟩
  have hLength :
      (source.rows.take w.shadow).length = w.shadow := by
    rw [List.length_take]
    omega
  have hFront :
      l'.rows.reverse =
        (source.rows.take w.shadow).drop start := by
    rw [hLoaded, List.take_reverse, List.reverse_reverse,
      hLength]
    congr 1
    omega
  have hCount : l'.rows.length = w.shadow - start := by
    rw [← List.length_reverse, hFront, List.length_drop,
      hLength]
  unfold Edit.apply
  dsimp only
  rw [hFront, hCount, if_neg (Nat.lt_irrefl _),
    Nat.sub_sub_self (Nat.le_of_lt hShadow)]
  rfl

/-
  A move without an anchor leaves a window in the list, and
  shows its page unless the window straddles it.
-/
theorem pageRows_eq_iff
    (hLies : w.Lies source.rows)
    (hCourse : Course key limit w (.move page none) edit load)
    (hLimit : 0 < limit)
    (asked : List (ListQuery κ)) :
    ∃ l' asked',
      load.run key limit hLimit source.ask asked =
          (.ok l', asked') ∧
        (edit.apply key l'.rows w).Lies source.rows ∧
        ((edit.apply key l'.rows w).pageRows =
            (source.rows.drop
              (pageStart page w.pageSize
                source.rows.length)).take w.pageSize ↔
          ¬ w.Straddled page source.rows.length) := by
  have hPos := hLies.pageSize_pos
  have hKnown := hLies.known_le
  cases hCourse with
  | initial page hPage hRows =>
      have hLeads := hLies.leads (hLies.shadow_eq hRows)
      have hCourse :
          Course key limit w (.move page none) _ _ :=
        .initial page hPage hRows
      rcases hCourse.shows source hLeads hLimit asked with
        ⟨l', asked', hRun, hShows⟩
      refine ⟨l', asked', hRun, hShows.lies, ?_⟩
      have hSize := Edit.apply_pageSize key
        (.initial (pageOffset page w.pageSize)
          (pageOffset page w.pageSize + w.pageSize)) l'.rows w
      have hPageRows := hShows.pageRows_eq
      rw [hSize] at hPageRows
      refine iff_of_true hPageRows ?_
      unfold Window.Straddled
      rw [hLeads.shadow]
      omega
  | head page row hPage hRow hShadow =>
      -- Rows are put in front only: the page may end past them.
      have hRows : w.rows ≠ [] := by
        intro hNil
        rw [hNil] at hRow
        cases hRow
      rcases run_head source hLies hRow hShadow hLimit asked with
        ⟨l', asked', hRun, hApply⟩
      refine ⟨l', asked', hRun, ?_⟩
      rw [hApply]
      exact
        ⟨(hLies.raised hShadow).showPage _,
          hLies.pageRows_raised_iff source hShadow hRows⟩
  | tail page row hPage hRow hShadow hBeyond hDrained =>
      rcases hLies.exists_last_split hRow with
        ⟨newer, older, hSource, hOlder⟩
      have hRows : w.rows ≠ [] := by
        intro hNil
        rw [hNil] at hRow
        cases hRow
      let start := pageOffset page w.pageSize
      rcases Load.run_older source hLimit asked
          (start + w.pageSize - (w.shadow + w.rows.length))
          hSource with
        ⟨l', asked', hRun, hLoaded⟩
      refine ⟨l', asked', hRun, ?_⟩
      rcases hLies.extend_down hOlder hBeyond hPage hRows with
        ⟨hDown, hReaches⟩
      have hSome :
          w.rows ++ older.take (start + w.pageSize -
            (w.shadow + w.rows.length)) ≠ [] :=
        List.append_ne_nil_of_left_ne_nil hRows _
      rw [w.not_straddled_iff_of_le hShadow]
      simp only [Edit.apply, hLoaded, hDrained, Bool.false_or]
      exact
        ⟨hDown.showPage start,
          hDown.pageRows_eq_iff source hShadow hReaches hSome⟩
  | turn page hPage hRows hShadow hWithin =>
      refine
        ⟨.nothing, asked, Load.run_of_isDone hLimit asked rfl,
          hLies.showPage _, ?_⟩
      rw [w.not_straddled_iff_of_le hShadow]
      exact
        hLies.pageRows_eq_iff source hShadow hWithin.symm hRows

/- A grounded operation leaves a window in the list. -/
theorem lies
    {op : Operation κ}
    (hLies : w.Lies source.rows)
    (hGrounded :
      (Deed.operation op).Grounded key source.rows w.pageSize)
    (hCourse : Course key limit w op edit load)
    (hLimit : 0 < limit)
    (asked : List (ListQuery κ)) :
    ∃ l' asked',
      load.run key limit hLimit source.ask asked =
          (.ok l', asked') ∧
        (edit.apply key l'.rows w).Lies source.rows := by
  cases op with
  | move page anchor =>
      cases anchor with
      | some anchor =>
          exact
            lies_anchored source hLies hGrounded hCourse hLimit
              asked
      | none =>
          rcases pageRows_eq_iff source hLies hCourse hLimit
              asked with
            ⟨l', asked', hRun, hLies', _⟩
          exact ⟨l', asked', hRun, hLies'⟩
  | refresh =>
      cases hCourse with
      | newest hNoHead =>
          rcases Load.run_newest source hLimit asked
              w.pageSize with
            ⟨l', asked', hRun, hLoaded⟩
          let u : Window ρ :=
            { w.reset with
              rows := l'.rows
              drained := l'.rows.length < w.pageSize }
          have hFilled :
              u.Leads source.rows ∧ u.Reaches w.pageSize :=
            Window.leads_of_take rfl hLoaded rfl
              hLies.pageSize_le hLies.pageSize_pos
              hLies.pageSize_le
          exact ⟨l', asked', hRun, hFilled.1.lies⟩
      | join row hRow hShadow =>
          have hCourse : Course key limit w .refresh _ _ :=
            .join row hRow hShadow
          rcases hCourse.leads source (hLies.leads hShadow)
              hLimit asked with
            ⟨l', asked', hRun, hLeads⟩
          exact ⟨l', asked', hRun, hLeads.lies⟩

end Course

------------------------------------------------------------
-- Whole Histories
------------------------------------------------------------

namespace Buffer

variable (source : Archive key) {b : Buffer ρ}

/-
  Whatever is done on good grounds, the window lies in the list
  and has the page size of its time.
-/
theorem lies_execute
    {deed : Deed κ}
    (hLies : b.window.Lies source.rows)
    (hGrounded :
      deed.Grounded key source.rows b.window.pageSize)
    (asked : List (ListQuery κ)) :
    let w := (execute key source.ask (b, asked) deed).1.1.window
    w.Lies source.rows ∧
      w.pageSize = deed.nextPageSize b.window.pageSize := by
  intro w
  cases deed with
  | operation op =>
      by_cases hExists : op.Exists b.window.pageSize
      · rcases exists_course key b.maxLimit b.window hExists with
          ⟨edit, load, hCourse⟩
        rcases hCourse.lies source hLies hGrounded
            b.maxLimit_pos asked with
          ⟨l', asked', hRun, hLies'⟩
        have hWindow : w = edit.apply key l'.rows b.window := by
          simp only [w, execute, perform_of_run hCourse hRun]
          rfl
        rw [hWindow]
        exact ⟨hLies', Edit.apply_pageSize key edit _ _⟩
      · have hWindow : w = b.window := by
          cases op with
          | move page anchor =>
              have hPage :
                  ¬ PageExists page b.window.pageSize := hExists
              simp only [w, execute, perform, Buffer.begin,
                b.prepareMove_of_not_exists hPage]
          | refresh => exact absurd trivial hExists
        rw [hWindow]
        exact ⟨hLies, rfl⟩
  | clear =>
      refine ⟨?_, rfl⟩
      exact
        { isPrefix := List.nil_prefix
          whole := fun hDrained => by cases hDrained
          shadow_eq := fun _ => rfl
          pageSize_pos := hLies.pageSize_pos
          pageSize_le := hLies.pageSize_le }
  | setPageSize size =>
      have hWord : size ≤ maxWord := hGrounded
      refine ⟨?_, rfl⟩
      exact
        { isPrefix := hLies.isPrefix
          whole := hLies.whole
          shadow_eq := hLies.shadow_eq
          pageSize_pos := Nat.le_max_right _ _
          pageSize_le := Nat.max_le.mpr ⟨hWord, by decide⟩ }

/- However much is done so, the window lies in the list. -/
theorem lies_executeAll
    {asked : List (ListQuery κ)}
    {deeds : List (Deed κ)}
    (hLies : b.window.Lies source.rows)
    (hGrounded :
      Deed.AllGrounded key source.rows b.window.pageSize
        deeds) :
    (executeAll key source.ask (b, asked)
      deeds).1.1.window.Lies source.rows := by
  induction deeds generalizing b asked with
  | nil => exact hLies
  | cons deed rest ih =>
      rcases hGrounded with ⟨hFirst, hRest⟩
      rcases lies_execute source hLies hFirst asked with
        ⟨hLies', hSize⟩
      rw [← hSize] at hRest
      exact ih hLies' hRest

/-
  After any anchored moves to the first rows of their pages,
  other moves, refreshes, new page sizes and clears, a move is
  committed.  It shows the rows of its page, or of the last page
  if there is no such, exactly when the window did not straddle
  that page.
-/
theorem anchored_page_exact_iff
    (source : Archive key)
    (pageSize maxLimit : Nat)
    (deeds : List (Deed κ))
    (hPageSize : pageSize ≤ maxWord)
    (hGrounded :
      Deed.AllGrounded key source.rows (max pageSize 1) deeds) :
    let before :=
      (executeAll key source.ask (.empty pageSize maxLimit, [])
        deeds).1
    let w := before.1.window
    ∀ page, PageExists page w.pageSize →
      let moved :=
        execute key source.ask before
          (.operation (.move page none))
      let start := pageStart page w.pageSize source.rows.length
      moved.2 = .ok .committed ∧
        (moved.1.1.window.pageRows =
            (source.rows.drop start).take w.pageSize ↔
          ¬ w.Straddled page source.rows.length) := by
  intro before w page hPage moved start
  have hEmpty :
      (Buffer.empty pageSize maxLimit :
        Buffer ρ).window.Lies source.rows :=
    (Window.Leads.of_empty hPageSize).lies
  have hLies : w.Lies source.rows :=
    lies_executeAll source hEmpty hGrounded
  have hExists :
      (Operation.move page (none : Option κ)).Exists
        w.pageSize := hPage
  rcases exists_course key before.1.maxLimit w hExists with
    ⟨edit, load, hCourse⟩
  rcases hCourse.pageRows_eq_iff source hLies
      before.1.maxLimit_pos before.2 with
    ⟨l', asked', hRun, _, hExact⟩
  have hMoved :
      moved =
        ((before.1.publish (edit.apply key l'.rows w), asked'),
          .ok .committed) :=
    perform_of_run hCourse hRun
  rw [hMoved]
  exact ⟨rfl, hExact⟩

/- A page of one row, opened in the middle, and larger pages. -/
def regrouping : List (Deed Nat) :=
  [.operation (.move 3 (some 4)), .operation .refresh,
    .operation (.move 3 (some 4)), .setPageSize 2]

theorem anchored_page_exact_iff_regrouping :
    let before :=
      (executeAll id sixRows.ask (.empty 1 2, []) regrouping).1
    let moved :=
      execute id sixRows.ask before (.operation (.move 1 none))
    1 ≤ maxWord ∧
      Deed.AllGrounded id sixRows.rows (max 1 1) regrouping ∧
      PageExists 1 before.1.window.pageSize ∧
      before.1.window.shadow = 2 ∧
      ¬ before.1.window.Straddled 1 sixRows.rows.length ∧
      moved.1.1.window.pageRows = [6, 5] := by
  intro before moved
  have hWord : 1 ≤ maxWord := by decide
  have hGrounded :
      Deed.AllGrounded id sixRows.rows (max 1 1) regrouping := by
    decide
  have hSize : before.1.window.pageSize = 2 := by
    decide +kernel
  have hPage : PageExists 1 before.1.window.pageSize := by
    rw [hSize]
    decide
  have hShadow : before.1.window.shadow = 2 := by
    decide +kernel
  have hBeside :
      ¬ before.1.window.Straddled 1 sixRows.rows.length := by
    decide +kernel
  have hExact :=
    (anchored_page_exact_iff sixRows 1 2 regrouping hWord
      hGrounded 1 hPage).2.mpr hBeside
  refine ⟨hWord, hGrounded, hPage, hShadow, hBeside, ?_⟩
  rw [hSize] at hExact
  exact hExact

/-
  A window of one row in the middle straddles a larger page,
  whose last row is then missing.
-/
theorem anchored_page_cut_short :
    let deeds : List (Deed Nat) :=
      [.operation (.move 2 (some 5)), .setPageSize 3]
    let before :=
      (executeAll id sixRows.ask (.empty 1 50, []) deeds).1
    let moved :=
      execute id sixRows.ask before (.operation (.move 1 none))
    Deed.AllGrounded id sixRows.rows (max 1 1) deeds ∧
      PageExists 1 before.1.window.pageSize ∧
      before.1.window.Straddled 1 sixRows.rows.length ∧
      moved.2 = .ok .committed ∧
      moved.1.1.window.pageRows = [6, 5] ∧
      (sixRows.rows.drop
        (pageStart 1 before.1.window.pageSize
          sixRows.rows.length)).take
          before.1.window.pageSize = [6, 5, 4] := by
  decide +kernel

end Buffer

end LedgerView
