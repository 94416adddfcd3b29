import Mathlib.Data.Nat.Basic
import LedgerView.Proofs.Buffer.Edit
import LedgerView.Proofs.Load.Whole
import LedgerView.Proofs.Window.Page

/-
  Exact paging over rows that do not change.

  As long as no move has an anchor, the window leads the list,
  whatever is done to it.  So a move shows the very page of the
  list that it asks for, and to repeat it loads nothing.

  Key definitions include:
    * `Deed.Plain`

  Key theorems include:
    * `Course.shows`
    * `Course.leads`
    * `Buffer.leads_executeAll`
    * `Buffer.paging_exact`
-/

namespace LedgerView

variable {ρ κ : Type} [LinearOrder κ]
variable {key : ρ → κ} {limit : Nat}

------------------------------------------------------------
-- Moves and Refreshes
------------------------------------------------------------

namespace Course

variable (source : Archive key)
variable {w : Window ρ} {page : Nat} {edit : Edit} {load : Load ρ κ}

/- A move without an anchor shows its page. -/
theorem shows
    (hLeads : w.Leads source.rows)
    (hCourse : Course key limit w (.move page none) edit load)
    (hLimit : 0 < limit)
    (asked : List (ListQuery κ)) :
    ∃ l' asked',
      load.run key limit hLimit source.ask asked =
          (.ok l', asked') ∧
        (edit.apply key l'.rows w).Shows source.rows page := by
  cases hCourse with
  | initial page hPage hRows =>
      rcases Load.run_newest source hLimit asked
          (pageOffset page w.pageSize + w.pageSize) with
        ⟨l', asked', hRun, hLoaded⟩
      refine ⟨l', asked', hRun, ?_⟩
      let u : Window ρ :=
        { w with
          rows := l'.rows
          shadow := 0
          drained :=
            l'.rows.length <
              pageOffset page w.pageSize + w.pageSize }
      have hFilled :
          u.Leads source.rows ∧
            u.Reaches
              (pageOffset page w.pageSize + w.pageSize) :=
        Window.leads_of_take rfl hLoaded rfl hPage
          hLeads.pageSize_pos hLeads.pageSize_le
      exact hFilled.1.shows hFilled.2
  | head page row hPage hRow hShadow =>
      rw [hLeads.shadow] at hShadow
      exact absurd hShadow (Nat.not_lt_zero _)
  | tail page row hPage hRow hShadow hBeyond hDrained =>
      rw [hLeads.shadow, Nat.zero_add] at hBeyond ⊢
      rcases hLeads.isPrefix with ⟨older, hOlder⟩
      rcases List.getLast?_eq_some_iff.mp hRow with
        ⟨init, hInit⟩
      have hSource : source.rows = init ++ row :: older := by
        rw [← hOlder, hInit, List.append_assoc]
        rfl
      rcases Load.run_older source hLimit asked
          (pageOffset page w.pageSize + w.pageSize -
            w.rows.length) hSource with
        ⟨l', asked', hRun, hLoaded⟩
      refine ⟨l', asked', hRun, ?_⟩
      have hFilled :=
        Window.leads_of_append hLeads hOlder hBeyond hPage
      have hShows := hFilled.1.shows hFilled.2
      simp only [Edit.apply, hLoaded, hDrained, Bool.false_or]
      exact hShows
  | turn page hPage hRows hShadow hWithin =>
      refine
        ⟨.nothing, asked, Load.run_of_isDone hLimit asked rfl,
          ?_⟩
      rw [hLeads.shadow, Nat.zero_add] at hWithin
      exact hLeads.shows hWithin.symm

/- After a refresh the window still leads the list. -/
theorem leads
    (hLeads : w.Leads source.rows)
    (hCourse : Course key limit w .refresh edit load)
    (hLimit : 0 < limit)
    (asked : List (ListQuery κ)) :
    ∃ l' asked',
      load.run key limit hLimit source.ask asked =
          (.ok l', asked') ∧
        (edit.apply key l'.rows w).Leads source.rows := by
  cases hCourse with
  | newest hNoHead =>
      rcases Load.run_newest source hLimit asked w.pageSize with
        ⟨l', asked', hRun, hLoaded⟩
      refine ⟨l', asked', hRun, ?_⟩
      let u : Window ρ :=
        { w.reset with
          rows := l'.rows
          drained := l'.rows.length < w.pageSize }
      have hFilled :
          u.Leads source.rows ∧ u.Reaches w.pageSize :=
        Window.leads_of_take rfl hLoaded rfl hLeads.pageSize_le
          hLeads.pageSize_pos hLeads.pageSize_le
      exact hFilled.1
  | join row hRow hShadow =>
      rcases List.head?_eq_some_iff.mp hRow with ⟨rest, hRows⟩
      rcases hLeads.isPrefix with ⟨older, hOlder⟩
      have hSource : source.rows = row :: (rest ++ older) := by
        rw [← hOlder, hRows]
        rfl
      rcases Load.run_newest_head source hLimit asked
          hSource with
        ⟨l', asked', hRun, hLoaded⟩
      refine ⟨l', asked', hRun, ?_⟩
      rw [hLoaded, Edit.apply_join_head key hRow]
      exact hLeads

end Course

------------------------------------------------------------
-- Whole Operations
------------------------------------------------------------

namespace Buffer

variable (source : Archive key) {b : Buffer ρ} {page : Nat}

/- A move to a page that exists is committed and shows it. -/
theorem perform_move
    (hLeads : b.window.Leads source.rows)
    (hPage : PageExists page b.window.pageSize)
    (asked : List (ListQuery κ)) :
    ∃ b' asked',
      b.perform key source.ask asked (.move page none) =
          ((b', asked'), .ok .committed) ∧
        b'.window.Shows source.rows page ∧
        b'.window.pageSize = b.window.pageSize := by
  have hExists :
      (Operation.move page (none : Option κ)).Exists
        b.window.pageSize := hPage
  rcases exists_course key b.maxLimit b.window hExists with
    ⟨edit, load, hCourse⟩
  rcases hCourse.shows source hLeads b.maxLimit_pos asked with
    ⟨l', asked', hRun, hShows⟩
  exact
    ⟨_, asked', perform_of_run hCourse hRun, hShows,
      Edit.apply_pageSize key edit l'.rows b.window⟩

/- To show a page again loads nothing and changes nothing. -/
theorem perform_move_again
    (hShows : b.window.Shows source.rows page)
    (hPage : PageExists page b.window.pageSize)
    (hRows : source.rows ≠ [])
    (asked : List (ListQuery κ)) :
    ∃ b',
      b.perform key source.ask asked (.move page none) =
          ((b', asked), .ok .committed) ∧
        b'.window = b.window := by
  have hShadow :
      b.window.shadow ≤ pageOffset page b.window.pageSize := by
    rw [hShows.shadow]
    exact Nat.zero_le _
  have hWithin :
      pageOffset page b.window.pageSize + b.window.pageSize ≤
          b.window.shadow + b.window.rows.length ∨
        b.window.drained = true := by
    rw [hShows.shadow, Nat.zero_add]
    exact hShows.reaches.symm
  have hCourse :
      Course key b.maxLimit b.window (.move page none)
        (.turn (pageOffset page b.window.pageSize)) .nothing :=
    .turn page hPage (hShows.rows_ne_nil hRows) hShadow hWithin
  have hRun :
      (Load.nothing : Load ρ κ).run key b.maxLimit
          b.maxLimit_pos source.ask asked =
        (.ok .nothing, asked) :=
    Load.run_of_isDone b.maxLimit_pos asked rfl
  exact
    ⟨_, perform_of_run hCourse hRun, hShows.showPage_eq⟩

/- A refresh is committed and leaves a window that leads. -/
theorem perform_refresh
    (hLeads : b.window.Leads source.rows)
    (asked : List (ListQuery κ)) :
    ∃ b' asked',
      b.perform key source.ask asked .refresh =
          ((b', asked'), .ok .committed) ∧
        b'.window.Leads source.rows := by
  have hExists :
      (Operation.refresh : Operation κ).Exists
        b.window.pageSize := trivial
  rcases exists_course key b.maxLimit b.window hExists with
    ⟨edit, load, hCourse⟩
  rcases hCourse.leads source hLeads b.maxLimit_pos asked with
    ⟨l', asked', hRun, hLeads'⟩
  exact ⟨_, asked', perform_of_run hCourse hRun, hLeads'⟩

end Buffer

------------------------------------------------------------
-- Whole Histories
------------------------------------------------------------

/- A deed that needs no anchor and whose page size is a word. -/
def Deed.Plain
    (deed : Deed κ) : Prop :=
  match deed with
  | .operation (.move _ anchor) => anchor = none
  | .operation .refresh => True
  | .clear => True
  | .setPageSize pageSize => pageSize ≤ maxWord

instance : (deed : Deed κ) → Decidable deed.Plain
  | .operation (.move _ anchor) =>
      inferInstanceAs (Decidable (anchor = none))
  | .operation .refresh => .isTrue trivial
  | .clear => .isTrue trivial
  | .setPageSize pageSize =>
      inferInstanceAs (Decidable (pageSize ≤ maxWord))

namespace Buffer

variable (source : Archive key) {b : Buffer ρ}

/- Whatever is done, the window leads the list. -/
theorem leads_execute
    {deed : Deed κ}
    (hLeads : b.window.Leads source.rows)
    (hPlain : deed.Plain)
    (asked : List (ListQuery κ)) :
    (execute key source.ask (b, asked)
      deed).1.1.window.Leads source.rows := by
  cases deed with
  | operation op =>
      cases op with
      | move page anchor =>
          have hNone : anchor = none := hPlain
          rw [hNone]
          by_cases hPage : PageExists page b.window.pageSize
          · rcases perform_move source hLeads hPage asked with
              ⟨b', asked', hPerform, hShows, _⟩
            simp only [execute, hPerform]
            exact hShows.toLeads
          · simp only [execute, perform, Buffer.begin,
              b.prepareMove_of_not_exists hPage]
            exact hLeads
      | refresh =>
          rcases perform_refresh source hLeads asked with
            ⟨b', asked', hPerform, hLeads'⟩
          simp only [execute, hPerform]
          exact hLeads'
  | clear => exact hLeads.reset
  | setPageSize pageSize =>
      have hWord : pageSize ≤ maxWord := hPlain
      exact
        { shadow := hLeads.shadow
          isPrefix := hLeads.isPrefix
          whole := hLeads.whole
          pageSize_pos := Nat.le_max_right _ _
          pageSize_le := Nat.max_le.mpr ⟨hWord, by decide⟩ }

/- However much is done, the window leads the list. -/
theorem leads_executeAll
    {asked : List (ListQuery κ)}
    {deeds : List (Deed κ)}
    (hLeads : b.window.Leads source.rows)
    (hPlain : ∀ deed ∈ deeds, deed.Plain) :
    (executeAll key source.ask (b, asked)
      deeds).1.1.window.Leads source.rows := by
  induction deeds generalizing b asked with
  | nil => exact hLeads
  | cons deed rest ih =>
      have hFirst := hPlain deed List.mem_cons_self
      have hRest : ∀ d ∈ rest, d.Plain := by
        intro d hd
        exact hPlain d (List.mem_cons_of_mem deed hd)
      exact ih (leads_execute source hLeads hFirst asked) hRest

/-
  Whatever was done before, the window holds the first rows of
  the list, all of them once it is drained; and a move shows the
  rows of its page, or of the last page if there is no such.
  To repeat it loads nothing and changes nothing.
-/
theorem paging_exact
    (source : Archive key)
    (pageSize maxLimit : Nat)
    (deeds : List (Deed κ))
    (hPageSize : pageSize ≤ maxWord)
    (hPlain : ∀ deed ∈ deeds, deed.Plain) :
    let before :=
      (executeAll key source.ask (.empty pageSize maxLimit, [])
        deeds).1
    let w := before.1.window
    w.shadow = 0 ∧ w.rows <+: source.rows ∧
      (w.drained = true →
        w.rows = source.rows ∧
          ∀ presumed,
            w.totalRowCount presumed = source.rows.length) ∧
      ∀ page, PageExists page w.pageSize →
        let moved :=
          execute key source.ask before
            (.operation (.move page none))
        let w' := moved.1.1.window
        let start := pageStart page w.pageSize source.rows.length
        moved.2 = .ok .committed ∧
          w'.pageRows =
            (source.rows.drop start).take w.pageSize ∧
          w'.currentPage = start / w.pageSize + 1 ∧
          (source.rows ≠ [] →
            let again :=
              execute key source.ask moved.1
                (.operation (.move page none))
            again.2 = .ok .committed ∧
              again.1.1.window = w' ∧ again.1.2 = moved.1.2) := by
  intro before w
  have hLeads : w.Leads source.rows :=
    leads_executeAll source (Window.Leads.of_empty hPageSize)
      hPlain
  refine ⟨hLeads.shadow, hLeads.isPrefix, ?_, ?_⟩
  · intro hDrained
    exact
      ⟨(hLeads.whole hDrained).1,
        hLeads.totalRowCount_eq hDrained⟩
  · intro page hPage moved w' start
    rcases perform_move source hLeads hPage before.2 with
      ⟨b', asked', hMove, hShows, hSame⟩
    have hMoved : moved = ((b', asked'), .ok .committed) := hMove
    have hWindow : w' = b'.window := by
      simp only [w', hMoved]
    have hPage' : PageExists page b'.window.pageSize := by
      rw [hSame]
      exact hPage
    have hStart :
        start =
          pageStart page b'.window.pageSize
            source.rows.length := by
      rw [hSame]
    have hSize : w.pageSize = b'.window.pageSize := hSame.symm
    rw [hMoved, hWindow, hStart, hSize]
    refine
      ⟨rfl, hShows.pageRows_eq, hShows.currentPage_eq hPage', ?_⟩
    intro hRows again
    rcases perform_move_again source hShows hPage' hRows
        asked' with
      ⟨b'', hAgain, hSame'⟩
    have hAgain' : again = ((b'', asked'), .ok .committed) :=
      hAgain
    rw [hAgain']
    exact ⟨rfl, hSame', rfl⟩

/- Two pages of three rows, or three pages of two. -/
def sixRows : Archive (id : Nat → Nat) :=
  ⟨[6, 5, 4, 3, 2, 1], by decide⟩

/- All six rows are read, but not that there are no more. -/
def browsing : List (Deed Nat) :=
  [.operation (.move 2 none), .setPageSize 2,
    .operation .refresh, .operation (.move 1 none)]

theorem paging_exact_browsing :
    let before :=
      (executeAll id sixRows.ask (.empty 3 2, []) browsing).1
    let moved :=
      execute id sixRows.ask before (.operation (.move 9 none))
    let again :=
      execute id sixRows.ask moved.1 (.operation (.move 9 none))
    3 ≤ maxWord ∧ (∀ deed ∈ browsing, deed.Plain) ∧
      PageExists 9 before.1.window.pageSize ∧
      sixRows.rows ≠ [] ∧ before.1.window.drained = false ∧
      moved.1.1.window.pageRows = [2, 1] ∧
      moved.1.1.window.currentPage = 3 ∧
      again.1.1.window = moved.1.1.window ∧
      again.1.2 = moved.1.2 := by
  intro before moved again
  have hWord : 3 ≤ maxWord := by decide
  have hPlain : ∀ deed ∈ browsing, deed.Plain := by decide
  have hSize : before.1.window.pageSize = 2 := by
    decide +kernel
  have hPage : PageExists 9 before.1.window.pageSize := by
    rw [hSize]
    decide
  have hRows : sixRows.rows ≠ [] := by decide
  have hOpen : before.1.window.drained = false := by
    decide +kernel
  rcases paging_exact sixRows 3 2 browsing hWord hPlain with
    ⟨_, _, _, hMove⟩
  rcases hMove 9 hPage with ⟨_, hPageRows, hNumber, hAgain⟩
  refine
    ⟨hWord, hPlain, hPage, hRows, hOpen, hPageRows.trans ?_,
      hNumber.trans ?_, (hAgain hRows).2.1, (hAgain hRows).2.2⟩
  · rw [hSize]
    rfl
  · rw [hSize]
    rfl

end Buffer

end LedgerView
