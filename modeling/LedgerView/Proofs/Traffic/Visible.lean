import LedgerView.Proofs.Load.Upward
import LedgerView.Proofs.Traffic.Count
import LedgerView.Proofs.Traffic.Serial

/-
  Pages on which nothing is visible.

  A move without an anchor shows a page of the rows at hand and
  of those that it loads.  Over a list that does not change, it
  leaves rows but shows none of them in one case only: the page
  begins above the rows at hand, fewer rows precede these than
  their shadow says, and all of them together do not reach down
  to the page.  The rows above are loaded then, and those below
  are not.

  Key definitions include:
    * `Window.FallsShort`
    * `Window.Overshoots`
    * `Conduct.steady`
    * `Invariant.constancy`
    * `Sighted`

  Key theorems include:
    * `Course.pageRows_eq_nil_iff`
    * `Voyage.Foresees.pageRows_eq_nil_iff`
    * `Sighted.step`
    * `Traffic.blank_page_iff`
-/

namespace LedgerView

variable {ρ κ : Type}

------------------------------------------------------------
-- Empty Pages
------------------------------------------------------------

/- A page is empty if it begins beyond the rows. -/
theorem Window.pageRows_eq_nil_iff
    {w : Window ρ}
    (hPos : 1 ≤ w.pageSize) :
    w.pageRows = [] ↔ w.rows.length ≤ w.startIndex := by
  unfold pageRows
  rw [List.take_eq_nil_iff, List.drop_eq_nil_iff]
  omega

/-
  If a window is not drained, a page is empty that begins beyond
  its rows.
-/
theorem Edit.pageRows_showPage_eq_nil_iff
    {w : Window ρ}
    (start : Nat)
    (hPos : 1 ≤ w.pageSize)
    (hNot : w.drained = false) :
    (showPage w start).pageRows = [] ↔
      w.rows.length ≤ start - w.shadow := by
  have hStart :
      w.clampStart start = min (start - w.shadow) w.rows.length := by
    unfold Window.clampStart
    simp only [hNot, Bool.false_eq_true, if_false]
  have hEmpty :
      (showPage w start).pageRows = [] ↔
        w.rows.length ≤ w.clampStart start :=
    Window.pageRows_eq_nil_iff hPos
  rw [hEmpty, hStart]
  omega

/- A page begins where it can be counted. -/
theorem pageOffset_lt
    {page pageSize : Nat}
    (hPos : 1 ≤ pageSize)
    (hPage : PageExists page pageSize) :
    pageOffset page pageSize < maxWord := by
  unfold PageExists at hPage
  omega

/-
  With so many more rows in front, an undrained window does not
  reach down to a page above which it was to stand.
-/
def Window.FallsShort
    (w : Window ρ)
    (page count : Nat) : Prop :=
  w.rows ≠ [] ∧ w.drained = false ∧
    count + pageOffset page w.pageSize < w.shadow ∧
    count + w.rows.length ≤ pageOffset page w.pageSize

/- Such a window has rows, and the page begins above them. -/
theorem Window.FallsShort.above
    {w : Window ρ}
    {page count : Nat}
    (hShort : w.FallsShort page count) :
    w.rows ≠ [] ∧ pageOffset page w.pageSize < w.shadow := by
  rcases hShort with ⟨hKept, -, hOver, -⟩
  exact ⟨hKept, by omega⟩

namespace Course

variable [DecidableEq κ]
variable {key : ρ → κ} {limit page : Nat}
variable {w : Window ρ} {edit : Edit} {load : Load ρ κ}

/- A drained window shows a row, if it has any. -/
theorem pageRows_ne_nil_of_drained
    (hCourse : Course key limit w (.move page none) edit load)
    (hPlaced : w.Placed)
    (loaded : List ρ)
    (hDrained : (edit.apply key loaded w).drained = true)
    (hRows : (edit.apply key loaded w).rows ≠ []) :
    (edit.apply key loaded w).pageRows ≠ [] := by
  have hStart : edit.start < maxWord := by
    have hPos := hPlaced.pageSize_pos
    cases hCourse with
    | initial _ hPage => exact pageOffset_lt hPos hPage
    | head _ _ hPage => exact pageOffset_lt hPos hPage
    | tail _ _ hPage => exact pageOffset_lt hPos hPage
    | turn _ hPage => exact pageOffset_lt hPos hPage
  have hAfter := Edit.placed_apply key hPlaced hStart loaded
  intro hBlank
  have hBeyond :=
    (Window.pageRows_eq_nil_iff hAfter.pageSize_pos).mp hBlank
  have hOnRow := hAfter.onRow hDrained hRows
  omega

/- Only a move above an undrained window can fall short. -/
theorem not_drained_of_fallsShort
    (hCourse : Course key limit w (.move page none) edit load)
    {loaded : List ρ}
    (hShort : w.FallsShort page loaded.length) :
    (edit.apply key loaded w).drained = false := by
  rcases hShort with ⟨hKept, hOpen, hAbove, -⟩
  cases hCourse with
  | initial _ _ hNone => exact absurd hNone hKept
  | head _ row _ _ _ => exact hOpen
  | tail _ _ _ _ hShadow => omega
  | turn _ _ _ hShadow => omega

/- An undrained window is left blank if it falls short. -/
theorem pageRows_eq_nil_iff_of_not_drained
    (hCourse : Course key limit w (.move page none) edit load)
    (hPos : 1 ≤ w.pageSize)
    {loaded : List ρ}
    (hNot : (edit.apply key loaded w).drained = false) :
    (edit.apply key loaded w).pageRows = [] ↔
      w.FallsShort page loaded.length := by
  unfold Window.FallsShort
  cases hCourse with
  | initial _ hPage hNone =>
      have hEnough :
          pageOffset page w.pageSize + w.pageSize ≤
            loaded.length :=
        Nat.not_lt.mp (of_decide_eq_false hNot)
      have hEmpty :=
        Edit.pageRows_showPage_eq_nil_iff
          (w :=
            { w with
              rows := loaded
              shadow := 0
              drained := _ })
          (pageOffset page w.pageSize) hPos hNot
      refine hEmpty.trans
        ⟨fun hBeyond => ?_, fun hBoth => absurd hNone hBoth.1⟩
      dsimp only at hBeyond
      omega
  | head _ row _ hRow hShadow =>
      have hOpen : w.drained = false := hNot
      have hKept : w.rows ≠ [] := by
        intro hNone
        rw [hNone] at hRow
        cases hRow
      have hLength : 0 < w.rows.length :=
        List.length_pos_iff.mpr hKept
      have hEmpty :=
        Edit.pageRows_showPage_eq_nil_iff
          (w :=
            { w with
              rows := loaded.reverse ++ w.rows
              shadow :=
                if loaded.length <
                    w.shadow - pageOffset page w.pageSize then 0
                else w.shadow - loaded.length })
          (pageOffset page w.pageSize) hPos hOpen
      refine hEmpty.trans ?_
      simp only [List.length_append, List.length_reverse, hKept,
        hOpen, ne_eq, not_false_eq_true, true_and]
      split <;> omega
  | tail _ row _ _ hShadow hBeyond hOpen =>
      have hEnough :
          pageOffset page w.pageSize + w.pageSize -
              (w.shadow + w.rows.length) ≤
            loaded.length := by
        have hBoth :
            (w.drained || decide (loaded.length <
              pageOffset page w.pageSize + w.pageSize -
                (w.shadow + w.rows.length))) = false := hNot
        rw [hOpen, Bool.false_or] at hBoth
        exact Nat.not_lt.mp (of_decide_eq_false hBoth)
      have hEmpty :=
        Edit.pageRows_showPage_eq_nil_iff
          (w :=
            { w with
              rows := w.rows ++ loaded
              drained := _ })
          (pageOffset page w.pageSize) hPos hNot
      refine hEmpty.trans ⟨fun hBeyond => ?_, fun hBoth => ?_⟩
      · simp only [List.length_append] at hBeyond
        omega
      · omega
  | turn _ _ hKept hShadow hWithin =>
      have hOpen : w.drained = false := hNot
      have hStop := hWithin.resolve_right (by simp [hOpen])
      have hEmpty :=
        Edit.pageRows_showPage_eq_nil_iff
          (pageOffset page w.pageSize) hPos hOpen
      refine hEmpty.trans ⟨fun hBeyond => ?_, fun hBoth => ?_⟩
      · omega
      · omega

/-
  Whatever is loaded, a move without an anchor that leaves rows
  shows none of them if and only if, with so many more rows, the
  window falls short of its page.
-/
theorem pageRows_eq_nil_iff
    (hCourse : Course key limit w (.move page none) edit load)
    (hPlaced : w.Placed)
    (loaded : List ρ)
    (hRows : (edit.apply key loaded w).rows ≠ []) :
    (edit.apply key loaded w).pageRows = [] ↔
      w.FallsShort page loaded.length := by
  cases hDrained : (edit.apply key loaded w).drained with
  | true =>
      have hSome :=
        hCourse.pageRows_ne_nil_of_drained hPlaced loaded hDrained
          hRows
      refine
        ⟨fun hBlank => absurd hBlank hSome, fun hShort => ?_⟩
      rw [hCourse.not_drained_of_fallsShort hShort] at hDrained
      cases hDrained
  | false =>
      exact hCourse.pageRows_eq_nil_iff_of_not_drained
        hPlaced.pageSize_pos hDrained

end Course

------------------------------------------------------------
-- Lists That Do Not Change
------------------------------------------------------------

variable [LinearOrder κ]

/- What an archive tells of a query. -/
def Archive.tell
    {key : ρ → κ}
    (source : Archive key)
    (q : ListQuery κ) : Option (List ρ) :=
  some (selectRows key source.rows q)

namespace Conduct

/- A source that answers truthfully or fails, and never changes. -/
def steady
    (key : ρ → κ) : Conduct (Archive key) ρ κ where
  Answers := (growing key).Answers
  Becomes := fun source next => next.rows = source.rows

instance
    [DecidableEq ρ]
    (key : ρ → κ)
    (source : Archive key)
    (q : ListQuery κ)
    (reply : Reply ρ) :
    Decidable ((steady key).Answers source q reply) :=
  inferInstanceAs
    (Decidable ((growing key).Answers source q reply))

instance
    [DecidableEq ρ]
    (key : ρ → κ)
    (source next : Archive key) :
    Decidable ((steady key).Becomes source next) :=
  inferInstanceAs (Decidable (next.rows = source.rows))

/- A list that does not change is one that only grows. -/
theorem growing_of_steady
    {key : ρ → κ}
    {s : Traffic (Archive key) ρ κ}
    {event : Traffic.Event (Archive key) ρ κ}
    (hAdmits : (steady key).Admits s event) :
    (growing key).Admits s event := by
  cases event with
  | source next =>
      have hSame : next.rows = s.source.rows := hAdmits
      have hGrown : s.source.rows <:+ next.rows :=
        ⟨[], hSame.symm⟩
      exact hGrown
  | _ => exact hAdmits

end Conduct

/- What is read does not depend on what was asked before. -/
theorem Load.run_tell
    {key : ρ → κ}
    {limit : Nat}
    (hLimit : 0 < limit)
    (source : Archive key)
    (asked : List (ListQuery κ))
    (l : Load ρ κ) :
    (l.run key limit hLimit source.ask asked).1 =
      (l.run key limit hLimit (answering source.tell) ()).1 := by
  induction l using chunk_induction key hLimit
    generalizing asked with
  | done l hDone =>
      rw [run_of_isDone hLimit _ hDone,
        run_of_isDone hLimit _ hDone]
  | loading l hOpen ih =>
      have hAsk :
          source.ask asked (l.query limit) =
            (.ok (source.tell (l.query limit)),
              asked ++ [l.query limit]) := rfl
      have hTell :
          answering source.tell () (l.query limit) =
            (.ok (source.tell (l.query limit)), ()) := rfl
      rw [run_of_answer hLimit hOpen hAsk,
        run_of_answer hLimit hOpen hTell]
      exact ih _ _

------------------------------------------------------------
-- Moves That Fall Short
------------------------------------------------------------

/- The rows of a list above those that a window keeps. -/
def Window.above
    (key : ρ → κ)
    (rows : List ρ)
    (w : Window ρ) : List ρ :=
  match w.rows.head? with
  | some first =>
      rows.filter fun row =>
        Operator.gt.accepts (key row) (key first)
  | none => []

/-
  With all the rows above it the window does not reach down to
  a page above which it was to stand.
-/
def Window.Overshoots
    (key : ρ → κ)
    (rows : List ρ)
    (w : Window ρ)
    (page : Nat) : Prop :=
  w.FallsShort page (w.above key rows).length

instance
    (key : ρ → κ)
    (rows : List ρ)
    (w : Window ρ)
    (page : Nat) :
    Decidable (w.Overshoots key rows page) := by
  unfold Window.Overshoots Window.FallsShort
  infer_instance

variable {key : ρ → κ} {limit page : Nat}
variable {source : Archive key} {w : Window ρ}

/- A move above a window reads the rows that there are. -/
theorem Course.length_loaded
    {edit : Edit}
    {load loaded : Load ρ κ}
    (hCourse : Course key limit w (.move page none) edit load)
    (hRun : w.rows <:+: source.rows)
    (hKept : w.rows ≠ [])
    (hShadow : pageOffset page w.pageSize < w.shadow)
    (hLimit : 0 < limit)
    (hLoaded :
      (load.run key limit hLimit source.ask []).1 = .ok loaded) :
    loaded.rows.length =
      min (w.shadow - pageOffset page w.pageSize)
        (w.above key source.rows).length := by
  cases hCourse with
  | initial _ _ hNone => exact absurd hNone hKept
  | tail _ _ _ _ hAbove => omega
  | turn _ _ _ hAbove => omega
  | head _ row _ hRow _ =>
      rcases List.head?_eq_some_iff.mp hRow with ⟨rest, hRows⟩
      have hFirst : [] ++ row :: rest <:+: source.rows :=
        hRows ▸ hRun
      rcases source.exists_split hFirst with
        ⟨newer, older, hSource, hDescends⟩
      rw [List.append_nil] at hSource hDescends
      have hAbove : w.above key source.rows = newer := by
        unfold Window.above
        rw [hRow, hSource]
        exact hDescends.filter_gt
      rcases Load.run_newer source hLimit []
          (w.shadow - pageOffset page w.pageSize) hSource with
        ⟨l', asked', hRead, hNewer⟩
      rw [hRead] at hLoaded
      cases hLoaded
      rw [hNewer, hAbove, List.length_take, List.length_reverse]

/-
  A move without an anchor that has loaded everything and leaves
  rows shows none of them if and only if the window that it was
  begun on overshoots.
-/
theorem Voyage.Foresees.pageRows_eq_nil_iff
    {hLimit : 0 < limit}
    {v : Voyage ρ κ}
    (hForesees : v.Foresees key source.tell hLimit w)
    (hMove : v.operation = .move page none)
    (hDone : v.flight.load.isDone = true)
    (hRun : w.rows <:+: source.rows)
    (hPlaced : w.Placed)
    (hRows :
      (v.flight.edit.apply key v.flight.load.rows w).rows ≠ []) :
    (v.flight.edit.apply key v.flight.load.rows w).pageRows =
        [] ↔
      w.Overshoots key source.rows page := by
  rcases hForesees with ⟨load, hCourse, hSame⟩
  rw [hMove] at hCourse
  rw [Load.run_of_isDone hLimit () hDone] at hSame
  rw [hCourse.pageRows_eq_nil_iff hPlaced _ hRows]
  have hLoaded :
      (load.run key limit hLimit source.ask []).1 =
        .ok v.flight.load := by
    rw [Load.run_tell, hSame]
  unfold Window.Overshoots
  by_cases hAbove :
      w.rows ≠ [] ∧ pageOffset page w.pageSize < w.shadow
  · rcases hAbove with ⟨hKept, hLess⟩
    rw [hCourse.length_loaded hRun hKept hLess hLimit hLoaded]
    unfold Window.FallsShort
    refine and_congr_right fun _ => and_congr_right fun _ => ?_
    constructor
    · rintro ⟨hOver, hShort⟩
      omega
    · rintro ⟨hOver, hShort⟩
      omega
  · exact
      iff_of_false (fun hShort => hAbove hShort.above)
        fun hShort => hAbove hShort.above

------------------------------------------------------------
-- Histories over a List
------------------------------------------------------------

variable {maxLimit pageSize : Nat}

/- What is under way and up to date foresees its end. -/
def Invariant.constancy
    (key : ρ → κ)
    (hLimit : 0 < limit) :
    Invariant (Conduct.steady key) key limit where
  Holds := fun _ _ => True
  Serves := fun source w v =>
    v.Foresees key source.tell hLimit w
  begins := by
    intro source b op f hMax _ hBegin
    have hCourse := (Buffer.begin_eq_ok_iff.mp hBegin).2
    rw [hMax] at hCourse
    exact ⟨f.load, hCourse, rfl⟩
  receives := by
    intro source w v rows hForesees hDone hAnswer
    exact hForesees.receive hDone hAnswer
  commits := fun _ _ _ => trivial
  becomes := fun _ _ => trivial
  serves_becomes := by
    intro source next w v hNext _ hForesees
    have hSame : next.rows = source.rows := hNext
    unfold Archive.tell at hForesees ⊢
    rw [hSame]
    exact hForesees
  resets := fun _ => trivial
  resizes := fun _ _ => trivial

/- What is known of a buffer over a list that does not change. -/
structure Traffic.Steady
    (hLimit : 0 < limit)
    (s : Traffic (Archive key) ρ κ) : Prop where
  constant : (Invariant.constancy key hLimit).Sound s
  gapless : ((Shape.gapless key).invariant hLimit).Sound s
  charted : s.Charted

/- Every event that is possible keeps it. -/
theorem Traffic.Steady.step
    {hLimit : 0 < limit}
    {s : Traffic (Archive key) ρ κ}
    {event : Traffic.Event (Archive key) ρ κ}
    (hSteady : s.Steady hLimit)
    (hAdmits : (Conduct.steady key).Admits s event)
    (hChanges : (s.step key event).changes < 2 ^ 64) :
    (s.step key event).Steady hLimit where
  constant :=
    Invariant.sound_step hSteady.constant hAdmits hChanges
  gapless :=
    Invariant.sound_step hSteady.gapless
      (Conduct.growing_of_steady hAdmits) hChanges
  charted := charted_step hSteady.charted key event

/-
  Whether a record tells of a window in which a page is blank
  only because the window before it overshot.
-/
def Record.Shows
    (key : ρ → κ)
    (rows : List ρ)
    (w : Window ρ)
    (r : Record ρ κ) : Prop :=
  ∀ page, r.deed = .operation (.move page none) →
    r.committed = true → r.window.rows ≠ [] →
      (r.window.pageRows = [] ↔ w.Overshoots key rows page)

/- A history that led to a window and tells of no other blanks. -/
structure Sighted
    (key : ρ → κ)
    (rows : List ρ)
    (pageSize : Nat)
    (history : List (Record ρ κ))
    (w : Window ρ) : Prop where
  latest : Record.leftBy (.empty pageSize) history = w
  shows :
    ∀ before r after, history = before ++ r :: after →
      r.Shows key rows (Record.leftBy (.empty pageSize) before)

namespace Sighted

variable {rows : List ρ} {history : List (Record ρ κ)}

/- Nothing was done yet. -/
theorem empty :
    Sighted key rows pageSize [] (.empty pageSize) where
  latest := rfl
  shows := by
    intro before r after hHistory
    have hLength := congrArg List.length hHistory
    rw [List.length_append, List.length_cons] at hLength
    exact absurd hLength (by simp)

/- What is done next may leave a blank if it must. -/
theorem note
    (hSighted : Sighted key rows pageSize history w)
    {r : Record ρ κ}
    (hShows : r.Shows key rows w) :
    Sighted key rows pageSize (history ++ [r]) r.window where
  latest := by
    unfold Record.leftBy
    simp
  shows := by
    refine Record.forall_concat hSighted.shows ?_
    rw [hSighted.latest]
    exact hShows

/- What was not committed tells of no window. -/
theorem note_idle
    (hSighted : Sighted key rows pageSize history w)
    {r : Record ρ κ}
    (hNot : r.committed = false)
    (hWindow : r.window = w) :
    Sighted key rows pageSize (history ++ [r]) w := by
  have hNoted :
      Sighted key rows pageSize (history ++ [r]) r.window := by
    apply hSighted.note
    intro page _ hCommitted
    rw [hNot] at hCommitted
    cases hCommitted
  rw [hWindow] at hNoted
  exact hNoted

/- The end of an operation leaves a blank only if it must. -/
theorem commit
    {hLimit : 0 < limit}
    {s : Traffic (Archive key) ρ κ}
    {place : Nat}
    {v : Voyage ρ κ}
    (hSighted :
      Sighted key s.source.rows pageSize s.history
        s.buffer.window)
    (hSteady : s.Steady hLimit)
    (hVoyage : s.voyages[place]? = some v)
    (hDone : v.flight.load.isDone = true) :
    Sighted key s.source.rows pageSize
      (s.commit key place v).history
      (s.commit key place v).buffer.window := by
  unfold Traffic.commit Buffer.commit
  by_cases hCurrent : s.buffer.isCurrent v.flight.plan = true
  · rw [if_pos hCurrent]
    have hForesees :
        v.Foresees key s.source.tell hLimit s.buffer.window :=
      (hSteady.constant.voyages v
        (List.mem_of_getElem? hVoyage)).2
          (Buffer.revision_of_isCurrent hCurrent)
    apply hSighted.note
    intro page hDeed _ hRows
    have hMove : v.operation = .move page none :=
      Deed.operation.inj hDeed
    exact
      hForesees.pageRows_eq_nil_iff hMove hDone
        hSteady.gapless.holds.fits hSteady.charted.placed hRows
  · rw [if_neg hCurrent]
    exact hSighted.note_idle rfl rfl

/- Every event leaves a blank only if it must. -/
theorem step
    {hLimit : 0 < limit}
    {s : Traffic (Archive key) ρ κ}
    {event : Traffic.Event (Archive key) ρ κ}
    (hSighted :
      Sighted key s.source.rows pageSize s.history
        s.buffer.window)
    (hSteady : s.Steady hLimit)
    (hAdmits : (Conduct.steady key).Admits s event) :
    Sighted key (s.step key event).source.rows pageSize
      (s.step key event).history
      (s.step key event).buffer.window := by
  unfold Traffic.step
  cases event with
  | source next =>
      have hSame : next.rows = s.source.rows := hAdmits
      dsimp only
      rw [hSame]
      exact hSighted
  | prepare page =>
      dsimp only
      split <;> exact hSighted
  | depart place anchor =>
      dsimp only
      split <;> exact hSighted
  | refresh => exact hSighted
  | answer place reply =>
      dsimp only
      split
      · split
        · exact hSighted
        · cases reply with
          | ok rows => exact hSighted
          | error e => exact hSighted.note_idle rfl rfl
      · exact hSighted
  | commit place =>
      dsimp only
      split
      · next v hVoyage =>
          split
          · next hDone =>
              exact hSighted.commit hSteady hVoyage hDone
          · exact hSighted
      · exact hSighted
  | drop place => exact hSighted
  | abort => exact hSighted
  | clear =>
      apply hSighted.note
      intro page hDeed
      cases hDeed
  | setPageSize size =>
      apply hSighted.note
      intro page hDeed
      cases hDeed

/- So does every interleaving. -/
theorem run
    {hLimit : 0 < limit}
    {s : Traffic (Archive key) ρ κ}
    {events : List (Traffic.Event (Archive key) ρ κ)}
    (hSighted :
      Sighted key s.source.rows pageSize s.history
        s.buffer.window)
    (hSteady : s.Steady hLimit)
    (hAllows : (Conduct.steady key).Allows key s events)
    (hChanges : (s.run key events).changes < 2 ^ 64) :
    Sighted key (s.run key events).source.rows pageSize
      (s.run key events).history
      (s.run key events).buffer.window := by
  induction events generalizing s with
  | nil => exact hSighted
  | cons event rest ih =>
      rcases hAllows with ⟨hFirst, hRest⟩
      have hStep : (s.step key event).changes < 2 ^ 64 :=
        Nat.lt_of_le_of_lt
          ((s.step key event).changes_le_run key rest) hChanges
      exact
        ih (hSighted.step hSteady hFirst)
          (hSteady.step hFirst hStep) hRest hChanges

end Sighted

namespace Traffic

/-
  However operations overlap over a list that does not change,
  a move without an anchor that is committed and leaves rows
  shows none of them if and only if the window it found
  overshoots: it is not drained, the page begins above it, and
  all the rows above it are fewer than its shadow says and do
  not reach down to the page.
-/
theorem blank_page_iff
    (key : ρ → κ)
    (source : Archive key)
    (pageSize maxLimit : Nat)
    (events : List (Event (Archive key) ρ κ))
    (hAllows :
      (Conduct.steady key).Allows key
        (start source pageSize maxLimit) events)
    (hChanges :
      ((start source pageSize maxLimit).run key
        events).changes < 2 ^ 64) :
    let s := (start source pageSize maxLimit).run key events
    ∀ before r after page, s.history = before ++ r :: after →
      r.deed = .operation (.move page none) →
      r.committed = true → r.window.rows ≠ [] →
        let w := Record.leftBy (.empty pageSize) before
        (r.window.pageRows = [] ↔
          w.Overshoots key s.source.rows page) := by
  intro s before r after page hHistory hDeed hCommitted hRows w
  have hLimit : 0 < max maxLimit 1 := by omega
  have hSteady :
      (start source pageSize maxLimit).Steady hLimit :=
    { constant :=
        Invariant.sound_start source pageSize maxLimit rfl trivial
      gapless :=
        Invariant.sound_start source pageSize maxLimit rfl
          ((Shape.gapless key).suits_empty source pageSize)
      charted := charted_start source pageSize maxLimit }
  have hSighted :
      Sighted key s.source.rows pageSize s.history
        s.buffer.window :=
    Sighted.empty.run hSteady hAllows hChanges
  exact
    hSighted.shows before r after hHistory page hDeed hCommitted
      hRows

/- Three rows that do not change. -/
def threeRows : Archive (id : Nat → Nat) :=
  ⟨[3, 2, 1], by decide⟩

/-
  The third page is shown.  The newest row is then opened as the
  fifth page, and from there the third page once more.
-/
def astray : List (Event (Archive (id : Nat → Nat)) Nat Nat) :=
  [.prepare 3, .depart 0 none, .answer 0 (.ok (some [3, 2, 1])),
    .commit 0, .prepare 5, .depart 0 (some 3),
    .answer 0 (.ok (some [3])), .commit 0, .prepare 3,
    .depart 0 none, .answer 0 (.ok (some [])), .commit 0]

theorem blank_page_iff_astray :
    let s := (start threeRows 1 50).run id astray
    (Conduct.steady id).Allows id (start threeRows 1 50)
        astray ∧
      s.changes < 2 ^ 64 ∧
      s.history.map (fun r => r.window.pageRows) =
        [[1], [3], []] ∧
      ∀ before r after page, s.history = before ++ r :: after →
        r.deed = .operation (.move page none) →
        r.committed = true → r.window.rows ≠ [] →
          let w := Record.leftBy (.empty 1) before
          (r.window.pageRows = [] ↔
            w.Overshoots id s.source.rows page) := by
  intro s
  have hAllows :
      (Conduct.steady id).Allows id (start threeRows 1 50)
        astray := by
    decide
  have hChanges : s.changes < 2 ^ 64 := by decide
  have hPages :
      s.history.map (fun r => r.window.pageRows) =
        [[1], [3], []] := by
    decide
  exact
    ⟨hAllows, hChanges, hPages,
      blank_page_iff id threeRows 1 50 astray hAllows hChanges⟩

/-
  The last page of three rows is left blank, though the newest
  row is kept and the source answers truthfully.
-/
theorem page_left_blank :
    let s := (start threeRows 1 50).run id astray
    (Conduct.steady id).Allows id (start threeRows 1 50)
        astray ∧
      s.history.map Record.result =
        [.ok .committed, .ok .committed, .ok .committed] ∧
      (s.history.map Record.deed).getLast? =
        some (.operation (.move 3 none)) ∧
      s.buffer.window.rows = [3] ∧
      ¬(s.buffer.window.rows ≠ [] →
        s.buffer.window.pageRows ≠ []) := by
  decide +kernel

end Traffic

end LedgerView
