import LedgerView.Pager.Buffer

/-
  Operations on a window, from their beginning to their end.

  What an operation loads and how it changes the window is
  decided when it begins, by the window alone.  `Course` lists
  the seven possibilities, and every property of what windows
  become is proven over them.

  Key definitions include:
    * `Operation`
    * `Buffer.begin`
    * `Course`
    * `Buffer.perform`
    * `Deed`
    * `Buffer.execute`
    * `Buffer.executeAll`

  Key theorems include:
    * `Buffer.begin_eq_ok_iff`
    * `Buffer.commit_of_plan`
    * `Buffer.executeAll_append`
-/

namespace LedgerView

variable {ρ κ σ : Type}

------------------------------------------------------------
-- Beginning an Operation
------------------------------------------------------------

/- Something that loads and then changes the window. -/
inductive Operation (κ : Type) where
  | move (page : Nat) (anchor : Option κ)
  | refresh
deriving Repr, DecidableEq

/- Begin an operation, unless its page does not exist. -/
def Buffer.begin
    (key : ρ → κ)
    (b : Buffer ρ)
    (op : Operation κ) : Except PagerError (Flight ρ κ) :=
  match op with
  | .move page anchor =>
      match b.prepareMove key page with
      | .ok m => .ok (m.begin anchor)
      | .error e => .error (.nav e)
  | .refresh => .ok (b.beginRefresh key)

/- Where a page begins in the whole list; page 0 counts as page 1. -/
def pageOffset
    (page pageSize : Nat) : Nat :=
  (max page 1 - 1) * pageSize

/- A page all of whose rows can be counted. -/
def PageExists
    (page pageSize : Nat) : Prop :=
  pageOffset page pageSize + pageSize ≤ maxWord

instance
    (page pageSize : Nat) :
    Decidable (PageExists page pageSize) := by
  unfold PageExists
  infer_instance

/- An operation that can begin under a page size. -/
def Operation.Exists
    (op : Operation κ)
    (pageSize : Nat) : Prop :=
  match op with
  | .move page _ => PageExists page pageSize
  | .refresh => True

/-
  What an operation that begins on a window will load, and how
  the loaded rows will change the window.
-/
inductive Course
    (key : ρ → κ)
    (limit : Nat)
    (w : Window ρ) :
    Operation κ → Edit → Load ρ κ → Prop where
  | anchored
      (page : Nat)
      (anchor : κ)
      (hPage : PageExists page w.pageSize) :
      Course key limit w (.move page (some anchor))
        (.anchored (pageOffset page w.pageSize) w.pageSize)
        (.below (some anchor) w.pageSize true)
  | initial
      (page : Nat)
      (hPage : PageExists page w.pageSize)
      (hRows : w.rows = []) :
      Course key limit w (.move page none)
        (.initial (pageOffset page w.pageSize)
          (pageOffset page w.pageSize + w.pageSize))
        (.below none
          (pageOffset page w.pageSize + w.pageSize) false)
  | head
      (page : Nat)
      (row : ρ)
      (hPage : PageExists page w.pageSize)
      (hRow : w.rows.head? = some row)
      (hShadow : pageOffset page w.pageSize < w.shadow) :
      Course key limit w (.move page none)
        (.head (pageOffset page w.pageSize)
          (w.shadow - pageOffset page w.pageSize))
        (.above (key row)
          (w.shadow - pageOffset page w.pageSize))
  | tail
      (page : Nat)
      (row : ρ)
      (hPage : PageExists page w.pageSize)
      (hRow : w.rows.getLast? = some row)
      (hShadow : w.shadow ≤ pageOffset page w.pageSize)
      (hBeyond :
        w.shadow + w.rows.length <
          pageOffset page w.pageSize + w.pageSize)
      (hDrained : w.drained = false) :
      Course key limit w (.move page none)
        (.tail (pageOffset page w.pageSize)
          (pageOffset page w.pageSize + w.pageSize -
            (w.shadow + w.rows.length)))
        (.below (some (key row))
          (pageOffset page w.pageSize + w.pageSize -
            (w.shadow + w.rows.length)) false)
  | turn
      (page : Nat)
      (hPage : PageExists page w.pageSize)
      (hRows : w.rows ≠ [])
      (hShadow : w.shadow ≤ pageOffset page w.pageSize)
      (hWithin :
        pageOffset page w.pageSize + w.pageSize ≤
            w.shadow + w.rows.length ∨
          w.drained = true) :
      Course key limit w (.move page none)
        (.turn (pageOffset page w.pageSize)) .nothing
  | newest
      (hNoHead : w.rows = [] ∨ w.shadow ≠ 0) :
      Course key limit w .refresh (.newest w.pageSize)
        (.below none w.pageSize false)
  | join
      (row : ρ)
      (hRow : w.rows.head? = some row)
      (hShadow : w.shadow = 0) :
      Course key limit w .refresh .join
        (.newest limit (key row) limit)

------------------------------------------------------------
-- What an Operation Begins With
------------------------------------------------------------

namespace Buffer

variable {key : ρ → κ}

/- A page can be prepared exactly when it exists. -/
theorem prepareMove_of_exists
    (b : Buffer ρ)
    {page : Nat}
    (hPage : PageExists page b.window.pageSize) :
    b.prepareMove key page =
      .ok
        { plan := b.plan key
          page := max page 1
          start := pageOffset page b.window.pageSize
          stop :=
            pageOffset page b.window.pageSize +
              b.window.pageSize } := by
  have hBounds :
      pageBounds? (max page 1) b.window.pageSize =
        some (pageOffset page b.window.pageSize,
          pageOffset page b.window.pageSize +
            b.window.pageSize) :=
    if_pos hPage
  unfold prepareMove
  simp only [hBounds]

/- A page that does not exist is refused. -/
theorem prepareMove_of_not_exists
    (b : Buffer ρ)
    {page : Nat}
    (hPage : ¬ PageExists page b.window.pageSize) :
    b.prepareMove key page = .error (.ofPage (max page 1)) := by
  have hBounds :
      pageBounds? (max page 1) b.window.pageSize = none :=
    if_neg hPage
  unfold prepareMove
  simp only [hBounds]

/- Only a page that exists is prepared, and only in one way. -/
theorem eq_of_prepareMove
    {b : Buffer ρ}
    {page : Nat}
    {m : PreparedMove κ}
    (hPrepare : b.prepareMove key page = .ok m) :
    PageExists page b.window.pageSize ∧
      m =
        { plan := b.plan key
          page := max page 1
          start := pageOffset page b.window.pageSize
          stop :=
            pageOffset page b.window.pageSize +
              b.window.pageSize } := by
  by_cases hPage : PageExists page b.window.pageSize
  · rw [b.prepareMove_of_exists hPage] at hPrepare
    cases hPrepare
    exact ⟨hPage, rfl⟩
  · rw [b.prepareMove_of_not_exists hPage] at hPrepare
    cases hPrepare

/- A course tells what the operation begins with. -/
theorem begin_of_course
    {b : Buffer ρ}
    {op : Operation κ}
    {edit : Edit}
    {load : Load ρ κ}
    (hCourse : Course key b.maxLimit b.window op edit load) :
    b.begin key op = .ok ⟨b.plan key, edit, load⟩ := by
  cases hCourse with
  | anchored page anchor hPage =>
      simp only [Buffer.begin, b.prepareMove_of_exists hPage]
      rfl
  | initial page hPage hRows =>
      simp only [Buffer.begin, b.prepareMove_of_exists hPage]
      simp [PreparedMove.begin, plan, hRows]
  | head page row hPage hRow hShadow =>
      rcases List.head?_eq_some_iff.mp hRow with ⟨rest, hRows⟩
      simp only [Buffer.begin, b.prepareMove_of_exists hPage]
      simp [PreparedMove.begin, plan, hRows, hShadow,
        List.getLast?_cons]
  | tail page row hPage hRow hShadow hBeyond hDrained =>
      have hHead : ∃ first, b.window.rows.head? = some first := by
        cases hRows : b.window.rows with
        | nil => simp [hRows] at hRow
        | cons first rest => exact ⟨first, rfl⟩
      rcases hHead with ⟨first, hFirst⟩
      simp only [Buffer.begin, b.prepareMove_of_exists hPage]
      simp [PreparedMove.begin, plan, hFirst, hRow, hBeyond,
        hDrained, Nat.not_lt.mpr hShadow]
  | turn page hPage hRows hShadow hWithin =>
      rcases List.exists_cons_of_ne_nil hRows with
        ⟨first, rest, hCons⟩
      simp only [Buffer.begin, b.prepareMove_of_exists hPage]
      rcases hWithin with hLe | hDrained
      · have hNot :
            ¬ b.window.shadow + (rest.length + 1) <
              pageOffset page b.window.pageSize +
                b.window.pageSize := by
          rw [hCons, List.length_cons] at hLe
          omega
        simp [PreparedMove.begin, plan, hCons,
          List.getLast?_cons, Nat.not_lt.mpr hShadow, hNot]
      · simp [PreparedMove.begin, plan, hCons, hDrained,
          List.getLast?_cons, Nat.not_lt.mpr hShadow]
  | newest hNoHead =>
      simp only [Buffer.begin, beginRefresh, plan]
      rcases hNoHead with hRows | hShadow
      · simp [hRows]
      · cases hRows : b.window.rows with
        | nil => simp
        | cons first rest =>
            cases hCount : b.window.shadow with
            | zero => exact absurd hCount hShadow
            | succ n => simp
  | join row hRow hShadow =>
      simp [Buffer.begin, beginRefresh, plan, hRow, hShadow]

end Buffer

/- An operation has a course exactly when its page exists. -/
theorem exists_course
    (key : ρ → κ)
    (limit : Nat)
    (w : Window ρ)
    {op : Operation κ}
    (hOp : op.Exists w.pageSize) :
    ∃ edit load, Course key limit w op edit load := by
  cases op with
  | move page anchor =>
      have hPage : PageExists page w.pageSize := hOp
      cases anchor with
      | some anchor => exact ⟨_, _, .anchored page anchor hPage⟩
      | none =>
          by_cases hRows : w.rows = []
          · exact ⟨_, _, .initial page hPage hRows⟩
          by_cases hShadow :
              pageOffset page w.pageSize < w.shadow
          · have hRow : w.rows.head? = some (w.rows.head hRows) :=
              List.head?_eq_some_head hRows
            exact ⟨_, _, .head page _ hPage hRow hShadow⟩
          have hShadow := Nat.not_lt.mp hShadow
          by_cases hWithin :
              pageOffset page w.pageSize + w.pageSize ≤
                  w.shadow + w.rows.length ∨
                w.drained = true
          · exact
              ⟨_, _, .turn page hPage hRows hShadow hWithin⟩
          rcases not_or.mp hWithin with ⟨hBeyond, hDrained⟩
          have hRow :
              w.rows.getLast? = some (w.rows.getLast hRows) :=
            List.getLast?_eq_some_getLast hRows
          exact
            ⟨_, _, .tail page _ hPage hRow hShadow
              (Nat.not_le.mp hBeyond)
              (by simpa using hDrained)⟩
  | refresh =>
      by_cases hRows : w.rows = []
      · exact ⟨_, _, .newest (.inl hRows)⟩
      by_cases hShadow : w.shadow = 0
      · have hRow : w.rows.head? = some (w.rows.head hRows) :=
          List.head?_eq_some_head hRows
        exact ⟨_, _, .join _ hRow hShadow⟩
      · exact ⟨_, _, .newest (.inr hShadow)⟩

namespace Buffer

variable {key : ρ → κ}

/- An operation whose page does not exist does not begin. -/
theorem exists_of_begin
    {b : Buffer ρ}
    {op : Operation κ}
    {f : Flight ρ κ}
    (hBegin : b.begin key op = .ok f) :
    op.Exists b.window.pageSize := by
  cases op with
  | refresh => trivial
  | move page anchor =>
      by_cases hPage : PageExists page b.window.pageSize
      · exact hPage
      · rw [Buffer.begin,
          b.prepareMove_of_not_exists hPage] at hBegin
        cases hBegin

/- What an operation begins with, in full. -/
theorem begin_eq_ok_iff
    {b : Buffer ρ}
    {op : Operation κ}
    {f : Flight ρ κ} :
    b.begin key op = .ok f ↔
      f.plan = b.plan key ∧
        Course key b.maxLimit b.window op f.edit f.load := by
  constructor
  · intro hBegin
    rcases exists_course key b.maxLimit b.window
        (exists_of_begin hBegin) with
      ⟨edit, load, hCourse⟩
    rw [begin_of_course hCourse] at hBegin
    cases hBegin
    exact ⟨rfl, hCourse⟩
  · intro hFlight
    rcases hFlight with ⟨hPlan, hCourse⟩
    rw [begin_of_course hCourse, ← hPlan]

end Buffer

------------------------------------------------------------
-- Carrying Out Whole Operations
------------------------------------------------------------

namespace Buffer

variable [DecidableEq κ]

/- Carry out an operation while nothing else happens. -/
def perform
    (key : ρ → κ)
    (ask : σ → ListQuery κ → Reply ρ × σ)
    (b : Buffer ρ)
    (source : σ)
    (op : Operation κ) :
    (Buffer ρ × σ) × Except PagerError Outcome :=
  match b.begin key op with
  | .error e => ((b, source), .error e)
  | .ok f =>
      match b.fly key ask source f with
      | (.error e, source) => ((b, source), .error (.source e))
      | (.ok f, source) =>
          let (b, outcome) := b.commit key f
          ((b, source), .ok outcome)

variable {key : ρ → κ}
variable {ask : σ → ListQuery κ → Reply ρ × σ}

/- What is current is committed, -/
theorem commit_of_isCurrent
    {b : Buffer ρ}
    {f : Flight ρ κ}
    (hCurrent : b.isCurrent f.plan = true) :
    b.commit key f =
      (b.publish (f.edit.apply key f.load.rows b.window),
        .committed) :=
  if_pos hCurrent

/- and nothing else. -/
theorem isCurrent_of_committed
    {b : Buffer ρ}
    {f : Flight ρ κ}
    (hCommitted : (b.commit key f).2 = .committed) :
    b.isCurrent f.plan = true := by
  unfold commit at hCommitted
  split at hCommitted
  · next hCurrent => exact hCurrent
  · cases hCommitted

/- Nothing happened to a window since it was planned for. -/
theorem commit_of_plan
    {b : Buffer ρ}
    {f : Flight ρ κ}
    (hPlan : f.plan = b.plan key) :
    b.commit key f =
      (b.publish (f.edit.apply key f.load.rows b.window),
        .committed) := by
  refine commit_of_isCurrent ?_
  rw [hPlan]
  simp [isCurrent, plan, Guard.isCurrent, Guard.ticket]

/-
  An operation whose loads succeed is committed when nothing
  else happens meanwhile.
-/
theorem perform_of_run
    {b : Buffer ρ}
    {source source' : σ}
    {op : Operation κ}
    {edit : Edit}
    {load load' : Load ρ κ}
    (hCourse : Course key b.maxLimit b.window op edit load)
    (hRun :
      load.run key b.maxLimit b.maxLimit_pos ask source =
        (.ok load', source')) :
    b.perform key ask source op =
      ((b.publish (edit.apply key load'.rows b.window),
        source'), .ok .committed) := by
  have hFly :
      b.fly key ask source ⟨b.plan key, edit, load⟩ =
        (.ok ⟨b.plan key, edit, load'⟩, source') := by
    unfold fly
    rw [hRun]
  have hCommit :=
    commit_of_plan (b := b) (f := ⟨b.plan key, edit, load'⟩) rfl
  unfold perform
  rw [begin_of_course hCourse]
  simp only [hFly, hCommit]

end Buffer

------------------------------------------------------------
-- Whatever Changes a Window
------------------------------------------------------------

/- Something done to a window. -/
inductive Deed (κ : Type) where
  | operation (op : Operation κ)
  | clear
  | setPageSize (pageSize : Nat)
deriving Repr, DecidableEq

/- How something done ended, and the window that it left. -/
structure Record (ρ κ : Type) where
  deed : Deed κ
  result : Except PagerError Outcome
  window : Window ρ

/- Whether what was done changed the window. -/
def Record.committed
    (r : Record ρ κ) : Bool :=
  match r.result with
  | .ok .committed => true
  | _ => false

namespace Buffer

variable [DecidableEq κ]
variable {key : ρ → κ}
variable {ask : σ → ListQuery κ → Reply ρ × σ}

/- Do something while nothing else happens. -/
def execute
    (key : ρ → κ)
    (ask : σ → ListQuery κ → Reply ρ × σ)
    (state : Buffer ρ × σ)
    (deed : Deed κ) :
    (Buffer ρ × σ) × Except PagerError Outcome :=
  match deed with
  | .operation op => state.1.perform key ask state.2 op
  | .clear => ((state.1.clear, state.2), .ok .committed)
  | .setPageSize pageSize =>
      ((state.1.setPageSize pageSize, state.2), .ok .committed)

/- Do one thing after the other, and record it. -/
def executeAll
    (key : ρ → κ)
    (ask : σ → ListQuery κ → Reply ρ × σ)
    (state : Buffer ρ × σ) :
    List (Deed κ) → (Buffer ρ × σ) × List (Record ρ κ)
  | [] => (state, [])
  | deed :: rest =>
      let (state, result) := execute key ask state deed
      let (last, records) := executeAll key ask state rest
      (last, ⟨deed, result, state.1.window⟩ :: records)

/- What is done in two parts is recorded in two parts. -/
theorem executeAll_append
    (state : Buffer ρ × σ)
    (before after : List (Deed κ)) :
    executeAll key ask state (before ++ after) =
      let (middle, earlier) := executeAll key ask state before
      let (last, later) := executeAll key ask middle after
      (last, earlier ++ later) := by
  induction before generalizing state with
  | nil => rfl
  | cons deed rest ih =>
      simp only [List.cons_append, executeAll, ih]

/- What is done last is recorded last. -/
theorem executeAll_concat
    {state middle last : Buffer ρ × σ}
    {deeds : List (Deed κ)}
    {deed : Deed κ}
    {records : List (Record ρ κ)}
    {result : Except PagerError Outcome}
    (hBefore : executeAll key ask state deeds = (middle, records))
    (hLast : execute key ask middle deed = (last, result)) :
    executeAll key ask state (deeds ++ [deed]) =
      (last, records ++ [⟨deed, result, last.1.window⟩]) := by
  rw [executeAll_append, hBefore]
  simp only [executeAll, hLast]

end Buffer

end LedgerView
