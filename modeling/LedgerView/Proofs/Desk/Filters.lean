import LedgerView.Proofs.Desk.Traffic

/-
  What becomes of the changes of the filter that are typed.

  The viewer keeps a copy of the common filter.  A change that
  is typed is carried out on the copy, and the worker is told
  the whole copy, if that changed.  So the worker ends up with
  what was typed as long as the copy is what the worker is going
  to have whenever a change is typed.  The copy starts empty,
  and it takes over what pages report.  So it is not right as
  long as the viewer does not know what the link recorded, and
  it goes wrong by a page that was sent before the worker had
  done the latest change.

  Key definitions include:
    * `Desk.due`
    * `Desk.asked`
    * `Desk.Informed`
    * `Desk.AllOnTime`

  Key theorems include:
    * `Desk.due_run`
    * `Desk.informed_of_onTime`
    * `Desk.filter_as_asked`
-/

namespace LedgerView

namespace Desk

------------------------------------------------------------
-- What the Worker Is Going to Have
------------------------------------------------------------

/- The common filter when all that was asked is done. -/
def due
    (d : Desk) : Filter :=
  d.outstanding.foldl Command.filterAfter d.worker.space.filter

/- The changes that are typed in the course of a run. -/
def asked
    (d : Desk) : List Happening → List FilterChange
  | [] => []
  | h :: rest => (d.change? h).toList ++ (d.step h).asked rest

/-
  Whether the viewer's copy of the filter is right whenever a
  change is typed.
-/
def Informed
    (d : Desk) : List Happening → Prop
  | [] => True
  | h :: rest =>
      (d.change? h ≠ none → d.viewer.filter = d.due) ∧
        (d.step h).Informed rest

variable {d d' : Desk} {h : Happening}

/- What a key asks for decides which filter is due. -/
theorem due_of_reacts
    {v v' : Viewer}
    {change : Option FilterChange}
    {queue : List Command}
    {filter due : Filter}
    (hReacts : v.Reacts change v')
    (hDue :
      (queue ++ v.outbox).foldl Command.filterAfter filter = due)
    (hInformed : change ≠ none → v.filter = due) :
    (queue ++ v'.outbox).foldl Command.filterAfter filter =
      change.toList.foldl FilterChange.apply due := by
  cases hReacts with
  | aside _ _ _ hOutbox =>
      rw [hOutbox]
      exact hDue
  | @asks _ command hPlain _ _ _ hOutbox =>
      rw [hOutbox, ← List.append_assoc, List.foldl_append, hDue]
      cases command with
      | setFilter other => exact absurd hPlain id
      | _ => rfl
  | switches _ _ _ hOutbox =>
      rw [hOutbox, ← List.append_assoc, List.foldl_append, hDue]
      rfl
  | @suppresses _ change hSame _ _ _ hOutbox =>
      rw [hOutbox, hDue, ← hInformed nofun]
      exact hSame.symm
  | @filters _ change _ _ _ hOutbox =>
      rw [hOutbox, ← List.append_assoc, List.foldl_append, hDue,
        ← hInformed nofun]
      rfl

/- The filter that is due changes as it is typed. -/
theorem due_stride
    (hStride : Stride d h d')
    (hInformed : d.change? h ≠ none → d.viewer.filter = d.due) :
    d'.due =
      (d.change? h).toList.foldl FilterChange.apply d.due := by
  cases hStride with
  | idle hChange hWorker hViewer =>
      rw [hChange]
      unfold due outstanding
      rw [hWorker.queue, hWorker.filter, hViewer.outbox]
      rfl
  | presses hReacts => exact due_of_reacts hReacts rfl hInformed
  | sends hOutbox =>
      unfold due outstanding
      rw [hOutbox, List.append_assoc]
      rfl
  | receives hEvents =>
      unfold due outstanding
      rw [outbox_receive]
      rfl
  | handles hQueue _ hFilter _ _ =>
      unfold due outstanding
      rw [hQueue, hFilter]
      rfl
  | keepsBack hWorker _ =>
      unfold due outstanding
      rw [hWorker.queue, hWorker.filter]
      rfl
  | publishes _ hFilter hQueue _ _ =>
      unfold due outstanding
      rw [hQueue, hFilter]
      rfl

/- In a run, too. -/
theorem due_run
    (hWorking : d.Working)
    {happenings : List Happening}
    (hInformed : d.Informed happenings) :
    (d.run happenings).due =
      (d.asked happenings).foldl FilterChange.apply d.due := by
  induction happenings generalizing d with
  | nil => rfl
  | cons h rest ih =>
      rcases hInformed with ⟨hHead, hRest⟩
      have hStep := due_stride (stride_step hWorking h) hHead
      unfold asked
      rw [List.foldl_append, ← hStep]
      exact ih (working_step hWorking h) hRest

------------------------------------------------------------
-- What the Viewer Knows
------------------------------------------------------------

/- The page that is received next, if it is told next. -/
def nextPage?
    (d : Desk) : Option Snapshot :=
  d.worker.events.head?.bind Event.page?

/-
  Whether a page that is taken over reports what the worker is
  going to have, of what its table reads of the filter.
-/
def OnTime
    (d : Desk) : Happening → Prop
  | .receive =>
      ∀ page ∈ d.nextPage?,
        page.table = d.viewer.table →
          page.filter = d.due.restrictTo page.table
  | _ => True

/- Whether all pages that are taken over do. -/
def AllOnTime
    (d : Desk) : List Happening → Prop
  | [] => True
  | h :: rest => d.OnTime h ∧ (d.step h).AllOnTime rest

instance decidableOnTime
    (d : Desk) :
    (h : Happening) → Decidable (d.OnTime h)
  | .receive =>
      inferInstanceAs (Decidable (∀ page ∈ d.nextPage?,
        page.table = d.viewer.table →
          page.filter = d.due.restrictTo page.table))
  | .press _ _ | .age _ | .send | .handle | .publish
  | .background | .tick _ | .grow => .isTrue trivial

instance decidableAllOnTime :
    (d : Desk) → (happenings : List Happening) →
      Decidable (d.AllOnTime happenings)
  | _, [] => .isTrue trivial
  | d, h :: rest =>
      have := decidableAllOnTime (d.step h) rest
      inferInstanceAs
        (Decidable (d.OnTime h ∧ (d.step h).AllOnTime rest))

/- A key carries out its change on the copy. -/
theorem filter_of_reacts
    {v v' : Viewer}
    {change : Option FilterChange}
    (hReacts : v.Reacts change v') :
    v'.filter =
      change.toList.foldl FilterChange.apply v.filter := by
  cases hReacts with
  | aside _ _ hFilter _ => exact hFilter
  | asks _ _ _ hFilter _ => exact hFilter
  | switches _ _ hFilter _ => exact hFilter
  | suppresses hSame _ _ hFilter _ =>
      exact hFilter.trans hSame.symm
  | filters _ _ hFilter _ => exact hFilter

/- A page that reports what is known changes nothing. -/
theorem filter_receive
    {v : Viewer}
    {page : Snapshot}
    (hReport : page.table = v.table →
      page.filter = v.filter.restrictTo page.table) :
    (v.receive (.page page)).filter = v.filter := by
  unfold Viewer.receive
  dsimp only
  split
  · next hTable =>
      rw [hReport hTable]
      exact Filter.adopt_restrictTo v.filter page.table
  · rfl

/- The copy stays right if pages are on time. -/
theorem filter_stride
    (hStride : Stride d h d')
    (hKnown : d.viewer.filter = d.due)
    (hOnTime : d.OnTime h) :
    d'.viewer.filter = d'.due := by
  rw [due_stride hStride fun _ => hKnown, ← hKnown]
  cases hStride with
  | idle hChange _ hViewer =>
      rw [hChange]
      exact hViewer.filter
  | presses hReacts => exact filter_of_reacts hReacts
  | sends _ => rfl
  | receives hEvents =>
      have hReport := hOnTime _ (by
        unfold nextPage?
        rw [hEvents]
        rfl)
      rw [← hKnown] at hReport
      exact filter_receive hReport
  | handles _ _ _ _ _ => rfl
  | keepsBack _ _ => rfl
  | publishes _ _ _ _ _ => rfl

/- So changes are typed when the copy is right. -/
theorem informed_of_onTime
    (hWorking : d.Working)
    {happenings : List Happening}
    (hKnown : d.viewer.filter = d.due)
    (hOnTime : d.AllOnTime happenings) :
    d.Informed happenings := by
  induction happenings generalizing d with
  | nil => trivial
  | cons h rest ih =>
      rcases hOnTime with ⟨hHead, hRest⟩
      have hStep :=
        filter_stride (stride_step hWorking h) hKnown hHead
      exact ⟨fun _ => hKnown,
        ih (working_step hWorking h) hStep hRest⟩

/- It need not be right before a change is typed. -/
theorem informed_append
    {early late : List Happening}
    (hSilent : d.asked early = [])
    (hLate : (d.run early).Informed late) :
    d.Informed (early ++ late) := by
  induction early generalizing d with
  | nil => exact hLate
  | cons h rest ih =>
      unfold asked at hSilent
      rw [List.append_eq_nil_iff, Option.toList_eq_nil_iff]
        at hSilent
      exact ⟨fun hChange => absurd hSilent.1 hChange,
        ih hSilent.2 hLate⟩

/-
  When all that was asked is done, the common filter is what the
  link recorded, changed as it was typed, if the viewer's copy
  of the filter was right whenever a change was typed.  It was
  if it was right at some time before the first change, and
  every page taken over since reported what was due.
-/
theorem filter_as_asked
    (settings : Settings)
    (sourceLabel : String)
    (happenings : List Happening)
    (hDone :
      ((opening settings sourceLabel).run
        happenings).outstanding = []) :
    let start := opening settings sourceLabel
    (start.Informed happenings →
      (start.run happenings).worker.space.filter =
        (start.asked happenings).foldl FilterChange.apply
          start.worker.space.filter) ∧
    ∀ early late : List Happening,
      happenings = early ++ late →
        start.asked early = [] →
          (start.run early).viewer.filter =
            (start.run early).due →
          (start.run early).AllOnTime late →
            start.Informed happenings := by
  intro start
  have hWorking : start.Working :=
    working_opening settings sourceLabel
  constructor
  · intro hInformed
    have hDue := due_run hWorking hInformed
    unfold due at hDue
    rw [hDone] at hDue
    exact hDue
  · intro early late hSplit hSilent hKnown hOnTime
    rw [hSplit]
    exact informed_append hSilent
      (informed_of_onTime (working_run hWorking early) hKnown
        hOnTime)

------------------------------------------------------------
-- Recorded Filters
------------------------------------------------------------

/- A link to a table that records a token. -/
def recordsToken
    (table : String) : Settings :=
  { emptyLedger with
    link :=
      some ⟨table,
        Params.empty.insert Filter.tokenName "0.0.5006"⟩ }

/- A change of the account is typed, and the worker is told. -/
def typesAccount : List Happening :=
  ":acct 98".toList.map (fun c => pressKey (.char c)) ++
    [pressKey .enter, .send, .handle]

/- An account is added to the token that a page has reported. -/
theorem filter_as_asked_reported :
    let start := opening (recordsToken "holders") "demo"
    let d := start.run ([.publish, .receive] ++ typesAccount)
    (d.outstanding = [] ∧
      start.asked [.publish, .receive] = [] ∧
      (start.run [.publish, .receive]).viewer.filter =
        (start.run [.publish, .receive]).due ∧
      (start.run [.publish, .receive]).AllOnTime typesAccount) ∧
    start.asked ([.publish, .receive] ++ typesAccount) =
        [.account ⟨0, 0, 98⟩] ∧
      d.worker.space.filter =
        (start.asked
          ([.publish, .receive] ++ typesAccount)).foldl
            FilterChange.apply start.worker.space.filter := by
  -- the names are spelled out lest the run be computed again
  dsimp only
  have hFacts :
      (((opening (recordsToken "holders") "demo").run
          ([.publish, .receive] ++ typesAccount)).outstanding =
            [] ∧
        (opening (recordsToken "holders") "demo").asked
            [.publish, .receive] = [] ∧
        ((opening (recordsToken "holders") "demo").run
            [.publish, .receive]).viewer.filter =
          ((opening (recordsToken "holders") "demo").run
            [.publish, .receive]).due ∧
        ((opening (recordsToken "holders") "demo").run
            [.publish, .receive]).AllOnTime typesAccount) ∧
      (opening (recordsToken "holders") "demo").asked
          ([.publish, .receive] ++ typesAccount) =
        [.account ⟨0, 0, 98⟩] := by
    decide +kernel
  rcases hFacts with
    ⟨⟨hDone, hSilent, hKnown, hOnTime⟩, hAsked⟩
  rcases filter_as_asked (recordsToken "holders") "demo" _
    hDone with ⟨hFilter, hInformed⟩
  have hRight :=
    hInformed _ typesAccount rfl hSilent hKnown hOnTime
  exact ⟨⟨hDone, hSilent, hKnown, hOnTime⟩, hAsked,
    hFilter hRight⟩

/-
  A list that does not read the token does not report it either.
  The viewer does not know of it, and so it is lost.
-/
theorem token_lost_by_account :
    let start := opening (recordsToken "accounts") "demo"
    let d := start.run ([.publish, .receive] ++ typesAccount)
    d.outstanding = [] ∧
      start.worker.space.filter = ⟨none, some ⟨0, 0, 5006⟩⟩ ∧
      start.asked ([.publish, .receive] ++ typesAccount) =
        [.account ⟨0, 0, 98⟩] ∧
      d.worker.space.filter = ⟨some ⟨0, 0, 98⟩, none⟩ := by
  dsimp only
  decide +kernel

end Desk

end LedgerView
