import Mathlib.Data.List.Induction
import LedgerView.Proofs.Desk.Traffic

/-
  What a viewer shows when nothing is under way.

  The viewer shows another table as soon as it is chosen, and
  waits for a page of it.  All the while it is on the table at
  which the worker will be when it has done what was asked.  The
  worker sends what it shows only if that is not what it sent
  last.  So when nothing is under way and what the worker shows
  was sent, the viewer shows just that, with one exception: if
  the worker has left a table and come back without sending a
  page in between, it has nothing new to send, and the viewer,
  which has dropped its page, shows none.

  Key definitions include:
    * `Desk.destination`
    * `Desk.upcoming`
    * `Desk.Agrees`
    * `Desk.Returned`
    * `Desk.AtRest`

  Key theorems include:
    * `Desk.agrees_run`
    * `Desk.returned_of_forgotten`
    * `Desk.page_at_rest`
-/

namespace LedgerView

namespace Desk

------------------------------------------------------------
-- Where the Worker Is Going
------------------------------------------------------------

/- The table in use when all that was asked is done. -/
def destination
    (d : Desk) : TableKind :=
  d.outstanding.foldl Command.tableAfter d.worker.space.active

/- Whether the worker still has to go to another table. -/
def Switching
    (d : Desk) : Prop :=
  ∃ table, Command.switchTable table ∈ d.outstanding

/- Only switches lead to another table. -/
theorem foldl_tableAfter_of_not_mem
    {commands : List Command}
    (hNone : ∀ table, Command.switchTable table ∉ commands)
    (table : TableKind) :
    commands.foldl Command.tableAfter table = table := by
  induction commands generalizing table with
  | nil => rfl
  | cons command rest ih =>
      have hHead :
          Command.tableAfter table command = table := by
        cases command with
        | switchTable other =>
            exact absurd List.mem_cons_self (hNone other)
        | _ => rfl
      rw [List.foldl_cons, hHead]
      exact ih (fun other hMem =>
        hNone other (List.mem_cons_of_mem _ hMem)) table

/- A key leads the worker to where it leads the viewer. -/
theorem foldl_tableAfter_of_reacts
    {v v' : Viewer}
    {change : Option FilterChange}
    {queue : List Command}
    {table : TableKind}
    (hReacts : v.Reacts change v')
    (hHeaded :
      (queue ++ v.outbox).foldl Command.tableAfter table =
        v.table) :
    (queue ++ v'.outbox).foldl Command.tableAfter table =
      v'.table := by
  cases hReacts with
  | aside hTable _ _ hOutbox =>
      rw [hOutbox, hTable]
      exact hHeaded
  | @asks _ command hPlain hTable _ _ hOutbox =>
      rw [hOutbox, ← List.append_assoc, List.foldl_append,
        hHeaded, hTable]
      cases command with
      | switchTable other => exact absurd hPlain id
      | _ => rfl
  | switches _ _ _ hOutbox =>
      rw [hOutbox, ← List.append_assoc, List.foldl_append]
      rfl
  | suppresses _ hTable _ _ hOutbox =>
      rw [hOutbox, hTable]
      exact hHeaded
  | filters hTable _ _ hOutbox =>
      rw [hOutbox, ← List.append_assoc, List.foldl_append,
        hHeaded, hTable]
      rfl

------------------------------------------------------------
-- What the Viewer Is Going to Show
------------------------------------------------------------

/- What is shown of a table after a page was told. -/
def hears
    (table : TableKind)
    (shown : Option Snapshot)
    (page : Snapshot) : Option Snapshot :=
  if page.table = table then some page else shown

/- What the viewer shows when it has received all pages. -/
def upcoming
    (d : Desk) : Option Snapshot :=
  d.worker.pages.foldl (hears d.viewer.table) d.viewer.page

/- A page of the table is shown once it is told. -/
theorem foldl_hears_concat
    (table : TableKind)
    (shown : Option Snapshot)
    (pages : List Snapshot)
    {page : Snapshot}
    (hTable : page.table = table) :
    (pages ++ [page]).foldl (hears table) shown =
      some page := by
  rw [List.foldl_append]
  exact if_pos hTable

/- A page is shown or passed over. -/
theorem receive_page
    (v : Viewer)
    (page : Snapshot) :
    (v.receive (.page page)).table = v.table ∧
      (v.receive (.page page)).page =
        hears v.table v.page page := by
  unfold Viewer.receive hears
  dsimp only
  split <;> exact ⟨rfl, rfl⟩

/- The first page is told before the others. -/
theorem pages_of_events
    {w : Worker}
    {page : Snapshot}
    {rest : List Event}
    (hEvents : w.events = .page page :: rest) :
    w.pages = page :: { w with events := rest }.pages := by
  unfold Worker.pages
  rw [hEvents]
  rfl

/- To receive a page does not change what is coming. -/
theorem upcoming_receive
    {d : Desk}
    {page : Snapshot}
    {rest : List Event}
    (hEvents : d.worker.events = .page page :: rest) :
    upcoming
        { worker := { d.worker with events := rest }
          viewer := d.viewer.receive (.page page) } =
      d.upcoming := by
  rcases receive_page d.viewer page with ⟨hTable, hPage⟩
  unfold upcoming
  dsimp only
  rw [hTable, hPage, pages_of_events hEvents]
  rfl

------------------------------------------------------------
-- Agreement
------------------------------------------------------------

/-
  What viewer and worker agree on at any time: where to go, and
  what was sent last, of which the viewer will know if it is of
  its table, unless it is going to show nothing.
-/
structure Agrees
    (d : Desk) : Prop where
  headed : d.destination = d.viewer.table
  newest : ∀ {before : List Snapshot} {page : Snapshot},
    d.worker.pages = before ++ [page] →
      d.worker.lastSent = some page
  latest : ∀ {page : Snapshot},
    d.worker.lastSent = some page →
      page.table = d.viewer.table →
        d.upcoming = none ∨ d.upcoming = some page

variable {d d' : Desk} {h : Happening}

/- If the same is told and shown, the same is coming. -/
theorem upcoming_of_same
    (hPages : d'.worker.pages = d.worker.pages)
    (hTable : d'.viewer.table = d.viewer.table)
    (hPage : d'.viewer.page = d.viewer.page) :
    d'.upcoming = d.upcoming := by
  unfold upcoming
  rw [hPages, hTable, hPage]

/- Agreement is about what is told, asked, sent and shown. -/
theorem Agrees.of_same
    (hAgrees : d.Agrees)
    (hHeaded : d'.destination = d'.viewer.table)
    (hPages : d'.worker.pages = d.worker.pages)
    (hLast : d'.worker.lastSent = d.worker.lastSent)
    (hTable : d'.viewer.table = d.viewer.table)
    (hPage : d'.viewer.page = d.viewer.page) :
    d'.Agrees where
  headed := hHeaded
  newest := by
    rw [hPages, hLast]
    exact hAgrees.newest
  latest := by
    rw [hLast, hTable, upcoming_of_same hPages hTable hPage]
    exact hAgrees.latest

/- They agree after a key. -/
theorem Agrees.press
    (hAgrees : d.Agrees)
    {change : Option FilterChange}
    {v : Viewer}
    (hReacts : d.viewer.Reacts change v) :
    Agrees { d with viewer := v } := by
  have hHeaded :
      destination { d with viewer := v } = v.table :=
    foldl_tableAfter_of_reacts hReacts hAgrees.headed
  cases hReacts with
  | aside hTable hPage _ _ =>
      exact hAgrees.of_same hHeaded rfl rfl hTable hPage
  | asks _ hTable hPage _ _ =>
      exact hAgrees.of_same hHeaded rfl rfl hTable hPage
  | suppresses _ hTable hPage _ _ =>
      exact hAgrees.of_same hHeaded rfl rfl hTable hPage
  | filters hTable hPage _ _ =>
      exact hAgrees.of_same hHeaded rfl rfl hTable hPage
  | switches _ hPage _ _ =>
      refine ⟨hHeaded, hAgrees.newest, ?_⟩
      -- The page was dropped.  Of those that are coming, the
      -- last one is what was sent last.
      intro page hLast hTable
      unfold upcoming
      dsimp only
      rw [hPage]
      rcases List.eq_nil_or_concat d.worker.pages with
        hNone | ⟨before, last, hPages⟩
      · left
        rw [hNone]
        rfl
      · right
        rw [List.concat_eq_append] at hPages
        have hSent := hAgrees.newest hPages
        rw [Option.some.inj (hLast.symm.trans hSent)] at hTable ⊢
        rw [hPages]
        exact foldl_hears_concat _ _ _ hTable

/- They agree after whatever happens. -/
theorem Agrees.stride
    (hAgrees : d.Agrees)
    (hStride : Stride d h d') :
    d'.Agrees := by
  cases hStride with
  | idle _ hWorker hViewer =>
      refine hAgrees.of_same ?_ hWorker.pages hWorker.lastSent
        hViewer.table hViewer.page
      unfold destination outstanding
      rw [hWorker.queue, hWorker.active, hViewer.outbox,
        hViewer.table]
      exact hAgrees.headed
  | presses hReacts => exact hAgrees.press hReacts
  | sends hOutbox =>
      refine hAgrees.of_same ?_ rfl rfl rfl rfl
      have hHeaded := hAgrees.headed
      unfold destination outstanding at hHeaded ⊢
      rw [hOutbox] at hHeaded
      rw [List.append_assoc]
      exact hHeaded
  | @receives page rest hEvents =>
      have hTable := (receive_page d.viewer page).1
      refine ⟨?_, ?_, ?_⟩
      · have hHeaded := hAgrees.headed
        unfold destination outstanding at hHeaded ⊢
        rw [outbox_receive, hTable]
        exact hHeaded
      · intro before last hPages
        have hAll :
            d.worker.pages = (page :: before) ++ [last] := by
          rw [pages_of_events hEvents, hPages,
            List.cons_append]
        exact hAgrees.newest hAll
      · rw [upcoming_receive hEvents, hTable]
        exact hAgrees.latest
  | handles hQueue hActive _ hLast hPages =>
      refine hAgrees.of_same ?_ hPages hLast rfl rfl
      have hHeaded := hAgrees.headed
      unfold destination outstanding at hHeaded ⊢
      rw [hQueue] at hHeaded
      rw [hActive]
      exact hHeaded
  | keepsBack hWorker _ =>
      refine hAgrees.of_same ?_ hWorker.pages hWorker.lastSent
        rfl rfl
      unfold destination outstanding
      rw [hWorker.queue, hWorker.active]
      exact hAgrees.headed
  | @publishes w hActive _ hQueue hLast hPages =>
      refine ⟨?_, ?_, ?_⟩
      · unfold destination outstanding
        rw [hQueue, hActive]
        exact hAgrees.headed
      · intro before page hEnds
        have hSame :=
          List.append_inj_right' (hPages.symm.trans hEnds) rfl
        rw [hLast, List.singleton_inj.mp hSame]
      · intro page hSent hTable
        right
        rw [Option.some.inj (hLast.symm.trans hSent)] at hPages
        unfold upcoming
        rw [hPages]
        exact foldl_hears_concat _ _ _ hTable

------------------------------------------------------------
-- Coming Back
------------------------------------------------------------

/-
  Whether the worker is about to go to the table of which it
  sent a page last.
-/
def Returns
    (d : Desk)
    (page : Snapshot) : Prop :=
  d.worker.lastSent = some page ∧
    ∃ rest, d.worker.queue = .switchTable page.table :: rest

/- Whether the worker went to the table of a page sent last. -/
def Returned
    (d : Desk)
    (happenings : List Happening)
    (page : Snapshot) : Prop :=
  ∃ earlier later, happenings = earlier ++ .handle :: later ∧
    Returns (d.run earlier) page

/- What happened stays so. -/
theorem Returned.concat
    {happenings : List Happening}
    {page : Snapshot}
    (hReturned : d.Returned happenings page)
    (h : Happening) :
    d.Returned (happenings ++ [h]) page := by
  rcases hReturned with ⟨earlier, later, hSplit, hReturns⟩
  refine ⟨earlier, later ++ [h], ?_, hReturns⟩
  rw [hSplit, List.append_assoc, List.cons_append]

/-
  Whether the page sent last is of the viewer's table, and yet
  the viewer is going to show nothing.
-/
structure Forgotten
    (d : Desk)
    (page : Snapshot) : Prop where
  sent : d.worker.lastSent = some page
  own : page.table = d.viewer.table
  missing : d.upcoming = none

/- Being forgotten is about what is told, sent and shown. -/
theorem Forgotten.of_same
    {page : Snapshot}
    (hForgotten : d'.Forgotten page)
    (hPages : d'.worker.pages = d.worker.pages)
    (hLast : d'.worker.lastSent = d.worker.lastSent)
    (hTable : d'.viewer.table = d.viewer.table)
    (hPage : d'.viewer.page = d.viewer.page) :
    d.Forgotten page :=
  ⟨hLast.symm.trans hForgotten.sent,
    hForgotten.own.trans hTable,
    (upcoming_of_same hPages hTable hPage).symm.trans
      hForgotten.missing⟩

/- A page is forgotten by a key that shows another table. -/
theorem forgotten_press
    {change : Option FilterChange}
    {v : Viewer}
    {page : Snapshot}
    (hReacts : d.viewer.Reacts change v)
    (hForgotten : Forgotten { d with viewer := v } page) :
    Switching { d with viewer := v } ∨
      d.Forgotten page ∧
        (d.Switching → Switching { d with viewer := v }) := by
  have hKept : d.Switching → Switching { d with viewer := v } := by
    rintro ⟨table, hMem⟩
    rcases outbox_of_reacts hReacts with ⟨news, hNews, -⟩
    refine ⟨table, ?_⟩
    unfold outstanding at hMem ⊢
    dsimp only
    rw [hNews, ← List.append_assoc]
    exact List.mem_append_left _ hMem
  cases hReacts with
  | aside hTable hPage _ _ =>
      exact .inr ⟨hForgotten.of_same rfl rfl hTable hPage, hKept⟩
  | asks _ hTable hPage _ _ =>
      exact .inr ⟨hForgotten.of_same rfl rfl hTable hPage, hKept⟩
  | suppresses _ hTable hPage _ _ =>
      exact .inr ⟨hForgotten.of_same rfl rfl hTable hPage, hKept⟩
  | filters hTable hPage _ _ =>
      exact .inr ⟨hForgotten.of_same rfl rfl hTable hPage, hKept⟩
  | switches _ _ _ hOutbox =>
      refine .inl ⟨v.table, List.mem_append_right _ ?_⟩
      rw [hOutbox]
      exact List.mem_append_right _ List.mem_cons_self

/-
  A page that is forgotten was so before, unless the viewer has
  just gone to its table; and the worker has still to go there,
  unless it is just coming back.
-/
theorem forgotten_stride
    {page : Snapshot}
    (hAgrees : d.Agrees)
    (hStride : Stride d h d')
    (hForgotten : d'.Forgotten page) :
    d'.Switching ∨
      d.Forgotten page ∧
        (d.Switching →
          d'.Switching ∨ h = .handle ∧ d.Returns page) := by
  have hSame (hOutstanding : d'.outstanding = d.outstanding) :
      d.Switching →
        d'.Switching ∨ h = .handle ∧ d.Returns page := by
    rintro ⟨table, hMem⟩
    exact .inl ⟨table, hOutstanding ▸ hMem⟩
  cases hStride with
  | idle _ hWorker hViewer =>
      refine .inr ⟨hForgotten.of_same hWorker.pages
        hWorker.lastSent hViewer.table hViewer.page, hSame ?_⟩
      unfold outstanding
      rw [hWorker.queue, hViewer.outbox]
  | presses hReacts =>
      rcases forgotten_press hReacts hForgotten with
        hSwitching | ⟨hBefore, hKept⟩
      · exact .inl hSwitching
      · exact .inr ⟨hBefore, fun hGoes => .inl (hKept hGoes)⟩
  | sends hOutbox =>
      refine .inr ⟨hForgotten.of_same rfl rfl rfl rfl, hSame ?_⟩
      unfold outstanding
      rw [hOutbox, List.append_assoc]
      rfl
  | @receives told rest hEvents =>
      have hTable := (receive_page d.viewer told).1
      refine .inr ⟨⟨hForgotten.sent,
        hForgotten.own.trans hTable, ?_⟩, hSame ?_⟩
      · exact (upcoming_receive hEvents).symm.trans
          hForgotten.missing
      · unfold outstanding
        rw [outbox_receive]
  | @handles command w hQueue hActive _ hLast hPages =>
      have hBefore : d.Forgotten page :=
        hForgotten.of_same hPages hLast rfl rfl
      refine .inr ⟨hBefore, ?_⟩
      intro hSwitching
      by_cases hStill : Switching { d with worker := w }
      · exact .inl hStill
      · -- Nothing else leads away, so the command that was done
        -- led to the viewer's table.
        right
        refine ⟨rfl, hBefore.sent, w.queue, ?_⟩
        rcases hSwitching with ⟨table, hMem⟩
        have hNone : ∀ table, Command.switchTable table ∉
            w.queue ++ d.viewer.outbox :=
          fun table hMem => hStill ⟨table, hMem⟩
        have hHeaded := hAgrees.headed
        unfold destination outstanding at hHeaded
        unfold outstanding at hMem
        rw [hQueue, List.cons_append] at hHeaded hMem
        rcases List.mem_cons.mp hMem with hCommand | hRest
        · rw [← hCommand, List.foldl_cons,
            foldl_tableAfter_of_not_mem hNone] at hHeaded
          rw [hQueue, ← hCommand]
          have hOwn : page.table = table :=
            hBefore.own.trans hHeaded.symm
          rw [hOwn]
        · exact absurd hRest (hNone table)
  | keepsBack hWorker _ =>
      refine .inr ⟨hForgotten.of_same hWorker.pages
        hWorker.lastSent rfl rfl, hSame ?_⟩
      unfold outstanding
      rw [hWorker.queue]
  | @publishes w _ _ _ hLast hPages =>
      -- The page that was just sent is on its way.
      have hMissing := hForgotten.missing
      unfold upcoming at hMissing
      rw [hPages,
        Option.some.inj (hLast.symm.trans hForgotten.sent),
        foldl_hears_concat _ _ _ hForgotten.own] at hMissing
      exact nomatch hMissing

------------------------------------------------------------
-- Runs
------------------------------------------------------------

/- They agree when a desk is opened. -/
theorem agrees_opening
    (settings : Settings)
    (sourceLabel : String) :
    (opening settings sourceLabel).Agrees := by
  rcases opening_parts settings sourceLabel with
    ⟨hTable, hPages⟩
  refine ⟨hTable, ?_, fun hSent => nomatch hSent⟩
  intro before page hEnds
  rw [hPages] at hEnds
  exact absurd hEnds.symm (List.append_ne_nil_of_right_ne_nil _
    (List.cons_ne_nil _ _))

/- Viewer and worker agree at any time. -/
theorem agrees_run
    (settings : Settings)
    (sourceLabel : String)
    (happenings : List Happening) :
    ((opening settings sourceLabel).run happenings).Agrees := by
  induction happenings using List.reverseRecOn with
  | nil => exact agrees_opening settings sourceLabel
  | append_singleton before h ih =>
      rw [run_concat]
      have hWorking := working_run
        (working_opening settings sourceLabel) before
      exact ih.stride (stride_step hWorking h)

/-
  A page is forgotten only while the worker has still to go
  somewhere, or after it came back to the page's table.
-/
theorem returned_of_forgotten
    (settings : Settings)
    (sourceLabel : String)
    (happenings : List Happening)
    {page : Snapshot}
    (hForgotten :
      ((opening settings sourceLabel).run
        happenings).Forgotten page) :
    ((opening settings sourceLabel).run happenings).Switching ∨
      (opening settings sourceLabel).Returned happenings
        page := by
  induction happenings using List.reverseRecOn with
  | nil => exact nomatch hForgotten.sent
  | append_singleton before h ih =>
      have hWorking := working_run
        (working_opening settings sourceLabel) before
      have hAgrees := agrees_run settings sourceLabel before
      rw [run_concat] at hForgotten ⊢
      rcases forgotten_stride hAgrees (stride_step hWorking h)
        hForgotten with hSwitching | ⟨hBefore, hKept⟩
      · exact .inl hSwitching
      · rcases ih hBefore with hSwitching | hReturned
        · rcases hKept hSwitching with hStill | ⟨hHandle, hBack⟩
          · exact .inl hStill
          · exact .inr ⟨before, [], by rw [hHandle], hBack⟩
        · exact .inr (hReturned.concat h)

------------------------------------------------------------
-- Rest
------------------------------------------------------------

/- Whether nothing is under way between viewer and worker. -/
structure AtRest
    (d : Desk) : Prop where
  sent : d.viewer.outbox = []
  done : d.worker.queue = []
  heard : d.worker.events = []

/- Whether no command is done, and no snapshot is looked at. -/
def Happening.Quiet : Happening → Prop
  | .handle | .publish => False
  | _ => True

/- What was sent last is what was looked at last. -/
theorem lastSent_run_of_quiet
    (hWorking : d.Working)
    {happenings : List Happening}
    (hQuiet : ∀ h ∈ happenings, h.Quiet) :
    (d.run happenings).worker.lastSent = d.worker.lastSent := by
  induction happenings generalizing d with
  | nil => rfl
  | cons h rest ih =>
      rcases List.forall_mem_cons.mp hQuiet with ⟨hHead, hRest⟩
      have hStep :
          (d.step h).worker.lastSent = d.worker.lastSent := by
        have hStride := stride_step hWorking h
        generalize d.step h = d' at hStride
        cases hStride with
        | idle _ hWorker _ => exact hWorker.lastSent
        | presses _ => rfl
        | sends _ => rfl
        | receives _ => rfl
        | handles _ _ _ _ _ => exact absurd hHead id
        | keepsBack _ _ => exact absurd hHead id
        | publishes _ _ _ _ _ => exact absurd hHead id
      exact (ih (working_step hWorking h) hRest).trans hStep

/- What is shown was sent when it was looked at. -/
theorem lastSent_publish
    (w : Worker) :
    w.publish.lastSent = some w.publish.space.snapshot := by
  unfold Worker.publish
  dsimp only
  split
  · next hSent => exact hSent
  · rfl

/-
  What a viewer shows when nothing is under way.  Suppose that
  the worker has looked at what it shows after the last command
  was done, and that what it shows has not changed since.  Then
  the viewer is on the table in use, and shows the page that the
  worker shows.  Only if the worker came back to a table, and
  shows just the page that it sent last before, the viewer may
  show none.
-/
theorem page_at_rest
    (settings : Settings)
    (sourceLabel : String)
    (before after : List Happening)
    (hQuiet : ∀ h ∈ after, h.Quiet)
    (hStill :
      ((opening settings sourceLabel).run
          (before ++ .publish :: after)).worker.space.snapshot =
        ((opening settings sourceLabel).run
          (before ++ [.publish])).worker.space.snapshot)
    (hRest :
      ((opening settings sourceLabel).run
        (before ++ .publish :: after)).AtRest) :
    let start := opening settings sourceLabel
    let d := start.run (before ++ .publish :: after)
    d.viewer.table = d.worker.space.active ∧
      (d.viewer.page = some d.worker.space.snapshot ∨
        d.viewer.page = none ∧
          start.Returned (before ++ .publish :: after)
            d.worker.space.snapshot) := by
  intro start d
  have hWorking (happenings : List Happening) :
      (start.run happenings).Working :=
    working_run (working_opening settings sourceLabel) happenings
  have hAgrees : d.Agrees :=
    agrees_run settings sourceLabel (before ++ .publish :: after)
  have hOutstanding : d.outstanding = [] := by
    unfold outstanding
    rw [hRest.done, hRest.sent, List.append_nil]
  have hUpcoming : d.upcoming = d.viewer.page := by
    unfold upcoming Worker.pages
    rw [hRest.heard]
    rfl
  have hTable : d.viewer.table = d.worker.space.active := by
    have hHeaded := hAgrees.headed
    unfold destination at hHeaded
    rw [hOutstanding] at hHeaded
    exact hHeaded.symm
  have hLast :
      d.worker.lastSent = some d.worker.space.snapshot := by
    have hLooked := hWorking (before ++ [.publish])
    have hKept := lastSent_run_of_quiet hLooked hQuiet
    rw [← run_append, List.append_assoc] at hKept
    refine hKept.trans ?_
    rw [hStill, run_concat]
    exact lastSent_publish _
  have hOwn : d.worker.space.snapshot.table = d.viewer.table :=
    (hWorking _).tidy.snapshot_table.trans hTable.symm
  refine ⟨hTable, ?_⟩
  rcases hAgrees.latest hLast hOwn with hNone | hShown
  · right
    refine ⟨hUpcoming.symm.trans hNone, ?_⟩
    rcases returned_of_forgotten settings sourceLabel
      (before ++ .publish :: after) ⟨hLast, hOwn, hNone⟩ with
      ⟨table, hMem⟩ | hReturned
    · exact absurd (hOutstanding ▸ hMem) List.not_mem_nil
    · exact hReturned
  · exact .inl (hUpcoming.symm.trans hShown)

------------------------------------------------------------
-- Going Around the Tables
------------------------------------------------------------

/- The first page is shown, and then the next table chosen. -/
def leaving : List Happening :=
  [ .publish, .background, .receive
  , pressKey .tab, .send, .handle ]

/- The page of the next table is shown. -/
theorem page_at_rest_leaving :
    let start := opening emptyLedger "demo"
    let d := start.run
      (leaving ++ .publish :: [.background, .receive, .tick 50])
    ((∀ h ∈ [.background, .receive, .tick 50],
        Happening.Quiet h) ∧
      d.worker.space.snapshot =
        (start.run
          (leaving ++ [.publish])).worker.space.snapshot ∧
      d.AtRest) ∧
    d.viewer.page.isSome = true ∧
    d.viewer.table = d.worker.space.active ∧
      (d.viewer.page = some d.worker.space.snapshot ∨
        d.viewer.page = none ∧
          start.Returned
            (leaving ++
              .publish :: [.background, .receive, .tick 50])
            d.worker.space.snapshot) := by
  intro start d
  have hQuiet : ∀ h ∈ [.background, .receive, .tick 50],
      Happening.Quiet h := by
    intro h hMem
    simp only [List.mem_cons, List.not_mem_nil, or_false] at hMem
    rcases hMem with hHead | hHead | hHead <;>
    · rw [hHead]
      trivial
  have hStill :
      d.worker.space.snapshot =
        (start.run
          (leaving ++ [.publish])).worker.space.snapshot := by
    decide +kernel
  have hRest : d.AtRest :=
    ⟨by decide +kernel, by decide +kernel, by decide +kernel⟩
  have hPage : d.viewer.page.isSome = true := by
    decide +kernel
  exact ⟨⟨hQuiet, hStill, hRest⟩, hPage,
    page_at_rest emptyLedger "demo" leaving
      [.background, .receive, .tick 50] hQuiet hStill hRest⟩

/- All tables are chosen in a row and then gone through at once. -/
def hastyTour : List Happening :=
  List.replicate 4 (pressKey .tab) ++ List.replicate 4 .send ++
    List.replicate 4 .handle

/- The worker is back where it was, but the page is lost. -/
theorem page_lost_on_return :
    let d := (opening emptyLedger "demo").run
      (.publish :: .receive :: hastyTour ++ [.publish])
    d.AtRest ∧
      d.worker.lastSent = some d.worker.space.snapshot ∧
      d.viewer.table = d.worker.space.active ∧
      d.viewer.page = none :=
  ⟨⟨by decide +kernel, by decide +kernel, by decide +kernel⟩,
    by decide +kernel, by decide +kernel, by decide +kernel⟩

end Desk

end LedgerView
