import LedgerView.Proofs.Desk.Press
import LedgerView.Proofs.Workspace.Sessions
import LedgerView.Viewer.Desk

/-
  A viewer and a worker, one step at a time.

  The viewer and the worker talk over two queues.  Each takes
  its next step at any time: a key is pressed, a command is
  sent or done, a snapshot is sent, an event is received, and
  in between background moves run, timers tick and the ledger
  grows.

  Key definitions include:
    * `Desk.Happening`
    * `Desk.step`
    * `Desk.run`
    * `Desk.opening`
    * `Desk.Stride`
    * `Desk.Working`

  Key theorems include:
    * `Desk.stride_step`
    * `Desk.working_run`
-/

namespace LedgerView

/- The page that an event tells. -/
def Event.page? : Event → Option Snapshot
  | .page snapshot => some snapshot
  | .notice _ | .fault _ => none

------------------------------------------------------------
-- Notes
------------------------------------------------------------

namespace Workspace

variable (w : Workspace)

/- Whether only notes are told, and no page. -/
def Notes
    (events : List Event) : Prop :=
  ∀ e ∈ events, e.page? = none

/- One note is told. -/
theorem notes_singleton
    {e : Event}
    (hNote : e.page? = none) :
    Notes [e] := by
  intro e' hMem
  rw [List.mem_singleton.mp hMem]
  exact hNote

/- Nothing is told. -/
theorem notes_nil :
    Notes [] :=
  fun _ hMem => absurd hMem List.not_mem_nil

/- The report of an operation is a note. -/
theorem notes_report
    (ended : Ended) :
    Notes (report ended) := by
  cases ended with
  | ok outcome => exact notes_nil
  | error e => exact notes_singleton rfl

/- Filtering a table adds notes to what was told. -/
theorem notes_filterTable
    (now : Nat)
    {told : Workspace × List Event}
    (hNotes : Notes told.2)
    (kind : TableKind) :
    Notes (filterTable now told kind).2 := by
  unfold filterTable
  dsimp only
  split
  · exact hNotes
  · split
    · exact hNotes
    · intro e hMem
      rcases List.mem_append.mp hMem with hTold | hFault
      · exact hNotes e hTold
      · exact notes_singleton rfl e hFault

/- Of a step only notes are told. -/
theorem notes_step
    (forward : Bool) :
    Notes (w.step forward).2 := by
  unfold step
  split
  · exact notes_nil
  · exact notes_singleton rfl
  · exact notes_singleton rfl

/- Of a command only notes are told. -/
theorem notes_handle
    (now : Nat)
    (command : Command) :
    Notes (w.handle now command).2 := by
  cases command with
  | switchTable table =>
      unfold handle switchTo
      dsimp only
      split
      · exact notes_nil
      · exact notes_report _
  | gotoPage page =>
      unfold handle goto
      dsimp only
      split
      · exact notes_nil
      · exact notes_singleton rfl
  | nextPage => exact notes_step w true
  | previousPage => exact notes_step w false
  | live => exact notes_report _
  | togglePause =>
      refine notes_singleton ?_
      unfold pauseNotice
      split <;> rfl
  | refresh => exact notes_report _
  | setPageSize pageSize => exact notes_report _
  | setFilter filter =>
      unfold handle setFilter
      dsimp only [TableKind.all, List.foldl_cons, List.foldl_nil]
      exact notes_filterTable now (notes_filterTable now
        (notes_filterTable now (notes_filterTable now
          notes_nil _) _) _) _
  | shutdown => exact notes_nil

/- When a move is reported, only notes are told. -/
theorem notes_settle :
    Notes w.settle.2 := by
  unfold settle
  split
  · exact notes_report _
  · exact notes_nil

end Workspace

------------------------------------------------------------
-- Turns
------------------------------------------------------------

namespace Worker

/- Do one command. -/
def obey
    (w : Worker)
    (command : Command) : Worker :=
  let (space, events) := w.space.handle w.now command
  { w with space := space }.tell events

/- Do the command that has waited longest. -/
def handleNext
    (w : Worker) : Worker :=
  match w.queue with
  | [] => w
  | .shutdown :: _ => w.stop
  | command :: rest => { w with queue := rest }.obey command

/- A command other than to end is done. -/
theorem handleNext_of_queue
    {w : Worker}
    {command : Command}
    {rest : List Command}
    (hQueue : w.queue = command :: rest)
    (hGoes : command ≠ .shutdown) :
    w.handleNext = { w with queue := rest }.obey command := by
  unfold handleNext
  rw [hQueue]
  cases command with
  | shutdown => exact absurd rfl hGoes
  | _ => rfl

/- The pages among what was told. -/
def pages
    (w : Worker) : List Snapshot :=
  w.events.filterMap Event.page?

/- What shows, waits and was told is as it was. -/
structure Same
    (w w' : Worker) : Prop where
  active : w'.space.active = w.space.active
  filter : w'.space.filter = w.space.filter
  queue : w'.queue = w.queue
  lastSent : w'.lastSent = w.lastSent
  pages : w'.pages = w.pages

/- Notes are not pages. -/
theorem pages_tell
    (w : Worker)
    {events : List Event}
    (hNotes : ∀ e ∈ events, e.page? = none) :
    (w.tell events).pages = w.pages := by
  have hNone : events.filterMap Event.page? = [] :=
    List.filterMap_eq_nil_iff.mpr hNotes
  unfold tell Worker.pages
  rw [List.filterMap_append, hNone, List.append_nil]

/- A command tells no page, and changes what it asks to change. -/
theorem obey_parts
    (w : Worker)
    (command : Command) :
    (w.obey command).space.active =
        command.tableAfter w.space.active ∧
      (w.obey command).space.filter =
        command.filterAfter w.space.filter ∧
      (w.obey command).pages = w.pages := by
  refine ⟨w.space.active_handle w.now command,
    w.space.filter_handle w.now command, ?_⟩
  exact pages_tell _ (w.space.notes_handle w.now command)

end Worker

------------------------------------------------------------
-- Steps
------------------------------------------------------------

namespace Desk

/- Something that happens at a desk. -/
inductive Happening where
  /- A key is pressed. -/
  | press (target : ExportTarget) (key : Press)
  /- The message that is shown grows older. -/
  | age (elapsed : Nat)
  /- The viewer sends the first command that it has queued. -/
  | send
  /- The viewer receives the first event that was told. -/
  | receive
  /- The worker does the first command that waits. -/
  | handle
  /- The worker reports a move and sends what is shown. -/
  | publish
  /- Background moves run. -/
  | background
  /- Timers run up to a moment. -/
  | tick (moment : Nat)
  /- The ledger grows. -/
  | grow

/- Send the first command that is queued. -/
def sendNext
    (d : Desk) : Desk :=
  match d.viewer.outbox with
  | [] => d
  | command :: rest =>
      { worker := (d.worker.send command).1
        viewer := { d.viewer with outbox := rest } }

/- Receive the first event that was told. -/
def receiveNext
    (d : Desk) : Desk :=
  match d.worker.events with
  | [] => d
  | event :: rest =>
      { worker := { d.worker with events := rest }
        viewer := d.viewer.receive event }

/- What a happening changes. -/
def step
    (d : Desk) : Happening → Desk
  | .press target key =>
      { d with viewer := (d.viewer.press target key).1 }
  | .age elapsed => { d with viewer := d.viewer.tick elapsed }
  | .send => d.sendNext
  | .receive => d.receiveNext
  | .handle => { d with worker := d.worker.handleNext }
  | .publish => { d with worker := d.worker.settle.publish }
  | .background => { d with worker := d.worker.runBackground }
  | .tick moment => { d with worker := d.worker.tickUntil moment }
  | .grow =>
      { d with
        worker :=
          { d.worker with space := d.worker.space.grow } }

/- What a row of happenings changes. -/
def run
    (d : Desk)
    (happenings : List Happening) : Desk :=
  happenings.foldl step d

/- What happens later starts where what was before ended. -/
theorem run_append
    (d : Desk)
    (before after : List Happening) :
    d.run (before ++ after) = (d.run before).run after :=
  List.foldl_append

/- The last happening starts where those before it ended. -/
theorem run_concat
    (d : Desk)
    (before : List Happening)
    (h : Happening) :
    d.run (before ++ [h]) = (d.run before).step h := by
  rw [run_append]
  rfl

/- A desk at which nothing was done yet. -/
def opening
    (settings : Settings)
    (sourceLabel : String) : Desk :=
  let (table, nav, faults) := Worker.placeOf settings
  let (space, events) :=
    Workspace.openAt settings.backend settings.config table nav 0
  { worker :=
      { space := space
        queue := []
        hungUp := false
        running := true
        lastSent := none
        events := faults ++ events
        now := 0 }
    viewer :=
      { table := settings.firstTable
        sourceLabel := sourceLabel } }

------------------------------------------------------------
-- What a Happening Can Do
------------------------------------------------------------

/- The change of the filter that a happening carries out. -/
def change?
    (d : Desk) : Happening → Option FilterChange
  | .press _ key => d.viewer.change? key
  | _ => none

/- What a viewer shows and asks for is as it was. -/
structure SameView
    (v v' : Viewer) : Prop where
  table : v'.table = v.table
  page : v'.page = v.page
  filter : v'.filter = v.filter
  outbox : v'.outbox = v.outbox

/- Taking a note, a viewer shows and asks for the same. -/
theorem sameView_receive
    (v : Viewer)
    {e : Event}
    (hNote : e.page? = none) :
    SameView v (v.receive e) := by
  cases e with
  | page snapshot => exact nomatch hNote
  | notice message => exact ⟨rfl, rfl, rfl, rfl⟩
  | fault message => exact ⟨rfl, rfl, rfl, rfl⟩

/- What was asked and has not been done, in that order. -/
def outstanding
    (d : Desk) : List Command :=
  d.worker.queue ++ d.viewer.outbox

/-
  Whether the worker goes on and hears the viewer, is not about
  to be told to end, and has its tables in order.
-/
structure Working
    (d : Desk) : Prop where
  running : d.worker.running = true
  listening : d.worker.hungUp = false
  asked : Command.shutdown ∉ d.outstanding
  tidy : d.worker.space.Tidy

/- The worker of a desk that works can be asked. -/
theorem Working.send
    {d : Desk}
    (hWorking : d.Working)
    (command : Command) :
    (d.worker.send command).1 =
      { d.worker with
        queue := d.worker.queue ++ [command] } := by
  unfold Worker.send
  rw [if_pos]
  unfold Worker.listens
  rw [hWorking.running, hWorking.listening]
  rfl

/- Nothing that waits at the worker tells it to end. -/
theorem Working.waiting
    {d : Desk}
    (hWorking : d.Working) :
    Command.shutdown ∉ d.worker.queue :=
  fun hMem => hWorking.asked (List.mem_append_left _ hMem)

/-
  What a happening can do, as far as the talk between viewer
  and worker goes.
-/
inductive Stride
    (d : Desk) : Happening → Desk → Prop where
  /- Nothing is said or heard. -/
  | idle
      {h : Happening}
      {d' : Desk}
      (hChange : d.change? h = none)
      (hWorker : d.worker.Same d'.worker)
      (hViewer : SameView d.viewer d'.viewer) :
      Stride d h d'
  /- The viewer reacts to a key. -/
  | presses
      {target : ExportTarget}
      {key : Press}
      {v : Viewer}
      (hReacts : d.viewer.Reacts (d.viewer.change? key) v) :
      Stride d (.press target key) { d with viewer := v }
  /- A command goes from the viewer to the worker. -/
  | sends
      {command : Command}
      {rest : List Command}
      (hOutbox : d.viewer.outbox = command :: rest) :
      Stride d .send
        { worker :=
            { d.worker with
              queue := d.worker.queue ++ [command] }
          viewer := { d.viewer with outbox := rest } }
  /- A page goes from the worker to the viewer. -/
  | receives
      {page : Snapshot}
      {rest : List Event}
      (hEvents : d.worker.events = .page page :: rest) :
      Stride d .receive
        { worker := { d.worker with events := rest }
          viewer := d.viewer.receive (.page page) }
  /- A command is done. -/
  | handles
      {command : Command}
      {w : Worker}
      (hQueue : d.worker.queue = command :: w.queue)
      (hActive :
        w.space.active =
          command.tableAfter d.worker.space.active)
      (hFilter :
        w.space.filter =
          command.filterAfter d.worker.space.filter)
      (hLast : w.lastSent = d.worker.lastSent)
      (hPages : w.pages = d.worker.pages) :
      Stride d .handle { d with worker := w }
  /- What is shown was sent before; it is not sent again. -/
  | keepsBack
      {w : Worker}
      (hWorker : d.worker.Same w)
      (hLast : w.lastSent = some w.space.snapshot) :
      Stride d .publish { d with worker := w }
  /- What is shown is sent. -/
  | publishes
      {w : Worker}
      (hActive : w.space.active = d.worker.space.active)
      (hFilter : w.space.filter = d.worker.space.filter)
      (hQueue : w.queue = d.worker.queue)
      (hLast : w.lastSent = some w.space.snapshot)
      (hPages :
        w.pages = d.worker.pages ++ [w.space.snapshot]) :
      Stride d .publish { d with worker := w }

variable {d : Desk}

/- What waits at the worker is done in turn. -/
theorem stride_handle
    (hWaiting : Command.shutdown ∉ d.worker.queue) :
    Stride d .handle (d.step .handle) := by
  unfold step
  dsimp only
  cases hQueue : d.worker.queue with
  | nil =>
      unfold Worker.handleNext
      rw [hQueue]
      exact .idle rfl ⟨rfl, rfl, rfl, rfl, rfl⟩
        ⟨rfl, rfl, rfl, rfl⟩
  | cons command rest =>
      have hGoes : command ≠ .shutdown := by
        intro hEnds
        rw [hQueue, hEnds] at hWaiting
        exact hWaiting List.mem_cons_self
      rw [Worker.handleNext_of_queue hQueue hGoes]
      rcases Worker.obey_parts
        { d.worker with queue := rest } command with
        ⟨hActive, hFilter, hPages⟩
      exact .handles hQueue hActive hFilter rfl hPages

/- What is shown is sent, unless it is what was sent last. -/
theorem stride_publish
    (d : Desk) :
    Stride d .publish (d.step .publish) := by
  rcases d.worker.space.settle_parts with ⟨hActive, hFilter⟩
  have hPages : d.worker.settle.pages = d.worker.pages :=
    Worker.pages_tell _ d.worker.space.notes_settle
  unfold step
  dsimp only
  unfold Worker.publish
  dsimp only
  split
  · next hSent =>
      exact .keepsBack ⟨hActive, hFilter, rfl, rfl, hPages⟩
        hSent
  · refine .publishes hActive hFilter rfl rfl ?_
    unfold Worker.pages Worker.tell
    rw [List.filterMap_append]
    exact congrArg (· ++ [_]) hPages

/- Each happening does one of these things. -/
theorem stride_step
    (hWorking : d.Working)
    (h : Happening) :
    Stride d h (d.step h) := by
  cases h with
  | press target key =>
      exact .presses (Viewer.reacts_press d.viewer target key)
  | age elapsed =>
      exact .idle rfl ⟨rfl, rfl, rfl, rfl, rfl⟩
        ⟨rfl, rfl, rfl, rfl⟩
  | send =>
      unfold step sendNext
      dsimp only
      split
      · exact .idle rfl ⟨rfl, rfl, rfl, rfl, rfl⟩
          ⟨rfl, rfl, rfl, rfl⟩
      · next command rest hOutbox =>
          rw [hWorking.send command]
          exact .sends hOutbox
  | receive =>
      unfold step receiveNext
      dsimp only
      split
      · exact .idle rfl ⟨rfl, rfl, rfl, rfl, rfl⟩
          ⟨rfl, rfl, rfl, rfl⟩
      · next event rest hEvents =>
          cases hPage : event.page? with
          | none =>
              refine .idle rfl ⟨rfl, rfl, rfl, rfl, ?_⟩
                (sameView_receive d.viewer hPage)
              unfold Worker.pages
              rw [hEvents, List.filterMap_cons_none hPage]
          | some page =>
              cases event with
              | page page => exact .receives hEvents
              | notice message => exact nomatch hPage
              | fault message => exact nomatch hPage
  | handle => exact stride_handle hWorking.waiting
  | publish => exact stride_publish d
  | background =>
      exact .idle rfl ⟨rfl, rfl, rfl, rfl, rfl⟩
        ⟨rfl, rfl, rfl, rfl⟩
  | tick moment =>
      exact .idle rfl ⟨rfl, rfl, rfl, rfl, rfl⟩
        ⟨rfl, rfl, rfl, rfl⟩
  | grow =>
      exact .idle rfl ⟨rfl, rfl, rfl, rfl, rfl⟩
        ⟨rfl, rfl, rfl, rfl⟩

------------------------------------------------------------
-- Desks That Work
------------------------------------------------------------

/- Receiving an event asks for nothing. -/
theorem outbox_receive
    (v : Viewer)
    (e : Event) :
    (v.receive e).outbox = v.outbox := by
  cases e with
  | page snapshot =>
      unfold Viewer.receive
      dsimp only
      split <;> rfl
  | notice message => rfl
  | fault message => rfl

/- No key tells the worker to end. -/
theorem outbox_of_reacts
    {v v' : Viewer}
    {change : Option FilterChange}
    (hReacts : v.Reacts change v') :
    ∃ news, v'.outbox = v.outbox ++ news ∧
      Command.shutdown ∉ news := by
  cases hReacts with
  | aside _ _ _ hOutbox =>
      exact ⟨[], by rw [hOutbox, List.append_nil],
        List.not_mem_nil⟩
  | asks hPlain _ _ _ hOutbox =>
      refine ⟨_, hOutbox, ?_⟩
      rw [List.mem_singleton]
      intro hEnds
      rw [← hEnds] at hPlain
      exact hPlain
  | switches _ _ _ hOutbox =>
      exact ⟨_, hOutbox, by rw [List.mem_singleton]; nofun⟩
  | suppresses _ _ _ _ hOutbox =>
      exact ⟨[], by rw [hOutbox, List.append_nil],
        List.not_mem_nil⟩
  | filters _ _ _ hOutbox =>
      exact ⟨_, hOutbox, by rw [List.mem_singleton]; nofun⟩

/- The worker is never about to be told to end. -/
theorem asked_of_stride
    {d' : Desk}
    {h : Happening}
    (hStride : Stride d h d')
    (hAsked : Command.shutdown ∉ d.outstanding) :
    Command.shutdown ∉ d'.outstanding := by
  unfold outstanding at hAsked ⊢
  cases hStride with
  | idle _ hWorker hViewer =>
      rw [hWorker.queue, hViewer.outbox]
      exact hAsked
  | presses hReacts =>
      rcases outbox_of_reacts hReacts with ⟨news, hNews, hGoes⟩
      rw [hNews, ← List.append_assoc, List.mem_append]
      exact not_or.mpr ⟨hAsked, hGoes⟩
  | sends hOutbox =>
      rw [hOutbox] at hAsked
      rw [List.append_assoc, List.singleton_append]
      exact hAsked
  | receives _ =>
      rw [outbox_receive]
      exact hAsked
  | handles hQueue _ _ _ _ =>
      rw [hQueue] at hAsked
      exact fun hMem => hAsked (List.mem_cons_of_mem _ hMem)
  | keepsBack hWorker _ =>
      rw [hWorker.queue]
      exact hAsked
  | publishes _ _ hQueue _ _ =>
      rw [hQueue]
      exact hAsked

/- Whatever happens, the worker goes on. -/
theorem goesOn_step
    (hWorking : d.Working)
    (h : Happening) :
    (d.step h).worker.running = true ∧
      (d.step h).worker.hungUp = false ∧
      (d.step h).worker.space.Tidy := by
  rcases hWorking with ⟨hRuns, hListens, hAsked, hTidy⟩
  have hWorking : d.Working := ⟨hRuns, hListens, hAsked, hTidy⟩
  cases h with
  | press target key => exact ⟨hRuns, hListens, hTidy⟩
  | age elapsed => exact ⟨hRuns, hListens, hTidy⟩
  | send =>
      unfold step sendNext
      dsimp only
      split
      · exact ⟨hRuns, hListens, hTidy⟩
      · rw [hWorking.send]
        exact ⟨hRuns, hListens, hTidy⟩
  | receive =>
      unfold step receiveNext
      dsimp only
      split <;> exact ⟨hRuns, hListens, hTidy⟩
  | handle =>
      have hWaiting := hWorking.waiting
      unfold step
      dsimp only
      cases hQueue : d.worker.queue with
      | nil =>
          unfold Worker.handleNext
          rw [hQueue]
          exact ⟨hRuns, hListens, hTidy⟩
      | cons command rest =>
          rw [hQueue, List.mem_cons, not_or] at hWaiting
          rw [Worker.handleNext_of_queue hQueue
            (Ne.symm hWaiting.1)]
          exact ⟨hRuns, hListens,
            hTidy.handle d.worker.now command⟩
  | publish =>
      unfold step Worker.publish
      dsimp only
      split <;> exact ⟨hRuns, hListens, hTidy.settle⟩
  | background => exact ⟨hRuns, hListens, hTidy.runBackground⟩
  | tick moment => exact ⟨hRuns, hListens, hTidy.advance moment⟩
  | grow => exact ⟨hRuns, hListens, hTidy.grow⟩

/- A desk goes on working, whatever happens. -/
theorem working_step
    (hWorking : d.Working)
    (h : Happening) :
    (d.step h).Working :=
  ⟨(goesOn_step hWorking h).1, (goesOn_step hWorking h).2.1,
    asked_of_stride (stride_step hWorking h) hWorking.asked,
    (goesOn_step hWorking h).2.2⟩

/- A desk works at any time. -/
theorem working_run
    (hWorking : d.Working)
    (happenings : List Happening) :
    (d.run happenings).Working := by
  induction happenings generalizing d with
  | nil => exact hWorking
  | cons h rest ih => exact ih (working_step hWorking h)

/- The table of a link is shown first, if it names one. -/
theorem placeOf_fst
    (settings : Settings) :
    (Worker.placeOf settings).1 = settings.firstTable := by
  unfold Worker.placeOf Settings.firstTable
  cases settings.link with
  | none => rfl
  | some link =>
      dsimp only [Option.bind_some]
      cases TableKind.parse link.table with
      | ok table => rfl
      | error e => rfl

/- Of the place of a link only notes are told. -/
theorem notes_placeOf
    (settings : Settings) :
    Workspace.Notes (Worker.placeOf settings).2.2 := by
  unfold Worker.placeOf
  split
  · exact Workspace.notes_nil
  · split
    · exact Workspace.notes_nil
    · exact Workspace.notes_singleton rfl

/- Viewer and worker start on one table, with nothing told. -/
theorem opening_parts
    (settings : Settings)
    (sourceLabel : String) :
    (opening settings sourceLabel).worker.space.active =
        (opening settings sourceLabel).viewer.table ∧
      (opening settings sourceLabel).worker.pages = [] := by
  refine ⟨placeOf_fst settings, ?_⟩
  refine List.filterMap_eq_nil_iff.mpr fun e hMem => ?_
  rcases List.mem_append.mp hMem with hPlace | hOpened
  · exact notes_placeOf settings e hPlace
  · exact Workspace.notes_report _ e hOpened

/- A desk works from the beginning. -/
theorem working_opening
    (settings : Settings)
    (sourceLabel : String) :
    (opening settings sourceLabel).Working :=
  ⟨rfl, rfl, List.not_mem_nil, Workspace.Tidy.openAt ..⟩

------------------------------------------------------------
-- A Desk to Look At
------------------------------------------------------------

/- A ledger in which there is nothing yet. -/
def emptyLedger : Settings :=
  let nothing : MemoryList Row := ⟨[], true⟩
  { backend := .demo ⟨nothing, nothing, nothing, []⟩
    config := { pageSize := 4 }
    table := .accounts
    link := none }

/- A key is pressed where no file can be saved. -/
def pressKey
    (code : KeyCode) : Happening :=
  .press ⟨.error "no folder", "20240101"⟩ { code := code }

end Desk

end LedgerView
