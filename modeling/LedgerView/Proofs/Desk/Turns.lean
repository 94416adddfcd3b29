import LedgerView.Proofs.Desk.Traffic

/-
  What a desk does at once, step by step.

  A turn of the worker does all that waits and then sends what
  is shown; so it is a row of happenings, and so is everything
  else that a desk does: starting, waiting, delivering,
  collecting, and reacting to keys.

  Key definitions include:
    * `Desk.Reaches`

  Key theorems include:
    * `Desk.reaches_turn`
    * `Desk.reaches_start`
    * `Desk.reaches_press`
-/

namespace LedgerView

------------------------------------------------------------
-- Commands in a Row
------------------------------------------------------------

namespace Worker

/- A command other than to end is done first. -/
theorem handleAll_cons
    (w : Worker)
    {command : Command}
    (rest : List Command)
    (hGoes : command ≠ .shutdown) :
    w.handleAll (command :: rest) =
      (w.obey command).handleAll rest := by
  cases command with
  | shutdown => exact absurd rfl hGoes
  | _ => rfl

/- What waits does not matter to what is done. -/
theorem handleAll_with_queue
    (commands queue : List Command)
    (w : Worker) :
    { w with queue := queue }.handleAll commands =
      w.handleAll commands := by
  induction commands generalizing w with
  | nil => rfl
  | cons command rest ih =>
      by_cases hEnds : command = .shutdown
      · rw [hEnds]
        rfl
      · rw [handleAll_cons _ rest hEnds,
          handleAll_cons _ rest hEnds]
        exact ih (w.obey command)

end Worker

------------------------------------------------------------
-- What Comes of a Desk
------------------------------------------------------------

namespace Desk

variable {d : Desk}

/- Whether one desk comes of another by what happens. -/
def Reaches
    (d d' : Desk) : Prop :=
  ∃ happenings, d' = d.run happenings

/- A desk comes of itself. -/
theorem reaches_refl
    (d : Desk) :
    d.Reaches d :=
  ⟨[], rfl⟩

/- One happening is enough. -/
theorem reaches_step
    (d : Desk)
    (h : Happening) :
    d.Reaches (d.step h) :=
  ⟨[h], rfl⟩

/- What comes of a desk can be gone on with. -/
theorem Reaches.trans
    {d d' d'' : Desk}
    (hFirst : d.Reaches d')
    (hThen : d'.Reaches d'') :
    d.Reaches d'' := by
  rcases hFirst with ⟨before, hBefore⟩
  rcases hThen with ⟨after, hAfter⟩
  exact ⟨before ++ after,
    by rw [hAfter, hBefore, run_append]⟩

/- What comes of a desk that works does. -/
theorem Reaches.working
    {d d' : Desk}
    (hReaches : d.Reaches d')
    (hWorking : d.Working) :
    d'.Working := by
  rcases hReaches with ⟨happenings, hRun⟩
  rw [hRun]
  exact working_run hWorking happenings

------------------------------------------------------------
-- Turns
------------------------------------------------------------

/- All that waits at the worker is done. -/
theorem reaches_handleAll
    {commands : List Command}
    (hWorking : d.Working)
    (hQueue : d.worker.queue = commands) :
    d.Reaches
      { d with worker := d.worker.handleAll commands } := by
  induction commands generalizing d with
  | nil =>
      unfold Worker.handleAll
      rw [← hQueue]
      exact reaches_refl d
  | cons command rest ih =>
      have hGoes : command ≠ .shutdown := by
        intro hEnds
        have hWaiting := hWorking.waiting
        rw [hQueue, hEnds] at hWaiting
        exact hWaiting List.mem_cons_self
      let next : Worker :=
        { d.worker with queue := rest }.obey command
      have hStep :
          d.step .handle = { d with worker := next } :=
        congrArg (fun w => { d with worker := w })
          (Worker.handleNext_of_queue hQueue hGoes)
      have hFirst := reaches_step d .handle
      have hNext := hFirst.working hWorking
      rw [hStep] at hFirst hNext
      have hRest :
          d.worker.handleAll (command :: rest) =
            next.handleAll rest :=
        (Worker.handleAll_cons d.worker rest hGoes).trans
          (Worker.handleAll_with_queue rest rest
            (d.worker.obey command)).symm
      rw [hRest]
      exact hFirst.trans (ih hNext rfl)

/- The worker takes a turn. -/
theorem reaches_turn
    (hWorking : d.Working) :
    d.Reaches { d with worker := d.worker.turn } := by
  have hHandled := reaches_handleAll hWorking rfl
  have hStill := hHandled.working hWorking
  have hTurn :
      d.worker.turn =
        (d.worker.handleAll d.worker.queue).settle.publish := by
    unfold Worker.turn
    dsimp only
    rw [hStill.running, hStill.listening]
    rfl
  rw [hTurn]
  exact hHandled.trans (reaches_step _ .publish)

/- The worker goes on to its next turn. -/
theorem reaches_nextTurn
    (hWorking : d.Working)
    (moment : Nat) :
    d.Reaches
      { d with worker := d.worker.nextTurn moment } := by
  have hTick := reaches_step d (.tick (moment - 1))
  have hGrow :
      (d.step (.tick (moment - 1))).Reaches
        { d with
          worker :=
            (d.worker.tickUntil (moment - 1)).growAt moment } := by
    unfold Worker.growAt
    split
    · exact reaches_step _ .grow
    · exact reaches_refl _
  have hDue :=
    (hTick.trans hGrow).trans (reaches_step _ (.tick moment))
  have hStill := hDue.working hWorking
  have hTurn := hDue.trans (reaches_turn hStill)
  unfold Worker.nextTurn
  dsimp only
  have hRuns :
      (((d.worker.tickUntil (moment - 1)).growAt
        moment).tickUntil moment).running = true :=
    hStill.running
  rw [if_pos hRuns]
  exact hTurn.trans (reaches_step _ .background)

/- The desk waits. -/
theorem reaches_wait
    (hWorking : d.Working)
    (ms : Nat) :
    d.Reaches (d.wait ms) := by
  have hTurns : ∀ (moments : List Nat) {d : Desk},
      d.Working →
        d.Reaches
          { d with
            worker :=
              moments.foldl Worker.nextTurn d.worker } := by
    intro moments
    induction moments with
    | nil => exact fun _ => reaches_refl _
    | cons moment rest ih =>
        intro d hWorking
        have hNext := reaches_nextTurn hWorking moment
        exact hNext.trans (ih (hNext.working hWorking))
  exact (hTurns _ hWorking).trans
    (reaches_step _ (.tick (d.worker.now + ms)))

------------------------------------------------------------
-- Exchanges
------------------------------------------------------------

/- Commands are sent one after the other. -/
theorem sendAll_fst
    (w : Worker)
    (commands : List Command) :
    (w.sendAll commands).1 =
      commands.foldl (fun w command => (w.send command).1) w :=
  (List.foldl_hom Prod.fst fun _ _ => rfl).symm

/- The viewer sends all that it has queued. -/
theorem reaches_deliver
    (d : Desk) :
    d.Reaches d.deliver := by
  have hSends : ∀ (commands : List Command) (w : Worker)
      (v : Viewer),
      v.outbox = commands →
        Reaches ⟨w, v⟩
          ⟨commands.foldl
            (fun w command => (w.send command).1) w,
            { v with outbox := [] }⟩ := by
    intro commands
    induction commands with
    | nil =>
        intro w v hOutbox
        rw [List.foldl_nil, ← hOutbox]
        exact reaches_refl _
    | cons command rest ih =>
        intro w v hOutbox
        have hFirst := reaches_step ⟨w, v⟩ .send
        unfold step sendNext at hFirst
        dsimp only at hFirst
        rw [hOutbox] at hFirst
        exact hFirst.trans (ih _ _ rfl)
  have hAll := hSends d.viewer.outbox d.worker d.viewer rfl
  rw [← sendAll_fst] at hAll
  exact hAll

/- The viewer receives all that was told. -/
theorem reaches_collect
    (d : Desk) :
    d.Reaches d.collect := by
  have hReceives : ∀ (events : List Event) (w : Worker)
      (v : Viewer),
      w.events = events →
        Reaches ⟨w, v⟩
          ⟨{ w with events := [] },
            events.foldl Viewer.receive v⟩ := by
    intro events
    induction events with
    | nil =>
        intro w v hEvents
        rw [List.foldl_nil, ← hEvents]
        exact reaches_refl _
    | cons event rest ih =>
        intro w v hEvents
        have hFirst := reaches_step ⟨w, v⟩ .receive
        unfold step receiveNext at hFirst
        dsimp only at hFirst
        rw [hEvents] at hFirst
        exact hFirst.trans (ih _ _ rfl)
  exact hReceives d.worker.events d.worker d.viewer rfl

/- Keys are pressed one after the other. -/
theorem pressAll_fst
    (v : Viewer)
    (target : ExportTarget)
    (presses : List Press) :
    (v.pressAll target presses).1 =
      presses.foldl (fun v p => (v.press target p).1) v :=
  (List.foldl_hom Prod.fst fun _ _ => rfl).symm

/- The viewer reacts to keys. -/
theorem reaches_pressAll
    (target : ExportTarget)
    (presses : List Press)
    (d : Desk) :
    d.Reaches
      { d with
        viewer := (d.viewer.pressAll target presses).1 } := by
  rw [pressAll_fst]
  induction presses generalizing d with
  | nil => exact reaches_refl d
  | cons p rest ih =>
      exact (reaches_step d (.press target p)).trans
        (ih { d with viewer := (d.viewer.press target p).1 })

/- What a desk does about keys is a row of happenings. -/
theorem reaches_press
    (hWorking : d.Working)
    (target : ExportTarget)
    (presses : List Press) :
    d.Reaches (d.press target presses).1 := by
  have hPressed :=
    (reaches_pressAll target presses d).trans
      (reaches_deliver _)
  exact (hPressed.trans
    (reaches_wait (hPressed.working hWorking) exchangeTime)).trans
      (reaches_collect _)

/- So is what it does at the start. -/
theorem reaches_start
    (settings : Settings)
    (sourceLabel : String) :
    (opening settings sourceLabel).Reaches
      (.start settings sourceLabel) :=
  ⟨[.publish, .background], rfl⟩

end Desk

end LedgerView
