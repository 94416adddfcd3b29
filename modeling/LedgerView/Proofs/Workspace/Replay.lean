import LedgerView.Proofs.Workspace.Stride

/-
  Commands that run to their ends, step by step.

  A workspace that completes every move before anything else
  happens is one of the many that commands and background moves
  may lead to when they overlap: whatever a workspace is told
  and whatever happens to it, some events lead there.

  Key definitions include:
    * `Session.stirAll`
    * `SpaceTraffic.Stands`
    * `SpaceTraffic.LeadsTo`

  Key theorems include:
    * `SpaceTraffic.Stands.leadsTo_handle`
    * `SpaceTraffic.Stands.leadsTo_undergo`
    * `SpaceTraffic.start_leadsTo_run`
-/

namespace LedgerView

------------------------------------------------------------
-- Sessions
------------------------------------------------------------

namespace Session

/- What becomes of a session by several things in turn. -/
def stirAll
    (s : Session)
    (stirs : List Stir) : Session :=
  stirs.foldl stir s

/- Beats of its timer change the table of a session. -/
theorem stirAll_beats
    (s : Session)
    (beats : List (Beat Row)) :
    s.stirAll (beats.map .beat) =
      { s with table := s.table.beatAll beats } := by
  induction beats generalizing s with
  | nil => rfl
  | cons beat rest ih => exact ih (s.stir (.beat beat))

/- So its timer runs up to a moment. -/
theorem exists_stirs_advance
    (backend : Backend)
    (moment : Nat)
    (s : Session) :
    ∃ stirs, s.stirAll stirs = s.advance backend moment := by
  rcases s.table.exists_beats_advance backend.source_ask moment
    with ⟨beats, hBeats⟩
  refine ⟨beats.map .beat, ?_⟩
  rw [stirAll_beats, hBeats]
  rfl

/- The end of a move is noted whatever else is to run. -/
theorem noteEnd_background
    (s : Session)
    (rest : List (Nat × Move Row Key))
    (id : Nat)
    (ended : Ended) :
    ({ s with background := rest } : Session).noteEnd id ended =
      { s.noteEnd id ended with background := rest } := by
  unfold noteEnd
  dsimp only
  split
  · split <;> rfl
  · rfl

/- A background move runs to its end before those after it. -/
theorem exists_stirs_runMove
    (backend : Backend)
    (s : Session)
    (id : Nat)
    (m : Move Row Key)
    (rest : List (Nat × Move Row Key)) :
    ∃ stirs,
      ({ s with background := (id, m) :: rest } :
          Session).stirAll stirs =
        { s.runMove backend (id, m) with background := rest } := by
  unfold runMove
  induction m using s.table.move_induction with
  | done m hDone =>
      refine ⟨[.finish 0], ?_⟩
      rw [Controller.completeMove_of_isDone hDone]
      dsimp only [stirAll, List.foldl_cons, List.foldl_nil, stir,
        finishMove, List.getElem?_cons_zero]
      rw [if_pos hDone]
      exact noteEnd_background
        { s with table := (s.table.finish m).1 } rest id _
  | loading m hLoad ih =>
      cases hReply : s.table.replyTo backend.ask m with
      | error e =>
          refine ⟨[.answer 0 (.error e)], ?_⟩
          rw [Controller.completeMove_of_failure
            backend.source_ask hLoad hReply]
          dsimp only [stirAll, List.foldl_cons, List.foldl_nil, stir,
            answerMove, List.getElem?_cons_zero]
          rw [if_neg (by rw [hLoad]; decide)]
          exact noteEnd_background s rest id _
      | ok rows =>
          rcases ih rows with ⟨stirs, hStirs⟩
          refine ⟨.answer 0 (.ok rows) :: stirs, ?_⟩
          rw [Controller.completeMove_of_answer
            backend.source_ask hLoad hReply, ← hStirs]
          refine congrArg (stirAll · stirs) ?_
          dsimp only [stir, answerMove, List.getElem?_cons_zero]
          rw [if_neg (by rw [hLoad]; decide)]
          rfl

/- So do several, in the order of their beginning, -/
theorem exists_stirs_runMoves
    (backend : Backend)
    (s : Session)
    (moves : List (Nat × Move Row Key)) :
    ∃ stirs,
      ({ s with background := moves } : Session).stirAll stirs =
        moves.foldl (runMove backend)
          { s with background := [] } := by
  induction moves generalizing s with
  | nil => exact ⟨[], rfl⟩
  | cons entry rest ih =>
      rcases s.exists_stirs_runMove backend entry.1 entry.2 rest
        with ⟨stirs, hStirs⟩
      rcases ih (s.runMove backend entry) with ⟨more, hMore⟩
      refine ⟨stirs ++ more, ?_⟩
      unfold stirAll at hStirs hMore ⊢
      rw [List.foldl_append, hStirs, hMore, List.foldl_cons]
      refine congrArg (rest.foldl (runMove backend)) ?_
      exact (noteEnd_background _ [] _ _).symm

/- and all that there are. -/
theorem exists_stirs_runBackground
    (backend : Backend)
    (s : Session) :
    ∃ stirs, s.stirAll stirs = s.runBackground backend :=
  s.exists_stirs_runMoves backend s.background

end Session

------------------------------------------------------------
-- Workspaces
------------------------------------------------------------

namespace Workspace

variable {w : Workspace}

/- Putting back a session that is there changes nothing. -/
theorem setSession_of_open
    {table : TableKind}
    {session : Session}
    (hOpen : w.sessions.get table = some session) :
    w.setSession table session = w := by
  unfold setSession
  rw [← hOpen, PerTable.set_get_self]

/- Only the session that is put at a table last counts. -/
theorem setSession_setSession
    (w : Workspace)
    (table : TableKind)
    (s s' : Session) :
    (w.setSession table s).setSession table s' =
      w.setSession table s' := by
  cases table <;> rfl

/- All sessions are changed by changing one after another. -/
theorem mapSessions_eq
    (w : Workspace)
    (f : Session → Session) :
    w.mapSessions f =
      TableKind.all.foldl (fun w table => w.alter table f) w :=
  rfl

end Workspace

------------------------------------------------------------
-- Leading Somewhere
------------------------------------------------------------

namespace SpaceTraffic

/- Whether it stands at a workspace with something left to do. -/
structure Stands
    (w : Workspace)
    (waiting : Option Workspace.OwnMove)
    (unfiltered : List TableKind)
    (s : SpaceTraffic) : Prop where
  space : s.space = w
  waiting : s.waiting = waiting
  unfiltered : s.unfiltered = unfiltered

/-
  Whether events on which it goes on lead to a workspace, with
  tables left to be filtered but no move to be waited for.
-/
def LeadsTo
    (w : Workspace)
    (unfiltered : List TableKind)
    (s : SpaceTraffic) : Prop :=
  ∃ events : List Event,
    (∀ event ∈ events, event.GoesOn) ∧
    Stands w none unfiltered (s.run events)

variable {s : SpaceTraffic} {w w' : Workspace}
variable {unfiltered unfiltered' : List TableKind}

/- It has been led to where it stands. -/
theorem Stands.leadsTo
    (hStands : s.Stands w none unfiltered) :
    s.LeadsTo w unfiltered :=
  ⟨[], by simp, hStands⟩

/- An event comes before those that lead on from it, -/
theorem leadsTo_of_step
    (event : Event)
    (hGoesOn : event.GoesOn)
    (hLeads : (s.step event).LeadsTo w unfiltered) :
    s.LeadsTo w unfiltered := by
  rcases hLeads with ⟨events, hEvents, hStands⟩
  exact ⟨event :: events,
    List.forall_mem_cons.mpr ⟨hGoesOn, hEvents⟩, hStands⟩

/- and so do the events that lead to where others begin. -/
theorem LeadsTo.trans
    (hLeads : s.LeadsTo w unfiltered)
    (hOn : ∀ s' : SpaceTraffic, s'.Stands w none unfiltered →
      s'.LeadsTo w' unfiltered') :
    s.LeadsTo w' unfiltered' := by
  rcases hLeads with ⟨events, hEvents, hStands⟩
  rcases hOn _ hStands with ⟨more, hMore, hLast⟩
  refine ⟨events ++ more, ?_, ?_⟩
  · exact List.forall_mem_append.mpr ⟨hEvents, hMore⟩
  · rw [run_append]
    exact hLast

namespace Stands

/- It is idle when nothing is left to do. -/
theorem idle
    (hStands : s.Stands w none []) :
    s.idle = true := by
  unfold SpaceTraffic.idle
  rw [hStands.waiting, hStands.unfiltered]
  rfl

/- A move that has loaded everything ends, -/
theorem step_finish
    {own : Workspace.OwnMove}
    (hStands : s.Stands w (some own) unfiltered)
    (hDone : own.2.flight.load.isDone = true) :
    s.step .finish = s.finishOwn own := by
  unfold step
  dsimp only
  rw [hStands.waiting]
  exact if_pos hDone

/- and one that has not is answered. -/
theorem step_answer
    {own : Workspace.OwnMove}
    (hStands : s.Stands w (some own) unfiltered)
    (hLoad : own.2.flight.load.isDone = false)
    (reply : Reply Row) :
    s.step (.answer reply) = s.answerOwn own reply := by
  unfold step
  dsimp only
  rw [hStands.waiting]
  exact if_neg (by rw [hLoad]; decide)

/- So the move of a command runs to its end. -/
theorem leadsTo_own
    {table : TableKind}
    {m : Move Row Key}
    (hStands : s.Stands w (some (table, m)) unfiltered)
    {session : Session}
    (hOpen : w.sessions.get table = some session) :
    s.LeadsTo
      (w.setSession table
        { session with
          table :=
            (session.table.completeMove w.backend.ask m).1 })
      unfiltered := by
  induction m using session.table.move_induction
      generalizing s with
  | done m hDone =>
      rw [Controller.completeMove_of_isDone hDone]
      refine leadsTo_of_step .finish trivial (leadsTo ?_)
      rw [hStands.step_finish hDone]
      refine ⟨?_, rfl, hStands.unfiltered⟩
      show s.space.alter table _ = _
      rw [hStands.space, Workspace.alter_of_open _ hOpen]
  | loading m hLoad ih =>
      cases hReply : session.table.replyTo w.backend.ask m with
      | error e =>
          rw [Controller.completeMove_of_failure
            w.backend.source_ask hLoad hReply]
          refine leadsTo_of_step (.answer (.error e)) trivial
            (leadsTo ?_)
          rw [hStands.step_answer hLoad]
          exact ⟨hStands.space.trans
              (Workspace.setSession_of_open hOpen).symm,
            rfl, hStands.unfiltered⟩
      | ok rows =>
          rw [Controller.completeMove_of_answer
            w.backend.source_ask hLoad hReply]
          refine leadsTo_of_step (.answer (.ok rows)) trivial
            (ih rows ?_)
          rw [hStands.step_answer hLoad]
          refine ⟨hStands.space, ?_, hStands.unfiltered⟩
          show some (table,
            (s.space.session table).table.feedMove m rows) = _
          rw [hStands.space, Workspace.session_of_open hOpen]

/- So does whatever an operation of a table has begun. -/
theorem leadsTo_perform
    {table : TableKind}
    {session : Session}
    (begun : RowTable × Begun Row Key)
    (hStands :
      s.Stands
        (w.setSession table { session with table := begun.1 })
        (begun.2.move?.map (table, ·)) unfiltered) :
    s.LeadsTo
      (w.setSession table (session.perform w.backend begun).1)
      unfiltered := by
  rcases begun with ⟨c, outcome | e | m⟩
  · exact hStands.leadsTo
  · exact hStands.leadsTo
  · have hLeads := hStands.leadsTo_own
      (w.get_setSession_self table _)
    rw [Workspace.setSession_setSession] at hLeads
    exact hLeads

/- So does what is asked of the table in use. -/
theorem leadsTo_ask
    {now : Nat}
    {errand : Errand RowSource}
    {begun : RowTable × Begun Row Key}
    (hBegun :
      w.current.table.undertake now errand = begun.map id some)
    (hStands :
      s.Stands (w.ask now errand).1 (w.ask now errand).2
        unfiltered) :
    s.LeadsTo
      (w.setCurrent
        (w.current.forgetPending.perform w.backend begun).1)
      unfiltered := by
  refine leadsTo_perform begun ?_
  unfold Workspace.ask Session.undertake at hStands
  rw [hBegun] at hStands
  exact hStands

/- So does what a change of the filter asks of a table, -/
theorem leadsTo_filterTable
    (now : Nat)
    {told : Workspace × List LedgerView.Event}
    {table : TableKind}
    (hStands :
      s.Stands told.1 none (table :: unfiltered)) :
    s.LeadsTo (Workspace.filterTable now told table).1
      unfiltered := by
  have hStep :
      s.step (.filter now table) = s.filterNext now table := by
    unfold step
    dsimp only
    rw [hStands.waiting, hStands.unfiltered]
    simp
  have hNext :
      (s.step (.filter now table)).Stands
        (told.1.beginFilter now table).1
        (told.1.beginFilter now table).2 unfiltered := by
    rw [hStep, ← hStands.space]
    refine ⟨rfl, rfl, ?_⟩
    show s.unfiltered.erase table = unfiltered
    rw [hStands.unfiltered, List.erase_cons_head]
  refine leadsTo_of_step (.filter now table) trivial ?_
  rw [Workspace.filterTable_fst]
  unfold Workspace.beginFilter at hNext
  cases hOpen : told.1.sessions.get table with
  | none =>
      rw [hOpen] at hNext
      rw [Option.map_none, ← hOpen, PerTable.set_get_self]
      exact hNext.leadsTo
  | some session =>
      rw [hOpen] at hNext
      dsimp only at hNext
      unfold Session.beginFilter at hNext
      unfold Session.setFilter
      rw [Option.map_some]
      by_cases hAffects :
          session.filter.affects told.1.filter session.kind = true
      · rw [if_pos hAffects] at hNext ⊢
        exact hNext.leadsTo_perform _
      · rw [if_neg hAffects] at hNext ⊢
        exact hNext.leadsTo

/- and what it asks of one table after another. -/
theorem leadsTo_filterTables
    (now : Nat)
    (tables : List TableKind)
    {told : Workspace × List LedgerView.Event}
    (hStands : s.Stands told.1 none tables) :
    s.LeadsTo
      (tables.foldl (Workspace.filterTable now) told).1 [] := by
  induction tables generalizing s told with
  | nil => exact hStands.leadsTo
  | cons table rest ih =>
      exact (hStands.leadsTo_filterTable now).trans
        fun _ hNext => ih hNext

/- Every command is done to its end. -/
theorem leadsTo_handle
    (hStands : s.Stands w none [])
    (now : Nat)
    (command : Command)
    (hGoesOn : Event.GoesOn (.command now command)) :
    s.LeadsTo (w.handle now command).1 [] := by
  have hNext :
      (s.step (.command now command)).Stands
        (w.undertake now command).1
        (w.undertake now command).2 command.unfiltered := by
    rw [show s.step (.command now command) =
      s.obey now command from if_pos hStands.idle, ← hStands.space]
    exact ⟨rfl, rfl, rfl⟩
  refine leadsTo_of_step (.command now command) hGoesOn ?_
  cases command with
  | switchTable table =>
      show LeadsTo (w.switchTo now table).1 [] _
      unfold Workspace.undertake at hNext
      unfold Workspace.switchTo
      dsimp only at hNext
      by_cases hSame : table = w.active
      · rw [if_pos hSame] at hNext ⊢
        exact hNext.leadsTo
      · rw [if_neg hSame] at hNext ⊢
        exact hNext.leadsTo_ask rfl
  | live =>
      have hBegun : w.current.table.undertake now .live =
          (w.current.table.beginLive now).map id some :=
        rfl
      exact hNext.leadsTo_ask hBegun
  | refresh => exact hNext.leadsTo_ask rfl
  | setPageSize pageSize => exact hNext.leadsTo_ask rfl
  | setFilter filter =>
      exact hNext.leadsTo_filterTables now TableKind.all
  | gotoPage page => exact hNext.leadsTo
  | nextPage => exact hNext.leadsTo
  | previousPage => exact hNext.leadsTo
  | togglePause => exact hNext.leadsTo
  | shutdown => exact hGoesOn.elim

/- A session becomes what happens to it by itself. -/
theorem leadsTo_stirs
    (hStands : s.Stands w none unfiltered)
    {table : TableKind}
    {session : Session}
    (hOpen : w.sessions.get table = some session)
    (stirs : List Session.Stir) :
    s.LeadsTo (w.setSession table (session.stirAll stirs))
      unfiltered := by
  induction stirs generalizing s w session with
  | nil =>
      rw [show session.stirAll [] = session from rfl,
        Workspace.setSession_of_open hOpen]
      exact hStands.leadsTo
  | cons stir rest ih =>
      have hNext :
          (s.step (.stir table stir)).Stands
            (w.setSession table (session.stir stir)) none
            unfiltered := by
        refine ⟨?_, hStands.waiting, hStands.unfiltered⟩
        show s.space.alter table _ = _
        rw [hStands.space, Workspace.alter_of_open _ hOpen]
      have hLeads := ih hNext (w.get_setSession_self table _)
      rw [Workspace.setSession_setSession] at hLeads
      exact leadsTo_of_step (.stir table stir) trivial hLeads

/- So do all sessions, each after the other. -/
theorem leadsTo_mapSessions
    (hStands : s.Stands w none unfiltered)
    {f : Session → Session}
    (hStirs : ∀ session : Session, ∃ stirs,
      session.stirAll stirs = f session) :
    s.LeadsTo (w.mapSessions f) unfiltered := by
  rw [Workspace.mapSessions_eq]
  induction TableKind.all generalizing s w with
  | nil => exact hStands.leadsTo
  | cons table rest ih =>
      refine LeadsTo.trans ?_ fun _ hNext => ih hNext
      show s.LeadsTo (w.alter table f) unfiltered
      cases hOpen : w.sessions.get table with
      | none =>
          rw [Workspace.alter_of_none f hOpen]
          exact hStands.leadsTo
      | some session =>
          rcases hStirs session with ⟨stirs, hEnd⟩
          rw [Workspace.alter_of_open f hOpen, ← hEnd]
          exact hStands.leadsTo_stirs hOpen stirs

/- What happens to a workspace at once can happen in steps, -/
theorem leadsTo_undergo
    (hStands : s.Stands w none [])
    (deed : Workspace.Deed)
    (hGoesOn : deed.GoesOn) :
    s.LeadsTo (w.undergo deed) [] := by
  cases deed with
  | command now command =>
      refine hStands.leadsTo_handle now command ?_
      cases command with
      | shutdown => exact hGoesOn.elim
      | _ => trivial
  | settle =>
      refine leadsTo_of_step .settle trivial (leadsTo ?_)
      rw [show s.step .settle = s.become s.space.settle.1 from
        if_pos hStands.idle, ← hStands.space]
      exact ⟨rfl, hStands.waiting, hStands.unfiltered⟩
  | background =>
      exact hStands.leadsTo_mapSessions
        (Session.exists_stirs_runBackground w.backend)
  | advance moment =>
      exact hStands.leadsTo_mapSessions
        (Session.exists_stirs_advance w.backend moment)
  | supply backend =>
      refine leadsTo_of_step (.supply backend) trivial
        (leadsTo ?_)
      rw [← hStands.space]
      exact ⟨rfl, hStands.waiting, hStands.unfiltered⟩

/- and so can whatever happens to it in turn. -/
theorem leadsTo_run
    (hStands : s.Stands w none [])
    (deeds : List Workspace.Deed)
    (hGoesOn : ∀ deed ∈ deeds, deed.GoesOn) :
    s.LeadsTo (w.run deeds) [] := by
  induction deeds generalizing s w with
  | nil => exact hStands.leadsTo
  | cons deed rest ih =>
      rw [List.forall_mem_cons] at hGoesOn
      exact (hStands.leadsTo_undergo deed hGoesOn.1).trans
        fun _ hNext => ih hNext hGoesOn.2

end Stands

/-
  Overlapping covers running to the end.  Wherever a workspace
  starts and whatever happens to it in turn, with every move
  completed before anything else, some events on which it goes
  on lead there.
-/
theorem start_leadsTo_run
    (settings : Settings)
    (deeds : List Workspace.Deed)
    (hGoesOn : ∀ deed ∈ deeds, deed.GoesOn) :
    let place := Worker.placeOf settings
    (start settings).LeadsTo
      ((Workspace.openAt settings.backend settings.config place.1
        place.2.1 0).1.run deeds) [] := by
  intro place
  have hMounting : (start settings).Stands
      ((opening settings).space.ask 0 .mount).1
      ((opening settings).space.ask 0 .mount).2 [] :=
    ⟨rfl, rfl, rfl⟩
  have hOpened : (start settings).LeadsTo
      (Workspace.openAt settings.backend settings.config place.1
        place.2.1 0).1 [] := by
    rw [Workspace.openAt_eq]
    exact hMounting.leadsTo_ask rfl
  exact hOpened.trans fun _ hStands =>
    hStands.leadsTo_run deeds hGoesOn

end SpaceTraffic

end LedgerView
