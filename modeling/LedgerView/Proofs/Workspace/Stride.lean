import LedgerView.Proofs.Workspace.Traffic

/-
  What one event makes of the tables of a workspace.

  Whatever happens, the session of a table is asked for
  something, is filtered, lives on by itself, or stays as it is.
  Only the table in use is asked for anything but to be
  unmounted.  So the tables that are not in use are unmounted,
  and a command only ever waits for the table in use.

  Key definitions include:
    * `Session.Stride`
    * `Workspace.Passes`
    * `SpaceTraffic.Stride`
    * `SpaceTraffic.Away`
    * `SpaceTraffic.Attended`

  Key theorems include:
    * `SpaceTraffic.stride_step`
    * `SpaceTraffic.aborts_step`
    * `SpaceTraffic.Attended.passes`
    * `SpaceTraffic.Attended.step`
-/

namespace LedgerView

------------------------------------------------------------
-- Sessions
------------------------------------------------------------

namespace Session

/-
  What may become of the session of a table that is or is not
  out of use afterwards.
-/
inductive Stride
    (backend : Backend)
    (filter : Filter)
    (away : Prop)
    (s : Session) : Session → Prop where
  | kept :
      Stride backend filter away s s
  | asked (now : Nat) (errand : Errand RowSource)
      (hKeeps : errand.KeepsSource)
      (hAway : away ↔ errand = .unmount) :
      Stride backend filter away s (s.undertake now errand).1
  | paused (now : Nat) (hUse : ¬away) :
      Stride backend filter away s (s.togglePause now).1
  | moved (page : Nat) (hUse : ¬away) :
      Stride backend filter away s (s.goto page).1
  /- The move of a command ends. -/
  | ended (m : Move Row Key) (hUse : ¬away) :
      Stride backend filter away s
        { s with table := (s.table.finish m).1 }
  | refiltered (now : Nat) :
      Stride backend filter away s
        (s.beginFilter backend now filter).1
  | stirred (stir : Stir) :
      Stride backend filter away s (s.stir stir)
  | settled :
      Stride backend filter away s s.settle.1

/- What may become of a session by itself. -/
inductive Stirs
    (s : Session) : Stir → Session → Prop where
  | idle (stir : Stir) :
      Stirs s stir s
  | answered (place : Nat) (entry : Nat × Move Row Key)
      (rows : Option (List Row))
      (hEntry : s.background[place]? = some entry) :
      Stirs s (.answer place (.ok rows))
        { s with
          background :=
            s.background.set place
              (entry.1, s.table.feedMove entry.2 rows) }
  | failed (place : Nat) (entry : Nat × Move Row Key)
      (e : SourceError)
      (hEntry : s.background[place]? = some entry) :
      Stirs s (.answer place (.error e))
        ({ s with
          background :=
            s.background.eraseIdx place }.noteEnd entry.1
          (.error (.source e)))
  | finished (place : Nat) (entry : Nat × Move Row Key)
      (hEntry : s.background[place]? = some entry) :
      Stirs s (.finish place)
        ({ s with
          table := (s.table.finish entry.2).1
          background :=
            s.background.eraseIdx place }.noteEnd entry.1
          (.ok (s.table.finish entry.2).2))
  | beat (beat : Beat Row) :
      Stirs s (.beat beat)
        { s with table := s.table.beat beat }

/- Nothing else does. -/
theorem stirs_stir
    (s : Session)
    (stir : Stir) :
    s.Stirs stir (s.stir stir) := by
  cases stir with
  | answer place reply =>
      unfold Session.stir
      dsimp only
      unfold answerMove
      split
      · next id m hEntry =>
          split
          · exact .idle _
          · split
            · exact .answered place (id, m) _ hEntry
            · exact .failed place (id, m) _ hEntry
      · exact .idle _
  | finish place =>
      unfold Session.stir
      dsimp only
      unfold finishMove
      split
      · next id m hEntry =>
          split
          · exact .finished place (id, m) hEntry
          · exact .idle _
      · exact .idle _
  | beat beat => exact .beat beat

/- Noting an end changes the pending move at most. -/
theorem noteEnd_parts
    (s : Session)
    (id : Nat)
    (ended : Ended) :
    (s.noteEnd id ended).Alike s ∧
      (s.noteEnd id ended).table = s.table ∧
      (s.noteEnd id ended).background = s.background ∧
      (s.noteEnd id ended).nextId = s.nextId := by
  unfold noteEnd
  split
  · split <;> exact ⟨⟨rfl, rfl⟩, rfl, rfl, rfl⟩
  · exact ⟨⟨rfl, rfl⟩, rfl, rfl, rfl⟩

/- A move that is not pending stays so. -/
theorem noteEnd_of_none
    {s : Session}
    (hNone : s.pending = none)
    (id : Nat)
    (ended : Ended) :
    s.noteEnd id ended = s := by
  unfold noteEnd
  rw [hNone]

/- A move to a page is asked of the table, or refused. -/
theorem goto_table
    (s : Session)
    (page : Nat) :
    (s.goto page).1 = s ∨
      (s.goto page).1.table =
        (s.table.undertake 0 (.goto page)).1 := by
  unfold goto
  split
  · exact .inl rfl
  · refine .inr ?_
    dsimp only
    split <;>
    · next hBegun =>
        change s.table.beginGoto page = _ at hBegun
        exact (congrArg Prod.fst hBegun).symm

/- So it is a stride of a table in use. -/
theorem stride_step
    {backend : Backend}
    {filter : Filter}
    {away : Prop}
    {s : Session}
    (hUse : ¬away)
    (forward : Bool) :
    s.Stride backend filter away (s.step forward).1 := by
  rcases s.step_fst forward with hSame | ⟨page, hGoto⟩
  · rw [hSame]
    exact .kept
  · rw [hGoto]
    exact .moved page hUse

/- What happens to a session by itself keeps the mode. -/
theorem mode_stir
    (s : Session)
    (stir : Stir) :
    (s.stir stir).table.mode = s.table.mode := by
  have hStirs := s.stirs_stir stir
  generalize s.stir stir = s' at hStirs
  cases hStirs with
  | idle => rfl
  | answered place entry rows hEntry => rfl
  | failed place entry e hEntry =>
      rw [(noteEnd_parts _ _ _).2.1]
  | finished place entry hEntry =>
      rw [(noteEnd_parts _ _ _).2.1]
      exact (s.table.finish_parts entry.2).2.1
  | beat beat => exact (s.table.resembles_beat beat).mode

/- So does the beginning of a filter. -/
theorem mode_beginFilter
    (backend : Backend)
    (now : Nat)
    (filter : Filter)
    (s : Session) :
    (s.beginFilter backend now filter).1.table.mode =
      s.table.mode := by
  unfold beginFilter
  split
  · exact Controller.mode_undertake now _ (.replace _)
  · rfl

/-
  A session keeps its mode, or is unmounted if and only if its
  table is out of use.
-/
theorem Stride.mode
    {backend : Backend}
    {filter : Filter}
    {away : Prop}
    {s s' : Session}
    (hStride : s.Stride backend filter away s') :
    s'.table.mode = s.table.mode ∨
      (s'.table.mode = .unmounted ↔ away) := by
  cases hStride with
  | kept => exact .inl rfl
  | asked now errand hKeeps hAway =>
      have hMode : (s.undertake now errand).1.table.mode =
          s.table.modeAfter errand :=
        s.table.mode_undertake now errand
      rw [hMode, hAway]
      cases errand with
      | mount =>
          refine .inr ?_
          simp only [Controller.modeAfter]
          split <;> simp
      | unmount => simp [Controller.modeAfter]
      | live => simp [Controller.modeAfter]
      | goto page => simp [Controller.modeAfter]
      | next => simp [Controller.modeAfter]
      | previous => simp [Controller.modeAfter]
      | replace source => exact absurd hKeeps id
      | _ => exact .inl rfl
  | paused now hUse => exact .inl (s.mode_togglePause now)
  | moved page hUse =>
      rcases s.goto_table page with hSame | hTable
      · rw [hSame]
        exact .inl rfl
      · refine .inr ?_
        rw [hTable, Controller.mode_undertake]
        simp [Controller.modeAfter, hUse]
  | ended m hUse => exact .inl (s.table.finish_parts m).2.1
  | refiltered now =>
      exact .inl (s.mode_beginFilter backend now filter)
  | stirred stir => exact .inl (s.mode_stir stir)
  | settled => exact .inl (by rw [table_settle])

/- A table that is out of use, and was not shown, stays so. -/
theorem Stride.unmounted
    {backend : Backend}
    {filter : Filter}
    {away : Prop}
    {s s' : Session}
    (hStride : s.Stride backend filter away s')
    (hAway : away)
    (hUnmounted : s.table.mode = .unmounted) :
    s'.table.mode = .unmounted := by
  rcases hStride.mode with hSame | hUse
  · exact hSame.trans hUnmounted
  · exact hUse.mpr hAway

end Session

------------------------------------------------------------
-- Workspaces
------------------------------------------------------------

namespace Workspace

variable {w : Workspace}

/- A session that is put at a table is found there. -/
@[simp]
theorem get_setSession_self
    (w : Workspace)
    (table : TableKind)
    (s : Session) :
    (w.setSession table s).sessions.get table = some s :=
  PerTable.get_set_self _ _ _

/- The session that is found was put there, or was there. -/
theorem of_get_setSession
    {table other : TableKind}
    {s s' : Session}
    (hOpen :
      (w.setSession table s).sessions.get other = some s') :
    (other = table ∧ s' = s) ∨
      (other ≠ table ∧ w.sessions.get other = some s') := by
  by_cases hOther : other = table
  · subst hOther
    rw [get_setSession_self] at hOpen
    exact .inl ⟨rfl, (Option.some.inj hOpen).symm⟩
  · refine .inr ⟨hOther, ?_⟩
    exact (PerTable.get_set_of_ne _ _ hOther).symm.trans hOpen

/- No table is closed by putting a session somewhere. -/
theorem isSome_setSession
    {table other : TableKind}
    (s : Session)
    (hOpen : (w.sessions.get other).isSome = true) :
    ((w.setSession table s).sessions.get other).isSome =
      true := by
  by_cases hOther : other = table
  · subst hOther
    simp
  · unfold setSession
    dsimp only
    rw [PerTable.get_set_of_ne _ _ hOther]
    exact hOpen

/- What holds of a session, whether or not it is open. -/
theorem session_induction
    {Holds : Session → Prop}
    {table : TableKind}
    (hOpen : ∀ s, w.sessions.get table = some s → Holds s)
    (hFresh : Holds (w.freshSession table)) :
    Holds (w.session table) := by
  unfold session
  cases hGet : w.sessions.get table with
  | none => exact hFresh
  | some s => exact hOpen s hGet

/- A change of a table that is open is put there, -/
theorem alter_of_open
    {table : TableKind}
    {s : Session}
    (f : Session → Session)
    (hOpen : w.sessions.get table = some s) :
    w.alter table f = w.setSession table (f s) := by
  unfold alter
  rw [hOpen]
  rfl

/- and of one that is not there is none. -/
theorem alter_of_none
    {table : TableKind}
    (f : Session → Session)
    (hNone : w.sessions.get table = none) :
    w.alter table f = w := by
  unfold alter
  rw [hNone, Option.map_none, ← hNone, PerTable.set_get_self]

/-
  The table in use and the common filter after the first part of
  a command.
-/
theorem undertake_parts
    (now : Nat)
    (w : Workspace)
    (command : Command) :
    (w.undertake now command).1.active =
        command.tableAfter w.active ∧
      (w.undertake now command).1.filter =
        command.filterAfter w.filter := by
  cases command with
  | switchTable table =>
      unfold undertake
      dsimp only
      split
      · next hSame => exact ⟨hSame.symm, rfl⟩
      · exact ⟨rfl, rfl⟩
  | gotoPage page =>
      unfold undertake
      dsimp only
      rw [goto_fst]
      exact ⟨rfl, rfl⟩
  | nextPage =>
      unfold undertake
      dsimp only
      rw [step_fst]
      exact ⟨rfl, rfl⟩
  | previousPage =>
      unfold undertake
      dsimp only
      rw [step_fst]
      exact ⟨rfl, rfl⟩
  | _ => exact ⟨rfl, rfl⟩

/- The table that is gone to has the session it had. -/
theorem current_leaveFor
    {table : TableKind}
    (hOther : table ≠ w.active) :
    (w.leaveFor table).current = w.session table := by
  unfold current session
  rw [show (w.leaveFor table).sessions.get
    (w.leaveFor table).active = w.sessions.get table from
      PerTable.get_set_of_ne _ _ hOther]
  rfl

/- A table that is left is unmounted at once. -/
theorem get_left
    (now : Nat)
    (w : Workspace)
    {command : Command}
    (hLeft : w.active ≠ command.tableAfter w.active) :
    (w.undertake now command).1.sessions.get w.active =
      some w.current.unmount := by
  cases command with
  | switchTable table =>
      change w.active ≠ table at hLeft
      unfold undertake
      dsimp only
      rw [if_neg (Ne.symm hLeft)]
      exact (PerTable.get_set_of_ne _ _ hLeft).trans
        (w.get_setSession_self w.active _)
  | _ => exact absurd rfl hLeft

------------------------------------------------------------
-- Passing On
------------------------------------------------------------

/-
  What may become of a workspace: no table is closed, and every
  session makes a stride.
-/
structure Passes
    (backend : Backend)
    (filter : Filter)
    (away : TableKind → Prop)
    (w w' : Workspace) : Prop where
  opened : ∀ {table},
    (w.sessions.get table).isSome = true →
      (w'.sessions.get table).isSome = true
  stride : ∀ {table s},
    w'.sessions.get table = some s →
      (w.session table).Stride backend filter (away table) s

namespace Passes

variable {backend : Backend} {filter : Filter}
variable {away : TableKind → Prop}

/- A workspace whose sessions stay passes. -/
theorem same
    {w' : Workspace}
    (hSame : w'.sessions = w.sessions) :
    w.Passes backend filter away w' := by
  constructor
  · intro table hOpen
    rw [hSame]
    exact hOpen
  · intro table s hOpen
    rw [hSame] at hOpen
    rw [session_of_open hOpen]
    exact .kept

/- So does one in which a session makes a stride, -/
theorem setSession
    {table : TableKind}
    {s : Session}
    (hStride : (w.session table).Stride backend filter
      (away table) s) :
    w.Passes backend filter away (w.setSession table s) := by
  constructor
  · intro other hOpen
    exact isSome_setSession s hOpen
  · intro other s' hOpen
    rcases of_get_setSession hOpen with
      ⟨hTable, hSame⟩ | ⟨-, hOpen⟩
    · rw [hTable, hSame]
      exact hStride
    · rw [session_of_open hOpen]
      exact .kept

/- if it is open, -/
theorem alter
    {table : TableKind}
    {f : Session → Session}
    (hStride : (w.session table).Stride backend filter
      (away table) (f (w.session table))) :
    w.Passes backend filter away (w.alter table f) := by
  cases hGet : w.sessions.get table with
  | some s =>
      rw [session_of_open hGet] at hStride
      rw [alter_of_open f hGet]
      refine setSession ?_
      rw [session_of_open hGet]
      exact hStride
  | none =>
      rw [alter_of_none f hGet]
      exact same rfl

/- and one in which the table in use is asked for something. -/
theorem ask
    (now : Nat)
    {errand : Errand RowSource}
    (hKeeps : errand.KeepsSource)
    (hAway : away w.active ↔ errand = .unmount) :
    w.Passes backend filter away (w.ask now errand).1 :=
  setSession (.asked now errand hKeeps hAway)

/- The table in use is asked to change the page size, -/
theorem setPageSize
    (now pageSize : Nat)
    (config : PagerConfig)
    (hOpen : (w.sessions.get w.active).isSome = true)
    (hUse : ¬away w.active) :
    w.Passes backend filter away
      ({ w with config := config }.ask now
        (.setPageSize pageSize)).1 := by
  let sized : Workspace := { w with config := config }
  have hAsked : sized.Passes backend filter away
      (sized.ask now (.setPageSize pageSize)).1 :=
    ask now trivial (by simpa [sized] using hUse)
  rcases Option.isSome_iff_exists.mp hOpen with ⟨s, hGet⟩
  have hGet' : sized.sessions.get w.active = some s := hGet
  have hCurrent : sized.session w.active = w.session w.active :=
    (session_of_open hGet').trans (session_of_open hGet).symm
  constructor
  · intro table hTable
    exact hAsked.opened hTable
  · intro table s' hTable
    rcases of_get_setSession (w := sized) hTable with
      ⟨hActive, -⟩ | ⟨-, hBefore⟩
    · rw [hActive] at hTable ⊢
      rw [← hCurrent]
      exact hAsked.stride hTable
    · rw [session_of_open (w := w) hBefore]
      exact .kept

/- All tables may be closed, once they are all out of use. -/
theorem close
    (hAway : ∀ table, away table) :
    w.Passes backend filter away w.close := by
  constructor
  · intro table hOpen
    simpa [Workspace.close, mapSessions] using hOpen
  · intro table s hOpen
    rcases of_get_mapSessions hOpen with ⟨before, hBefore, hSame⟩
    rw [session_of_open hBefore, ← hSame]
    exact .asked 0 .unmount trivial (by simp [hAway])

/- A table is left, and another one is mounted. -/
theorem switch
    (now : Nat)
    {table : TableKind}
    (hOther : table ≠ w.active)
    (hAway : ∀ other, away other ↔ other ≠ table) :
    w.Passes backend filter away
      ((w.leaveFor table).ask now .mount).1 := by
  constructor
  · intro other hOpen
    exact isSome_setSession (w := w.leaveFor table) _
      (isSome_setSession _ hOpen)
  · intro other s hOpen
    rcases of_get_setSession (w := w.leaveFor table) hOpen with
      ⟨hShown, hMounted⟩ | ⟨hShown, hOpen⟩
    · change other = table at hShown
      rw [hMounted, current_leaveFor hOther, hShown]
      exact .asked now .mount trivial (by simp [hAway])
    · have hAside : away other := (hAway other).mpr hShown
      rcases of_get_setSession (w := w) hOpen with
        ⟨hLeft, hUnmounted⟩ | ⟨-, hOpen⟩
      · rw [hUnmounted, hLeft]
        rw [hLeft] at hAside
        exact .asked now .unmount trivial (by simp [hAside])
      · rw [session_of_open hOpen]
        exact .kept

/- A workspace passes by the first part of each command. -/
theorem undertake
    (now : Nat)
    (hOpen : (w.sessions.get w.active).isSome = true)
    {command : Command}
    (hAway : ∀ table, away table ↔
      table ≠ command.tableAfter w.active ∨
        command = .shutdown) :
    w.Passes backend filter away
      (w.undertake now command).1 := by
  have hUse (hGoesOn : command ≠ .shutdown)
      (hActive : command.tableAfter w.active = w.active) :
      ¬away w.active := by
    simp [hAway, hActive, hGoesOn]
  cases command with
  | switchTable table =>
      unfold Workspace.undertake
      dsimp only
      split
      · exact same rfl
      · next hOther =>
          exact switch now hOther (by simp [hAway, Command.tableAfter])
  | gotoPage page =>
      show w.Passes backend filter away (w.goto page).1
      rw [goto_fst]
      exact setSession (.moved page (hUse nofun rfl))
  | nextPage =>
      show w.Passes backend filter away (w.step true).1
      rw [step_fst]
      exact setSession
        (Session.stride_step (hUse nofun rfl) true)
  | previousPage =>
      show w.Passes backend filter away (w.step false).1
      rw [step_fst]
      exact setSession
        (Session.stride_step (hUse nofun rfl) false)
  | live =>
      exact ask now trivial (by simp [hUse nofun rfl])
  | togglePause =>
      exact setSession (.paused now (hUse nofun rfl))
  | refresh =>
      exact ask now trivial (by simp [hUse nofun rfl])
  | setPageSize pageSize =>
      exact setPageSize now pageSize _ hOpen (hUse nofun rfl)
  | setFilter filter => exact same rfl
  | shutdown => exact close (by simp [hAway])

end Passes

/- The table in use after a command is open. -/
theorem isSome_undertake
    (now : Nat)
    (hOpen : (w.sessions.get w.active).isSome = true)
    (command : Command) :
    ((w.undertake now command).1.sessions.get
      (w.undertake now command).1.active).isSome = true := by
  by_cases hLeft : command.tableAfter w.active = w.active
  · let away := fun table =>
      table ≠ command.tableAfter w.active ∨ command = .shutdown
    have hPasses : w.Passes w.backend w.filter away _ :=
      .undertake now hOpen fun _ => Iff.rfl
    rw [(undertake_parts _ _ _).1, hLeft]
    exact hPasses.opened hOpen
  · cases command with
    | switchTable table =>
        change table ≠ w.active at hLeft
        unfold undertake
        dsimp only
        rw [if_neg hLeft]
        simp [Workspace.ask, setCurrent, setSession]
    | _ => exact absurd rfl hLeft

/- A command waits for a move of the table then in use. -/
theorem own_undertake
    {now : Nat}
    {command : Command}
    {own : OwnMove}
    (hOwn : (w.undertake now command).2 = some own) :
    own.1 = (w.undertake now command).1.active := by
  have hAsk {w : Workspace} {errand : Errand RowSource}
      {own : OwnMove}
      (hOwn : (w.ask now errand).2 = some own) :
      own.1 = (w.ask now errand).1.active := by
    unfold ask at hOwn
    dsimp only at hOwn
    rw [Option.map_eq_some_iff] at hOwn
    rcases hOwn with ⟨m, -, hSame⟩
    rw [← hSame]
    rfl
  cases command with
  | switchTable table =>
      unfold undertake at hOwn ⊢
      dsimp only at hOwn ⊢
      split at hOwn
      · exact nomatch hOwn
      · next hOther =>
          rw [if_neg hOther]
          exact hAsk hOwn
  | live => exact hAsk hOwn
  | refresh => exact hAsk hOwn
  | setPageSize pageSize => exact hAsk hOwn
  | _ => exact nomatch hOwn

/- A change of the filter only waits for a table that is shown. -/
theorem own_beginFilter
    {now : Nat}
    {table : TableKind}
    {own : OwnMove}
    (hOwn : (w.beginFilter now table).2 = some own) :
    own.1 = table ∧ ∃ s, w.sessions.get table = some s ∧
      s.table.mode ≠ .unmounted := by
  unfold beginFilter at hOwn
  split at hOwn
  · next s hGet =>
      dsimp only at hOwn
      rw [Option.map_eq_some_iff] at hOwn
      rcases hOwn with ⟨m, hMove, hSame⟩
      refine ⟨by rw [← hSame], s, hGet, fun hUnmounted => ?_⟩
      unfold Session.beginFilter at hMove
      split at hMove
      · dsimp only at hMove
        rw [Controller.beginReplace_eq,
          show ({ s.table with
            nav := (w.filter.restrictTo s.kind).write
              s.table.nav } : RowTable).mode = .unmounted from
            hUnmounted] at hMove
        cases hMove
      · cases hMove
  · cases hOwn

/- The beginning of a filter passes. -/
theorem passes_beginFilter
    (now : Nat)
    (w : Workspace)
    (table : TableKind)
    (away : TableKind → Prop) :
    w.Passes w.backend w.filter away
      (w.beginFilter now table).1 := by
  unfold beginFilter
  split
  · next s hGet =>
      refine .setSession ?_
      rw [session_of_open hGet]
      exact .refiltered now
  · exact .same rfl

/- It leaves the table in use and the common filter. -/
theorem beginFilter_parts
    (now : Nat)
    (w : Workspace)
    (table : TableKind) :
    (w.beginFilter now table).1.active = w.active ∧
      (w.beginFilter now table).1.filter = w.filter := by
  unfold beginFilter
  split <;> exact ⟨rfl, rfl⟩

/- No table aborts on the way to itself. -/
theorem abortsSince_self
    (w : Workspace) :
    w.abortsSince w = 0 := by
  simp [abortsSince, Controller.abortsSince]

/- What one table aborted is part of what all tables did. -/
theorem abortsSince_le
    (w w' : Workspace)
    (table : TableKind) :
    (w.session table).table.abortsSince
        (w'.session table).table ≤
      w.abortsSince w' := by
  unfold abortsSince
  refine List.single_le_sum (fun _ _ => Nat.zero_le _) _ ?_
  refine List.mem_map.mpr ⟨table, ?_, rfl⟩
  cases table <;> simp [TableKind.all]

end Workspace

------------------------------------------------------------
-- Workspaces under Traffic
------------------------------------------------------------

namespace SpaceTraffic

variable {s : SpaceTraffic}

/- What can become of a workspace under traffic in a step. -/
inductive Stride
    (s : SpaceTraffic) : Event → SpaceTraffic → Prop where
  | obeyed (now : Nat) (command : Command)
      (hIdle : s.idle = true) :
      Stride s (.command now command) (s.obey now command)
  | filtered (now : Nat) (table : TableKind)
      (hNext : table ∈ s.unfiltered) :
      Stride s (.filter now table) (s.filterNext now table)
  | answered (own : Workspace.OwnMove) (reply : Reply Row)
      (hOwn : s.waiting = some own) :
      Stride s (.answer reply) (s.answerOwn own reply)
  | finished (own : Workspace.OwnMove)
      (hOwn : s.waiting = some own) :
      Stride s .finish (s.finishOwn own)
  | stirred (table : TableKind) (stir : Session.Stir) :
      Stride s (.stir table stir)
        (s.become (s.space.alter table (Session.stir · stir)))
  | settled :
      Stride s .settle (s.become s.space.settle.1)
  | supplied (backend : Backend) :
      Stride s (.supply backend)
        (s.become { s.space with backend := backend })
  | idle (event : Event) :
      Stride s event s

/- Nothing else can. -/
theorem stride_step
    (s : SpaceTraffic)
    (event : Event) :
    s.Stride event (s.step event) := by
  unfold step
  cases event with
  | command now command =>
      dsimp only
      split
      · next hIdle => exact .obeyed now command hIdle
      · exact .idle _
  | filter now table =>
      dsimp only
      split
      · next hNext =>
          rw [Bool.and_eq_true, List.contains_iff_mem] at hNext
          exact .filtered now table hNext.2
      · exact .idle _
  | answer reply =>
      dsimp only
      split
      · next own hOwn =>
          split
          · exact .idle _
          · exact .answered own reply hOwn
      · exact .idle _
  | finish =>
      dsimp only
      split
      · next own hOwn =>
          split
          · exact .finished own hOwn
          · exact .idle _
      · exact .idle _
  | stir table stir => exact .stirred table stir
  | settle =>
      dsimp only
      split
      · exact .settled
      · exact .idle _
  | supply backend => exact .supplied backend

/- What the end of an answer leaves as it is. -/
theorem answerOwn_parts
    (s : SpaceTraffic)
    (own : Workspace.OwnMove)
    (reply : Reply Row) :
    (s.answerOwn own reply).space = s.space ∧
      (s.answerOwn own reply).aborts = s.aborts ∧
      (s.answerOwn own reply).unfiltered = s.unfiltered := by
  unfold answerOwn
  split <;> exact ⟨rfl, rfl, rfl⟩

/- Every abort is counted when it happens. -/
theorem aborts_step
    (s : SpaceTraffic)
    (event : Event) :
    (s.step event).aborts =
      s.aborts + s.space.abortsSince (s.step event).space := by
  have hStride := s.stride_step event
  generalize s.step event = s' at hStride
  cases hStride with
  | obeyed now command hIdle => rfl
  | filtered now table hNext => rfl
  | answered own reply hOwn =>
      rcases s.answerOwn_parts own reply with ⟨hSpace, hAborts, -⟩
      rw [hSpace, hAborts, s.space.abortsSince_self, Nat.add_zero]
  | finished own hOwn => rfl
  | stirred table stir => rfl
  | settled => rfl
  | supplied backend => rfl
  | idle event =>
      rw [s.space.abortsSince_self, Nat.add_zero]

/-
  Only a command changes the table in use, the common filter or
  the tables to be filtered; but tables are filtered one by one.
-/
theorem common_step
    (s : SpaceTraffic)
    (event : Event) :
    (∃ now command, s.idle = true ∧
        event = .command now command ∧
        s.step event = s.obey now command) ∨
      (s.step event).space.active = s.space.active ∧
        (s.step event).space.filter = s.space.filter ∧
        ((s.step event).unfiltered = s.unfiltered ∨
          ∃ now table, s.step event = s.filterNext now table) := by
  have hStride := s.stride_step event
  generalize s.step event = s' at hStride
  cases hStride with
  | obeyed now command hIdle =>
      exact .inl ⟨now, command, hIdle, rfl, rfl⟩
  | filtered now table hNext =>
      have hParts := s.space.beginFilter_parts now table
      exact .inr ⟨hParts.1, hParts.2, .inr ⟨now, table, rfl⟩⟩
  | answered own reply hOwn =>
      rcases s.answerOwn_parts own reply with
        ⟨hSpace, -, hUnfiltered⟩
      rw [hSpace]
      exact .inr ⟨rfl, rfl, .inl hUnfiltered⟩
  | finished own hOwn => exact .inr ⟨rfl, rfl, .inl rfl⟩
  | stirred table stir => exact .inr ⟨rfl, rfl, .inl rfl⟩
  | settled =>
      have hParts := s.space.settle_parts
      exact .inr ⟨hParts.1, hParts.2, .inl rfl⟩
  | supplied backend => exact .inr ⟨rfl, rfl, .inl rfl⟩
  | idle event => exact .inr ⟨rfl, rfl, .inl rfl⟩

/- A table that goes out of use is unmounted by what happens. -/
theorem eq_unmount_of_left
    {s : SpaceTraffic}
    {event : Event}
    {session : Session}
    (hOpen :
      (s.step event).space.sessions.get s.space.active =
        some session)
    (hOther : s.space.active ≠ (s.step event).space.active) :
    session = s.space.current.unmount := by
  rcases s.common_step event with
    ⟨now, command, -, -, hStep⟩ | ⟨hSame, -, -⟩
  · rw [hStep] at hOther hOpen
    have hLeft := s.space.get_left now
      (ne_of_ne_of_eq hOther
        (s.space.undertake_parts now command).1)
    exact Option.some.inj (hOpen.symm.trans hLeft)
  · exact absurd hSame.symm hOther

/- Whether a table is out of use after an event. -/
def Away
    (s : SpaceTraffic)
    (event : Event)
    (table : TableKind) : Prop :=
  table ≠ (s.step event).space.active ∨ ¬event.GoesOn

/-
  What holds of a workspace under traffic: the table in use is
  open, a command waits for that table, and no other table is
  shown.
-/
structure Attended
    (s : SpaceTraffic) : Prop where
  present :
    (s.space.sessions.get s.space.active).isSome = true
  own : ∀ own, s.waiting = some own → own.1 = s.space.active
  hidden : ∀ {table session},
    s.space.sessions.get table = some session →
      table ≠ s.space.active → session.table.mode = .unmounted

/- Only the first table is open before it is mounted, -/
theorem of_get_opening
    {settings : Settings}
    {table : TableKind}
    {session : Session}
    (hOpen :
      (opening settings).space.sessions.get table =
        some session) :
    let place := Worker.placeOf settings
    table = place.1 ∧
      session = .new settings.backend place.1 settings.config
        place.2.1 := by
  intro place
  rcases Workspace.of_get_setSession hOpen with
    hFirst | ⟨-, hOpen⟩
  · exact hFirst
  · rw [PerTable.get_all] at hOpen
    exact nomatch hOpen

/- and when it is being mounted. -/
theorem of_get_start
    {settings : Settings}
    {table : TableKind}
    {session : Session}
    (hOpen :
      (start settings).space.sessions.get table =
        some session) :
    table = (opening settings).space.active ∧
      session =
        ((opening settings).space.current.undertake 0
          .mount).1 := by
  let w := (opening settings).space
  rcases Workspace.of_get_setSession (w := w) hOpen with
    hMounted | ⟨hOther, hOpen⟩
  · exact hMounted
  · exact absurd (of_get_opening hOpen).1 hOther

/- A workspace is attended when it starts. -/
theorem attended_start
    (settings : Settings) :
    (start settings).Attended := by
  let w := (opening settings).space
  constructor
  · exact congrArg Option.isSome
      (w.get_setSession_self w.active _)
  · intro own hOwn
    change (w.ask 0 .mount).2 = some own at hOwn
    unfold Workspace.ask at hOwn
    dsimp only at hOwn
    rw [Option.map_eq_some_iff] at hOwn
    rcases hOwn with ⟨m, -, hSame⟩
    rw [← hSame]
    rfl
  · intro table session hOpen hOther
    exact absurd (of_get_start hOpen).1 hOther

namespace Attended

/- Every event makes an attended workspace pass. -/
theorem passes
    (hAttended : s.Attended)
    (event : Event) :
    s.space.Passes s.space.backend s.space.filter
      (s.Away event) (s.step event).space := by
  have hUse (hStays :
      (s.step event).space.active = s.space.active)
      (hGoesOn : event.GoesOn) :
      ¬s.Away event s.space.active := by
    rintro (hOther | hEnds)
    · exact hOther hStays.symm
    · exact hEnds hGoesOn
  have hAway table : s.Away event table ↔
      table ≠ (s.step event).space.active ∨ ¬event.GoesOn :=
    Iff.rfl
  have hStride := s.stride_step event
  generalize s.Away event = away at hUse hAway
  generalize s.step event = s' at hStride hUse hAway
  cases hStride with
  | obeyed now command hIdle =>
      refine .undertake now hAttended.present fun table => ?_
      have hEnds :
          ¬(Event.command now command).GoesOn ↔
            command = .shutdown := by
        cases command <;> simp [Event.GoesOn]
      rw [hAway, hEnds]
      exact or_congr_left (by
        rw [← (s.space.undertake_parts now command).1]
        rfl)
  | filtered now table hNext =>
      exact s.space.passes_beginFilter now table away
  | answered own reply hOwn =>
      rw [(s.answerOwn_parts own reply).1]
      exact .same rfl
  | finished own hOwn =>
      have hShown := hUse rfl trivial
      rw [← hAttended.own own hOwn] at hShown
      exact .alter (.ended own.2 hShown)
  | stirred table stir => exact .alter (.stirred stir)
  | settled =>
      show s.space.Passes _ _ _ s.space.settle.1
      rw [Workspace.settle_fst]
      exact .setSession .settled
  | supplied backend => exact .same rfl
  | idle event => exact .same rfl

/- What a command waits for is on the table in use. -/
theorem own_step
    (hAttended : s.Attended)
    {event : Event}
    {own : Workspace.OwnMove}
    (hOwn : (s.step event).waiting = some own) :
    own.1 = (s.step event).space.active := by
  have hStride := s.stride_step event
  generalize s.step event = s' at hStride hOwn
  cases hStride with
  | obeyed now command hIdle =>
      exact Workspace.own_undertake hOwn
  | filtered now table hNext =>
      rcases Workspace.own_beginFilter hOwn with
        ⟨hTable, session, hOpen, hShown⟩
      refine Eq.trans ?_
        (s.space.beginFilter_parts now table).1.symm
      rw [hTable]
      by_contra hOther
      exact hShown (hAttended.hidden hOpen hOther)
  | answered before reply hBefore =>
      rw [(s.answerOwn_parts before reply).1,
        ← hAttended.own before hBefore]
      unfold answerOwn at hOwn
      split at hOwn
      · cases hOwn
        rfl
      · exact nomatch hOwn
  | finished before hBefore => exact nomatch hOwn
  | stirred table stir => exact hAttended.own own hOwn
  | settled =>
      exact (hAttended.own own hOwn).trans
        s.space.settle_parts.1.symm
  | supplied backend => exact hAttended.own own hOwn
  | idle event => exact hAttended.own own hOwn

/- A workspace stays attended. -/
theorem step
    (hAttended : s.Attended)
    (event : Event) :
    (s.step event).Attended := by
  have hPasses := hAttended.passes event
  constructor
  · rcases s.common_step event with
      ⟨now, command, -, -, hStep⟩ | ⟨hSame, -, -⟩
    · rw [hStep]
      exact s.space.isSome_undertake now hAttended.present command
    · rw [hSame]
      exact hPasses.opened hAttended.present
  · intro own hOwn
    exact hAttended.own_step hOwn
  · intro table session hOpen hOther
    have hStride := hPasses.stride hOpen
    by_cases hUsed : table = s.space.active
    · rw [hUsed] at hOther hOpen
      rw [eq_unmount_of_left hOpen hOther]
      rfl
    · refine hStride.unmounted (.inl hOther) ?_
      exact Workspace.session_induction
        (fun before hBefore => hAttended.hidden hBefore hUsed) rfl

end Attended

end SpaceTraffic

end LedgerView
