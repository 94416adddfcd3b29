import LedgerView.Proofs.Nav.Filter
import LedgerView.Workspace.Basic

/-
  What commands make of the sessions of a workspace.

  No operation turns a session into one of another list, and
  only a change of the filter changes what it is filtered by.
  So every table that is open is of its own list, and is
  filtered by what it reads of the common filter.  The table in
  use and the common filter are those that were asked for last.

  Key definitions include:
    * `Session.Alike`
    * `Workspace.Tidy`
    * `Command.tableAfter`
    * `Command.filterAfter`

  Key theorems include:
    * `Workspace.active_handle`
    * `Workspace.filter_handle`
    * `Workspace.Tidy.handle`
    * `Workspace.Tidy.snapshot_table`
    * `Workspace.Tidy.snapshot_filter`
-/

namespace LedgerView

------------------------------------------------------------
-- Sessions
------------------------------------------------------------

namespace Session

variable {s s' s'' : Session}

/- Sessions of one list under one filter. -/
structure Alike
    (s s' : Session) : Prop where
  kind : s'.kind = s.kind
  filter : s'.filter = s.filter

/- A session is alike itself. -/
theorem alike_refl
    (s : Session) :
    s.Alike s :=
  ⟨rfl, rfl⟩

/- What is alike stays alike. -/
theorem Alike.trans
    (h : s.Alike s')
    (h' : s'.Alike s'') :
    s.Alike s'' :=
  ⟨h'.kind.trans h.kind, h'.filter.trans h.filter⟩

/- A step is a move to a page, or nothing. -/
theorem step_fst
    (s : Session)
    (forward : Bool) :
    (s.step forward).1 = s ∨
      ∃ page, (s.step forward).1 = (s.goto page).1 := by
  unfold step
  split
  · exact .inl rfl
  · next target _ =>
      refine .inr ⟨target, ?_⟩
      split <;>
      · next hGoto => rw [hGoto]

/- An operation of the table keeps the list and its filter. -/
theorem alike_perform
    (backend : Backend)
    (s : Session)
    (begun : RowTable × Begun Row Key) :
    s.Alike (s.forgetPending.perform backend begun).1 :=
  ⟨rfl, rfl⟩

/- So does opening the table, -/
theorem alike_mount
    (backend : Backend)
    (now : Nat)
    (s : Session) :
    s.Alike (s.mount backend now).1 :=
  alike_perform ..

/- going live, -/
theorem alike_startLive
    (backend : Backend)
    (now : Nat)
    (s : Session) :
    s.Alike (s.startLive backend now).1 :=
  alike_perform ..

/- reloading what is shown, -/
theorem alike_refresh
    (backend : Backend)
    (s : Session) :
    s.Alike (s.refresh backend).1 :=
  alike_perform ..

/- changing the page size, -/
theorem alike_setPageSize
    (backend : Backend)
    (pageSize : Nat)
    (s : Session) :
    s.Alike (s.setPageSize backend pageSize).1 :=
  alike_perform ..

/- the beginning of a move, -/
theorem alike_goto
    (s : Session)
    (page : Nat) :
    s.Alike (s.goto page).1 := by
  unfold goto
  split
  · exact alike_refl s
  · dsimp only
    split <;> exact ⟨rfl, rfl⟩

/- a step, -/
theorem alike_step
    (s : Session)
    (forward : Bool) :
    s.Alike (s.step forward).1 := by
  rcases s.step_fst forward with hSame | ⟨page, hGoto⟩
  · rw [hSame]
    exact alike_refl s
  · rw [hGoto]
    exact alike_goto s page

/- the end of a move, -/
theorem alike_runMove
    (backend : Backend)
    (s : Session)
    (entry : Nat × Move Row Key) :
    s.Alike (s.runMove backend entry) := by
  unfold runMove noteEnd
  dsimp only
  split
  · split <;> exact ⟨rfl, rfl⟩
  · exact ⟨rfl, rfl⟩

/-
  What holds from a session to the next one when a move ends
  holds when all of them do.
-/
theorem runBackground_of_runMove
    (Holds : Session → Session → Prop)
    (backend : Backend)
    (hRefl : ∀ s, Holds s s)
    (hTrans : ∀ {s s' s''}, Holds s s' → Holds s' s'' →
      Holds s s'')
    (hMove : ∀ s entry, Holds s (s.runMove backend entry))
    (s : Session) :
    Holds { s with background := [] } (s.runBackground backend) := by
  have hMoves : ∀ (entries : List (Nat × Move Row Key))
      (s : Session),
      Holds s (entries.foldl (runMove backend) s) := by
    intro entries
    induction entries with
    | nil => exact hRefl
    | cons entry rest ih =>
        intro s
        exact hTrans (hMove s entry) (ih (s.runMove backend entry))
  exact hMoves s.background _

/- of all moves, -/
theorem alike_runBackground
    (backend : Backend)
    (s : Session) :
    s.Alike (s.runBackground backend) := by
  have hBegun : s.Alike { s with background := [] } :=
    ⟨rfl, rfl⟩
  exact hBegun.trans
    (runBackground_of_runMove Alike backend alike_refl
      Alike.trans (alike_runMove backend) s)

/- and taking its outcome. -/
theorem alike_settle
    (s : Session) :
    s.Alike s.settle.1 := by
  unfold settle
  split <;> exact ⟨rfl, rfl⟩

/- A change of the filter keeps the list, -/
theorem kind_setFilter
    (backend : Backend)
    (now : Nat)
    (filter : Filter)
    (s : Session) :
    (s.setFilter backend now filter).1.kind = s.kind := by
  unfold setFilter
  split <;> rfl

/- which is then filtered by what it reads of the filter. -/
theorem filter_setFilter
    (backend : Backend)
    (now : Nat)
    {filter : Filter}
    (hOwn : s.filter = s.filter.restrictTo s.kind) :
    (s.setFilter backend now filter).1.filter =
      filter.restrictTo s.kind := by
  unfold setFilter
  split
  · rfl
  · next hSame =>
      exact hOwn.trans
        (Decidable.byContradiction fun hDiffers =>
          hSame (Filter.affects_iff.mpr hDiffers))

end Session

------------------------------------------------------------
-- What Commands Ask For
------------------------------------------------------------

namespace Command

/- The table in use after a command. -/
def tableAfter
    (table : TableKind) : Command → TableKind
  | .switchTable table => table
  | _ => table

/- The common filter after a command. -/
def filterAfter
    (filter : Filter) : Command → Filter
  | .setFilter filter => filter
  | _ => filter

end Command

namespace Workspace

variable {w : Workspace}

/- The session of a table that is open. -/
theorem session_of_open
    {table : TableKind}
    {s : Session}
    (hOpen : w.sessions.get table = some s) :
    w.session table = s := by
  unfold session
  rw [hOpen, Option.getD_some]

/- Of sessions that are all changed each is changed, -/
theorem get_mapSessions
    {f : Session → Session}
    {table : TableKind}
    {s : Session}
    (hOpen : w.sessions.get table = some s) :
    (w.mapSessions f).sessions.get table = some (f s) := by
  unfold mapSessions
  dsimp only
  rw [PerTable.get_map, hOpen, Option.map_some]

/- and each comes from one that was there. -/
theorem of_get_mapSessions
    {f : Session → Session}
    {table : TableKind}
    {s : Session}
    (hOpen : (w.mapSessions f).sessions.get table = some s) :
    ∃ before, w.sessions.get table = some before ∧
      f before = s := by
  unfold mapSessions at hOpen
  rw [PerTable.get_map, Option.map_eq_some_iff] at hOpen
  exact hOpen

/- Filtering one table changes that table alone. -/
theorem filterTable_fst
    (now : Nat)
    (told : Workspace × List Event)
    (kind : TableKind) :
    (filterTable now told kind).1 =
      { told.1 with
        sessions :=
          told.1.sessions.set kind
            ((told.1.sessions.get kind).map fun s =>
              (s.setFilter told.1.backend now
                told.1.filter).1) } := by
  rcases told with ⟨w, events⟩
  unfold filterTable
  dsimp only
  split
  · next hNone =>
      rw [hNone, Option.map_none, ← hNone,
        PerTable.set_get_self]
  · next s hSome =>
      rw [hSome, Option.map_some]
      split <;> rfl

/- A change of the filter reaches every table that is open. -/
theorem setFilter_fst
    (now : Nat)
    (filter : Filter)
    (w : Workspace) :
    (w.setFilter now filter).1 =
      ({ w with filter := filter }).mapSessions fun s =>
        (s.setFilter w.backend now filter).1 := by
  unfold setFilter
  simp only [TableKind.all, List.foldl_cons, List.foldl_nil,
    filterTable_fst]
  rfl

/- What a move to a page makes of the workspace, -/
theorem goto_fst
    (w : Workspace)
    (page : Nat) :
    (w.goto page).1 = w.setCurrent (w.current.goto page).1 := by
  unfold goto
  split <;>
  · next hGoto => rw [hGoto]

/- what a step makes of it, -/
theorem step_fst
    (w : Workspace)
    (forward : Bool) :
    (w.step forward).1 =
      w.setCurrent (w.current.step forward).1 := by
  unfold step
  split <;>
  · next hStep => rw [hStep]

/- and what a report does. -/
theorem settle_fst
    (w : Workspace) :
    w.settle.1 = w.setCurrent w.current.settle.1 := by
  unfold settle
  split <;>
  · next hSettle => rw [hSettle]

/-
  The table in use and the common filter are those that were
  asked for last.
-/
theorem handle_parts
    (now : Nat)
    (w : Workspace)
    (command : Command) :
    (w.handle now command).1.active =
        command.tableAfter w.active ∧
      (w.handle now command).1.filter =
        command.filterAfter w.filter := by
  cases command with
  | switchTable table =>
      unfold handle switchTo
      dsimp only
      split
      · next hSame => exact ⟨hSame.symm, rfl⟩
      · exact ⟨rfl, rfl⟩
  | setFilter filter =>
      unfold handle
      dsimp only
      rw [setFilter_fst]
      exact ⟨rfl, rfl⟩
  | gotoPage page =>
      show (w.goto page).1.active = _ ∧ (w.goto page).1.filter = _
      rw [goto_fst]
      exact ⟨rfl, rfl⟩
  | nextPage =>
      show (w.step true).1.active = _ ∧ (w.step true).1.filter = _
      rw [step_fst]
      exact ⟨rfl, rfl⟩
  | previousPage =>
      show
        (w.step false).1.active = _ ∧ (w.step false).1.filter = _
      rw [step_fst]
      exact ⟨rfl, rfl⟩
  | _ => exact ⟨rfl, rfl⟩

/- The table in use is the one that was asked for last. -/
theorem active_handle
    (now : Nat)
    (w : Workspace)
    (command : Command) :
    (w.handle now command).1.active =
      command.tableAfter w.active :=
  (handle_parts now w command).1

/- The common filter is the one that was asked for last. -/
theorem filter_handle
    (now : Nat)
    (w : Workspace)
    (command : Command) :
    (w.handle now command).1.filter =
      command.filterAfter w.filter :=
  (handle_parts now w command).2

------------------------------------------------------------
-- Tidiness
------------------------------------------------------------

/-
  Whether every table that is open is of its own list, filtered
  by what it reads of the common filter.
-/
structure Tidy
    (w : Workspace) : Prop where
  kind : ∀ {kind : TableKind} {s : Session},
    w.sessions.get kind = some s → s.kind = kind
  filter : ∀ {kind : TableKind} {s : Session},
    w.sessions.get kind = some s →
      s.filter = w.filter.restrictTo kind

namespace Tidy

/- The session of a table is of its list, -/
theorem session_kind
    (hTidy : w.Tidy)
    (kind : TableKind) :
    (w.session kind).kind = kind := by
  unfold session
  cases hOpen : w.sessions.get kind with
  | none => rfl
  | some s => exact hTidy.kind hOpen

/- and filtered by what it reads. -/
theorem session_filter
    (hTidy : w.Tidy)
    (kind : TableKind) :
    (w.session kind).filter = w.filter.restrictTo kind := by
  unfold session
  cases hOpen : w.sessions.get kind with
  | none =>
      rw [Option.getD_none]
      unfold freshSession Session.new
      dsimp only
      rw [Filter.read_write, Filter.restrictTo_restrictTo]
  | some s => exact hTidy.filter hOpen

/- What is shown is of the table in use. -/
theorem snapshot_table
    (hTidy : w.Tidy) :
    w.snapshot.table = w.active :=
  hTidy.session_kind w.active

/- What is shown tells what the table in use is filtered by. -/
theorem snapshot_filter
    (hTidy : w.Tidy) :
    w.snapshot.filter = w.filter.restrictTo w.active :=
  hTidy.session_filter w.active

/- A session of its table can be put there. -/
theorem setSession
    (hTidy : w.Tidy)
    {kind : TableKind}
    {s : Session}
    (hKind : s.kind = kind)
    (hFilter : s.filter = w.filter.restrictTo kind) :
    (w.setSession kind s).Tidy := by
  have hGet (other : TableKind) {s' : Session}
      (hOpen : (w.sessions.set kind (some s)).get other =
        some s') :
      other = kind ∧ s' = s ∨
        w.sessions.get other = some s' := by
    by_cases hOther : other = kind
    · rw [hOther, PerTable.get_set_self] at hOpen
      exact .inl ⟨hOther, (Option.some.inj hOpen).symm⟩
    · rw [PerTable.get_set_of_ne _ _ hOther] at hOpen
      exact .inr hOpen
  constructor
  · intro other s' hOpen
    rcases hGet other hOpen with ⟨hOther, hSame⟩ | hOpen
    · rw [hSame, hKind, hOther]
    · exact hTidy.kind hOpen
  · intro other s' hOpen
    rcases hGet other hOpen with ⟨hOther, hSame⟩ | hOpen
    · rw [hSame, hOther]
      exact hFilter
    · exact hTidy.filter hOpen

/- So can one that is like the session of the table in use. -/
theorem setCurrent
    (hTidy : w.Tidy)
    {s : Session}
    (hAlike : w.current.Alike s) :
    (w.setCurrent s).Tidy :=
  hTidy.setSession
    (hAlike.kind.trans (hTidy.session_kind w.active))
    (hAlike.filter.trans (hTidy.session_filter w.active))

/- An operation that keeps list and filter can be performed. -/
theorem perform
    (hTidy : w.Tidy)
    {operation : Session → Session × Ended}
    (hAlike : ∀ s : Session, s.Alike (operation s).1) :
    (w.perform operation).1.Tidy :=
  hTidy.setCurrent (hAlike w.current)

/- Every session can be replaced by one that is like it. -/
theorem mapSessions
    (hTidy : w.Tidy)
    {f : Session → Session}
    (hAlike : ∀ s : Session, s.Alike (f s)) :
    (w.mapSessions f).Tidy := by
  constructor
  · intro kind s hOpen
    rcases of_get_mapSessions hOpen with ⟨before, hBefore, hSame⟩
    rw [← hSame, (hAlike before).kind, hTidy.kind hBefore]
  · intro kind s hOpen
    rcases of_get_mapSessions hOpen with ⟨before, hBefore, hSame⟩
    rw [← hSame, (hAlike before).filter,
      hTidy.filter hBefore]
    rfl

/- A workspace is tidy when it is opened. -/
theorem openAt
    (backend : Backend)
    (config : PagerConfig)
    (kind : TableKind)
    (nav : Params)
    (now : Nat) :
    (Workspace.openAt backend config kind nav now).1.Tidy := by
  let bare : Workspace :=
    { backend := backend
      config := config
      filter := recordedFilter {} (.read nav)
      sessions := .all none
      active := kind }
  have hBare : bare.Tidy := by
    constructor <;>
    · intro kind s hOpen
      rw [PerTable.get_all] at hOpen
      exact nomatch hOpen
  have hRecorded :
      recordedFilter {} (.read nav) = Filter.read nav := by
    unfold recordedFilter
    simp
  have hNew :
      (bare.setCurrent
        (.new backend kind config nav)).Tidy := by
    refine hBare.setSession rfl ?_
    exact congrArg (Filter.restrictTo · kind) hRecorded.symm
  exact hNew.perform (Session.alike_mount backend now)

/- A workspace stays tidy when a filter is asked for. -/
theorem setFilter
    (hTidy : w.Tidy)
    (now : Nat)
    (filter : Filter) :
    (w.setFilter now filter).1.Tidy := by
  rw [setFilter_fst]
  constructor
  · intro kind s hOpen
    rcases of_get_mapSessions hOpen with ⟨before, hBefore, hSame⟩
    rw [← hSame, Session.kind_setFilter]
    exact hTidy.kind hBefore
  · intro kind s hOpen
    rcases of_get_mapSessions hOpen with ⟨before, hBefore, hSame⟩
    have hKind := hTidy.kind hBefore
    have hOwn := hTidy.filter hBefore
    rw [← hSame, Session.filter_setFilter, hKind]
    · rfl
    · rw [hOwn, hKind, Filter.restrictTo_restrictTo]

/- A workspace stays tidy when a step is asked for, -/
theorem step
    (hTidy : w.Tidy)
    (forward : Bool) :
    (w.step forward).1.Tidy := by
  rw [step_fst]
  exact hTidy.setCurrent (Session.alike_step w.current forward)

/- and whatever else it is asked. -/
theorem handle
    (hTidy : w.Tidy)
    (now : Nat)
    (command : Command) :
    (w.handle now command).1.Tidy := by
  cases command with
  | switchTable table =>
      unfold Workspace.handle switchTo
      dsimp only
      split
      · exact hTidy
      · have hLeft : ({ w.setCurrent w.current.unmount with
            active := table } : Workspace).Tidy :=
          let hUnmounted :=
            hTidy.setCurrent (s := w.current.unmount) ⟨rfl, rfl⟩
          ⟨hUnmounted.kind, hUnmounted.filter⟩
        exact hLeft.perform (Session.alike_mount w.backend now)
  | gotoPage page =>
      show (w.goto page).1.Tidy
      rw [goto_fst]
      exact hTidy.setCurrent (Session.alike_goto w.current page)
  | nextPage => exact hTidy.step true
  | previousPage => exact hTidy.step false
  | setPageSize pageSize =>
      have hSized : ({ w with
          config := { w.config with
            pageSize := max pageSize 1 } } : Workspace).Tidy :=
        ⟨hTidy.kind, hTidy.filter⟩
      exact hSized.perform
        (Session.alike_setPageSize w.backend pageSize)
  | setFilter filter => exact hTidy.setFilter now filter
  | shutdown => exact hTidy.mapSessions fun _ => ⟨rfl, rfl⟩
  | live =>
      exact hTidy.perform (Session.alike_startLive w.backend now)
  | refresh =>
      exact hTidy.perform (Session.alike_refresh w.backend)
  | togglePause => exact hTidy.setCurrent ⟨rfl, rfl⟩

/- It stays tidy when the outcome of a move is reported, -/
theorem settle
    (hTidy : w.Tidy) :
    w.settle.1.Tidy := by
  rw [settle_fst]
  exact hTidy.setCurrent (Session.alike_settle w.current)

/- when background moves run, -/
theorem runBackground
    (hTidy : w.Tidy) :
    w.runBackground.Tidy :=
  hTidy.mapSessions (Session.alike_runBackground w.backend)

/- as time passes, -/
theorem advance
    (hTidy : w.Tidy)
    (moment : Nat) :
    (w.advance moment).Tidy :=
  hTidy.mapSessions fun _ => ⟨rfl, rfl⟩

/- and as the ledger grows. -/
theorem grow
    (hTidy : w.Tidy) :
    w.grow.Tidy :=
  ⟨hTidy.kind, hTidy.filter⟩

end Tidy

/- Reporting a move leaves table and filter as they are. -/
theorem settle_parts
    (w : Workspace) :
    w.settle.1.active = w.active ∧
      w.settle.1.filter = w.filter := by
  unfold settle
  split <;> exact ⟨rfl, rfl⟩

end Workspace

end LedgerView
