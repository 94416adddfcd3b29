import LedgerView.Proofs.Table.Shown
import LedgerView.Proofs.Workspace.Sessions

/-
  What happens to a workspace.

  Commands, reports, background moves, timers and changes of
  the ledger follow one another in any order.  As long as it is
  not told to end, a workspace shows the table in use and no
  other.  A table that is out of use keeps the source that its
  filter gave it until it is filtered again or shown.

  Key definitions include:
    * `Workspace.Deed`
    * `Workspace.run`
    * `Workspace.OneShown`
    * `Workspace.Deed.Spares`
    * `Workspace.Parks`

  Key theorems include:
    * `Workspace.run_induction`
    * `Workspace.oneShown_run`
    * `Workspace.Parks.run`
-/

namespace LedgerView

------------------------------------------------------------
-- Sessions and Their Modes
------------------------------------------------------------

/- No source of a backend changes by being asked. -/
theorem Backend.source_ask
    (b : Backend)
    (source : RowSource)
    (q : ListQuery Key) :
    (b.ask source q).2 = source := by
  unfold ask
  split
  · rfl
  · split <;> rfl

namespace Session

variable {s : Session}

/- An operation leaves the table as it begins. -/
theorem mode_perform
    (backend : Backend)
    (s : Session)
    (begun : RowTable × Begun Row Key) :
    (s.perform backend begun).1.table.mode = begun.1.mode :=
  Controller.mode_perform backend.ask begun

/- A table that is opened is shown. -/
theorem shown_mount
    (backend : Backend)
    (now : Nat)
    (s : Session) :
    (s.mount backend now).1.table.mode ≠ .unmounted := by
  have hMode : (s.mount backend now).1.table.mode =
      s.table.modeAfter .mount :=
    (mode_perform _ _ _).trans (s.table.mode_undertake now .mount)
  rw [hMode]
  simp only [Controller.modeAfter]
  split <;> decide

/- So is one that goes live, -/
theorem shown_startLive
    (backend : Backend)
    (now : Nat)
    (s : Session) :
    (s.startLive backend now).1.table.mode ≠ .unmounted := by
  have hMode : (s.startLive backend now).1.table.mode =
      .autoRefresh :=
    mode_perform _ _ _
  rw [hMode]
  decide

/- while pausing, -/
theorem mode_togglePause
    (now : Nat)
    (s : Session) :
    (s.togglePause now).1.table.mode = s.table.mode :=
  s.table.mode_undertake now .togglePause

/- reloading, -/
theorem mode_refresh
    (backend : Backend)
    (s : Session) :
    (s.refresh backend).1.table.mode = s.table.mode :=
  (mode_perform _ _ _).trans (s.table.mode_undertake 0 .refresh)

/- and another page size keep the mode. -/
theorem mode_setPageSize
    (backend : Backend)
    (pageSize : Nat)
    (s : Session) :
    (s.setPageSize backend pageSize).1.table.mode =
      s.table.mode :=
  (mode_perform _ _ _).trans
    (s.table.mode_undertake 0 (.setPageSize pageSize))

/- A move to a page shows pages, unless it is refused. -/
theorem shown_goto
    (hShown : s.table.mode ≠ .unmounted)
    (page : Nat) :
    (s.goto page).1.table.mode ≠ .unmounted := by
  have hPages : (s.table.beginGoto page).1.mode ≠ .unmounted := by
    rw [Controller.mode_beginGoto]
    decide
  unfold goto
  split
  · exact hShown
  · dsimp only
    split <;>
    · next hBegun =>
        change s.table.beginGoto page = _ at hBegun
        rw [hBegun] at hPages
        exact hPages

/- So does a step. -/
theorem shown_step
    (hShown : s.table.mode ≠ .unmounted)
    (forward : Bool) :
    (s.step forward).1.table.mode ≠ .unmounted := by
  rcases s.step_fst forward with hSame | ⟨page, hGoto⟩
  · rw [hSame]
    exact hShown
  · rw [hGoto]
    exact shown_goto hShown page

/- A change of the filter keeps the mode, -/
theorem mode_setFilter
    (backend : Backend)
    (now : Nat)
    (filter : Filter)
    (s : Session) :
    (s.setFilter backend now filter).1.table.mode =
      s.table.mode := by
  unfold setFilter
  split
  · exact (mode_perform ..).trans
      (Controller.mode_undertake now _ (.replace _))
  · rfl

/- taking the outcome of a move the table, -/
theorem table_settle
    (s : Session) :
    s.settle.1.table = s.table := by
  unfold settle
  split <;> rfl

/- and a move on any source what does not change with rows. -/
theorem endures_runMove
    (backend : Backend)
    (s : Session)
    (entry : Nat × Move Row Key) :
    s.table.Endures (s.runMove backend entry).table := by
  have hEndures :=
    s.table.endures_completeMove backend.source_ask entry.2
  unfold runMove noteEnd
  dsimp only
  split
  · split <;> exact hEndures
  · exact hEndures

/- So do all background moves together. -/
theorem endures_runBackground
    (backend : Backend)
    (s : Session) :
    s.table.Endures (s.runBackground backend).table :=
  runBackground_of_runMove
    (fun s s' => s.table.Endures s'.table) backend
    (fun s => s.table.endures_refl) Controller.Endures.trans
    (endures_runMove backend) s

end Session

------------------------------------------------------------
-- Deeds
------------------------------------------------------------

namespace Workspace

/- Something that happens to a workspace. -/
inductive Deed where
  | command (now : Nat) (command : Command)
  /- The outcome of the pending move is reported. -/
  | settle
  /- Background moves run. -/
  | background
  /- Timers run up to a moment. -/
  | advance (moment : Nat)
  /- Rows come or go, or a node begins to answer otherwise. -/
  | supply (backend : Backend)

/- What becomes of a workspace. -/
def undergo
    (w : Workspace) : Deed → Workspace
  | .command now command => (w.handle now command).1
  | .settle => w.settle.1
  | .background => w.runBackground
  | .advance moment => w.advance moment
  | .supply backend => { w with backend := backend }

/- Everything that happens, in turn. -/
def run
    (w : Workspace)
    (deeds : List Deed) : Workspace :=
  deeds.foldl undergo w

variable {w : Workspace}

/- What each deed of a kind keeps is kept by all of them. -/
theorem run_induction
    (Holds : Workspace → Prop)
    (Counts : Deed → Prop)
    (hStep : ∀ w deed,
      Holds w → Counts deed → Holds (w.undergo deed))
    (hHolds : Holds w)
    {deeds : List Deed}
    (hCount : ∀ deed ∈ deeds, Counts deed) :
    Holds (w.run deeds) := by
  induction deeds generalizing w with
  | nil => exact hHolds
  | cons deed rest ih =>
      rw [List.forall_mem_cons] at hCount
      exact ih (hStep w deed hHolds hCount.1) hCount.2

/- Every table stays of its list, with what it reads, -/
theorem tidy_undergo
    (hTidy : w.Tidy)
    (deed : Deed) :
    (w.undergo deed).Tidy := by
  cases deed with
  | command now command => exact hTidy.handle now command
  | settle => exact hTidy.settle
  | background => exact hTidy.runBackground
  | advance moment => exact hTidy.advance moment
  | supply backend => exact ⟨hTidy.kind, hTidy.filter⟩

/- whatever happens. -/
theorem tidy_run
    (hTidy : w.Tidy)
    (deeds : List Deed) :
    (w.run deeds).Tidy :=
  run_induction Tidy (fun _ => True)
    (fun _ deed hTidy _ => tidy_undergo hTidy deed) hTidy
    fun _ _ => trivial

------------------------------------------------------------
-- One Table Is Shown
------------------------------------------------------------

/- Whether the table in use is shown, and no other one. -/
structure OneShown
    (w : Workspace) : Prop where
  shown : ∃ s, w.sessions.get w.active = some s ∧
    s.table.mode ≠ .unmounted
  hidden : ∀ {table : TableKind} {s : Session},
    table ≠ w.active → w.sessions.get table = some s →
      s.table.mode = .unmounted

/- What is put at the table in use is found there, -/
theorem active_setCurrent
    (w : Workspace)
    (s : Session) :
    (w.setCurrent s).sessions.get w.active = some s :=
  PerTable.get_set_self _ _ _

/- and the other tables are as they were. -/
theorem sessions_setCurrent
    (w : Workspace)
    (s : Session)
    {table : TableKind}
    (hOther : table ≠ w.active) :
    (w.setCurrent s).sessions.get table = w.sessions.get table :=
  PerTable.get_set_of_ne _ _ hOther

/- Only the table in use is shown, once it is. -/
theorem oneShown_setCurrent
    (hHidden : ∀ {table : TableKind} {s : Session},
      table ≠ w.active → w.sessions.get table = some s →
        s.table.mode = .unmounted)
    {s : Session}
    (hShown : s.table.mode ≠ .unmounted) :
    (w.setCurrent s).OneShown where
  shown := ⟨s, w.active_setCurrent s, hShown⟩
  hidden hOther hOpen := by
    rw [sessions_setCurrent w s hOther] at hOpen
    exact hHidden hOther hOpen

namespace OneShown

/- The session of the table in use shows it. -/
theorem current
    (hOne : w.OneShown) :
    w.current.table.mode ≠ .unmounted := by
  rcases hOne.shown with ⟨s, hOpen, hShown⟩
  unfold Workspace.current
  rw [session_of_open hOpen]
  exact hShown

/- Its session can be replaced, -/
theorem setCurrent
    (hOne : w.OneShown)
    {s : Session}
    (hShown : s.table.mode ≠ .unmounted) :
    (w.setCurrent s).OneShown :=
  oneShown_setCurrent hOne.hidden hShown

/- and all sessions can be, if they keep their modes. -/
theorem mapSessions
    (hOne : w.OneShown)
    {f : Session → Session}
    (hMode : ∀ s : Session, (f s).table.mode = s.table.mode) :
    (w.mapSessions f).OneShown := by
  constructor
  · rcases hOne.shown with ⟨s, hOpen, hShown⟩
    exact ⟨f s, get_mapSessions hOpen,
      ne_of_eq_of_ne (hMode s) hShown⟩
  · intro table s hOther hOpen
    rcases of_get_mapSessions hOpen with ⟨before, hBefore, hSame⟩
    rw [← hSame, hMode]
    exact hOne.hidden hOther hBefore

/- A workspace shows its first table when it is opened. -/
theorem openAt
    (backend : Backend)
    (config : PagerConfig)
    (kind : TableKind)
    (nav : Params)
    (now : Nat) :
    (Workspace.openAt backend config kind nav now).1.OneShown := by
  unfold Workspace.openAt mount perform
  dsimp only
  refine oneShown_setCurrent ?_ (Session.shown_mount _ _ _)
  intro table s hOther hOpen
  unfold Workspace.setCurrent setSession at hOther hOpen
  dsimp only at hOther hOpen
  rw [PerTable.get_set_of_ne _ _ hOther, PerTable.get_all]
    at hOpen
  exact nomatch hOpen

/- A table that another one is left for is shown instead. -/
theorem switchTo
    (hOne : w.OneShown)
    (now : Nat)
    (kind : TableKind) :
    (w.switchTo now kind).1.OneShown := by
  unfold Workspace.switchTo mount perform
  split
  · exact hOne
  · dsimp only
    refine oneShown_setCurrent ?_ (Session.shown_mount _ _ _)
    intro table s hOther hOpen
    change (w.setCurrent w.current.unmount).sessions.get
      table = some s at hOpen
    by_cases hLeft : table = w.active
    · unfold Workspace.setCurrent setSession at hOpen
      dsimp only at hOpen
      rw [hLeft, PerTable.get_set_self] at hOpen
      rw [← Option.some.inj hOpen]
      rfl
    · rw [sessions_setCurrent _ _ hLeft] at hOpen
      exact hOne.hidden hLeft hOpen

/- A step from one page to another shows pages, -/
theorem step
    (hOne : w.OneShown)
    (forward : Bool) :
    (w.step forward).1.OneShown := by
  rw [step_fst]
  exact hOne.setCurrent (Session.shown_step hOne.current forward)

/- and whatever else is asked, one table is shown. -/
theorem handle
    (hOne : w.OneShown)
    (now : Nat)
    {command : Command}
    (hGoesOn : command ≠ .shutdown) :
    (w.handle now command).1.OneShown := by
  cases command with
  | switchTable table => exact hOne.switchTo now table
  | gotoPage page =>
      show (w.goto page).1.OneShown
      rw [goto_fst]
      exact hOne.setCurrent (Session.shown_goto hOne.current page)
  | nextPage => exact hOne.step true
  | previousPage => exact hOne.step false
  | live => exact hOne.setCurrent (Session.shown_startLive _ _ _)
  | togglePause =>
      refine hOne.setCurrent (ne_of_eq_of_ne ?_ hOne.current)
      exact w.current.mode_togglePause now
  | refresh =>
      refine hOne.setCurrent (ne_of_eq_of_ne ?_ hOne.current)
      exact w.current.mode_refresh w.backend
  | setPageSize pageSize =>
      let sized : Workspace :=
        { w with config :=
          { w.config with pageSize := max pageSize 1 } }
      have hSized : sized.OneShown := ⟨hOne.shown, hOne.hidden⟩
      refine hSized.setCurrent (ne_of_eq_of_ne ?_ hSized.current)
      exact sized.current.mode_setPageSize w.backend pageSize
  | setFilter filter =>
      let filtered : Workspace := { w with filter := filter }
      have hFiltered : filtered.OneShown :=
        ⟨hOne.shown, hOne.hidden⟩
      unfold Workspace.handle
      dsimp only
      rw [setFilter_fst]
      exact hFiltered.mapSessions
        (Session.mode_setFilter w.backend now filter)
  | shutdown => exact absurd rfl hGoesOn

/- Reporting a move shows what was shown. -/
theorem settle
    (hOne : w.OneShown) :
    w.settle.1.OneShown := by
  rw [settle_fst]
  refine hOne.setCurrent ?_
  rw [Session.table_settle]
  exact hOne.current

end OneShown

/- Whether a workspace goes on after what happens. -/
def Deed.GoesOn : Deed → Prop
  | .command _ .shutdown => False
  | _ => True

/- One table is shown after what a workspace goes on from, -/
theorem oneShown_undergo
    (hOne : w.OneShown)
    {deed : Deed}
    (hGoesOn : deed.GoesOn) :
    (w.undergo deed).OneShown := by
  cases deed with
  | command now command =>
      refine hOne.handle now fun hShutdown => ?_
      rw [hShutdown] at hGoesOn
      exact hGoesOn
  | settle => exact hOne.settle
  | background =>
      exact hOne.mapSessions fun s =>
        (s.endures_runBackground w.backend).mode
  | advance moment =>
      exact hOne.mapSessions fun s =>
        (s.table.resembles_advance w.backend.ask moment).mode
  | supply backend => exact ⟨hOne.shown, hOne.hidden⟩

/- and as long as it goes on. -/
theorem oneShown_run
    (hOne : w.OneShown)
    {deeds : List Deed}
    (hGoesOn : ∀ deed ∈ deeds, deed.GoesOn) :
    (w.run deeds).OneShown :=
  run_induction OneShown Deed.GoesOn
    (fun _ _ hOne hGoesOn => oneShown_undergo hOne hGoesOn)
    hOne hGoesOn

end Workspace

------------------------------------------------------------
-- Tables That Are Parked
------------------------------------------------------------

/-
  Whether a table of a list is out of sight, with a source and
  a filter to be shown by.
-/
structure Session.Parked
    (kind : TableKind)
    (filter : Filter)
    (source : RowSource)
    (s : Session) : Prop where
  kind : s.kind = kind
  filter : s.filter = filter
  mode : s.table.mode = .unmounted
  source : s.table.feed.source = source
  pageSize : 1 ≤ s.table.window.pageSize

namespace Session.Parked

variable {kind : TableKind} {filter : Filter}
variable {source : RowSource} {s : Session}

/- It stays so while background moves run, -/
theorem runBackground
    (hParked : s.Parked kind filter source)
    (backend : Backend) :
    (s.runBackground backend).Parked kind filter source :=
  have hAlike := s.alike_runBackground backend
  have hEndures := s.endures_runBackground backend
  { kind := hAlike.kind.trans hParked.kind
    filter := hAlike.filter.trans hParked.filter
    mode := hEndures.mode.trans hParked.mode
    source := hEndures.source.trans hParked.source
    pageSize := hEndures.pageSize ▸ hParked.pageSize }

/- as time passes, -/
theorem advance
    (hParked : s.Parked kind filter source)
    (backend : Backend)
    (moment : Nat) :
    (s.advance backend moment).Parked kind filter source := by
  unfold Session.advance
  rw [Controller.advance_of_unmounted backend.ask moment
    hParked.mode]
  exact hParked

/- when it is unmounted again, -/
theorem unmount
    (hParked : s.Parked kind filter source) :
    s.unmount.Parked kind filter source :=
  ⟨hParked.kind, hParked.filter, rfl, hParked.source,
    hParked.pageSize⟩

/- and under a filter of which it reads the same. -/
theorem setFilter
    (hParked : s.Parked kind (filter.restrictTo kind) source)
    (backend : Backend)
    (now : Nat)
    {next : Filter}
    (hSame : next.restrictTo kind = filter.restrictTo kind) :
    (s.setFilter backend now next).1.Parked kind
      (filter.restrictTo kind) source := by
  have hKeeps : ¬s.filter.affects next s.kind = true := by
    rw [Filter.affects_iff, hParked.filter, hParked.kind, hSame,
      Filter.restrictTo_restrictTo]
    exact fun hDiffers => hDiffers rfl
  unfold Session.setFilter
  rw [if_neg hKeeps]
  exact hParked

end Session.Parked

namespace Workspace

variable {w : Workspace}

/-
  Whether a table is not in use, and parked with what it reads
  of a filter.
-/
structure Parks
    (w : Workspace)
    (table : TableKind)
    (filter : Filter)
    (source : RowSource) : Prop where
  away : table ≠ w.active
  parked : ∃ s, w.sessions.get table = some s ∧
    s.Parked table (filter.restrictTo table) source

/-
  Whether what happens neither shows a table nor changes what
  it reads of a filter.
-/
def Deed.Spares
    (table : TableKind)
    (filter : Filter) : Deed → Prop
  | .command _ (.switchTable other) => other ≠ table
  | .command _ (.setFilter next) =>
      next.restrictTo table = filter.restrictTo table
  | _ => True

/- A step is about the table in use alone. -/
theorem sessions_step
    (w : Workspace)
    (forward : Bool)
    {table : TableKind}
    (hOther : table ≠ w.active) :
    (w.step forward).1.sessions.get table =
      w.sessions.get table := by
  rw [step_fst]
  exact sessions_setCurrent w _ hOther

/-
  Whatever is asked, but to filter or to close every table, is
  about the table in use and the one that is to be shown.
-/
theorem sessions_handle
    (now : Nat)
    (w : Workspace)
    {command : Command}
    {table : TableKind}
    (hOther : table ≠ w.active)
    (hNext : table ≠ command.tableAfter w.active)
    (hFilter : ∀ filter, command ≠ .setFilter filter)
    (hGoesOn : command ≠ .shutdown) :
    (w.handle now command).1.sessions.get table =
      w.sessions.get table := by
  cases command with
  | switchTable next =>
      unfold handle switchTo
      dsimp only
      split
      · rfl
      · let left : Workspace :=
          { w.setCurrent w.current.unmount with active := next }
        exact (sessions_setCurrent left _ hNext).trans
          (sessions_setCurrent w _ hOther)
  | gotoPage page =>
      show (w.goto page).1.sessions.get table = _
      rw [goto_fst]
      exact sessions_setCurrent w _ hOther
  | nextPage => exact w.sessions_step true hOther
  | previousPage => exact w.sessions_step false hOther
  | setFilter filter => exact absurd rfl (hFilter filter)
  | shutdown => exact absurd rfl hGoesOn
  | live => exact sessions_setCurrent w _ hOther
  | togglePause => exact sessions_setCurrent w _ hOther
  | refresh => exact sessions_setCurrent w _ hOther
  | setPageSize pageSize =>
      let sized : Workspace :=
        { w with config :=
          { w.config with pageSize := max pageSize 1 } }
      exact sessions_setCurrent sized _ hOther

namespace Parks

variable {table : TableKind} {filter : Filter}
variable {source : RowSource}

/- Every session can be replaced, if parked ones stay so. -/
theorem mapSessions
    (hParks : w.Parks table filter source)
    {f : Session → Session}
    (hStays : ∀ {s : Session},
      s.Parked table (filter.restrictTo table) source →
        (f s).Parked table (filter.restrictTo table) source) :
    (w.mapSessions f).Parks table filter source := by
  rcases hParks.parked with ⟨s, hOpen, hParked⟩
  exact ⟨hParks.away, f s, get_mapSessions hOpen,
    hStays hParked⟩

/- A change of other sessions leaves it parked. -/
theorem congr
    (hParks : w.Parks table filter source)
    {w' : Workspace}
    (hAway : table ≠ w'.active)
    (hSame :
      w'.sessions.get table = w.sessions.get table) :
    w'.Parks table filter source where
  away := hAway
  parked := by
    rw [hSame]
    exact hParks.parked

/- A table stays parked under commands that spare it, -/
theorem handle
    (hParks : w.Parks table filter source)
    (now : Nat)
    {command : Command}
    (hSpares : (Deed.command now command).Spares table filter) :
    (w.handle now command).1.Parks table filter source := by
  have hNext : table ≠ command.tableAfter w.active := by
    cases command with
    | switchTable next => exact fun hSame => hSpares hSame.symm
    | _ => exact hParks.away
  cases command with
  | setFilter next =>
      let filtered : Workspace := { w with filter := next }
      have hFiltered : filtered.Parks table filter source :=
        ⟨hParks.away, hParks.parked⟩
      unfold Workspace.handle
      dsimp only
      rw [setFilter_fst]
      exact hFiltered.mapSessions fun hParked =>
        hParked.setFilter w.backend now hSpares
  | shutdown => exact hParks.mapSessions fun h => h.unmount
  | _ =>
      refine hParks.congr (ne_of_ne_of_eq hNext
        (active_handle now w _).symm) ?_
      exact sessions_handle now w hParks.away hNext
        (fun _ => nofun) nofun

/- and when the outcome of a move is reported. -/
theorem settle
    (hParks : w.Parks table filter source) :
    w.settle.1.Parks table filter source := by
  have hActive := w.settle_parts.1
  refine hParks.congr (ne_of_ne_of_eq hParks.away hActive.symm) ?_
  unfold Workspace.settle
  split <;> exact sessions_setCurrent w _ hParks.away

/- So it does whatever happens that spares it, -/
theorem undergo
    (hParks : w.Parks table filter source)
    {deed : Deed}
    (hSpares : deed.Spares table filter) :
    (w.undergo deed).Parks table filter source := by
  cases deed with
  | command now command => exact hParks.handle now hSpares
  | settle => exact hParks.settle
  | background =>
      exact hParks.mapSessions fun hParked =>
        hParked.runBackground w.backend
  | advance moment =>
      exact hParks.mapSessions fun hParked =>
        hParked.advance w.backend moment
  | supply backend => exact ⟨hParks.away, hParks.parked⟩

/- and all along. -/
theorem run
    (hParks : w.Parks table filter source)
    {deeds : List Deed}
    (hSpares : ∀ deed ∈ deeds, deed.Spares table filter) :
    (w.run deeds).Parks table filter source :=
  run_induction (Parks · table filter source)
    (Deed.Spares table filter)
    (fun _ _ hParks hSpares => hParks.undergo hSpares)
    hParks hSpares

end Parks

end Workspace

end LedgerView
