import LedgerView.Proofs.Workspace.Refilter
import LedgerView.Proofs.Workspace.Stride

/-
  Filters that agree.

  The filter of a table is kept in four places: it is the part
  of the common filter that the table reads, it is what the
  session notes, it is recorded among the parameters of the
  table, and the source of the table was made by it.  All four
  agree whenever no command is under way, whatever was asked and
  whatever became of the loads.

  Key definitions include:
    * `Session.Coherent`
    * `SpaceTraffic.Coherent`

  Key theorems include:
    * `Session.Coherent.stride`
    * `SpaceTraffic.Coherent.step`
    * `SpaceTraffic.filters_cohere`
-/

namespace LedgerView

/- A filter is read from the two parameters that record it. -/
theorem Filter.read_congr
    {store store' : Params}
    (hAccount :
      store'.get? accountName = store.get? accountName)
    (hToken : store'.get? tokenName = store.get? tokenName) :
    Filter.read store' = Filter.read store := by
  unfold Filter.read readId?
  rw [hAccount, hToken]

------------------------------------------------------------
-- Sessions
------------------------------------------------------------

namespace Session

/-
  Whether a session of a table is of its list, and its filter is
  the recorded one and the one that its source was made by.
-/
structure Coherent
    (built : Backend → Prop)
    (kind : TableKind)
    (s : Session) : Prop where
  names : s.table.names = {}
  recorded :
    s.filter = (Filter.read s.table.nav).restrictTo kind
  source : ∃ backend, built backend ∧
    s.table.feed.source = backend.source kind s.filter
  kind : s.kind = kind

variable {built : Backend → Prop} {kind : TableKind}
variable {s s' : Session}

/- The filter of a coherent session has only what is read. -/
theorem Coherent.own
    (hCoherent : s.Coherent built kind) :
    s.filter = s.filter.restrictTo s.kind := by
  rw [hCoherent.kind, hCoherent.recorded]
  simp

/- A session stays coherent while its table abides. -/
theorem Coherent.abides
    (hCoherent : s.Coherent built kind)
    (hAlike : s.Alike s')
    (hAbides : s.table.Abides s'.table) :
    s'.Coherent built kind := by
  have hNames := hCoherent.names
  have hOthers (name : String)
      (hPage : name ≠ ({} : NavNames).page)
      (hKey : name ≠ ({} : NavNames).key) :
      s'.table.nav.get? name = s.table.nav.get? name :=
    hAbides.others name (by rw [hNames]; exact hPage)
      (by rw [hNames]; exact hKey)
  constructor
  · exact hAbides.names.trans hNames
  · rw [hAlike.filter, hCoherent.recorded]
    exact congrArg (Filter.restrictTo · kind)
      (Filter.read_congr
        (hOthers _ (by decide) (by decide))
        (hOthers _ (by decide) (by decide))).symm
  · rw [hAlike.filter, hAbides.source]
    exact hCoherent.source
  · exact hAlike.kind.trans hCoherent.kind

/- It stays so when its filter is changed, -/
theorem Coherent.beginFilter
    (hCoherent : s.Coherent built kind)
    {backend : Backend}
    (hBuilt : built backend)
    (now : Nat)
    (filter : Filter) :
    (s.beginFilter backend now filter).1.Coherent built kind := by
  unfold Session.beginFilter
  split
  · let next := filter.restrictTo s.kind
    let source := backend.source s.kind next
    let c : RowTable :=
      { s.table with nav := next.write s.table.nav }
    have hRestricted : next.restrictTo kind = next := by
      simp [next, ← hCoherent.kind]
    have hRead : Filter.read (c.beginReplace now source).1.nav =
        Filter.read c.nav := by
      have hOthers :=
        c.others_undertake now (.replace source)
      rw [show c.names = {} from hCoherent.names] at hOthers
      exact Filter.read_congr
        (hOthers _ (by decide) (by decide))
        (hOthers _ (by decide) (by decide))
    constructor
    · exact (c.succeeds_undertake now
        (.replace source)).names.trans hCoherent.names
    · show next =
        (Filter.read (c.beginReplace now source).1.nav).restrictTo
          kind
      rw [hRead, Filter.read_write, hRestricted]
    · refine ⟨backend, hBuilt, ?_⟩
      rw [← hCoherent.kind]
      exact c.source_beginReplace now source
    · exact hCoherent.kind
  · exact hCoherent

/- and is then filtered by what it reads of the filter. -/
theorem filter_beginFilter
    (hOwn : s.filter = s.filter.restrictTo s.kind)
    (backend : Backend)
    (now : Nat)
    (filter : Filter) :
    (s.beginFilter backend now filter).1.filter =
      filter.restrictTo s.kind := by
  unfold Session.beginFilter
  split
  · rfl
  · next hSame =>
      rw [Filter.affects_iff, ← hOwn] at hSame
      exact not_not.mp hSame

/- A table abides by whatever happens to its session by itself. -/
theorem abides_stir
    (s : Session)
    (stir : Stir) :
    s.Alike (s.stir stir) ∧
      s.table.Abides (s.stir stir).table := by
  have hStirs := s.stirs_stir stir
  generalize s.stir stir = s' at hStirs
  have hSame : s.table.Abides s.table :=
    Controller.abides_of_nav rfl rfl rfl
  cases hStirs with
  | idle => exact ⟨s.alike_refl, hSame⟩
  | answered place entry rows hEntry => exact ⟨⟨rfl, rfl⟩, hSame⟩
  | failed place entry e hEntry =>
      have hParts := noteEnd_parts { s with
        background := s.background.eraseIdx place }
          entry.1 (.error (.source e))
      rw [hParts.2.1]
      exact ⟨⟨hParts.1.kind.symm, hParts.1.filter.symm⟩, hSame⟩
  | finished place entry hEntry =>
      have hParts := noteEnd_parts { s with
        table := (s.table.finish entry.2).1
        background := s.background.eraseIdx place }
          entry.1 (.ok (s.table.finish entry.2).2)
      rw [hParts.2.1]
      exact ⟨⟨hParts.1.kind.symm, hParts.1.filter.symm⟩,
        s.table.abides_finish entry.2⟩
  | beat beat => exact ⟨⟨rfl, rfl⟩, s.table.abides_beat beat⟩

/-
  It stays coherent whatever becomes of it, and keeps its filter
  or is filtered by what it reads of the common one.
-/
theorem Coherent.stride
    (hCoherent : s.Coherent built kind)
    {backend : Backend}
    (hBuilt : built backend)
    {filter : Filter}
    {away : Prop}
    (hStride : s.Stride backend filter away s') :
    s'.Coherent built kind ∧
      (s'.filter = s.filter ∨
        s'.filter = filter.restrictTo kind) := by
  cases hStride with
  | kept => exact ⟨hCoherent, .inl rfl⟩
  | asked now errand hKeeps hAway =>
      exact ⟨hCoherent.abides ⟨rfl, rfl⟩
        (s.table.abides_undertake now hKeeps), .inl rfl⟩
  | paused now hUse =>
      have hKeeps : (Errand.togglePause :
          Errand RowSource).KeepsSource := trivial
      exact ⟨hCoherent.abides ⟨rfl, rfl⟩
        (s.table.abides_undertake now hKeeps), .inl rfl⟩
  | moved page hUse =>
      have hAlike := s.alike_goto page
      rcases s.goto_table page with hSame | hTable
      · rw [hSame]
        exact ⟨hCoherent, .inl rfl⟩
      · refine ⟨hCoherent.abides hAlike ?_, .inl hAlike.filter⟩
        rw [hTable]
        exact s.table.abides_undertake 0 trivial
  | ended m hUse =>
      exact ⟨hCoherent.abides ⟨rfl, rfl⟩
        (s.table.abides_finish m), .inl rfl⟩
  | refiltered now =>
      refine ⟨hCoherent.beginFilter hBuilt now filter, .inr ?_⟩
      rw [filter_beginFilter hCoherent.own, hCoherent.kind]
  | stirred stir =>
      rcases s.abides_stir stir with ⟨hAlike, hAbides⟩
      exact ⟨hCoherent.abides hAlike hAbides, .inl hAlike.filter⟩
  | settled =>
      have hAlike := s.alike_settle
      refine ⟨hCoherent.abides hAlike ?_, .inl hAlike.filter⟩
      rw [s.table_settle]
      exact Controller.abides_of_nav rfl rfl rfl

/- A session is coherent when its table is opened. -/
theorem coherent_new
    {backend : Backend}
    (hBuilt : built backend)
    (kind : TableKind)
    (config : PagerConfig)
    (nav : Params) :
    (Session.new backend kind config nav).Coherent built kind where
  names := rfl
  recorded := rfl
  source := ⟨backend, hBuilt, rfl⟩
  kind := rfl

end Session

namespace Workspace

/- A table that is yet to be opened reads the common filter. -/
theorem filter_freshSession
    (w : Workspace)
    (kind : TableKind) :
    (w.freshSession kind).filter =
      w.filter.restrictTo kind := by
  simp [freshSession, Session.new]

end Workspace

------------------------------------------------------------
-- Workspaces under Traffic
------------------------------------------------------------

namespace SpaceTraffic

/-
  Whether the sessions of a workspace are coherent, and all but
  those yet to be filtered read the common filter.
-/
structure Coherent
    (built : Backend → Prop)
    (s : SpaceTraffic) : Prop where
  sessions : ∀ {table session},
    s.space.sessions.get table = some session →
      session.Coherent built table
  filter : ∀ {table session},
    s.space.sessions.get table = some session →
      table ∉ s.unfiltered →
        session.filter = s.space.filter.restrictTo table

variable {built : Backend → Prop} {s : SpaceTraffic}

/- When no command is under way, every table is filtered. -/
theorem unfiltered_of_idle
    (hIdle : s.idle = true) :
    s.unfiltered = [] := by
  unfold idle at hIdle
  simp only [Bool.and_eq_true, List.isEmpty_iff] at hIdle
  exact hIdle.2

namespace Coherent

/- So is the session of a table, whether or not it is open, -/
theorem session
    (hCoherent : s.Coherent built)
    (hBuilt : built s.space.backend)
    (table : TableKind) :
    (s.space.session table).Coherent built table :=
  Workspace.session_induction
    (fun _ hOpen => hCoherent.sessions hOpen)
    (Session.coherent_new hBuilt table _ _)

/- and so does it read the common filter. -/
theorem session_filter
    (hCoherent : s.Coherent built)
    {table : TableKind}
    (hDone : table ∉ s.unfiltered) :
    (s.space.session table).filter =
      s.space.filter.restrictTo table := by
  let Reads (session : Session) : Prop :=
    session.filter = s.space.filter.restrictTo table
  have hFresh : Reads (s.space.freshSession table) :=
    s.space.filter_freshSession table
  exact Workspace.session_induction
    (fun _ hOpen => hCoherent.filter hOpen hDone) hFresh

/- A table that is filtered reads the common filter. -/
theorem filter_filterNext
    (hCoherent : s.Coherent built)
    {now : Nat}
    {table : TableKind}
    {session : Session}
    (hOpen :
      (s.filterNext now table).space.sessions.get table =
        some session) :
    session.filter = s.space.filter.restrictTo table := by
  change (s.space.beginFilter now table).1.sessions.get table =
    some session at hOpen
  unfold Workspace.beginFilter at hOpen
  split at hOpen
  · next before hBefore =>
      have hOld := hCoherent.sessions hBefore
      dsimp only at hOpen
      rw [Workspace.get_setSession_self] at hOpen
      rw [← Option.some.inj hOpen,
        Session.filter_beginFilter hOld.own, hOld.kind]
  · next hNone =>
      rw [hNone] at hOpen
      exact nomatch hOpen

/- A workspace stays coherent. -/
theorem step
    (hCoherent : s.Coherent built)
    (hAttended : s.Attended)
    (hBuilt : built s.space.backend)
    (event : Event) :
    (s.step event).Coherent built := by
  have hStride {table session} (hOpen :
      (s.step event).space.sessions.get table = some session) :=
    (hCoherent.session hBuilt table).stride hBuilt
      ((hAttended.passes event).stride hOpen)
  have hKept {table session} (hOpen :
      (s.step event).space.sessions.get table = some session)
      (hDone : table ∉ s.unfiltered) :
      session.filter = s.space.filter.restrictTo table := by
    rcases (hStride hOpen).2 with hSame | hFiltered
    · exact hSame.trans (hCoherent.session_filter hDone)
    · exact hFiltered
  constructor
  · intro table session hOpen
    exact (hStride hOpen).1
  · intro table session hOpen hDone
    rcases s.common_step event with
      ⟨now, command, hIdle, -, hStep⟩ |
        ⟨-, hFilter, hSame | ⟨now, next, hStep⟩⟩
    · have hNone := unfiltered_of_idle hIdle
      have hSession := hKept hOpen (by simp [hNone])
      have hFilter : (s.step event).space.filter =
          command.filterAfter s.space.filter := by
        rw [hStep]
        exact (s.space.undertake_parts now command).2
      rw [hSession, hFilter]
      rw [hStep] at hDone
      -- a change of the filter leaves every table to be filtered
      cases command with
      | setFilter filter =>
          refine absurd ?_ hDone
          cases table <;>
            simp [obey, Command.unfiltered, TableKind.all]
      | _ => rfl
    · rw [hFilter]
      exact hKept hOpen (by rw [← hSame]; exact hDone)
    · rw [hFilter]
      by_cases hNext : table = next
      · subst hNext
        rw [hStep] at hOpen
        exact hCoherent.filter_filterNext hOpen
      · refine hKept hOpen fun hYet => hDone ?_
        rw [hStep]
        exact (List.mem_erase_of_ne hNext).mpr hYet

/- It does so in every run. -/
theorem run
    (hCoherent : s.Coherent built)
    (hAttended : s.Attended)
    (events : List Event)
    (hBuilt : ∀ before, before <+: events →
      built (s.run before).space.backend) :
    (s.run events).Coherent built := by
  induction events generalizing s with
  | nil => exact hCoherent
  | cons event rest ih =>
      have hNow : built s.space.backend :=
        hBuilt [] List.nil_prefix
      refine ih (hCoherent.step hAttended hNow event)
        (hAttended.step event) fun before hBefore => ?_
      exact hBuilt (event :: before)
        (List.cons_prefix_cons.mpr ⟨rfl, hBefore⟩)

end Coherent

/- A workspace is coherent when it starts. -/
theorem coherent_start
    (settings : Settings)
    (hBuilt : built settings.backend) :
    (start settings).Coherent built := by
  let place := Worker.placeOf settings
  let first := Session.new settings.backend place.1
    settings.config place.2.1
  have hCurrent : (opening settings).space.current = first :=
    Workspace.session_of_open
      (Workspace.get_setSession_self _ place.1 first)
  have hFirst : first.Coherent built place.1 :=
    Session.coherent_new hBuilt place.1 _ _
  constructor
  · intro table session hOpen
    rcases of_get_start hOpen with ⟨hTable, hSession⟩
    rw [hTable, hSession, hCurrent]
    exact hFirst.abides ⟨rfl, rfl⟩
      (first.table.abides_undertake 0 trivial)
  · intro table session hOpen hDone
    rcases of_get_start hOpen with ⟨hTable, hSession⟩
    rw [hTable, hSession, hCurrent]
    show (Filter.read place.2.1).restrictTo place.1 =
      (Workspace.recordedFilter {}
        (Filter.read place.2.1)).restrictTo place.1
    simp [Workspace.recordedFilter]

/-
  Filters cohere.  Wherever the workspace starts, whatever is
  asked of it and whatever becomes of the loads, when no command
  is under way every open table is of its own list, and its
  filter is what the table reads of the common filter, is what
  is recorded among its parameters, and is what its source was
  made by, at that moment or an earlier one.
-/
theorem filters_cohere
    (settings : Settings)
    (events : List Event)
    {table : TableKind}
    {session : Session}
    (hOpen :
      ((start settings).run events).space.sessions.get table =
        some session)
    (hIdle : ((start settings).run events).idle = true) :
    let s := (start settings).run events
    session.kind = table ∧
      session.filter = s.space.filter.restrictTo table ∧
      session.filter =
        (Filter.read session.table.nav).restrictTo table ∧
      ∃ before, before <+: events ∧
        session.table.feed.source =
          ((start settings).run before).space.backend.source
            table session.filter := by
  intro s
  let built (backend : Backend) : Prop :=
    ∃ before, before <+: events ∧
      ((start settings).run before).space.backend = backend
  have hBuilt : ∀ before, before <+: events →
      built ((start settings).run before).space.backend :=
    fun before hBefore => ⟨before, hBefore, rfl⟩
  have hCoherent : s.Coherent built :=
    (coherent_start settings (hBuilt [] List.nil_prefix)).run
      (attended_start settings) events hBuilt
  have hSession := hCoherent.sessions hOpen
  have hNone : s.unfiltered = [] := unfiltered_of_idle hIdle
  rcases hSession.source with
    ⟨backend, ⟨before, hBefore, hBackend⟩, hSource⟩
  rw [← hBackend] at hSource
  exact ⟨hSession.kind, hCoherent.filter hOpen (by simp [hNone]),
    hSession.recorded, before, hBefore, hSource⟩

/-
  A workspace that starts with the holders of a token, at a link
  whose account cannot be read.
-/
def atMisreadLink : Settings :=
  { backend := Workspace.twoTokens
    config := { pageSize := 2 }
    table := .transactions
    link := some ⟨"holders",
      Workspace.ofFirstToken.set "account" (some "seven")⟩ }

/-
  The holders cannot be loaded, the transactions are shown, and
  another filter is set.  The load that this asks for fails when
  the holders are filtered, and the others are yet to be.
-/
def interruptedFilter : List Event :=
  [ .answer (.error .unreadable)
  , .command 0 (.switchTable .transactions)
  , .answer (.ok none), .finish
  , .command 0 (.setFilter ⟨some ⟨0, 0, 7⟩, some ⟨0, 0, 2⟩⟩)
  , .filter 0 .holders
  , .filter 0 .transactions, .answer (.error .unreadable)
  , .filter 0 .tokens, .filter 0 .accounts ]

/- Both tables that are open end up filtered as was asked. -/
theorem filters_cohere_interrupted :
    let s := (start atMisreadLink).run interruptedFilter
    (s.idle = true ∧
      s.space.active = .transactions ∧
      s.space.filter = ⟨some ⟨0, 0, 7⟩, some ⟨0, 0, 2⟩⟩) ∧
    ∃ shown hidden,
      s.space.sessions.get .transactions = some shown ∧
      s.space.sessions.get .holders = some hidden ∧
      shown.filter = ⟨some ⟨0, 0, 7⟩, none⟩ ∧
      shown.filter = (Filter.read shown.table.nav).restrictTo
        .transactions ∧
      hidden.filter = ⟨none, some ⟨0, 0, 2⟩⟩ ∧
      hidden.filter = (Filter.read hidden.table.nav).restrictTo
        .holders := by
  intro s
  have hFacts :
      (s.idle = true ∧
        s.space.active = .transactions ∧
        s.space.filter = ⟨some ⟨0, 0, 7⟩, some ⟨0, 0, 2⟩⟩) ∧
      (s.space.sessions.get .transactions).isSome = true ∧
      (s.space.sessions.get .holders).isSome = true := by
    decide +kernel
  have hCohere := @filters_cohere atMisreadLink interruptedFilter
  -- from here on the run is only known by the facts about it
  dsimp only [s] at *
  generalize (start atMisreadLink).run interruptedFilter = s at *
  rcases hFacts with ⟨hState, hSomeShown, hSomeHidden⟩
  rcases Option.isSome_iff_exists.mp hSomeShown with
    ⟨shown, hShown⟩
  rcases Option.isSome_iff_exists.mp hSomeHidden with
    ⟨hidden, hHidden⟩
  have hShownCoheres := hCohere hShown hState.1
  have hHiddenCoheres := hCohere hHidden hState.1
  rw [hState.2.2] at hShownCoheres hHiddenCoheres
  exact ⟨hState, shown, hidden, hShown, hHidden,
    hShownCoheres.2.1, hShownCoheres.2.2.1,
    hHiddenCoheres.2.1, hHiddenCoheres.2.2.1⟩

end SpaceTraffic

end LedgerView
