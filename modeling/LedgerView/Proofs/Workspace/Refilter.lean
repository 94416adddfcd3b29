import LedgerView.Proofs.Load.Whole
import LedgerView.Proofs.Table.Restart
import LedgerView.Proofs.Workspace.Deeds

/-
  Tables that are filtered otherwise.

  A change of the filter gives every open table that reads what
  changed another list of rows.  The table in use shows the
  newest rows of its list at once.  Another table shows them
  when it is shown again, provided that it was left without a
  recorded place: a place that was recorded under the filter
  before is kept.

  Key definitions include:
    * `Workspace.ShowsNewest`

  Key theorems include:
    * `Backend.head?_newestRows`
    * `Workspace.refiltered_starts_over`
-/

namespace LedgerView

------------------------------------------------------------
-- The Newest Row
------------------------------------------------------------

/-
  A load whose queries are all answered ends, and adds to what
  it has read.
-/
theorem Load.run_of_answers
    {σ ρ κ : Type}
    {key : ρ → κ}
    {limit : Nat}
    {ask : σ → ListQuery κ → Reply ρ × σ}
    {source : σ}
    (hLimit : 0 < limit)
    (hAnswers : ∀ q, ∃ rows, ask source q = (.ok rows, source))
    (l : Load ρ κ) :
    ∃ l', l.run key limit hLimit ask source = (.ok l', source) ∧
      l.rows <+: l'.rows := by
  induction l using chunk_induction key hLimit with
  | done l hDone =>
      exact ⟨l, run_of_isDone hLimit source hDone,
        List.prefix_rfl⟩
  | loading l hOpen ih =>
      rcases hAnswers (l.query limit) with ⟨rows, hAsk⟩
      rcases ih (rows.getD []) with ⟨l', hRun, hPrefix⟩
      rw [run_of_answer hLimit hOpen hAsk]
      rw [receive_rows] at hPrefix
      exact ⟨l', hRun, (List.prefix_append _ _).trans hPrefix⟩

/- The first chunk of the newest rows are the first rows. -/
theorem selectRows_newest
    {ρ κ : Type}
    [Ord κ]
    (key : ρ → κ)
    (rows : List ρ)
    (count limit : Nat) :
    selectRows key rows
        ((Load.below none count false : Load ρ κ).query limit) =
      rows.take (min count limit) := by
  have hAll : rows.filter (fun row =>
      ((Load.below none count false : Load ρ κ).query limit).wants
        (key row)) = rows :=
    List.filter_eq_self.mpr fun _ _ => rfl
  unfold selectRows
  rw [hAll]
  rfl

namespace Backend

variable {b : Backend} {source : RowSource} {list : MemoryList Row}

/- A list in memory that is available answers every query. -/
theorem ask_of_rows
    (hRows : b.rows? source = some list)
    (hAvailable : list.available = true)
    (q : ListQuery Key) :
    b.ask source q =
      (.ok (some (selectRows Row.key list.rows q)), source) := by
  unfold ask
  split
  · next hOrigin =>
      unfold rows? at hRows
      rw [hOrigin] at hRows
      exact nomatch hRows
  · rw [hRows]
    dsimp only
    unfold MemoryList.answer
    rw [if_pos hAvailable]

/- The newest rows of a list in memory begin with its first. -/
theorem head?_newestRows
    (hRows : b.rows? source = some list)
    (hAvailable : list.available = true)
    {buffer : Buffer Row}
    (hSize : 1 ≤ buffer.window.pageSize) :
    (buffer.newestRows Row.key b.ask source).head? =
      list.rows.head? := by
  let l : Load Row Key := .below none buffer.window.pageSize false
  let size := l.chunkSize buffer.maxLimit
  have hOpen : l.isDone = false :=
    beq_false_of_ne (Nat.ne_of_gt hSize)
  have hChunk : 0 < size :=
    Load.chunkSize_pos buffer.maxLimit_pos hOpen
  have hAsk := ask_of_rows hRows hAvailable
    (l.query buffer.maxLimit)
  rw [selectRows_newest] at hAsk
  let first := l.receive Row.key buffer.maxLimit
    (list.rows.take size)
  have hFirst : first.rows = list.rows.take size := by
    show [] ++ (list.rows.take size).take size = _
    rw [List.nil_append, List.take_take, Nat.min_self]
  have hStep :
      l.run Row.key buffer.maxLimit buffer.maxLimit_pos b.ask
          source =
        first.run Row.key buffer.maxLimit buffer.maxLimit_pos
          b.ask source :=
    Load.run_of_answer buffer.maxLimit_pos hOpen hAsk
  have hTaken : first.rows.head? = list.rows.head? := by
    rw [hFirst, List.head?_take, if_neg (Nat.ne_of_gt hChunk)]
  cases hList : list.rows with
  | nil =>
      have hShort : (list.rows.take size).length < size := by
        rw [hList, List.take_nil]
        exact hChunk
      have hLast : first.isDone = true :=
        beq_iff_eq.mpr (Load.receive_of_short hShort)
      have hRun := hStep.trans
        (Load.run_of_isDone buffer.maxLimit_pos source hLast)
      rw [Buffer.newestRows_of_run hRun, hTaken, hList]
  | cons row rest =>
      have hAnswers (q : ListQuery Key) :
          ∃ rows, b.ask source q = (.ok rows, source) :=
        ⟨_, ask_of_rows hRows hAvailable q⟩
      rcases Load.run_of_answers buffer.maxLimit_pos hAnswers
        first with ⟨loaded, hEnd, older, hLoaded⟩
      rw [Buffer.newestRows_of_run (hStep.trans hEnd), ← hLoaded,
        List.head?_append, hTaken, hList]
      rfl

end Backend

------------------------------------------------------------
-- Sessions
------------------------------------------------------------

/- Rows have the same keys on every source. -/
theorem RowSource.key_eq
    (source : RowSource) :
    Listing.key source = Row.key :=
  rfl

namespace Session

variable {s : Session} {filter : Filter}

/- The table with another filter among its parameters. -/
def refiltered
    (s : Session)
    (filter : Filter) : RowTable :=
  { s.table with
    nav := (filter.restrictTo s.kind).write s.table.nav }

/- A change of what a table reads gives it another source. -/
theorem table_setFilter
    (backend : Backend)
    (now : Nat)
    (hChanges : s.filter.affects filter s.kind = true) :
    (s.setFilter backend now filter).1.table =
      (Controller.perform backend.ask
        ((s.refiltered filter).beginReplace now
          (backend.source s.kind
            (filter.restrictTo s.kind)))).1 := by
  unfold setFilter
  rw [if_pos hChanges]
  rfl

/- A table that is shown starts over on it. -/
theorem startsOver_setFilter
    (backend : Backend)
    (now : Nat)
    (hChanges : s.filter.affects filter s.kind = true)
    (hShown : s.table.mode ≠ .unmounted)
    (hSize : s.table.config.pageSize ≤ maxWord) :
    let t := (s.setFilter backend now filter).1.table
    t.StartsOver Row.key backend.ask
        (backend.source s.kind (filter.restrictTo s.kind)) ∧
      1 ≤ t.window.pageSize := by
  let source := backend.source s.kind (filter.restrictTo s.kind)
  let begun := (s.refiltered filter).beginReplace now source
  have hWord : max s.table.config.pageSize 1 ≤ maxWord :=
    Nat.max_le.mpr ⟨hSize, by decide⟩
  have hStarts :
      (Controller.perform backend.ask begun).1.StartsOver Row.key
        backend.ask source :=
    (Controller.startsOver_beginReplace (c := s.refiltered filter)
      RowSource.key_eq now source hShown hWord).2
  have hPage :=
    (Controller.endures_perform backend.source_ask begun).pageSize
  dsimp only
  rw [table_setFilter backend now hChanges, hPage]
  exact ⟨hStarts,
    (s.refiltered filter).pageSize_beginReplace now source⟩

/- One that is not is parked with it. -/
theorem parked_setFilter
    (backend : Backend)
    (now : Nat)
    (hChanges : s.filter.affects filter s.kind = true)
    (hHidden : s.table.mode = .unmounted) :
    (s.setFilter backend now filter).1.Parked s.kind
      (filter.restrictTo s.kind)
      (backend.source s.kind (filter.restrictTo s.kind)) := by
  let source := backend.source s.kind (filter.restrictTo s.kind)
  have hTable :
      (s.setFilter backend now filter).1.table =
        (s.refiltered filter).supplied source := by
    rw [table_setFilter backend now hChanges,
      Controller.beginReplace_eq,
      show (s.refiltered filter).mode = .unmounted from hHidden]
    rfl
  have hFilter :
      (s.setFilter backend now filter).1.filter =
        filter.restrictTo s.kind := by
    unfold setFilter
    rw [if_pos hChanges]
    rfl
  constructor
  · exact kind_setFilter backend now filter s
  · exact hFilter
  · rw [hTable]
    rfl
  · rw [hTable]
    rfl
  · rw [hTable]
    exact Nat.le_max_right _ _

/- A parked table without a place goes live on its source. -/
theorem Parked.mount
    {kind : TableKind}
    {source : RowSource}
    (hParked : s.Parked kind filter source)
    (backend : Backend)
    (now : Nat)
    (hPlaceless : s.table.navState.isAnchored = false) :
    let t := (s.mount backend now).1.table
    t.mode = .autoRefresh ∧
      t.StartsOver Row.key backend.ask source ∧
      1 ≤ t.window.pageSize := by
  have hBegun : s.table.beginMount now = s.table.beginLive now := by
    unfold Controller.beginMount
    rw [if_neg (by rw [hPlaceless]; decide)]
  have hTable :
      (s.mount backend now).1.table =
        (Controller.perform backend.ask
          (s.table.beginLive now)).1 := by
    rw [← hBegun]
    rfl
  let shown :=
    (Controller.perform backend.ask (s.table.beginLive now)).1
  have hStarts :
      shown.mode = .autoRefresh ∧
        shown.StartsOver Row.key backend.ask
          s.table.feed.source :=
    Controller.startsOver_beginLive RowSource.key_eq now s.table
  have hPage :=
    (Controller.endures_perform backend.source_ask
      (s.table.beginLive now)).pageSize
  dsimp only
  rw [hTable, ← hParked.source, hPage]
  exact ⟨hStarts.1, hStarts.2, hParked.pageSize⟩

end Session

------------------------------------------------------------
-- Workspaces
------------------------------------------------------------

namespace Workspace

variable {w : Workspace}

/-
  Whether a workspace shows a table under a filter from the
  newest row of a source on: it is on page 1, which begins with
  the first row that the source gives.
-/
structure ShowsNewest
    (w : Workspace)
    (table : TableKind)
    (filter : Filter)
    (source : RowSource) : Prop where
  shows : w.snapshot.table = table
  reads : w.snapshot.filter = filter.restrictTo table
  page : w.snapshot.page = 1
  rows : w.current.table.StartsOver Row.key w.backend.ask source
  first : ∀ list, w.backend.rows? source = some list →
    list.available = true →
      w.snapshot.keys.head? =
        list.rows.head?.map fun row => row.key.toString

/- A table in use that starts over is shown so. -/
theorem showsNewest_of_startsOver
    (hTidy : w.Tidy)
    {filter : Filter}
    {source : RowSource}
    (hFilter : w.current.filter = filter.restrictTo w.active)
    (hStarts :
      w.current.table.StartsOver Row.key w.backend.ask source)
    (hSize : 1 ≤ w.current.table.window.pageSize) :
    w.ShowsNewest w.active filter source where
  shows := hTidy.snapshot_table
  reads := hFilter
  page := hStarts.currentPage
  rows := hStarts
  first list hRows hAvailable := by
    have hFirst := (hStarts.firstVisible hSize).trans
      (Backend.head?_newestRows hRows hAvailable hSize)
    rw [← hFirst]
    exact List.head?_map

/- What a change of the filter makes of a table that is open. -/
theorem sessions_setFilter
    (now : Nat)
    (filter : Filter)
    {table : TableKind}
    {s : Session}
    (hOpen : w.sessions.get table = some s) :
    (w.setFilter now filter).1.sessions.get table =
      some (s.setFilter w.backend now filter).1 := by
  rw [setFilter_fst]
  exact get_mapSessions hOpen

/- So it starts over if it is the table in use, -/
theorem showsNewest_setFilter
    (hTidy : w.Tidy)
    (hOne : w.OneShown)
    (now : Nat)
    {filter : Filter}
    {s : Session}
    (hOpen : w.sessions.get w.active = some s)
    (hChanges : s.filter.affects filter w.active = true)
    (hSize : s.table.config.pageSize ≤ maxWord) :
    let filtered := (w.setFilter now filter).1
    filtered.snapshot.mode = w.snapshot.mode ∧
      filtered.ShowsNewest w.active filter
        (w.backend.source w.active
          (filter.restrictTo w.active)) := by
  intro filtered
  have hAfter : filtered.Tidy := hTidy.setFilter now filter
  have hActive : filtered.active = w.active :=
    active_handle now w (.setFilter filter)
  have hFilter : filtered.filter = filter :=
    filter_handle now w (.setFilter filter)
  have hBackend : filtered.backend = w.backend := by
    dsimp only [filtered]
    rw [setFilter_fst]
    rfl
  have hBefore : w.current = s := session_of_open hOpen
  have hCurrent :
      filtered.current = (s.setFilter w.backend now filter).1 := by
    unfold current
    rw [hActive]
    exact session_of_open (sessions_setFilter now filter hOpen)
  have hReads :
      filtered.current.filter =
        filter.restrictTo filtered.active := by
    rw [← hFilter]
    exact hAfter.snapshot_filter
  have hShown := hOne.current
  rw [hBefore] at hShown
  rw [← hTidy.kind hOpen] at hChanges
  rcases s.startsOver_setFilter w.backend now hChanges hShown
    hSize with ⟨hStarts, hPage⟩
  rw [← hCurrent, hTidy.kind hOpen, ← hBackend] at hStarts
  rw [← hCurrent] at hPage
  have hNewest :=
    showsNewest_of_startsOver hAfter hReads hStarts hPage
  rw [hActive, hBackend] at hNewest
  refine ⟨?_, hNewest⟩
  show filtered.current.table.mode = w.current.table.mode
  rw [hCurrent, hBefore]
  exact s.mode_setFilter w.backend now filter

/- and is parked otherwise. -/
theorem parks_setFilter
    (hTidy : w.Tidy)
    (hOne : w.OneShown)
    (now : Nat)
    {filter : Filter}
    {table : TableKind}
    {s : Session}
    (hOpen : w.sessions.get table = some s)
    (hAway : table ≠ w.active)
    (hChanges : s.filter.affects filter table = true) :
    (w.setFilter now filter).1.Parks table filter
      (w.backend.source table (filter.restrictTo table)) := by
  have hActive : (w.setFilter now filter).1.active = w.active :=
    active_handle now w (.setFilter filter)
  have hKind := hTidy.kind hOpen
  rw [← hKind] at hChanges
  have hParked := s.parked_setFilter w.backend now hChanges
    (hOne.hidden hAway hOpen)
  rw [hKind] at hParked
  exact ⟨ne_of_ne_of_eq hAway hActive.symm,
    _, sessions_setFilter now filter hOpen, hParked⟩

/- A parked table without a place starts over when shown. -/
theorem Parks.showsNewest_switchTo
    (hTidy : w.Tidy)
    {table : TableKind}
    {filter : Filter}
    {source : RowSource}
    (hParks : w.Parks table filter source)
    (now : Nat)
    (hPlaceless :
      (w.session table).table.navState.isAnchored = false) :
    let shown := (w.switchTo now table).1
    shown.snapshot.mode = .autoRefresh ∧
      shown.ShowsNewest table filter source := by
  intro shown
  rcases hParks.parked with ⟨s, hOpen, hParked⟩
  rw [session_of_open hOpen] at hPlaceless
  rcases hParked.mount w.backend now hPlaceless with
    ⟨hMode, hStarts, hPage⟩
  let left : Workspace :=
    { w.setCurrent w.current.unmount with active := table }
  have hLeft : left.current = s :=
    session_of_open
      ((sessions_setCurrent w _ hParks.away).trans hOpen)
  have hShown :
      shown = left.setCurrent (s.mount w.backend now).1 := by
    dsimp only [shown]
    unfold switchTo
    rw [if_neg hParks.away, ← hLeft]
    rfl
  have hAfter : shown.Tidy :=
    hTidy.handle now (.switchTable table)
  have hCurrent : shown.current = (s.mount w.backend now).1 := by
    rw [hShown]
    exact session_of_open (left.active_setCurrent _)
  have hActive : shown.active = table :=
    active_handle now w (.switchTable table)
  have hBackend : shown.backend = w.backend := by
    rw [hShown]
    rfl
  have hReads :
      shown.current.filter = filter.restrictTo shown.active := by
    rw [hCurrent, hActive, ← hParked.filter]
    exact (s.alike_mount w.backend now).filter
  rw [← hCurrent] at hMode hStarts hPage
  rw [← hBackend] at hStarts
  have hNewest :=
    showsNewest_of_startsOver hAfter hReads hStarts hPage
  rw [hActive] at hNewest
  exact ⟨hMode, hNewest⟩

/-
  What a change of the filter shows.  Suppose that it changes
  what an open table reads, whose page size is a machine word.
  If the table is in use, then it is shown at once in the mode
  in which it was, from the newest row of its new list on.  If
  not, the same holds of the live view in which it is shown
  again later, whatever happens in between, provided that no
  place of the table is recorded when it is.
-/
theorem refiltered_starts_over
    (backend : Backend)
    (config : PagerConfig)
    (kind : TableKind)
    (nav : Params)
    (start : Nat)
    (before : List Deed)
    (hGoesOn : ∀ deed ∈ before, deed.GoesOn)
    (now : Nat)
    (filter : Filter)
    {table : TableKind}
    {s : Session}
    (hOpen :
      ((openAt backend config kind nav start).1.run
        before).sessions.get table = some s)
    (hChanges : s.filter.affects filter table = true)
    (hSize : s.table.config.pageSize ≤ maxWord) :
    let w := (openAt backend config kind nav start).1.run before
    let filtered := (w.handle now (.setFilter filter)).1
    let source :=
      w.backend.source table (filter.restrictTo table)
    (table = w.active →
      filtered.snapshot.mode = w.snapshot.mode ∧
        filtered.ShowsNewest table filter source) ∧
    (table ≠ w.active →
      ∀ (after : List Deed) (later : Nat),
        (∀ deed ∈ after, deed.Spares table filter) →
        let left := filtered.run after
        let shown := (left.handle later (.switchTable table)).1
        (left.session table).table.navState.isAnchored = false →
          shown.snapshot.mode = .autoRefresh ∧
            shown.ShowsNewest table filter source) := by
  intro w filtered source
  have hTidy : w.Tidy := tidy_run (.openAt ..) before
  have hOne : w.OneShown :=
    oneShown_run (.openAt backend config kind nav start) hGoesOn
  constructor
  · intro hActive
    subst hActive
    exact showsNewest_setFilter hTidy hOne now hOpen hChanges hSize
  · intro hAway after later hSpares left shown hPlaceless
    have hParks : left.Parks table filter source :=
      (parks_setFilter hTidy hOne now hOpen hAway hChanges).run
        hSpares
    have hLeft : left.Tidy :=
      tidy_run (hTidy.setFilter now filter) after
    exact hParks.showsNewest_switchTo hLeft later hPlaceless

------------------------------------------------------------
-- The Holders of Two Tokens
------------------------------------------------------------

/- The holders of a token, by the numbers of their accounts. -/
def holdersOf
    (accounts : List UInt64) : MemoryList Row :=
  { rows := accounts.map fun n => .holder ⟨⟨0, 0, n⟩, 1, 0⟩ }

/- A ledger that lists the holders of two tokens. -/
def twoTokens : Backend :=
  let nothing : MemoryList Row := ⟨[], true⟩
  .demo
    ⟨nothing, nothing, nothing,
      [ (⟨0, 0, 1⟩, holdersOf [15, 14, 13, 12, 11])
      , (⟨0, 0, 2⟩, holdersOf [26, 25, 14, 13, 12]) ]⟩

/- The parameters of the holders of the first token. -/
def ofFirstToken : Params :=
  Filter.write ⟨none, some ⟨0, 0, 1⟩⟩ .empty

/- The filter that names the second token. -/
def secondToken : Filter :=
  { token := some ⟨0, 0, 2⟩ }

/- The holders of the first token, on pages of two. -/
def firstHolders : Workspace :=
  (openAt twoTokens { pageSize := 2 } .holders ofFirstToken 0).1

/- The holders are left live, and are those of another token. -/
theorem refiltered_starts_over_live :
    let before : List Deed :=
      [.command 0 (.switchTable .tokens)]
    let w := firstHolders.run before
    let filtered := (w.handle 0 (.setFilter secondToken)).1
    let left := filtered.run [.background]
    let shown := (left.handle 0 (.switchTable .holders)).1
    ((∀ deed ∈ before, deed.GoesOn) ∧
      (∃ s, w.sessions.get .holders = some s ∧
        s.filter.affects secondToken .holders = true ∧
        s.table.config.pageSize ≤ maxWord) ∧
      TableKind.holders ≠ w.active ∧
      (∀ deed ∈ [Deed.background],
        deed.Spares .holders secondToken) ∧
      (left.session .holders).table.navState.isAnchored =
        false) ∧
    shown.snapshot.keys = ["0.0.26", "0.0.25"] ∧
      shown.snapshot.mode = .autoRefresh ∧
      shown.ShowsNewest .holders secondToken
        (w.backend.source .holders
          (secondToken.restrictTo .holders)) := by
  intro before w filtered left shown
  have hGoesOn : ∀ deed ∈ before, deed.GoesOn := by
    intro deed hDeed
    rw [List.mem_singleton.mp hDeed]
    trivial
  have hSpares : ∀ deed ∈ [Deed.background],
      deed.Spares .holders secondToken := by
    intro deed hDeed
    rw [List.mem_singleton.mp hDeed]
    trivial
  have hFacts :
      ((w.sessions.get .holders).isSome = true ∧
        (w.session .holders).filter.affects secondToken
            .holders = true ∧
        (w.session .holders).table.config.pageSize ≤ maxWord ∧
        TableKind.holders ≠ w.active) ∧
      (left.session .holders).table.navState.isAnchored =
          false ∧
        shown.snapshot.keys = ["0.0.26", "0.0.25"] := by
    decide +kernel
  rcases hFacts with
    ⟨⟨hSome, hChanges, hSize, hAway⟩, hPlaceless, hKeys⟩
  rcases Option.isSome_iff_exists.mp hSome with ⟨s, hOpen⟩
  rw [session_of_open hOpen] at hChanges hSize
  have hShown :=
    (refiltered_starts_over twoTokens { pageSize := 2 } .holders
      ofFirstToken 0 before hGoesOn 0 secondToken hOpen hChanges
      hSize).2 hAway [.background] 0 hSpares hPlaceless
  exact ⟨⟨hGoesOn, ⟨s, hOpen, hChanges, hSize⟩, hAway, hSpares,
    hPlaceless⟩, hKeys, hShown⟩

/-
  If the holders are left on a page instead, then its number and
  its key are kept, and the page is opened among the holders of
  the other token.
-/
theorem place_kept_when_refiltered :
    let w := firstHolders.run
      [ .command 0 (.gotoPage 2), .background
      , .command 0 (.switchTable .tokens) ]
    let filtered := (w.handle 0 (.setFilter secondToken)).1
    let shown := (filtered.handle 0 (.switchTable .holders)).1
    ((w.session .holders).filter.affects secondToken .holders =
        true ∧
      TableKind.holders ≠ w.active) ∧
    (shown.snapshot.filter = secondToken ∧
      shown.snapshot.mode = .pagination ∧
      shown.snapshot.page = 2 ∧
      shown.snapshot.keys = ["0.0.13", "0.0.12"]) ∧
    ¬shown.ShowsNewest .holders secondToken
      (w.backend.source .holders
        (secondToken.restrictTo .holders)) := by
  intro w filtered shown
  have hFacts :
      ((w.session .holders).filter.affects secondToken .holders =
          true ∧
        TableKind.holders ≠ w.active) ∧
      (shown.snapshot.filter = secondToken ∧
        shown.snapshot.mode = .pagination ∧
        shown.snapshot.page = 2 ∧
        shown.snapshot.keys = ["0.0.13", "0.0.12"]) := by
    decide +kernel
  rcases hFacts with ⟨hAsked, hShown⟩
  refine ⟨hAsked, hShown, fun hNewest => ?_⟩
  have hPages : 1 = 2 := hNewest.page.symm.trans hShown.2.2.1
  exact absurd hPages (by decide)

end Workspace

end LedgerView
