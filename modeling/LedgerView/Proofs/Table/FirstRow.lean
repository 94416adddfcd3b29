import LedgerView.Proofs.Live.Newest
import LedgerView.Proofs.Table.Provenance

/-
  Another page size keeps the first row in view.

  A table that takes another page size goes to the page on which
  its first row now stands.  If that move is committed then
  nothing has happened to the window in between, and as the
  window stands on its source, the rows that are missing above
  it are there.  So the row is shown.

  Key definitions include:
    * `TableTraffic.Tracks`
    * `TableTraffic.Commits`

  Key theorems include:
    * `TableTraffic.Tracks.step`
    * `TableTraffic.Moored.of_commits`
    * `TableTraffic.resize_keeps_first_row`
-/

namespace LedgerView

variable {σ ρ κ : Type}
variable [LinearOrder κ] [Listing σ ρ κ]
variable {key : ρ → κ}

------------------------------------------------------------
-- Moves to the First Row
------------------------------------------------------------

omit [LinearOrder κ] in
/- What a table that takes another page size has to load. -/
theorem Controller.course_of_beginSetPageSize
    {c : Controller σ ρ κ}
    (hKey : c.key = key)
    (hFirst : c.mode = .autoRefresh →
      c.window.shadow = 0 ∧ c.window.startIndex = 0)
    {pageSize : Nat}
    {m : Move ρ κ}
    (hMoving : (c.beginSetPageSize pageSize).2 = .moving m) :
    (c.beginSetPageSize pageSize).1.window =
        c.window.resize pageSize ∧
      ∃ load,
        Course key c.buffer.maxLimit (c.window.resize pageSize)
          (.move (c.window.absoluteStart / max pageSize 1 + 1)
            none)
          m.flight.edit load := by
  let d := c.resized pageSize
  -- both kinds of tables begin the same move
  have hMove (page : Nat) (records : Bool)
      (hBegun : c.beginSetPageSize pageSize =
        d.beginMove page none records) :
      (c.beginSetPageSize pageSize).1.window =
          c.window.resize pageSize ∧
        ∃ load,
          Course key c.buffer.maxLimit (c.window.resize pageSize)
            (.move page none) m.flight.edit load := by
    have hSize : d.abort.buffer.window = c.window.resize pageSize :=
      c.window_resized pageSize
    rw [hBegun] at hMoving ⊢
    rcases d.beginMove_cases page none records with
      ⟨f, hBegin, hSame⟩ | ⟨e, hSame⟩
    · rw [hSame] at hMoving ⊢
      cases hMoving
      rw [show d.key = key from hKey] at hBegin
      have hCourse := (Buffer.begin_eq_ok_iff.mp hBegin).2
      rw [hSize] at hCourse
      exact ⟨hSize, _, hCourse⟩
    · rw [hSame] at hMoving
      cases hMoving
  rw [c.beginSetPageSize_eq] at hMoving
  have hBegun := c.beginSetPageSize_eq pageSize
  split at hBegun
  · next hPaged =>
      refine hMove _ true (hBegun.trans ?_)
      have hSame : d.paginate = d := by
        unfold paginate
        rw [show d.strategy = .paged from hPaged]
      unfold beginGoto
      rw [hSame]
      exact if_neg (Nat.succ_ne_zero _)
  · next view hLive =>
      have hMode : c.mode = .autoRefresh := by
        unfold mode
        rw [hLive]
      have hStart : c.window.absoluteStart = 0 := by
        rcases hFirst hMode with ⟨hShadow, hIndex⟩
        unfold Window.absoluteStart
        rw [hShadow, hIndex]
        rfl
      rw [hStart, Nat.zero_div]
      exact hMove 1 false hBegun
  · next hUnmounted =>
      rw [hUnmounted] at hMoving
      cases hMoving

namespace TableTraffic

/-
  What holds of a promise from the moment it is made: it is a
  move on a window, and as long as it can be committed that is
  the window of the table.
-/
structure Tracks
    (key : ρ → κ)
    (place : Nat)
    (op : Operation κ)
    (w : Window ρ)
    (s : TableTraffic σ ρ κ) : Prop where
  made : place < s.promises.length
  course : ∀ m, s.promises[place]? = some (.pending m) →
    ∃ limit load, Course key limit w op m.flight.edit load
  window : ∀ m, s.promises[place]? = some (.pending m) →
    m.feed = s.table.past.length →
      s.table.buffer.isCurrent m.flight.plan = true →
        s.table.window = w

variable {H : Holdings σ key} {s : TableTraffic σ ρ κ}
variable {place : Nat} {op : Operation κ} {w : Window ρ}

/- It holds of a table that takes another page size. -/
theorem Moored.tracks_setPageSize
    (hMoored : s.Moored H)
    (now pageSize : Nat) :
    (s.step (.ask now (.setPageSize pageSize))).Tracks key
      s.promises.length
      (.move (s.table.window.absoluteStart / max pageSize 1 + 1)
        none)
      (s.table.window.resize pageSize) := by
  let begun := s.table.beginSetPageSize pageSize
  have hPromises :
      (s.step (.ask now (.setPageSize pageSize))).promises =
        s.promises ++ [begun.2.promise] := rfl
  have hBegun (m : Move ρ κ)
      (hMove :
        (s.step (.ask now (.setPageSize pageSize))).promises[
          s.promises.length]? = some (.pending m)) :
      begun.2 = .moving m := by
    rw [hPromises, List.getElem?_concat_length] at hMove
    cases hLeft : begun.2 with
    | moving m' =>
        rw [hLeft] at hMove
        cases hMove
        rfl
    | ended outcome => rw [hLeft] at hMove; cases hMove
    | failed fault => rw [hLeft] at hMove; cases hMove
  have hCourse (m : Move ρ κ) (hMoving : begun.2 = .moving m) :=
    Controller.course_of_beginSetPageSize (H.key_eq _)
      (fun hLive =>
        ⟨(hMoored.fronted hLive).shadow,
          (hMoored.fronted hLive).startIndex⟩) hMoving
  refine ⟨?_, fun m hMove => ?_, fun m hMove _ _ => ?_⟩
  · rw [hPromises, List.length_append]
    exact Nat.lt_succ_self _
  · exact ⟨_, (hCourse m (hBegun m hMove)).2⟩
  · exact (hCourse m (hBegun m hMove)).1

/- It keeps holding, whatever happens. -/
theorem Tracks.step
    (hTracks : s.Tracks key place op w)
    (hMoored : s.Moored H)
    (event : Event σ ρ)
    (hTruthful : s.Truthful H event)
    (hFew : (s.step event).aborts < 2 ^ 64) :
    (s.step event).Tracks key place op w := by
  refine
    { made := Nat.lt_of_lt_of_le hTracks.made
        (s.length_promises_step event)
      course := fun m' hMove => ?_
      window := fun m' hMove hFeed hCurrent => ?_ }
  all_goals
    rcases pending_of_step hTracks.made hMove with
      ⟨m, hOld, hSameFeed, hPlan, hEdit⟩
  · rw [hEdit]
    exact hTracks.course m hOld
  have hMem :=
    mem_flights_of_pending (List.mem_of_getElem? hMove) hFeed
  rcases hMoored.passes_or_stale event hTruthful hFew with
    ⟨hPasses, hPast⟩ | ⟨feed, next, rfl⟩ | hStale
  · rcases hPasses.passage.exists_load
        (List.mem_filter.mpr ⟨hMem, hCurrent⟩) with
      ⟨hWindow, g, hLoad, hSamePlan⟩
    have hOldCurrent :
        s.table.buffer.isCurrent m.flight.plan = true := by
      rw [← hPlan, ← hSamePlan]
      exact (List.mem_filter.mp hLoad).2
    rw [hPast, hSameFeed] at hFeed
    exact hWindow.trans (hTracks.window m hOld hFeed hOldCurrent)
  · rcases s.source_step feed next with ⟨-, hBuffer, hPast, -⟩
    rw [hBuffer, hPlan] at hCurrent
    rw [hPast, hSameFeed] at hFeed
    exact (congrArg Buffer.window hBuffer).trans
      (hTracks.window m hOld hFeed hCurrent)
  · have hEarlier := hStale m (List.mem_of_getElem? hOld)
    rw [← hSameFeed, hFeed, Controller.generation_current]
      at hEarlier
    unfold Move.generation at hEarlier
    rw [← hPlan] at hEarlier
    exact absurd hCurrent (Buffer.not_isCurrent_of_lt hEarlier)

/- So it does in every run. -/
theorem Tracks.run
    (hTracks : s.Tracks key place op w)
    (hMoored : s.Moored H)
    {events : List (Event σ ρ)}
    (hTruthful : s.Along (Truthful H) events)
    (hOpens : s.Along (OpensDeep H) events)
    (hFew : (s.run events).aborts < 2 ^ 64) :
    (s.run events).Tracks key place op w := by
  induction events generalizing s with
  | nil => exact hTracks
  | cons event rest ih =>
      have hNext : (s.step event).aborts < 2 ^ 64 :=
        Nat.lt_of_le_of_lt (aborts_le_run _ rest) hFew
      exact ih (hTracks.step hMoored event hTruthful.1 hNext)
        (hMoored.step event hTruthful.1 hOpens.1 hNext)
        hTruthful.2 hOpens.2 hFew

------------------------------------------------------------
-- Moves That Are Committed
------------------------------------------------------------

omit [LinearOrder κ] in
/- The operation at a place would now be committed. -/
def Commits
    [DecidableEq κ]
    (s : TableTraffic σ ρ κ)
    (place : Nat) : Prop :=
  (∃ m, s.promises[place]? = some (.pending m)) ∧
    (s.step (.finish place)).promises[place]? =
      some (.kept (.ok .committed))

omit [LinearOrder κ] in
instance
    [DecidableEq κ]
    (s : TableTraffic σ ρ κ)
    (place : Nat) : Decidable (s.Commits place) :=
  have : Decidable (∃ m, s.promises[place]? = some (.pending m)) :=
    decidable_of_iff
      (∃ m, s.promises[place]? = some (.pending m) ∧ True)
      (by simp only [and_true])
  inferInstanceAs (Decidable (_ ∧ _))

omit [LinearOrder κ] in
/- What is committed is loaded, and current where it began. -/
theorem Commits.current
    [DecidableEq κ]
    (hCommits : s.Commits place) :
    ∃ m, s.promises[place]? = some (.pending m) ∧
      m.flight.load.isDone = true ∧
      (s.table.feedAt m.feed).buffer.isCurrent m.flight.plan =
        true := by
  rcases hCommits with ⟨⟨m, hMove⟩, hKept⟩
  have hDone : m.flight.load.isDone = true := by
    by_contra hOpen
    have hIdle : s.step (.finish place) = s := by
      unfold TableTraffic.step
      dsimp only
      rw [hMove]
      exact if_neg hOpen
    rw [hIdle, hMove] at hKept
    cases hKept
  have hOutcome : (s.table.finish m).2 = .committed := by
    have hLess := (List.getElem?_eq_some_iff.mp hMove).1
    have hSet :
        (s.step (.finish place)).promises[place]? =
          some (.kept (.ok (s.table.finish m).2)) := by
      rw [step_finish hMove hDone]
      exact List.getElem?_set_self hLess
    rw [hSet] at hKept
    injections
  rw [Controller.finish_snd] at hOutcome
  exact ⟨m, hMove, hDone, Buffer.isCurrent_of_committed hOutcome⟩

/- What was begun on an earlier source is not current there. -/
theorem Moored.feed_of_isCurrent
    (hMoored : s.Moored H)
    {m : Move ρ κ}
    (hMove : .pending m ∈ s.promises)
    (hCurrent :
      (s.table.feedAt m.feed).buffer.isCurrent m.flight.plan =
        true) :
    m.feed = s.table.past.length := by
  have hAwaits := hMoored.timely.moves m hMove
  refine Nat.le_antisymm hAwaits.feed (Nat.not_lt.mp fun hLess => ?_)
  have hStale := hMoored.bygone m hMove hLess
  unfold Controller.generation at hStale
  rw [if_pos hAwaits.feed] at hStale
  exact Buffer.not_isCurrent_of_lt hStale hCurrent

/- So it is under way on the source in use when it is committed. -/
theorem Moored.of_commits
    (hMoored : s.Moored H)
    (hCommits : s.Commits place) :
    ∃ m, s.promises[place]? = some (.pending m) ∧
      m.feed = s.table.past.length ∧
      m.flight ∈ (s.scene H).loads ∧
      m.flight.load.isDone = true ∧
      (s.step (.finish place)).table.window =
        m.flight.edit.apply key m.flight.load.rows
          s.table.window := by
  rcases hCommits.current with ⟨m, hMove, hDone, hCurrent⟩
  have hPending := List.mem_of_getElem? hMove
  have hFeed := hMoored.feed_of_isCurrent hPending hCurrent
  rw [hFeed, Controller.feedAt_current] at hCurrent
  have hLoad : m.flight ∈ (s.scene H).loads :=
    List.mem_filter.mpr
      ⟨mem_flights_of_pending hPending hFeed, hCurrent⟩
  refine ⟨m, hMove, hFeed, hLoad, hDone, ?_⟩
  rcases s.table.finish_feed m hFeed with ⟨-, -, hBuffer⟩
  rw [H.key_eq, Buffer.commit_of_isCurrent hCurrent] at hBuffer
  rw [step_finish hMove hDone]
  exact congrArg Buffer.window hBuffer

/-
  Another page size keeps the first visible row on screen.
  Whatever is asked of a table, however its operations overlap,
  over a source that tells the truth or fails and gains only
  newer rows: as long as every place that is opened, by mounting
  the table or by reloading its pages, was recorded on these rows
  under the page size of that time, a change of the page size
  that is committed shows the row that came first before.
-/
theorem resize_keeps_first_row
    (R : Catalog σ key)
    (s : TableTraffic σ ρ κ)
    (earlier : List (Event σ ρ))
    (now pageSize : Nat)
    (later : List (Event σ ρ))
    (row : ρ) :
    let shown := s.run earlier
    let events :=
      earlier ++ .ask now (.setPageSize pageSize) :: later
    let loaded := s.run events
    let after := loaded.step (.finish shown.promises.length)
    s.Fresh →
    s.Along (Truthful R.toHoldings) events →
    s.Along (OpensNoted R) events →
    after.aborts < 2 ^ 64 →
    shown.table.window.firstVisible = some row →
    loaded.Commits shown.promises.length →
    row ∈ after.table.window.pageRows := by
  intro shown events loaded after hFresh hTruthful hOpens hFew
    hRow hCommits
  let asked := shown.step (.ask now (.setPageSize pageSize))
  have hLoaded : loaded = asked.run later := s.run_append _ _
  have hFewLoaded : loaded.aborts < 2 ^ 64 :=
    Nat.lt_of_le_of_lt (loaded.aborts_le_step _) hFew
  have hFewAsked : asked.aborts < 2 ^ 64 := by
    rw [hLoaded] at hFewLoaded
    exact Nat.lt_of_le_of_lt (asked.aborts_le_run later) hFewLoaded
  have hFewShown : shown.aborts < 2 ^ 64 :=
    Nat.lt_of_le_of_lt (shown.aborts_le_step _) hFewAsked
  rcases along_append.mp hTruthful with ⟨hEarlier, hAsk, hLater⟩
  rcases along_append.mp hOpens with
    ⟨hOpensEarlier, hOpensAsk, hOpensLater⟩
  have hMooredShown : shown.Moored R.toHoldings :=
    moored_of_noted hFresh hEarlier hOpensEarlier hFewShown
  have hMooredAsked : asked.Moored R.toHoldings :=
    hMooredShown.step _ hAsk
      (opensDeep_of_noted shown _ hOpensAsk) hFewAsked
  have hDeepLater := hOpensLater.imp opensDeep_of_noted
  rw [hLoaded] at hFewLoaded hCommits
  have hMoored := moored_run hMooredAsked hLater hDeepLater
    hFewLoaded
  have hTracks :=
    (hMooredShown.tracks_setPageSize now pageSize).run
      hMooredAsked hLater hDeepLater hFewLoaded
  rcases hMoored.of_commits hCommits with
    ⟨m, hMove, hFeed, hLoad, hDone, hWindow⟩
  rcases hTracks.course m hMove with ⟨limit, load, hCourse⟩
  have hSame := hTracks.window m hMove hFeed
    (List.mem_filter.mp hLoad).2
  have hBacks := hMoored.moored.backs m.flight hLoad
  change m.flight.Backs _ (asked.run later).table.window at hBacks
  rw [hSame] at hWindow hBacks
  have hShows := hCourse.shows_first_row hRow hBacks hDone
  rw [← hWindow, ← hLoaded] at hShows
  exact hShows

------------------------------------------------------------
-- Pages That Were Recorded under Another Size
------------------------------------------------------------

/- Springs write their numbers in one way. -/
def almanac : Catalog Spring (id : Nat → Nat) where
  toHoldings := springs
  codec := Spring.chronicle.codec
  write_eq := Spring.chronicle.write_eq
  read?_eq := Spring.chronicle.read?_eq

/- A table goes to page 2, whose first row is 8. -/
def turned : List (Event Spring Nat) :=
  [.ask 0 .mount, .answer 0 (.ok (some [11, 10, 9])), .finish 0,
   .ask 10 (.goto 2), .answer 1 (.ok (some [8, 7, 6]))]

/- It is unmounted once that is recorded, and a row comes in. -/
def aside : List (Event Spring Nat) :=
  turned ++ [.finish 1] ++ [.ask 20 .unmount, .source 0 ⟨13, 0⟩]

/- The page is opened again, and gets other pages. -/
def reopened : List (Event Spring Nat) :=
  [.answer 2 (.ok (some [8, 7, 6])), .finish 2]

/- The row is shown with the one that stands above it. -/
theorem resize_keeps_first_row_reopened :
    let s := numbers 12 3 50
    let earlier := aside ++ .ask 30 .mount :: reopened
    let later : List (Event Spring Nat) :=
      [.answer 3 (.ok (some [9]))]
    let shown := s.run earlier
    let events := earlier ++ .ask 40 (.setPageSize 2) :: later
    let loaded := s.run events
    let after := loaded.step (.finish shown.promises.length)
    (s.Fresh ∧ s.Along (Truthful almanac.toHoldings) events ∧
      s.Along (OpensNoted almanac) events ∧
      after.aborts < 2 ^ 64 ∧
      shown.table.window.firstVisible = some 8 ∧
      loaded.Commits shown.promises.length) ∧
    after.table.window.pageRows = [9, 8] ∧
    8 ∈ after.table.window.pageRows := by
  intro s earlier later shown events loaded after
  have hFresh : s.Fresh := ⟨_, _, _, _, rfl⟩
  have hTruthful :
      s.Along (Truthful almanac.toHoldings) events := by
    decide +kernel
  have hNames : s.table.names.Distinct := by decide
  have hTurned :
      s.Along (Truthful almanac.toHoldings)
        (turned ++ [.finish 1]) := by
    decide +kernel
  have hFewTurned :
      (s.run (turned ++ [.finish 1])).aborts < 2 ^ 64 := by
    decide +kernel
  have hNone : s.Along (fun t event => ¬t.Opens event) turned := by
    decide +kernel
  have hRecords : (s.run turned).Records (.finish 1) := by
    decide +kernel
  have hRecorded :=
    Catalog.Noted.now (R := almanac) s turned (.finish 1) hFresh
      hNames hTurned hFewTurned
      (fun done opening rest hSplit hOpens =>
        absurd hOpens (hNone.of_split hSplit))
      hRecords
  have hGrown :
      (Conduct.growing (id : Nat → Nat)).Becomes
        (almanac.archive
          (s.run (turned ++ [.finish 1])).table.feed.source)
        (almanac.archive (s.run aside).table.feed.source) := by
    decide +kernel
  have hSize :
      (s.run aside).table.window.pageSize =
        (s.run (turned ++ [.finish 1])).table.window.pageSize := by
    decide +kernel
  have hPlace :
      (s.run aside).table.navState =
        (s.run (turned ++ [.finish 1])).table.navState := by
    decide +kernel
  -- from here on what these runs have computed is of no account
  generalize s.run (turned ++ [.finish 1]) = recorded
    at hRecorded hGrown hSize hPlace
  have hMount : (s.run aside).OpensNoted almanac (.ask 30 .mount) := by
    generalize s.run aside = unmounted at hGrown hSize hPlace ⊢
    exact opensNoted_of_noted recorded unmounted hRecorded hGrown
      hSize hPlace _
  have hBefore :
      s.Along (fun t event => ¬t.Opens event) aside := by
    decide +kernel
  have hAfter :
      ((s.run aside).step (.ask 30 .mount)).Along
        (fun t event => ¬t.Opens event)
        (reopened ++ .ask 40 (.setPageSize 2) :: later) := by
    decide +kernel
  have hOpens : s.Along (OpensNoted almanac) events := by
    rw [show events = aside ++ .ask 30 .mount :: _ from
      List.append_assoc aside (.ask 30 .mount :: reopened)
        (.ask 40 (.setPageSize 2) :: later)]
    exact along_append.mpr
      ⟨hBefore.imp opensNoted_of_not_opens, hMount,
        hAfter.imp opensNoted_of_not_opens⟩
  have hFew : after.aborts < 2 ^ 64 := by decide +kernel
  have hRow : shown.table.window.firstVisible = some 8 := by
    decide +kernel
  have hCommits : loaded.Commits shown.promises.length := by
    decide +kernel
  have hRows : after.table.window.pageRows = [9, 8] := by
    decide +kernel
  have hKeeps :=
    resize_keeps_first_row almanac s earlier 40 2 later 8 hFresh
      hTruthful hOpens hFew hRow hCommits
  exact
    ⟨⟨hFresh, hTruthful, hOpens, hFew, hRow, hCommits⟩, hRows,
      hKeeps⟩

/- Whatever place a table is mounted with was recorded before. -/
def MountsNoted
    (R : Catalog σ key)
    (s : TableTraffic σ ρ κ) : Event σ ρ → Prop
  | .ask now .mount => s.OpensNoted R (.ask now .mount)
  | _ => True

/-
  A table records page 3 of pages of one row; it is unmounted
  and gets pages of four rows; and without being mounted again
  it reloads the page.
-/
def reloaded : List (Event Spring Nat) :=
  [.ask 0 .mount, .answer 0 (.ok (some [5])), .finish 0,
   .ask 10 (.goto 3), .answer 1 (.ok (some [4, 3])), .finish 1,
   .ask 20 .unmount, .ask 30 (.setPageSize 4), .ask 40 (.goto 0),
   .ask 50 .refresh, .answer 4 (.ok (some [3, 2, 1, 0])),
   .finish 4]

/- A table records page 2 and is mounted with it. -/
def remounted : List (Event Spring Nat) :=
  [.ask 0 .mount, .answer 0 (.ok (some [9])), .finish 0,
   .ask 10 (.goto 2), .answer 1 (.ok (some [8])), .finish 1,
   .ask 20 .unmount, .ask 30 .mount,
   .answer 2 (.ok (some [8])), .finish 2]

/-
  It is not enough that tables are mounted with places that were
  recorded.  A table that is not mounted with any reloads a page
  under another size than it was recorded with; and if both
  parameters have one name, a table is mounted with the key of
  the first row for its page.  In both cases fewer rows are above
  the window than it is said to have, and the row that came first
  is not on the page to which the table goes.
-/
theorem resize_loses_first_row :
    (let s := numbers 6 1 50
      let shown := s.run reloaded
      let events :=
        reloaded ++ [.ask 60 (.setPageSize 5),
          .answer 5 (.ok (some [4, 5]))]
      let loaded := s.run events
      let after := loaded.step (.finish shown.promises.length)
      s.Fresh ∧ s.table.names.Distinct ∧
        s.Along (Truthful almanac.toHoldings) events ∧
        s.Along (MountsNoted almanac) events ∧
        after.aborts < 2 ^ 64 ∧
        shown.table.window.firstVisible = some 3 ∧
        loaded.Commits shown.promises.length ∧
        after.table.window.pageRows = [0]) ∧
    (let s : TableTraffic Spring Nat Nat :=
        start (.new ⟨10, 0⟩ { pageSize := 1, maxLimit := 50 }
          .empty ⟨"q", "q"⟩)
      let shown := s.run remounted
      let events :=
        remounted ++ [.ask 40 (.setPageSize 4),
          .answer 3 (.ok (some [9]))]
      let loaded := s.run events
      let after := loaded.step (.finish shown.promises.length)
      s.Fresh ∧ s.Along (Truthful almanac.toHoldings) events ∧
        (s.run (remounted.take 5)).Records (.finish 1) ∧
        after.aborts < 2 ^ 64 ∧
        shown.table.window.firstVisible = some 8 ∧
        loaded.Commits shown.promises.length ∧
        after.table.window.pageRows = []) := by
  constructor
  · intro s shown events loaded after
    have hMount : ¬s.Opens (.ask 0 .mount) := by decide +kernel
    refine ⟨⟨_, _, _, _, rfl⟩, by decide, by decide +kernel,
      ⟨opensNoted_of_not_opens s _ hMount, ?_⟩, by decide +kernel,
      by decide +kernel, by decide +kernel, by decide +kernel⟩
    -- no other event mounts the table
    repeat' constructor
  · intro s shown events loaded after
    exact
      ⟨⟨_, _, _, _, rfl⟩, by decide +kernel, by decide +kernel,
        by decide +kernel, by decide +kernel, by decide +kernel,
        by decide +kernel⟩

end TableTraffic

end LedgerView
