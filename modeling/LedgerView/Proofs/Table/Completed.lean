import LedgerView.Proofs.Nav.Params
import LedgerView.Proofs.Source.Chronicle
import LedgerView.Proofs.Table.Landing
import LedgerView.Proofs.Window.Complete

/-
  Operations that are completed one after the other.

  A table over a source that only grows is mounted without a
  place and then used.  Each operation runs to its end before
  the next is begun, and ticks run between them.  The window
  always begins with the newest row that was seen, and every
  committed move to a page leaves a complete page.

  Key definitions include:
    * `Act`
    * `Controller.act`
    * `Controller.actAll`
    * `Controller.Rests`

  Key theorems include:
    * `Controller.Rests.perform_beginMove`
    * `Controller.Rests.tick`
    * `Controller.Rests.act`
    * `Controller.Rests.recorded`
-/

namespace LedgerView

variable {σ ρ κ : Type}

------------------------------------------------------------
-- Whole Operations
------------------------------------------------------------

/- What is done with a mounted table, by a user or the timer. -/
inductive Act where
  | goto (page : Nat)
  | next
  | previous
  | setPageSize (pageSize : Nat)
  | live (now : Nat)
  | tick
deriving Repr, DecidableEq

namespace Controller

variable [Listing σ ρ κ] [LinearOrder κ]
variable {key : ρ → κ}
variable {ask : σ → ListQuery κ → Reply ρ × σ}

/- Do something to its end; a tick has no one to report to. -/
def act
    (ask : σ → ListQuery κ → Reply ρ × σ)
    (c : Controller σ ρ κ) : Act → Controller σ ρ κ × Option Ended
  | .goto page => (perform ask (c.beginGoto page)).map id some
  | .next => (perform ask c.beginNext).map id some
  | .previous => (perform ask c.beginPrevious).map id some
  | .setPageSize pageSize =>
      (perform ask (c.beginSetPageSize pageSize)).map id some
  | .live now => (perform ask (c.beginLive now)).map id some
  | .tick => (c.tick ask, none)

/- Do one thing after the other. -/
def actAll
    (ask : σ → ListQuery κ → Reply ρ × σ)
    (c : Controller σ ρ κ)
    (acts : List Act) : Controller σ ρ κ :=
  acts.foldl (fun c a => (c.act ask a).1) c

------------------------------------------------------------
-- Tables at Rest
------------------------------------------------------------

/-
  A table between two operations: its window is a run of the
  source that begins with the newest row that was seen, and no
  tick is loading.
-/
structure Rests
    (T : Chronicle key ask)
    (names : NavNames)
    (c : Controller σ ρ κ) : Prop where
  suits :
    (Shape.gapless key).Suits (T.archive c.feed.source) c.window
  shadow : c.window.shadow = 0
  pageSize : c.window.pageSize = max c.config.pageSize 1
  names : c.names = names
  idle : TableTraffic.ticking? c = none

namespace Rests

variable {T : Chronicle key ask} {names : NavNames}
variable {c : Controller σ ρ κ}

/- A committed move leaves the table at rest. -/
theorem landed
    (hRests : c.Rests T names)
    (records : Bool)
    {later : σ}
    {w : Window ρ}
    (hSuits : (Shape.gapless key).Suits (T.archive later) w)
    (hShadow : w.shadow = 0)
    (hSize : w.pageSize = c.window.pageSize) :
    (c.landed records later w).Rests T names := by
  rcases c.landed_parts records later w with
    ⟨hFeed, hConfig, hNames, hStrategy⟩
  have hWindow : (c.landed records later w).window = w := by
    unfold window
    rw [hFeed]
    rfl
  refine ⟨?_, ?_, ?_, ?_, ?_⟩
  · rw [hWindow, hFeed]
    exact hSuits
  · rw [hWindow]
    exact hShadow
  · rw [hWindow, hConfig, hSize]
    exact hRests.pageSize
  · rw [hNames]
    exact hRests.names
  · have hIdle := hRests.idle
    unfold TableTraffic.ticking? at hIdle ⊢
    rw [hStrategy]
    exact hIdle

/- So does superseding what is in flight. -/
theorem abort
    (hRests : c.Rests T names) :
    c.abort.Rests T names :=
  ⟨hRests.suits, hRests.shadow, hRests.pageSize, hRests.names,
    hRests.idle⟩

/- So does showing pages from now on. -/
theorem paginate
    (hRests : c.Rests T names) :
    c.paginate.Rests T names := by
  unfold Controller.paginate
  split
  · exact hRests
  · exact
      ⟨hRests.suits, hRests.shadow, hRests.pageSize,
        hRests.names, rfl⟩

/- So does another page size. -/
theorem resized
    (hRests : c.Rests T names)
    (pageSize : Nat) :
    (c.resized pageSize).Rests T names where
  suits :=
    { fits := hRests.suits.fits
      ends := hRests.suits.ends
      startIndex_le := Nat.min_le_right _ _
      pageSize_pos := Nat.le_max_right _ _ }
  shadow := hRests.shadow
  pageSize := rfl
  names := hRests.names
  idle := hRests.idle

/- What an operation on the table loads, and what that makes. -/
theorem run
    (hRests : c.Rests T names)
    {op : Operation κ}
    {edit : Edit}
    {load : Load ρ κ}
    (hCourse : Course key c.buffer.maxLimit c.window op edit load) :
    ∃ loaded later,
      load.run key c.buffer.maxLimit c.buffer.maxLimit_pos ask
          c.feed.source = (.ok loaded, later) ∧
        (Shape.gapless key).Suits (T.archive later)
          (edit.apply key loaded.rows c.window) := by
  have hServes :
      (Shape.gapless key).Serves c.buffer.maxLimit
        (T.archive c.feed.source) c.window
        ⟨op, c.buffer.plan key, edit, load⟩ :=
    Shape.serves_of_course hRests.suits hCourse _
  rcases T.run_serves c.buffer.maxLimit_pos hServes with
    ⟨loaded, later, hRun, hGrown, hDone, hServed⟩
  have hSuits :
      (Shape.gapless key).Suits (T.archive later) c.window :=
    hRests.suits.becomes hGrown
  exact ⟨loaded, later, hRun, hSuits.apply hServed hDone⟩

/-
  A move to a page that exists is committed.  Unless the page is
  empty it is complete.
-/
theorem perform_beginMove
    (hRests : c.Rests T names)
    (page : Nat)
    (records : Bool) :
    (∃ e,
      perform ask (c.beginMove page none records) =
        (c.abort, .error e)) ∨
      ∃ later w,
        perform ask (c.beginMove page none records) =
            (c.abort.landed records later w, .ok .committed) ∧
          (Shape.gapless key).Suits (T.archive later) w ∧
          w.shadow = 0 ∧ w.pageSize = c.window.pageSize ∧
          (w.pageRows ≠ [] → w.Complete) := by
  by_cases hPage : PageExists page c.window.pageSize
  · right
    have hExists :
        (Operation.move page (none : Option κ)).Exists
          c.abort.window.pageSize := hPage
    rcases exists_course key c.abort.buffer.maxLimit c.abort.window
        hExists with
      ⟨edit, load, hCourse⟩
    have hBegin := Buffer.begin_of_course hCourse
    rcases hRests.abort.run hCourse with
      ⟨loaded, later, hRun, hSuits⟩
    have hComplete :=
      hCourse.complete hRests.shadow hRests.suits.pageSize_pos
        loaded.rows
    refine
      ⟨later, _, ?_, hSuits, hComplete.1,
        Edit.apply_pageSize key edit loaded.rows _, hComplete.2⟩
    rw [c.beginMove_of_begin (T.key_eq _) records hBegin]
    exact completeMove_of_run T.key_eq records hRun
  · left
    have hPrepare :
        c.abort.buffer.prepareMove c.abort.key page =
          .error (.ofPage (max page 1)) :=
      c.abort.buffer.prepareMove_of_not_exists hPage
    refine ⟨.nav (.ofPage (max page 1)), ?_⟩
    unfold beginMove
    dsimp only
    rw [hPrepare]
    rfl

/- A move, committed or not, leaves the table at rest. -/
theorem move
    (hRests : c.Rests T names)
    (page : Nat)
    (records : Bool) :
    (perform ask (c.beginMove page none records)).1.Rests T
      names := by
  rcases hRests.perform_beginMove page records with
    ⟨e, hFailed⟩ | ⟨later, w, hMoved, hSuits, hShadow, hSize, -⟩
  · rw [hFailed]
    exact hRests.abort
  · rw [hMoved]
    exact hRests.abort.landed records hSuits hShadow hSize

end Rests

/- A refresh leaves a window that begins with the newest row. -/
theorem shadow_apply_of_refresh
    {w : Window ρ}
    {limit : Nat}
    {edit : Edit}
    {load : Load ρ κ}
    (hShadow : w.shadow = 0)
    (hCourse : Course key limit w .refresh edit load)
    (rows : List ρ) :
    (edit.apply key rows w).shadow = 0 := by
  cases hCourse with
  | newest hNoHead => rfl
  | join row hRow hNone =>
      rcases Edit.apply_join_cases key rows w with
        ⟨newer, a, b, older, -, -, -, hApply⟩ | hApply
      · rw [hApply]
        exact hShadow
      · rw [hApply]
        rfl

namespace Rests

variable {T : Chronicle key ask} {names : NavNames}
variable {c : Controller σ ρ κ}

/- What a refresh of the table loads, and what that makes. -/
theorem run_refresh
    (hRests : c.Rests T names) :
    ∃ edit load loaded later,
      c.buffer.beginRefresh key =
          ⟨c.buffer.plan key, edit, load⟩ ∧
        load.run key c.buffer.maxLimit c.buffer.maxLimit_pos ask
            c.feed.source = (.ok loaded, later) ∧
        (Shape.gapless key).Suits (T.archive later)
          (edit.apply key loaded.rows c.window) ∧
        (edit.apply key loaded.rows c.window).shadow = 0 := by
  have hExists :
      (Operation.refresh : Operation κ).Exists c.window.pageSize :=
    trivial
  rcases exists_course key c.buffer.maxLimit c.window hExists with
    ⟨edit, load, hCourse⟩
  have hBegin :
      c.buffer.begin key .refresh =
        .ok ⟨c.buffer.plan key, edit, load⟩ :=
    Buffer.begin_of_course hCourse
  rcases hRests.run hCourse with ⟨loaded, later, hRun, hSuits⟩
  exact
    ⟨edit, load, loaded, later, Except.ok.inj hBegin, hRun, hSuits,
      shadow_apply_of_refresh hRests.shadow hCourse loaded.rows⟩

/- A refresh of the live view is committed. -/
theorem perform_beginNewest
    (hRests : c.Rests T names) :
    ∃ later w,
      perform ask c.beginNewest =
          (c.abort.landed false later w, .ok .committed) ∧
        (Shape.gapless key).Suits (T.archive later) w ∧
        w.shadow = 0 ∧ w.pageSize = c.window.pageSize := by
  rcases hRests.abort.run_refresh with
    ⟨edit, load, loaded, later, hBegin, hRun, hSuits, hShadow⟩
  have hBegun :
      c.beginNewest =
        (c.abort,
          .moving
            ⟨c.abort.past.length, false,
              c.abort.buffer.plan key, edit, load⟩) := by
    unfold beginNewest moving
    dsimp only
    rw [show c.abort.key = key from T.key_eq c.feed.source, hBegin]
  refine
    ⟨later, _, ?_, hSuits, hShadow,
      Edit.apply_pageSize key edit loaded.rows _⟩
  rw [hBegun]
  exact completeMove_of_run T.key_eq false hRun

/- It leaves the table at rest. -/
theorem newest
    (hRests : c.Rests T names) :
    (perform ask c.beginNewest).1.Rests T names := by
  rcases hRests.perform_beginNewest with
    ⟨later, w, hNewest, hSuits, hShadow, hSize⟩
  rw [hNewest]
  exact hRests.abort.landed false hSuits hShadow hSize

/- A table is at rest when its live view has just started. -/
theorem enlivened
    (hRests : c.Rests T names)
    (now : Nat) :
    let view : AutoRefresh ρ κ :=
      .new c.config.updatePeriod c.config.maxAutoUpdateCount
    ({ c.teardown.clear.forgetPlace with
        strategy := .live (view.start now) } :
      Controller σ ρ κ).Rests T names :=
  ⟨hRests.suits.reset, rfl, hRests.pageSize, hRests.names, rfl⟩

/- So does going live. -/
theorem live
    (hRests : c.Rests T names)
    (now : Nat) :
    (perform ask (c.beginLive now)).1.Rests T names :=
  (hRests.enlivened now).newest

/- So does going to a page. -/
theorem goto
    (hRests : c.Rests T names)
    (page : Nat) :
    (perform ask (c.beginGoto page)).1.Rests T names := by
  unfold beginGoto
  dsimp only
  split
  · exact hRests.paginate
  · exact hRests.paginate.move page true

/- So does a change of the page size. -/
theorem setPageSize
    (hRests : c.Rests T names)
    (pageSize : Nat) :
    (perform ask (c.beginSetPageSize pageSize)).1.Rests T
      names := by
  rw [beginSetPageSize_eq]
  split
  · exact (hRests.resized pageSize).goto _
  · exact (hRests.resized pageSize).move 1 false
  · exact hRests.resized pageSize

omit [Listing σ ρ κ] [LinearOrder κ] in
/- A live view whose timer is not loading is idle. -/
theorem ticking?_eq_none
    {c : Controller σ ρ κ}
    {view : AutoRefresh ρ κ}
    (hStrategy : c.strategy = .live view)
    (hTimer : ∀ due flight, view.timer ≠ .loading due flight) :
    TableTraffic.ticking? c = none := by
  unfold TableTraffic.ticking?
  split
  · next due flight hLive =>
      rw [hStrategy] at hLive
      cases hLive
      exact absurd rfl (hTimer due flight)
  · rfl

/- A tick without a timer that waits does nothing. -/
theorem tick_of_not_due
    (hRests : c.Rests T names)
    (hDue : c.due? = none) :
    c.tick ask = c := by
  have hIdle := hRests.idle
  cases hStrategy : c.strategy with
  | unmounted =>
      unfold Controller.tick beginTick
      simp only [hStrategy]
  | paged =>
      unfold Controller.tick beginTick
      simp only [hStrategy]
  | live view =>
      have hTimer : view.timer = .off := by
        unfold due? AutoRefresh.due? at hDue
        unfold TableTraffic.ticking? at hIdle
        rw [hStrategy] at hDue hIdle
        rcases view with ⟨period, hPeriod, most, count, paused, timer⟩
        cases timer with
        | off => rfl
        | waiting due => cases hDue
        | loading due flight => cases hIdle
      have hBegin : c.beginTick = c := by
        unfold beginTick
        rw [hStrategy]
        dsimp only
        unfold AutoRefresh.beginTick
        rw [hTimer]
        dsimp only
        rw [← hStrategy]
        rfl
      unfold Controller.tick
      dsimp only
      rw [hBegin, hStrategy]
      rcases view with ⟨period, hPeriod, most, count, paused, timer⟩
      cases hTimer
      rfl

/- A tick whose load succeeds ends with what it has loaded. -/
theorem tick_of_fly
    {c d : Controller σ ρ κ}
    {f loaded : Flight ρ κ}
    {later : σ}
    (hBegin : c.beginTick = d)
    (hTicking : TableTraffic.ticking? d = some f)
    (hFly :
      d.buffer.fly d.key ask d.feed.source f = (.ok loaded, later)) :
    c.tick ask =
      { d with feed := ⟨later, d.feed.buffer⟩ }.endTick
        (some loaded) := by
  unfold TableTraffic.ticking? at hTicking
  split at hTicking
  · next hStrategy =>
      cases hTicking
      unfold Controller.tick
      dsimp only
      rw [hBegin, hStrategy]
      dsimp only
      rw [hFly]
  · cases hTicking

/- A tick that is due is a refresh whose end is counted. -/
theorem tick_of_waiting
    (T : Chronicle key ask)
    {c : Controller σ ρ κ}
    {view : AutoRefresh ρ κ}
    {due : Nat}
    {edit : Edit}
    {load loaded : Load ρ κ}
    {later : σ}
    (hStrategy : c.strategy = .live view)
    (hTimer : view.timer = .waiting due)
    (hBegin :
      c.abort.buffer.beginRefresh key =
        ⟨c.abort.buffer.plan key, edit, load⟩)
    (hRun :
      load.run key c.buffer.maxLimit c.buffer.maxLimit_pos ask
        c.feed.source = (.ok loaded, later)) :
    c.tick ask =
      { c.abort.landed false later
          (edit.apply key loaded.rows c.window) with
        strategy := .live (view.countTick due) } := by
  let f : Flight ρ κ := ⟨c.abort.buffer.plan key, edit, load⟩
  let d : Controller σ ρ κ :=
    { c.abort with
      strategy := .live { view with timer := .loading due f } }
  have hBegun : c.beginTick = d := by
    have hFlight : c.buffer.abort.beginRefresh key = f := hBegin
    unfold beginTick
    rw [hStrategy]
    dsimp only
    unfold AutoRefresh.beginTick AutoRefresh.beginRefresh
    rw [hTimer, show c.key = key from T.key_eq _]
    dsimp only
    rw [hFlight]
    rfl
  have hFly :
      d.buffer.fly d.key ask d.feed.source f =
        (.ok { f with load := loaded }, later) := by
    have hSame :
        load.run key d.buffer.maxLimit d.buffer.maxLimit_pos ask
          d.feed.source = (.ok loaded, later) := hRun
    unfold Buffer.fly
    rw [show d.key = key from T.key_eq _, hSame]
  have hCommit :
      d.buffer.commit key { f with load := loaded } =
        (d.buffer.publish (edit.apply key loaded.rows c.window),
          .committed) :=
    Buffer.commit_of_plan rfl
  rw [tick_of_fly hBegun rfl hFly]
  let e : Controller σ ρ κ := { d with feed := ⟨later, d.feed.buffer⟩ }
  have hEnd :
      e.endTick (some { f with load := loaded }) =
        { e.setBuffer
            (d.buffer.commit e.key { f with load := loaded }).1 with
          strategy := .live (view.countTick due) } := rfl
  refine hEnd.trans ?_
  rw [show e.key = key from T.key_eq _, hCommit]
  rfl

/- So does a tick. -/
theorem tick
    (hRests : c.Rests T names) :
    (c.tick ask).Rests T names := by
  cases hDue : c.due? with
  | none =>
      rw [hRests.tick_of_not_due hDue]
      exact hRests
  | some due =>
      rcases hRests.abort.run_refresh with
        ⟨edit, load, loaded, later, hBegin, hRun, hSuits, hShadow⟩
      have hWaiting :
          ∃ view, c.strategy = .live view ∧
            view.timer = .waiting due := by
        unfold due? AutoRefresh.due? at hDue
        split at hDue
        · next view hStrategy =>
            refine ⟨view, hStrategy, ?_⟩
            split at hDue
            · next hTimer =>
                cases hDue
                exact hTimer
            · cases hDue
        · cases hDue
      rcases hWaiting with ⟨view, hStrategy, hTimer⟩
      rw [tick_of_waiting T hStrategy hTimer hBegin hRun]
      have hSize := Edit.apply_pageSize key edit loaded.rows c.window
      have hLanded := hRests.abort.landed false hSuits hShadow hSize
      refine
        ⟨hLanded.suits, hLanded.shadow, hLanded.pageSize,
          hLanded.names, ?_⟩
      refine ticking?_eq_none rfl fun next flight => ?_
      unfold AutoRefresh.countTick
      dsimp only
      split <;> exact fun hLoading => nomatch hLoading

/- A table that is mounted without a place goes live. -/
theorem mounted
    (T : Chronicle key ask)
    (source : σ)
    (config : PagerConfig)
    {nav : Params}
    {names : NavNames}
    (hNav : nav.Placeless names)
    (now : Nat) :
    (perform ask
      ((new source config nav names).beginMount now)).1.Rests T
        names := by
  let c : Controller σ ρ κ := .new source config nav names
  have hNew : c.Rests T names :=
    ⟨(Shape.gapless key).suits_empty _ config.pageSize, rfl, rfl,
      rfl, rfl⟩
  have hPlace : c.navState = {} := by
    show NavState.readOrEmpty nav names = {}
    unfold NavState.readOrEmpty NavState.read
    rw [hNav.1, hNav.2]
    rfl
  have hLive : c.beginMount now = c.beginLive now := by
    unfold beginMount
    rw [hPlace]
    rfl
  rw [hLive]
  exact hNew.live now

/- Whatever is done, the table is left at rest. -/
theorem act
    (hRests : c.Rests T names)
    (a : Act) :
    (c.act ask a).1.Rests T names := by
  cases a with
  | goto page => exact hRests.goto page
  | next => exact hRests.goto (c.currentPage + 1)
  | previous => exact hRests.goto (max (c.currentPage - 1) 1)
  | setPageSize pageSize => exact hRests.setPageSize pageSize
  | live now => exact hRests.live now
  | tick => exact hRests.tick

/- However much is done, the table is left at rest. -/
theorem actAll
    (hRests : c.Rests T names)
    (acts : List Act) :
    (c.actAll ask acts).Rests T names := by
  induction acts generalizing c with
  | nil => exact hRests
  | cons a rest ih => exact ih (hRests.act a)

/- A move does not change how the table is shown. -/
theorem mode_move
    (hRests : c.Rests T names)
    (page : Nat)
    (records : Bool) :
    (perform ask (c.beginMove page none records)).1.mode =
      c.mode := by
  rcases hRests.perform_beginMove page records with
    ⟨e, hFailed⟩ | ⟨later, w, hMoved, -⟩
  · rw [hFailed]
    rfl
  · rw [hMoved, mode_landed]
    rfl

/- A table that goes live is live. -/
theorem mode_live
    (hRests : c.Rests T names)
    (now : Nat) :
    (perform ask (c.beginLive now)).1.mode = .autoRefresh := by
  rcases (hRests.enlivened now).perform_beginNewest with
    ⟨later, w, hNewest, -⟩
  unfold beginLive
  rw [hNewest, mode_landed]
  rfl

end Rests

------------------------------------------------------------
-- Recorded Pages
------------------------------------------------------------

/-
  A table that has just committed a recorded move: the window
  it shows, and the source as it is then.
-/
structure Recorded
    (T : Chronicle key ask)
    (names : NavNames)
    (c d : Controller σ ρ κ)
    (later : σ)
    (w : Window ρ) : Prop where
  before : d.Rests T names
  mode : d.mode = .pagination
  landed : c = d.landed true later w
  suits : (Shape.gapless key).Suits (T.archive later) w
  shadow : w.shadow = 0
  pageSize : w.pageSize = d.window.pageSize
  complete : w.pageRows ≠ [] → w.Complete

namespace Rests

variable {T : Chronicle key ask} {names : NavNames}
variable {c : Controller σ ρ κ}

/- A committed move to a page is recorded. -/
theorem recorded_goto
    (hRests : c.Rests T names)
    {page : Nat}
    (hEnded :
      (perform ask (c.beginGoto page)).2 = .ok .committed) :
    ∃ d later w,
      Recorded T names (perform ask (c.beginGoto page)).1 d later
        w := by
  unfold beginGoto at hEnded ⊢
  dsimp only at hEnded ⊢
  by_cases hZero : page = 0
  · rw [if_pos hZero] at hEnded
    cases hEnded
  · rw [if_neg hZero] at hEnded ⊢
    rcases hRests.paginate.perform_beginMove page true with
      ⟨e, hFailed⟩ |
        ⟨later, w, hMoved, hSuits, hShadow, hSize, hComplete⟩
    · rw [hFailed] at hEnded
      cases hEnded
    · rw [hMoved]
      exact
        ⟨_, later, w, hRests.paginate.abort, c.mode_paginate, rfl,
          hSuits, hShadow, hSize, hComplete⟩

/- Committed on pages, a change of the page size is recorded. -/
theorem recorded_setPageSize
    (hRests : c.Rests T names)
    {pageSize : Nat}
    (hEnded :
      (perform ask (c.beginSetPageSize pageSize)).2 =
        .ok .committed)
    (hMode :
      (perform ask (c.beginSetPageSize pageSize)).1.mode =
        .pagination) :
    ∃ d later w,
      Recorded T names
        (perform ask (c.beginSetPageSize pageSize)).1 d later w := by
  have hResized := hRests.resized pageSize
  rw [beginSetPageSize_eq] at hEnded hMode ⊢
  cases hStrategy : c.strategy with
  | paged =>
      simp only [hStrategy] at hEnded ⊢
      exact hResized.recorded_goto hEnded
  | live view =>
      simp only [hStrategy] at hMode
      rw [hResized.mode_move] at hMode
      unfold mode at hMode
      rw [show (c.resized pageSize).strategy = c.strategy from rfl,
        hStrategy] at hMode
      cases hMode
  | unmounted =>
      simp only [hStrategy] at hEnded
      cases hEnded

/- Whatever is committed on pages is recorded. -/
theorem recorded
    (hRests : c.Rests T names)
    {a : Act}
    (hEnded : (c.act ask a).2 = some (.ok .committed))
    (hMode : (c.act ask a).1.mode = .pagination) :
    ∃ d later w, Recorded T names (c.act ask a).1 d later w := by
  cases a with
  | goto page => exact hRests.recorded_goto (Option.some.inj hEnded)
  | next => exact hRests.recorded_goto (Option.some.inj hEnded)
  | previous => exact hRests.recorded_goto (Option.some.inj hEnded)
  | setPageSize pageSize =>
      exact
        hRests.recorded_setPageSize (Option.some.inj hEnded) hMode
  | live now =>
      change (perform ask (c.beginLive now)).1.mode = _ at hMode
      rw [hRests.mode_live now] at hMode
      cases hMode
  | tick => cases hEnded

end Rests

end Controller

end LedgerView
