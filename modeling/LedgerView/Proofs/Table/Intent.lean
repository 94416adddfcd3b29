import Mathlib.Data.List.Induction
import LedgerView.Pager.TableBench
import LedgerView.Proofs.Load.Chunk
import LedgerView.Proofs.Nav.Params
import LedgerView.Proofs.Table.Operation

/-
  The last of several moves wins.

  Moves to a page are begun one after the other before any of
  them is polled.  Each aborts those before it, so only the last
  one is current.  In whatever order they are answered and ended
  then, the last one is committed and records its page; each of
  the others is discarded and leaves no trace but a count.

  Key definitions include:
    * `Controller.Accepts`
    * `TableTraffic.Event.Polls`
    * `TableTraffic.Lined`
    * `TableTraffic.Contest`

  Key theorems include:
    * `TableTraffic.exists_settled`
    * `TableTraffic.contest_of_gotos`
    * `TableTraffic.Contest.run`
    * `TableTraffic.last_intent_wins`
-/

namespace LedgerView

variable {σ ρ κ : Type}

------------------------------------------------------------
-- Promises
------------------------------------------------------------

namespace Promise

/- Whether a move is still under way. -/
def isPending : Promise ρ κ → Bool
  | .pending _ => true
  | _ => false

/- How often a move can be polled before it has ended. -/
def work : Promise ρ κ → Nat
  | .pending m => m.flight.load.remaining + 1
  | _ => 0

end Promise

namespace TableTraffic

/- Whether every operation has ended. -/
def Settled
    (s : TableTraffic σ ρ κ) : Prop :=
  ∀ p ∈ s.promises, p.isPending = false

/- How often moves can be polled before all have ended. -/
def work
    (s : TableTraffic σ ρ κ) : Nat :=
  (s.promises.map Promise.work).sum

/- An event that a caller who polls a move can bring about. -/
def Event.Polls : Event σ ρ → Prop
  | .answer _ (.ok _) => True
  | .finish _ => True
  | _ => False

/- A promise that takes less work makes less work in all. -/
theorem sum_work_set_lt
    {promises : List (Promise ρ κ)}
    {place : Nat}
    {p q : Promise ρ κ}
    (hPlace : promises[place]? = some p)
    (hLess : q.work < p.work) :
    ((promises.set place q).map Promise.work).sum <
      (promises.map Promise.work).sum := by
  induction promises generalizing place with
  | nil => cases hPlace
  | cons first rest ih =>
      cases place with
      | zero =>
          cases hPlace
          exact Nat.add_lt_add_right hLess _
      | succ place => exact Nat.add_lt_add_left (ih hPlace) _

variable [Listing σ ρ κ] [DecidableEq κ]

/-
  As long as a move is under way it can be polled, and whatever
  it is answered, that leaves less to do.
-/
theorem exists_poll
    {s : TableTraffic σ ρ κ}
    (hOpen : ¬s.Settled) :
    ∃ event : Event σ ρ,
      event.Polls ∧ (s.step event).work < s.work := by
  have hPending :
      ∃ p ∈ s.promises, p.isPending = true := by
    simpa [Settled] using hOpen
  rcases hPending with ⟨p, hMem, hPending⟩
  rcases List.getElem?_of_mem hMem with ⟨place, hPlace⟩
  cases p with
  | kept result => cases hPending
  | dropped => cases hPending
  | pending m =>
      cases hDone : m.flight.load.isDone with
      | true =>
          refine ⟨.finish place, trivial, ?_⟩
          rw [step_finish hPlace hDone]
          exact sum_work_set_lt hPlace (Nat.succ_pos _)
      | false =>
          refine ⟨.answer place (.ok none), trivial, ?_⟩
          rw [step_answer _ hPlace hDone]
          refine sum_work_set_lt hPlace (Nat.succ_lt_succ ?_)
          exact Load.remaining_receive_lt _ _ _ _
            (s.table.feedAt m.feed).buffer.maxLimit_pos
            (Load.remaining_ne_zero hDone)

/- So every run can be polled to its end. -/
theorem exists_settled
    (s : TableTraffic σ ρ κ) :
    ∃ more : List (Event σ ρ),
      (∀ event ∈ more, event.Polls) ∧ (s.run more).Settled := by
  induction hWork : s.work using Nat.strongRecOn generalizing s with
  | ind work ih =>
      by_cases hSettled : s.Settled
      · refine ⟨[], fun event hMem => ?_, hSettled⟩
        exact absurd hMem List.not_mem_nil
      · rcases exists_poll hSettled with ⟨event, hPolls, hLess⟩
        rcases ih _ (hWork ▸ hLess) (s.step event) rfl with
          ⟨more, hMore, hEnd⟩
        refine ⟨event :: more, ?_, hEnd⟩
        exact List.forall_mem_cons.mpr ⟨hPolls, hMore⟩

end TableTraffic

------------------------------------------------------------
-- Moves That Are Begun
------------------------------------------------------------

namespace Controller

/- Paginating leaves the window and the source alone. -/
theorem paginate_feed
    (c : Controller σ ρ κ) :
    c.paginate.feed.source = c.feed.source ∧
      c.paginate.window = c.window ∧
      c.paginate.buffer.guard.discarded =
        c.buffer.guard.discarded := by
  unfold paginate
  split <;> exact ⟨rfl, rfl, rfl⟩

/- A table that shows pages stays as it is when it paginates. -/
theorem paginate_of_paged
    {c : Controller σ ρ κ}
    (hPaged : c.mode = .pagination) :
    c.paginate = c := by
  unfold paginate
  unfold mode at hPaged
  split
  · rfl
  · next hNot =>
      split at hPaged
      · cases hPaged
      · cases hPaged
      · next hStrategy => exact absurd hStrategy hNot

variable [Listing σ ρ κ]

/- Whether a move to a page can be begun. -/
def Accepts
    (c : Controller σ ρ κ)
    (page : Nat) : Prop :=
  ∃ m, (c.beginGoto page).2 = .moving m

/-
  Which pages are accepted depends on the page size alone: there
  is no page 0, and the page must exist.
-/
theorem accepts_iff
    (c : Controller σ ρ κ)
    (page : Nat) :
    c.Accepts page ↔
      page ≠ 0 ∧ PageExists page c.window.pageSize := by
  have hSize :
      c.paginate.abort.buffer.window.pageSize =
        c.window.pageSize :=
    congrArg Window.pageSize c.paginate_feed.2.1
  unfold Accepts beginGoto
  dsimp only
  by_cases hZero : page = 0
  · rw [if_pos hZero]
    simp [hZero]
  · rw [if_neg hZero, ← hSize]
    unfold beginMove
    dsimp only
    by_cases hPage :
        PageExists page
          c.paginate.abort.buffer.window.pageSize
    · rw [Buffer.prepareMove_of_exists _ hPage]
      exact ⟨fun _ => ⟨hZero, hPage⟩, fun _ => ⟨_, rfl⟩⟩
    · rw [Buffer.prepareMove_of_not_exists _ hPage]
      simp [hPage]

/- A move that is accepted is planned at once, and recorded. -/
theorem beginGoto_of_accepts
    {c : Controller σ ρ κ}
    {page : Nat}
    (hAccepts : c.Accepts page) :
    ∃ m : Move ρ κ,
      c.beginGoto page = (c.paginate.abort, .moving m) ∧
      m.records = true ∧
      (Begun.moving m).DueOn c.paginate.abort := by
  have hDue := c.due_beginGoto page
  have hFirst := c.beginGoto_fst page
  rw [if_neg ((c.accepts_iff page).mp hAccepts).1] at hFirst
  rcases hAccepts with ⟨m, hMove⟩
  rw [hMove, hFirst] at hDue
  refine ⟨m, Prod.ext hFirst hMove, ?_, hDue⟩
  unfold beginGoto at hMove
  dsimp only at hMove
  split at hMove
  · cases hMove
  · unfold beginMove at hMove
    dsimp only at hMove
    split at hMove
    · cases hMove
      rfl
    · cases hMove

end Controller

namespace TableTraffic

/- Ask for a move to each page in turn. -/
def gotos
    (pages : List Nat) : List (Event σ ρ) :=
  pages.map fun page => .ask 0 (.goto page)

/-
  What holds while moves are begun one after the other: nothing
  else has happened, and no move is further behind than there
  are moves.
-/
structure Lined
    (c : Controller σ ρ κ)
    (s : TableTraffic σ ρ κ) : Prop where
  nav : s.table.nav = c.nav
  names : s.table.names = c.names
  source : s.table.feed.source = c.feed.source
  window : s.table.window = c.window
  discarded : s.table.buffer.guard.discarded =
    c.buffer.guard.discarded
  paged : s.promises ≠ [] → s.table.mode = .pagination
  moves : ∀ p ∈ s.promises, ∃ m, p = .pending m ∧
    m.feed = s.table.past.length ∧
    (s.table.buffer.guard.generation -
      m.flight.plan.ticket.generation).toNat < s.promises.length

/- The move that was begun last. -/
structure Newest
    (c : Controller σ ρ κ)
    (m : Move ρ κ) : Prop where
  feed : m.feed = c.past.length
  records : m.records = true
  current : c.buffer.isCurrent m.flight.plan = true

/- What has become of a move that another one overtook. -/
def Overtaken
    (c : Controller σ ρ κ) : Promise ρ κ → Prop
  | .pending m =>
      m.feed = c.past.length ∧
        m.flight.plan.ticket.generation ≠
          c.buffer.guard.generation
  | .kept result => result = .ok .discarded
  | .dropped => False

variable [Listing σ ρ κ]

/-
  What holds once all moves are begun: those that were overtaken
  end as discarded and are counted, and only the last one can
  touch the window and the parameters.
-/
structure Contest
    (c : Controller σ ρ κ)
    (s : TableTraffic σ ρ κ)
    (overtaken : List (Promise ρ κ))
    (last : Promise ρ κ) : Prop where
  promises : s.promises = overtaken ++ [last]
  names : s.table.names = c.names
  behind : ∀ p ∈ overtaken, Overtaken s.table p
  discarded : s.table.buffer.guard.discarded =
    c.buffer.guard.discarded +
      UInt64.ofNat (overtaken.countP fun p => !p.isPending)
  ahead :
    (∃ m, last = .pending m ∧ Newest s.table m ∧
      s.table.nav = c.nav ∧ s.table.window = c.window) ∨
    (last = .kept (.ok .committed) ∧
      s.table.nav = s.table.visiblePlace.write c.nav c.names)

variable {c : Controller σ ρ κ} {s : TableTraffic σ ρ κ}

omit [Listing σ ρ κ] in
/- Nothing has been begun yet. -/
theorem lined_start
    (c : Controller σ ρ κ) :
    Lined c (start c) where
  nav := rfl
  names := rfl
  source := rfl
  window := rfl
  discarded := rfl
  paged hSome := absurd rfl hSome
  moves _ hMem := absurd hMem List.not_mem_nil

omit [Listing σ ρ κ] in
/- A move that is begun puts every other further behind. -/
theorem Lined.behind
    (hLined : Lined c s)
    (hFew : s.promises.length < 2 ^ 64) :
    ∀ p ∈ s.promises, ∃ m, p = .pending m ∧
      m.feed = s.table.past.length ∧
      0 < (s.table.paginate.abort.buffer.guard.generation -
        m.flight.plan.ticket.generation).toNat ∧
      (s.table.paginate.abort.buffer.guard.generation -
        m.flight.plan.ticket.generation).toNat <
          s.promises.length + 1 := by
  intro p hMem
  rcases hLined.moves p hMem with ⟨m, hMove, hFeed, hLag⟩
  refine ⟨m, hMove, hFeed, ?_⟩
  have hPaged := hLined.paged (List.ne_nil_of_mem hMem)
  rw [Controller.paginate_of_paged hPaged]
  show
    0 < (s.table.buffer.guard.generation + 1 -
      m.flight.plan.ticket.generation).toNat ∧
    (s.table.buffer.guard.generation + 1 -
      m.flight.plan.ticket.generation).toNat < _
  rw [UInt64.toNat_sub] at hLag ⊢
  rw [UInt64.toNat_add, show (1 : UInt64).toNat = 1 from rfl]
  have hWord := s.table.buffer.guard.generation.toNat_lt
  have hWord' := m.flight.plan.ticket.generation.toNat_lt
  omega

/- What is accepted at first is accepted later on. -/
theorem Lined.accepts
    (hLined : Lined c s)
    {page : Nat}
    (hAccepts : c.Accepts page) :
    s.table.Accepts page := by
  rw [Controller.accepts_iff, hLined.window]
  exact (c.accepts_iff page).mp hAccepts

variable [DecidableEq κ]

/- What asking for an accepted page does. -/
theorem step_goto
    {page : Nat}
    (hAccepts : s.table.Accepts page) :
    ∃ m : Move ρ κ,
      s.step (.ask 0 (.goto page)) =
        { s.become s.table.paginate.abort with
          promises := s.promises ++ [.pending m] } ∧
      m.records = true ∧
      (Begun.moving m).DueOn s.table.paginate.abort := by
  rcases Controller.beginGoto_of_accepts hAccepts with
    ⟨m, hBegin, hRecords, hDue⟩
  refine ⟨m, ?_, hRecords, hDue⟩
  have hUndertake :
      s.table.undertake 0 (.goto page) =
        (s.table.paginate.abort, some (.moving m)) := by
    show ((s.table.beginGoto page).map id some) = _
    rw [hBegin]
    rfl
  unfold step
  dsimp only
  rw [hUndertake]
  rfl

/- One more move is begun. -/
theorem Lined.goto
    (hLined : Lined c s)
    {page : Nat}
    (hAccepts : c.Accepts page)
    (hFew : s.promises.length < 2 ^ 64) :
    Lined c (s.step (.ask 0 (.goto page))) ∧
      (s.step (.ask 0 (.goto page))).promises.length =
        s.promises.length + 1 := by
  rcases step_goto (hLined.accepts hAccepts) with
    ⟨m, hStep, -, hFeed, ⟨key, hPlan⟩, -⟩
  rcases s.table.paginate_parts with ⟨hNav, hNames, hPast⟩
  rcases s.table.paginate_feed with ⟨hSource, hWindow, hDiscarded⟩
  have hLength :
      (s.promises ++ [Promise.pending m]).length =
        s.promises.length + 1 :=
    List.length_append
  rw [hStep]
  refine ⟨?_, hLength⟩
  exact
    { nav := hNav.trans hLined.nav
      names := hNames.trans hLined.names
      source := hSource.trans hLined.source
      window := hWindow.trans hLined.window
      discarded := hDiscarded.trans hLined.discarded
      paged := fun _ => s.table.mode_paginate
      moves := fun p hMem => by
        show ∃ m', p = .pending m' ∧ _ ∧
          _ < (s.promises ++ [Promise.pending m]).length
        rw [hLength]
        rcases List.mem_append.mp hMem with hOld | hNew
        · rcases hLined.behind hFew p hOld with
            ⟨m', hMove', hFeed', -, hLag⟩
          refine ⟨m', hMove', ?_, hLag⟩
          rw [hFeed', ← hPast]
          rfl
        · refine ⟨m, List.mem_singleton.mp hNew, hFeed, ?_⟩
          rw [hPlan]
          show (s.table.paginate.abort.buffer.guard.generation -
            s.table.paginate.abort.buffer.guard.generation).toNat
              < _
          rw [UInt64.sub_self]
          exact Nat.succ_pos _ }

/- Moves are begun one after the other. -/
theorem lined_gotos
    (pages : List Nat)
    (hAccepts : ∀ page ∈ pages, c.Accepts page)
    (hFew : pages.length < 2 ^ 64) :
    Lined c ((start c).run (gotos pages)) ∧
      ((start c).run (gotos pages)).promises.length =
        pages.length := by
  induction pages using List.reverseRecOn with
  | nil => exact ⟨lined_start c, rfl⟩
  | append_singleton pages page ih =>
      rw [List.length_append, List.length_singleton] at hFew
      rcases ih (fun other hOther => hAccepts other
          (List.mem_append_left _ hOther)) (by omega) with
        ⟨hLined, hLength⟩
      have hNext := hLined.goto (hAccepts page (by simp))
        (by rw [hLength]; omega)
      have hRun :
          (start c).run (gotos (pages ++ [page])) =
            ((start c).run (gotos pages)).step
              (.ask 0 (.goto page)) := by
        unfold gotos
        rw [List.map_append]
        exact run_concat _ _ _
      rw [hRun, List.length_append, List.length_singleton]
      exact ⟨hNext.1, by rw [hNext.2, hLength]⟩

/- Once the last move is begun, the others are overtaken. -/
theorem contest_of_gotos
    (pages : List Nat)
    (page : Nat)
    (hAccepts : ∀ p ∈ pages ++ [page], c.Accepts p)
    (hFew : (pages ++ [page]).length < 2 ^ 64) :
    ∃ overtaken last,
      Contest c ((start c).run (gotos (pages ++ [page])))
        overtaken last ∧
      overtaken.length = pages.length := by
  rw [List.length_append, List.length_singleton] at hFew
  rcases lined_gotos pages
      (fun other hOther => hAccepts other
        (List.mem_append_left _ hOther)) (by omega) with
    ⟨hLined, hLength⟩
  let s := (start c).run (gotos pages)
  rcases step_goto (hLined.accepts (hAccepts page (by simp)))
    with ⟨m, hStep, hRecords, hFeed, ⟨key, hPlan⟩, -⟩
  rcases s.table.paginate_parts with ⟨hNav, hNames, hPast⟩
  rcases s.table.paginate_feed with ⟨hSource, hWindow, hDiscarded⟩
  have hRun :
      (start c).run (gotos (pages ++ [page])) =
        s.step (.ask 0 (.goto page)) := by
    unfold gotos
    rw [List.map_append]
    exact run_concat _ _ _
  have hBehind := hLined.behind (by rw [hLength]; omega)
  refine ⟨s.promises, .pending m, ?_, hLength⟩
  rw [hRun, hStep]
  exact
    { promises := rfl
      names := hNames.trans hLined.names
      behind := fun p hMem => by
        rcases hBehind p hMem with ⟨m', hMove, hFeed', hLag, -⟩
        rw [hMove]
        refine ⟨hFeed'.trans (by rw [← hPast]; rfl), ?_⟩
        intro hSame
        rw [hSame] at hLag
        change 0 < (s.table.paginate.abort.buffer.guard.generation -
          s.table.paginate.abort.buffer.guard.generation).toNat
          at hLag
        rw [UInt64.sub_self] at hLag
        exact absurd hLag (Nat.lt_irrefl 0)
      discarded := by
        have hNone :
            (s.promises.countP fun p => !p.isPending) = 0 := by
          refine List.countP_eq_zero.mpr fun p hMem => ?_
          rcases hBehind p hMem with ⟨m', hMove, -⟩
          rw [hMove]
          simp [Promise.isPending]
        rw [hNone]
        exact (hDiscarded.trans hLined.discarded).trans
          (UInt64.add_zero _).symm
      ahead := by
        refine Or.inl ⟨m, rfl, ⟨hFeed, hRecords, ?_⟩,
          hNav.trans hLined.nav, hWindow.trans hLined.window⟩
        rw [hPlan]
        simp [become, Buffer.isCurrent, Buffer.plan,
          Guard.isCurrent, Guard.ticket] }

------------------------------------------------------------
-- Moves That Are Polled
------------------------------------------------------------

/- A move that was overtaken is discarded, and only counted. -/
theorem finish_overtaken
    {c : Controller σ ρ κ}
    {m : Move ρ κ}
    (hOvertaken : Overtaken c (.pending m)) :
    (c.finish m).2 = .discarded ∧
      (c.finish m).1.buffer =
        { c.buffer with guard := c.buffer.guard.noteDiscarded } := by
  rcases hOvertaken with ⟨hFeed, hStale⟩
  have hCommit :
      ∀ key, c.feed.buffer.commit key m.flight =
        ({ c.feed.buffer with
          guard := c.feed.buffer.guard.noteDiscarded },
          .discarded) := by
    intro key
    have hNot : ¬c.feed.buffer.isCurrent m.flight.plan = true := by
      unfold Buffer.isCurrent Guard.isCurrent
      rw [Bool.and_eq_true, beq_iff_eq]
      exact fun hCurrent => hStale hCurrent.1.symm
    unfold Buffer.commit
    rw [if_neg hNot]
  refine ⟨?_, ?_⟩
  · rw [Controller.finish_snd, hFeed, c.feedAt_current, hCommit]
  · show (c.finish m).1.feed.buffer = _
    rw [(c.finish_feed m hFeed).2.2, hCommit]
    rfl

/- The newest move is committed, which aborts nothing. -/
theorem finish_newest
    {c : Controller σ ρ κ}
    {m : Move ρ κ}
    (hNewest : Newest c m) :
    (c.finish m).2 = .committed ∧
      (c.finish m).1.buffer.guard = c.buffer.guard := by
  rcases hNewest with ⟨hFeed, hRecords, hCurrent⟩
  have hCommit :
      ∀ key, (c.feed.buffer.commit key m.flight).2 = .committed ∧
        (c.feed.buffer.commit key m.flight).1.guard =
          c.feed.buffer.guard := by
    intro key
    unfold Buffer.commit
    rw [if_pos (show c.feed.buffer.isCurrent _ = true from hCurrent)]
    exact ⟨rfl, rfl⟩
  refine ⟨?_, ?_⟩
  · rw [Controller.finish_snd, hFeed, c.feedAt_current]
    exact (hCommit _).1
  · show (c.finish m).1.feed.buffer.guard = _
    rw [(c.finish_feed m hFeed).2.2]
    exact (hCommit _).2

omit [Listing σ ρ κ] [DecidableEq κ] in
/- An overtaken move stays so while nothing is aborted. -/
theorem Overtaken.of_guard
    {c c' : Controller σ ρ κ}
    {p : Promise ρ κ}
    (hOvertaken : Overtaken c p)
    (hPast : c'.past.length = c.past.length)
    (hGuard :
      c'.buffer.guard.generation = c.buffer.guard.generation) :
    Overtaken c' p := by
  cases p with
  | pending m =>
      exact ⟨hOvertaken.1.trans hPast.symm,
        by rw [hGuard]; exact hOvertaken.2⟩
  | kept result => exact hOvertaken
  | dropped => exact hOvertaken

section Poll

variable {overtaken : List (Promise ρ κ)} {last : Promise ρ κ}

omit [DecidableEq κ] in
/- A place belongs to a move that was overtaken, or to the last. -/
theorem Contest.place_cases
    (hContest : Contest c s overtaken last)
    {place : Nat}
    {p : Promise ρ κ}
    (hPlace : s.promises[place]? = some p) :
    (place < overtaken.length ∧ overtaken[place]? = some p ∧
      p ∈ overtaken) ∨
    (place = overtaken.length ∧ p = last) := by
  rw [hContest.promises] at hPlace
  by_cases hBehind : place < overtaken.length
  · rw [List.getElem?_append_left hBehind] at hPlace
    exact Or.inl
      ⟨hBehind, hPlace, List.mem_of_getElem? hPlace⟩
  · rw [List.getElem?_append_right (by omega)] at hPlace
    have hZero : place - overtaken.length = 0 := by
      have hBound := (List.getElem?_eq_some_iff.mp hPlace).1
      simpa using hBound
    rw [hZero] at hPlace
    refine Or.inr ⟨by omega, ?_⟩
    injection hPlace with hSame
    exact hSame.symm

omit [Listing σ ρ κ] [DecidableEq κ] in
/- One of the moves that were overtaken goes on, or ends. -/
theorem countP_set_of_pending
    {place : Nat}
    {m : Move ρ κ}
    (hMove : overtaken[place]? = some (.pending m))
    (q : Promise ρ κ) :
    ((overtaken.set place q).countP fun p => !p.isPending) =
      (overtaken.countP fun p => !p.isPending) +
        if q.isPending then 0 else 1 := by
  rcases List.getElem?_eq_some_iff.mp hMove with ⟨hPlace, hSame⟩
  rw [List.countP_set hPlace, hSame]
  cases q <;> simp [Promise.isPending]

omit [DecidableEq κ] in
/- A move that was overtaken goes on, or ends as discarded. -/
theorem Contest.set_behind
    (hContest : Contest c s overtaken last)
    {s' : TableTraffic σ ρ κ}
    {place : Nat}
    {m : Move ρ κ}
    {q : Promise ρ κ}
    (hMove : overtaken[place]? = some (.pending m))
    (hPromises : s'.promises = s.promises.set place q)
    (hNames : s'.table.names = s.table.names)
    (hNav : s'.table.nav = s.table.nav)
    (hPast : s'.table.past.length = s.table.past.length)
    (hSource : s'.table.feed.source = s.table.feed.source)
    (hBuffer : s'.table.buffer =
      { s.table.buffer with
        guard :=
          if q.isPending then s.table.buffer.guard
          else s.table.buffer.guard.noteDiscarded })
    (hBehind : Overtaken s.table q) :
    Contest c s' (overtaken.set place q) last where
  promises := by
    have hPlace := (List.getElem?_eq_some_iff.mp hMove).1
    rw [hPromises, hContest.promises,
      List.set_append_left _ _ hPlace]
  names := hNames.trans hContest.names
  behind p hMem := by
    have hGuard :
        s'.table.buffer.guard.generation =
          s.table.buffer.guard.generation := by
      rw [hBuffer]
      dsimp only
      split <;> rfl
    rcases List.mem_or_eq_of_mem_set hMem with hOld | hNew
    · exact (hContest.behind p hOld).of_guard hPast hGuard
    · rw [hNew]
      exact hBehind.of_guard hPast hGuard
  discarded := by
    rw [countP_set_of_pending hMove, hBuffer]
    dsimp only
    split
    · exact hContest.discarded
    · rw [UInt64.ofNat_add, ← UInt64.add_assoc,
        ← hContest.discarded]
      rfl
  ahead := by
    have hWindow : s'.table.window = s.table.window := by
      show s'.table.buffer.window = _
      rw [hBuffer]
      rfl
    rcases hContest.ahead with
      ⟨m', hLast, ⟨hFeed, hRecords, hCurrent⟩, hSameNav, hSame⟩ |
      ⟨hLast, hSameNav⟩
    · refine Or.inl ⟨m', hLast, ⟨hFeed.trans hPast.symm, hRecords, ?_⟩,
        hNav.trans hSameNav, hWindow.trans hSame⟩
      rw [hBuffer]
      dsimp only
      split <;> exact hCurrent
    · refine Or.inr ⟨hLast, ?_⟩
      rw [Controller.visiblePlace_congr hWindow hSource, hNav]
      exact hSameNav

omit [DecidableEq κ] in
/- An answer decides nothing. -/
theorem Contest.answer
    (hContest : Contest c s overtaken last)
    {place : Nat}
    {m : Move ρ κ}
    (hMove : s.promises[place]? = some (.pending m))
    (rows : Option (List ρ)) :
    ∃ overtaken' last',
      Contest c (s.answerMove place m (.ok rows))
        overtaken' last' ∧
      overtaken'.length = overtaken.length := by
  rcases hContest.place_cases hMove with
    ⟨hPlace, hOld, hMem⟩ | ⟨hPlace, hLast⟩
  · have hBehind := hContest.behind _ hMem
    exact ⟨_, last,
      hContest.set_behind hOld rfl rfl rfl rfl rfl rfl hBehind,
      List.length_set⟩
  · let feed := s.table.feedAt m.feed
    let m' : Move ρ κ :=
      { m with
        flight :=
          m.flight.receive (Listing.key feed.source)
            feed.buffer.maxLimit (rows.getD []) }
    refine ⟨overtaken, .pending m', ?_, rfl⟩
    rcases hContest.ahead with
      ⟨m₀, hPending, hNewest, hNav, hWindow⟩ | ⟨hKept, -⟩
    · rw [← hLast] at hPending
      cases hPending
      exact
        { promises := by
            show s.promises.set place (.pending m') = _
            rw [hContest.promises, hPlace, List.set_append_right _ _
              (Nat.le_refl _), Nat.sub_self]
            rfl
          names := hContest.names
          behind := hContest.behind
          discarded := hContest.discarded
          ahead := Or.inl
            ⟨m', rfl,
              ⟨hNewest.feed, hNewest.records, hNewest.current⟩,
              hNav, hWindow⟩ }
    · rw [← hLast] at hKept
      cases hKept

/- An end decides on the move that ends, and on no other. -/
theorem Contest.finish
    (hContest : Contest c s overtaken last)
    {place : Nat}
    {m : Move ρ κ}
    (hMove : s.promises[place]? = some (.pending m)) :
    ∃ overtaken' last',
      Contest c (s.finishMove place m) overtaken' last' ∧
      overtaken'.length = overtaken.length := by
  rcases s.table.finish_parts m with ⟨hNames, -, hPast⟩
  rcases hContest.place_cases hMove with
    ⟨hPlace, hOld, hMem⟩ | ⟨hPlace, hLast⟩
  · have hBehind := hContest.behind _ hMem
    rcases finish_overtaken hBehind with ⟨hOutcome, hBuffer⟩
    have hNav := s.table.nav_finish_of_not_recorded m
      (by rw [hOutcome]; exact fun hBoth => nomatch hBoth.2)
    have hSource := (s.table.finish_feed m hBehind.1).2.1
    refine ⟨overtaken.set place (.kept (.ok .discarded)), last,
      ?_, List.length_set⟩
    refine hContest.set_behind hOld ?_ hNames hNav hPast hSource
      hBuffer rfl
    show s.promises.set place (.kept (.ok (s.table.finish m).2)) = _
    rw [hOutcome]
  · refine ⟨overtaken, .kept (.ok .committed), ?_, rfl⟩
    rcases hContest.ahead with
      ⟨m₀, hPending, hNewest, hNav, hWindow⟩ | ⟨hKept, -⟩
    · rw [← hLast] at hPending
      cases hPending
      rcases finish_newest hNewest with ⟨hOutcome, hGuard⟩
      have hRecorded := s.table.nav_finish_of_recorded m
        hNewest.feed hNewest.records hOutcome
      rw [hNav, hContest.names] at hRecorded
      exact
        { promises := by
            show s.promises.set place
              (.kept (.ok (s.table.finish m).2)) = _
            rw [hOutcome, hContest.promises, hPlace,
              List.set_append_right _ _ (Nat.le_refl _),
              Nat.sub_self]
            rfl
          names := hNames.trans hContest.names
          behind := fun p hMem =>
            (hContest.behind p hMem).of_guard hPast
              (congrArg Guard.generation hGuard)
          discarded :=
            (congrArg Guard.discarded hGuard).trans
              hContest.discarded
          ahead := Or.inr ⟨rfl, hRecorded⟩ }
    · rw [← hLast] at hKept
      cases hKept

/- Whatever is polled, the contest goes on. -/
theorem Contest.step
    (hContest : Contest c s overtaken last)
    {event : Event σ ρ}
    (hPolls : event.Polls) :
    ∃ overtaken' last',
      Contest c (s.step event) overtaken' last' ∧
      overtaken'.length = overtaken.length := by
  have hStride := s.stride_step event
  generalize s.step event = s' at hStride
  cases hStride with
  | ask now errand => exact absurd hPolls id
  | answer place m reply hMove hOpen =>
      cases reply with
      | ok rows => exact hContest.answer hMove rows
      | error e => exact absurd hPolls id
  | finish place m hMove hDone => exact hContest.finish hMove
  | drop place => exact absurd hPolls id
  | time event c hPassive hSame =>
      cases event <;> first
        | exact absurd hPassive id
        | exact absurd hPolls id
  | idle event hAsk => exact ⟨overtaken, last, hContest, rfl⟩

/- However the moves are polled, it does. -/
theorem Contest.run
    (hContest : Contest c s overtaken last)
    (polls : List (Event σ ρ))
    (hPolls : ∀ event ∈ polls, event.Polls) :
    ∃ overtaken' last',
      Contest c (s.run polls) overtaken' last' ∧
      overtaken'.length = overtaken.length := by
  induction polls generalizing s overtaken last with
  | nil => exact ⟨overtaken, last, hContest, rfl⟩
  | cons event rest ih =>
      rcases List.forall_mem_cons.mp hPolls with ⟨hEvent, hRest⟩
      rcases hContest.step hEvent with
        ⟨overtaken', last', hNext, hLength⟩
      rcases ih hNext hRest with
        ⟨overtaken'', last'', hEnd, hSame⟩
      exact ⟨overtaken'', last'', hEnd, hSame.trans hLength⟩

/- No move but the last touches the parameters or the window. -/
theorem Contest.silent
    (hContest : Contest c s overtaken last)
    {event : Event σ ρ}
    (hPolls : event.Polls)
    (hOther : event ≠ .finish overtaken.length) :
    (s.step event).table.nav = s.table.nav ∧
      (s.step event).table.window = s.table.window := by
  have hStride := s.stride_step event
  generalize s.step event = s' at hStride
  cases hStride with
  | ask now errand => exact absurd hPolls id
  | answer place m reply hMove hOpen =>
      unfold answerMove
      split <;> exact ⟨rfl, rfl⟩
  | finish place m hMove hDone =>
      rcases hContest.place_cases hMove with
        ⟨hPlace, hOld, hMem⟩ | ⟨hPlace, hLast⟩
      · rcases finish_overtaken (hContest.behind _ hMem) with
          ⟨hOutcome, hBuffer⟩
        refine
          ⟨s.table.nav_finish_of_not_recorded m
            (by rw [hOutcome]; exact fun hBoth => nomatch hBoth.2),
            ?_⟩
        show (s.table.finish m).1.buffer.window = _
        rw [hBuffer]
        rfl
      · rw [hPlace] at hOther
        exact absurd rfl hOther
  | drop place => exact absurd hPolls id
  | time event c hPassive hSame =>
      cases event <;> first
        | exact absurd hPassive id
        | exact absurd hPolls id
  | idle event hAsk => exact ⟨rfl, rfl⟩

omit [DecidableEq κ] in
/- Once all have ended, only the last one was committed. -/
theorem Contest.settled
    (hContest : Contest c s overtaken last)
    (hSettled : s.Settled) :
    s.promises =
      List.replicate overtaken.length (.kept (.ok .discarded)) ++
        [.kept (.ok .committed)] ∧
    s.table.nav = s.table.visiblePlace.write c.nav c.names := by
  have hEnded :
      ∀ p ∈ overtaken ++ [last], p.isPending = false := by
    rw [← hContest.promises]
    exact hSettled
  have hBehind : ∀ p ∈ overtaken, p = .kept (.ok .discarded) := by
    intro p hMem
    have hOvertaken := hContest.behind p hMem
    cases p with
    | pending m =>
        cases hEnded _ (List.mem_append_left _ hMem)
    | kept result =>
        rw [show result = .ok .discarded from hOvertaken]
    | dropped => exact absurd hOvertaken id
  rcases hContest.ahead with
    ⟨m, hPending, -, -, -⟩ | ⟨hKept, hNav⟩
  · have hLast := hEnded last (by simp)
    rw [hPending] at hLast
    cases hLast
  · refine ⟨?_, hNav⟩
    rw [hContest.promises, hKept]
    congr 1
    exact List.eq_replicate_iff.mpr ⟨rfl, hBehind⟩

end Poll

------------------------------------------------------------
-- The Verdict
------------------------------------------------------------

/-
  What holds of `n` moves and one more that was begun last, all
  begun on the table `c`, however far they have been polled.
-/
structure Verdict
    (c : Controller σ ρ κ)
    (n : Nat)
    (s : TableTraffic σ ρ κ) : Prop where
  /- They can be polled until all have ended. -/
  completes : ∃ more : List (Event σ ρ),
    (∀ event ∈ more, event.Polls) ∧ (s.run more).Settled
  /- Then the last one is committed, and no other. -/
  outcomes : s.Settled →
    s.promises =
      List.replicate n (.kept (.ok .discarded)) ++
        [.kept (.ok .committed)]
  /- Each of the others that has ended was counted once. -/
  counted : s.table.buffer.guard.discarded =
    c.buffer.guard.discarded +
      UInt64.ofNat ((s.promises.take n).countP fun p => !p.isPending)
  /- None of the others touches the parameters or the window. -/
  silent : ∀ event : Event σ ρ,
    event.Polls → event ≠ .finish n →
      (s.step event).table.nav = s.table.nav ∧
        (s.step event).table.window = s.table.window
  /- In the end the place that is shown is recorded. -/
  recorded : s.Settled →
    s.table.nav = s.table.visiblePlace.write c.nav c.names
  key : s.Settled →
    s.table.nav.get? c.names.key =
      s.table.window.firstVisible.map fun row =>
        Listing.write s.table.feed.source
          (Listing.key s.table.feed.source row)
  page : s.Settled → c.names.Distinct →
    s.table.nav.get? c.names.page =
      some (toString s.table.window.currentPage)

/-
  When moves to any accepted pages are begun one after the
  other, then however they are polled, the one that was begun
  last is committed and recorded, and the others are discarded.
-/
theorem last_intent_wins
    (c : Controller σ ρ κ)
    (pages : List Nat)
    (page : Nat)
    (hAccepts : ∀ p ∈ pages ++ [page], c.Accepts p)
    (hFew : (pages ++ [page]).length < 2 ^ 64)
    (polls : List (Event σ ρ))
    (hPolls : ∀ event ∈ polls, event.Polls) :
    Verdict c pages.length
      (((start c).run (gotos (pages ++ [page]))).run polls) := by
  rcases contest_of_gotos pages page hAccepts hFew with
    ⟨overtaken₀, last₀, hBegun, hCount⟩
  rcases hBegun.run polls hPolls with
    ⟨overtaken, last, hContest, hSame⟩
  have hLength := hSame.trans hCount
  rw [← hLength]
  have hTake :
      (((start c).run (gotos (pages ++ [page]))).run
        polls).promises.take overtaken.length = overtaken := by
    rw [hContest.promises]
    exact List.take_left
  exact
    { completes := exists_settled _
      outcomes := fun hSettled => (hContest.settled hSettled).1
      counted := by
        rw [hTake]
        exact hContest.discarded
      silent := fun event hPoll hOther =>
        hContest.silent hPoll hOther
      recorded := fun hSettled => (hContest.settled hSettled).2
      key := fun hSettled => by
        rw [(hContest.settled hSettled).2]
        exact NavState.get?_write_key _ _ _
      page := fun hSettled hNames => by
        rw [(hContest.settled hSettled).2]
        exact NavState.get?_write_page _ _ hNames }

/- A table of numbers on which pages 3, 1 and 2 are begun. -/
def pagesBegun : Controller Script Nat Nat :=
  .new { rows := [9, 8, 7, 6, 5] } { pageSize := 2 } .empty {}

/- The moves are polled in another order. -/
def crossed : List (Event Script Nat) :=
  [.answer 2 (.ok (some [9, 8, 7, 6])), .finish 2,
   .answer 0 (.ok (some [9, 8, 7, 6, 5])), .finish 0,
   .answer 1 (.ok (some [9, 8])), .finish 1]

/- Page 2 was begun last, ends first, and is recorded. -/
theorem last_intent_wins_crossed :
    ((∀ p ∈ [3, 1] ++ [2], pagesBegun.Accepts p) ∧
      ([3, 1] ++ [2] : List Nat).length < 2 ^ 64 ∧
      ∀ event ∈ crossed, event.Polls) ∧
    Verdict pagesBegun 2
      (((start pagesBegun).run (gotos ([3, 1] ++ [2]))).run
        crossed) ∧
    (((start pagesBegun).run (gotos ([3, 1] ++ [2]))).run
      crossed).table.nav.pairs = [("k", "7"), ("p", "2")] := by
  have hExists :
      ∀ p ∈ [3, 1] ++ [2], p ≠ 0 ∧
        PageExists p pagesBegun.window.pageSize := by
    decide
  have hAccepts : ∀ p ∈ [3, 1] ++ [2], pagesBegun.Accepts p :=
    fun p hMem => (pagesBegun.accepts_iff p).mpr (hExists p hMem)
  have hFew : ([3, 1] ++ [2] : List Nat).length < 2 ^ 64 := by
    decide
  have hPolls : ∀ event ∈ crossed, event.Polls := by
    simp [crossed, Event.Polls]
  exact
    ⟨⟨hAccepts, hFew, hPolls⟩,
      last_intent_wins pagesBegun [3, 1] 2 hAccepts hFew crossed
        hPolls,
      by decide +kernel⟩

/- Such a table whose two parameters have one name. -/
def pageMerged : Controller Script Nat Nat :=
  .new { rows := [9, 8, 7, 6, 5] } { pageSize := 2 } .empty
    ⟨"q", "q"⟩

/-
  Under one name the key is written over the number of the page:
  page 2 was begun and is shown, and 7 is recorded for it.
-/
theorem last_intent_overwrites_page :
    let polls : List (Event Script Nat) :=
      [.answer 0 (.ok (some [9, 8, 7, 6])), .finish 0]
    let s := ((start pageMerged).run (gotos [2])).run polls
    (∀ p ∈ [2], pageMerged.Accepts p) ∧
      (∀ event ∈ polls, event.Polls) ∧ s.Settled ∧
      s.table.window.currentPage = 2 ∧
      s.table.nav.get? pageMerged.names.page = some "7" ∧
      s.table.nav.get? pageMerged.names.page ≠
        some (toString s.table.window.currentPage) := by
  intro polls s
  have hExists :
      ∀ p ∈ [2], p ≠ 0 ∧ PageExists p pageMerged.window.pageSize := by
    decide
  have hAccepts : ∀ p ∈ [2], pageMerged.Accepts p :=
    fun p hMem => (pageMerged.accepts_iff p).mpr (hExists p hMem)
  have hPolls : ∀ event ∈ polls, event.Polls := by
    simp [polls, Event.Polls]
  have hEnded : s.promises.map Promise.isPending = [false] := by
    decide +kernel
  have hSettled : s.Settled := by
    intro p hMem
    have hFlag := List.mem_map_of_mem (f := Promise.isPending) hMem
    rw [hEnded] at hFlag
    exact List.mem_singleton.mp hFlag
  have hShown : s.table.window.currentPage = 2 := by
    decide +kernel
  have hRecorded :
      s.table.nav.get? pageMerged.names.page = some "7" := by
    decide +kernel
  refine ⟨hAccepts, hPolls, hSettled, hShown, hRecorded, ?_⟩
  rw [hRecorded, hShown]
  decide

end TableTraffic

end LedgerView
