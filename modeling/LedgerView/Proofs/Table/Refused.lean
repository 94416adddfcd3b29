import LedgerView.Session.Basic
import LedgerView.Proofs.Table.Intent

/-
  Pages that are refused.

  There is no page 0, and no page whose rows cannot be counted.
  Such a page is refused before anything is loaded.  What the
  refusal leaves of the table depends on where it is noticed: a
  session tells page 0 at once, a table only after it has gone
  over to pages, and a page that does not exist is noticed last,
  when what is in flight has been superseded and the pending
  move forgotten.

  Key definitions include:
    * `Controller.Still`
    * `Controller.Refuses`
    * `Controller.Lands`
    * `Controller.Spares`
    * `Session.Spares`

  Key theorems include:
    * `Controller.beginGoto_of_refuses`
    * `Controller.not_lands_abort`
    * `Controller.spares_beginGoto_iff`
    * `Session.spares_goto_iff`
    * `refused_page_spares_iff`
-/

namespace LedgerView

namespace Controller

variable {σ ρ κ : Type}

------------------------------------------------------------
-- Tables to Which Nothing Happens
------------------------------------------------------------

/-
  A table shows what it showed in the way in which it did, its
  timer included, with the same settings and the same place
  recorded.
-/
structure Still
    (c c' : Controller σ ρ κ) : Prop where
  strategy : c'.strategy = c.strategy
  window : c'.window = c.window
  config : c'.config = c.config
  nav : c'.nav = c.nav

/- So it does when nothing is done, -/
theorem still_refl
    (c : Controller σ ρ κ) :
    Still c c :=
  ⟨rfl, rfl, rfl, rfl⟩

/- and when what is in flight is superseded. -/
theorem still_abort
    (c : Controller σ ρ κ) :
    Still c c.abort :=
  ⟨rfl, rfl, rfl, rfl⟩

------------------------------------------------------------
-- Refusal
------------------------------------------------------------

/- There is no such page. -/
def Refuses
    (c : Controller σ ρ κ)
    (page : Nat) : Prop :=
  page = 0 ∨ ¬ PageExists page c.window.pageSize

instance
    (c : Controller σ ρ κ)
    (page : Nat) :
    Decidable (c.Refuses page) := by
  unfold Refuses
  infer_instance

section Begin

variable [Listing σ ρ κ]
variable (c : Controller σ ρ κ)
variable {page : Nat}

/-
  A refused page is named in the error, and the table has begun
  to show pages.  Unless it is page 0, what is in flight has
  been superseded.
-/
theorem beginGoto_of_refuses
    (hRefuses : c.Refuses page) :
    c.beginGoto page =
      (if page = 0 then c.paginate else c.paginate.abort,
        .failed (.nav (.ofPage page))) := by
  refine Prod.ext (c.beginGoto_fst page) ?_
  by_cases hZero : page = 0
  · unfold beginGoto
    dsimp only
    rw [if_pos hZero]
  · have hPage :
        ¬ PageExists page
          c.paginate.abort.buffer.window.pageSize := by
      intro hExists
      rcases hRefuses with hNone | hNot
      · exact hZero hNone
      · apply hNot
        rw [← c.paginate_feed.2.1]
        exact hExists
    have hSame : max page 1 = page := by omega
    unfold beginGoto
    dsimp only
    rw [if_neg hZero]
    unfold beginMove
    dsimp only
    rw [Buffer.prepareMove_of_not_exists _ hPage, hSame]

/- Every other page is accepted. -/
theorem accepts_of_not_refuses
    (hNot : ¬ c.Refuses page) :
    c.Accepts page := by
  unfold Refuses at hNot
  apply (c.accepts_iff page).mpr
  tauto

/- A page is refused with an error that names it, or accepted. -/
theorem beginGoto_failed_iff
    {e : PagerError} :
    (c.beginGoto page).2 = .failed e ↔
      c.Refuses page ∧ e = .nav (.ofPage page) := by
  by_cases hRefuses : c.Refuses page
  · rw [c.beginGoto_of_refuses hRefuses]
    simp [hRefuses, eq_comm]
  · rcases c.accepts_of_not_refuses hRefuses with ⟨m, hMove⟩
    rw [hMove]
    simp [hRefuses]

/- The window, the settings and the place stay in any case. -/
theorem beginGoto_keeps
    (page : Nat) :
    (c.beginGoto page).1.window = c.window ∧
      (c.beginGoto page).1.config = c.config ∧
      (c.beginGoto page).1.nav = c.nav := by
  have hConfig : c.paginate.config = c.config := by
    unfold paginate
    split <;> rfl
  have hNav := c.paginate_parts.1
  have hWindow := c.paginate_feed.2.1
  rw [beginGoto_fst]
  split <;> exact ⟨hWindow, hConfig, hNav⟩

end Begin

------------------------------------------------------------
-- Moves That Can Commit
------------------------------------------------------------

section Land

variable [Listing σ ρ κ]
variable [DecidableEq κ]

/- A move that commits if it has loaded everything now. -/
def Lands
    (c : Controller σ ρ κ)
    (m : Move ρ κ) : Prop :=
  (c.finish m).2 = .committed

instance
    (c : Controller σ ρ κ)
    (m : Move ρ κ) :
    Decidable (c.Lands m) := by
  unfold Lands
  infer_instance

variable (c : Controller σ ρ κ)
variable {m : Move ρ κ}

/- It does if nothing happened to its buffer since its plan. -/
theorem lands_iff :
    c.Lands m ↔
      (c.feedAt m.feed).buffer.isCurrent m.flight.plan = true := by
  unfold Lands
  rw [finish_snd]
  unfold Buffer.commit
  split
  · next hCurrent => simp [hCurrent]
  · next hStale => simp [hStale]

/- What a move on a replaced source does is up to that source. -/
theorem lands_congr
    (c' : Controller σ ρ κ)
    (hPast : c'.past = c.past)
    (hFeed : m.feed < c.past.length) :
    c'.Lands m ↔ c.Lands m := by
  have hSame : c'.feedAt m.feed = c.feedAt m.feed := by
    unfold feedAt
    rw [hPast]
    simp [List.getD_eq_getElem?_getD, hFeed]
  rw [lands_iff, lands_iff, hSame]

/- A move that could commit cannot once it is superseded. -/
theorem not_lands_abort
    (hFeed : c.past.length ≤ m.feed)
    (hLands : c.Lands m) :
    ¬ c.abort.Lands m := by
  intro hAfter
  have hLater : c.abort.past.length ≤ m.feed := hFeed
  rw [lands_iff, feedAt_of_le _ hFeed] at hLands
  rw [lands_iff, feedAt_of_le _ hLater] at hAfter
  unfold Buffer.isCurrent Guard.isCurrent at hLands hAfter
  rw [Bool.and_eq_true, beq_iff_eq] at hLands hAfter
  have hStep :
      c.feed.buffer.guard.generation + 1 =
        c.feed.buffer.guard.generation :=
    hAfter.1.trans hLands.1.symm
  simp at hStep

------------------------------------------------------------
-- What a Refused Page Leaves of a Table
------------------------------------------------------------

/-
  Nothing has happened to a table, and what was in flight can
  still commit.
-/
structure Spares
    (flying : List (Move ρ κ))
    (c c' : Controller σ ρ κ) : Prop where
  still : Still c c'
  lands : ∀ m ∈ flying, c.Lands m → c'.Lands m

/- No move on the source in use could commit. -/
def Idle
    (c : Controller σ ρ κ)
    (flying : List (Move ρ κ)) : Prop :=
  ∀ m ∈ flying, c.past.length ≤ m.feed → ¬ c.Lands m

/- An abort spares what could not commit anyway. -/
theorem spares_abort_iff
    {flying : List (Move ρ κ)} :
    Spares flying c c.abort ↔ c.Idle flying := by
  constructor
  · intro hSpares m hm hFeed hLands
    exact c.not_lands_abort hFeed hLands
      (hSpares.lands m hm hLands)
  · intro hIdle
    refine ⟨c.still_abort, ?_⟩
    intro m hm hLands
    by_cases hFeed : m.feed < c.past.length
    · exact (c.lands_congr c.abort rfl hFeed).mpr hLands
    · exact (hIdle m hm (Nat.not_lt.mp hFeed) hLands).elim

/-
  A refused page spares the table only if it shows pages
  already.  Unless it is page 0, every move on the source in use
  that could commit is lost.
-/
theorem spares_beginGoto_iff
    {page : Nat}
    (flying : List (Move ρ κ))
    (hRefuses : c.Refuses page) :
    Spares flying c (c.beginGoto page).1 ↔
      c.mode = .pagination ∧ (page = 0 ∨ c.Idle flying) := by
  rw [c.beginGoto_of_refuses hRefuses]
  by_cases hPaged : c.mode = .pagination
  · rw [paginate_of_paged hPaged]
    by_cases hZero : page = 0
    · simp only [hPaged, hZero, true_or, and_true, iff_true]
      exact ⟨c.still_refl, fun _ _ hLands => hLands⟩
    · simp only [hPaged, hZero, false_or, true_and]
      exact c.spares_abort_iff
  · constructor
    · intro hSpares
      have hMode :
          (c.beginGoto page).1.mode = c.mode := by
        rw [c.beginGoto_of_refuses hRefuses]
        unfold mode
        rw [hSpares.still.strategy]
      exact (hPaged (hMode ▸ c.mode_beginGoto page)).elim
    · exact fun hBoth => (hPaged hBoth.1).elim

end Land

end Controller

------------------------------------------------------------
-- What a Refused Page Leaves of a Session
------------------------------------------------------------

namespace Session

/- The moves that have been begun and have not run. -/
def flying
    (s : Session) : List (Move Row Key) :=
  s.background.map Prod.snd

/- Nothing has happened to a session and its pending move. -/
structure Spares
    (s s' : Session) : Prop where
  table : Controller.Spares s.flying s.table s'.table
  pending : s'.pending = s.pending
  background : s'.background = s.background
  filter : s'.filter = s.filter

variable (s : Session)
variable {page : Nat}

/-
  A refused page is named in the error.  Page 0 is told at once;
  any other is refused by the table, after the pending move has
  been forgotten.
-/
theorem goto_of_refuses
    (hRefuses : s.table.Refuses page) :
    s.goto page =
      (if page = 0 then s
        else
          { s with
            table := s.table.paginate.abort
            pending := none },
        .error (.nav (.ofPage page))) := by
  have hTable : s.forgetPending.table = s.table := rfl
  unfold goto
  by_cases hZero : page = 0
  · rw [if_pos hZero, if_pos hZero]
  · rw [if_neg hZero, if_neg hZero]
    dsimp only
    have hBegin := s.table.beginGoto_of_refuses hRefuses
    rw [if_neg hZero] at hBegin
    rw [hTable, hBegin]
    rfl

/- A page is refused with an error that names it, or accepted. -/
theorem goto_error_iff
    {e : PagerError} :
    (s.goto page).2 = .error e ↔
      s.table.Refuses page ∧ e = .nav (.ofPage page) := by
  by_cases hRefuses : s.table.Refuses page
  · rw [s.goto_of_refuses hRefuses]
    simp [hRefuses, eq_comm]
  · have hZero : page ≠ 0 := fun hZero => hRefuses (.inl hZero)
    rcases s.table.accepts_of_not_refuses hRefuses with ⟨m, hMove⟩
    have hBegin :
        s.table.beginGoto page =
          ((s.table.beginGoto page).1, .moving m) :=
      Prod.ext rfl hMove
    have hTable : s.forgetPending.table = s.table := rfl
    unfold goto
    rw [if_neg hZero]
    dsimp only
    rw [hTable, hBegin]
    simp [hRefuses]

/- The window, the settings and the place stay in any case. -/
theorem goto_keeps
    (hRefuses : s.table.Refuses page) :
    (s.goto page).1.table.window = s.table.window ∧
      (s.goto page).1.table.config = s.table.config ∧
      (s.goto page).1.table.nav = s.table.nav := by
  have hKeeps := s.table.beginGoto_keeps page
  rw [s.table.beginGoto_of_refuses hRefuses] at hKeeps
  rw [s.goto_of_refuses hRefuses]
  by_cases hZero : page = 0
  · simp only [if_pos hZero, and_self]
  · simpa only [if_neg hZero] using hKeeps

/-
  A refused page spares the session if it is page 0.  Otherwise
  it does so only if pages are shown already, no move is
  pending, and none in the background could commit.
-/
theorem spares_goto_iff
    (hRefuses : s.table.Refuses page) :
    Spares s (s.goto page).1 ↔
      page = 0 ∨
        (s.table.mode = .pagination ∧ s.pending = none ∧
          s.table.Idle s.flying) := by
  have hTable := s.table.spares_beginGoto_iff s.flying hRefuses
  rw [s.table.beginGoto_of_refuses hRefuses] at hTable
  rw [s.goto_of_refuses hRefuses]
  by_cases hZero : page = 0
  · simp only [hZero, true_or, iff_true]
    exact ⟨⟨s.table.still_refl, fun _ _ hLands => hLands⟩,
      rfl, rfl, rfl⟩
  · simp only [hZero, false_or] at hTable ⊢
    constructor
    · intro hSpares
      rcases hTable.mp hSpares.table with ⟨hMode, hIdle⟩
      exact ⟨hMode, hSpares.pending.symm, hIdle⟩
    · rintro ⟨hMode, hPending, hIdle⟩
      exact ⟨hTable.mpr ⟨hMode, hIdle⟩, hPending.symm, rfl, rfl⟩

/- No step goes to page 0. -/
theorem stepTarget_ne_zero
    {forward : Bool}
    {target : Nat}
    (hTarget : s.stepTarget forward = some target) :
    target ≠ 0 := by
  unfold stepTarget saturate maxWord at hTarget
  dsimp only at hTarget
  split at hTarget
  · split at hTarget
    · cases hTarget
    · cases hTarget
      omega
  · split at hTarget
    · cases hTarget
    · cases hTarget
      omega

/- A step is refused as the page that it goes to. -/
theorem step_error
    {forward : Bool}
    {e : PagerError}
    (hError : (s.step forward).2 = .error e) :
    ∃ target, target ≠ 0 ∧
      s.goto target = ((s.step forward).1, .error e) := by
  unfold step at hError ⊢
  cases hTarget : s.stepTarget forward with
  | none =>
      rw [hTarget] at hError
      cases hError
  | some target =>
      refine ⟨target, s.stepTarget_ne_zero hTarget, ?_⟩
      rw [hTarget] at hError
      dsimp only at hError ⊢
      rcases hGoto : s.goto target with ⟨s', answer⟩
      rw [hGoto] at hError
      cases answer with
      | ok _ => cases hError
      | error e' =>
          cases hError
          rfl

end Session

------------------------------------------------------------
-- Refused Pages
------------------------------------------------------------

/-
  What a refused page leaves, of any table and of any session.
  The error names the page, and the window, the settings and the
  recorded place stay.  Everything stays, down to the moves that
  could commit, exactly in these cases.  For a table: it shows
  pages already, and the page is 0 or nothing in flight on its
  source could commit.  For a session: the page is 0; or pages
  are shown already, no move is pending, and none in the
  background could commit.  A step is refused only as a page
  other than 0.
-/
theorem refused_page_spares_iff
    {σ ρ κ : Type}
    [Listing σ ρ κ]
    [DecidableEq κ] :
    (∀ (c : Controller σ ρ κ) (flying : List (Move ρ κ))
        (page : Nat) (e : PagerError),
      (c.beginGoto page).2 = .failed e →
        c.Refuses page ∧ e = .nav (.ofPage page) ∧
        ((c.beginGoto page).1.window = c.window ∧
          (c.beginGoto page).1.config = c.config ∧
          (c.beginGoto page).1.nav = c.nav) ∧
        (Controller.Spares flying c (c.beginGoto page).1 ↔
          c.mode = .pagination ∧
            (page = 0 ∨ c.Idle flying))) ∧
    (∀ (s : Session) (page : Nat) (e : PagerError),
      (s.goto page).2 = .error e →
        s.table.Refuses page ∧ e = .nav (.ofPage page) ∧
        ((s.goto page).1.table.window = s.table.window ∧
          (s.goto page).1.table.config = s.table.config ∧
          (s.goto page).1.table.nav = s.table.nav) ∧
        (Session.Spares s (s.goto page).1 ↔
          page = 0 ∨
            (s.table.mode = .pagination ∧ s.pending = none ∧
              s.table.Idle s.flying))) ∧
    ∀ (s : Session) (forward : Bool) (e : PagerError),
      (s.step forward).2 = .error e →
        ∃ page, page ≠ 0 ∧
          s.goto page = ((s.step forward).1, .error e) := by
  refine ⟨?_, ?_, fun s _ _ hError => s.step_error hError⟩
  · intro c flying page e hFailed
    rcases c.beginGoto_failed_iff.mp hFailed with
      ⟨hRefuses, hNamed⟩
    exact ⟨hRefuses, hNamed, c.beginGoto_keeps page,
      c.spares_beginGoto_iff flying hRefuses⟩
  · intro s page e hError
    rcases s.goto_error_iff.mp hError with ⟨hRefuses, hNamed⟩
    exact ⟨hRefuses, hNamed, s.goto_keeps hRefuses,
      s.spares_goto_iff hRefuses⟩

------------------------------------------------------------
-- A Move Stopped by a Page Too Far
------------------------------------------------------------

/- Tokens by their numbers. -/
def tokensOf
    (numbers : List UInt64) : MemoryList Row :=
  { rows := numbers.map fun n => .token ⟨⟨0, 0, n⟩, "", "", ""⟩ }

/- A ledger of six tokens. -/
def sixTokens : Backend :=
  .demo ⟨⟨[], true⟩, ⟨[], true⟩, tokensOf [6, 5, 4, 3, 2, 1], []⟩

/- The tokens on pages of two, live. -/
def liveTokens : Session :=
  ((Session.new sixTokens .tokens { pageSize := 2 } .empty).mount
    sixTokens 0).1

/-
  While the second page is pending, page 0 is refused and spares
  it, and a page too far is refused and does not.
-/
theorem refused_page_spares_iff_pending :
    let far := 2 ^ 63
    let paged := (liveTokens.goto 2).1
    ((paged.goto 0).2 = .error (.nav (.ofPage 0)) ∧
      Session.Spares paged (paged.goto 0).1) ∧
    ((paged.goto far).2 = .error (.nav (.ofPage far)) ∧
      ¬ Session.Spares paged (paged.goto far).1) := by
  intro far paged
  have hPending : paged.pending ≠ none := by decide +kernel
  have hTooFar : paged.table.Refuses far := by decide +kernel
  have hZero :
      (paged.goto 0).2 = .error (.nav (.ofPage 0)) :=
    paged.goto_error_iff.mpr ⟨.inl rfl, rfl⟩
  have hFar :
      (paged.goto far).2 = .error (.nav (.ofPage far)) :=
    paged.goto_error_iff.mpr ⟨hTooFar, rfl⟩
  rcases refused_page_spares_iff
      (σ := RowSource) (ρ := Row) (κ := Key) with
    ⟨_, hSession, _⟩
  rcases hSession paged 0 _ hZero with ⟨_, _, _, hSpared⟩
  rcases hSession paged far _ hFar with ⟨_, _, _, hLost⟩
  refine ⟨⟨hZero, hSpared.mpr (.inl rfl)⟩, hFar, ?_⟩
  intro hSpares
  rcases hLost.mp hSpares with hNone | ⟨_, hFree, _⟩
  · exact absurd hNone (by decide)
  · exact hPending hFree

/-
  A page too far ends the live view, although it is refused.  If
  it is asked for while another page is pending, that page is
  forgotten, and can no longer be committed.  Page 0 ends the
  live view of a table, although it is refused.
-/
theorem refused_page_stops_move :
    let far := 2 ^ 63
    let paged := (liveTokens.goto 2).1
    (liveTokens.table.mode = .autoRefresh ∧
      (liveTokens.table.beginGoto 0).2 =
        .failed (.nav (.ofPage 0)) ∧
      (liveTokens.table.beginGoto 0).1.mode = .pagination ∧
      (liveTokens.goto far).2 = .error (.nav (.ofPage far)) ∧
      (liveTokens.goto far).1.table.mode = .pagination) ∧
    ((paged.goto far).2 = .error (.nav (.ofPage far)) ∧
      paged.pending.map (·.page) = some 2 ∧
      (paged.goto far).1.pending.map (·.page) = none ∧
      paged.flying.map (fun m => decide (paged.table.Lands m)) =
        [true] ∧
      paged.flying.map
          (fun m => decide ((paged.goto far).1.table.Lands m)) =
        [false]) ∧
    ¬ Session.Spares liveTokens (liveTokens.goto far).1 ∧
      ¬ Session.Spares paged (paged.goto far).1 := by
  intro far paged
  have hLive :
      liveTokens.table.mode = .autoRefresh ∧
        (liveTokens.goto far).1.table.mode = .pagination := by
    decide +kernel
  have hTooFar :
      liveTokens.table.Refuses far ∧ paged.table.Refuses far := by
    decide +kernel
  have hPaged :
      paged.pending.map (·.page) = some 2 ∧
        (paged.goto far).1.pending.map (·.page) = none ∧
        paged.flying.map (fun m => decide (paged.table.Lands m)) =
          [true] ∧
        paged.flying.map
            (fun m => decide ((paged.goto far).1.table.Lands m)) =
          [false] := by
    decide +kernel
  have hZero :
      (liveTokens.table.beginGoto 0).2 = .failed (.nav (.ofPage 0)) :=
    (Controller.beginGoto_failed_iff _).mpr ⟨.inl rfl, rfl⟩
  refine ⟨⟨hLive.1, hZero, Controller.mode_beginGoto _ 0,
    (Session.goto_error_iff _).mpr ⟨hTooFar.1, rfl⟩, hLive.2⟩,
    ⟨(Session.goto_error_iff _).mpr ⟨hTooFar.2, rfl⟩, hPaged⟩,
    ?_, ?_⟩
  · intro hSpares
    have hMode :
        (liveTokens.goto far).1.table.mode =
          liveTokens.table.mode := by
      unfold Controller.mode
      rw [hSpares.table.still.strategy]
    rw [hLive.1, hLive.2] at hMode
    cases hMode
  · intro hSpares
    have hPending := hPaged.2.1
    rw [hSpares.pending, hPaged.1] at hPending
    cases hPending

end LedgerView
