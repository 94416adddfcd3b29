import LedgerView.Proofs.Live.Loads
import LedgerView.Proofs.Live.Scene
import LedgerView.Proofs.Table.Operation

/-
  Tables that begin anew.

  Whatever is asked of a table either leaves its window and what
  is under way alone, or supersedes what is under way and begins
  anew: on the window as it is, or emptied, or with other pages,
  or on another source.  A page is opened at a key only where a
  table is mounted with a place, or reloads its pages; a load of
  a live table is for its first page.

  Key definitions include:
    * `Controller.Restarts`
    * `Controller.Quits`
    * `Controller.Opens`
    * `Controller.Leaves`
    * `Controller.Undertakes`

  Key theorems include:
    * `Controller.undertakes_undertake`
-/

namespace LedgerView

variable {σ ρ κ : Type}

namespace Controller

variable {c c' : Controller σ ρ κ}

------------------------------------------------------------
-- Windows That Are Begun With
------------------------------------------------------------

/- The window takes another page size. -/
@[simp]
theorem window_resized
    (c : Controller σ ρ κ)
    (pageSize : Nat) :
    (c.resized pageSize).window = c.window.resize pageSize := by
  show c.window.resize (max pageSize 1) = _
  unfold Window.resize
  rw [Nat.max_eq_left (Nat.le_max_right pageSize 1)]

/-
  What becomes of the window of a table that begins anew, and of
  its source.  No table goes live on the window as it is.
-/
inductive Restarts
    (c c' : Controller σ ρ κ) : Prop where
  | same
      (hSource : c'.feed.source = c.feed.source)
      (hWindow : c'.window = c.window)
      (hLive : c'.mode = .autoRefresh → c.mode = .autoRefresh)
  | cleared
      (hSource : c'.feed.source = c.feed.source)
      (hWindow : c'.window = c.window.reset)
  | resized
      (pageSize : Nat)
      (hSource : c'.feed.source = c.feed.source)
      (hWindow : c'.window = c.window.resize pageSize)
      (hLive : c'.mode = .autoRefresh → c.mode = .autoRefresh)
  | supplied
      (pageSize : Nat)
      (hWindow : c'.window = .empty pageSize)

/- Only its window and its source matter, unless it goes live. -/
theorem Restarts.congr
    {d : Controller σ ρ κ}
    (hRestarts : c.Restarts d)
    (hSource : c'.feed.source = d.feed.source)
    (hWindow : c'.window = d.window)
    (hLive : c'.mode = .autoRefresh → d.mode = .autoRefresh) :
    c.Restarts c' := by
  cases hRestarts with
  | same hSource' hWindow' hLive' =>
      exact .same (hSource.trans hSource') (hWindow.trans hWindow')
        (hLive' ∘ hLive)
  | cleared hSource' hWindow' =>
      exact .cleared (hSource.trans hSource')
        (hWindow.trans hWindow')
  | resized pageSize hSource' hWindow' hLive' =>
      exact .resized pageSize (hSource.trans hSource')
        (hWindow.trans hWindow') (hLive' ∘ hLive)
  | supplied pageSize hWindow' =>
      exact .supplied pageSize (hWindow.trans hWindow')

/- A table may go on with its window as it is. -/
theorem restarts_refl
    (c : Controller σ ρ κ) :
    c.Restarts c :=
  .same rfl rfl id

/- So does a change of the page size, but for that. -/
theorem restarts_resized
    (c : Controller σ ρ κ)
    (pageSize : Nat) :
    c.Restarts (c.resized pageSize) :=
  .resized pageSize rfl (c.window_resized pageSize) id

/- Another source begins with an empty window. -/
theorem restarts_supplied
    (c : Controller σ ρ κ)
    (source : σ) :
    c.Restarts (c.supplied source) :=
  .supplied c.config.pageSize rfl

------------------------------------------------------------
-- Loads That Are Superseded
------------------------------------------------------------

/-
  What becomes of the loads of a table that begins anew: the
  feed in use was aborted, and no tick begins.
-/
structure Quits
    (c c' : Controller σ ρ κ) : Prop where
  restarts : c.Restarts c'
  past : c.past.length ≤ c'.past.length
  later : c'.generation c.past.length ≠
    c.generation c.past.length
  ticks : ∀ f ∈ TableTraffic.ticking? c',
    c'.past.length = c.past.length ∧
      f ∈ TableTraffic.ticking? c

/- Only a live table ticks. -/
theorem ticking?_of_mode
    (hMode : c.mode ≠ .autoRefresh) :
    TableTraffic.ticking? c = none := by
  unfold TableTraffic.ticking?
  split
  · next hLive =>
      unfold mode at hMode
      rw [hLive] at hMode
      exact absurd rfl hMode
  · rfl

/- Any change that aborts, and starts no tick. -/
theorem quits_of_abort
    (hRestarts : c.Restarts c')
    (hPast : c'.past = c.past)
    (hLater :
      c'.feed.buffer.guard.generation ≠
        c.feed.buffer.guard.generation)
    (hTicks :
      TableTraffic.ticking? c' = none ∨
        c'.strategy = c.strategy) :
    c.Quits c' where
  restarts := hRestarts
  past := Nat.le_of_eq (by rw [hPast])
  later := by
    rw [c.generation_current, ← hPast, c'.generation_current]
    exact hLater
  ticks := fun f hMem => by
    refine ⟨by rw [hPast], ?_⟩
    rcases hTicks with hNone | hSame
    · rw [hNone] at hMem
      cases hMem
    · unfold TableTraffic.ticking? at hMem ⊢
      rw [hSame] at hMem
      exact hMem

/- A change of the source, after which nothing ticks. -/
theorem quits_of_supplied
    (source : σ)
    (hRestarts : c.Restarts c')
    (hPast : c'.past = (c.supplied source).past)
    (hTicks : TableTraffic.ticking? c' = none) :
    c.Quits c' where
  restarts := hRestarts
  past := by
    rw [hPast]
    unfold supplied
    simp
  later := by
    rw [c.generation_of_supplied hPast, c.generation_current]
    simp
  ticks := fun f hMem => by
    rw [hTicks] at hMem
    cases hMem

------------------------------------------------------------
-- Loads That Are Left
------------------------------------------------------------

variable [Listing σ ρ κ]

/-
  An operation that opens the recorded page, if that is
  anchored.
-/
def Opens
    (c : Controller σ ρ κ) : Errand σ → Prop
  | .mount => c.navState.isAnchored = true
  | .refresh =>
      c.mode = .pagination ∧ c.navState.isAnchored = true
  | _ => False

instance
    (c : Controller σ ρ κ) :
    (errand : Errand σ) → Decidable (c.Opens errand)
  | .mount => inferInstanceAs (Decidable (_ = true))
  | .refresh => inferInstanceAs (Decidable (_ ∧ _ = true))
  | .unmount | .live | .goto _ | .next | .previous
  | .togglePause | .resume | .setPageSize _ | .replace _ =>
      .isFalse id

/- The key at which it is opened. -/
def anchor?
    (c : Controller σ ρ κ) : Option κ :=
  c.navState.key.bind (Listing.read? c.feed.source)

/-
  What is left to do once a table has begun anew.  A load of a
  live table is for its first page; a page is opened at a key
  only where it is recorded.
-/
inductive Leaves
    (c : Controller σ ρ κ)
    (errand : Errand σ)
    (c' : Controller σ ρ κ) : Option (Begun ρ κ) → Prop where
  | idle
      {left : Option (Begun ρ κ)}
      (hNone : ∀ m, left ≠ some (.moving m)) :
      Leaves c errand c' left
  | load
      (op : Operation κ)
      (records : Bool)
      (f : Flight ρ κ)
      (hBegin : c'.buffer.begin c'.key op = .ok f)
      (hMounted : c'.mode ≠ .unmounted)
      (hFirst : c'.mode = .autoRefresh →
        op = .refresh ∨ op = .move 1 none)
      (hOpens : ∀ page k, op = .move page (some k) →
        c.anchor? = some k ∧ c'.feed.source = c.feed.source ∧
          c'.window.pageSize = c.window.pageSize ∧
          (page = 1 ∨
            c.Opens errand ∧ c.navState.page = some page)) :
      Leaves c errand c'
        (some (.moving ⟨c'.past.length, records, f⟩))

/- A move begins, or its page does not exist. -/
theorem beginMove_cases
    (d : Controller σ ρ κ)
    (page : Nat)
    (anchor : Option κ)
    (records : Bool) :
    (∃ f, d.abort.buffer.begin d.key (.move page anchor) = .ok f ∧
      d.beginMove page anchor records =
        (d.abort, d.moving records f)) ∨
    ∃ e, d.beginMove page anchor records = (d.abort, .failed e) := by
  cases hBegin : d.abort.buffer.begin d.key (.move page anchor) with
  | ok f =>
      exact .inl ⟨f, rfl, d.beginMove_of_begin rfl records hBegin⟩
  | error e =>
      right
      have hKey : d.abort.key = d.key := rfl
      unfold Buffer.begin at hBegin
      unfold beginMove
      dsimp only at hBegin ⊢
      rw [hKey]
      split
      · next move hPrepare =>
          rw [hPrepare] at hBegin
          cases hBegin
      · exact ⟨_, rfl⟩

/- In the first case the move is left to do. -/
theorem leaves_beginMove
    {d : Controller σ ρ κ}
    {errand : Errand σ}
    {page : Nat}
    {anchor : Option κ}
    (records : Bool)
    (hMounted : d.mode ≠ .unmounted)
    (hFirst : d.mode = .autoRefresh → page = 1 ∧ anchor = none)
    (hOpens : ∀ k, anchor = some k →
      c.anchor? = some k ∧ d.feed.source = c.feed.source ∧
        d.window.pageSize = c.window.pageSize ∧
        (page = 1 ∨
          c.Opens errand ∧ c.navState.page = some page)) :
    c.Leaves errand (d.beginMove page anchor records).1
      (some (d.beginMove page anchor records).2) := by
  rcases d.beginMove_cases page anchor records with
    ⟨f, hBegin, hBegun⟩ | ⟨e, hBegun⟩
  · rw [hBegun]
    refine .load _ records f hBegin hMounted ?_ ?_
    · intro hLive
      rcases hFirst hLive with ⟨rfl, rfl⟩
      exact .inr rfl
    · intro page' k hSame
      cases hSame
      exact hOpens k rfl
  · rw [hBegun]
    exact .idle fun m hMove => nomatch hMove

/- A refresh is left to do. -/
theorem leaves_beginNewest
    {d : Controller σ ρ κ}
    (errand : Errand σ)
    (hMounted : d.mode ≠ .unmounted) :
    c.Leaves errand d.beginNewest.1 (some d.beginNewest.2) :=
  .load .refresh false _ rfl hMounted (fun _ => .inl rfl)
    fun _ _ hSame => nomatch hSame

------------------------------------------------------------
-- Whatever Is Asked
------------------------------------------------------------

/-
  What an operation does at once, and what it leaves to do: the
  table begins anew, or nothing begins.
-/
inductive Undertakes
    (c : Controller σ ρ κ)
    (errand : Errand σ) :
    Controller σ ρ κ → Option (Begun ρ κ) → Prop where
  | anew
      (c' : Controller σ ρ κ)
      (left : Option (Begun ρ κ))
      (hQuits : c.Quits c')
      (hLeaves : c.Leaves errand c' left) :
      Undertakes c errand c' left
  | keep
      (left : Option (Begun ρ κ))
      (hNone : ∀ m, left ≠ some (.moving m)) :
      Undertakes c errand c left
  | resize
      (pageSize : Nat)
      (left : Option (Begun ρ κ))
      (hMode : c.mode = .unmounted)
      (hNone : ∀ m, left ≠ some (.moving m)) :
      Undertakes c errand (c.resized pageSize) left
  | timer
      (c' : Controller σ ρ κ)
      (hErrand : errand = .togglePause ∨ errand = .resume)
      (hSame : c.Resembles c') :
      Undertakes c errand c' none

omit [Listing σ ρ κ] in
/- A table that paginates aborts, unless it shows pages. -/
theorem paginate_cases
    (c : Controller σ ρ κ) :
    (c.strategy = .paged ∧ c.paginate = c) ∨
      c.paginate = { c.abort with strategy := .paged } := by
  unfold paginate
  split
  · next hPaged => exact .inl ⟨hPaged, rfl⟩
  · exact .inr rfl

/- Going to a page keeps the window. -/
theorem Restarts.beginGoto
    {d : Controller σ ρ κ}
    (hRestarts : c.Restarts d)
    (page : Nat) :
    c.Restarts (d.beginGoto page).1 := by
  have hFeed : (d.beginGoto page).1.feed.source = d.feed.source ∧
      (d.beginGoto page).1.window = d.window := by
    rw [beginGoto_fst]
    rcases d.paginate_cases with ⟨-, hSame⟩ | hSame
    all_goals
      rw [hSame]
      split <;> exact ⟨rfl, rfl⟩
  refine hRestarts.congr hFeed.1 hFeed.2 fun hLive => ?_
  rw [mode_beginGoto] at hLive
  cases hLive

/- It aborts, but for page 0 while pages are shown. -/
theorem generation_beginGoto_ne
    (c : Controller σ ρ κ)
    {page : Nat}
    (hMoves : page ≠ 0 ∨ c.strategy ≠ .paged) :
    (c.beginGoto page).1.feed.buffer.guard.generation ≠
      c.feed.buffer.guard.generation := by
  rw [beginGoto_fst]
  rcases c.paginate_cases with ⟨hPaged, hSame⟩ | hSame
  · rw [hSame, if_neg (hMoves.resolve_right (not_not_intro hPaged))]
    exact Guard.generation_abort_ne _
  · rw [hSame]
    split
    · exact Guard.generation_abort_ne _
    · show c.feed.buffer.guard.generation + 1 + 1 ≠ _
      simp [UInt64.add_assoc]

/- It stops whatever ticks. -/
theorem ticking?_beginGoto
    (c : Controller σ ρ κ)
    (page : Nat) :
    TableTraffic.ticking? (c.beginGoto page).1 = none := by
  refine ticking?_of_mode ?_
  rw [mode_beginGoto]
  decide

/- A page is opened from the rows at hand, without a key. -/
theorem leaves_beginGoto
    (d : Controller σ ρ κ)
    (errand : Errand σ)
    (page : Nat) :
    c.Leaves errand (d.beginGoto page).1
      (some (d.beginGoto page).2) := by
  by_cases hZero : page = 0
  · refine .idle fun m hMove => ?_
    rw [show d.beginGoto page =
      (d.paginate, .failed (.nav (.ofPage page))) from if_pos hZero]
      at hMove
    cases hMove
  · rw [show d.beginGoto page = d.paginate.beginMove page none true
      from if_neg hZero]
    have hMode := d.mode_paginate
    refine leaves_beginMove true ?_ ?_ fun k hSame => nomatch hSame
    · rw [hMode]
      decide
    · rw [hMode]
      exact fun hLive => nomatch hLive

/- A table that goes to a page begins anew, or stays. -/
theorem undertakes_beginGoto
    (c : Controller σ ρ κ)
    (errand : Errand σ)
    (page : Nat) :
    c.Undertakes errand (c.beginGoto page).1
      (some (c.beginGoto page).2) := by
  by_cases hMoves : page ≠ 0 ∨ c.strategy ≠ .paged
  · refine .anew _ _ ?_ (leaves_beginGoto c errand page)
    exact quits_of_abort ((restarts_refl c).beginGoto page)
      (c.beginGoto_parts page).2.2
      (c.generation_beginGoto_ne hMoves)
      (.inl (c.ticking?_beginGoto page))
  · rcases not_or.mp hMoves with ⟨hZero, hPaged⟩
    have hSame : c.paginate = c := by
      unfold paginate
      rw [not_not.mp hPaged]
    have hBegun :
        c.beginGoto page = (c, .failed (.nav (.ofPage page))) := by
      unfold beginGoto
      rw [hSame]
      exact if_pos (not_not.mp hZero)
    rw [hBegun]
    exact .keep _ fun m hMove => nomatch hMove

/- So does one that opens the recorded page. -/
theorem leaves_beginRecorded
    {d : Controller σ ρ κ}
    {errand : Errand σ}
    (hMode : d.mode = .pagination)
    (hPlace : d.navState = c.navState)
    (hSource : d.feed.source = c.feed.source)
    (hSize : d.window.pageSize = c.window.pageSize)
    (hOpens : c.navState.isAnchored = true → c.Opens errand) :
    c.Leaves errand d.beginRecorded.1
      (some d.beginRecorded.2) := by
  refine leaves_beginMove true ?_ ?_ ?_
  · rw [hMode]
    decide
  · rw [hMode]
    exact fun hLive => nomatch hLive
  · intro k hAnchor
    rw [hPlace, hSource] at hAnchor
    refine ⟨hAnchor, hSource, hSize, ?_⟩
    rw [hPlace]
    cases hPage : c.navState.page with
    | none => exact .inl rfl
    | some page =>
        refine .inr ⟨hOpens ?_, rfl⟩
        unfold NavState.isAnchored
        rw [hPage]
        cases hKey : c.navState.key with
        | none => rw [hKey] at hAnchor; cases hAnchor
        | some text => rfl

/- So does one that goes live. -/
theorem undertakes_beginLive
    (now : Nat)
    (c : Controller σ ρ κ)
    (errand : Errand σ) :
    c.Undertakes errand (c.beginLive now).1
      (some (c.beginLive now).2) := by
  refine .anew _ _ ?_ (leaves_beginNewest errand ?_)
  · refine quits_of_abort (.cleared rfl rfl) rfl ?_ (.inl rfl)
    show c.feed.buffer.guard.generation + 1 + 1 ≠ _
    simp [UInt64.add_assoc]
  · exact fun hMode => nomatch hMode

/- So does a table that is mounted, -/
theorem undertakes_beginMount
    (now : Nat)
    (c : Controller σ ρ κ) :
    c.Undertakes .mount (c.beginMount now).1
      (some (c.beginMount now).2) := by
  unfold beginMount
  split
  · refine .anew _ _ ?_
      (leaves_beginRecorded (c := c) rfl rfl rfl rfl id)
    rw [beginRecorded_fst]
    exact quits_of_abort
      (.same rfl rfl fun hLive => nomatch hLive) rfl
      (Guard.generation_abort_ne _) (.inl rfl)
  · exact c.undertakes_beginLive now .mount

/- or refreshed, -/
theorem undertakes_beginRefresh
    (c : Controller σ ρ κ) :
    c.Undertakes .refresh c.beginRefresh.1
      (some c.beginRefresh.2) := by
  unfold beginRefresh
  split
  · next view hLive =>
      refine .anew _ _ ?_ (leaves_beginNewest .refresh ?_)
      · exact quits_of_abort (.same rfl rfl id) rfl
          (Guard.generation_abort_ne _) (.inr rfl)
      · unfold mode
        rw [hLive]
        exact fun hMode => nomatch hMode
  · next hPaged =>
      have hMode : c.mode = .pagination := by
        unfold mode
        rw [hPaged]
      have hNotLive : c.clear.abort.mode ≠ .autoRefresh := by
        show c.mode ≠ .autoRefresh
        rw [hMode]
        decide
      refine .anew _ _ ?_ (leaves_beginRecorded (d := c.clear)
        hMode rfl rfl rfl fun hAnchored => ⟨hMode, hAnchored⟩)
      rw [beginRecorded_fst]
      refine quits_of_abort (.cleared rfl rfl) rfl ?_
        (.inl (ticking?_of_mode hNotLive))
      show c.feed.buffer.guard.generation + 1 + 1 ≠ _
      simp [UInt64.add_assoc]
  · exact .keep _ fun m hMove => nomatch hMove

/- or takes another page size while it is mounted, -/
theorem undertakes_beginSetPageSize
    (c : Controller σ ρ κ)
    (pageSize : Nat) :
    c.Undertakes (.setPageSize pageSize)
      (c.beginSetPageSize pageSize).1
      (some (c.beginSetPageSize pageSize).2) := by
  let d := c.resized pageSize
  rw [beginSetPageSize_eq]
  split
  · next hPaged =>
      refine .anew _ _ ?_ (leaves_beginGoto d _ _)
      exact quits_of_abort ((c.restarts_resized _).beginGoto _)
        (d.beginGoto_parts _).2.2
        (d.generation_beginGoto_ne (.inl (Nat.succ_ne_zero _)))
        (.inl (d.ticking?_beginGoto _))
  · next view hLive =>
      have hMode : d.mode = .autoRefresh := by
        show c.mode = .autoRefresh
        unfold mode
        rw [hLive]
      refine .anew _ _ ?_ (leaves_beginMove false ?_
        (fun _ => ⟨rfl, rfl⟩) fun k hSame => nomatch hSame)
      · rw [beginMove_fst]
        exact quits_of_abort
          ((c.restarts_resized pageSize).congr rfl rfl id) rfl
          (Guard.generation_abort_ne _) (.inr rfl)
      · show d.mode ≠ _
        rw [hMode]
        decide
  · next hUnmounted =>
      refine .resize pageSize _ ?_ fun m hMove => nomatch hMove
      unfold mode
      rw [hUnmounted]

/- or takes another source. -/
theorem undertakes_beginReplace
    (now : Nat)
    (c : Controller σ ρ κ)
    (source : σ) :
    c.Undertakes (.replace source) (c.beginReplace now source).1
      (some (c.beginReplace now source).2) := by
  let d := c.supplied source
  have hRestarts := c.restarts_supplied source
  rw [beginReplace_eq]
  split
  · have hForgot : c.Restarts d.forgetPlace :=
      hRestarts.congr rfl rfl id
    refine .anew _ _ ?_ (leaves_beginGoto d.forgetPlace _ _)
    exact quits_of_supplied source
      (hForgot.beginGoto 1)
      (d.forgetPlace.beginGoto_parts 1).2.2
      (d.forgetPlace.ticking?_beginGoto 1)
  · refine .anew _ _ ?_ (leaves_beginNewest _ ?_)
    · exact quits_of_supplied source (.supplied _ rfl) rfl rfl
    · exact fun hMode => nomatch hMode
  · refine .anew _ _ ?_ (.idle fun m hMove => nomatch hMove)
    exact quits_of_supplied source hRestarts rfl rfl

/- Whatever is asked of a table, no more can happen at once. -/
theorem undertakes_undertake
    (now : Nat)
    (c : Controller σ ρ κ)
    (errand : Errand σ) :
    c.Undertakes errand (c.undertake now errand).1
      (c.undertake now errand).2 := by
  cases errand with
  | mount => exact c.undertakes_beginMount now
  | unmount =>
      refine .anew _ _ ?_ (.idle fun m hMove => nomatch hMove)
      exact quits_of_abort (.cleared rfl rfl) rfl
        (Guard.generation_abort_ne _) (.inl rfl)
  | live => exact c.undertakes_beginLive now .live
  | goto page => exact c.undertakes_beginGoto (.goto page) page
  | next => exact c.undertakes_beginGoto .next (c.currentPage + 1)
  | previous =>
      exact c.undertakes_beginGoto .previous
        (max (c.currentPage - 1) 1)
  | refresh => exact c.undertakes_beginRefresh
  | togglePause =>
      refine .timer _ (.inl rfl) ?_
      show c.Resembles (c.togglePause now).1
      unfold togglePause
      split
      · next hLive =>
          exact ⟨rfl, rfl, by simp [mode, hLive], rfl⟩
      · exact ⟨rfl, rfl, rfl, rfl⟩
  | resume =>
      refine .timer _ (.inr rfl) ?_
      show c.Resembles (c.resume now)
      unfold resume
      split
      · next hLive =>
          exact ⟨rfl, rfl, by simp [mode, hLive], rfl⟩
      · exact ⟨rfl, rfl, rfl, rfl⟩
  | setPageSize pageSize =>
      exact c.undertakes_beginSetPageSize pageSize
  | replace source => exact c.undertakes_beginReplace now source

end Controller

end LedgerView
