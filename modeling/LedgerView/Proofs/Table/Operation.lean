import Mathlib.Algebra.Order.BigOperators.Group.List
import Mathlib.Algebra.Order.Group.Nat
import LedgerView.Proofs.Table.Traffic
import LedgerView.Proofs.Traffic.Invariant

/-
  What the operations of a table do at once.

  Whatever is asked of a table, the names of its parameters
  stay, no source that was replaced comes back, and a table that
  stops showing the pages of a source makes everything stale
  that is in flight there.  Only an operation that goes live, or
  that replaces the source of a mounted table, touches the
  recorded place, and it removes it.

  Key definitions include:
    * `Controller.Succeeds`
    * `Controller.Forgets`
    * `Controller.modeAfter`
    * `Begun.DueOn`
    * `Controller.Resembles`
    * `Controller.visiblePlace`
    * `TableTraffic.Stride`

  Key theorems include:
    * `Controller.succeeds_undertake`
    * `Controller.nav_undertake_of_forgets`
    * `Controller.nav_undertake_of_not_forgets`
    * `Controller.mode_undertake`
    * `Controller.due_undertake`
    * `Controller.generation_mono`
    * `Controller.nav_finish_of_recorded`
    * `TableTraffic.stride_step`
-/

namespace LedgerView

variable {σ ρ κ : Type}

namespace Controller

------------------------------------------------------------
-- Generations
------------------------------------------------------------

/- The feed in use comes after those that were replaced. -/
@[simp]
theorem feedAt_current
    (c : Controller σ ρ κ) :
    c.feedAt c.past.length = c.feed := by
  unfold feedAt
  simp

/- No feed comes after the feed in use. -/
theorem feedAt_of_le
    (c : Controller σ ρ κ)
    {n : Nat}
    (hPast : c.past.length ≤ n) :
    c.feedAt n = c.feed := by
  unfold feedAt
  rw [List.getD_eq_getElem?_getD, List.getElem?_eq_none hPast]
  rfl

/- The generation of the feed in use. -/
theorem generation_current
    (c : Controller σ ρ κ) :
    c.generation c.past.length =
      c.feed.buffer.guard.generation := by
  unfold generation
  rw [if_pos (Nat.le_refl _), feedAt_current]

/- What one feed was aborted is part of what all feeds were. -/
theorem generation_sub_le
    {c c' : Controller σ ρ κ}
    (hPast : c.past.length ≤ c'.past.length)
    (n : Nat) :
    (c'.generation n - c.generation n).toNat ≤
      c.abortsSince c' := by
  by_cases hFeed : n ≤ c'.past.length
  · unfold abortsSince
    refine List.single_le_sum (fun _ _ => Nat.zero_le _) _ ?_
    exact List.mem_map.mpr
      ⟨n, List.mem_range.mpr (by omega), rfl⟩
  · unfold generation
    rw [if_neg hFeed, if_neg (by omega)]
    exact Nat.zero_le _

/- No feed is in a later generation than there were aborts. -/
theorem generation_le
    {c c' : Controller σ ρ κ}
    (hPast : c.past.length ≤ c'.past.length)
    {n aborts : Nat}
    (hAborts : (c.generation n).toNat ≤ aborts) :
    (c'.generation n).toNat ≤ aborts + c.abortsSince c' := by
  have hGrown := generation_sub_le hPast n
  rw [UInt64.toNat_sub] at hGrown
  have hWord := (c.generation n).toNat_lt
  have hWord' := (c'.generation n).toNat_lt
  omega

/- While aborts are few, generations only grow. -/
theorem generation_mono
    {c c' : Controller σ ρ κ}
    (hPast : c.past.length ≤ c'.past.length)
    {n aborts : Nat}
    (hAborts : (c.generation n).toNat ≤ aborts)
    (hFew : aborts + c.abortsSince c' < 2 ^ 64) :
    c.generation n ≤ c'.generation n := by
  have hGrown := generation_sub_le hPast n
  rw [UInt64.toNat_sub] at hGrown
  rw [UInt64.le_iff_toNat_le]
  have hWord := (c.generation n).toNat_lt
  have hWord' := (c'.generation n).toNat_lt
  omega

------------------------------------------------------------
-- Succession
------------------------------------------------------------

/-
  What holds of a table and the table it becomes: a table that
  no longer shows the pages of its source has made stale what
  is in flight there.
-/
structure Succeeds
    (c c' : Controller σ ρ κ) : Prop where
  names : c'.names = c.names
  past : c.past.length ≤ c'.past.length
  stale : c.mode = .pagination →
    (c'.mode = .pagination ∧ c'.past.length = c.past.length) ∨
      c'.generation c.past.length ≠ c.generation c.past.length

/- Any change that keeps the sources and aborts. -/
theorem succeeds_of_abort
    {c c' : Controller σ ρ κ}
    (hNames : c'.names = c.names)
    (hPast : c'.past = c.past)
    (hGeneration :
      c'.feed.buffer.guard.generation ≠
        c.feed.buffer.guard.generation) :
    c.Succeeds c' where
  names := hNames
  past := Nat.le_of_eq (by rw [hPast])
  stale _ := by
    refine Or.inr ?_
    rw [c.generation_current, ← hPast, c'.generation_current]
    exact hGeneration

/- Any change that keeps the sources and aborts once. -/
theorem succeeds_of_abort_once
    {c c' : Controller σ ρ κ}
    (hNames : c'.names = c.names)
    (hPast : c'.past = c.past)
    (hGuard :
      c'.feed.buffer.guard = c.feed.buffer.guard.abort) :
    c.Succeeds c' := by
  refine succeeds_of_abort hNames hPast ?_
  rw [hGuard]
  simp [Guard.abort]

/- Any change that keeps the sources and the mode. -/
theorem succeeds_of_mode
    {c c' : Controller σ ρ κ}
    (hNames : c'.names = c.names)
    (hPast : c'.past.length = c.past.length)
    (hMode : c'.mode = c.mode) :
    c.Succeeds c' where
  names := hNames
  past := Nat.le_of_eq hPast.symm
  stale hPaged := Or.inl ⟨by rw [hMode, hPaged], hPast⟩

/- Any change that keeps the sources and shows pages. -/
theorem succeeds_of_paged
    {c c' : Controller σ ρ κ}
    (hNames : c'.names = c.names)
    (hPast : c'.past = c.past)
    (hMode : c'.mode = .pagination) :
    c.Succeeds c' where
  names := hNames
  past := Nat.le_of_eq (by rw [hPast])
  stale _ := Or.inl ⟨hMode, by rw [hPast]⟩

------------------------------------------------------------
-- Moves and Refreshes
------------------------------------------------------------

section Begin

variable (c : Controller σ ρ κ)

/- A table that paginates shows pages. -/
@[simp]
theorem mode_paginate :
    c.paginate.mode = .pagination := by
  unfold paginate
  split
  · next hPaged => simp [mode, hPaged]
  · rfl

/- Paginating changes neither place, names nor sources. -/
theorem paginate_parts :
    c.paginate.nav = c.nav ∧ c.paginate.names = c.names ∧
      c.paginate.past = c.past := by
  unfold paginate
  split <;> exact ⟨rfl, rfl, rfl⟩

/- The table that takes another page size. -/
def resized
    (pageSize : Nat) : Controller σ ρ κ :=
  { c with
    config := { c.config with pageSize := max pageSize 1 }
    feed :=
      { c.feed with
        buffer := c.buffer.setPageSize (max pageSize 1) } }

/- The table that takes another source. -/
def supplied
    (source : σ) : Controller σ ρ κ :=
  { c.teardown.clear with
    past := c.past ++ [c.clear.feed]
    feed := ⟨source, .empty c.config.pageSize c.config.maxLimit⟩ }

/- A source that is replaced is cleared. -/
theorem generation_of_supplied
    {c' : Controller σ ρ κ}
    {source : σ}
    (hPast : c'.past = (c.supplied source).past) :
    c'.generation c.past.length =
      c.feed.buffer.guard.generation + 1 := by
  have hFeed : c'.feedAt c.past.length = c.clear.feed := by
    unfold feedAt
    rw [hPast]
    unfold supplied
    simp
  unfold generation
  rw [hFeed, hPast, if_pos (by unfold supplied; simp)]
  rfl

/- What is in flight on a replaced source is stale. -/
theorem succeeds_of_supplied
    {c' : Controller σ ρ κ}
    (source : σ)
    (hNames : c'.names = c.names)
    (hPast : c'.past = (c.supplied source).past) :
    c.Succeeds c' where
  names := hNames
  past := by
    rw [hPast]
    unfold supplied
    simp
  stale _ := by
    refine Or.inr ?_
    rw [c.generation_of_supplied hPast, c.generation_current]
    simp

variable [Listing σ ρ κ]

/- A move aborts at once, and does nothing else. -/
@[simp]
theorem beginMove_fst
    (page : Nat)
    (anchor : Option κ)
    (records : Bool) :
    (c.beginMove page anchor records).1 = c.abort := by
  unfold beginMove
  dsimp only
  split <;> rfl

/- A move that can begin on the aborted buffer is left to do. -/
theorem beginMove_of_begin
    {key : ρ → κ}
    (hKey : c.key = key)
    {page : Nat}
    {anchor : Option κ}
    {f : Flight ρ κ}
    (records : Bool)
    (hBegin :
      c.abort.buffer.begin key (.move page anchor) = .ok f) :
    c.beginMove page anchor records =
      (c.abort, c.moving records f) := by
  have hSame : c.abort.key = key := hKey
  unfold Buffer.begin at hBegin
  unfold beginMove
  dsimp only at hBegin ⊢
  rw [hSame]
  revert hBegin
  cases c.abort.buffer.prepareMove key page with
  | ok m =>
      intro hBegin
      cases hBegin
      rfl
  | error e =>
      intro hBegin
      cases hBegin

/- Opening the recorded page aborts at once. -/
@[simp]
theorem beginRecorded_fst :
    c.beginRecorded.1 = c.abort :=
  c.beginMove_fst _ _ _

/- Only page 0 is refused without an abort. -/
theorem beginGoto_fst
    (page : Nat) :
    (c.beginGoto page).1 =
      if page = 0 then c.paginate else c.paginate.abort := by
  unfold beginGoto
  dsimp only
  split
  · rfl
  · exact c.paginate.beginMove_fst _ _ _

/- A table that goes to a page shows pages. -/
@[simp]
theorem mode_beginGoto
    (page : Nat) :
    (c.beginGoto page).1.mode = .pagination := by
  rw [beginGoto_fst]
  split <;> exact c.mode_paginate

/- Going to a page changes neither place, names nor sources. -/
theorem beginGoto_parts
    (page : Nat) :
    (c.beginGoto page).1.nav = c.nav ∧
      (c.beginGoto page).1.names = c.names ∧
      (c.beginGoto page).1.past = c.past := by
  rw [beginGoto_fst]
  split <;> exact c.paginate_parts

/- What a change of the page size does next. -/
theorem beginSetPageSize_eq
    (pageSize : Nat) :
    c.beginSetPageSize pageSize =
      match c.strategy with
      | .paged =>
          (c.resized pageSize).beginGoto
            (c.window.absoluteStart / max pageSize 1 + 1)
      | .live _ => (c.resized pageSize).beginMove 1 none false
      | .unmounted => (c.resized pageSize, .ended .discarded) :=
  rfl

/- What a replacement of the source does next. -/
theorem beginReplace_eq
    (now : Nat)
    (source : σ) :
    c.beginReplace now source =
      match c.mode with
      | .pagination => (c.supplied source).forgetPlace.beginGoto 1
      | .autoRefresh => (c.supplied source).beginLive now
      | .unmounted => (c.supplied source, .ended .discarded) :=
  rfl

end Begin

------------------------------------------------------------
-- Whatever Is Asked
------------------------------------------------------------

section Undertake

variable [Listing σ ρ κ]

/- Going to a page is a change of its kind. -/
theorem succeeds_beginGoto
    (c : Controller σ ρ κ)
    (page : Nat) :
    c.Succeeds (c.beginGoto page).1 := by
  rcases c.beginGoto_parts page with ⟨-, hNames, hPast⟩
  exact succeeds_of_paged hNames hPast (c.mode_beginGoto page)

/- So is going live, which aborts twice. -/
theorem succeeds_beginLive
    (now : Nat)
    (c : Controller σ ρ κ) :
    c.Succeeds (c.beginLive now).1 := by
  refine succeeds_of_abort rfl rfl ?_
  show c.feed.buffer.guard.generation + 1 + 1 ≠ _
  simp [UInt64.add_assoc]

/- So is a reload, in whatever mode. -/
theorem succeeds_beginRefresh
    (c : Controller σ ρ κ) :
    c.Succeeds c.beginRefresh.1 := by
  unfold beginRefresh
  split
  · exact succeeds_of_abort_once rfl rfl rfl
  · rw [beginRecorded_fst]
    refine succeeds_of_abort rfl rfl ?_
    show c.feed.buffer.guard.generation + 1 + 1 ≠ _
    simp [UInt64.add_assoc]
  · exact succeeds_of_mode rfl rfl rfl

/- So is a change of the page size. -/
theorem succeeds_beginSetPageSize
    (c : Controller σ ρ κ)
    (pageSize : Nat) :
    c.Succeeds (c.beginSetPageSize pageSize).1 := by
  rw [beginSetPageSize_eq]
  split
  · let page := c.window.absoluteStart / max pageSize 1 + 1
    rcases (c.resized pageSize).beginGoto_parts page with
      ⟨-, hNames, hPast⟩
    exact succeeds_of_paged hNames hPast (mode_beginGoto _ page)
  · rw [beginMove_fst]
    exact succeeds_of_abort_once rfl rfl rfl
  · exact succeeds_of_mode rfl rfl rfl

/- So is a replacement of the source. -/
theorem succeeds_beginReplace
    (now : Nat)
    (c : Controller σ ρ κ)
    (source : σ) :
    c.Succeeds (c.beginReplace now source).1 := by
  rw [beginReplace_eq]
  split
  · rcases (c.supplied source).forgetPlace.beginGoto_parts 1 with
      ⟨-, hNames, hPast⟩
    exact c.succeeds_of_supplied source hNames hPast
  · exact c.succeeds_of_supplied source rfl rfl
  · exact c.succeeds_of_supplied source rfl rfl

/- Whatever is asked of a table is a change of its kind. -/
theorem succeeds_undertake
    (now : Nat)
    (c : Controller σ ρ κ)
    (errand : Errand σ) :
    c.Succeeds (c.undertake now errand).1 := by
  cases errand with
  | mount =>
      show c.Succeeds (c.beginMount now).1
      unfold beginMount
      split
      · rw [beginRecorded_fst]
        exact succeeds_of_abort_once rfl rfl rfl
      · exact c.succeeds_beginLive now
  | unmount => exact succeeds_of_abort_once rfl rfl rfl
  | live => exact c.succeeds_beginLive now
  | goto page => exact c.succeeds_beginGoto page
  | next => exact c.succeeds_beginGoto (c.currentPage + 1)
  | previous =>
      exact c.succeeds_beginGoto (max (c.currentPage - 1) 1)
  | refresh => exact c.succeeds_beginRefresh
  | togglePause =>
      show c.Succeeds (c.togglePause now).1
      unfold togglePause
      split
      · next hLive =>
          exact succeeds_of_mode rfl rfl (by simp [mode, hLive])
      · exact succeeds_of_mode rfl rfl rfl
  | resume =>
      show c.Succeeds (c.resume now)
      unfold resume
      split
      · next hLive =>
          exact succeeds_of_mode rfl rfl (by simp [mode, hLive])
      · exact succeeds_of_mode rfl rfl rfl
  | setPageSize pageSize =>
      exact c.succeeds_beginSetPageSize pageSize
  | replace source => exact c.succeeds_beginReplace now source

------------------------------------------------------------
-- The Recorded Place
------------------------------------------------------------

/-
  Whether an operation removes the recorded place: it goes live,
  or it replaces the source of a mounted table.
-/
def Forgets
    (c : Controller σ ρ κ) : Errand σ → Prop
  | .mount => c.navState.isAnchored = false
  | .live => True
  | .replace _ => c.mode ≠ .unmounted
  | _ => False

/- Only such operations touch the parameters. -/
theorem nav_undertake_of_forgets
    {now : Nat}
    {c : Controller σ ρ κ}
    {errand : Errand σ}
    (hForgets : c.Forgets errand) :
    (c.undertake now errand).1.nav = c.forgetPlace.nav := by
  cases errand with
  | mount =>
      show (c.beginMount now).1.nav = _
      unfold beginMount
      rw [if_neg (by rw [hForgets]; decide)]
      rfl
  | live => rfl
  | replace source =>
      show (c.beginReplace now source).1.nav = _
      rw [beginReplace_eq]
      split
      · exact ((c.supplied source).forgetPlace.beginGoto_parts 1).1
      · rfl
      · next hMode => exact absurd hMode hForgets
  | _ => exact absurd hForgets id

/- Any other operation leaves the parameters alone at once. -/
theorem nav_undertake_of_not_forgets
    {now : Nat}
    {c : Controller σ ρ κ}
    {errand : Errand σ}
    (hKeeps : ¬c.Forgets errand) :
    (c.undertake now errand).1.nav = c.nav := by
  cases errand with
  | mount =>
      show (c.beginMount now).1.nav = _
      unfold beginMount
      rw [if_pos (by simpa [Forgets] using hKeeps),
        beginRecorded_fst]
      rfl
  | unmount => rfl
  | live => exact absurd trivial hKeeps
  | goto page => exact (c.beginGoto_parts page).1
  | next => exact (c.beginGoto_parts (c.currentPage + 1)).1
  | previous =>
      exact (c.beginGoto_parts (max (c.currentPage - 1) 1)).1
  | refresh =>
      show c.beginRefresh.1.nav = _
      unfold beginRefresh
      split
      · rfl
      · rw [beginRecorded_fst]
        rfl
      · rfl
  | togglePause =>
      show (c.togglePause now).1.nav = _
      unfold togglePause
      split <;> rfl
  | resume =>
      show (c.resume now).nav = _
      unfold resume
      split <;> rfl
  | setPageSize pageSize =>
      show (c.beginSetPageSize pageSize).1.nav = _
      rw [beginSetPageSize_eq]
      split
      · exact ((c.resized pageSize).beginGoto_parts _).1
      · rw [beginMove_fst]
        rfl
      · rfl
  | replace source =>
      show (c.beginReplace now source).1.nav = _
      have hMode : c.mode = .unmounted :=
        Decidable.not_not.mp hKeeps
      rw [beginReplace_eq, hMode]
      rfl

/- How a table is shown after an operation. -/
def modeAfter
    (c : Controller σ ρ κ) : Errand σ → PagerMode
  | .mount =>
      if c.navState.isAnchored then .pagination else .autoRefresh
  | .unmount => .unmounted
  | .live => .autoRefresh
  | .goto _ | .next | .previous => .pagination
  | _ => c.mode

/- It is shown so at once. -/
theorem mode_undertake
    (now : Nat)
    (c : Controller σ ρ κ)
    (errand : Errand σ) :
    (c.undertake now errand).1.mode = c.modeAfter errand := by
  cases errand with
  | mount =>
      show (c.beginMount now).1.mode = _
      unfold beginMount modeAfter
      split
      · rw [beginRecorded_fst]
        rfl
      · rfl
  | unmount => rfl
  | live => rfl
  | goto page => exact c.mode_beginGoto page
  | next => exact c.mode_beginGoto (c.currentPage + 1)
  | previous =>
      exact c.mode_beginGoto (max (c.currentPage - 1) 1)
  | refresh =>
      show c.beginRefresh.1.mode = c.mode
      unfold beginRefresh
      split
      · rfl
      · rw [beginRecorded_fst]
        rfl
      · rfl
  | togglePause =>
      show (c.togglePause now).1.mode = c.mode
      unfold togglePause
      split
      · next hView => simp [mode, hView]
      · rfl
  | resume =>
      show (c.resume now).mode = c.mode
      unfold resume
      split
      · next hView => simp [mode, hView]
      · rfl
  | setPageSize pageSize =>
      show (c.beginSetPageSize pageSize).1.mode = c.mode
      rw [beginSetPageSize_eq]
      split
      · next hPaged =>
          rw [mode_beginGoto]
          simp [mode, hPaged]
      · rw [beginMove_fst]
        rfl
      · rfl
  | replace source =>
      show (c.beginReplace now source).1.mode = c.mode
      rw [beginReplace_eq]
      split
      · next hPaged => rw [mode_beginGoto, hPaged]
      · next hLive => exact hLive.symm
      · next hUnmounted => exact hUnmounted.symm

/- A table goes live only by removing its place. -/
theorem live_of_undertake
    {now : Nat}
    {c : Controller σ ρ κ}
    {errand : Errand σ}
    (hLive : (c.undertake now errand).1.mode = .autoRefresh)
    (hKeeps : ¬c.Forgets errand) :
    c.mode = .autoRefresh := by
  rw [mode_undertake] at hLive
  cases errand with
  | mount =>
      have hAnchored : c.navState.isAnchored = true := by
        simpa [Forgets] using hKeeps
      unfold modeAfter at hLive
      rw [if_pos hAnchored] at hLive
      cases hLive
  | live => exact absurd trivial hKeeps
  | replace source =>
      have hMode : c.mode = .unmounted :=
        Decidable.not_not.mp hKeeps
      exact nomatch hMode.symm.trans hLive
  | unmount | goto _ | next | previous => exact nomatch hLive
  | _ => exact hLive

end Undertake

end Controller

------------------------------------------------------------
-- Moves That Are Left
------------------------------------------------------------

/-
  What holds of a move that has just been begun: it was planned
  now, on the source in use, and its page is recorded only if
  the table shows pages.
-/
def Begun.DueOn
    (c : Controller σ ρ κ) : Begun ρ κ → Prop
  | .moving m =>
      m.feed = c.past.length ∧
        (∃ key, m.flight.plan = c.buffer.plan key) ∧
        (m.records = true → c.mode = .pagination)
  | _ => True

namespace Controller

variable [Listing σ ρ κ] (c : Controller σ ρ κ)

/- A move is due, if only paged tables record it. -/
theorem due_beginMove
    (page : Nat)
    (anchor : Option κ)
    {records : Bool}
    (hRecords : records = true → c.mode = .pagination) :
    (c.beginMove page anchor records).2.DueOn c.abort := by
  unfold beginMove
  dsimp only
  split
  · next m hPrepare =>
      refine ⟨rfl, ⟨c.abort.key, ?_⟩, hRecords⟩
      rw [PreparedMove.begin_plan,
        Buffer.plan_of_prepareMove hPrepare]
  · trivial

/- A refresh is due; nothing is recorded. -/
theorem due_beginNewest :
    c.beginNewest.2.DueOn c.abort := by
  refine ⟨rfl, ⟨c.abort.key, ?_⟩, fun hRecords => nomatch hRecords⟩
  show (c.abort.buffer.beginRefresh c.abort.key).plan = _
  unfold Buffer.beginRefresh
  dsimp only
  split <;> rfl

/- A move to a page is due. -/
theorem due_beginGoto
    (page : Nat) :
    (c.beginGoto page).2.DueOn (c.beginGoto page).1 := by
  unfold beginGoto
  dsimp only
  split
  · trivial
  · rw [beginMove_fst]
    exact c.paginate.due_beginMove page none
      fun _ => c.mode_paginate

/- So is the refresh of a table that is mounted, or its move. -/
theorem due_beginMount
    (now : Nat) :
    (c.beginMount now).2.DueOn (c.beginMount now).1 := by
  unfold beginMount
  split
  · rw [beginRecorded_fst]
    exact due_beginMove _ _ _ fun _ => rfl
  · exact due_beginNewest _

/- So is what a table begins when it is refreshed. -/
theorem due_beginRefresh :
    c.beginRefresh.2.DueOn c.beginRefresh.1 := by
  unfold beginRefresh
  split
  · exact c.due_beginNewest
  · next hPaged =>
      rw [beginRecorded_fst]
      refine c.clear.due_beginMove _ _ fun _ => ?_
      show c.mode = .pagination
      simp [mode, hPaged]
  · trivial

/- So is what it begins with another page size. -/
theorem due_beginSetPageSize
    (pageSize : Nat) :
    (c.beginSetPageSize pageSize).2.DueOn
      (c.beginSetPageSize pageSize).1 := by
  rw [beginSetPageSize_eq]
  split
  · exact due_beginGoto _ _
  · rw [beginMove_fst]
    exact due_beginMove _ _ _ fun hRecords => nomatch hRecords
  · trivial

/- So is what it begins with another source. -/
theorem due_beginReplace
    (now : Nat)
    (source : σ) :
    (c.beginReplace now source).2.DueOn
      (c.beginReplace now source).1 := by
  rw [beginReplace_eq]
  split
  · exact due_beginGoto _ _
  · exact due_beginNewest _
  · trivial

/- Whatever is asked of a table, the move it leaves is due. -/
theorem due_undertake
    {now : Nat}
    {errand : Errand σ}
    {begun : Begun ρ κ}
    (hBegun : (c.undertake now errand).2 = some begun) :
    begun.DueOn (c.undertake now errand).1 := by
  cases errand with
  | mount =>
      cases hBegun
      exact c.due_beginMount now
  | unmount => cases hBegun
  | live =>
      cases hBegun
      exact due_beginNewest _
  | goto page =>
      cases hBegun
      exact c.due_beginGoto page
  | next =>
      cases hBegun
      exact c.due_beginGoto (c.currentPage + 1)
  | previous =>
      cases hBegun
      exact c.due_beginGoto (max (c.currentPage - 1) 1)
  | refresh =>
      cases hBegun
      exact c.due_beginRefresh
  | togglePause => cases hBegun
  | resume => cases hBegun
  | setPageSize pageSize =>
      cases hBegun
      exact c.due_beginSetPageSize pageSize
  | replace source =>
      cases hBegun
      exact c.due_beginReplace now source

end Controller

------------------------------------------------------------
-- Ticks
------------------------------------------------------------

namespace Controller

/-
  What timers and loads leave alone: the names, the parameters,
  the mode, and how many sources there were.
-/
structure Resembles
    (c c' : Controller σ ρ κ) : Prop where
  names : c'.names = c.names
  nav : c'.nav = c.nav
  mode : c'.mode = c.mode
  past : c'.past.length = c.past.length

/- A change of that kind is a change that supersedes nothing. -/
theorem Resembles.succeeds
    {c c' : Controller σ ρ κ}
    (hSame : c.Resembles c') :
    c.Succeeds c' :=
  succeeds_of_mode hSame.names hSame.past hSame.mode

/- Whatever feed is changed, the rest of the table stays. -/
theorem resembles_setFeedAt
    (c : Controller σ ρ κ)
    (n : Nat)
    (feed : Feed σ ρ) :
    c.Resembles (c.setFeedAt n feed) := by
  unfold setFeedAt
  split
  · exact ⟨rfl, rfl, rfl, List.length_set⟩
  · exact ⟨rfl, rfl, rfl, rfl⟩

variable [Listing σ ρ κ]

/- So does a tick that begins. -/
theorem resembles_beginTick
    (c : Controller σ ρ κ) :
    c.Resembles c.beginTick := by
  unfold beginTick
  split
  · next hLive =>
      exact ⟨rfl, rfl, by simp [mode, hLive], rfl⟩
  · exact ⟨rfl, rfl, rfl, rfl⟩

/- So does a tick that takes rows. -/
theorem resembles_feedTick
    (c : Controller σ ρ κ)
    (rows : List ρ) :
    c.Resembles (TableTraffic.feedTick c rows) := by
  unfold TableTraffic.feedTick
  split
  · next hLive =>
      split
      · exact ⟨rfl, rfl, by simp [mode, hLive], rfl⟩
      · exact ⟨rfl, rfl, rfl, rfl⟩
  · exact ⟨rfl, rfl, rfl, rfl⟩

variable [DecidableEq κ]

/- So does a tick that ends. -/
theorem resembles_endTick
    (c : Controller σ ρ κ)
    (loaded : Option (Flight ρ κ)) :
    c.Resembles (c.endTick loaded) := by
  unfold endTick
  split
  · next hLive =>
      exact ⟨rfl, rfl, by simp [mode, hLive], rfl⟩
  · exact ⟨rfl, rfl, rfl, rfl⟩

------------------------------------------------------------
-- Ends of Moves
------------------------------------------------------------

/- The place that a table shows. -/
def visiblePlace
    (c : Controller σ ρ κ) : NavState :=
  { page := some c.currentPage
    key := c.window.firstVisible.map fun row =>
      Listing.write c.feed.source
        (Listing.key c.feed.source row) }

omit [DecidableEq κ] in
/- It depends on the window and the source. -/
theorem visiblePlace_congr
    {c c' : Controller σ ρ κ}
    (hWindow : c'.window = c.window)
    (hSource : c'.feed.source = c.feed.source) :
    c'.visiblePlace = c.visiblePlace := by
  unfold visiblePlace currentPage
  rw [hWindow, hSource]

variable (c : Controller σ ρ κ) (m : Move ρ κ)

/- A move ends as its buffer decides. -/
theorem finish_snd :
    (c.finish m).2 =
      ((c.feedAt m.feed).buffer.commit
        (Listing.key (c.feedAt m.feed).source) m.flight).2 := by
  unfold finish
  dsimp only
  split <;> rfl

/- The end of a move does not change how the table is shown. -/
theorem finish_parts :
    (c.finish m).1.names = c.names ∧
      (c.finish m).1.mode = c.mode ∧
      (c.finish m).1.past.length = c.past.length := by
  let ended := (c.feedAt m.feed).buffer.commit
    (Listing.key (c.feedAt m.feed).source) m.flight
  have hSame := c.resembles_setFeedAt m.feed
    { c.feedAt m.feed with buffer := ended.1 }
  unfold finish
  dsimp only
  split <;> exact ⟨hSame.names, hSame.mode, hSame.past⟩

/- Nor the way in which it is, with its timer. -/
theorem strategy_finish :
    (c.finish m).1.strategy = c.strategy := by
  have hSame (n : Nat) (feed : Feed σ ρ) :
      (c.setFeedAt n feed).strategy = c.strategy := by
    unfold setFeedAt
    split <;> rfl
  unfold finish
  dsimp only
  split <;> exact hSame _ _

/- The end of a move on another source leaves the feed alone. -/
theorem finish_past
    (hFeed : m.feed < c.past.length) :
    (c.finish m).1.feed = c.feed := by
  unfold finish
  dsimp only
  unfold setFeedAt
  rw [if_pos hFeed]
  split <;> rfl

/- The end of a move on the source in use edits its buffer. -/
theorem finish_feed
    (hFeed : m.feed = c.past.length) :
    (c.finish m).1.past = c.past ∧
      (c.finish m).1.feed.source = c.feed.source ∧
      (c.finish m).1.feed.buffer =
        (c.feed.buffer.commit (Listing.key c.feed.source)
          m.flight).1 := by
  unfold finish
  dsimp only
  rw [hFeed, feedAt_current]
  unfold setFeedAt
  rw [if_neg (Nat.lt_irrefl _)]
  split <;> exact ⟨rfl, rfl, rfl⟩

/- A move that is not recorded leaves the parameters alone. -/
theorem nav_finish_of_not_recorded
    (hNot : ¬(m.records = true ∧ (c.finish m).2 = .committed)) :
    (c.finish m).1.nav = c.nav := by
  let ended := (c.feedAt m.feed).buffer.commit
    (Listing.key (c.feedAt m.feed).source) m.flight
  have hSame := c.resembles_setFeedAt m.feed
    { c.feedAt m.feed with buffer := ended.1 }
  rw [finish_snd] at hNot
  unfold finish
  dsimp only
  split
  · next hRecords hOutcome =>
      exact absurd ⟨hRecords, hOutcome⟩ hNot
  · exact hSame.nav

/-
  A committed move on the source in use records the place that
  the table then shows.
-/
theorem nav_finish_of_recorded
    (hFeed : m.feed = c.past.length)
    (hRecords : m.records = true)
    (hOutcome : (c.finish m).2 = .committed) :
    (c.finish m).1.nav =
      (c.finish m).1.visiblePlace.write c.nav c.names := by
  rw [finish_snd] at hOutcome
  unfold finish
  dsimp only
  rw [hRecords, hOutcome]
  dsimp only
  rw [hFeed, feedAt_current]
  unfold setFeedAt record visiblePlace
  rw [if_neg (Nat.lt_irrefl _)]
  rfl

end Controller

------------------------------------------------------------
-- Steps
------------------------------------------------------------

namespace TableTraffic

/- An event that concerns no promise. -/
def Event.Passive : Event σ ρ → Prop
  | .tick | .answerTick _ | .finishTick | .source _ _ => True
  | _ => False

variable [Listing σ ρ κ] [DecidableEq κ]

/- What can become of a table and its promises in a step. -/
inductive Stride
    (s : TableTraffic σ ρ κ) :
    Event σ ρ → TableTraffic σ ρ κ → Prop where
  | ask (now : Nat) (errand : Errand σ) :
      Stride s (.ask now errand)
        { s.become (s.table.undertake now errand).1 with
          promises := s.promises ++
            ((s.table.undertake now errand).2.map
              Begun.promise).toList }
  | answer (place : Nat) (m : Move ρ κ) (reply : Reply ρ)
      (hMove : s.promises[place]? = some (.pending m))
      (hOpen : m.flight.load.isDone = false) :
      Stride s (.answer place reply) (s.answerMove place m reply)
  | finish (place : Nat) (m : Move ρ κ)
      (hMove : s.promises[place]? = some (.pending m))
      (hDone : m.flight.load.isDone = true) :
      Stride s (.finish place) (s.finishMove place m)
  | drop (place : Nat) :
      Stride s (.drop place) (s.resolve place .dropped)
  | time (event : Event σ ρ) (c : Controller σ ρ κ)
      (hPassive : event.Passive)
      (hSame : s.table.Resembles c) :
      Stride s event (s.become c)
  | idle (event : Event σ ρ)
      (hAsk : ∀ now errand, event ≠ .ask now errand) :
      Stride s event s

/- Nothing else can. -/
theorem stride_step
    (s : TableTraffic σ ρ κ)
    (event : Event σ ρ) :
    Stride s event (s.step event) := by
  unfold step
  cases event with
  | ask now errand => exact .ask now errand
  | answer place reply =>
      dsimp only
      split
      · next m hMove =>
          split
          · exact .idle _ fun _ _ hSame => nomatch hSame
          · next hOpen =>
              exact .answer place m reply hMove
                (Bool.eq_false_iff.mpr hOpen)
      · exact .idle _ fun _ _ hSame => nomatch hSame
  | finish place =>
      dsimp only
      split
      · next m hMove =>
          split
          · next hDone => exact .finish place m hMove hDone
          · exact .idle _ fun _ _ hSame => nomatch hSame
      · exact .idle _ fun _ _ hSame => nomatch hSame
  | drop place =>
      dsimp only
      split
      · exact .drop place
      · exact .idle _ fun _ _ hSame => nomatch hSame
  | tick =>
      exact .time _ _ trivial s.table.resembles_beginTick
  | answerTick reply =>
      dsimp only
      split
      · split
        · exact .idle _ fun _ _ hSame => nomatch hSame
        · split
          · exact .time _ _ trivial (s.table.resembles_feedTick _)
          · exact .time _ _ trivial (s.table.resembles_endTick _)
      · exact .idle _ fun _ _ hSame => nomatch hSame
  | finishTick =>
      dsimp only
      split
      · split
        · exact .time _ _ trivial (s.table.resembles_endTick _)
        · exact .idle _ fun _ _ hSame => nomatch hSame
      · exact .idle _ fun _ _ hSame => nomatch hSame
  | source feed next =>
      exact .time _ _ trivial
        (s.table.resembles_setFeedAt feed _)

end TableTraffic

end LedgerView
