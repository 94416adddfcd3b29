import LedgerView.Proofs.Buffer.Edit
import LedgerView.Proofs.Table.Operation

/-
  The size of the pages of a table.

  Only a change of the page size, or of the source, gives a
  table pages of another size, and these are never empty.

  Key theorems include:
    * `Controller.pageSize_finish`
    * `Controller.pageSize_undertake`
-/

namespace LedgerView

variable {σ ρ κ : Type}

/- No end of an operation changes the page size. -/
theorem Buffer.pageSize_commit
    [DecidableEq κ]
    (key : ρ → κ)
    (b : Buffer ρ)
    (f : Flight ρ κ) :
    (b.commit key f).1.window.pageSize = b.window.pageSize := by
  unfold Buffer.commit
  split
  · exact Edit.apply_pageSize key f.edit f.load.rows b.window
  · rfl

namespace Controller

variable [Listing σ ρ κ]
variable {c : Controller σ ρ κ}

/- Going to a page does not change the window at once. -/
theorem window_beginGoto
    (c : Controller σ ρ κ)
    (page : Nat) :
    (c.beginGoto page).1.window = c.window := by
  have hPaginate : c.paginate.window = c.window := by
    unfold paginate
    split <;> rfl
  rw [beginGoto_fst]
  split <;> exact hPaginate

/- Nor does a tick when it begins. -/
theorem window_beginTick
    (c : Controller σ ρ κ) :
    c.beginTick.window = c.window := by
  have hBuffer (view : AutoRefresh ρ κ) :
      (view.beginTick c.key c.buffer).2.window =
        c.buffer.window := by
    unfold AutoRefresh.beginTick
    split <;> rfl
  unfold beginTick
  cases c.strategy with
  | live view => exact hBuffer view
  | _ => rfl

/- Nor does a tick when it takes rows. -/
theorem window_feedTick
    (c : Controller σ ρ κ)
    (rows : List ρ) :
    (TableTraffic.feedTick c rows).window = c.window := by
  unfold TableTraffic.feedTick
  split
  · split <;> rfl
  · rfl

/- No end of a tick changes the page size. -/
theorem pageSize_endTick
    [DecidableEq κ]
    (c : Controller σ ρ κ)
    (loaded : Option (Flight ρ κ)) :
    (c.endTick loaded).window.pageSize = c.window.pageSize := by
  have hBuffer (view : AutoRefresh ρ κ) :
      (view.endTick c.key c.buffer
        loaded).2.window.pageSize = c.buffer.window.pageSize := by
    unfold AutoRefresh.endTick
    split
    · cases loaded with
      | none => rfl
      | some f => exact c.buffer.pageSize_commit c.key f
    · rfl
  unfold endTick
  cases c.strategy with
  | live view => exact hBuffer view
  | _ => rfl

/- Nor does any end of a move. -/
theorem pageSize_finish
    [DecidableEq κ]
    (c : Controller σ ρ κ)
    (m : Move ρ κ) :
    (c.finish m).1.window.pageSize = c.window.pageSize := by
  by_cases hFeed : m.feed < c.past.length
  · unfold Controller.window
    rw [c.finish_past m hFeed]
  · unfold finish
    dsimp only
    rw [c.feedAt_of_le (Nat.not_lt.mp hFeed)]
    unfold setFeedAt
    rw [if_neg hFeed]
    split <;> exact Buffer.pageSize_commit _ _ m.flight

/- The pages of another source are not empty. -/
theorem pageSize_beginReplace
    (now : Nat)
    (c : Controller σ ρ κ)
    (source : σ) :
    1 ≤ (c.beginReplace now source).1.window.pageSize := by
  have hSize : 1 ≤ (c.supplied source).window.pageSize :=
    Nat.le_max_right _ _
  rw [beginReplace_eq]
  split
  · rw [window_beginGoto]
    exact hSize
  · exact hSize
  · exact hSize

/- Whatever is asked of a table, its pages are not empty. -/
theorem pageSize_undertake
    (now : Nat)
    (hPage : 1 ≤ c.window.pageSize)
    (errand : Errand σ) :
    1 ≤ (c.undertake now errand).1.window.pageSize := by
  cases errand with
  | mount =>
      show 1 ≤ (c.beginMount now).1.window.pageSize
      unfold beginMount
      split
      · rw [beginRecorded_fst]
        exact hPage
      · exact hPage
  | unmount => exact hPage
  | live => exact hPage
  | goto page =>
      show 1 ≤ (c.beginGoto page).1.window.pageSize
      rw [window_beginGoto]
      exact hPage
  | next =>
      show 1 ≤ (c.beginGoto (c.currentPage + 1)).1.window.pageSize
      rw [window_beginGoto]
      exact hPage
  | previous =>
      show 1 ≤ (c.beginGoto
        (max (c.currentPage - 1) 1)).1.window.pageSize
      rw [window_beginGoto]
      exact hPage
  | refresh =>
      show 1 ≤ c.beginRefresh.1.window.pageSize
      unfold beginRefresh
      split
      · exact hPage
      · rw [beginRecorded_fst]
        exact hPage
      · exact hPage
  | togglePause =>
      show 1 ≤ (c.togglePause now).1.window.pageSize
      unfold togglePause
      split <;> exact hPage
  | resume =>
      show 1 ≤ (c.resume now).window.pageSize
      unfold resume
      split <;> exact hPage
  | setPageSize pageSize =>
      have hSize : 1 ≤ (c.resized pageSize).window.pageSize :=
        Nat.le_max_right _ _
      show 1 ≤ (c.beginSetPageSize pageSize).1.window.pageSize
      rw [beginSetPageSize_eq]
      split
      · rw [window_beginGoto]
        exact hSize
      · rw [beginMove_fst]
        exact hSize
      · exact hSize
  | replace source => exact c.pageSize_beginReplace now source

end Controller

end LedgerView
