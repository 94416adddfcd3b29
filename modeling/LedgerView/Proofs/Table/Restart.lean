import LedgerView.Proofs.Buffer.Edit
import LedgerView.Proofs.Table.Landing

/-
  Tables that start over.

  A table that goes live, and a mounted table whose source is
  replaced, forget all rows and load the newest ones.  Whatever
  they showed before, they then show the first page of what
  their source gives, or nothing if the load fails.

  Key definitions include:
    * `Buffer.newestRows`
    * `Window.Blank`
    * `Controller.StartsOver`

  Key theorems include:
    * `Controller.startsOver_beginLive`
    * `Controller.startsOver_beginReplace`
-/

namespace LedgerView

variable {σ ρ κ : Type}

------------------------------------------------------------
-- The Newest Rows
------------------------------------------------------------

/- The rows of the first page, as a source gives them. -/
def Buffer.newestRows
    (key : ρ → κ)
    (ask : σ → ListQuery κ → Reply ρ × σ)
    (source : σ)
    (b : Buffer ρ) : List ρ :=
  match (Load.below none b.window.pageSize false).run key
      b.maxLimit b.maxLimit_pos ask source with
  | (.ok loaded, _) => loaded.rows
  | (.error _, _) => []

/- They are what is loaded, -/
theorem Buffer.newestRows_of_run
    {key : ρ → κ}
    {ask : σ → ListQuery κ → Reply ρ × σ}
    {source later : σ}
    {b : Buffer ρ}
    {loaded : Load ρ κ}
    (hRun :
      (Load.below none b.window.pageSize false).run key b.maxLimit
        b.maxLimit_pos ask source = (.ok loaded, later)) :
    b.newestRows key ask source = loaded.rows := by
  unfold newestRows
  rw [hRun]

/- and none if the load fails. -/
theorem Buffer.newestRows_of_error
    {key : ρ → κ}
    {ask : σ → ListQuery κ → Reply ρ × σ}
    {source later : σ}
    {b : Buffer ρ}
    {e : SourceError}
    (hRun :
      (Load.below none b.window.pageSize false).run key b.maxLimit
        b.maxLimit_pos ask source = (.error e, later)) :
    b.newestRows key ask source = [] := by
  unfold newestRows
  rw [hRun]

/- They depend on the sizes of the page and of a query. -/
theorem Buffer.newestRows_congr
    (key : ρ → κ)
    (ask : σ → ListQuery κ → Reply ρ × σ)
    (source : σ)
    {b b' : Buffer ρ}
    (hSize : b'.window.pageSize = b.window.pageSize)
    (hLimit : b'.maxLimit = b.maxLimit) :
    b'.newestRows key ask source =
      b.newestRows key ask source := by
  rcases b with ⟨w, _, _, _, limit, hPos⟩
  rcases b' with ⟨w', _, _, _, limit', hPos'⟩
  dsimp only at hSize hLimit
  unfold newestRows
  dsimp only
  subst hLimit
  rw [hSize]

/- Whether a window holds nothing, and hides nothing. -/
structure Window.Blank
    (w : Window ρ) : Prop where
  rows : w.rows = []
  startIndex : w.startIndex = 0
  shadow : w.shadow = 0

namespace Controller

/- Whether a table shows the newest rows of a source. -/
structure StartsOver
    (key : ρ → κ)
    (ask : σ → ListQuery κ → Reply ρ × σ)
    (source : σ)
    (c : Controller σ ρ κ) : Prop where
  rows : c.window.rows = c.buffer.newestRows key ask source
  startIndex : c.window.startIndex = 0
  shadow : c.window.shadow = 0

variable {key : ρ → κ}
variable {ask : σ → ListQuery κ → Reply ρ × σ}

/- It shows the first page. -/
theorem StartsOver.currentPage
    {source : σ}
    {c : Controller σ ρ κ}
    (hStarts : c.StartsOver key ask source) :
    c.currentPage = 1 := by
  unfold Controller.currentPage Window.currentPage
    Window.absoluteStart
  rw [hStarts.startIndex, hStarts.shadow]
  simp [saturate, maxWord]

/- Its page begins with the newest row. -/
theorem StartsOver.firstVisible
    {source : σ}
    {c : Controller σ ρ κ}
    (hStarts : c.StartsOver key ask source)
    (hSize : 0 < c.window.pageSize) :
    c.window.firstVisible =
      (c.buffer.newestRows key ask source).head? := by
  unfold Window.firstVisible Window.pageRows
  rw [hStarts.startIndex, hStarts.rows, List.drop_zero,
    List.head?_take, if_neg (Nat.ne_of_gt hSize)]

------------------------------------------------------------
-- Loading the Newest Rows
------------------------------------------------------------

variable [Listing σ ρ κ] [DecidableEq κ]

/-
  A move that loads the newest rows into a blank window shows
  them from the first one on.
-/
theorem startsOver_completeMove
    (hKey : ∀ source : σ, Listing.key source = key)
    {c : Controller σ ρ κ}
    {edit : Edit}
    (records : Bool)
    (hBlank : c.window.Blank)
    (hStart : ∀ loaded,
      (edit.apply key loaded c.window).rows = loaded ∧
        (edit.apply key loaded c.window).startIndex = 0 ∧
        (edit.apply key loaded c.window).shadow = 0) :
    let ended := (c.completeMove ask
      ⟨c.past.length, records, c.buffer.plan key, edit,
        .below none c.window.pageSize false⟩).1
    ended.mode = c.mode ∧
      ended.StartsOver key ask c.feed.source := by
  intro ended
  rcases hRun : (Load.below none c.window.pageSize false).run key
    c.buffer.maxLimit c.buffer.maxLimit_pos ask c.feed.source with
    ⟨result, later⟩
  cases result with
  | error e =>
      have hEnded :
          ended =
            { c with feed := { c.feed with source := later } } :=
        congrArg Prod.fst
          (completeMove_of_error hKey records hRun)
      rw [hEnded]
      have hNewest := Buffer.newestRows_of_error hRun
      exact ⟨rfl, hBlank.rows.trans hNewest.symm,
        hBlank.startIndex, hBlank.shadow⟩
  | ok loaded =>
      let w := edit.apply key loaded.rows c.window
      have hEnded : ended = c.landed records later w :=
        congrArg Prod.fst
          (completeMove_of_run hKey records hRun)
      have hBuffer : ended.buffer = c.buffer.publish w := by
        rw [hEnded]
        exact congrArg Feed.buffer
          (c.landed_parts records later w).1
      have hWindow : ended.window = w :=
        congrArg Buffer.window hBuffer
      rcases hStart loaded.rows with ⟨hRows, hFirst, hNone⟩
      refine ⟨?_, ?_, ?_, ?_⟩
      · rw [hEnded]
        exact c.mode_landed records later w
      · have hSame :
            ended.buffer.newestRows key ask c.feed.source =
              c.buffer.newestRows key ask c.feed.source := by
          rw [hBuffer]
          exact Buffer.newestRows_congr key ask c.feed.source
            (Edit.apply_pageSize key edit loaded.rows c.window)
            rfl
        rw [hWindow, hSame, Buffer.newestRows_of_run hRun]
        exact hRows
      · rw [hWindow]
        exact hFirst
      · rw [hWindow]
        exact hNone

/- A refresh of a blank window loads the newest rows. -/
theorem startsOver_beginNewest
    (hKey : ∀ source : σ, Listing.key source = key)
    {c : Controller σ ρ κ}
    (hBlank : c.window.Blank) :
    let ended := (perform ask c.beginNewest).1
    ended.mode = c.mode ∧
      ended.StartsOver key ask c.feed.source := by
  let size := c.abort.window.pageSize
  have hCourse :
      Course key c.abort.buffer.maxLimit c.abort.window .refresh
        (.newest size) (.below none size false) :=
    .newest (.inl hBlank.rows)
  have hBegin :
      c.abort.buffer.beginRefresh c.abort.key =
        ⟨c.abort.buffer.plan key, .newest size,
          .below none size false⟩ := by
    rw [show c.abort.key = key from hKey _]
    exact Except.ok.inj (Buffer.begin_of_course hCourse)
  unfold beginNewest moving
  dsimp only
  rw [hBegin]
  exact startsOver_completeMove (c := c.abort) hKey false
    ⟨hBlank.rows, hBlank.startIndex, hBlank.shadow⟩
    fun loaded => ⟨rfl, rfl, rfl⟩

/- So does going live, whatever was shown before. -/
theorem startsOver_beginLive
    (hKey : ∀ source : σ, Listing.key source = key)
    (now : Nat)
    (c : Controller σ ρ κ) :
    let ended := (perform ask (c.beginLive now)).1
    ended.mode = .autoRefresh ∧
      ended.StartsOver key ask c.feed.source := by
  unfold beginLive
  exact startsOver_beginNewest hKey ⟨rfl, rfl, rfl⟩

/- So does going to the first page with a blank window. -/
theorem startsOver_beginGoto_one
    (hKey : ∀ source : σ, Listing.key source = key)
    {c : Controller σ ρ κ}
    (hBlank : c.window.Blank)
    (hSize : c.window.pageSize ≤ maxWord) :
    let ended := (perform ask (c.beginGoto 1)).1
    ended.mode = .pagination ∧
      ended.StartsOver key ask c.feed.source := by
  let begun := c.paginate.abort
  have hFeed :
      begun.feed.source = c.feed.source ∧
        begun.window = c.window := by
    dsimp only [begun]
    unfold paginate
    split <;> exact ⟨rfl, rfl⟩
  have hBlankBegun : begun.window.Blank := by
    rw [hFeed.2]
    exact hBlank
  have hFirst : pageOffset 1 begun.window.pageSize = 0 :=
    Nat.zero_mul _
  have hExists : PageExists 1 begun.window.pageSize := by
    unfold PageExists
    rw [hFirst, Nat.zero_add, hFeed.2]
    exact hSize
  have hCourse :
      Course key begun.buffer.maxLimit begun.window
        (.move 1 none) _ _ :=
    .initial 1 hExists hBlankBegun.rows
  rw [hFirst, Nat.zero_add] at hCourse
  have hBegun :
      c.beginGoto 1 =
        (begun, .moving ⟨begun.past.length, true,
          begun.buffer.plan key,
          .initial 0 begun.window.pageSize,
          .below none begun.window.pageSize false⟩) :=
    c.paginate.beginMove_of_begin (hKey _) true
      (Buffer.begin_of_course hCourse)
  have hMode : begun.mode = .pagination := c.mode_paginate
  rw [hBegun, ← hMode, ← hFeed.1]
  refine startsOver_completeMove hKey true hBlankBegun
    fun loaded => ⟨rfl, ?_, rfl⟩
  show Window.clampStart _ 0 = 0
  unfold Window.clampStart
  simp

/-
  So does taking another source while the table is shown: a
  live table stays live, one of pages goes to the first page.
-/
theorem startsOver_beginReplace
    (hKey : ∀ source : σ, Listing.key source = key)
    (now : Nat)
    {c : Controller σ ρ κ}
    (source : σ)
    (hMounted : c.mode ≠ .unmounted)
    (hSize : max c.config.pageSize 1 ≤ maxWord) :
    let ended := (perform ask (c.beginReplace now source)).1
    ended.mode = c.mode ∧
      ended.StartsOver key ask source := by
  rw [beginReplace_eq]
  cases hMode : c.mode with
  | unmounted => exact absurd hMode hMounted
  | autoRefresh => exact startsOver_beginLive hKey now _
  | pagination =>
      exact startsOver_beginGoto_one (c := (c.supplied
        source).forgetPlace) hKey ⟨rfl, rfl, rfl⟩ hSize

end Controller

end LedgerView
