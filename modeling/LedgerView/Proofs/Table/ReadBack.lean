import LedgerView.Proofs.Nav.Query
import LedgerView.Proofs.Table.Anew
import LedgerView.Proofs.Table.Reopen
import LedgerView.Proofs.Table.Shown

/-
  Whether a table reads back what it has recorded.

  A table records the number of the page that it shows, whatever
  that is, but reads no number greater than the last that links
  may name.  Whatever was done with a table, and whatever its
  source answered, a page whose number is no greater is read back
  and opened again at its first row.  A greater number is refused
  together with the key, so that the place is lost.

  Key definitions include:
    * `Scribe`
    * `Chore`
    * `Controller.carryOut`
    * `Controller.chores`
    * `Controller.Undertaking`
    * `Controller.OpensAgain`

  Key theorems include:
    * `NavState.read_write_eq_iff`
    * `Course.place_le`
    * `Controller.usable_chores`
    * `Controller.undertaking_undertake`
    * `Controller.exists_move_of_committed`
    * `Controller.recorded_place_reads_back_iff`
-/

namespace LedgerView

variable {σ ρ κ : Type}

------------------------------------------------------------
-- Places That Are Read
------------------------------------------------------------

/- A number of a page is read within its bounds, or refused. -/
theorem parsePage_cases
    (text : String) :
    (∃ page, parsePage text = .ok page ∧ 1 ≤ page ∧
      page ≤ maxPage) ∨
      parsePage text = .error (.invalidPage text) := by
  unfold parsePage
  split
  · next page _ =>
      split
      · next hBounds => exact .inl ⟨page, rfl, hBounds⟩
      · exact .inr rfl
  · exact .inr rfl

/- A number that is too great is refused. -/
theorem parsePage_of_gt
    {page : Nat}
    (hBeyond : maxPage < page) :
    parsePage (toString page) =
      .error (.invalidPage (toString page)) := by
  rcases parsePage_cases (toString page) with
    ⟨other, hRead, -, hLast⟩ | hRefused
  · rw [eq_of_parsePage hRead] at hLast
    exact absurd hLast (Nat.not_le.mpr hBeyond)
  · exact hRefused

namespace NavState

variable {names : NavNames} {page : Nat} {key : String}

/- A place with a key is read as its number is. -/
theorem read_of_get?
    {store : Params}
    {text : String}
    (hPage : store.get? names.page = some text)
    (hKey : store.get? names.key = some key)
    (hSome : key ≠ "") :
    read store names =
      (parsePage text).map fun page => ⟨some page, some key⟩ := by
  have hText : key.isEmpty = false :=
    Bool.eq_false_iff.mpr fun hNone =>
      hSome (String.isEmpty_iff.mp hNone)
  unfold read
  rw [hPage, hKey]
  simp only [Option.mapM_some, Option.filter_some, hText,
    Bool.not_false, if_true]
  cases parsePage text <;> rfl

/-
  Under two names a place is read by its number; under one name
  the key is read for the number.
-/
theorem read_write
    (store : Params)
    (hSome : key ≠ "") :
    read ((⟨some page, some key⟩ : NavState).write store names)
        names =
      (parsePage
        (if names.Distinct then toString page else key)).map
          fun page => ⟨some page, some key⟩ := by
  have hKey :
      ((⟨some page, some key⟩ : NavState).write store names).get?
        names.key = some key :=
    get?_write_key _ _ _
  split
  · next hNames =>
      exact read_of_get? (get?_write_page _ _ hNames) hKey hSome
  · next hSame =>
      have hOne : names.page = names.key := Decidable.not_not.mp hSame
      have hPage := hKey
      rw [← hOne] at hPage
      exact read_of_get? hPage hKey hSome

/- It is read back if the text for its number is read as that. -/
theorem read_write_eq_iff
    (store : Params)
    (hFirst : 1 ≤ page)
    (hSome : key ≠ "") :
    read ((⟨some page, some key⟩ : NavState).write store names)
          names =
        .ok ⟨some page, some key⟩ ↔
      (names.Distinct ∧ page ≤ maxPage) ∨
        (¬names.Distinct ∧ parsePage key = .ok page) := by
  have hMap (text : String) :
      (parsePage text).map
            (fun page => (⟨some page, some key⟩ : NavState)) =
          .ok ⟨some page, some key⟩ ↔
        parsePage text = .ok page := by
    cases parsePage text with
    | ok other => simp [Except.map]
    | error e => simp [Except.map]
  rw [read_write store hSome, hMap]
  by_cases hNames : names.Distinct
  · have hNumber :
        parsePage (toString page) = .ok page ↔ page ≤ maxPage := by
      constructor
      · intro hRead
        by_contra hBeyond
        rw [parsePage_of_gt (Nat.not_le.mp hBeyond)] at hRead
        cases hRead
      · exact parsePage_toString hFirst
    rw [if_pos hNames, hNumber]
    simp [hNames]
  · rw [if_neg hNames]
    simp [hNames]

/- A number that is too great is refused with its key. -/
theorem read_write_of_gt
    (store : Params)
    (hNames : names.Distinct)
    (hBeyond : maxPage < page)
    (hSome : key ≠ "") :
    read ((⟨some page, some key⟩ : NavState).write store names)
        names =
      .error (.invalidPage (toString page)) := by
  rw [read_write store hSome, if_pos hNames,
    parsePage_of_gt hBeyond]
  rfl

end NavState

------------------------------------------------------------
-- Where Moves Land
------------------------------------------------------------

/- A page is shown no further down than it is wanted. -/
theorem Edit.place_showPage_le
    {w : Window ρ}
    {start : Nat}
    (hShadow : w.shadow ≤ start) :
    (showPage w start).shadow + (showPage w start).startIndex ≤
      start := by
  show w.shadow + w.clampStart start ≤ start
  unfold Window.clampStart
  dsimp only
  split <;> omega

/- Whatever is loaded, a move shows no page after its own. -/
theorem Course.place_le
    [DecidableEq κ]
    {key : ρ → κ}
    {limit page : Nat}
    {anchor : Option κ}
    {w : Window ρ}
    {edit : Edit}
    {load : Load ρ κ}
    (hCourse :
      Course key limit w (.move page anchor) edit load)
    (rows : List ρ) :
    (edit.apply key rows w).shadow +
        (edit.apply key rows w).startIndex ≤
      pageOffset page w.pageSize := by
  cases hCourse with
  | anchored page anchor hPage => exact Nat.le_refl _
  | initial page hPage hRows =>
      exact Edit.place_showPage_le (Nat.zero_le _)
  | head page row hPage hRow hShadow =>
      refine Edit.place_showPage_le ?_
      dsimp only
      split <;> omega
  | tail page row hPage hRow hShadow hBeyond hDrained =>
      exact Edit.place_showPage_le hShadow
  | turn page hPage hRows hShadow hWithin =>
      exact Edit.place_showPage_le hShadow

namespace Window

variable {w : Window ρ}

/- There is no page before the first. -/
theorem one_le_currentPage
    (w : Window ρ) :
    1 ≤ w.currentPage :=
  Nat.le_min.mpr ⟨Nat.le_add_left 1 _, by decide⟩

/- A page that is shown before one that exists exists as well. -/
theorem pageExists_currentPage
    {page : Nat}
    (hPlace :
      w.shadow + w.startIndex ≤ pageOffset page w.pageSize)
    (hPage : PageExists page w.pageSize) :
    PageExists w.currentPage w.pageSize := by
  have hStart : w.absoluteStart ≤ w.shadow + w.startIndex :=
    Nat.min_le_left _ _
  have hNumber : w.currentPage ≤ w.absoluteStart / w.pageSize + 1 :=
    Nat.min_le_left _ _
  have hBefore :
      max w.currentPage 1 - 1 ≤ w.absoluteStart / w.pageSize := by
    generalize w.absoluteStart / w.pageSize = before at hNumber ⊢
    omega
  have hOffset :
      pageOffset w.currentPage w.pageSize ≤
        pageOffset page w.pageSize :=
    calc pageOffset w.currentPage w.pageSize
      _ ≤ w.absoluteStart / w.pageSize * w.pageSize :=
          Nat.mul_le_mul_right _ hBefore
      _ ≤ w.absoluteStart := Nat.div_mul_le_self _ _
      _ ≤ pageOffset page w.pageSize := Nat.le_trans hStart hPlace
  exact Nat.le_trans (Nat.add_le_add_right hOffset _) hPage

end Window

------------------------------------------------------------
-- Whole Operations
------------------------------------------------------------

/-
  Sources that all know the keys of their rows in one way and
  write them so that nothing is lost.
-/
structure Scribe
    (σ : Type)
    {ρ κ : Type}
    [Listing σ ρ κ]
    (key : ρ → κ) where
  codec : KeyCodec κ
  key_eq : ∀ source : σ, Listing.key source = key
  write_eq : ∀ source : σ, Listing.write source = codec.write
  read?_eq : ∀ source : σ, Listing.read? source = codec.read?

/- A source that only gains rows knows and writes them so. -/
def Chronicle.scribe
    [LinearOrder κ]
    [Listing σ ρ κ]
    {key : ρ → κ}
    {ask : σ → ListQuery κ → Reply ρ × σ}
    (C : Chronicle key ask) : Scribe σ key where
  codec := C.codec
  key_eq := C.key_eq
  write_eq := C.write_eq
  read?_eq := C.read?_eq

/- Something that is done to its end, or time that passes. -/
inductive Chore (σ : Type) where
  | errand (now : Nat) (errand : Errand σ)
  | time (moment : Nat)

namespace Controller

variable [Listing σ ρ κ] [DecidableEq κ]
variable {ask : σ → ListQuery κ → Reply ρ × σ}

/- Do what is asked of a table to its end. -/
def carryOut
    (ask : σ → ListQuery κ → Reply ρ × σ)
    (c : Controller σ ρ κ)
    (now : Nat)
    (errand : Errand σ) : Controller σ ρ κ × Option Ended :=
  match c.undertake now errand with
  | (c, some begun) => (perform ask (c, begun)).map id some
  | (c, none) => (c, none)

/- Do one thing with a table. -/
def chore
    (ask : σ → ListQuery κ → Reply ρ × σ)
    (c : Controller σ ρ κ) : Chore σ → Controller σ ρ κ
  | .errand now errand => (c.carryOut ask now errand).1
  | .time moment => c.advance ask moment

/- Do one thing after the other. -/
def chores
    (ask : σ → ListQuery κ → Reply ρ × σ)
    (c : Controller σ ρ κ)
    (list : List (Chore σ)) : Controller σ ρ κ :=
  list.foldl (chore ask) c

/- A table with its names, whose pages are not empty. -/
structure Usable
    (names : NavNames)
    (c : Controller σ ρ κ) : Prop where
  names_eq : c.names = names
  pageSize_pos : 1 ≤ c.window.pageSize

variable {names : NavNames} {c c' : Controller σ ρ κ}

omit [Listing σ ρ κ] [DecidableEq κ] in
/- It stays so under the same names, with pages of the same size. -/
theorem Usable.of_same
    (hUsable : c.Usable names)
    (hSame : c.Resembles c')
    (hSize : c'.window.pageSize = c.window.pageSize) :
    c'.Usable names where
  names_eq := hSame.names.trans hUsable.names_eq
  pageSize_pos := by
    rw [hSize]
    exact hUsable.pageSize_pos

omit [Listing σ ρ κ] [DecidableEq κ] in
/- A feed with another source has the same pages. -/
theorem Usable.setSource
    (hUsable : c.Usable names)
    (n : Nat)
    (source : σ) :
    (c.setFeedAt n
      { c.feedAt n with source := source }).Usable names := by
  refine hUsable.of_same (c.resembles_setFeedAt n _) ?_
  unfold setFeedAt
  split
  · rfl
  · next hCurrent =>
      rw [c.feedAt_of_le (Nat.not_lt.mp hCurrent)]
      rfl

/- What is left of an operation changes neither. -/
theorem Usable.perform
    (hUsable : c.Usable names)
    (begun : Begun ρ κ) :
    (Controller.perform ask (c, begun)).1.Usable names := by
  cases begun with
  | ended outcome => exact hUsable
  | failed fault => exact hUsable
  | moving m =>
      show (c.completeMove ask m).1.Usable names
      unfold completeMove
      dsimp only
      split
      · next f source _ =>
          have hRead := hUsable.setSource m.feed source
          exact
            ⟨(finish_parts _ _).1.trans hRead.names_eq,
              by rw [pageSize_finish]; exact hRead.pageSize_pos⟩
      · next e source _ => exact hUsable.setSource m.feed source

/- Nor does a tick. -/
theorem Usable.tick
    (hUsable : c.Usable names) :
    (c.tick ask).Usable names := by
  refine hUsable.of_same (c.resembles_tick ask) ?_
  unfold Controller.tick
  dsimp only
  split
  · split
    · rw [pageSize_endTick]
      exact congrArg Window.pageSize c.window_beginTick
    · rw [pageSize_endTick]
      exact congrArg Window.pageSize c.window_beginTick
  · exact congrArg Window.pageSize c.window_beginTick

/- Nor does any number of them. -/
theorem Usable.tickUntil
    (hUsable : c.Usable names)
    (moment fuel : Nat) :
    (Controller.tickUntil ask moment fuel c).Usable names := by
  induction fuel generalizing c with
  | zero => exact hUsable
  | succ fuel ih =>
      unfold Controller.tickUntil
      split
      · split
        · exact ih hUsable.tick
        · exact hUsable
      · exact hUsable

/- Whatever is done with a table, it stays usable. -/
theorem Usable.chore
    (hUsable : c.Usable names)
    (a : Chore σ) :
    (c.chore ask a).Usable names := by
  cases a with
  | errand now errand =>
      have hBegun : (c.undertake now errand).1.Usable names :=
        ⟨(c.succeeds_undertake now errand).names.trans
            hUsable.names_eq,
          pageSize_undertake now hUsable.pageSize_pos errand⟩
      show (c.carryOut ask now errand).1.Usable names
      unfold carryOut
      split
      · next d begun hUndertaken =>
          rw [hUndertaken] at hBegun
          exact hBegun.perform begun
      · next d hUndertaken =>
          rw [hUndertaken] at hBegun
          exact hBegun
  | time moment =>
      show (c.advance ask moment).Usable names
      unfold advance
      split
      · exact hUsable.tickUntil moment _
      · exact hUsable

/- So it is after any number of things. -/
theorem usable_chores
    (hUsable : c.Usable names)
    (list : List (Chore σ)) :
    (c.chores ask list).Usable names := by
  induction list generalizing c with
  | nil => exact hUsable
  | cons a rest ih => exact ih (hUsable.chore a)

------------------------------------------------------------
-- Moves That Are Recorded
------------------------------------------------------------

/-
  How something that is asked of a table may begin: as a move that
  records its page, as something that leaves the table without
  pages, or not at all.
-/
inductive Undertaking :
    Controller σ ρ κ × Option (Begun ρ κ) → Prop where
  | recorded
      (d : Controller σ ρ κ)
      (page : Nat)
      (anchor : Option κ) :
      Undertaking ((d.beginMove page anchor true).map id some)
  | pageless
      (begun : Controller σ ρ κ × Begun ρ κ)
      (hMode : begun.1.mode ≠ .pagination) :
      Undertaking (begun.map id some)
  | refused
      (d : Controller σ ρ κ)
      (fault : PagerError) :
      Undertaking (d, some (.failed fault))
  | idle (d : Controller σ ρ κ) :
      Undertaking (d, some (.ended .discarded))
  | nothing (d : Controller σ ρ κ) :
      Undertaking (d, none)

namespace Undertaking

omit [DecidableEq κ] in
/- A page is moved to, unless there is none of that number. -/
theorem goto
    (d : Controller σ ρ κ)
    (page : Nat) :
    Undertaking ((d.beginGoto page).map id some) := by
  unfold beginGoto
  dsimp only
  split
  · exact .refused d.paginate _
  · exact .recorded d.paginate page none

omit [DecidableEq κ] in
/- A table that is live shows no pages. -/
theorem live
    {begun : Controller σ ρ κ × Begun ρ κ}
    {view : AutoRefresh ρ κ}
    (hStrategy : begun.1.strategy = .live view) :
    Undertaking (begun.map id some) := by
  refine .pageless begun fun hMode => ?_
  unfold mode at hMode
  rw [hStrategy] at hMode
  cases hMode

end Undertaking

omit [DecidableEq κ] in
/- Whatever is asked of a table begins so. -/
theorem undertaking_undertake
    (c : Controller σ ρ κ)
    (now : Nat)
    (errand : Errand σ) :
    Undertaking (c.undertake now errand) := by
  have hLive (d : Controller σ ρ κ) :
      Undertaking ((d.beginLive now).map id some) :=
    .live rfl
  cases errand with
  | mount =>
      show Undertaking ((c.beginMount now).map id some)
      unfold beginMount
      split
      · exact .recorded _ _ _
      · exact hLive c
  | unmount => exact .nothing _
  | live => exact hLive c
  | goto page => exact .goto c page
  | next => exact .goto c (c.currentPage + 1)
  | previous => exact .goto c (max (c.currentPage - 1) 1)
  | refresh =>
      show Undertaking (c.beginRefresh.map id some)
      unfold beginRefresh
      split
      · next view hStrategy => exact .live hStrategy
      · exact .recorded _ _ _
      · exact .idle _
  | togglePause => exact .nothing _
  | resume => exact .nothing _
  | setPageSize pageSize =>
      show Undertaking ((c.beginSetPageSize pageSize).map id some)
      rw [c.beginSetPageSize_eq]
      split
      · exact .goto (c.resized pageSize) _
      · next view hStrategy =>
          have hSame :
              ((c.resized pageSize).beginMove 1 none
                false).1.strategy = c.strategy := by
            rw [beginMove_fst]
            rfl
          exact .live (hSame.trans hStrategy)
      · exact .idle _
  | replace source =>
      show Undertaking ((c.beginReplace now source).map id some)
      rw [c.beginReplace_eq]
      split
      · exact .goto (c.supplied source).forgetPlace 1
      · exact hLive (c.supplied source)
      · exact .idle _

/-
  Whatever is asked of a table: if it ends with a commit and with
  pages, then it ends with a move to a page that is recorded.
-/
theorem exists_move_of_committed
    {now : Nat}
    {errand : Errand σ}
    (hEnded :
      c.carryOut ask now errand = (c', some (.ok .committed)))
    (hMode : c'.mode = .pagination) :
    ∃ (d : Controller σ ρ κ) (page : Nat) (anchor : Option κ),
      perform ask (d.beginMove page anchor true) =
        (c', .ok .committed) := by
  have hBegins := c.undertaking_undertake now errand
  unfold carryOut at hEnded
  generalize c.undertake now errand = begun at hBegins hEnded
  have hPerformed {begun : Controller σ ρ κ × Begun ρ κ}
      (hEnded :
        (perform ask begun).map id some =
          (c', some (.ok .committed))) :
      perform ask begun = (c', .ok .committed) := by
    have hParts := Prod.ext_iff.mp hEnded
    exact Prod.ext hParts.1 (Option.some.inj hParts.2)
  cases hBegins with
  | recorded d page anchor =>
      exact ⟨d, page, anchor, hPerformed hEnded⟩
  | pageless begun hOther =>
      have hDone : perform ask begun = (c', .ok .committed) :=
        hPerformed hEnded
      rw [← mode_perform ask begun, hDone] at hOther
      exact absurd hMode hOther
  | refused d fault => cases hEnded
  | idle d => cases hEnded
  | nothing d => cases hEnded

variable {key : ρ → κ}

/- A move that is committed makes its edit and records its page. -/
theorem landed_of_committed
    (hKey : ∀ source : σ, Listing.key source = key)
    {d : Controller σ ρ κ}
    {page : Nat}
    {anchor : Option κ}
    (hEnded :
      perform ask (d.beginMove page anchor true) =
        (c, .ok .committed)) :
    ∃ edit load rows later,
      Course key d.buffer.maxLimit d.window (.move page anchor)
          edit load ∧
        c = d.abort.landed true later
          (edit.apply key rows d.window) := by
  rcases d.beginMove_cases page anchor true with
    ⟨f, hBegin, hBegun⟩ | ⟨e, hBegun⟩
  · rw [show d.key = key from hKey _] at hBegin
    rcases Buffer.begin_eq_ok_iff.mp hBegin with ⟨hPlan, hCourse⟩
    rcases f with ⟨plan, edit, load⟩
    cases hPlan
    rw [hBegun] at hEnded
    change d.abort.completeMove ask
      ⟨d.abort.past.length, true, d.abort.buffer.plan key, edit,
        load⟩ = _ at hEnded
    rcases hRun : load.run key d.abort.buffer.maxLimit
        d.abort.buffer.maxLimit_pos ask d.abort.feed.source with
      ⟨e | loaded, later⟩
    · rw [completeMove_of_error hKey true hRun] at hEnded
      cases hEnded
    · rw [completeMove_of_run hKey true hRun] at hEnded
      exact
        ⟨edit, load, loaded.rows, later, hCourse,
          (Prod.ext_iff.mp hEnded).1.symm⟩
  · rw [hBegun] at hEnded
    cases hEnded

/-
  Whether an operation has begun to open the page that a table
  shows, from its first row on.  That ends with this page unless
  the source fails.
-/
structure OpensAgain
    (key : ρ → κ)
    (ask : σ → ListQuery κ → Reply ρ × σ)
    (c : Controller σ ρ κ)
    (row : ρ)
    (begun : Controller σ ρ κ × Begun ρ κ) : Prop where
  mode : begun.1.mode = .pagination
  move :
    ∃ plan, begun.2 =
      .moving
        ⟨c.past.length, true, plan,
          .anchored (pageOffset c.currentPage c.window.pageSize)
            c.window.pageSize,
          .below (some (key row)) c.window.pageSize true⟩
  ends :
    ((perform ask begun).2 = .ok .committed ∧
      (perform ask begun).1.currentPage = c.currentPage) ∨
    ∃ e, (perform ask begun).2 = .error (.source e)

/- A place that is read back is opened again. -/
theorem opensAgain_of_place
    (S : Scribe σ key)
    {d : Controller σ ρ κ}
    {row : ρ}
    (hPlace :
      d.navState =
        ⟨some c.currentPage, some (S.codec.write (key row))⟩)
    (hMode : d.mode = .pagination)
    (hPast : d.past = c.past)
    (hSize : d.window.pageSize = c.window.pageSize)
    (hPos : 1 ≤ c.window.pageSize)
    (hPage : PageExists c.currentPage c.window.pageSize) :
    c.OpensAgain key ask row d.beginRecorded := by
  have hAnchor :
      Listing.read? d.feed.source (S.codec.write (key row)) =
        some (key row) := by
    rw [S.read?_eq, S.codec.read?_write]
  rw [← hSize] at hPos hPage
  have hBegun := beginRecorded_of_place S.key_eq hPlace hAnchor hPage
  refine ⟨?_, ?_, ?_⟩
  · rw [beginRecorded_fst]
    exact hMode
  · rw [hBegun, ← hPast, ← hSize]
    exact ⟨_, rfl⟩
  · rw [hBegun]
    change
      ((d.abort.completeMove ask _).2 = _ ∧
        (d.abort.completeMove ask _).1.currentPage = _) ∨
      ∃ e, (d.abort.completeMove ask _).2 = _
    rcases hRun :
        (Load.below (some (key row)) d.window.pageSize true).run key
          d.abort.buffer.maxLimit d.abort.buffer.maxLimit_pos ask
            d.abort.feed.source with
      ⟨e | loaded, later⟩
    · right
      exact
        ⟨e, congrArg Prod.snd
          (completeMove_of_error S.key_eq true hRun)⟩
    · left
      rw [show d.past = d.abort.past from rfl,
        completeMove_of_run S.key_eq true hRun]
      exact
        ⟨rfl,
          (Edit.apply_anchored key hPos hPage
            c.window.one_le_currentPage loaded.rows).2⟩

omit [DecidableEq κ] in
/- Without a place an empty table begins with its first page. -/
theorem beginRecorded_of_none
    (hKey : ∀ source : σ, Listing.key source = key)
    {d : Controller σ ρ κ}
    (hPlace : d.navState = {})
    (hRows : d.window.rows = [])
    (hPage : PageExists 1 d.window.pageSize) :
    ∃ plan, d.beginRecorded.2 =
      .moving
        ⟨d.past.length, true, plan, .initial 0 d.window.pageSize,
          .below none d.window.pageSize false⟩ := by
  have hCourse :
      Course key d.abort.buffer.maxLimit d.abort.window
        (.move 1 none) (.initial (0 * d.window.pageSize)
          (0 * d.window.pageSize + d.window.pageSize))
        (.below none
          (0 * d.window.pageSize + d.window.pageSize) false) :=
    .initial 1 hPage hRows
  rw [Nat.zero_mul, Nat.zero_add] at hCourse
  have hBegun :
      d.beginRecorded = d.beginMove 1 none true := by
    unfold beginRecorded
    dsimp only
    rw [hPlace]
    rfl
  rw [hBegun, d.beginMove_of_begin (hKey _) true
    (Buffer.begin_of_course hCourse)]
  exact ⟨_, rfl⟩

/-
  What a committed operation that shows a row on a page has
  recorded, and that there is such a page.
-/
theorem place_of_committed
    (S : Scribe σ key)
    {now : Nat}
    {errand : Errand σ}
    {row : ρ}
    (hEnded :
      c.carryOut ask now errand = (c', some (.ok .committed)))
    (hMode : c'.mode = .pagination)
    (hRow : c'.window.firstVisible = some row) :
    (∃ store, c'.nav =
      (⟨some c'.currentPage, some (S.codec.write (key row))⟩ :
        NavState).write store c'.names) ∧
      PageExists c'.currentPage c'.window.pageSize := by
  rcases exists_move_of_committed hEnded hMode with
    ⟨d, page, anchor, hMoved⟩
  rcases landed_of_committed S.key_eq hMoved with
    ⟨edit, load, rows, later, hCourse, hLanded⟩
  have hVisible :
      c'.visiblePlace =
        ⟨some c'.currentPage, some (S.codec.write (key row))⟩ := by
    unfold visiblePlace
    rw [hRow, Option.map_some, S.write_eq, S.key_eq]
  refine ⟨⟨d.nav, ?_⟩, ?_⟩
  · rw [← hVisible, hLanded]
    rfl
  · have hPage : PageExists page d.window.pageSize := by
      cases hCourse <;> assumption
    have hPlace := hCourse.place_le rows
    rw [← Edit.apply_pageSize key edit rows d.window] at hPage hPlace
    rw [hLanded]
    exact Window.pageExists_currentPage hPlace hPage

/-
  Whatever was done with a table, and whatever its source answered:
  once an operation is committed that leaves it with pages and a
  row in view, the number of the page and the key of the row are
  read back if and only if that number is no greater than the last
  that links may name, or, if both parameters have one name, if the
  key is read as that number.  What is read back opens the page
  again, when the table is reloaded and when any table is mounted
  with these parameters.  A number that is too great is refused;
  then a reload begins with the first page, and a table that is
  mounted goes live.
-/
theorem recorded_place_reads_back_iff
    (S : Scribe σ key)
    (ask : σ → ListQuery κ → Reply ρ × σ)
    (source : σ)
    (config : PagerConfig)
    (nav : Params)
    (names : NavNames)
    (done : List (Chore σ))
    (now : Nat)
    (errand : Errand σ)
    {c : Controller σ ρ κ}
    {row : ρ}
    (hEnded :
      ((new source config nav names).chores ask done).carryOut ask
        now errand = (c, some (.ok .committed)))
    (hMode : c.mode = .pagination)
    (hRow : c.window.firstVisible = some row) :
    let text := S.codec.write (key row)
    let place : NavState := ⟨some c.currentPage, some text⟩
    (NavState.read c.nav names = .ok place ↔
      (names.Distinct ∧ c.currentPage ≤ maxPage) ∨
        (¬names.Distinct ∧ parsePage text = .ok c.currentPage)) ∧
    (NavState.read c.nav names = .ok place →
      c.OpensAgain key ask row c.beginRefresh ∧
      ∀ d : Controller σ ρ κ, d.nav = c.nav → d.names = names →
        ∀ again, (d.beginMount again).1.mode = .pagination) ∧
    (names.Distinct → maxPage < c.currentPage →
      NavState.read c.nav names =
        .error (.invalidPage (toString c.currentPage)) ∧
      (∃ plan, c.beginRefresh.2 =
        .moving
          ⟨c.past.length, true, plan,
            .initial 0 c.window.pageSize,
            .below none c.window.pageSize false⟩) ∧
      ∀ d : Controller σ ρ κ, d.nav = c.nav → d.names = names →
        ∀ again, (d.beginMount again).1.mode = .autoRefresh) := by
  intro text place
  have hUsable : c.Usable names := by
    have hNew : (new source config nav names :
        Controller σ ρ κ).Usable names :=
      ⟨rfl, Nat.le_max_right _ _⟩
    have hBefore :
        ((new source config nav names :
          Controller σ ρ κ).chores ask done).Usable names :=
      usable_chores hNew done
    have hLast :
        (((new source config nav names :
          Controller σ ρ κ).chores ask done).carryOut
            ask now errand).1.Usable names :=
      hBefore.chore (.errand now errand)
    rw [hEnded] at hLast
    exact hLast
  rcases place_of_committed S hEnded hMode hRow with
    ⟨⟨store, hNav⟩, hPage⟩
  rw [hUsable.names_eq] at hNav
  have hSome : text ≠ "" := S.codec.write_ne _
  -- a table is mounted as its parameters are read
  have hMount (d : Controller σ ρ κ) (again : Nat) :
      (d.beginMount again).1.mode =
        if d.navState.isAnchored then .pagination
        else .autoRefresh :=
    d.mode_undertake again .mount
  refine ⟨?_, fun hRead => ⟨?_, ?_⟩, fun hNames hBeyond => ?_⟩
  · rw [hNav]
    exact
      NavState.read_write_eq_iff store c.window.one_le_currentPage
        hSome
  · have hPlace : c.clear.navState = place := by
      show NavState.readOrEmpty c.nav c.names = place
      unfold NavState.readOrEmpty
      rw [hUsable.names_eq, hRead]
    rw [beginRefresh_of_mode hMode]
    exact
      opensAgain_of_place S hPlace hMode rfl rfl
        hUsable.pageSize_pos hPage
  · intro d hSame hSameNames again
    have hPlace : d.navState = place := by
      unfold navState NavState.readOrEmpty
      rw [hSame, hSameNames, hRead]
    rw [hMount, hPlace]
    rfl
  · have hRefused :
        NavState.read c.nav names =
          .error (.invalidPage (toString c.currentPage)) := by
      rw [hNav]
      exact NavState.read_write_of_gt store hNames hBeyond hSome
    have hFirst : PageExists 1 c.window.pageSize := by
      have hOffset : pageOffset 1 c.window.pageSize = 0 :=
        Nat.zero_mul _
      unfold PageExists at hPage ⊢
      omega
    refine ⟨hRefused, ?_, fun d hSame hSameNames again => ?_⟩
    · have hNone : c.clear.navState = {} := by
        show NavState.readOrEmpty c.nav c.names = {}
        unfold NavState.readOrEmpty
        rw [hUsable.names_eq, hRefused]
      rw [beginRefresh_of_mode hMode]
      exact beginRecorded_of_none S.key_eq hNone rfl hFirst
    · have hNone : d.navState = {} := by
        unfold navState NavState.readOrEmpty
        rw [hSame, hSameNames, hRefused]
      rw [hMount, hNone]
      rfl

/- The parameters of a page that begins with a number. -/
def openingAt
    (page first : Nat) : Params :=
  (⟨some page, some (toString first)⟩ : NavState).write .empty {}

/-
  The second page is opened at its key while rows come in, left
  for the next one, and given another size.
-/
theorem recorded_place_reads_back_iff_resized :
    ∃ c : Controller Spring Nat Nat,
      ((new ⟨12, 1⟩ leaflet (openingAt 2 7) {}).chores Spring.ask
          [.errand 0 .mount, .errand 1 .next, .time 99]).carryOut
            Spring.ask 100 (.setPageSize 2) =
        (c, some (.ok .committed)) ∧
      c.mode = .pagination ∧ c.window.firstVisible = some 4 ∧
      c.currentPage = 4 ∧
      NavState.read c.nav {} = .ok ⟨some 4, some (toString 4)⟩ ∧
      c.OpensAgain id Spring.ask 4 c.beginRefresh := by
  let run : Controller Spring Nat Nat × Option Ended :=
    ((new ⟨12, 1⟩ leaflet (openingAt 2 7) {}).chores Spring.ask
      [.errand 0 .mount, .errand 1 .next, .time 99]).carryOut
        Spring.ask 100 (.setPageSize 2)
  have hCommitted : run.2 = some (.ok .committed) := by
    decide +kernel
  have hMode : run.1.mode = .pagination := by decide +kernel
  have hRow : run.1.window.firstVisible = some 4 := by
    decide +kernel
  have hNumber : run.1.currentPage = 4 := by decide +kernel
  -- from here on what the run has computed is of no account
  generalize hRun : run = r at hCommitted hMode hRow hNumber
  have hEnded : run = (r.1, some (.ok .committed)) := by
    rw [hRun, ← hCommitted]
  rcases recorded_place_reads_back_iff Spring.chronicle.scribe
      Spring.ask ⟨12, 1⟩ leaflet (openingAt 2 7) {}
      [.errand 0 .mount, .errand 1 .next, .time 99] 100
      (.setPageSize 2) hEnded hMode hRow with
    ⟨hIff, hAgain, -⟩
  have hRead := hIff.mpr (Or.inl ⟨by decide, by rw [hNumber]; decide⟩)
  refine
    ⟨r.1, hEnded, hMode, hRow, hNumber, ?_, (hAgain hRead).1⟩
  rw [hNumber] at hRead
  exact hRead

/-
  The last page that links may name is opened, and then the next
  one.  Its number is recorded, but not read back.
-/
theorem recorded_place_lost :
    ∃ c : Controller Spring Nat Nat,
      ((new ⟨3, 0⟩ { pageSize := 1 } (openingAt maxPage 2)
          {}).chores Spring.ask [.errand 0 .mount]).carryOut
            Spring.ask 1 .next =
        (c, some (.ok .committed)) ∧
      c.mode = .pagination ∧ c.window.firstVisible = some 1 ∧
      c.currentPage = maxPage + 1 ∧
      NavState.read c.nav {} ≠
        .ok ⟨some c.currentPage, some (toString 1)⟩ ∧
      (c.beginMount 2).1.mode = .autoRefresh := by
  let run : Controller Spring Nat Nat × Option Ended :=
    ((new ⟨3, 0⟩ { pageSize := 1 } (openingAt maxPage 2) {}).chores
      Spring.ask [.errand 0 .mount]).carryOut Spring.ask 1 .next
  have hCommitted : run.2 = some (.ok .committed) := by
    decide +kernel
  have hMode : run.1.mode = .pagination := by decide +kernel
  have hRow : run.1.window.firstVisible = some 1 := by
    decide +kernel
  have hNumber : run.1.currentPage = maxPage + 1 := by
    decide +kernel
  have hNone : run.1.navState = {} := by decide +kernel
  have hNames : run.1.names = {} := by decide +kernel
  have hLive : (run.1.beginMount 2).1.mode = .autoRefresh := by
    decide +kernel
  refine
    ⟨run.1, Prod.ext rfl hCommitted, hMode, hRow, hNumber, ?_,
      hLive⟩
  intro hRead
  unfold navState NavState.readOrEmpty at hNone
  rw [hNames, hRead] at hNone
  cases hNone

end Controller

end LedgerView
