import LedgerView.Proofs.Nav.Link
import LedgerView.Proofs.Table.Completed

/-
  Reopening the page that a table has recorded.

  The place of a complete page is its number and the key of its
  first row.  Read back, from the parameters as they are or from
  a link, they anchor a move to that page at that row, which
  reads the very rows that were shown: rows that have come in
  since stand above it.

  Key definitions include:
    * `Controller.supply`
    * `Controller.Keeps`
    * `Controller.Reopens`

  Key theorems include:
    * `Controller.perform_beginRecorded`
    * `Controller.Recorded.keeps`
    * `Controller.Keeps.reopens`
    * `Controller.reopening_shows_page`
-/

namespace LedgerView

variable {σ ρ κ : Type}

namespace Controller

variable [Listing σ ρ κ] [LinearOrder κ]
variable {key : ρ → κ}
variable {ask : σ → ListQuery κ → Reply ρ × σ}

------------------------------------------------------------
-- Recorded Places
------------------------------------------------------------

/- The table once its source has become another. -/
def supply
    (c : Controller σ ρ κ)
    (source : σ) : Controller σ ρ κ :=
  { c with feed := { c.feed with source := source } }

omit [LinearOrder κ] in
/- On pages a reload opens the recorded page anew. -/
theorem beginRefresh_of_mode
    {c : Controller σ ρ κ}
    (hMode : c.mode = .pagination) :
    c.beginRefresh = c.clear.beginRecorded := by
  unfold mode at hMode
  unfold beginRefresh
  split at hMode
  · cases hMode
  · cases hMode
  · next hPaged => rw [hPaged]

omit [LinearOrder κ] in
/- A table that is mounted with a place opens that page. -/
theorem beginMount_of_anchored
    {c : Controller σ ρ κ}
    (hAnchored : c.navState.isAnchored = true)
    (now : Nat) :
    c.beginMount now =
      { c with strategy := .paged }.beginRecorded := by
  unfold beginMount
  rw [if_pos hAnchored]

omit [LinearOrder κ] in
/- A place whose page exists is opened at its key. -/
theorem beginRecorded_of_place
    (hKey : ∀ source : σ, Listing.key source = key)
    {c : Controller σ ρ κ}
    {page : Nat}
    {text : String}
    {anchor : κ}
    (hPlace : c.navState = ⟨some page, some text⟩)
    (hAnchor : Listing.read? c.feed.source text = some anchor)
    (hPage : PageExists page c.window.pageSize) :
    c.beginRecorded =
      (c.abort,
        .moving
          ⟨c.past.length, true, c.abort.buffer.plan key,
            .anchored (pageOffset page c.window.pageSize)
              c.window.pageSize,
            .below (some anchor) c.window.pageSize true⟩) := by
  have hCourse :
      Course key c.abort.buffer.maxLimit c.abort.window
        (.move page (some anchor))
        (.anchored (pageOffset page c.window.pageSize)
          c.window.pageSize)
        (.below (some anchor) c.window.pageSize true) :=
    .anchored page anchor hPage
  unfold beginRecorded
  dsimp only
  rw [hPlace]
  dsimp only
  rw [Option.bind_some, hAnchor, Option.getD_some]
  exact
    c.beginMove_of_begin (hKey _) true
      (Buffer.begin_of_course hCourse)

/- A recorded page is opened as it was. -/
theorem perform_beginRecorded
    (T : Chronicle key ask)
    {c : Controller σ ρ κ}
    {page : Nat}
    {row : ρ}
    {older : List ρ}
    (hPlace :
      c.navState = ⟨some page, some (T.codec.write (key row))⟩)
    (hFirst : 1 ≤ page)
    (hPage : PageExists page c.window.pageSize)
    (hPos : 1 ≤ c.window.pageSize)
    (hRun : row :: older <:+ (T.archive c.feed.source).rows) :
    ∃ later w,
      perform ask c.beginRecorded =
          (c.abort.landed true later w, .ok .committed) ∧
        w.pageRows = (row :: older).take c.window.pageSize ∧
        w.currentPage = page := by
  have hAnchor :
      Listing.read? c.feed.source (T.codec.write (key row)) =
        some (key row) := by
    rw [T.read?_eq, T.codec.read?_write]
  rcases T.run_from c.abort.buffer.maxLimit_pos c.window.pageSize
      hRun with
    ⟨loaded, later, hLoad, -, hRows⟩
  have hShown :=
    Edit.apply_anchored key hPos hPage hFirst loaded.rows
  refine ⟨later, _, ?_, ?_, hShown.2⟩
  · rw [beginRecorded_of_place T.key_eq hPlace hAnchor hPage]
    exact completeMove_of_run T.key_eq true hLoad
  · rw [hShown.1, hRows, List.take_take, Nat.min_self]

/- A committed move has recorded the place that is shown. -/
theorem Recorded.nav_eq
    {T : Chronicle key ask}
    {names : NavNames}
    {c d : Controller σ ρ κ}
    {later : σ}
    {w : Window ρ}
    (hRecorded : Recorded T names c d later w) :
    c.nav = c.visiblePlace.write d.nav names := by
  rw [← hRecorded.before.names, hRecorded.landed]
  rfl

/-
  What a table keeps of a page whose place it has recorded: its
  number, and where its rows stand in the source.
-/
structure Keeps
    (T : Chronicle key ask)
    (names : NavNames)
    (c : Controller σ ρ κ)
    (row : ρ)
    (older : List ρ) : Prop where
  names_eq : c.names = names
  pageSize : c.window.pageSize = max c.config.pageSize 1
  place :
    NavState.readOrEmpty c.nav names =
      ⟨some c.currentPage, some (T.codec.write (key row))⟩
  first : 1 ≤ c.currentPage
  exist : PageExists c.currentPage c.window.pageSize
  isRun : row :: older <:+ (T.archive c.feed.source).rows
  pageRows :
    c.window.pageRows = (row :: older).take c.window.pageSize

/- A recorded move to a page that is not empty keeps it. -/
theorem Recorded.keeps
    {T : Chronicle key ask}
    {names : NavNames}
    {c d : Controller σ ρ κ}
    {later : σ}
    {w : Window ρ}
    (hRecorded : Recorded T names c d later w)
    (hNames : names.Distinct)
    (hRows : c.window.pageRows ≠ [])
    (hPage : c.currentPage ≤ maxPage) :
    ∃ row older, c.Keeps T names row older := by
  have hLanded := hRecorded.landed
  have hWindow : c.window = w := by
    rw [hLanded]
    rfl
  have hSource : c.feed.source = later := by
    rw [hLanded]
    rfl
  rw [hWindow] at hRows
  have hComplete := hRecorded.complete hRows
  rcases hComplete.exists_run hRecorded.suits hRows with
    ⟨row, older, hRun, hVisible, hPageRows⟩
  have hPlace :
      c.visiblePlace =
        ⟨some c.currentPage, some (T.codec.write (key row))⟩ := by
    unfold visiblePlace
    rw [hWindow, hVisible, T.write_eq, T.key_eq]
    rfl
  have hFirst : 1 ≤ c.currentPage := by
    unfold currentPage
    rw [hWindow, hComplete.currentPage_eq]
    exact Nat.le_add_left 1 _
  refine ⟨row, older, ?_, ?_, ?_, hFirst, ?_, ?_, ?_⟩
  · rw [hLanded]
    exact hRecorded.before.names
  · rw [hWindow, hRecorded.pageSize, hLanded]
    exact hRecorded.before.pageSize
  · rw [hRecorded.nav_eq, hPlace]
    exact
      NavState.readOrEmpty_write d.nav hNames hFirst hPage
        (T.codec.write_ne _)
  · unfold currentPage
    rw [hWindow]
    exact hComplete.pageExists_currentPage
  · rw [hSource]
    exact hRun
  · rw [hWindow]
    exact hPageRows

------------------------------------------------------------
-- Reopening
------------------------------------------------------------

/-
  Whether an operation ended with a table that shows the page
  that another one shows.
-/
def Reopens
    (c : Controller σ ρ κ)
    (ended : Controller σ ρ κ × Ended) : Prop :=
  ended.2 = .ok .committed ∧ ended.1.mode = .pagination ∧
    ended.1.window.pageRows = c.window.pageRows ∧
    ended.1.currentPage = c.currentPage

namespace Keeps

variable {T : Chronicle key ask} {names : NavNames}
variable {c d : Controller σ ρ κ} {row : ρ} {older : List ρ}

/- Any table with the same record opens the page again. -/
theorem reopens
    (hKeeps : c.Keeps T names row older)
    (hNames : d.names = names)
    (hNav : d.nav = c.nav)
    (hMode : d.mode = .pagination)
    (hSize : d.window.pageSize = c.window.pageSize)
    (hGrown : T.Precedes c.feed.source d.feed.source) :
    c.Reopens (perform ask d.beginRecorded) := by
  have hPlace :
      d.navState =
        ⟨some c.currentPage, some (T.codec.write (key row))⟩ := by
    unfold navState
    rw [hNav, hNames]
    exact hKeeps.place
  have hPos : 1 ≤ d.window.pageSize := by
    rw [hSize, hKeeps.pageSize]
    exact Nat.le_max_right _ _
  have hPage : PageExists c.currentPage d.window.pageSize := by
    rw [hSize]
    exact hKeeps.exist
  rcases perform_beginRecorded T hPlace hKeeps.first hPage hPos
      (hKeeps.isRun.trans hGrown) with
    ⟨later, w, hOpened, hRows, hNumber⟩
  rw [hOpened]
  refine ⟨rfl, ?_, ?_, hNumber⟩
  · rw [mode_landed]
    exact hMode
  · rw [hKeeps.pageRows, ← hSize]
    exact hRows

/- A table that is mounted with the same record opens it, too. -/
theorem reopens_mount
    (hKeeps : c.Keeps T names row older)
    (hNames : d.names = names)
    (hNav : d.nav = c.nav)
    (hSize : d.window.pageSize = c.window.pageSize)
    (hGrown : T.Precedes c.feed.source d.feed.source)
    (now : Nat) :
    c.Reopens (perform ask (d.beginMount now)) := by
  have hAnchored : d.navState.isAnchored = true := by
    unfold navState
    rw [hNav, hNames, hKeeps.place]
    rfl
  rw [beginMount_of_anchored hAnchored now]
  exact hKeeps.reopens hNames hNav rfl hSize hGrown

end Keeps

/-
  Whatever was done since a table was mounted without a place:
  if the last operation was committed and shows a page with rows
  on it whose number links may name, then that page is opened
  again, however many rows have come in since, by a new table of
  the same page size that is mounted on a link to it, by the
  table itself when it is unmounted and mounted, and by its
  reload.
-/
theorem reopening_shows_page
    (T : Chronicle key ask)
    (source : σ)
    (config : PagerConfig)
    (nav : Params)
    (names : NavNames)
    (now : Nat)
    (acts : List Act)
    (last : Act)
    {c : Controller σ ρ κ}
    (hNames : names.Distinct)
    (hNav : nav.Placeless names)
    (hEnded :
      ((perform ask
          ((new source config nav names).beginMount now)).1.actAll
            ask acts).act ask last =
        (c, some (.ok .committed)))
    (hMode : c.mode = .pagination)
    (hRows : c.window.pageRows ≠ [])
    (hPage : c.currentPage ≤ maxPage)
    {later : σ}
    (hGrown : T.Precedes c.feed.source later)
    (again : Nat) :
    (∀ kind : TableKind, ∃ link,
      Link.parse (Link.toString ⟨kind.name, c.nav⟩) = .ok link ∧
        link.table = kind.name ∧
        ∀ config' : PagerConfig,
          max config'.pageSize 1 = max c.config.pageSize 1 →
            c.Reopens
              (perform ask
                ((new later config' link.query names).beginMount
                  again))) ∧
      c.Reopens
        (perform ask ((c.supply later).unmount.beginMount again)) ∧
      c.Reopens (perform ask (c.supply later).beginRefresh) := by
  have hRests := (Rests.mounted T source config hNav now).actAll acts
  rcases hRests.recorded (a := last) (by rw [hEnded])
      (by rw [hEnded]; exact hMode) with
    ⟨d, shown, w, hRecorded⟩
  rw [hEnded] at hRecorded
  rcases hRecorded.keeps hNames hRows hPage with
    ⟨row, older, hKeeps⟩
  refine ⟨?_, ?_, ?_⟩
  · intro kind
    refine ⟨_, Link.parse_toString kind c.nav, rfl, ?_⟩
    intro config' hSize
    let fresh : Controller σ ρ κ := .new later config' c.nav names
    have hSame : fresh.window.pageSize = c.window.pageSize :=
      hSize.trans hKeeps.pageSize.symm
    exact
      hKeeps.reopens_mount (d := fresh) rfl rfl hSame hGrown again
  · exact
      hKeeps.reopens_mount (d := (c.supply later).unmount)
        hKeeps.names_eq rfl rfl hGrown again
  · rw [beginRefresh_of_mode (c := c.supply later) hMode]
    exact
      hKeeps.reopens (d := (c.supply later).clear)
        hKeeps.names_eq rfl hMode rfl hGrown

end Controller

------------------------------------------------------------
-- Rows That Well Up
------------------------------------------------------------

/- Numbers from 0 up; with every query some more well up. -/
structure Spring where
  count : Nat
  flow : Nat
deriving Repr, DecidableEq

namespace Spring

/- The numbers so far, the greatest first. -/
def archive
    (s : Spring) : Archive (id : Nat → Nat) where
  rows := (List.range s.count).reverse
  descends := List.pairwise_reverse.mpr List.pairwise_lt_range

instance : Listing Spring Nat Nat where
  key := fun _ row => row
  write := fun _ key => toString key
  read? := fun _ text => Text.digits? text.toList

/- Let rows well up, and answer from what there is then. -/
def ask
    (s : Spring)
    (q : ListQuery Nat) : Reply Nat × Spring :=
  let later : Spring := { s with count := s.count + s.flow }
  (.ok (some (selectRows id later.archive.rows q)), later)

/- Numbers are read as they were written. -/
def codec : KeyCodec Nat where
  write := toString
  read? := fun text => Text.digits? text.toList
  read?_write := by
    intro n
    rw [Text.toList_toString, Text.digits?_decimal]
  write_ne := Text.toString_ne_empty

/- More numbers end with those that there were. -/
theorem archive_suffix
    {s later : Spring}
    (hMore : s.count ≤ later.count) :
    s.archive.rows <:+ later.archive.rows := by
  show (List.range s.count).reverse <:+
    (List.range later.count).reverse
  rw [← Nat.add_sub_cancel' hMore, List.range_add,
    List.reverse_append]
  exact List.suffix_append _ _

/- A spring answers truthfully and only gains rows. -/
def chronicle : Chronicle (id : Nat → Nat) ask where
  archive := archive
  codec := codec
  key_eq := fun _ => rfl
  write_eq := fun _ => rfl
  read?_eq := fun _ => rfl
  answers := fun _ _ => rfl
  grows := fun s _ => archive_suffix (Nat.le_add_right _ s.flow)

/- Whatever has more rows may be the same spring later on. -/
theorem precedes_of_le
    {s later : Spring}
    (hMore : s.count ≤ later.count) :
    chronicle.Precedes s later :=
  archive_suffix hMore

end Spring

namespace Controller

/- Three rows on a page, two rows in a chunk. -/
def leaflet : PagerConfig :=
  { pageSize := 3, maxLimit := 2 }

/- A page that is reached while a row comes in with each query. -/
theorem reopening_shows_page_rising :
    ∃ c : Controller Spring Nat Nat,
      ((perform Spring.ask
          ((new ⟨12, 1⟩ leaflet .empty {}).beginMount 0)).1.actAll
            Spring.ask [.tick, .goto 2, .setPageSize 2]).act
          Spring.ask .next = (c, some (.ok .committed)) ∧
        c.mode = .pagination ∧ c.window.pageRows = [10, 9] ∧
        c.currentPage = 3 ∧
        (∀ kind : TableKind, ∃ link,
          Link.parse (Link.toString ⟨kind.name, c.nav⟩) = .ok link ∧
            link.table = kind.name ∧
            c.Reopens
              (perform Spring.ask
                ((new ⟨40, 2⟩ { pageSize := 2 } link.query
                  {}).beginMount 9))) ∧
        c.Reopens
          (perform Spring.ask
            ((c.supply ⟨40, 2⟩).unmount.beginMount 9)) ∧
        c.Reopens
          (perform Spring.ask (c.supply ⟨40, 2⟩).beginRefresh) := by
  let run : Controller Spring Nat Nat × Option Ended :=
    ((perform Spring.ask
        ((new ⟨12, 1⟩ leaflet .empty {}).beginMount 0)).1.actAll
          Spring.ask [.tick, .goto 2, .setPageSize 2]).act
      Spring.ask .next
  have hEnded : run.2 = some (.ok .committed) := by decide +kernel
  have hMode : run.1.mode = .pagination := by decide +kernel
  have hRows : run.1.window.pageRows = [10, 9] := by
    decide +kernel
  have hNumber : run.1.currentPage = 3 := by decide +kernel
  have hSize : max 2 1 = max run.1.config.pageSize 1 := by
    decide +kernel
  have hCount :
      run.1.feed.source.count ≤ (⟨40, 2⟩ : Spring).count := by
    decide +kernel
  -- from here on what the run has computed is of no account
  generalize hRun : run = r
    at hEnded hMode hRows hNumber hSize hCount
  have hAll : run = (r.1, some (.ok .committed)) := by
    rw [hRun, ← hEnded]
  have hSome : r.1.window.pageRows ≠ [] := by
    rw [hRows]
    decide
  have hPage : r.1.currentPage ≤ maxPage := by
    rw [hNumber]
    decide
  rcases reopening_shows_page Spring.chronicle ⟨12, 1⟩ leaflet
      .empty {} 0 [.tick, .goto 2, .setPageSize 2] .next
      (by decide) (by decide) hAll hMode hSome hPage
      (Spring.precedes_of_le hCount) 9 with
    ⟨hLinks, hAgain, hReload⟩
  refine
    ⟨r.1, hAll, hMode, hRows, hNumber, ?_, hAgain, hReload⟩
  intro kind
  rcases hLinks kind with ⟨link, hLink, hTable, hNew⟩
  exact ⟨link, hLink, hTable, hNew { pageSize := 2 } hSize⟩

/-
  If both parameters have one name, the key is written over the
  number of the page, and read for it: page 2, whose first row
  has key 8, is opened again as page 8.
-/
theorem reopening_renumbers_page :
    ∃ c again : Controller Spring Nat Nat,
      Params.empty.Placeless ⟨"q", "q"⟩ ∧
        ((perform Spring.ask
            ((new ⟨12, 0⟩ leaflet .empty ⟨"q", "q"⟩).beginMount
              0)).1.actAll Spring.ask []).act Spring.ask (.goto 2) =
          (c, some (.ok .committed)) ∧
        c.mode = .pagination ∧ c.window.pageRows = [8, 7, 6] ∧
        c.currentPage = 2 ∧
        perform Spring.ask (c.unmount.beginMount 0) =
          (again, .ok .committed) ∧
        again.currentPage = 8 ∧ ¬c.Reopens (again, .ok .committed) := by
  let names : NavNames := ⟨"q", "q"⟩
  let mounted : Controller Spring Nat Nat :=
    (perform Spring.ask
      ((new ⟨12, 0⟩ leaflet .empty names).beginMount 0)).1
  let run : Controller Spring Nat Nat × Option Ended :=
    (mounted.actAll Spring.ask []).act Spring.ask (.goto 2)
  have hEmpty : Params.empty.Placeless names := by decide
  have hRests : mounted.Rests Spring.chronicle names :=
    Rests.mounted Spring.chronicle ⟨12, 0⟩ leaflet hEmpty 0
  have hEnded : run.2 = some (.ok .committed) := by decide +kernel
  have hMode : run.1.mode = .pagination := by decide +kernel
  have hRows : run.1.window.pageRows = [8, 7, 6] := by
    decide +kernel
  have hNumber : run.1.currentPage = 2 := by decide +kernel
  have hSize : run.1.window.pageSize = 3 := by decide +kernel
  have hSource : run.1.feed.source.count = 12 := by decide +kernel
  rcases hRests.recorded (a := .goto 2) hEnded hMode with
    ⟨d, later, w, hRecorded⟩
  have hNames : run.1.names = names := by
    rw [show run.1 = d.landed true later w from hRecorded.landed]
    exact hRecorded.before.names
  have hNav : run.1.nav = run.1.visiblePlace.write d.nav names :=
    hRecorded.nav_eq
  generalize hRun : run = r
    at hEnded hMode hRows hNumber hSize hSource hNames hNav
  have hAll : run = (r.1, some (.ok .committed)) := by
    rw [hRun, ← hEnded]
  have hKey : r.1.visiblePlace.key = some (toString 8) := by
    unfold visiblePlace Window.firstVisible
    rw [hRows]
    rfl
  have hPlace :
      r.1.unmount.navState = ⟨some 8, some (toString 8)⟩ := by
    show NavState.readOrEmpty r.1.nav r.1.names = _
    rw [hNames, hNav]
    exact
      NavState.readOrEmpty_write_same _ _ rfl hKey (by decide)
        (by decide)
  have hAnchored : r.1.unmount.navState.isAnchored = true := by
    rw [hPlace]
    rfl
  have hRunOf :
      8 :: [7, 6, 5, 4, 3, 2, 1, 0] <:+
        (Spring.chronicle.archive r.1.feed.source).rows := by
    show _ <:+ (List.range r.1.feed.source.count).reverse
    rw [hSource]
    decide
  have hPage : PageExists 8 r.1.window.pageSize := by
    rw [hSize]
    decide
  have hPos : 1 ≤ r.1.window.pageSize := by
    rw [hSize]
    decide
  let paged : Controller Spring Nat Nat :=
    { r.1.unmount with strategy := .paged }
  rcases perform_beginRecorded Spring.chronicle (c := paged) hPlace
      (by decide) hPage hPos hRunOf with
    ⟨later', w', hOpened, -, hShown⟩
  have hEight :
      (paged.abort.landed true later' w').currentPage = 8 :=
    hShown
  refine
    ⟨r.1, _, hEmpty, hAll, hMode, hRows, hNumber, ?_, hEight, ?_⟩
  · rw [beginMount_of_anchored hAnchored 0]
    exact hOpened
  · rintro ⟨-, -, -, hSame⟩
    rw [hEight, hNumber] at hSame
    exact absurd hSame (by decide)

end Controller

end LedgerView
