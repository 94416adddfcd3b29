import LedgerView.Nav.State
import LedgerView.Pager.AutoRefresh
import LedgerView.Pager.Config

/-
  The controller of a table.

  A table is unmounted, or live, or shows pages.  Mounted with
  a recorded page and key it shows that page, otherwise it goes
  live.  Every committed move to a page is recorded among the
  parameters of navigation; going live removes the record.

  An operation takes effect in two parts: what happens at once,
  and a move that loads and then commits.  The second part can
  run at any later time, and keeps to the source on which it
  was begun.

  Key definitions include:
    * `Listing`
    * `Feed`
    * `Controller`
    * `Move`
    * `Begun`
    * `Controller.beginMount`
    * `Controller.beginLive`
    * `Controller.beginGoto`
    * `Controller.beginRefresh`
    * `Controller.beginSetPageSize`
    * `Controller.beginReplace`
    * `Controller.finish`
    * `Controller.perform`
    * `Controller.advance`
-/

namespace LedgerView

------------------------------------------------------------
-- Sources and Buffers
------------------------------------------------------------

/- What a kind of source knows of its rows and their keys. -/
class Listing (σ : Type) (ρ κ : outParam Type) where
  key : σ → ρ → κ
  write : σ → κ → String
  read? : σ → String → Option κ

/- A source with the buffer that is filled from it. -/
structure Feed (σ ρ : Type) where
  source : σ
  buffer : Buffer ρ

/- How a table is shown. -/
inductive Strategy (ρ κ : Type) where
  | unmounted
  | live (view : AutoRefresh ρ κ)
  | paged

/- How a table is shown, as users see it. -/
inductive PagerMode where
  | unmounted
  | autoRefresh
  | pagination
deriving Repr, DecidableEq, Inhabited

namespace PagerMode

/- Every mode. -/
def all : List PagerMode :=
  [unmounted, autoRefresh, pagination]

/- The name in records. -/
def name : PagerMode → String
  | unmounted => "unmounted"
  | autoRefresh => "auto_refresh"
  | pagination => "pagination"

end PagerMode

/- A table. -/
structure Controller (σ ρ κ : Type) where
  config : PagerConfig
  names : NavNames
  nav : Params
  feed : Feed σ ρ
  /- Feeds whose source has been replaced, oldest first. -/
  past : List (Feed σ ρ)
  strategy : Strategy ρ κ

/- A move that has been begun. -/
structure Move (ρ κ : Type) where
  /- How many sources were replaced before it began. -/
  feed : Nat
  /- Whether its page is recorded. -/
  records : Bool
  flight : Flight ρ κ

/- What is left of an operation to be done. -/
inductive Begun (ρ κ : Type) where
  | ended (outcome : Outcome)
  | failed (fault : PagerError)
  | moving (move : Move ρ κ)

/- How an operation ended. -/
abbrev Ended :=
  Except PagerError Outcome

namespace Controller

variable {σ ρ κ : Type}

------------------------------------------------------------
-- What a Table Shows
------------------------------------------------------------

/- A table that has not been mounted. -/
def new
    (source : σ)
    (config : PagerConfig)
    (nav : Params)
    (names : NavNames) : Controller σ ρ κ :=
  { config := config
    names := names
    nav := nav
    feed := ⟨source, .empty config.pageSize config.maxLimit⟩
    past := []
    strategy := .unmounted }

/- The buffer in use. -/
def buffer
    (c : Controller σ ρ κ) : Buffer ρ :=
  c.feed.buffer

/- The window in use. -/
def window
    (c : Controller σ ρ κ) : Window ρ :=
  c.feed.buffer.window

/- How the table is shown. -/
def mode
    (c : Controller σ ρ κ) : PagerMode :=
  match c.strategy with
  | .unmounted => .unmounted
  | .live _ => .autoRefresh
  | .paged => .pagination

/- The state of the live view. -/
def liveStatus
    (c : Controller σ ρ κ) : Option LiveStatus :=
  match c.strategy with
  | .live view => some view.status
  | _ => none

/- The page, and how many there are. -/
def currentPage
    (c : Controller σ ρ κ) : Nat :=
  c.window.currentPage

/- The number of pages shown. -/
def pageCount
    (c : Controller σ ρ κ) : Nat :=
  c.window.pageCount c.config.presumedRowCount

/- The number of rows shown. -/
def totalRowCount
    (c : Controller σ ρ κ) : Nat :=
  c.window.totalRowCount c.config.presumedRowCount

/- The recorded place. -/
def navState
    (c : Controller σ ρ κ) : NavState :=
  .readOrEmpty c.nav c.names

------------------------------------------------------------
-- Changing Parts
------------------------------------------------------------

/- Put another buffer behind the source in use. -/
def setBuffer
    (c : Controller σ ρ κ)
    (b : Buffer ρ) : Controller σ ρ κ :=
  { c with feed := { c.feed with buffer := b } }

/- Supersede what is in flight. -/
def abort
    (c : Controller σ ρ κ) : Controller σ ρ κ :=
  c.setBuffer c.buffer.abort

/- Supersede what is in flight and forget the rows. -/
def clear
    (c : Controller σ ρ κ) : Controller σ ρ κ :=
  c.setBuffer c.buffer.clear

/- Drop the way in which the table is shown, with its timer. -/
def teardown
    (c : Controller σ ρ κ) : Controller σ ρ κ :=
  { c with strategy := .unmounted }

/- Remove the recorded place. -/
def forgetPlace
    (c : Controller σ ρ κ) : Controller σ ρ κ :=
  { c with nav := ({} : NavState).write c.nav c.names }

/- The feed in use after a number of replacements. -/
def feedAt
    (c : Controller σ ρ κ)
    (n : Nat) : Feed σ ρ :=
  c.past.getD n c.feed

/- Change the feed in use after a number of replacements. -/
def setFeedAt
    (c : Controller σ ρ κ)
    (n : Nat)
    (feed : Feed σ ρ) : Controller σ ρ κ :=
  if n < c.past.length then
    { c with past := c.past.set n feed }
  else
    { c with feed := feed }

------------------------------------------------------------
-- Beginning Operations
------------------------------------------------------------

variable [Listing σ ρ κ]

/- The key of a row of the source in use. -/
def key
    (c : Controller σ ρ κ) : ρ → κ :=
  Listing.key c.feed.source

/- A move on the source in use. -/
def moving
    (c : Controller σ ρ κ)
    (records : Bool)
    (flight : Flight ρ κ) : Begun ρ κ :=
  .moving ⟨c.past.length, records, flight⟩

/- Begin a move to a page, superseding what is in flight. -/
def beginMove
    (c : Controller σ ρ κ)
    (page : Nat)
    (anchor : Option κ)
    (records : Bool) : Controller σ ρ κ × Begun ρ κ :=
  let c := c.abort
  match c.buffer.prepareMove c.key page with
  | .ok move => (c, c.moving records (move.begin anchor))
  | .error e => (c, .failed (.nav e))

/- Begin to open the recorded page at its key, if that is one. -/
def beginRecorded
    (c : Controller σ ρ κ) : Controller σ ρ κ × Begun ρ κ :=
  let place := c.navState
  let anchor := place.key.bind (Listing.read? c.feed.source)
  c.beginMove (place.page.getD 1) anchor true

/- Begin a refresh, superseding what is in flight. -/
def beginNewest
    (c : Controller σ ρ κ) : Controller σ ρ κ × Begun ρ κ :=
  let c := c.abort
  (c, c.moving false (c.buffer.beginRefresh c.key))

/- Begin to go live. -/
def beginLive
    (now : Nat)
    (c : Controller σ ρ κ) : Controller σ ρ κ × Begun ρ κ :=
  let view : AutoRefresh ρ κ :=
    .new c.config.updatePeriod c.config.maxAutoUpdateCount
  { c.teardown.clear.forgetPlace with
    strategy := .live (view.start now) }.beginNewest

/- Begin to mount the table. -/
def beginMount
    (now : Nat)
    (c : Controller σ ρ κ) : Controller σ ρ κ × Begun ρ κ :=
  if c.navState.isAnchored then
    { c with strategy := .paged }.beginRecorded
  else
    c.beginLive now

/- Unmount the table. -/
def unmount
    (c : Controller σ ρ κ) : Controller σ ρ κ :=
  c.teardown.clear

/- Show pages from now on; the rows at hand are kept. -/
def paginate
    (c : Controller σ ρ κ) : Controller σ ρ κ :=
  match c.strategy with
  | .paged => c
  | _ => { c.abort with strategy := .paged }

/- Begin to go to a page.  There is no page 0. -/
def beginGoto
    (c : Controller σ ρ κ)
    (page : Nat) : Controller σ ρ κ × Begun ρ κ :=
  let c := c.paginate
  if page = 0 then
    (c, .failed (.nav (.ofPage page)))
  else
    c.beginMove page none true

/- Begin to go to the next page. -/
def beginNext
    (c : Controller σ ρ κ) : Controller σ ρ κ × Begun ρ κ :=
  c.beginGoto (c.currentPage + 1)

/- Begin to go to the page before, or to the first. -/
def beginPrevious
    (c : Controller σ ρ κ) : Controller σ ρ κ × Begun ρ κ :=
  c.beginGoto (max (c.currentPage - 1) 1)

/-
  Begin to reload: the live view is refreshed, a page is rebuilt
  from where it is recorded.
-/
def beginRefresh
    (c : Controller σ ρ κ) : Controller σ ρ κ × Begun ρ κ :=
  match c.strategy with
  | .live _ => c.beginNewest
  | .paged => c.clear.beginRecorded
  | .unmounted => (c, .ended .discarded)

/- Pause or resume the live view; tells whether it is paused. -/
def togglePause
    (now : Nat)
    (c : Controller σ ρ κ) : Controller σ ρ κ × Option Bool :=
  match c.strategy with
  | .live view =>
      let view := view.toggle now
      ({ c with strategy := .live view }, some view.paused)
  | _ => (c, none)

/- Resume the live view. -/
def resume
    (now : Nat)
    (c : Controller σ ρ κ) : Controller σ ρ κ :=
  match c.strategy with
  | .live view => { c with strategy := .live (view.resume now) }
  | _ => c

/-
  Begin to change the page size.  A paged table goes to the page
  on which its first row now stands.
-/
def beginSetPageSize
    (c : Controller σ ρ κ)
    (pageSize : Nat) : Controller σ ρ κ × Begun ρ κ :=
  let pageSize := max pageSize 1
  let first := c.window.absoluteStart
  let c :=
    { c with
      config := { c.config with pageSize := pageSize }
      feed :=
        { c.feed with buffer := c.buffer.setPageSize pageSize } }
  match c.strategy with
  | .paged => c.beginGoto (first / pageSize + 1)
  | .live _ => c.beginMove 1 none false
  | .unmounted => (c, .ended .discarded)

/-
  Begin to use another source.  A paged table starts over on
  page 1, a live one stays live.
-/
def beginReplace
    (now : Nat)
    (c : Controller σ ρ κ)
    (source : σ) : Controller σ ρ κ × Begun ρ κ :=
  let mode := c.mode
  let c := c.teardown.clear
  let c :=
    { c with
      past := c.past ++ [c.feed]
      feed :=
        ⟨source, .empty c.config.pageSize c.config.maxLimit⟩ }
  match mode with
  | .pagination => c.forgetPlace.beginGoto 1
  | .autoRefresh => c.beginLive now
  | .unmounted => (c, .ended .discarded)

------------------------------------------------------------
-- Ending Operations
------------------------------------------------------------

/- Record the page that a buffer shows. -/
def record
    (c : Controller σ ρ κ)
    (feed : Feed σ ρ) : Controller σ ρ κ :=
  let w := feed.buffer.window
  let text := fun row =>
    Listing.write feed.source (Listing.key feed.source row)
  let place : NavState :=
    ⟨some w.currentPage, w.firstVisible.map text⟩
  { c with nav := place.write c.nav c.names }

variable [DecidableEq κ]

/- End a move that has loaded everything. -/
def finish
    (c : Controller σ ρ κ)
    (m : Move ρ κ) : Controller σ ρ κ × Outcome :=
  let feed := c.feedAt m.feed
  let (buffer, outcome) :=
    feed.buffer.commit (Listing.key feed.source) m.flight
  let feed := { feed with buffer := buffer }
  let c := c.setFeedAt m.feed feed
  match m.records, outcome with
  | true, .committed => (c.record feed, outcome)
  | _, _ => (c, outcome)

/- Load everything that a move is missing, and end it. -/
def completeMove
    (ask : σ → ListQuery κ → Reply ρ × σ)
    (c : Controller σ ρ κ)
    (m : Move ρ κ) : Controller σ ρ κ × Ended :=
  let feed := c.feedAt m.feed
  match feed.buffer.fly (Listing.key feed.source) ask
      feed.source m.flight with
  | (.ok flight, source) =>
      let c := c.setFeedAt m.feed { feed with source := source }
      let (c, outcome) := c.finish { m with flight := flight }
      (c, .ok outcome)
  | (.error e, source) =>
      (c.setFeedAt m.feed { feed with source := source },
        .error (.source e))

/- Do what is left of an operation. -/
def perform
    (ask : σ → ListQuery κ → Reply ρ × σ)
    (begun : Controller σ ρ κ × Begun ρ κ) :
    Controller σ ρ κ × Ended :=
  match begun with
  | (c, .ended outcome) => (c, .ok outcome)
  | (c, .failed e) => (c, .error e)
  | (c, .moving m) => c.completeMove ask m

------------------------------------------------------------
-- Time
------------------------------------------------------------

/- When the timer ticks next. -/
def due?
    (c : Controller σ ρ κ) : Option Nat :=
  match c.strategy with
  | .live view => view.due?
  | _ => none

/- Begin the tick that is due. -/
def beginTick
    (c : Controller σ ρ κ) : Controller σ ρ κ :=
  match c.strategy with
  | .live view =>
      let (view, buffer) := view.beginTick c.key c.buffer
      { c.setBuffer buffer with strategy := .live view }
  | _ => c

/- End the tick that is loading. -/
def endTick
    (c : Controller σ ρ κ)
    (loaded : Option (Flight ρ κ)) : Controller σ ρ κ :=
  match c.strategy with
  | .live view =>
      let (view, buffer) := view.endTick c.key c.buffer loaded
      { c.setBuffer buffer with strategy := .live view }
  | _ => c

/- Run the tick that is due to its end. -/
def tick
    (ask : σ → ListQuery κ → Reply ρ × σ)
    (c : Controller σ ρ κ) : Controller σ ρ κ :=
  let c := c.beginTick
  match c.strategy with
  | .live { timer := .loading _ flight, .. } =>
      match c.buffer.fly c.key ask c.feed.source flight with
      | (.ok flight, source) =>
          { c with feed := { c.feed with source := source } }.endTick
            (some flight)
      | (.error _, source) =>
          { c with feed := { c.feed with source := source } }.endTick
            none
  | _ => c

/- Run the ticks due up to a moment, at most `fuel` of them. -/
def tickUntil
    (ask : σ → ListQuery κ → Reply ρ × σ)
    (moment : Nat) :
    Nat → Controller σ ρ κ → Controller σ ρ κ
  | 0, c => c
  | fuel + 1, c =>
      match c.due? with
      | some due =>
          if due ≤ moment then
            tickUntil ask moment fuel (c.tick ask)
          else
            c
      | none => c

/-
  Run every tick due up to a moment.  Ticks are a millisecond
  apart at least, which bounds their number.
-/
def advance
    (ask : σ → ListQuery κ → Reply ρ × σ)
    (moment : Nat)
    (c : Controller σ ρ κ) : Controller σ ρ κ :=
  match c.due? with
  | some due => tickUntil ask moment (moment + 1 - due) c
  | none => c

end Controller

end LedgerView
