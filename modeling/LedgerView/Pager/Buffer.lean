import LedgerView.Nav.Error
import LedgerView.Pager.Guard
import LedgerView.Pager.Load
import LedgerView.Pager.Window

/-
  The buffer that holds a table's window.

  An operation on the window has three phases.  It is planned
  against the window as it stands, taking a ticket; it loads
  what it is missing; and it commits what it loaded as one edit
  of the window.  Between plan and commit other operations may
  run.  An operation commits only when nothing was aborted and
  nothing was committed since its plan; otherwise it is
  discarded and the window stays as it is.

  Key definitions include:
    * `Plan`
    * `PreparedMove`
    * `Edit`
    * `Edit.apply`
    * `Flight`
    * `PreparedMove.begin`
    * `Buffer`
    * `Buffer.plan`
    * `Buffer.prepareMove`
    * `Buffer.beginRefresh`
    * `Buffer.commit`
    * `Buffer.clear`
    * `Buffer.setPageSize`
-/

namespace LedgerView

------------------------------------------------------------
-- Outcomes
------------------------------------------------------------

/- How an operation that did not fail ended. -/
inductive Outcome where
  | committed
  | discarded
deriving Repr, DecidableEq, Inhabited

/- The name in records. -/
def Outcome.name : Outcome → String
  | committed => "committed"
  | discarded => "discarded"

/- Why an operation failed. -/
inductive PagerError where
  | nav (fault : NavError)
  | source (fault : SourceError)
deriving Repr, DecidableEq

/- The wording shown to users. -/
def PagerError.message : PagerError → String
  | nav fault => fault.message
  | source fault => fault.message

------------------------------------------------------------
-- Plans
------------------------------------------------------------

/- What an operation knows of the window it was planned for. -/
structure Plan (κ : Type) where
  ticket : Ticket
  revision : UInt64
  pageSize : Nat
  length : Nat
  shadow : Nat
  drained : Bool
  head : Option κ
  tail : Option κ
deriving Repr

/- A move to a page, planned and not begun. -/
structure PreparedMove (κ : Type) where
  plan : Plan κ
  page : Nat
  /- Where the page begins in the whole list. -/
  start : Nat
  /- Where the page ends in the whole list. -/
  stop : Nat
deriving Repr

/-
  The rows of a page in the whole list.  A page whose end is no
  64-bit word does not exist.
-/
def pageBounds?
    (page pageSize : Nat) : Option (Nat × Nat) :=
  let start := (page - 1) * pageSize
  if start + pageSize ≤ maxWord then
    some (start, start + pageSize)
  else
    none

------------------------------------------------------------
-- Edits
------------------------------------------------------------

/- How loaded rows change the window. -/
inductive Edit where
  /- Replace it by a page that begins at its anchor. -/
  | anchored (start pageSize : Nat)
  /- Fill it from the newest row to the end of a page. -/
  | initial (start stop : Nat)
  /- Put newer rows in front. -/
  | head (start wanted : Nat)
  /- Put older rows behind. -/
  | tail (start wanted : Nat)
  /- Show another part of it. -/
  | turn (start : Nat)
  /- Replace it by the newest page. -/
  | newest (pageSize : Nat)
  /- Put newer rows in front if they reach down to it. -/
  | join
deriving Repr, DecidableEq

namespace Edit

variable {ρ κ : Type}

/- Show the page that begins at `start`, or the last one. -/
def showPage
    (w : Window ρ)
    (start : Nat) : Window ρ :=
  { w with startIndex := w.clampStart start }

/- Change the window by loaded rows. -/
def apply
    [DecidableEq κ]
    (key : ρ → κ)
    (edit : Edit)
    (loaded : List ρ)
    (w : Window ρ) : Window ρ :=
  match edit with
  | anchored start pageSize =>
      { w with
        rows := loaded
        startIndex := 0
        shadow := start
        drained := loaded.length < pageSize }
  | initial start stop =>
      showPage
        { w with
          rows := loaded
          shadow := 0
          drained := loaded.length < stop }
        start
  | head start wanted =>
      showPage
        { w with
          rows := loaded.reverse ++ w.rows
          shadow :=
            if loaded.length < wanted then 0
            else w.shadow - loaded.length }
        start
  | tail start wanted =>
      showPage
        { w with
          rows := w.rows ++ loaded
          drained := w.drained || loaded.length < wanted }
        start
  | turn start => showPage w start
  | newest pageSize =>
      { w.reset with
        rows := loaded
        drained := loaded.length < pageSize }
  | join =>
      match stitch key loaded w.rows with
      | (rows, .concatenated _) => { w with rows := rows }
      | (rows, .replaced) => { w.reset with rows := rows }

end Edit

------------------------------------------------------------
-- Operations in Flight
------------------------------------------------------------

/- An operation that was begun and has not committed. -/
structure Flight (ρ κ : Type) where
  plan : Plan κ
  edit : Edit
  load : Load ρ κ
deriving Repr

namespace Flight

variable {ρ κ : Type}

/- Take the rows that answer the operation's query. -/
def receive
    (key : ρ → κ)
    (limit : Nat)
    (f : Flight ρ κ)
    (reply : List ρ) : Flight ρ κ :=
  { f with load := f.load.receive key limit reply }

end Flight

namespace PreparedMove

variable {ρ κ : Type}

/-
  Begin a prepared move.  With an anchor the page is rebuilt
  from that row on.  Without one the rows at hand are used: only
  those missing above or below them are loaded.
-/
def begin
    (m : PreparedMove κ)
    (anchor : Option κ) : Flight ρ κ :=
  let plan := m.plan
  match anchor with
  | some key =>
      ⟨plan, .anchored m.start plan.pageSize,
        .below (some key) plan.pageSize true⟩
  | none =>
      match plan.head, plan.tail with
      | some head, some tail =>
          let known := plan.shadow + plan.length
          if m.start < plan.shadow then
            let wanted := plan.shadow - m.start
            ⟨plan, .head m.start wanted, .above head wanted⟩
          else if known < m.stop && !plan.drained then
            let wanted := m.stop - known
            ⟨plan, .tail m.start wanted,
              .below (some tail) wanted false⟩
          else
            ⟨plan, .turn m.start, .nothing⟩
      | _, _ =>
          ⟨plan, .initial m.start m.stop, .below none m.stop false⟩

end PreparedMove

------------------------------------------------------------
-- Buffers
------------------------------------------------------------

/- A window with what guards its changes. -/
structure Buffer (ρ : Type) where
  window : Window ρ
  guard : Guard
  /- Grows with every change of the window. -/
  revision : UInt64
  /- How often readers were told of a change. -/
  notices : UInt64
  /- The most rows that one query may ask for. -/
  maxLimit : Nat
  maxLimit_pos : 0 < maxLimit

namespace Buffer

variable {ρ κ : Type}

/- A buffer that holds nothing. -/
def empty
    (pageSize maxLimit : Nat) : Buffer ρ :=
  { window := .empty pageSize
    guard := {}
    revision := 0
    notices := 0
    maxLimit := max maxLimit 1
    maxLimit_pos := max_one_pos maxLimit }

instance : Inhabited (Buffer ρ) :=
  ⟨empty 1 1⟩

/- Change the window and tell every reader. -/
def publish
    (b : Buffer ρ)
    (w : Window ρ) : Buffer ρ :=
  { b with
    window := w
    revision := b.revision + 1
    notices := b.notices + 1 }

/- Make every operation in flight stale. -/
def abort
    (b : Buffer ρ) : Buffer ρ :=
  { b with guard := b.guard.abort }

/- Make every operation in flight stale and forget the rows. -/
def clear
    (b : Buffer ρ) : Buffer ρ :=
  b.abort.publish b.window.reset

/- Change the page size; operations in flight become stale. -/
def setPageSize
    (b : Buffer ρ)
    (pageSize : Nat) : Buffer ρ :=
  b.publish
    { b.window with
      pageSize := max pageSize 1
      startIndex :=
        min b.window.startIndex b.window.rows.length }

/- What an operation that begins now knows. -/
def plan
    (key : ρ → κ)
    (b : Buffer ρ) : Plan κ :=
  { ticket := b.guard.ticket
    revision := b.revision
    pageSize := b.window.pageSize
    length := b.window.rows.length
    shadow := b.window.shadow
    drained := b.window.drained
    head := b.window.rows.head?.map key
    tail := b.window.rows.getLast?.map key }

/- Plan a move to a page; page 0 counts as page 1. -/
def prepareMove
    (key : ρ → κ)
    (b : Buffer ρ)
    (page : Nat) : Except NavError (PreparedMove κ) :=
  let page := max page 1
  match pageBounds? page b.window.pageSize with
  | some (start, stop) => .ok ⟨b.plan key, page, start, stop⟩
  | none => .error (.ofPage page)

/-
  Begin a refresh.  New rows are loaded down to the first row
  kept; a window that is empty or has a shadow is rebuilt from
  the newest page instead.
-/
def beginRefresh
    (key : ρ → κ)
    (b : Buffer ρ) : Flight ρ κ :=
  let plan := b.plan key
  match plan.head, plan.shadow with
  | some head, 0 =>
      ⟨plan, .join, .newest b.maxLimit head b.maxLimit⟩
  | _, _ =>
      ⟨plan, .newest plan.pageSize,
        .below none plan.pageSize false⟩

/- Whether nothing happened to the window since a plan. -/
def isCurrent
    (b : Buffer ρ)
    (p : Plan κ) : Bool :=
  b.guard.isCurrent p.ticket && b.revision == p.revision

/- End an operation with the rows that it has loaded. -/
def commit
    [DecidableEq κ]
    (key : ρ → κ)
    (b : Buffer ρ)
    (f : Flight ρ κ) : Buffer ρ × Outcome :=
  if b.isCurrent f.plan then
    (b.publish (f.edit.apply key f.load.rows b.window), .committed)
  else
    ({ b with guard := b.guard.noteDiscarded }, .discarded)

/- Load everything that an operation is missing. -/
def fly
    {σ : Type}
    (key : ρ → κ)
    (b : Buffer ρ)
    (ask : σ → ListQuery κ → Reply ρ × σ)
    (source : σ)
    (f : Flight ρ κ) : Except SourceError (Flight ρ κ) × σ :=
  match f.load.run key b.maxLimit b.maxLimit_pos ask source with
  | (.ok load, source) => (.ok { f with load := load }, source)
  | (.error e, source) => (.error e, source)

/- The buffer in one line, for diagnosis. -/
def describe
    (b : Buffer ρ) : String :=
  "RowBuffer \x7b rows: " ++ toString b.window.rows.length ++
    ", start_index: " ++ toString b.window.startIndex ++
    ", shadow_row_count: " ++ toString b.window.shadow ++
    ", drained: " ++ toString b.window.drained ++
    ", page_size: " ++ toString b.window.pageSize ++
    ", max_limit: " ++ toString b.maxLimit ++ " \x7d"

end Buffer

end LedgerView
