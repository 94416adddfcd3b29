import LedgerView.Pager.Buffer

/-
  The live view, which refreshes itself.

  A timer ticks with a fixed period.  Each tick supersedes what
  is in flight and refreshes the window; when the refresh has
  ended, well or not, the tick is counted.  After a set number
  of ticks the timer pauses.  Pausing drops the tick that is
  loading; resuming starts the count anew.

  Key definitions include:
    * `Timer`
    * `AutoRefresh`
    * `AutoRefresh.start`
    * `AutoRefresh.pause`
    * `AutoRefresh.resume`
    * `AutoRefresh.beginTick`
    * `AutoRefresh.endTick`
    * `LiveStatus`
-/

namespace LedgerView

------------------------------------------------------------
-- Timers
------------------------------------------------------------

/- Off, waiting for its time, or loading since then. -/
inductive Timer (ρ κ : Type) where
  | off
  | waiting (due : Nat)
  | loading (due : Nat) (flight : Flight ρ κ)

/- What users see of the live view. -/
structure LiveStatus where
  paused : Bool
  /- Ticks since the last start or resume. -/
  updateCount : UInt32
  /- Ticks until the timer pauses; 0 for no end. -/
  maxCount : UInt32
deriving Repr, DecidableEq, Inhabited

/- The live view of a table. -/
structure AutoRefresh (ρ κ : Type) where
  /- Milliseconds between ticks. -/
  period : Nat
  period_pos : 0 < period
  maxCount : UInt32
  count : UInt32
  paused : Bool
  timer : Timer ρ κ

namespace AutoRefresh

variable {ρ κ : Type}

/- A live view that has not been started. -/
def new
    (period : Nat)
    (maxCount : UInt32) : AutoRefresh ρ κ :=
  { period := max period 1
    period_pos := max_one_pos period
    maxCount := maxCount
    count := 0
    paused := false
    timer := .off }

/- What users see. -/
def status
    (a : AutoRefresh ρ κ) : LiveStatus :=
  ⟨a.paused, a.count, a.maxCount⟩

------------------------------------------------------------
-- Running and Pausing
------------------------------------------------------------

/- Start the timer, and the count anew. -/
def start
    (now : Nat)
    (a : AutoRefresh ρ κ) : AutoRefresh ρ κ :=
  { a with
    count := 0
    paused := false
    timer := .waiting (now + a.period) }

/- Stop the timer; a tick that is loading is dropped. -/
def stop
    (a : AutoRefresh ρ κ) : AutoRefresh ρ κ :=
  { a with timer := .off }

/- Stop the timer until it is resumed. -/
def pause
    (a : AutoRefresh ρ κ) : AutoRefresh ρ κ :=
  { a.stop with paused := true }

/- Start again. -/
def resume
    (now : Nat)
    (a : AutoRefresh ρ κ) : AutoRefresh ρ κ :=
  a.start now

/- Pause a running timer, resume a paused one. -/
def toggle
    (now : Nat)
    (a : AutoRefresh ρ κ) : AutoRefresh ρ κ :=
  if a.paused then a.resume now else a.pause

------------------------------------------------------------
-- Ticks
------------------------------------------------------------

/- When the next tick is due. -/
def due?
    (a : AutoRefresh ρ κ) : Option Nat :=
  match a.timer with
  | .waiting due => some due
  | _ => none

/- Begin a refresh that supersedes what is in flight. -/
def beginRefresh
    (key : ρ → κ)
    (b : Buffer ρ) : Buffer ρ × Flight ρ κ :=
  let b := b.abort
  (b, b.beginRefresh key)

/- Begin the tick that is due. -/
def beginTick
    (key : ρ → κ)
    (a : AutoRefresh ρ κ)
    (b : Buffer ρ) : AutoRefresh ρ κ × Buffer ρ :=
  match a.timer with
  | .waiting due =>
      let (b, flight) := beginRefresh key b
      ({ a with timer := .loading due flight }, b)
  | _ => (a, b)

/- Count a tick that has ended. -/
def countTick
    (due : Nat)
    (a : AutoRefresh ρ κ) : AutoRefresh ρ κ :=
  let count := a.count + 1
  if 0 < a.maxCount && a.maxCount ≤ count then
    { a with count := count, paused := true, timer := .off }
  else
    { a with count := count, timer := .waiting (due + a.period) }

/-
  End the tick that is loading: with what it has loaded, or
  without anything if the load failed.
-/
def endTick
    [DecidableEq κ]
    (key : ρ → κ)
    (a : AutoRefresh ρ κ)
    (b : Buffer ρ)
    (loaded : Option (Flight ρ κ)) : AutoRefresh ρ κ × Buffer ρ :=
  match a.timer with
  | .loading due _ =>
      let b :=
        match loaded with
        | some flight => (b.commit key flight).1
        | none => b
      (a.countTick due, b)
  | _ => (a, b)

end AutoRefresh

end LedgerView
