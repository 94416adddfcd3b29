/-
  Tickets that go stale.

  An operation takes a ticket when it begins.  Aborting makes
  every ticket taken so far stale: such an operation may go on
  loading, but what it loaded is discarded at its end.  The
  counters are 64-bit words and wrap around.

  Key definitions include:
    * `Guard`
    * `Guard.ticket`
    * `Guard.abort`
    * `Guard.isCurrent`
    * `Guard.noteDiscarded`
-/

namespace LedgerView

/- How often was aborted, and how much was discarded. -/
structure Guard where
  generation : UInt64 := 0
  discarded : UInt64 := 0
deriving Repr, DecidableEq, Inhabited

/- The generation in which an operation began. -/
structure Ticket where
  generation : UInt64
deriving Repr, DecidableEq, Inhabited

namespace Guard

/- A ticket for an operation that begins now. -/
def ticket
    (g : Guard) : Ticket :=
  ⟨g.generation⟩

/- Make every ticket taken so far stale. -/
def abort
    (g : Guard) : Guard :=
  { g with generation := g.generation + 1 }

/- Whether nothing was aborted since the ticket was taken. -/
def isCurrent
    (g : Guard)
    (t : Ticket) : Bool :=
  g.generation == t.generation

/- Count an operation whose outcome was discarded. -/
def noteDiscarded
    (g : Guard) : Guard :=
  { g with discarded := g.discarded + 1 }

end Guard

end LedgerView
