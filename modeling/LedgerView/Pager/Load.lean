import LedgerView.Pager.Source

/-
  Reading a run of rows in chunks.

  A load reads up to a wanted number of rows from one side of a
  key.  No query asks for more rows than the limit, rows beyond
  what was asked for are ignored, and each chunk continues where
  the one before ended.  A chunk that is not full is the last.

  Key definitions include:
    * `Load`
    * `Load.above`
    * `Load.below`
    * `Load.newest`
    * `Load.isDone`
    * `Load.query`
    * `Load.receive`
    * `Load.run`
-/

namespace LedgerView

/- A load in progress. -/
structure Load (ρ κ : Type) where
  /- The key from which the next chunk continues. -/
  cursor : Option κ
  operator : Operator
  order : SortOrder
  /- Rows still wanted. -/
  remaining : Nat
  /- Rows loaded so far, in the order of the load. -/
  rows : List ρ
deriving Repr

namespace Load

variable {ρ κ : Type}

------------------------------------------------------------
-- Kinds of Loads
------------------------------------------------------------

/- Up to `count` rows newer than a key, oldest first. -/
def above
    (key : κ)
    (count : Nat) : Load ρ κ :=
  { cursor := some key
    operator := .gt
    order := .asc
    remaining := count
    rows := [] }

/-
  Up to `count` rows older than a key, newest first; without a
  key the newest rows.  An inclusive load begins at the key.
-/
def below
    (key : Option κ)
    (count : Nat)
    (inclusive : Bool) : Load ρ κ :=
  { cursor := key
    operator := if inclusive then .lte else .lt
    order := .desc
    remaining := count
    rows := [] }

/-
  The newest rows down to a key, newest first, in one chunk of
  at least one row.
-/
def newest
    (limit : Nat)
    (key : κ)
    (count : Nat) : Load ρ κ :=
  { cursor := some key
    operator := .gte
    order := .desc
    remaining := min (max count 1) limit
    rows := [] }

/- A load that has nothing to read. -/
def nothing : Load ρ κ :=
  below none 0 false

------------------------------------------------------------
-- Chunks
------------------------------------------------------------

/- The size of the next chunk. -/
def chunkSize
    (limit : Nat)
    (l : Load ρ κ) : Nat :=
  min l.remaining limit

/- Whether every wanted row has been asked for. -/
def isDone
    (l : Load ρ κ) : Bool :=
  l.remaining == 0

/- The query for the next chunk. -/
def query
    (limit : Nat)
    (l : Load ρ κ) : ListQuery κ :=
  { key := l.cursor
    operator := l.operator
    order := l.order
    limit := l.chunkSize limit }

/- Take the rows that answer the query. -/
def receive
    (key : ρ → κ)
    (limit : Nat)
    (l : Load ρ κ)
    (reply : List ρ) : Load ρ κ :=
  let size := l.chunkSize limit
  let chunk := reply.take size
  { l with
    cursor := (chunk.getLast?.map key).or l.cursor
    operator := l.operator.strict
    remaining :=
      if chunk.length = size then l.remaining - size else 0
    rows := l.rows ++ chunk }

/- A chunk leaves fewer rows to be wanted. -/
theorem remaining_receive_lt
    (key : ρ → κ)
    (limit : Nat)
    (l : Load ρ κ)
    (reply : List ρ)
    (hLimit : 0 < limit)
    (hRemaining : l.remaining ≠ 0) :
    (l.receive key limit reply).remaining < l.remaining := by
  have hSize : 0 < l.chunkSize limit := by
    simp only [chunkSize]
    omega
  by_cases hFull :
      (reply.take (l.chunkSize limit)).length =
        l.chunkSize limit
  · simp only [receive, hFull, if_true]
    omega
  · simp only [receive, hFull, if_false]
    omega

------------------------------------------------------------
-- Whole Loads
------------------------------------------------------------

/-
  Read every chunk from a source, which may change with every
  query it answers.
-/
def run
    {σ : Type}
    (key : ρ → κ)
    (limit : Nat)
    (hLimit : 0 < limit)
    (ask : σ → ListQuery κ → Reply ρ × σ)
    (source : σ)
    (l : Load ρ κ) : Except SourceError (Load ρ κ) × σ :=
  if _hDone : l.remaining = 0 then
    (.ok l, source)
  else
    match ask source (l.query limit) with
    | (.error e, source) => (.error e, source)
    | (.ok rows, source) =>
        run key limit hLimit ask source
          (l.receive key limit (rows.getD []))
termination_by l.remaining
decreasing_by
  exact remaining_receive_lt key limit l _ hLimit (by assumption)

end Load

end LedgerView
