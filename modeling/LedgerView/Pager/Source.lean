/-
  Queries on a list of rows.

  A source holds rows in descending order of their keys and
  answers bounded queries: the rows whose keys stand in some
  relation to a given key, in either order, up to a limit.  It
  may be unable to answer, and a query may fail.

  Key definitions include:
    * `Operator`
    * `Operator.accepts`
    * `SortOrder`
    * `ListQuery`
    * `SourceError`
    * `Reply`
    * `selectRows`
-/

namespace LedgerView

------------------------------------------------------------
-- Operators
------------------------------------------------------------

/- How the keys of wanted rows relate to a given key. -/
inductive Operator where
  | gt
  | gte
  | lt
  | lte
deriving Repr, DecidableEq, Inhabited

namespace Operator

/- Every operator. -/
def all : List Operator :=
  [gt, gte, lt, lte]

/- The spelling in queries. -/
def name : Operator → String
  | gt => "gt"
  | gte => "gte"
  | lt => "lt"
  | lte => "lte"

/- Whether a candidate stands in the relation to a bound. -/
def accepts
    {κ : Type}
    [Ord κ]
    (op : Operator)
    (candidate bound : κ) : Bool :=
  match op with
  | gt => compare candidate bound == .gt
  | gte => compare candidate bound != .lt
  | lt => compare candidate bound == .lt
  | lte => compare candidate bound != .gt

/- The operator that leaves out the bound itself. -/
def strict : Operator → Operator
  | gt | gte => gt
  | lt | lte => lt

end Operator

------------------------------------------------------------
-- Queries
------------------------------------------------------------

/- The order in which rows are wanted. -/
inductive SortOrder where
  | asc
  | desc
deriving Repr, DecidableEq, Inhabited

namespace SortOrder

/- Both orders. -/
def all : List SortOrder :=
  [asc, desc]

/- The spelling in queries. -/
def name : SortOrder → String
  | asc => "asc"
  | desc => "desc"

end SortOrder

/-
  One bounded query.  Without a key every row is wanted and the
  operator is ignored.
-/
structure ListQuery (κ : Type) where
  key : Option κ
  operator : Operator
  order : SortOrder
  limit : Nat
deriving Repr, DecidableEq

/- Whether a query asks for a row with this key. -/
def ListQuery.wants
    {κ : Type}
    [Ord κ]
    (q : ListQuery κ)
    (candidate : κ) : Bool :=
  match q.key with
  | none => true
  | some bound => q.operator.accepts candidate bound

------------------------------------------------------------
-- Answers
------------------------------------------------------------

/- Why a query failed. -/
inductive SourceError where
  | refused (reason : String)
  | address (url reason : String)
  | unanswered (url : String)
  | rejected (url : String)
  | unreadable
  | payload (field : String)
deriving Repr, DecidableEq

namespace SourceError

/- What happened, and then its causes as far as they are told. -/
def chain : SourceError → List String
  | refused reason => [reason]
  | address url reason =>
      ["invalid mirror url " ++ url, reason]
  | unanswered url => ["Failed to query " ++ url]
  | rejected url => ["Mirror node rejected " ++ url]
  | unreadable => ["Failed to parse mirror node response"]
  | payload field => ["Unexpected " ++ field ++ " payload"]

/- The whole chain on one line. -/
def message
    (e : SourceError) : String :=
  ": ".intercalate e.chain

end SourceError

/-
  The answer to a query: rows, nothing when the query cannot be
  answered at present, or a failure.
-/
abbrev Reply (ρ : Type) :=
  Except SourceError (Option (List ρ))

/-
  The wanted rows of a descending list, in the wanted order and
  up to the limit.
-/
def selectRows
    {ρ κ : Type}
    [Ord κ]
    (key : ρ → κ)
    (rows : List ρ)
    (q : ListQuery κ) : List ρ :=
  let wanted := rows.filter fun row => q.wants (key row)
  match q.order with
  | .desc => wanted.take q.limit
  | .asc => wanted.reverse.take q.limit

end LedgerView
