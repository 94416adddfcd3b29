import LedgerView.Nav.Link
import LedgerView.Pager.AutoRefresh
import LedgerView.Pager.Controller
import LedgerView.Table.Filter

/-
  A page as it is sent to be shown.

  Key definitions include:
    * `Snapshot`
-/

namespace LedgerView

/- Everything that is shown of a table. -/
structure Snapshot where
  table : TableKind
  columns : List String
  rows : List (List String)
  /- The key of each row, as links have it. -/
  keys : List String
  page : Nat
  pageCount : Nat
  totalRowCount : Nat
  drained : Bool
  pageSize : Nat
  mode : PagerMode
  live : Option LiveStatus
  filter : Filter
  link : String
deriving Repr, DecidableEq, Inhabited

end LedgerView
