import LedgerView.Session.Snapshot
import LedgerView.Table.Filter

/-
  What users ask of the workspace, and what it tells them.

  Key definitions include:
    * `Command`
    * `Event`
-/

namespace LedgerView

/- Something that is asked of the workspace. -/
inductive Command where
  /- Show another table, as it was left. -/
  | switchTable (table : TableKind)
  | gotoPage (page : Nat)
  | nextPage
  | previousPage
  /- Show the newest rows, and keep them fresh. -/
  | live
  | togglePause
  | refresh
  | setPageSize (pageSize : Nat)
  /- Filter every table. -/
  | setFilter (filter : Filter)
  | shutdown
deriving Repr, DecidableEq

/- Something that the workspace tells. -/
inductive Event where
  | page (snapshot : Snapshot)
  | notice (message : String)
  | fault (message : String)
deriving Repr, DecidableEq

end LedgerView
