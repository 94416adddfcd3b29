/-
  Settings of a table.

  Key definitions include:
    * `PagerConfig`
-/

namespace LedgerView

/- How a table pages and refreshes. -/
structure PagerConfig where
  /- Rows on a page. -/
  pageSize : Nat := 15
  /- The most rows that one query may ask for. -/
  maxLimit : Nat := 100
  /- The grain of the estimated row count. -/
  presumedRowCount : Nat := 50
  /- Milliseconds between timed refreshes. -/
  updatePeriod : Nat := 5000
  /- Timed refreshes until the timer pauses; 0 for no end. -/
  maxAutoUpdateCount : UInt32 := 20
deriving Repr, DecidableEq, Inhabited

end LedgerView
