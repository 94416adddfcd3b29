import LedgerView.Proofs.Nav.Query
import LedgerView.Proofs.Source.Chronicle
import LedgerView.Proofs.Table.Moored

/-
  Where recorded places come from.

  A place is recorded by a move of some table to a page of its
  source, whose rows may have become more since.  That table may
  itself have opened places, which were recorded before.  So
  whoever opens a place finds as many rows above its key as
  stand above its page, as long as the pages have the size that
  they had when it was recorded.

  Key definitions include:
    * `Catalog`
    * `TableTraffic.Fresh`
    * `Catalog.Noted`
    * `TableTraffic.OpensNoted`

  Key theorems include:
    * `Catalog.Noted.offset_le`
    * `TableTraffic.moored_of_noted`
-/

namespace LedgerView

variable {σ ρ κ : Type}
variable [LinearOrder κ] [Listing σ ρ κ]
variable {key : ρ → κ}

------------------------------------------------------------
-- Places That Were Recorded
------------------------------------------------------------

/- Sources that all write their keys in one way. -/
structure Catalog
    (σ : Type)
    {ρ κ : Type}
    [LinearOrder κ]
    [Listing σ ρ κ]
    (key : ρ → κ) extends Holdings σ key where
  codec : KeyCodec κ
  write_eq : ∀ source : σ, Listing.write source = codec.write
  read?_eq : ∀ source : σ, Listing.read? source = codec.read?

omit [LinearOrder κ] [Listing σ ρ κ] in
/- A table of which nothing has been asked. -/
def TableTraffic.Fresh
    (s : TableTraffic σ ρ κ) : Prop :=
  ∃ source config nav names,
    s = start (.new source config nav names)

namespace Catalog

/-
  What the parameters of a table say once they are recorded on
  some rows, under a page size.  The table may have done anything
  before, over a source that told the truth and only gained newer
  rows, but whatever place it opened was recorded in turn.  The
  rows may have become more since then.
-/
inductive Noted
    (R : Catalog σ key) :
    Archive key → Nat → NavState → Prop where
  | now
      (s : TableTraffic σ ρ κ)
      (before : List (TableTraffic.Event σ ρ))
      (event : TableTraffic.Event σ ρ)
      (hFresh : s.Fresh)
      (hNames : s.table.names.Distinct)
      (hTruthful :
        s.Along (TableTraffic.Truthful R.toHoldings)
          (before ++ [event]))
      (hFew : (s.run (before ++ [event])).aborts < 2 ^ 64)
      (hOpens : ∀ done opening rest,
        before = done ++ opening :: rest →
          (s.run done).Opens opening →
            Noted R (R.archive (s.run done).table.feed.source)
              (s.run done).table.window.pageSize
              (s.run done).table.navState)
      (hRecords : (s.run before).Records event) :
      Noted R
        (R.archive
          (s.run (before ++ [event])).table.feed.source)
        (s.run (before ++ [event])).table.window.pageSize
        (s.run (before ++ [event])).table.navState
  | later
      {archive next : Archive key}
      {pageSize : Nat}
      {place : NavState}
      (hNoted : Noted R archive pageSize place)
      (hGrown : (Conduct.growing key).Becomes archive next) :
      Noted R next pageSize place

end Catalog

namespace TableTraffic

variable {R : Catalog σ key} {s : TableTraffic σ ρ κ}

/- Whatever place an event opens was recorded before. -/
def OpensNoted
    (R : Catalog σ key)
    (s : TableTraffic σ ρ κ)
    (event : Event σ ρ) : Prop :=
  s.Opens event →
    R.Noted (R.archive s.table.feed.source)
      s.table.window.pageSize s.table.navState

/- The window of a fresh table stands. -/
theorem Fresh.moored
    (hFresh : s.Fresh)
    (H : Holdings σ key) :
    s.Moored H := by
  rcases hFresh with ⟨source, config, nav, names, rfl⟩
  exact moored_start H source config nav names

/- A recorded place is that of the first row that is shown. -/
theorem place_of_records
    (R : Catalog σ key)
    (hTimely : s.Timely)
    (hNames : s.table.names.Distinct)
    {event : Event σ ρ}
    (hRecords : s.Records event)
    {page : Nat}
    {k : κ}
    (hPage : (s.step event).table.navState.page = some page)
    (hKey :
      (s.step event).table.navState.key.bind R.codec.read? =
        some k) :
    page = (s.step event).table.currentPage ∧
      ∃ row, (s.step event).table.window.firstVisible = some row ∧
        key row = k := by
  rcases (keepsRecord_step hTimely hNames event).recorded
    hRecords with ⟨-, hPageText, hKeyText⟩
  rw [← s.names_step event] at hPageText hKeyText
  refine ⟨NavState.page_of_readOrEmpty hPageText hPage, ?_⟩
  rcases Option.bind_eq_some_iff.mp hKey with ⟨text, hText, hRead⟩
  have hShown := NavState.key_of_readOrEmpty hText
  rw [hKeyText] at hShown
  rcases Option.map_eq_some_iff.mp hShown with ⟨row, hRow, hWrite⟩
  refine ⟨row, hRow, ?_⟩
  rw [R.write_eq, R.key_eq] at hWrite
  rw [← hWrite, R.codec.read?_write] at hRead
  exact Option.some_inj.mp hRead

end TableTraffic

/- Above the key of a recorded place are the rows before it. -/
theorem Catalog.Noted.offset_le
    {R : Catalog σ key}
    {archive : Archive key}
    {pageSize : Nat}
    {place : NavState}
    (hNoted : R.Noted archive pageSize place)
    {page : Nat}
    {k : κ}
    (hPage : place.page = some page)
    (hKey : place.key.bind R.codec.read? = some k) :
    pageOffset page pageSize ≤ archive.depth k := by
  -- the induction is on the places that were opened before
  induction hNoted generalizing page k with
  | now s before event hFresh hNames hTruthful hFew hOpens
      hRecords ih =>
      rcases TableTraffic.along_append.mp hTruthful with
        ⟨hBefore, hEvent, -⟩
      rw [s.run_concat] at hPage hKey hFew ⊢
      have hMoored : (s.run before).Moored R.toHoldings := by
        refine TableTraffic.moored_run (hFresh.moored _) hBefore
          (TableTraffic.along_of_split ?_)
          (Nat.lt_of_le_of_lt
            ((s.run before).aborts_le_step event) hFew)
        intro done opening rest hSplit hOpening page' k' hPage' hKey'
        unfold Controller.anchor? at hKey'
        rw [R.read?_eq] at hKey'
        exact ih done opening rest hSplit hOpening hPage' hKey'
      have hOpensNone : ¬(s.run before).Opens event := by
        cases event with
        | finish place => exact id
        | _ => exact absurd hRecords id
      have hNext := hMoored.step event hEvent
        (fun hOpening => absurd hOpening hOpensNone) hFew
      rw [← s.names_run before] at hNames
      rcases TableTraffic.place_of_records R hMoored.timely hNames
          hRecords hPage hKey with
        ⟨rfl, row, hRow, rfl⟩
      exact hNext.moored.stands.offset_le hRow
  | later hNoted hGrown ih =>
      exact Nat.le_trans (ih hPage hKey)
        (Archive.depth_le_of_suffix _ hGrown k)

namespace TableTraffic

variable {R : Catalog σ key} {s : TableTraffic σ ρ κ}

/- A place that was recorded elsewhere may be opened later. -/
theorem opensNoted_of_noted
    (s t : TableTraffic σ ρ κ)
    (hNoted :
      R.Noted (R.archive s.table.feed.source)
        s.table.window.pageSize s.table.navState)
    (hGrown :
      (Conduct.growing key).Becomes
        (R.archive s.table.feed.source)
        (R.archive t.table.feed.source))
    (hSize : t.table.window.pageSize = s.table.window.pageSize)
    (hPlace : t.table.navState = s.table.navState)
    (event : Event σ ρ) :
    t.OpensNoted R event := by
  intro _
  rw [hSize, hPlace]
  exact hNoted.later hGrown

/- An event that opens nothing opens nothing else. -/
theorem opensNoted_of_not_opens
    (s : TableTraffic σ ρ κ)
    (event : Event σ ρ)
    (hNot : ¬s.Opens event) :
    s.OpensNoted R event :=
  fun hOpens => absurd hOpens hNot

/- A recorded place is opened at a key that is deep enough. -/
theorem opensDeep_of_noted
    (s : TableTraffic σ ρ κ)
    (event : Event σ ρ)
    (hOpens : s.OpensNoted R event) :
    s.OpensDeep R.toHoldings event := by
  intro hOpening page k hPage hKey
  unfold Controller.anchor? at hKey
  rw [R.read?_eq] at hKey
  exact (hOpens hOpening).offset_le hPage hKey

/-
  However operations overlap, the window of a table stands if
  every place that was opened was recorded before.
-/
theorem moored_of_noted
    (hFresh : s.Fresh)
    {events : List (Event σ ρ)}
    (hTruthful : s.Along (Truthful R.toHoldings) events)
    (hOpens : s.Along (OpensNoted R) events)
    (hFew : (s.run events).aborts < 2 ^ 64) :
    (s.run events).Moored R.toHoldings :=
  moored_run (hFresh.moored _) hTruthful
    (hOpens.imp opensDeep_of_noted) hFew

end TableTraffic

end LedgerView
