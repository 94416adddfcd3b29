import LedgerView.Proofs.Traffic.GapFree
import LedgerView.Proofs.Window.Count

/-
  The page shown is one of the pages counted.

  Whatever a source answers and however operations overlap, the
  visible page is placed among the rows that are counted.  There
  is one exception.  An anchored move takes the rows before its
  page on trust, and if it finds no row at its anchor or after
  it, nothing is left to show on that page.

  Key definitions include:
    * `Record.FindsNothing`
    * `Traffic.Stranded`
    * `Traffic.Charted`

  Key theorems include:
    * `Traffic.charted_step`
    * `Traffic.charted_run`
    * `Traffic.page_within_count`
-/

namespace LedgerView

variable {ε ρ κ : Type}

------------------------------------------------------------
-- Moves and Operations
------------------------------------------------------------

/- A page that is prepared begins at a place that counts. -/
theorem Buffer.start_lt_of_prepareMove
    {key : ρ → κ}
    {b : Buffer ρ}
    {page : Nat}
    {m : PreparedMove κ}
    (hPos : 1 ≤ b.window.pageSize)
    (hPrepare : b.prepareMove key page = .ok m) :
    m.start < maxWord := by
  rcases eq_of_prepareMove hPrepare with ⟨hPage, hMove⟩
  rw [hMove]
  exact Nat.lt_of_lt_of_le (Nat.lt_add_of_pos_right hPos) hPage

/- However a move begins, it is to show the page prepared. -/
theorem PreparedMove.start_begin
    (m : PreparedMove κ)
    (anchor : Option κ) :
    (m.begin anchor : Flight ρ κ).edit.start = m.start := by
  unfold PreparedMove.begin
  dsimp only
  split
  · rfl
  · split
    · split
      · rfl
      · split <;> rfl
    · rfl

/- Only a move with an anchor is anchored. -/
theorem PreparedMove.anchor_of_begin
    {m : PreparedMove κ}
    {anchor : Option κ}
    {start pageSize : Nat}
    (hEdit :
      (m.begin anchor : Flight ρ κ).edit =
        .anchored start pageSize) :
    ∃ key, anchor = some key := by
  cases anchor with
  | some key => exact ⟨key, rfl⟩
  | none =>
      unfold PreparedMove.begin at hEdit
      dsimp only at hEdit
      split at hEdit
      · split at hEdit
        · cases hEdit
        · split at hEdit <;> cases hEdit
      · cases hEdit

/- A refresh shows the first page and is not anchored. -/
theorem Buffer.beginRefresh_cases
    (key : ρ → κ)
    (b : Buffer ρ) :
    (∃ pageSize, (b.beginRefresh key).edit = .newest pageSize) ∨
      (b.beginRefresh key).edit = .join := by
  unfold Buffer.beginRefresh
  dsimp only
  split
  · exact Or.inr rfl
  · exact Or.inl ⟨_, rfl⟩

/-
  An operation that is to show a page that counts, and that is
  anchored only if it was asked to be.
-/
structure Voyage.Charted
    (v : Voyage ρ κ) : Prop where
  start_lt : v.flight.edit.start < maxWord
  anchored :
    ∀ start pageSize, v.flight.edit = .anchored start pageSize →
      ∃ page key, v.operation = .move page (some key)

------------------------------------------------------------
-- Anchors without Rows
------------------------------------------------------------

/- An anchored move that was committed and found no row. -/
structure Record.FindsNothing
    (r : Record ρ κ) : Prop where
  deed :
    ∃ page key, r.deed = .operation (.move page (some key))
  result : r.result = .ok .committed
  rows : r.window.rows = []

namespace Traffic

/-
  An anchored move found no row, and since then neither rows
  came nor did the shadow change.
-/
def Stranded
    (s : Traffic ε ρ κ) : Prop :=
  ∃ before r after,
    s.history = before ++ r :: after ∧ r.FindsNothing ∧
      ∀ r' ∈ r :: after,
        r'.window.rows = [] ∧
          r'.window.shadow = s.buffer.window.shadow

/- It stays so while the window keeps its rows and its shadow. -/
theorem Stranded.concat
    {s s' : Traffic ε ρ κ}
    {deed : Deed κ}
    {result : Except PagerError Outcome}
    (hStranded : s.Stranded)
    (hHistory :
      s'.history =
        s.history ++ [⟨deed, result, s'.buffer.window⟩])
    (hNone : s'.buffer.window.rows = [])
    (hShadow : s'.buffer.window.shadow = s.buffer.window.shadow) :
    s'.Stranded := by
  rcases hStranded with ⟨before, r, after, hOld, hFinds, hSince⟩
  refine
    ⟨before, r, after ++ [⟨deed, result, s'.buffer.window⟩], ?_,
      hFinds, ?_⟩
  · rw [hHistory, hOld, List.append_assoc]
    rfl
  · rw [← List.cons_append]
    refine List.forall_mem_append.mpr ⟨?_, ?_⟩
    · rw [hShadow]
      exact hSince
    · exact List.forall_mem_singleton.mpr ⟨hNone, rfl⟩

------------------------------------------------------------
-- Invariant
------------------------------------------------------------

/-
  The visible page is well placed, so is everything prepared or
  under way, and a shadow before no rows has its reason.
-/
structure Charted
    (s : Traffic ε ρ κ) : Prop where
  placed : s.buffer.window.Placed
  prepared : ∀ m ∈ s.prepared, m.start < maxWord
  voyages : ∀ v ∈ s.voyages, v.Charted
  stranded :
    s.buffer.window.rows = [] → 0 < s.buffer.window.shadow →
      s.Stranded

/- Nothing has happened to a fresh buffer. -/
theorem charted_start
    (source : ε)
    (pageSize maxLimit : Nat) :
    (start source pageSize maxLimit :
      Traffic ε ρ κ).Charted where
  placed := Window.placed_empty pageSize
  prepared := fun _ hm => absurd hm List.not_mem_nil
  voyages := fun _ hv => absurd hv List.not_mem_nil
  stranded := fun _ hShadow => by cases hShadow

namespace Charted

variable {s : Traffic ε ρ κ}

/- A note that the window stays as it is. -/
theorem note
    (hCharted : s.Charted)
    (deed : Deed κ)
    (result : Except PagerError Outcome) :
    (s.note deed result).Charted where
  placed := hCharted.placed
  prepared := hCharted.prepared
  voyages := hCharted.voyages
  stranded := fun hNone hShadow =>
    (hCharted.stranded hNone hShadow).concat rfl hNone rfl

/- Voyages may be given up. -/
theorem erase
    (hCharted : s.Charted)
    (place : Nat) :
    ({ s with voyages := s.voyages.eraseIdx place } :
      Traffic ε ρ κ).Charted where
  placed := hCharted.placed
  prepared := hCharted.prepared
  voyages := fun v hv =>
    hCharted.voyages v (List.mem_of_mem_eraseIdx hv)
  stranded := hCharted.stranded

/- Charted voyages may begin. -/
theorem embark
    (hCharted : s.Charted)
    {v : Voyage ρ κ}
    (hVoyage : v.Charted) :
    ({ s with voyages := s.voyages ++ [v] } :
      Traffic ε ρ κ).Charted where
  placed := hCharted.placed
  prepared := hCharted.prepared
  voyages :=
    List.forall_mem_append.mpr
      ⟨hCharted.voyages, List.forall_mem_singleton.mpr hVoyage⟩
  stranded := hCharted.stranded

/- The guard is of no account here. -/
theorem guard
    (hCharted : s.Charted)
    (guard : Guard) :
    ({ s with buffer := { s.buffer with guard := guard } } :
      Traffic ε ρ κ).Charted :=
  ⟨hCharted.placed, hCharted.prepared, hCharted.voyages,
    hCharted.stranded⟩

/- A page is prepared. -/
theorem prepare
    (hCharted : s.Charted)
    {key : ρ → κ}
    {page : Nat}
    {m : PreparedMove κ}
    (hPrepare : s.buffer.prepareMove key page = .ok m) :
    ({ s with prepared := s.prepared ++ [m] } :
      Traffic ε ρ κ).Charted where
  placed := hCharted.placed
  prepared :=
    List.forall_mem_append.mpr
      ⟨hCharted.prepared,
        List.forall_mem_singleton.mpr
          (Buffer.start_lt_of_prepareMove
            hCharted.placed.pageSize_pos hPrepare)⟩
  voyages := hCharted.voyages
  stranded := hCharted.stranded

/- A prepared move begins. -/
theorem depart
    (hCharted : s.Charted)
    {place : Nat}
    {m : PreparedMove κ}
    (hPlace : s.prepared[place]? = some m)
    (anchor : Option κ) :
    ({ s with
        prepared := s.prepared.eraseIdx place
        voyages :=
          s.voyages ++ [⟨.move m.page anchor, m.begin anchor⟩] } :
      Traffic ε ρ κ).Charted := by
  have hRest :
      ({ s with prepared := s.prepared.eraseIdx place } :
        Traffic ε ρ κ).Charted :=
    { hCharted with
      prepared := fun m' hm' =>
        hCharted.prepared m' (List.mem_of_mem_eraseIdx hm') }
  refine hRest.embark ⟨?_, ?_⟩
  · dsimp only
    rw [PreparedMove.start_begin]
    exact hCharted.prepared m (List.mem_of_getElem? hPlace)
  · intro start pageSize hEdit
    rcases PreparedMove.anchor_of_begin hEdit with ⟨key, hAnchor⟩
    exact ⟨m.page, key, by rw [hAnchor]⟩

/- A refresh begins. -/
theorem refresh
    (hCharted : s.Charted)
    (key : ρ → κ) :
    ({ s with
        voyages :=
          s.voyages ++ [⟨.refresh, s.buffer.beginRefresh key⟩] } :
      Traffic ε ρ κ).Charted := by
  refine hCharted.embark ⟨?_, fun start pageSize hEdit => ?_⟩
  · have hWord : 0 < maxWord := by decide
    dsimp only
    rcases s.buffer.beginRefresh_cases key with
      ⟨pageSize, hNewest⟩ | hJoin
    · rw [hNewest]
      exact hWord
    · rw [hJoin]
      exact hWord
  · dsimp only at hEdit
    rcases s.buffer.beginRefresh_cases key with
      ⟨pageSize', hNewest⟩ | hJoin
    · rw [hNewest] at hEdit
      cases hEdit
    · rw [hJoin] at hEdit
      cases hEdit

/- An answer changes no edit. -/
theorem answer
    (hCharted : s.Charted)
    {place : Nat}
    {v : Voyage ρ κ}
    (hVoyage : s.voyages[place]? = some v)
    (key : ρ → κ)
    (reply : Reply ρ) :
    (s.answer key place v reply).Charted := by
  cases reply with
  | error e => exact (hCharted.erase place).note _ _
  | ok rows =>
      refine
        ⟨hCharted.placed, hCharted.prepared, fun v' hv' => ?_,
          hCharted.stranded⟩
      rcases List.mem_or_eq_of_mem_set hv' with hOld | hSame
      · exact hCharted.voyages v' hOld
      · have hThis :=
          hCharted.voyages v (List.mem_of_getElem? hVoyage)
        rw [hSame]
        exact ⟨hThis.start_lt, hThis.anchored⟩

/-
  A window is published that is well placed, and whose shadow
  before no rows has its reason.
-/
theorem publish
    (hCharted : s.Charted)
    {w : Window ρ}
    (deed : Deed κ)
    (hPlaced : w.Placed)
    (hReason :
      w.rows = [] → 0 < w.shadow →
        (∃ page key, deed = .operation (.move page (some key))) ∨
          (s.buffer.window.rows = [] ∧
            w.shadow = s.buffer.window.shadow)) :
    ({ s with buffer := s.buffer.publish w }.note deed
      (.ok .committed)).Charted where
  placed := hPlaced
  prepared := hCharted.prepared
  voyages := hCharted.voyages
  stranded := by
    intro hNone hShadow
    rcases hReason hNone hShadow with hDeed | ⟨hOld, hSame⟩
    · exact
        ⟨s.history, ⟨deed, .ok .committed, w⟩, [], rfl,
          ⟨hDeed, rfl, hNone⟩,
          List.forall_mem_singleton.mpr ⟨hNone, rfl⟩⟩
    · have hBefore : 0 < s.buffer.window.shadow := by
        rw [← hSame]
        exact hShadow
      exact (hCharted.stranded hOld hBefore).concat rfl hNone hSame

variable [DecidableEq κ]

/- An operation is committed, or the window stays as it is. -/
theorem commit
    (hCharted : s.Charted)
    {place : Nat}
    {v : Voyage ρ κ}
    (hVoyage : s.voyages[place]? = some v)
    (key : ρ → κ) :
    (s.commit key place v).Charted := by
  have hThis := hCharted.voyages v (List.mem_of_getElem? hVoyage)
  have hRest := hCharted.erase place
  unfold Traffic.commit Buffer.commit
  split
  · refine hRest.publish _
      (Edit.placed_apply key hCharted.placed hThis.start_lt _) ?_
    intro hNone hShadow
    by_cases hAnchored :
        ∃ start pageSize, v.flight.edit = .anchored start pageSize
    · rcases hAnchored with ⟨start, pageSize, hEdit⟩
      rcases hThis.anchored start pageSize hEdit with
        ⟨page, anchor, hMove⟩
      exact Or.inl ⟨page, anchor, by rw [hMove]⟩
    · refine Or.inr
        (Edit.shadow_apply_of_rows_eq_nil key ?_ hNone hShadow)
      intro start pageSize hEdit
      exact hAnchored ⟨start, pageSize, hEdit⟩
  · exact (hRest.guard _).note _ _

end Charted

variable [DecidableEq κ]

/- No event leads astray but as described. -/
theorem charted_step
    {s : Traffic ε ρ κ}
    (hCharted : s.Charted)
    (key : ρ → κ)
    (event : Event ε ρ κ) :
    (s.step key event).Charted := by
  unfold step
  cases event with
  | source next =>
      exact
        ⟨hCharted.placed, hCharted.prepared, hCharted.voyages,
          hCharted.stranded⟩
  | prepare page =>
      dsimp only
      split
      · next m hPrepare => exact hCharted.prepare hPrepare
      · exact hCharted
  | depart place anchor =>
      dsimp only
      split
      · next m hPlace => exact hCharted.depart hPlace anchor
      · exact hCharted
  | refresh => exact hCharted.refresh key
  | answer place reply =>
      dsimp only
      split
      · next v hVoyage =>
          split
          · exact hCharted
          · exact hCharted.answer hVoyage key reply
      · exact hCharted
  | commit place =>
      dsimp only
      split
      · next v hVoyage =>
          split
          · exact hCharted.commit hVoyage key
          · exact hCharted
      · exact hCharted
  | drop place => exact hCharted.erase place
  | abort => exact hCharted.guard s.buffer.guard.abort
  | clear =>
      refine (hCharted.guard s.buffer.guard.abort).publish .clear
        hCharted.placed.reset fun _ hShadow => ?_
      cases hShadow
  | setPageSize pageSize =>
      exact hCharted.publish (.setPageSize pageSize)
        (hCharted.placed.setPageSize pageSize)
        fun hNone _ => Or.inr ⟨hNone, rfl⟩

/- Nor does any run. -/
theorem charted_run
    {s : Traffic ε ρ κ}
    (hCharted : s.Charted)
    (key : ρ → κ)
    (events : List (Event ε ρ κ)) :
    (s.run key events).Charted := by
  induction events generalizing s with
  | nil => exact hCharted
  | cons event rest ih =>
      exact ih (charted_step hCharted key event)

/-
  Whatever is answered and however operations overlap, the page
  shown is the first or a later one.  It is one of the pages
  counted, unless the window is astray: then it is the page
  after them, and the window is as an anchored move left it that
  found no row.
-/
theorem page_within_count
    (key : ρ → κ)
    (source : ε)
    (pageSize maxLimit presumed : Nat)
    (events : List (Event ε ρ κ)) :
    let s := (start source pageSize maxLimit).run key events
    let w := s.buffer.window
    1 ≤ w.currentPage ∧
      (w.currentPage ≤ w.pageCount presumed ↔ ¬w.Astray) ∧
      (w.Astray →
        w.currentPage = w.pageCount presumed + 1 ∧
          s.Stranded) := by
  intro s w
  have hCharted : s.Charted :=
    charted_run (charted_start source pageSize maxLimit) key events
  have hFirst : 1 ≤ w.currentPage := by
    rw [hCharted.placed.currentPage_eq]
    exact Nat.le_add_left _ _
  refine ⟨hFirst, ?_⟩
  have hCases :
      (w.Astray ∧ w.currentPage = w.pageCount presumed + 1) ∨
        (¬w.Astray ∧ w.currentPage ≤ w.pageCount presumed) :=
    hCharted.placed.currentPage_cases presumed
  rcases hCases with ⟨hAstray, hBeyond⟩ | ⟨hNot, hWithin⟩
  · refine
      ⟨⟨fun hLe => by omega, fun hNot => absurd hAstray hNot⟩, ?_⟩
    intro _
    exact
      ⟨hBeyond, hCharted.stranded hAstray.rows hAstray.shadow_pos⟩
  · exact
      ⟨⟨fun _ => hNot, fun _ => hWithin⟩,
        fun hAstray => absurd hAstray hNot⟩

/- A second page is opened from a key below every row. -/
def beyondRows : List (Event (Archive (id : Nat → Nat)) Nat Nat) :=
  [.prepare 2, .depart 0 (some 0), .answer 0 (.ok (some [])),
    .commit 0]

theorem page_within_count_strayed :
    let s := (start dawn 5 50).run id beyondRows
    let w := s.buffer.window
    w.Astray ∧ 1 ≤ w.currentPage ∧
      w.currentPage = w.pageCount 50 + 1 ∧ s.Stranded := by
  intro s w
  have hAstray : w.Astray :=
    ⟨by decide, by decide, by decide, by decide⟩
  rcases page_within_count id dawn 5 50 50 beyondRows with
    ⟨hFirst, -, hBeyond⟩
  exact ⟨hAstray, hFirst, hBeyond hAstray⟩

/-
  The second page is shown of one, though the source answers
  truthfully.
-/
theorem page_beyond_count :
    let s := (start dawn 5 50).run id beyondRows
    let w := s.buffer.window
    (Conduct.growing id).Allows id (start dawn 5 50) beyondRows ∧
      s.history.map Record.result = [.ok .committed] ∧
      w.pageCount 50 = 1 ∧ w.currentPage = 2 ∧
      ¬(1 ≤ w.currentPage ∧ w.currentPage ≤ w.pageCount 50) := by
  decide +kernel

end Traffic

end LedgerView
