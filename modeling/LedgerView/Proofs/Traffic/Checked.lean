import Mathlib.Data.List.Infix
import LedgerView.Proofs.Load.Chunk
import LedgerView.Proofs.Traffic.Invariant
import LedgerView.Proofs.Window.Checked

/-
  Checked arithmetic of a buffer under traffic.

  A move computes with the window it was planned for, and its
  commit with the window as it stands.  However large the pages
  are, whatever is answered and however operations overlap, no
  check fails: outdated plans were made for windows whose rows
  could be counted, and an operation that is committed edits the
  window that its edit suits.

  Key definitions include:
    * `PreparedMove.begin?`
    * `Flight.chunk?`
    * `Buffer.commit?`
    * `Flight.Measured`
    * `Invariant.countable`
    * `Traffic.Provided`

  Key theorems include:
    * `Buffer.prepareMove_cases`
    * `Traffic.provided_run`
    * `Traffic.arithmetic_in_range`
-/

namespace LedgerView

variable {ε σ ρ κ : Type}

------------------------------------------------------------
-- Moves
------------------------------------------------------------

namespace PreparedMove

/- Begin a prepared move. -/
def begin?
    (m : PreparedMove κ)
    (anchor : Option κ) : Option (Flight ρ κ) :=
  match anchor, m.plan.head, m.plan.tail with
  | none, some head, some tail =>
      if m.start < m.plan.shadow then do
        let wanted ← checkedSub m.plan.shadow m.start
        return ⟨m.plan, .head m.start wanted, .above head wanted⟩
      else do
        let known ← checkedAdd m.plan.shadow m.plan.length
        if known < m.stop && !m.plan.drained then
          let wanted ← checkedSub m.stop known
          return ⟨m.plan, .tail m.start wanted,
            .below (some tail) wanted false⟩
        else
          return ⟨m.plan, .turn m.start, .nothing⟩
  | anchor, _, _ => some (m.begin anchor)

/- The rows known to a plan are all that must be countable. -/
theorem begin?_eq
    (m : PreparedMove κ)
    (hKnown : m.plan.shadow + m.plan.length ≤ maxWord)
    (anchor : Option κ) :
    (m.begin? anchor : Option (Flight ρ κ)) =
      some (m.begin anchor) := by
  unfold begin?
  split
  · next head tail hHead hTail =>
      simp only [begin, hHead, hTail]
      split
      · next hAbove =>
          rw [checkedSub_of_le (Nat.le_of_lt hAbove)]
          rfl
      · rw [checkedAdd_of_le hKnown, Option.bind_eq_bind,
          Option.bind_some]
        split
        · next hBelow =>
            have hBeyond :
                m.plan.shadow + m.plan.length < m.stop := by
              rw [Bool.and_eq_true, decide_eq_true_eq] at hBelow
              exact hBelow.1
            rw [checkedSub_of_le (Nat.le_of_lt hBeyond)]
            rfl
        · rfl
  · rfl

end PreparedMove

namespace Buffer

/-
  A page whose end is no word is refused, and nothing is asked.
  Any other page can be prepared, and preparing it asks nothing
  either.
-/
theorem prepareMove_cases
    (key : ρ → κ)
    (b : Buffer ρ)
    (page : Nat) :
    (maxWord < pageOffset page b.window.pageSize +
          b.window.pageSize ∧
        checkedBounds? (max page 1) b.window.pageSize = none ∧
        b.prepareMove key page = .error (.ofPage (max page 1))) ∨
      (pageOffset page b.window.pageSize +
            b.window.pageSize ≤ maxWord ∧
        ∃ m, b.prepareMove key page = .ok m ∧
          checkedBounds? (max page 1) b.window.pageSize =
            some (m.start, m.stop)) := by
  rw [checkedBounds?_eq (Nat.le_max_right page 1)]
  by_cases hPage : PageExists page b.window.pageSize
  · right
    exact
      ⟨hPage, _, b.prepareMove_of_exists hPage, if_pos hPage⟩
  · left
    exact
      ⟨Nat.not_le.mp hPage, if_neg hPage,
        b.prepareMove_of_not_exists hPage⟩

end Buffer

------------------------------------------------------------
-- Loads
------------------------------------------------------------

namespace Flight

variable {limit : Nat} {f : Flight ρ κ}

/- The size of the next chunk, from what is loaded already. -/
def chunk?
    (limit : Nat)
    (f : Flight ρ κ) : Option Nat :=
  (checkedSub (f.edit.wanted limit) f.load.rows.length).map
    fun rest => min rest limit

/-
  The rows loaded and those still wanted are no more than an edit
  wants, and as many while some are still wanted.
-/
structure Measured
    (limit : Nat)
    (f : Flight ρ κ) : Prop where
  le : f.load.rows.length + f.load.remaining ≤ f.edit.wanted limit
  eq :
    f.load.isDone = false →
      f.load.rows.length + f.load.remaining = f.edit.wanted limit

namespace Measured

/- Nothing is loaded at the beginning. -/
theorem of_nil
    (hRows : f.load.rows = [])
    (hWanted : f.load.remaining = f.edit.wanted limit) :
    f.Measured limit := by
  have hSum :
      f.load.rows.length + f.load.remaining =
        f.edit.wanted limit := by
    rw [hRows, List.length_nil, Nat.zero_add, hWanted]
  exact ⟨Nat.le_of_eq hSum, fun _ => hSum⟩

/- However a prepared move begins, its rows are measured. -/
theorem begin
    (limit : Nat)
    (m : PreparedMove κ)
    (anchor : Option κ) :
    (m.begin anchor : Flight ρ κ).Measured limit := by
  unfold PreparedMove.begin
  dsimp only
  split
  · exact of_nil rfl rfl
  · split
    · split
      · exact of_nil rfl rfl
      · split <;> exact of_nil rfl rfl
    · exact of_nil rfl rfl

/- So are those of a refresh. -/
theorem beginRefresh
    (key : ρ → κ)
    (b : Buffer ρ) :
    (b.beginRefresh key).Measured b.maxLimit := by
  have hLimit : min (max b.maxLimit 1) b.maxLimit = b.maxLimit := by
    have hPos := b.maxLimit_pos
    omega
  unfold Buffer.beginRefresh
  dsimp only
  split
  · exact of_nil rfl hLimit
  · exact of_nil rfl rfl

/- A chunk is taken from what is still wanted. -/
theorem receive
    (hMeasured : f.Measured limit)
    (key : ρ → κ)
    (hDone : f.load.isDone = false)
    (reply : List ρ) :
    (f.receive key limit reply).Measured limit := by
  have hSum := hMeasured.eq hDone
  have hSize : f.load.chunkSize limit ≤ f.load.remaining :=
    Load.chunkSize_le
  have hRows :
      (f.load.receive key limit reply).rows.length =
        f.load.rows.length +
          min (f.load.chunkSize limit) reply.length := by
    rw [Load.receive_rows, List.length_append, List.length_take]
  by_cases hFull : f.load.chunkSize limit ≤ reply.length
  · have hRest :
        (f.load.receive key limit reply).remaining =
          f.load.remaining - f.load.chunkSize limit :=
      Load.receive_of_full hFull
    have hAll :
        (f.load.receive key limit reply).rows.length +
            (f.load.receive key limit reply).remaining =
          f.edit.wanted limit := by
      omega
    exact ⟨Nat.le_of_eq hAll, fun _ => hAll⟩
  · have hRest : (f.load.receive key limit reply).remaining = 0 :=
      Load.receive_of_short (Nat.not_le.mp hFull)
    refine ⟨?_, fun hMore => ?_⟩
    · show (f.load.receive key limit reply).rows.length +
          (f.load.receive key limit reply).remaining ≤
        f.edit.wanted limit
      omega
    · exact absurd hRest (Load.remaining_ne_zero hMore)

/- No more rows are loaded than an edit wants. -/
theorem length_le
    (hMeasured : f.Measured limit) :
    f.load.rows.length ≤ f.edit.wanted limit :=
  Nat.le_trans (Nat.le_add_right _ _) hMeasured.le

/- What is still wanted is what the next chunk is taken from. -/
theorem chunk?_eq
    (hMeasured : f.Measured limit)
    (hDone : f.load.isDone = false) :
    f.chunk? limit = some (f.load.chunkSize limit) := by
  have hSum := hMeasured.eq hDone
  have hRest :
      f.edit.wanted limit - f.load.rows.length =
        f.load.remaining := by
    omega
  unfold chunk? Load.chunkSize
  rw [checkedSub_of_le hMeasured.length_le, hRest]
  rfl

end Measured

end Flight

------------------------------------------------------------
-- Commits
------------------------------------------------------------

/- End an operation with the rows that it has loaded. -/
def Buffer.commit?
    [DecidableEq κ]
    (key : ρ → κ)
    (b : Buffer ρ)
    (f : Flight ρ κ) : Option (Buffer ρ × Outcome) :=
  if b.isCurrent f.plan then do
    let w ← f.edit.applied? key f.load.rows b.window
    return (b.publish w, .committed)
  else
    some ({ b with guard := b.guard.noteDiscarded }, .discarded)

/- A source of which nothing is known. -/
def Conduct.any : Conduct ε ρ κ where
  Answers := fun _ _ _ => True
  Becomes := fun _ _ => True

/- Of such a source everything is possible. -/
theorem Conduct.any_allows
    [DecidableEq κ]
    (key : ρ → κ)
    (s : Traffic ε ρ κ)
    (events : List (Traffic.Event ε ρ κ)) :
    Conduct.any.Allows key s events := by
  induction events generalizing s with
  | nil => trivial
  | cons event rest ih =>
      refine ⟨?_, ih _⟩
      cases event with
      | answer place reply => exact fun _ _ => trivial
      | _ => trivial

/-
  The rows of the window can be counted, and what is under way
  suits it.
-/
def Invariant.countable
    [DecidableEq κ]
    (key : ρ → κ)
    (limit : Nat) :
    Invariant (Conduct.any : Conduct ε ρ κ) key limit where
  Holds := fun _ w => w.Countable
  Serves := fun _ w v =>
    v.flight.edit.Suits w ∧ v.flight.Measured limit
  begins := by
    intro source b op f hLimit _ hBegin
    refine
      ⟨Edit.suits_of_course (Buffer.begin_eq_ok_iff.mp hBegin).2,
        ?_⟩
    cases op with
    | move page anchor =>
        unfold Buffer.begin at hBegin
        dsimp only at hBegin
        split at hBegin
        · cases hBegin
          exact Flight.Measured.begin limit _ _
        · cases hBegin
    | refresh =>
        cases hBegin
        rw [← hLimit]
        exact Flight.Measured.beginRefresh key b
  receives := by
    intro source w v rows hServes hDone _
    exact ⟨hServes.1, hServes.2.receive key hDone _⟩
  commits := by
    intro source w v hHolds hServes _
    exact
      Edit.countable_apply key hHolds hServes.1
        hServes.2.length_le
  becomes := fun _ hHolds => hHolds
  serves_becomes := fun _ _ hServes => hServes
  resets := fun hHolds =>
    .of_shadow_eq_zero hHolds.pageSize_pos rfl
  resizes := fun _ hHolds =>
    ⟨Nat.le_max_right _ _, hHolds.known_le⟩

/- A commit fails no check. -/
theorem Invariant.Sound.commit?_eq
    [DecidableEq κ]
    {key : ρ → κ}
    {limit : Nat}
    {s : Traffic ε ρ κ}
    (hSound : (countable key limit).Sound s)
    {v : Voyage ρ κ}
    (hVoyage : v ∈ s.voyages) :
    s.buffer.commit? key v.flight =
      some (s.buffer.commit key v.flight) := by
  unfold Buffer.commit? Buffer.commit
  split
  · next hCurrent =>
      have hServes :=
        (hSound.voyages v hVoyage).2
          (Buffer.revision_of_isCurrent hCurrent)
      rw [Edit.applied?_eq key hSound.holds.pageSize_pos hServes.1
        hServes.2.length_le]
      rfl
  · rfl

------------------------------------------------------------
-- Outdated Plans
------------------------------------------------------------

namespace Traffic

/-
  Whether outdated or not, a plan knows rows that can be counted,
  and what was loaded is measured.
-/
structure Provided
    (limit : Nat)
    (s : Traffic ε ρ κ) : Prop where
  maxLimit : s.buffer.maxLimit = limit
  prepared :
    ∀ m ∈ s.prepared, m.plan.shadow + m.plan.length ≤ maxWord
  voyages : ∀ v ∈ s.voyages, v.flight.Measured limit

namespace Provided

variable {limit : Nat} {s : Traffic ε ρ κ}

/- Nothing is prepared or under way at the start. -/
theorem start
    (source : ε)
    (pageSize maxLimit : Nat) :
    (Traffic.start source pageSize maxLimit :
      Traffic ε ρ κ).Provided (max maxLimit 1) :=
  ⟨rfl, fun _ hm => absurd hm List.not_mem_nil,
    fun _ hv => absurd hv List.not_mem_nil⟩

/- Voyages may be given up. -/
theorem erase
    (hProvided : s.Provided limit)
    (place : Nat) :
    ∀ v ∈ s.voyages.eraseIdx place, v.flight.Measured limit :=
  fun v hv => hProvided.voyages v (List.mem_of_mem_eraseIdx hv)

/- Measured voyages may begin. -/
theorem embark
    (hProvided : s.Provided limit)
    {v : Voyage ρ κ}
    (hVoyage : v.flight.Measured limit) :
    ∀ v' ∈ s.voyages ++ [v], v'.flight.Measured limit :=
  List.forall_mem_append.mpr
    ⟨hProvided.voyages, List.forall_mem_singleton.mpr hVoyage⟩

/- An answer is taken as it is wanted, or ends the voyage. -/
theorem answer
    (key : ρ → κ)
    (hProvided : s.Provided limit)
    {place : Nat}
    {v : Voyage ρ κ}
    (hVoyage : s.voyages[place]? = some v)
    (hDone : v.flight.load.isDone = false)
    (reply : Reply ρ) :
    (s.answer key place v reply).Provided limit := by
  cases reply with
  | error e =>
      exact
        ⟨hProvided.maxLimit, hProvided.prepared,
          hProvided.erase place⟩
  | ok rows =>
      refine ⟨hProvided.maxLimit, hProvided.prepared, ?_⟩
      intro v' hv'
      rcases List.mem_or_eq_of_mem_set hv' with hOld | hNew
      · exact hProvided.voyages v' hOld
      · have hThis :=
          hProvided.voyages v (List.mem_of_getElem? hVoyage)
        rw [hNew, hProvided.maxLimit]
        exact hThis.receive key hDone _

/-
  A step provides for itself, if the rows known at the moment can
  be counted.
-/
theorem step
    [DecidableEq κ]
    (key : ρ → κ)
    (hProvided : s.Provided limit)
    (hKnown :
      s.buffer.window.shadow + s.buffer.window.rows.length ≤
        maxWord)
    (event : Event ε ρ κ) :
    (s.step key event).Provided limit := by
  have hLimit := hProvided.maxLimit
  have hPlans := hProvided.prepared
  have hLoads := hProvided.voyages
  unfold Traffic.step
  cases event with
  | source next => exact ⟨hLimit, hPlans, hLoads⟩
  | prepare page =>
      dsimp only
      split
      · next m hPrepare =>
          refine ⟨hLimit, ?_, hLoads⟩
          refine List.forall_mem_append.mpr ⟨hPlans, ?_⟩
          rw [List.forall_mem_singleton,
            Buffer.plan_of_prepareMove hPrepare]
          exact hKnown
      · exact hProvided
  | depart place anchor =>
      dsimp only
      split
      · next m hPlace =>
          refine
            ⟨hLimit, fun m' hm' => ?_,
              hProvided.embark (.begin limit m anchor)⟩
          exact hPlans m' (List.mem_of_mem_eraseIdx hm')
      · exact hProvided
  | refresh =>
      have hRefresh :
          (s.buffer.beginRefresh key).Measured limit := by
        rw [← hLimit]
        exact Flight.Measured.beginRefresh key s.buffer
      exact ⟨hLimit, hPlans, hProvided.embark hRefresh⟩
  | answer place reply =>
      dsimp only
      split
      · next v hVoyage =>
          split
          · exact hProvided
          · next hNot =>
              exact
                Provided.answer key hProvided hVoyage
                  (by simpa using hNot) reply
      · exact hProvided
  | commit place =>
      dsimp only
      split
      · next v hVoyage =>
          split
          · refine ⟨?_, hPlans, hProvided.erase place⟩
            unfold Traffic.commit Buffer.commit
            split <;> exact hLimit
          · exact hProvided
      · exact hProvided
  | drop place => exact ⟨hLimit, hPlans, hProvided.erase place⟩
  | abort => exact ⟨hLimit, hPlans, hLoads⟩
  | clear => exact ⟨hLimit, hPlans, hLoads⟩
  | setPageSize pageSize => exact ⟨hLimit, hPlans, hLoads⟩

end Provided

variable [DecidableEq κ] {key : ρ → κ}

/- So does a run on which the known rows could always be counted. -/
theorem provided_run
    {limit : Nat}
    {s : Traffic ε ρ κ}
    {events : List (Event ε ρ κ)}
    (hProvided : s.Provided limit)
    (hKnown :
      ∀ prior, prior <+: events →
        let w := (s.run key prior).buffer.window
        w.shadow + w.rows.length ≤ maxWord) :
    (s.run key events).Provided limit := by
  induction events generalizing s with
  | nil => exact hProvided
  | cons event rest ih =>
      have hNow := hKnown [] (List.nil_prefix)
      have hNext := Provided.step key hProvided hNow event
      refine ih hNext fun prior hPrior => ?_
      exact
        hKnown (event :: prior)
          ((List.prefix_cons_inj event).mpr hPrior)

------------------------------------------------------------
-- Runs
------------------------------------------------------------

/- A run of fewer than 2^64 changes keeps its rows countable. -/
theorem countable_run
    {source : ε}
    {pageSize maxLimit : Nat}
    {events prior : List (Event ε ρ κ)}
    (hChanges :
      ((start source pageSize maxLimit).run key events).changes <
        2 ^ 64)
    (hPrior : prior <+: events) :
    (Invariant.countable key (max maxLimit 1)).Sound
      ((start source pageSize maxLimit).run key prior) := by
  rcases hPrior with ⟨rest, hEvents⟩
  have hRun :
      (start source pageSize maxLimit).run key events =
        ((start source pageSize maxLimit).run key prior).run key
          rest := by
    rw [← hEvents]
    exact List.foldl_append
  rw [hRun] at hChanges
  exact
    Invariant.sound_run
      (Invariant.sound_start source pageSize maxLimit rfl
        (.empty pageSize))
      (Conduct.any_allows key _ prior)
      (Nat.lt_of_le_of_lt (changes_le_run key _ rest) hChanges)

/-
  A page whose end is no word is refused in every state, and
  nothing is asked for it; every other page is prepared.  As long
  as no more rows are kept than can be counted, no check fails
  either when a prepared move begins, outdated or not, when an
  operation asks for its next chunk, or when it ends.
-/
theorem arithmetic_in_range
    (key : ρ → κ)
    (source : ε)
    (pageSize maxLimit : Nat)
    (events : List (Event ε ρ κ)) :
    let s := (start source pageSize maxLimit).run key events
    let size := s.buffer.window.pageSize
    (∀ page,
      (maxWord < (max page 1 - 1) * size + size ↔
        s.buffer.prepareMove key page =
          .error (.ofPage (max page 1))) ∧
      ((max page 1 - 1) * size + size ≤ maxWord ↔
        ∃ m, s.buffer.prepareMove key page = .ok m ∧
          checkedBounds? (max page 1) size =
            some (m.start, m.stop)) ∧
      (s.step key (.prepare page)).voyages = s.voyages ∧
      (maxWord < (max page 1 - 1) * size + size →
        ∀ (ask : σ → ListQuery κ → Reply ρ × σ) (x : σ) anchor,
          s.buffer.perform key ask x (.move page anchor) =
            ((s.buffer, x),
              .error (.nav (.ofPage (max page 1)))))) ∧
    ((∀ prior, prior <+: events →
        ((start source pageSize maxLimit).run key
          prior).buffer.window.rows.length < 2 ^ 64) →
      s.changes < 2 ^ 64 →
      (∀ m ∈ s.prepared, ∀ anchor,
        (m.begin? anchor : Option (Flight ρ κ)) =
          some (m.begin anchor)) ∧
      (∀ v ∈ s.voyages, v.flight.load.isDone = false →
        v.flight.chunk? s.buffer.maxLimit =
          some (v.flight.load.chunkSize s.buffer.maxLimit)) ∧
      ∀ v ∈ s.voyages,
        s.buffer.commit? key v.flight =
          some (s.buffer.commit key v.flight)) := by
  intro s size
  refine ⟨fun page => ?_, fun hRows hChanges => ?_⟩
  · rcases s.buffer.prepareMove_cases key page with
      ⟨hBeyond, hNone, hError⟩ | ⟨hWithin, m, hOk, hBounds⟩
    · have hNot :
          ¬(max page 1 - 1) * size + size ≤ maxWord :=
        Nat.not_le.mpr hBeyond
      refine
        ⟨⟨fun _ => hError, fun _ => hBeyond⟩,
          ⟨fun hLe => absurd hLe hNot, fun hPrepared => ?_⟩,
          ?_, fun _ ask x anchor => ?_⟩
      · rcases hPrepared with ⟨m, hOk, _⟩
        rw [hError] at hOk
        cases hOk
      · simp only [Traffic.step, hError]
      · simp only [Buffer.perform, Buffer.begin, hError]
    · have hNot :
          ¬maxWord < (max page 1 - 1) * size + size :=
        Nat.not_lt.mpr hWithin
      refine
        ⟨⟨fun hLt => absurd hLt hNot, fun hError => ?_⟩,
          ⟨fun _ => ⟨m, hOk, hBounds⟩, fun _ => hWithin⟩,
          ?_, fun hLt => absurd hLt hNot⟩
      · rw [hError] at hOk
        cases hOk
      · simp only [Traffic.step, hOk]
  · have hSound := countable_run hChanges (List.prefix_refl events)
    have hKnown :
        ∀ prior, prior <+: events →
          let w :=
            ((start source pageSize maxLimit).run key
              prior).buffer.window
          w.shadow + w.rows.length ≤ maxWord := by
      intro prior hPrior w
      have hLength : w.rows.length < 2 ^ 64 := hRows prior hPrior
      exact
        (countable_run hChanges hPrior).holds.known_le_of_length
          (Nat.le_pred_of_lt hLength)
    have hProvided : s.Provided (max maxLimit 1) :=
      provided_run (.start source pageSize maxLimit) hKnown
    refine
      ⟨fun m hm anchor => m.begin?_eq (hProvided.prepared m hm) anchor,
        fun v hv hDone => ?_, fun v hv => hSound.commit?_eq hv⟩
    rw [hProvided.maxLimit]
    exact (hProvided.voyages v hv).chunk?_eq hDone

/- The last page of five rows that there can be. -/
def farthestPage : Nat := 3689348814741910323

/-
  The last page is opened from a row.  Then the page before it is
  read in part, a move within the window is at its end, and a
  move to the first page waits, all of them for a window that is
  refreshed in between.
-/
def farOut : List (Event Unit Nat Nat) :=
  [.prepare farthestPage, .depart 0 (some 9),
    .answer 0 (.ok (some [9, 8, 7])), .answer 0 (.ok (some [6, 5])),
    .commit 0, .prepare 1, .prepare (farthestPage - 1), .depart 1 none,
    .answer 0 (.ok (some [10, 11, 12, 13])), .prepare farthestPage,
    .depart 1 none, .refresh, .answer 2 (.ok none), .commit 2]

/- The outdated move and the rest of what is under way fail none. -/
theorem arithmetic_in_range_far_out :
    let s := (start () 5 3).run (id : Nat → Nat) farOut
    let before := (start () 5 3).run (id : Nat → Nat) (farOut.take 11)
    (∀ prior, prior <+: farOut →
      ((start () 5 3).run (id : Nat → Nat)
        prior).buffer.window.rows.length < 2 ^ 64) ∧
    s.changes < 2 ^ 64 ∧
    before.buffer.window.shadow + 5 = maxWord ∧
    before.prepared.length = 1 ∧
    before.voyages.map (fun v => v.flight.edit) =
      [.head ((farthestPage - 2) * 5) 5, .turn ((farthestPage - 1) * 5)] ∧
    maxWord < (max (farthestPage + 1) 1 - 1) * 5 + 5 ∧
    before.buffer.prepareMove (id : Nat → Nat) (farthestPage + 1) =
      .error (.ofPage (farthestPage + 1)) ∧
    (∀ m ∈ s.prepared, ∀ anchor,
      (m.begin? anchor : Option (Flight Nat Nat)) =
        some (m.begin anchor)) ∧
    (∀ v ∈ s.voyages, v.flight.load.isDone = false →
      v.flight.chunk? s.buffer.maxLimit =
        some (v.flight.load.chunkSize s.buffer.maxLimit)) ∧
    ∀ v ∈ s.voyages,
      s.buffer.commit? id v.flight = some (s.buffer.commit id v.flight) := by
  intro s before
  have hRows :
      ∀ prior, prior <+: farOut →
        ((start () 5 3).run (id : Nat → Nat)
          prior).buffer.window.rows.length < 2 ^ 64 := by
    intro prior hPrior
    have hAll :
        ∀ prior ∈ farOut.inits,
          ((start () 5 3).run (id : Nat → Nat)
            prior).buffer.window.rows.length < 2 ^ 64 := by
      decide +kernel
    exact hAll prior ((List.mem_inits prior farOut).mpr hPrior)
  have hChanges : s.changes < 2 ^ 64 := by decide +kernel
  have hBefore :
      before.buffer.window.pageSize = 5 ∧
        before.buffer.window.shadow + 5 = maxWord ∧
        before.prepared.length = 1 ∧
        before.voyages.map (fun v => v.flight.edit) =
          [.head ((farthestPage - 2) * 5) 5,
            .turn ((farthestPage - 1) * 5)] := by
    decide +kernel
  have hBeyond :
      maxWord < (max (farthestPage + 1) 1 - 1) * 5 + 5 := by
    decide +kernel
  rcases arithmetic_in_range (σ := Unit) id () 5 3
      (farOut.take 11) with
    ⟨hPages, _⟩
  rcases arithmetic_in_range (σ := Unit) id () 5 3 farOut with
    ⟨_, hChecks⟩
  rcases hBefore with ⟨hSize, hShadow, hPrepared, hVoyages⟩
  have hRefused := (hPages (farthestPage + 1)).1.mp (by
    rw [hSize]
    exact hBeyond)
  exact
    ⟨hRows, hChanges, hShadow, hPrepared, hVoyages, hBeyond,
      hRefused, hChecks hRows hChanges⟩

end Traffic

end LedgerView
