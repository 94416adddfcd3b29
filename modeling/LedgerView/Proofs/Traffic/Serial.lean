import Mathlib.Data.Nat.Basic
import LedgerView.Proofs.Load.Whole
import LedgerView.Proofs.Traffic.Invariant

/-
  Overlapping operations have the effect of serial ones.

  Over a source that answers equal queries equally, every
  committed operation edits the window that it would also have
  found on its own, by the rows that it would also have loaded.
  So the committed operations, carried out one after the other
  on a fresh buffer, leave the same windows.

  Key definitions include:
    * `Conduct.fixed`
    * `Buffer.replay`
    * `Serial`

  Key theorems include:
    * `Serial.step`
    * `Traffic.serializable`
-/

namespace LedgerView

variable {ρ κ : Type}

------------------------------------------------------------
-- Fixed Sources
------------------------------------------------------------

/- A source with one answer for each query. -/
def Conduct.fixed
    (answer : ListQuery κ → Option (List ρ)) :
    Conduct Unit ρ κ where
  Answers := fun _ q reply =>
    match reply with
    | .ok rows => rows = answer q
    | .error _ => False
  Becomes := fun _ _ => True

instance
    [DecidableEq ρ]
    (answer : ListQuery κ → Option (List ρ))
    (source : Unit)
    (q : ListQuery κ) :
    (reply : Reply ρ) →
      Decidable ((Conduct.fixed answer).Answers source q reply)
  | .error _ => .isFalse not_false
  | .ok rows => inferInstanceAs (Decidable (rows = answer q))

instance
    (answer : ListQuery κ → Option (List ρ))
    (source next : Unit) :
    Decidable ((Conduct.fixed answer).Becomes source next) :=
  .isTrue trivial

/- Answer a query as such a source does. -/
def answering
    (answer : ListQuery κ → Option (List ρ))
    (source : Unit)
    (q : ListQuery κ) : Reply ρ × Unit :=
  (.ok (answer q), source)

------------------------------------------------------------
-- Histories
------------------------------------------------------------

/-
  What is true of each record and those before it stays true
  when a record is added of which it is true.
-/
theorem Record.forall_concat
    {P : List (Record ρ κ) → Record ρ κ → Prop}
    {history : List (Record ρ κ)}
    {r : Record ρ κ}
    (hOld :
      ∀ before r' after, history = before ++ r' :: after →
        P before r')
    (hNew : P history r) :
    ∀ before r' after, history ++ [r] = before ++ r' :: after →
      P before r' := by
  intro before r' after hHistory
  rcases List.eq_nil_or_concat after with
    hNil | ⟨init, last, hAfter⟩
  · rw [hNil] at hHistory
    rcases List.append_inj' hHistory rfl with ⟨hBefore, hLast⟩
    rw [List.singleton_inj] at hLast
    rw [← hBefore, ← hLast]
    exact hNew
  · rw [hAfter, List.concat_eq_append, ← List.cons_append,
      ← List.append_assoc] at hHistory
    exact hOld before r' init (List.append_inj' hHistory rfl).1

------------------------------------------------------------
-- Operations and Their Ends
------------------------------------------------------------

variable {key : ρ → κ} {answer : ListQuery κ → Option (List ρ)}
variable {limit : Nat}

namespace Voyage

/-
  An operation under way that will end as if it had begun now
  and nothing else would happen.
-/
def Foresees
    (key : ρ → κ)
    (answer : ListQuery κ → Option (List ρ))
    (hLimit : 0 < limit)
    (w : Window ρ)
    (v : Voyage ρ κ) : Prop :=
  ∃ load,
    Course key limit w v.operation v.flight.edit load ∧
      load.run key limit hLimit (answering answer) () =
        v.flight.load.run key limit hLimit (answering answer) ()

/- Answers bring an operation on to the end foreseen. -/
theorem Foresees.receive
    {hLimit : 0 < limit}
    {w : Window ρ}
    {v : Voyage ρ κ}
    {rows : Option (List ρ)}
    (hForesees : v.Foresees key answer hLimit w)
    (hDone : v.flight.load.isDone = false)
    (hAnswer :
      (Conduct.fixed answer).Answers ()
        (v.flight.load.query limit) (.ok rows)) :
    Foresees key answer hLimit w
      { v with
        flight := v.flight.receive key limit (rows.getD []) } := by
  rcases hForesees with ⟨load, hCourse, hRun⟩
  refine ⟨load, hCourse, ?_⟩
  have hAsk :
      answering answer () (v.flight.load.query limit) =
        (.ok rows, ()) := by
    have hRows : rows = answer (v.flight.load.query limit) :=
      hAnswer
    unfold answering
    rw [hRows]
  rw [hRun, Load.run_of_answer hLimit hDone hAsk]
  rfl

variable [DecidableEq κ]

/- An operation at its end does what it would do on its own. -/
theorem Foresees.perform
    {hLimit : 0 < limit}
    {b : Buffer ρ}
    {v : Voyage ρ κ}
    (hForesees : v.Foresees key answer hLimit b.window)
    (hMax : b.maxLimit = limit)
    (hDone : v.flight.load.isDone = true) :
    b.perform key (answering answer) () v.operation =
      ((b.publish
          (v.flight.edit.apply key v.flight.load.rows b.window),
        ()), .ok .committed) := by
  subst hMax
  rcases hForesees with ⟨load, hCourse, hRun⟩
  rw [Load.run_of_isDone hLimit () hDone] at hRun
  exact Buffer.perform_of_run hCourse hRun

end Voyage

variable [DecidableEq κ]

/- What is under way and up to date foresees its end. -/
def Invariant.foresight
    (key : ρ → κ)
    (answer : ListQuery κ → Option (List ρ))
    (hLimit : 0 < limit) :
    Invariant (Conduct.fixed answer) key limit where
  Holds := fun _ _ => True
  Serves := fun _ w v => v.Foresees key answer hLimit w
  begins := by
    intro source b op f hMax _ hBegin
    have hCourse := (Buffer.begin_eq_ok_iff.mp hBegin).2
    rw [hMax] at hCourse
    exact ⟨f.load, hCourse, rfl⟩
  receives := by
    intro source w v rows hForesees hDone hAnswer
    exact hForesees.receive hDone hAnswer
  commits := fun _ _ _ => trivial
  becomes := fun _ _ => trivial
  serves_becomes := fun _ _ hForesees => hForesees
  resets := fun _ => trivial
  resizes := fun _ _ => trivial

------------------------------------------------------------
-- Serial Histories
------------------------------------------------------------

/- Do one thing after the other on a fresh buffer. -/
def Buffer.replay
    (key : ρ → κ)
    (answer : ListQuery κ → Option (List ρ))
    (pageSize maxLimit : Nat)
    (deeds : List (Deed κ)) :
    (Buffer ρ × Unit) × List (Record ρ κ) :=
  executeAll key (answering answer)
    (.empty pageSize maxLimit, ()) deeds

/- The window that the last of some records left. -/
def Record.leftBy
    (w : Window ρ)
    (records : List (Record ρ κ)) : Window ρ :=
  (records.getLast?.map Record.window).getD w

/-
  A history that led to a window, and that is serial: what was
  committed replays alike, and nothing else left a trace.
-/
structure Serial
    (key : ρ → κ)
    (answer : ListQuery κ → Option (List ρ))
    (pageSize maxLimit : Nat)
    (history : List (Record ρ κ))
    (w : Window ρ) : Prop where
  replays :
    ∃ b : Buffer ρ,
      Buffer.replay key answer pageSize maxLimit
          ((history.filter Record.committed).map Record.deed) =
        ((b, ()), history.filter Record.committed) ∧
      b.window = w ∧ b.maxLimit = max maxLimit 1
  latest : Record.leftBy (.empty pageSize) history = w
  traceless :
    ∀ before r after, history = before ++ r :: after →
      r.committed = false →
        r.window = Record.leftBy (.empty pageSize) before

namespace Serial

variable {pageSize maxLimit : Nat}
variable {history : List (Record ρ κ)} {w w' : Window ρ}

/- Nothing happened to a fresh buffer. -/
theorem empty :
    Serial key answer pageSize maxLimit [] (.empty pageSize) where
  replays := ⟨.empty pageSize maxLimit, rfl, rfl, rfl⟩
  latest := rfl
  traceless := by
    intro before r after hHistory
    have hLength := congrArg List.length hHistory
    rw [List.length_append, List.length_cons] at hLength
    exact absurd hLength (by simp)

/- The records before a new one, and the new one, leave no trace. -/
theorem traceless_concat
    (hSerial :
      Serial key answer pageSize maxLimit history w)
    {r : Record ρ κ}
    (hNew : r.committed = false → r.window = w) :
    ∀ before r' after, history ++ [r] = before ++ r' :: after →
      r'.committed = false →
        r'.window = Record.leftBy (.empty pageSize) before := by
  apply Record.forall_concat hSerial.traceless
  intro hNot
  rw [hSerial.latest]
  exact hNew hNot

/- What is not committed leaves the window as it was. -/
theorem note_idle
    (hSerial :
      Serial key answer pageSize maxLimit history w)
    {r : Record ρ κ}
    (hNot : r.committed = false)
    (hWindow : r.window = w) :
    Serial key answer pageSize maxLimit (history ++ [r]) w := by
  have hFilter :
      (history ++ [r]).filter Record.committed =
        history.filter Record.committed := by
    rw [List.filter_append]
    simp [hNot]
  refine ⟨?_, ?_, ?_⟩
  · rw [hFilter]
    exact hSerial.replays
  · unfold Record.leftBy
    simp [hWindow]
  · exact hSerial.traceless_concat fun _ => hWindow

/- What is committed is replayed after the rest. -/
theorem note_committed
    (hSerial :
      Serial key answer pageSize maxLimit history w)
    {deed : Deed κ}
    (hExecute :
      ∀ b : Buffer ρ, b.window = w → b.maxLimit = max maxLimit 1 →
        ∃ b' : Buffer ρ,
          Buffer.execute key (answering answer) (b, ()) deed =
              ((b', ()), .ok .committed) ∧
            b'.window = w' ∧ b'.maxLimit = max maxLimit 1) :
    Serial key answer pageSize maxLimit
      (history ++ [⟨deed, .ok .committed, w'⟩]) w' := by
  rcases hSerial.replays with ⟨b, hReplay, hWindow, hMax⟩
  rcases hExecute b hWindow hMax with
    ⟨b', hLast, hWindow', hMax'⟩
  let r : Record ρ κ := ⟨deed, .ok .committed, w'⟩
  have hFilter :
      (history ++ [r]).filter Record.committed =
        history.filter Record.committed ++ [r] := by
    rw [List.filter_append]
    rfl
  refine ⟨⟨b', ?_, hWindow', hMax'⟩, ?_, ?_⟩
  · have hBoth := Buffer.executeAll_concat hReplay hLast
    rw [hWindow'] at hBoth
    rw [hFilter, List.map_append]
    exact hBoth
  · unfold Record.leftBy
    simp
  · apply hSerial.traceless_concat
    intro hNot
    cases hNot

/- An operation that ends is replayed if it is committed. -/
theorem commit
    {hLimit : 0 < max maxLimit 1}
    {s : Traffic Unit ρ κ}
    {place : Nat}
    {v : Voyage ρ κ}
    (hSerial :
      Serial key answer pageSize maxLimit s.history
        s.buffer.window)
    (hSound : (Invariant.foresight key answer hLimit).Sound s)
    (hVoyage : s.voyages[place]? = some v)
    (hDone : v.flight.load.isDone = true) :
    Serial key answer pageSize maxLimit
      (s.commit key place v).history
      (s.commit key place v).buffer.window := by
  unfold Traffic.commit Buffer.commit
  by_cases hCurrent : s.buffer.isCurrent v.flight.plan = true
  · rw [if_pos hCurrent]
    have hForesees :
        v.Foresees key answer hLimit s.buffer.window :=
      (hSound.voyages v (List.mem_of_getElem? hVoyage)).2
        (Buffer.revision_of_isCurrent hCurrent)
    apply hSerial.note_committed
    intro b hWindow hMax
    rw [← hWindow] at hForesees ⊢
    exact ⟨_, hForesees.perform hMax hDone, rfl, hMax⟩
  · rw [if_neg hCurrent]
    exact hSerial.note_idle rfl rfl

/- Every event keeps the history serial. -/
theorem step
    {hLimit : 0 < max maxLimit 1}
    {s : Traffic Unit ρ κ}
    {event : Traffic.Event Unit ρ κ}
    (hSound : (Invariant.foresight key answer hLimit).Sound s)
    (hSerial :
      Serial key answer pageSize maxLimit s.history
        s.buffer.window) :
    Serial key answer pageSize maxLimit
      (s.step key event).history
      (s.step key event).buffer.window := by
  unfold Traffic.step
  cases event with
  | source next => exact hSerial
  | prepare page =>
      dsimp only
      split <;> exact hSerial
  | depart place anchor =>
      dsimp only
      split <;> exact hSerial
  | refresh => exact hSerial
  | answer place reply =>
      dsimp only
      split
      · split
        · exact hSerial
        · cases reply with
          | ok rows => exact hSerial
          | error e => exact hSerial.note_idle rfl rfl
      · exact hSerial
  | commit place =>
      dsimp only
      split
      · next v hVoyage =>
          split
          · next hDone =>
              exact hSerial.commit hSound hVoyage hDone
          · exact hSerial
      · exact hSerial
  | drop place => exact hSerial
  | abort => exact hSerial
  | clear =>
      apply hSerial.note_committed
      intro b hWindow hMax
      exact ⟨b.clear, rfl, congrArg Window.reset hWindow, hMax⟩
  | setPageSize size =>
      apply hSerial.note_committed
      intro b hWindow hMax
      refine ⟨b.setPageSize size, rfl, ?_, hMax⟩
      unfold Buffer.setPageSize Buffer.publish
      rw [hWindow]

/- Every interleaving has a serial history. -/
theorem run
    {hLimit : 0 < max maxLimit 1}
    {s : Traffic Unit ρ κ}
    {events : List (Traffic.Event Unit ρ κ)}
    (hSound : (Invariant.foresight key answer hLimit).Sound s)
    (hSerial :
      Serial key answer pageSize maxLimit s.history
        s.buffer.window)
    (hAllows : (Conduct.fixed answer).Allows key s events)
    (hChanges : (s.run key events).changes < 2 ^ 64) :
    Serial key answer pageSize maxLimit
      (s.run key events).history
      (s.run key events).buffer.window := by
  induction events generalizing s with
  | nil => exact hSerial
  | cons event rest ih =>
      rcases hAllows with ⟨hFirst, hRest⟩
      have hStep : (s.step key event).changes < 2 ^ 64 :=
        Nat.lt_of_le_of_lt
          ((s.step key event).changes_le_run key rest) hChanges
      exact
        ih (Invariant.sound_step hSound hFirst hStep)
          (step hSound hSerial) hRest hChanges

end Serial

------------------------------------------------------------
-- Serializability
------------------------------------------------------------

namespace Traffic

/-
  However operations overlap over a fixed source, the windows
  are those of the committed ones, carried out one after the
  other; and whatever was discarded left the window as it was.
-/
theorem serializable
    (key : ρ → κ)
    (answer : ListQuery κ → Option (List ρ))
    (pageSize maxLimit : Nat)
    (events : List (Event Unit ρ κ))
    (hAllows :
      (Conduct.fixed answer).Allows key
        (start () pageSize maxLimit) events)
    (hChanges :
      ((start () pageSize maxLimit).run key
        events).changes < 2 ^ 64) :
    let s := (start () pageSize maxLimit).run key events
    let committed := s.history.filter Record.committed
    let serial :=
      Buffer.replay key answer pageSize maxLimit
        (committed.map Record.deed)
    serial.2 = committed ∧
      serial.1.1.window = s.buffer.window ∧
      ∀ before r after, s.history = before ++ r :: after →
        r.committed = false →
          r.window = Record.leftBy (.empty pageSize) before := by
  intro s committed serial
  have hLimit : 0 < max maxLimit 1 := by omega
  have hSound :
      (Invariant.foresight key answer hLimit).Sound
        (start () pageSize maxLimit) :=
    Invariant.sound_start () pageSize maxLimit rfl trivial
  have hSerial :
      Serial key answer pageSize maxLimit s.history
        s.buffer.window :=
    Serial.run hSound Serial.empty hAllows hChanges
  rcases hSerial.replays with ⟨b, hReplay, hWindow, _⟩
  have hSame :
      serial = ((b, ()), committed) := hReplay
  refine ⟨?_, ?_, hSerial.traceless⟩
  · rw [hSame]
  · rw [hSame]
    exact hWindow

/- Five rows that do not change. -/
def fiveRows
    (q : ListQuery Nat) : Option (List Nat) :=
  some (selectRows id [5, 4, 3, 2, 1] q)

/-
  Moves and refreshes that cross each other, an abort, a new
  page size and a clear.
-/
def crossing : List (Event Unit Nat Nat) :=
  [.prepare 2, .depart 0 none, .refresh,
    .answer 1 (.ok (some [5, 4])), .commit 1,
    .answer 0 (.ok (some [5, 4])),
    .answer 0 (.ok (some [3, 2])), .commit 0, .prepare 2,
    .abort, .depart 0 none, .answer 0 (.ok (some [3, 2])),
    .commit 0, .setPageSize 3, .prepare 2, .refresh,
    .depart 0 none, .answer 1 (.ok (some [3, 2])),
    .answer 1 (.ok (some [1])), .answer 0 (.ok (some [5])),
    .commit 1, .commit 0, .clear]

theorem serializable_crossing :
    let s := (start () 2 2).run (id : Nat → Nat) crossing
    let committed := s.history.filter Record.committed
    let serial :=
      Buffer.replay id fiveRows 2 2 (committed.map Record.deed)
    (Conduct.fixed fiveRows).Allows id (start () 2 2) crossing ∧
      s.changes < 2 ^ 64 ∧ s.history.length = 7 ∧
      committed.map Record.deed =
        [.operation .refresh, .setPageSize 3,
          .operation (.move 2 none), .clear] ∧
      serial.2 = committed ∧
      serial.1.1.window = s.buffer.window ∧
      ∀ before r after, s.history = before ++ r :: after →
        r.committed = false →
          r.window = Record.leftBy (.empty 2) before := by
  intro s committed serial
  have hAllows :
      (Conduct.fixed fiveRows).Allows id (start () 2 2)
        crossing := by
    decide
  have hChanges : s.changes < 2 ^ 64 := by decide
  have hLength : s.history.length = 7 := by decide
  have hDeeds :
      committed.map Record.deed =
        [.operation .refresh, .setPageSize 3,
          .operation (.move 2 none), .clear] := by
    decide
  exact
    ⟨hAllows, hChanges, hLength, hDeeds,
      serializable id fiveRows 2 2 crossing hAllows hChanges⟩

end Traffic

end LedgerView
