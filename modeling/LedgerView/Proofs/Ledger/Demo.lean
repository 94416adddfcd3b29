import LedgerView.Ledger.Backend
import LedgerView.Proofs.Key.Order
import LedgerView.Proofs.Ledger.Register

/-
  The synthetic ledger as a source.

  Each list of the ledger keeps a register of rows by their
  keys.  It does so from the beginning, and whatever is appended,
  put in or taken out.  So every table of the ledger answers each
  query with what its register has for it, but for the holders
  of no token at all.

  Key definitions include:
    * `MemoryList.Held`
    * `DemoLedger.Held`
    * `DemoLedger.Event`

  Key theorems include:
    * `DemoLedger.held_new`
    * `DemoLedger.Held.step`
    * `DemoLedger.Held.ask`
    * `DemoLedger.honest`
-/

namespace LedgerView

------------------------------------------------------------
-- Lists of the Ledger
------------------------------------------------------------

/- A list that keeps a register. -/
def MemoryList.Held
    (m : MemoryList Row) : Prop :=
  ∃ f : Register Row Key, m.Keeps Row.key f

namespace MemoryList

/- A list of any rows does. -/
theorem held_ofRows
    (rows : List Row) :
    (ofRows Row.key rows).Held :=
  ⟨_, keeps_ofRows Row.key rows⟩

/- So it does after a change. -/
theorem Held.change
    {m : MemoryList Row}
    (hHeld : m.Held)
    (c : ListChange Row Key) :
    (m.change Row.key c).1.Held := by
  rcases hHeld with ⟨f, hKeeps⟩
  exact ⟨_, (hKeeps.change c).1⟩

/- It answers with what its register has. -/
theorem Held.answer
    {m : MemoryList Row}
    (hHeld : m.Held)
    (q : ListQuery Key) :
    ∃ f : Register Row Key,
      m.answer Row.key q = .ok (some (f.select q)) ∧
        q.Honest Row.key (f.select q) := by
  rcases hHeld with ⟨f, hKeeps⟩
  exact ⟨f, hKeeps.answer_eq q, hKeeps.honest q⟩

end MemoryList

/- A source in memory is asked by asking its rows. -/
theorem Backend.ask_eq_answer
    {b : Backend}
    {source : RowSource}
    {m : MemoryList Row}
    (hRows : b.rows? source = some m)
    (q : ListQuery Key) :
    (b.ask source q).1 = m.answer Row.key q := by
  rcases source with ⟨kind, name | list | list⟩
  · unfold ask
    simp only [hRows]
  · unfold ask
    simp only [hRows]
  · cases hRows

namespace DemoLedger

/- A ledger each of whose lists keeps a register. -/
structure Held
    (d : DemoLedger) : Prop where
  transactions : d.transactions.Held
  accounts : d.accounts.Held
  tokens : d.tokens.Held
  holders : ∀ entry ∈ d.holders, entry.2.Held

/- So does every new ledger. -/
theorem held_new
    (count : Nat) :
    (new count).Held where
  transactions := MemoryList.held_ofRows _
  accounts := MemoryList.held_ofRows _
  tokens := MemoryList.held_ofRows _
  holders := by
    intro entry hEntry
    rcases List.mem_map.mp hEntry with ⟨n, _, hThis⟩
    rw [← hThis]
    exact MemoryList.held_ofRows _

/- A token without an entry has no holders. -/
theorem Held.list
    {d : DemoLedger}
    (hHeld : d.Held)
    (name : SharedList) :
    (d.list name).Held := by
  cases name with
  | transactions => exact hHeld.transactions
  | accounts => exact hHeld.accounts
  | tokens => exact hHeld.tokens
  | holders token =>
      unfold DemoLedger.list
      dsimp only
      cases hFound : d.holders.lookup token with
      | none => exact MemoryList.held_ofRows []
      | some m =>
          rcases List.lookup_eq_some_iff.mp hFound with
            ⟨before, after, hSplit, _⟩
          apply hHeld.holders (token, m)
          rw [hSplit]
          exact List.mem_append_right before List.mem_cons_self

------------------------------------------------------------
-- Ledgers in Use
------------------------------------------------------------

/- Something that happens to the lists of a ledger. -/
inductive Event where
  /- The next transaction is appended. -/
  | grow
  /- A list is changed. -/
  | change (name : SharedList) (c : ListChange Row Key)

/- What it does to them. -/
def step
    (d : DemoLedger) : Event → DemoLedger
  | .grow => d.grow
  | .change name c =>
      d.setList name ((d.list name).change Row.key c).1

namespace Held

variable {d : DemoLedger}

/- A list that keeps a register may replace another. -/
theorem setList
    (hHeld : d.Held)
    (name : SharedList)
    {m : MemoryList Row}
    (hList : m.Held) :
    (d.setList name m).Held := by
  cases name with
  | transactions => exact { hHeld with transactions := hList }
  | accounts => exact { hHeld with accounts := hList }
  | tokens => exact { hHeld with tokens := hList }
  | holders token =>
      refine { hHeld with holders := ?_ }
      intro entry hEntry
      rcases List.mem_map.mp hEntry with ⟨old, hOld, hThis⟩
      rw [← hThis]
      split
      · exact hList
      · exact hHeld.holders old hOld

/- Every event keeps it so. -/
theorem step
    (hHeld : d.Held)
    (event : Event) :
    (d.step event).Held := by
  cases event with
  | grow =>
      exact
        { hHeld with
          transactions := hHeld.transactions.change (.insert _) }
  | change name c =>
      exact hHeld.setList name ((hHeld.list name).change c)

/- So do all of them. -/
theorem run
    (hHeld : d.Held)
    (events : List Event) :
    (events.foldl DemoLedger.step d).Held := by
  induction events generalizing d with
  | nil => exact hHeld
  | cons event rest ih => exact ih (hHeld.step event)

/- The rows of a table are a list of the ledger, or a new one. -/
theorem rows?
    (hHeld : d.Held)
    (kind : TableKind)
    (f : Filter) :
    let b := Backend.demo d
    (kind = .holders ∧ f.token = none ∧
      b.rows? (b.source kind f) = some .unavailable) ∨
    ∃ m, b.rows? (b.source kind f) = some m ∧ m.Held := by
  intro b
  have hOrigin : b.source kind f = ⟨kind, d.origin kind f⟩ := rfl
  rw [hOrigin]
  unfold origin
  cases kind with
  | transactions =>
      refine .inr ?_
      cases f.account with
      | none => exact ⟨_, rfl, hHeld.transactions⟩
      | some account => exact ⟨_, rfl, MemoryList.held_ofRows _⟩
  | accounts => exact .inr ⟨_, rfl, hHeld.accounts⟩
  | tokens => exact .inr ⟨_, rfl, hHeld.tokens⟩
  | holders =>
      cases hToken : f.token with
      | none => exact .inl ⟨rfl, rfl, rfl⟩
      | some token =>
          refine .inr ?_
          dsimp only
          split
          · exact ⟨_, rfl, hHeld.list (.holders token)⟩
          · exact ⟨_, rfl, MemoryList.held_ofRows []⟩

/-
  A table is answered with what a register has, but for the
  holders of no token, which are not there to be asked for.
-/
theorem ask
    (hHeld : d.Held)
    (kind : TableKind)
    (f : Filter)
    (q : ListQuery Key) :
    let b := Backend.demo d
    let reply := (b.ask (b.source kind f) q).1
    (kind = .holders ∧ f.token = none ∧ reply = .ok none) ∨
      ∃ r : Register Row Key,
        reply = .ok (some (r.select q)) ∧
          q.Honest Row.key (r.select q) := by
  intro b reply
  rcases hHeld.rows? kind f with ⟨hKind, hToken, hNone⟩ | hSome
  · exact .inl ⟨hKind, hToken, Backend.ask_eq_answer hNone q⟩
  · rcases hSome with ⟨m, hRows, hList⟩
    rcases hList.answer q with ⟨r, hAnswer, hHonest⟩
    exact
      .inr ⟨r, (Backend.ask_eq_answer hRows q).trans hAnswer,
        hHonest⟩

end Held

/-
  However a ledger grows and is changed, each of its tables
  honours what is promised of a source: in the order asked for,
  the first of the rows asked for, of those in a register.
-/
theorem honest
    (count : Nat)
    (events : List Event)
    (kind : TableKind)
    (f : Filter)
    (q : ListQuery Key) :
    let b := Backend.demo (events.foldl step (new count))
    let reply := (b.ask (b.source kind f) q).1
    (kind = .holders ∧ f.token = none ∧ reply = .ok none) ∨
      ∃ r : Register Row Key,
        reply = .ok (some (r.select q)) ∧
          q.Honest Row.key (r.select q) :=
  ((held_new count).run events).ask kind f q

end DemoLedger

end LedgerView
