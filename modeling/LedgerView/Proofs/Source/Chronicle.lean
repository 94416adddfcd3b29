import LedgerView.Pager.Controller
import LedgerView.Proofs.Load.Growing
import LedgerView.Proofs.Traffic.GapFree

/-
  Sources whose rows are only ever added to.

  Such a source answers every query truthfully from the rows
  that it has then, and in between gains rows newer than all it
  had.  Its keys are written so that nothing is lost.

  A load reads on while the rows come in.  What it reads from a
  row on is not affected by them; and whatever an operation was
  begun for, it still serves the window at its end.

  Key definitions include:
    * `KeyCodec`
    * `Chronicle`
    * `Chronicle.Precedes`

  Key theorems include:
    * `Chronicle.run_from`
    * `Chronicle.run_serves`
-/

namespace LedgerView

variable {σ ρ κ : Type}

------------------------------------------------------------
-- Chronicles
------------------------------------------------------------

/-
  A way to write keys: each key is read as it was written, and none
  is written as nothing.
-/
structure KeyCodec (κ : Type) where
  write : κ → String
  read? : String → Option κ
  read?_write : ∀ k, read? (write k) = some k
  write_ne : ∀ k, write k ≠ ""

/- A source that answers truthfully from rows it only adds to. -/
structure Chronicle
    [LinearOrder κ]
    [Listing σ ρ κ]
    (key : ρ → κ)
    (ask : σ → ListQuery κ → Reply ρ × σ) where
  /- The rows that the source has. -/
  archive : σ → Archive key
  codec : KeyCodec κ
  key_eq : ∀ source : σ, Listing.key source = key
  write_eq : ∀ source : σ, Listing.write source = codec.write
  read?_eq : ∀ source : σ, Listing.read? source = codec.read?
  /- An answer tells of the rows that there are with it. -/
  answers :
    ∀ source q,
      (ask source q).1 =
        .ok (some
          (selectRows key (archive (ask source q).2).rows q))
  /- Rows come in above all others. -/
  grows :
    ∀ source q,
      (archive source).rows <:+ (archive (ask source q).2).rows

namespace Chronicle

variable [LinearOrder κ] [Listing σ ρ κ]
variable {key : ρ → κ}
variable {ask : σ → ListQuery κ → Reply ρ × σ}
variable (T : Chronicle key ask)

/- A source that may be the same one later on. -/
def Precedes
    (source later : σ) : Prop :=
  (T.archive source).rows <:+ (T.archive later).rows

/- It only gains rows. -/
theorem growing :
    Growing T.archive ask :=
  fun source q =>
    ⟨T.archive (ask source q).2, T.answers source q,
      T.grows source q, List.suffix_rfl⟩

/- An answer with the source that gave it. -/
theorem ask_eq
    (source : σ)
    (q : ListQuery κ) :
    ∃ later,
      ask source q =
          (.ok (some (selectRows key (T.archive later).rows q)),
            later) ∧
        T.Precedes source later :=
  ⟨(ask source q).2, Prod.ext (T.answers source q) rfl,
    T.grows source q⟩

end Chronicle

namespace Chronicle

variable [LinearOrder κ] [Listing σ ρ κ]
variable {key : ρ → κ}
variable {ask : σ → ListQuery κ → Reply ρ × σ}
variable (T : Chronicle key ask)
variable {source : σ} {limit : Nat}

/-
  Loaded from one of its rows on, a source gives that row and
  those that follow it, whatever comes in meanwhile.
-/
theorem run_from
    (hLimit : 0 < limit)
    (count : Nat)
    {row : ρ}
    {older : List ρ}
    (hRow : row :: older <:+ (T.archive source).rows) :
    ∃ l' later,
      (Load.below (some (key row)) count true).run key limit
          hLimit ask source = (.ok l', later) ∧
        T.Precedes source later ∧
        l'.rows = (row :: older).take count := by
  let part : Archive key :=
    ⟨row :: older, (T.archive source).descends.sublist hRow.sublist⟩
  have hYield :
      (Load.below (some (key row)) count true).yield part =
        (row :: older).take count := by
    have hDescends : Descending key ([] ++ row :: older) :=
      part.descends
    have hAhead :
        (Load.below (some (key row)) count true).ahead part =
          row :: older :=
      hDescends.filter_lte
    unfold Load.yield
    rw [hAhead]
    rfl
  have hWithin :
      (Load.below (some (key row)) count true : Load ρ κ).Within
        key row :=
    ⟨rfl, rfl, key row, rfl, le_refl _⟩
  rcases hWithin.run T.growing hLimit part rfl hRow with
    ⟨l', later, hRun, hPrecedes, hRows⟩
  exact ⟨l', later, hRun, hPrecedes, hRows.trans hYield⟩

------------------------------------------------------------
-- Serving a Window
------------------------------------------------------------

/-
  An operation that serves a window has loaded everything at
  its end, and serves it still.
-/
theorem run_serves
    (hLimit : 0 < limit)
    {w : Window ρ}
    {op : Operation κ}
    {plan : Plan κ}
    {edit : Edit}
    {load : Load ρ κ}
    (hServes :
      (Shape.gapless key).Serves limit (T.archive source) w
        ⟨op, plan, edit, load⟩) :
    ∃ l' later,
      load.run key limit hLimit ask source = (.ok l', later) ∧
        T.Precedes source later ∧ l'.isDone = true ∧
        (Shape.gapless key).Serves limit (T.archive later) w
          ⟨op, plan, edit, l'⟩ := by
  let Holds (s : σ) (l : Load ρ κ) : Prop :=
    T.Precedes source s ∧
      (Shape.gapless key).Serves limit (T.archive s) w
        ⟨op, plan, edit, l⟩
  have hStart : Holds source load := ⟨List.suffix_rfl, hServes⟩
  have hChunk :
      ∀ {s : σ} {l : Load ρ κ},
        Holds s l → l.isDone = false →
          ∃ reply later,
            ask s (l.query limit) = (.ok reply, later) ∧
              Holds later (l.receive key limit (reply.getD [])) := by
    intro s l hHolds hOpen
    rcases hHolds with ⟨hLater, hServes⟩
    rcases T.ask_eq s (l.query limit) with ⟨later, hAsk, hGrown⟩
    have hStill :
        (Shape.gapless key).Serves limit (T.archive later) w
          ⟨op, plan, edit, l⟩ :=
      Shape.Serves.becomes hServes hGrown
    exact
      ⟨_, later, hAsk, hLater.trans hGrown,
        hStill.receive hLimit hOpen rfl⟩
  rcases Load.run_keeps hLimit hChunk hStart with
    ⟨l', later, hRun, hDone, hPrecedes, hServes'⟩
  exact ⟨l', later, hRun, hPrecedes, hDone, hServes'⟩

end Chronicle

end LedgerView
