import LedgerView.Proofs.Buffer.Operation
import LedgerView.Proofs.Table.Operation

/-
  Moves that run to their end.

  A move that is planned for the window as it is, and whose load
  succeeds while nothing else happens, is committed: its edit is
  made, and if it is a move to a page then the page is recorded.
  Unless it succeeds the table stays as it was.

  Key definitions include:
    * `Controller.landed`

  Key theorems include:
    * `Controller.completeMove_of_run`
    * `Controller.completeMove_of_error`
-/

namespace LedgerView

variable {σ ρ κ : Type}

namespace Controller

variable [Listing σ ρ κ] [DecidableEq κ]
variable {key : ρ → κ}
variable {ask : σ → ListQuery κ → Reply ρ × σ}

------------------------------------------------------------
-- Moves That Are Committed
------------------------------------------------------------

/- The table once a move on the source in use is committed. -/
def landed
    (c : Controller σ ρ κ)
    (records : Bool)
    (source : σ)
    (w : Window ρ) : Controller σ ρ κ :=
  let shown : Controller σ ρ κ :=
    { c with feed := ⟨source, c.buffer.publish w⟩ }
  if records then
    { shown with nav := shown.visiblePlace.write c.nav c.names }
  else
    shown

omit [DecidableEq κ] in
/- All but the parameters is the same, recorded or not. -/
theorem landed_parts
    (c : Controller σ ρ κ)
    (records : Bool)
    (source : σ)
    (w : Window ρ) :
    (c.landed records source w).feed =
        ⟨source, c.buffer.publish w⟩ ∧
      (c.landed records source w).config = c.config ∧
      (c.landed records source w).names = c.names ∧
      (c.landed records source w).strategy = c.strategy := by
  unfold landed
  split <;> exact ⟨rfl, rfl, rfl, rfl⟩

omit [DecidableEq κ] in
/- The table is shown as it was. -/
theorem mode_landed
    (c : Controller σ ρ κ)
    (records : Bool)
    (source : σ)
    (w : Window ρ) :
    (c.landed records source w).mode = c.mode := by
  unfold mode
  rw [(c.landed_parts records source w).2.2.2]

/- A move that was planned for the window as it is is committed. -/
theorem finish_of_plan
    (c : Controller σ ρ κ)
    {edit : Edit}
    {loaded : Load ρ κ}
    (records : Bool)
    (hKey : Listing.key c.feed.source = key) :
    c.finish
        ⟨c.past.length, records, c.buffer.plan key, edit, loaded⟩ =
      (c.landed records c.feed.source
        (edit.apply key loaded.rows c.window), .committed) := by
  have hCommit :
      c.feed.buffer.commit key ⟨c.buffer.plan key, edit, loaded⟩ =
        (c.feed.buffer.publish
          (edit.apply key loaded.rows c.window), .committed) :=
    Buffer.commit_of_plan rfl
  have hSet :
      ∀ feed, c.setFeedAt c.past.length feed =
        { c with feed := feed } :=
    fun feed => if_neg (Nat.lt_irrefl _)
  unfold finish
  dsimp only
  rw [feedAt_current, hKey, hCommit]
  dsimp only
  rw [hSet]
  cases records <;> rfl

/-
  A move that is planned now and whose load succeeds is
  committed.
-/
theorem completeMove_of_run
    (hKey : ∀ source : σ, Listing.key source = key)
    {c : Controller σ ρ κ}
    {edit : Edit}
    {load loaded : Load ρ κ}
    {later : σ}
    (records : Bool)
    (hRun :
      load.run key c.buffer.maxLimit c.buffer.maxLimit_pos ask
        c.feed.source = (.ok loaded, later)) :
    c.completeMove ask
        ⟨c.past.length, records, c.buffer.plan key, edit, load⟩ =
      (c.landed records later (edit.apply key loaded.rows c.window),
        .ok .committed) := by
  let read : Controller σ ρ κ :=
    { c with feed := ⟨later, c.feed.buffer⟩ }
  have hFly :
      c.feed.buffer.fly key ask c.feed.source
          ⟨c.buffer.plan key, edit, load⟩ =
        (.ok ⟨c.buffer.plan key, edit, loaded⟩, later) := by
    unfold Buffer.fly
    rw [show c.feed.buffer = c.buffer from rfl, hRun]
  have hSet :
      c.setFeedAt c.past.length { c.feed with source := later } =
        read :=
    if_neg (Nat.lt_irrefl _)
  have hFinish :
      read.finish
          ⟨c.past.length, records, c.buffer.plan key, edit, loaded⟩ =
        (c.landed records later
          (edit.apply key loaded.rows c.window), .committed) := by
    refine (read.finish_of_plan records (hKey later)).trans ?_
    cases records <;> rfl
  unfold completeMove
  dsimp only
  rw [feedAt_current, hKey, hFly]
  dsimp only
  rw [hSet, hFinish]

/- A move whose load fails leaves all but the source alone. -/
theorem completeMove_of_error
    (hKey : ∀ source : σ, Listing.key source = key)
    {c : Controller σ ρ κ}
    {edit : Edit}
    {load : Load ρ κ}
    {e : SourceError}
    {later : σ}
    (records : Bool)
    (hRun :
      load.run key c.buffer.maxLimit c.buffer.maxLimit_pos ask
        c.feed.source = (.error e, later)) :
    c.completeMove ask
        ⟨c.past.length, records, c.buffer.plan key, edit, load⟩ =
      ({ c with feed := { c.feed with source := later } },
        .error (.source e)) := by
  have hFly :
      c.feed.buffer.fly key ask c.feed.source
          ⟨c.buffer.plan key, edit, load⟩ =
        (.error e, later) := by
    unfold Buffer.fly
    rw [show c.feed.buffer = c.buffer from rfl, hRun]
  unfold completeMove
  dsimp only
  rw [feedAt_current, hKey, hFly]
  dsimp only
  rw [show c.setFeedAt c.past.length
    { c.feed with source := later } = _ from
      if_neg (Nat.lt_irrefl _)]

end Controller

end LedgerView
