import Mathlib.Data.Nat.Basic
import LedgerView.Proofs.Traffic.Shape

/-
  Windows over a source that only grows.

  Such a source answers every query truthfully, if at all, and
  changes by gaining rows newer than all it has.  What was once
  a run of its rows without gaps remains one, and what reached
  down to its oldest row still does.

  Key definitions include:
    * `Conduct.growing`
    * `Shape.gapless`

  Key theorems include:
    * `Traffic.window_gapless`
-/

namespace LedgerView

variable {ρ κ : Type} [LinearOrder κ]

------------------------------------------------------------
-- Growing Sources
------------------------------------------------------------

namespace Conduct

/-
  A source that answers truthfully or fails, and that gains
  rows at its newer end alone.
-/
def growing
    (key : ρ → κ) : Conduct (Archive key) ρ κ where
  Answers := fun source q reply =>
    match reply with
    | .ok rows => rows = some (selectRows key source.rows q)
    | .error _ => True
  Becomes := fun source next => source.rows <:+ next.rows

instance
    [DecidableEq ρ]
    (key : ρ → κ)
    (source : Archive key)
    (q : ListQuery κ) :
    (reply : Reply ρ) →
      Decidable ((growing key).Answers source q reply)
  | .error _ => .isTrue trivial
  | .ok rows =>
      inferInstanceAs
        (Decidable (rows = some (selectRows key source.rows q)))

instance
    [DecidableEq ρ]
    (key : ρ → κ)
    (source next : Archive key) :
    Decidable ((growing key).Becomes source next) :=
  inferInstanceAs (Decidable (source.rows <:+ next.rows))

/- A truthful answer is the selected rows. -/
theorem growing_getD
    {key : ρ → κ}
    {source : Archive key}
    {q : ListQuery κ}
    {reply : Option (List ρ)}
    (hAnswer : (growing key).Answers source q (.ok reply)) :
    reply.getD [] = selectRows key source.rows q := by
  have hRows : reply = some (selectRows key source.rows q) :=
    hAnswer
  rw [hRows]
  rfl

end Conduct

------------------------------------------------------------
-- Runs without Gaps
------------------------------------------------------------

namespace Archive

variable {key : ρ → κ} (source : Archive key)

/- A row of a run stands at one place of the source. -/
theorem exists_split
    {before after : List ρ}
    {row : ρ}
    (hRun : before ++ row :: after <:+: source.rows) :
    ∃ newer older,
      source.rows =
          (newer ++ before) ++ row :: (after ++ older) ∧
        Descending key
          ((newer ++ before) ++ row :: (after ++ older)) := by
  rcases hRun with ⟨newer, older, hSource⟩
  have hSplit :
      source.rows =
        (newer ++ before) ++ row :: (after ++ older) := by
    rw [← hSource]
    simp only [List.append_assoc, List.cons_append]
  exact ⟨newer, older, hSplit, hSplit ▸ source.descends⟩

/- Rows read below a run of the source continue it. -/
theorem infix_older
    {rows : List ρ}
    {row : ρ}
    (limit : Nat)
    (hRun : rows ++ [row] <:+: source.rows) :
    (rows ++ [row]) ++
        (selectRows key source.rows
          ⟨some (key row), .lt, .desc, limit⟩).take limit <:+:
      source.rows := by
  rcases source.exists_split hRun with
    ⟨newer, older, hSplit, hDescends⟩
  rw [hSplit, selectRows_older limit hDescends]
  have hPart : (older.take limit).take limit <+: older :=
    (List.take_prefix _ _).trans (List.take_prefix _ _)
  rcases hPart with ⟨rest, hRest⟩
  refine ⟨newer, rest, ?_⟩
  rw [List.nil_append, List.append_assoc, List.append_assoc,
    hRest]
  simp

/-
  If fewer rows than allowed are read below a run, it has been
  continued to the oldest row.
-/
theorem suffix_older
    {rows : List ρ}
    {row : ρ}
    {limit : Nat}
    (hRun : rows ++ [row] <:+: source.rows)
    (hShort :
      (selectRows key source.rows
        ⟨some (key row), .lt, .desc, limit⟩).length < limit) :
    (rows ++ [row]) ++
        selectRows key source.rows
          ⟨some (key row), .lt, .desc, limit⟩ <:+
      source.rows := by
  rcases source.exists_split hRun with
    ⟨newer, older, hSplit, hDescends⟩
  rw [hSplit, selectRows_older limit hDescends] at hShort ⊢
  have hWhole : older.take limit = older := by
    apply List.take_of_length_le
    rw [List.nil_append, List.length_take] at hShort
    omega
  refine ⟨newer, ?_⟩
  rw [List.nil_append, hWhole]
  simp

/- Rows read above a run of the source continue it. -/
theorem infix_newer
    {rows : List ρ}
    {row : ρ}
    (limit : Nat)
    (hRun : row :: rows <:+: source.rows) :
    ((selectRows key source.rows
          ⟨some (key row), .gt, .asc, limit⟩).take
            limit).reverse ++ row :: rows <:+:
      source.rows := by
  have hRun' : [] ++ row :: rows <:+: source.rows := hRun
  rcases source.exists_split hRun' with
    ⟨newer, older, hSplit, hDescends⟩
  rw [List.append_nil] at hSplit hDescends
  rw [hSplit, selectRows_newer limit hDescends]
  have hPart :
      (newer.reverse.take limit).take limit <+:
        newer.reverse :=
    (List.take_prefix _ _).trans (List.take_prefix _ _)
  have hEnd :
      ((newer.reverse.take limit).take limit).reverse <:+
        newer := by
    rw [← List.reverse_prefix, List.reverse_reverse]
    exact hPart
  rcases hEnd with ⟨rest, hRest⟩
  refine ⟨rest, older, ?_⟩
  rw [← List.append_assoc, hRest]
  simp

/-
  Two runs of the source, one of which ends where the other
  begins, are one run.
-/
theorem infix_meet
    {fresh rows : List ρ}
    {a b : ρ}
    (hFresh : fresh ++ [a] <:+: source.rows)
    (hRows : b :: rows <:+: source.rows)
    (hKey : key a = key b) :
    fresh ++ b :: rows <:+: source.rows := by
  have hRows' : [] ++ b :: rows <:+: source.rows := hRows
  rcases source.exists_split hFresh with
    ⟨newer, rest, hSplit, hDescends⟩
  rcases source.exists_split hRows' with
    ⟨newer', older, hSplit', _⟩
  have hPlace :=
    hDescends.split_unique (hSplit.symm.trans hSplit') hKey
  refine ⟨newer, older, ?_⟩
  rw [hSplit', ← hPlace.1]
  simp

/-
  A run of the source reaches down to the oldest row if its end
  does.
-/
theorem suffix_append
    {newer rows : List ρ}
    (hRun : newer ++ rows <:+: source.rows)
    (hRows : rows ≠ [])
    (hEnds : rows <:+ source.rows) :
    newer ++ rows <:+ source.rows := by
  rcases List.exists_cons_of_ne_nil hRows with
    ⟨row, rest, hCons⟩
  rw [hCons] at hRun hEnds ⊢
  rcases source.exists_split hRun with
    ⟨before, after, hSplit, hDescends⟩
  rcases hEnds with ⟨front, hSource⟩
  have hPlace :=
    hDescends.split_unique (hSplit.symm.trans hSource.symm) rfl
  refine ⟨before, ?_⟩
  rw [← List.append_assoc, hPlace.1]
  exact hSource

end Archive

/- Runs of the source, however it grows while it is read. -/
def Shape.gapless
    (key : ρ → κ) : Shape (Conduct.growing key) key where
  Fits := fun source rows => rows <:+: source.rows
  Ends := fun source rows => rows <:+ source.rows
  fits_nil := fun _ => List.nil_infix
  fits_first := by
    intro source q reply hAnswer hDesc
    rw [Conduct.growing_getD hAnswer]
    exact (List.take_prefix _ _).isInfix.trans
      (selectRows_infix_of_desc source.descends hDesc)
  ends_first := by
    intro source q reply hAnswer hDown hShort _
    rw [Conduct.growing_getD hAnswer] at hShort ⊢
    exact selectRows_suffix_of_short source.descends hDown hShort
  fits_older := by
    intro source rows row limit reply hFits hAnswer
    rw [Conduct.growing_getD hAnswer]
    exact source.infix_older limit hFits
  ends_older := by
    intro source rows row limit reply hFits hAnswer hShort
    rw [Conduct.growing_getD hAnswer] at hShort ⊢
    exact source.suffix_older hFits hShort
  fits_newer := by
    intro source rows row limit reply hFits hAnswer
    rw [Conduct.growing_getD hAnswer]
    exact source.infix_newer limit hFits
  fits_meet := by
    intro source fresh rows a b hFresh hRows hKey
    exact source.infix_meet hFresh hRows hKey
  ends_append := by
    intro source newer rows hFits hRows hEnds
    exact source.suffix_append hFits hRows hEnds
  fits_becomes := by
    intro source next rows hBecomes hFits
    have hGrown : source.rows <:+ next.rows := hBecomes
    exact hFits.trans hGrown.isInfix
  ends_becomes := by
    intro source next rows hBecomes hEnds
    have hGrown : source.rows <:+ next.rows := hBecomes
    exact hEnds.trans hGrown

namespace Traffic

/-
  However operations overlap while the source grows, the rows
  kept are a run of the source's rows without gaps, and a
  drained window reaches down to the oldest row.
-/
theorem window_gapless
    (key : ρ → κ)
    (source : Archive key)
    (pageSize maxLimit : Nat)
    (events : List (Event (Archive key) ρ κ))
    (hAllows :
      (Conduct.growing key).Allows key
        (start source pageSize maxLimit) events)
    (hChanges :
      ((start source pageSize maxLimit).run key
        events).changes < 2 ^ 64) :
    let s := (start source pageSize maxLimit).run key events
    let w := s.buffer.window
    w.rows <:+: s.source.rows ∧ (w.rows.map key).Nodup ∧
      (w.drained = true → w.rows ≠ [] →
        w.rows.getLast? = s.source.rows.getLast?) := by
  intro s w
  have hSuits : (Shape.gapless key).Suits s.source w :=
    Shape.suits_run _ pageSize maxLimit hAllows hChanges
  have hRun : w.rows <:+: s.source.rows := hSuits.fits
  have hDescends : Descending key w.rows :=
    s.source.descends.sublist hRun.sublist
  refine ⟨hRun, hDescends.nodup, ?_⟩
  intro hDrained hRows
  have hEnds : w.rows <:+ s.source.rows :=
    hSuits.ends hDrained hRows
  have hLast := hEnds.getLast hRows
  rw [List.getLast?_eq_some_getLast hRows, hLast]
  exact (List.getLast?_eq_some_getLast _).symm

/- Rows that are read while newer ones come in. -/
def dawn : Archive (id : Nat → Nat) :=
  ⟨[5, 4, 3, 2, 1], by decide⟩

/-
  A first move between whose chunks two rows come in, refreshes
  that start over and that join, one discarded and one failed
  operation, and a move to the end.
-/
def arriving : List (Event (Archive (id : Nat → Nat)) Nat Nat) :=
  [.prepare 2, .depart 0 none, .answer 0 (.ok (some [5, 4])),
    .source ⟨[7, 6, 5, 4, 3, 2, 1], by decide⟩, .refresh,
    .answer 0 (.ok (some [3, 2])), .commit 0,
    .answer 0 (.ok (some [7, 6])), .commit 0, .refresh,
    .prepare 1, .depart 0 (some 3),
    .answer 1 (.error (.refused "closed")),
    .answer 0 (.ok (some [7, 6])), .commit 0,
    .source ⟨[8, 7, 6, 5, 4, 3, 2, 1], by decide⟩, .refresh,
    .answer 0 (.ok (some [8, 7])), .commit 0, .prepare 5,
    .depart 0 none, .answer 0 (.ok (some [5, 4])),
    .answer 0 (.ok (some [3, 2])),
    .answer 0 (.ok (some [1])), .commit 0]

theorem window_gapless_arriving :
    let s := (start dawn 2 2).run id arriving
    let w := s.buffer.window
    (Conduct.growing id).Allows id (start dawn 2 2) arriving ∧
      s.changes < 2 ^ 64 ∧
      w.rows = [8, 7, 6, 5, 4, 3, 2, 1] ∧ w.drained = true ∧
      w.rows <:+: s.source.rows ∧ (w.rows.map id).Nodup ∧
      (w.drained = true → w.rows ≠ [] →
        w.rows.getLast? = s.source.rows.getLast?) := by
  intro s w
  have hAllows :
      (Conduct.growing id).Allows id (start dawn 2 2)
        arriving := by
    decide
  have hChanges : s.changes < 2 ^ 64 := by decide
  have hRows : w.rows = [8, 7, 6, 5, 4, 3, 2, 1] := by decide
  have hDrained : w.drained = true := by decide
  exact
    ⟨hAllows, hChanges, hRows, hDrained,
      window_gapless id dawn 2 2 arriving hAllows hChanges⟩

end Traffic

end LedgerView
