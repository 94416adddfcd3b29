import LedgerView.Proofs.Load.Whole

/-
  What a load from older to newer rows reads.

  Such a load begins above a row and goes on from the newest row
  that it has read.  Answered truthfully, it reads the rows that
  precede the row it began above, nearest first, up to the
  number wanted.

  Key definitions include:
    * `Load.Climbs`

  Key theorems include:
    * `Load.Climbs.selectRows_query`
    * `Load.run_newer`
-/

namespace LedgerView

namespace Load

variable {ρ κ : Type} [LinearOrder κ]
variable {key : ρ → κ} {limit : Nat} {l : Load ρ κ}
variable (source : Archive key)

/- A load that reads on above a row. -/
structure Climbs
    (key : ρ → κ)
    (l : Load ρ κ)
    (row : ρ) : Prop where
  cursor : l.cursor = some (key row)
  operator : l.operator = .gt
  order : l.order = .asc

/- Its path are the rows that precede the row, nearest first. -/
theorem Climbs.path_eq
    {newer older : List ρ}
    {row : ρ}
    (hClimbs : l.Climbs key row)
    (hSource : source.rows = newer ++ row :: older) :
    l.path source = newer.reverse := by
  have hDescends := source.descends
  rw [hSource] at hDescends
  have hAbove := hDescends.filter_gt
  rw [← hSource] at hAbove
  rw [path_of_cursor source hClimbs.cursor, hClimbs.operator,
    hClimbs.order]
  show (source.rows.reverse).filter _ = _
  rw [List.filter_reverse, hAbove]

/- Its queries are answered by the rows that precede the row. -/
theorem Climbs.selectRows_query
    {newer older : List ρ}
    {row : ρ}
    (hClimbs : l.Climbs key row)
    (hSource : source.rows = newer ++ row :: older) :
    selectRows key source.rows (l.query limit) =
      newer.reverse.take (l.chunkSize limit) := by
  rw [selectRows_query_path, hClimbs.path_eq source hSource]

/- A load above a key looks in the direction of its order. -/
theorem directed_above
    (k : κ)
    (count : Nat) :
    (above k count : Load ρ κ).Directed :=
  SortOrder.asc_follows

/- Loaded above one of its rows, it gives those that precede. -/
theorem run_newer
    (hLimit : 0 < limit)
    (asked : List (ListQuery κ))
    (count : Nat)
    {newer older : List ρ}
    {row : ρ}
    (hSource : source.rows = newer ++ row :: older) :
    ∃ l' asked',
      (above (key row) count).run key limit hLimit source.ask
          asked = (.ok l', asked') ∧
        l'.rows = newer.reverse.take count := by
  have hClimbs : (above (key row) count).Climbs key row :=
    ⟨rfl, rfl, rfl⟩
  rcases run_path source.truthful source.steady hLimit
      (directed_above (key row) count) asked with
    ⟨l', asked', hRun, hRows⟩
  refine ⟨l', asked', hRun, ?_⟩
  rw [hRows]
  unfold harvest
  rw [hClimbs.path_eq source hSource]
  rfl

end Load

end LedgerView
