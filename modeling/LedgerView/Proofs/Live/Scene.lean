import LedgerView.Proofs.Load.Whole
import LedgerView.Proofs.Traffic.GapFree

/-
  The live page of a table.

  A live table shows the beginning of what it keeps, and at any
  time at most one of its loads can still be committed.  A
  refresh of an empty window reads a page from the newest row
  on; any other refresh reads down to the first row kept, but no
  more than one query allows.  So a committed refresh shows the
  newest rows, and the window tells how many of them.

  Key definitions include:
    * `Scene`
    * `Scene.Passage`
    * `Scene.Turn`
    * `Scene.Kept`
    * `Scene.newer`
    * `Scene.reach`
    * `Scene.Whole`

  Key theorems include:
    * `Scene.kept_reset`
    * `Scene.Kept.turn`
    * `Scene.Kept.pageRows_of_refresh`
    * `Scene.Kept.whole_turn`
    * `Scene.Kept.take_reach`
-/

namespace LedgerView

variable {ρ κ : Type}

------------------------------------------------------------
-- Edits and Windows
------------------------------------------------------------

/- Whether an edit ends a refresh. -/
def Edit.refreshes : Edit → Bool
  | .newest _ | .join => true
  | _ => false

/- Whether an edit puts older rows on a page too short. -/
def Edit.lengthens : Edit → Bool
  | .tail _ _ => true
  | _ => false

/- No refresh makes a page longer. -/
theorem Edit.lengthens_of_refreshes
    {edit : Edit}
    (hRefreshes : edit.refreshes = true) :
    edit.lengthens = false := by
  cases edit with
  | tail start wanted => cases hRefreshes
  | _ => rfl

/- Whether an edit is for page 1, where no row is unseen. -/
def Edit.Fronts : Edit → Prop
  | .initial start _ | .tail start _ | .turn start => start = 0
  | .newest _ | .join => True
  | .anchored _ _ | .head _ _ => False

/- The window with another page size. -/
def Window.resize
    (w : Window ρ)
    (pageSize : Nat) : Window ρ :=
  { w with
    pageSize := max pageSize 1
    startIndex := min w.startIndex w.rows.length }

/- Page 1 begins at the first row kept if none are unseen. -/
theorem Edit.showPage_zero
    (w : Window ρ) :
    showPage w 0 = { w with startIndex := 0 } := by
  have hStart : w.clampStart 0 = 0 := by
    unfold Window.clampStart
    split <;> simp
  unfold showPage
  rw [hStart]

variable [DecidableEq κ]

/- Rows read down to the first one kept are put in front. -/
theorem Edit.apply_join_of_meet
    (key : ρ → κ)
    {w : Window ρ}
    (newer : List ρ)
    {row : ρ}
    {older : List ρ}
    (hRows : w.rows = row :: older) :
    apply key .join (newer ++ [row]) w =
      { w with rows := newer ++ w.rows } := by
  have hStitch :
      stitch key (newer ++ [row]) w.rows =
        (newer ++ w.rows,
          .concatenated ((newer ++ [row]).length - 1)) := by
    unfold stitch
    rw [List.getLast?_concat, hRows, List.dropLast_concat]
    exact if_pos rfl
  simp only [apply, hStitch]

/- Rows that end before it replace everything. -/
theorem Edit.apply_join_of_apart
    (key : ρ → κ)
    {w : Window ρ}
    {loaded : List ρ}
    {row : ρ}
    (hRow : w.rows.head? = some row)
    (hApart : ∀ newer ∈ loaded, key newer ≠ key row) :
    apply key .join loaded w =
      { w.reset with rows := loaded } := by
  have hStitch :
      stitch key loaded w.rows = (loaded, .replaced) := by
    unfold stitch
    rw [hRow]
    cases hLast : loaded.getLast? with
    | none => rfl
    | some last =>
        exact if_neg (hApart last (List.mem_of_getLast? hLast))
  simp only [apply, hStitch]

/- Such an edit leaves the page at the first row. -/
theorem Edit.Fronts.first_apply
    (key : ρ → κ)
    {edit : Edit}
    (hFronts : edit.Fronts)
    {w : Window ρ}
    (hShadow : w.shadow = 0)
    (hStart : w.startIndex = 0)
    (loaded : List ρ) :
    (edit.apply key loaded w).shadow = 0 ∧
      (edit.apply key loaded w).startIndex = 0 := by
  cases edit with
  | newest pageSize => exact ⟨rfl, rfl⟩
  | join =>
      rcases Edit.apply_join_cases key loaded w with
        ⟨_, _, _, _, _, _, _, hApply⟩ | hApply
      · rw [hApply]
        exact ⟨hShadow, hStart⟩
      · rw [hApply]
        exact ⟨rfl, rfl⟩
  | initial start stop =>
      cases hFronts
      dsimp only [Edit.apply]
      rw [Edit.showPage_zero]
      exact ⟨rfl, rfl⟩
  | tail start wanted =>
      cases hFronts
      dsimp only [Edit.apply]
      rw [Edit.showPage_zero]
      exact ⟨hShadow, rfl⟩
  | turn start =>
      cases hFronts
      dsimp only [Edit.apply]
      rw [Edit.showPage_zero]
      exact ⟨hShadow, rfl⟩
  | anchored start pageSize => exact absurd hFronts id
  | head start wanted => exact absurd hFronts id

------------------------------------------------------------
-- Scenes
------------------------------------------------------------

/-
  What there is to know of a live table: the rows of its source,
  its window, and the loads that can still be committed.
-/
structure Scene
    [LT κ]
    (key : ρ → κ) where
  source : Archive key
  window : Window ρ
  loads : List (Flight ρ κ)

namespace Scene

variable {ρ κ : Type} [LinearOrder κ]
variable {key : ρ → κ}

/- A refresh is under way. -/
def Refreshing
    (s : Scene key) : Prop :=
  ∃ f ∈ s.loads, f.edit.refreshes = true

/- A load is under way that makes a page longer. -/
def Lengthening
    (s : Scene key) : Prop :=
  ∃ f ∈ s.loads, f.edit.lengthens = true

instance (s : Scene key) : Decidable s.Refreshing := by
  unfold Refreshing
  infer_instance

instance (s : Scene key) : Decidable s.Lengthening := by
  unfold Lengthening
  infer_instance

/-
  What can become of a table in a step in which nothing begins
  and the source stays as it is.
-/
inductive Passage
    (limit : Nat) : Scene key → Scene key → Prop where
  | answer
      {source : Archive key} {w : Window ρ}
      (f : Flight ρ κ)
      (reply : Option (List ρ))
      (hOpen : f.load.isDone = false)
      (hAnswer :
        (Conduct.growing key).Answers source
          (f.load.query limit) (.ok reply)) :
      Passage limit ⟨source, w, [f]⟩
        ⟨source, w, [f.receive key limit (reply.getD [])]⟩
  | lose
      {source : Archive key} {w : Window ρ}
      {loads : List (Flight ρ κ)} :
      Passage limit ⟨source, w, loads⟩ ⟨source, w, []⟩
  | commit
      {source : Archive key} {w : Window ρ}
      (f : Flight ρ κ)
      (hDone : f.load.isDone = true) :
      Passage limit ⟨source, w, [f]⟩
        ⟨source, f.edit.apply key f.load.rows w, []⟩
  | stay
      {s : Scene key} :
      Passage limit s s

/- Then nothing is under way unless it was before. -/
theorem Passage.loads_eq_nil
    {limit : Nat}
    {a b : Scene key}
    (hPassage : Passage limit a b)
    (hNone : a.loads = []) :
    b.loads = [] := by
  cases hPassage with
  | answer f reply hOpen hAnswer => cases hNone
  | lose => rfl
  | commit f hDone => cases hNone
  | stay => exact hNone

/- What is under way then was under way on the same window. -/
theorem Passage.exists_load
    {limit : Nat}
    {a b : Scene key}
    (hPassage : Passage limit a b)
    {f : Flight ρ κ}
    (hLoad : f ∈ b.loads) :
    b.window = a.window ∧ ∃ g ∈ a.loads, g.plan = f.plan := by
  cases hPassage with
  | answer g reply hOpen hAnswer =>
      cases List.mem_singleton.mp hLoad
      exact ⟨rfl, g, List.mem_cons_self, rfl⟩
  | lose => exact absurd hLoad List.not_mem_nil
  | commit g hDone => exact absurd hLoad List.not_mem_nil
  | stay => exact ⟨rfl, f, hLoad, rfl⟩

/-
  What can become of a live table in a step.  Whatever begins
  supersedes what was under way, and the source stays as it is
  while a refresh is under way.
-/
inductive Turn
    (limit : Nat) : Scene key → Scene key → Prop where
  | refresh
      {source : Archive key} {w : Window ρ}
      {loads : List (Flight ρ κ)}
      (f : Flight ρ κ)
      (hCourse : Course key limit w .refresh f.edit f.load) :
      Turn limit ⟨source, w, loads⟩ ⟨source, w, [f]⟩
  | resize
      {source : Archive key} {w : Window ρ}
      {loads : List (Flight ρ κ)}
      (pageSize : Nat)
      (f : Flight ρ κ)
      (hCourse :
        Course key limit (w.resize pageSize) (.move 1 none)
          f.edit f.load) :
      Turn limit ⟨source, w, loads⟩
        ⟨source, w.resize pageSize, [f]⟩
  | grow
      {source next : Archive key} {w : Window ρ}
      {loads : List (Flight ρ κ)}
      (hGrown : (Conduct.growing key).Becomes source next)
      (hStill :
        (Scene.mk source w loads).Refreshing →
          next.rows = source.rows) :
      Turn limit ⟨source, w, loads⟩ ⟨next, w, loads⟩
  | pass
      {s t : Scene key}
      (hPassage : Passage limit s t) :
      Turn limit s t

------------------------------------------------------------
-- What Is under Way
------------------------------------------------------------

/- The rows of a source down to one of them. -/
def downTo
    (source : Archive key)
    (row : ρ) : List ρ :=
  source.rows.filter fun r =>
    Operator.gte.accepts (key r) (key row)

/-
  What is known of a load under way.  It is for the first page,
  in the size that pages have; a refresh of an empty window will
  have read a page from the newest row on, any other refresh
  what one query gives of the rows down to the first one kept.
-/
def Aims
    (limit : Nat)
    (source : Archive key)
    (w : Window ρ)
    (f : Flight ρ κ) : Prop :=
  match f.edit with
  | .newest pageSize =>
      w.rows = [] ∧ pageSize = w.pageSize ∧
        f.load.yield source = source.rows.take pageSize
  | .join =>
      ∃ row, w.rows.head? = some row ∧
        (f.load = .newest limit (key row) limit ∨
          f.load.isDone = true ∧
            f.load.rows = (downTo source row).take limit)
  | .initial start stop => start = 0 ∧ stop = w.pageSize
  | .tail start wanted =>
      start = 0 ∧ w.rows ≠ [] ∧
        w.pageSize ≤ w.rows.length + wanted
  | .turn start =>
      start = 0 ∧
        (w.pageSize ≤ w.rows.length ∨ w.drained = true)
  | .anchored _ _ | .head _ _ => False

/-
  What every live table keeps: its window is a run of the source
  without gaps, shown from its first row, before which no row
  was ever known.
-/
structure Kept
    (limit : Nat)
    (s : Scene key) : Prop where
  suits : (Shape.gapless key).Suits s.source s.window
  shadow : s.window.shadow = 0
  startIndex : s.window.startIndex = 0
  lone : s.loads.length ≤ 1
  serves : ∀ f ∈ s.loads,
    (Shape.gapless key).Serves limit s.source s.window
      ⟨.refresh, f⟩
  aims : ∀ f ∈ s.loads, Aims limit s.source s.window f

variable {limit : Nat} {source : Archive key}
variable {w : Window ρ} {f : Flight ρ κ}

/- What a refresh aims at when it begins. -/
theorem aims_of_refresh
    (source : Archive key)
    (hShadow : w.shadow = 0)
    (hCourse : Course key limit w .refresh f.edit f.load) :
    Aims limit source w f := by
  rcases f with ⟨plan, edit, load⟩
  cases hCourse with
  | newest hNoHead =>
      have hRows := hNoHead.resolve_right (not_not_intro hShadow)
      exact ⟨hRows, rfl, Load.yield_newest source w.pageSize⟩
  | join row hRow _ => exact ⟨row, hRow, .inl rfl⟩

/- What a move to the first page aims at when it begins. -/
theorem aims_of_move
    (source : Archive key)
    (hShadow : w.shadow = 0)
    (hCourse :
      Course key limit w (.move 1 none) f.edit f.load) :
    Aims limit source w f := by
  have hOffset : pageOffset 1 w.pageSize = 0 :=
    Nat.zero_mul _
  rcases f with ⟨plan, edit, load⟩
  cases hCourse with
  | initial _ hPage hRows =>
      refine ⟨hOffset, ?_⟩
      rw [hOffset, Nat.zero_add]
  | head _ row hPage hRow hBefore =>
      rw [hShadow] at hBefore
      exact absurd hBefore (Nat.not_lt_zero _)
  | tail _ row hPage hRow _ hBeyond hDrained =>
      refine ⟨hOffset, ?_, ?_⟩
      · intro hNil
        rw [hNil] at hRow
        cases hRow
      · rw [hOffset, hShadow]
        omega
  | turn _ hPage hRows _ hWithin =>
      rw [hOffset, hShadow, Nat.zero_add, Nat.zero_add]
        at hWithin
      exact ⟨hOffset, hWithin⟩

/- The only chunk of a refresh that joins reads what it aims at. -/
theorem join_receive
    (hLimit : 0 < limit)
    {row : ρ}
    {reply : Option (List ρ)}
    (hAnswer :
      (Conduct.growing key).Answers source
        ((Load.newest limit (key row) limit :
          Load ρ κ).query limit) (.ok reply)) :
    let l := (Load.newest limit (key row) limit).receive key
      limit (reply.getD [])
    l.isDone = true ∧
      l.rows = (downTo source row).take limit := by
  intro l
  have hSize :
      (Load.newest limit (key row) limit :
        Load ρ κ).chunkSize limit = limit := by
    unfold Load.chunkSize Load.newest
    dsimp only
    omega
  have hReply : reply.getD [] = (downTo source row).take limit := by
    rw [Conduct.growing_getD hAnswer]
    unfold selectRows
    show (source.rows.filter _).take (Load.chunkSize limit _) = _
    rw [hSize]
    rfl
  refine ⟨?_, ?_⟩
  · exact Load.isDone_receive _ (Nat.min_le_right _ _)
  · show (Load.receive key limit _ _).rows = _
    rw [Load.receive_rows, hSize, hReply, List.take_take,
      Nat.min_self]
    rfl

/- A load still has its aim when it is answered. -/
theorem Aims.receive
    (hLimit : 0 < limit)
    (hAims : Aims limit source w f)
    (hServes :
      (Shape.gapless key).Serves limit source w ⟨.refresh, f⟩)
    {reply : Option (List ρ)}
    (hOpen : f.load.isDone = false)
    (hAnswer :
      (Conduct.growing key).Answers source
        (f.load.query limit) (.ok reply)) :
    Aims limit source w
      (f.receive key limit (reply.getD [])) := by
  rcases f with ⟨plan, edit, load⟩
  cases edit with
  | newest pageSize =>
      have hDown :
          (Shape.gapless key).Down source [] pageSize load :=
        hServes
      have hStrict :=
        hDown.strict (Load.remaining_ne_zero hOpen)
      rcases hAims with ⟨hRows, hSize, hYield⟩
      refine ⟨hRows, hSize, ?_⟩
      show Load.yield source (load.receive key limit _) = _
      rw [Conduct.growing_getD hAnswer,
        Load.selectRows_query source hDown.order,
        Load.yield_receive source hLimit hDown.order hStrict
          hOpen]
      exact hYield
  | join =>
      rcases hAims with ⟨row, hRow, hLoad | ⟨hDone, _⟩⟩
      · change load = _ at hLoad
        subst hLoad
        exact ⟨row, hRow, .inr (join_receive hLimit hAnswer)⟩
      · change load.isDone = true at hDone
        rw [hOpen] at hDone
        cases hDone
  | initial start stop => exact hAims
  | tail start wanted => exact hAims
  | turn start => exact hAims
  | anchored start pageSize => exact hAims
  | head start wanted => exact hAims

/- A load that is no refresh has its aim over any source. -/
theorem Aims.becomes
    (hAims : Aims limit source w f)
    {next : Archive key}
    (hStill :
      f.edit.refreshes = true → next.rows = source.rows) :
    Aims limit next w f := by
  rcases f with ⟨plan, edit, load⟩
  cases edit with
  | newest pageSize =>
      have hRows := hStill rfl
      rcases hAims with ⟨hNil, hSize, hYield⟩
      refine ⟨hNil, hSize, ?_⟩
      unfold Load.yield Load.ahead at hYield ⊢
      rw [hRows]
      exact hYield
  | join =>
      have hRows := hStill rfl
      unfold Aims downTo at hAims ⊢
      rw [hRows]
      exact hAims
  | initial start stop => exact hAims
  | tail start wanted => exact hAims
  | turn start => exact hAims
  | anchored start pageSize => exact hAims
  | head start wanted => exact hAims

------------------------------------------------------------
-- Steps
------------------------------------------------------------

/- A window keeps its shape when pages change their size. -/
theorem suits_resize
    (hSuits : (Shape.gapless key).Suits source w)
    (pageSize : Nat) :
    (Shape.gapless key).Suits source (w.resize pageSize) where
  fits := hSuits.fits
  ends := hSuits.ends
  startIndex_le := Nat.min_le_right _ _
  pageSize_pos := Nat.le_max_right _ _

/- A load that has its aim is for the first page. -/
theorem Aims.fronts
    (hAims : Aims limit source w f) :
    f.edit.Fronts := by
  rcases f with ⟨plan, edit, load⟩
  cases edit with
  | newest pageSize => trivial
  | join => trivial
  | initial start stop => exact hAims.1
  | tail start wanted => exact hAims.1
  | turn start => exact hAims.1
  | anchored start pageSize => exact hAims
  | head start wanted => exact hAims

/- A table that goes live has nothing to keep. -/
theorem kept_reset
    (source : Archive key)
    (hPage : 1 ≤ w.pageSize) :
    Kept limit ⟨source, w.reset, []⟩ where
  suits :=
    { fits := List.nil_infix
      ends := fun hDrained => nomatch hDrained
      startIndex_le := Nat.le_refl 0
      pageSize_pos := hPage }
  shadow := rfl
  startIndex := rfl
  lone := Nat.zero_le 1
  serves := fun _ hMem => absurd hMem List.not_mem_nil
  aims := fun _ hMem => absurd hMem List.not_mem_nil

/- What a live table keeps is kept when nothing begins, -/
theorem Kept.passage
    (hLimit : 0 < limit)
    {a b : Scene key}
    (hKept : Kept limit a)
    (hPassage : Passage limit a b) :
    Kept limit b := by
  cases hPassage with
  | answer f reply hOpen hAnswer =>
      have hServes := hKept.serves f List.mem_cons_self
      have hAims := hKept.aims f List.mem_cons_self
      exact
        { suits := hKept.suits
          shadow := hKept.shadow
          startIndex := hKept.startIndex
          lone := Nat.le_refl 1
          serves := List.forall_mem_singleton.mpr
            (hServes.receive hLimit hOpen hAnswer)
          aims := List.forall_mem_singleton.mpr
            (hAims.receive hLimit hServes hOpen hAnswer) }
  | lose =>
      exact
        { suits := hKept.suits
          shadow := hKept.shadow
          startIndex := hKept.startIndex
          lone := Nat.zero_le 1
          serves := fun _ hMem => absurd hMem List.not_mem_nil
          aims := fun _ hMem => absurd hMem List.not_mem_nil }
  | commit f hDone =>
      have hServes := hKept.serves f List.mem_cons_self
      have hFirst :=
        (hKept.aims f List.mem_cons_self).fronts.first_apply key
          hKept.shadow hKept.startIndex f.load.rows
      exact
        { suits := hKept.suits.apply hServes hDone
          shadow := hFirst.1
          startIndex := hFirst.2
          lone := Nat.zero_le 1
          serves := fun _ hMem => absurd hMem List.not_mem_nil
          aims := fun _ hMem => absurd hMem List.not_mem_nil }
  | stay => exact hKept

/- and in every step. -/
theorem Kept.turn
    (hLimit : 0 < limit)
    {a b : Scene key}
    (hKept : Kept limit a)
    (hTurn : Turn limit a b) :
    Kept limit b := by
  cases hTurn with
  | refresh f hCourse =>
      have hServes :=
        Shape.serves_of_course hKept.suits hCourse f.plan
      exact
        { suits := hKept.suits
          shadow := hKept.shadow
          startIndex := hKept.startIndex
          lone := Nat.le_refl 1
          serves := List.forall_mem_singleton.mpr hServes
          aims := List.forall_mem_singleton.mpr
            (aims_of_refresh _ hKept.shadow hCourse) }
  | resize pageSize f hCourse =>
      have hSuits := suits_resize hKept.suits pageSize
      have hServes :=
        Shape.serves_of_course hSuits hCourse f.plan
      refine
        { suits := hSuits
          shadow := hKept.shadow
          startIndex := ?_
          lone := Nat.le_refl 1
          serves := List.forall_mem_singleton.mpr hServes
          aims := List.forall_mem_singleton.mpr
            (aims_of_move _ hKept.shadow hCourse) }
      show min _ _ = 0
      rw [hKept.startIndex, Nat.zero_min]
  | grow hGrown hStill =>
      exact
        { suits := hKept.suits.becomes hGrown
          shadow := hKept.shadow
          startIndex := hKept.startIndex
          lone := hKept.lone
          serves := fun f hMem =>
            (hKept.serves f hMem).becomes hGrown
          aims := fun f hMem =>
            (hKept.aims f hMem).becomes fun hRefreshes =>
              hStill ⟨f, hMem, hRefreshes⟩ }
  | pass hPassage => exact hKept.passage hLimit hPassage

------------------------------------------------------------
-- The Page That a Refresh Shows
------------------------------------------------------------

/- How many rows came in since the window was last refreshed. -/
def newer
    (s : Scene key) : Nat :=
  match s.window.rows.head? with
  | some row =>
      (s.source.rows.filter fun r =>
        Operator.gt.accepts (key r) (key row)).length
  | none => 0

/-
  How many of the newest rows a refresh will have brought
  together: a page if nothing is kept, else what came in and the
  rows kept, or if more came in than one query gives, only what
  it gives.
-/
def reach
    (limit : Nat)
    (s : Scene key) : Nat :=
  if s.window.rows = [] then s.window.pageSize
  else if s.newer < limit then s.newer + s.window.rows.length
  else limit

/- Rows kept stand in the source behind those that came in. -/
theorem Kept.exists_newer
    {s : Scene key}
    (hKept : Kept limit s)
    {row : ρ}
    (hRow : s.window.rows.head? = some row) :
    ∃ front rest older,
      s.window.rows = row :: rest ∧
        s.source.rows = front ++ row :: (rest ++ older) ∧
        downTo s.source row = front ++ [row] ∧
        s.newer = front.length := by
  rcases List.head?_eq_some_iff.mp hRow with ⟨rest, hRows⟩
  have hRun : [] ++ row :: rest <:+: s.source.rows := by
    rw [List.nil_append, ← hRows]
    exact hKept.suits.fits
  rcases s.source.exists_split hRun with
    ⟨front, older, hSplit, hDescends⟩
  rw [List.append_nil] at hSplit hDescends
  refine ⟨front, rest, older, hRows, hSplit, ?_, ?_⟩
  · unfold downTo
    rw [hSplit]
    exact hDescends.filter_gte
  · unfold newer
    rw [hRow]
    dsimp only
    rw [hSplit]
    exact congrArg List.length hDescends.filter_gt

/- Rows that reach down to the oldest are all that did not come in. -/
theorem Kept.newer_add_length
    {s : Scene key}
    (hKept : Kept limit s)
    (hRows : s.window.rows ≠ [])
    (hEnd : s.window.rows <:+ s.source.rows) :
    s.newer + s.window.rows.length = s.source.rows.length := by
  rcases List.exists_cons_of_ne_nil hRows with ⟨row, _, hFirst⟩
  rcases hKept.exists_newer (List.head?_eq_some_iff.mpr
    ⟨_, hFirst⟩) with
    ⟨front, rest, older, hCons, hSource, _, hNewer⟩
  rcases hEnd with ⟨before, hEnd⟩
  have hDescends := s.source.descends
  rw [hSource] at hDescends
  rw [hCons, hSource] at hEnd
  have hPlace := hDescends.split_unique hEnd.symm rfl
  have hNone : older = [] := by simpa using hPlace.2
  rw [hNewer, hCons, hSource, hNone, List.append_nil,
    List.length_append]

/- What a refresh that joins makes of the window. -/
theorem Kept.rows_of_join
    (hLimit : 0 < limit)
    {s : Scene key}
    (hKept : Kept limit s)
    {f : Flight ρ κ}
    (hLoad : f ∈ s.loads)
    (hDone : f.load.isDone = true)
    (hJoin : f.edit = .join) :
    ∃ row front rest older,
      s.window.rows = row :: rest ∧
        s.source.rows = front ++ row :: (rest ++ older) ∧
        s.newer = front.length ∧
        (f.edit.apply key f.load.rows s.window).rows =
          if s.newer < limit then front ++ row :: rest
          else front.take limit := by
  have hAims := hKept.aims f hLoad
  unfold Aims at hAims
  rw [hJoin] at hAims ⊢
  rcases hAims with ⟨row, hRow, hFirst | ⟨_, hRead⟩⟩
  · -- a load of which nothing was read is not done
    rw [hFirst] at hDone
    have hZero := Load.remaining_of_isDone hDone
    unfold Load.newest at hZero
    dsimp only at hZero
    omega
  · rcases hKept.exists_newer hRow with
      ⟨front, rest, older, hRows, hSource, hDownTo, hNewer⟩
    refine ⟨row, front, rest, older, hRows, hSource, hNewer, ?_⟩
    rw [hDownTo] at hRead
    rw [hRead, hNewer]
    split
    · next hFew =>
        rw [List.take_of_length_le
          (by rw [List.length_append]; exact hFew),
          Edit.apply_join_of_meet key front hRows, hRows]
    · next hMany =>
        have hPart :
            (front ++ [row]).take limit = front.take limit :=
          List.take_append_of_le_length (Nat.not_lt.mp hMany)
        have hDescends := s.source.descends
        rw [hSource] at hDescends
        have hAbove := (Descending.append_iff.mp hDescends).2.2
        rw [hPart, Edit.apply_join_of_apart key hRow]
        intro r hMem
        exact ne_of_gt
          (hAbove r (List.mem_of_mem_take hMem) row (by simp))

/-
  A refresh that is committed shows the newest rows, as far as
  it reaches.
-/
theorem Kept.pageRows_of_refresh
    (hLimit : 0 < limit)
    {s : Scene key}
    (hKept : Kept limit s)
    {f : Flight ρ κ}
    (hLoad : f ∈ s.loads)
    (hDone : f.load.isDone = true)
    (hRefreshes : f.edit.refreshes = true) :
    (f.edit.apply key f.load.rows s.window).pageRows =
      s.source.rows.take
        (min s.window.pageSize (s.reach limit)) := by
  have hFirst :=
    (hKept.aims f hLoad).fronts.first_apply key hKept.shadow
      hKept.startIndex f.load.rows
  unfold Window.pageRows
  rw [hFirst.2, List.drop_zero, Edit.apply_pageSize]
  cases hEdit : f.edit with
  | newest pageSize =>
      have hAims := hKept.aims f hLoad
      unfold Aims at hAims
      rw [hEdit] at hAims
      rcases hAims with ⟨hRows, hSize, hYield⟩
      have hRead : f.load.rows = s.source.rows.take pageSize := by
        rw [← hYield]
        unfold Load.yield
        rw [Load.remaining_of_isDone hDone, List.take_zero,
          List.append_nil]
      unfold reach
      rw [if_pos hRows, Nat.min_self, hRead, hSize]
      show (s.source.rows.take _).take _ = _
      rw [List.take_take, Nat.min_self]
  | join =>
      rcases hKept.rows_of_join hLimit hLoad hDone hEdit with
        ⟨row, front, rest, older, hRows, hSource, hNewer, hNext⟩
      rw [hEdit] at hNext
      rw [hNext]
      have hKeeps : s.window.rows ≠ [] := by
        rw [hRows]
        exact List.cons_ne_nil _ _
      unfold reach
      rw [if_neg hKeeps]
      split
      · have hWhole :
            s.source.rows = (front ++ row :: rest) ++ older := by
          rw [hSource]
          simp only [List.append_assoc, List.cons_append]
        have hLength :
            s.newer + s.window.rows.length =
              (front ++ row :: rest).length := by
          rw [hNewer, hRows, List.length_append]
        rw [hLength, hWhole,
          List.take_append_of_le_length (Nat.min_le_right _ _),
          ← List.take_take, List.take_length]
      · next hMany =>
          rw [hNewer] at hMany
          rw [List.take_take, hSource,
            List.take_append_of_le_length (by omega)]
  | _ => rw [hEdit] at hRefreshes; cases hRefreshes

------------------------------------------------------------
-- Whole Pages
------------------------------------------------------------

/-
  A page that a refresh will fill: nothing is kept, or older
  rows are on their way, or the rows kept fill a page or reach
  down to the oldest row.
-/
def Whole
    (s : Scene key) : Prop :=
  s.window.rows = [] ∨ s.Lengthening ∨
    s.window.pageSize ≤ s.window.rows.length ∨
    s.window.rows <:+ s.source.rows

/-
  More rows came in than one query gives, and one query gives
  fewer rows than a page has.
-/
def Flooded
    (limit : Nat)
    (s : Scene key) : Prop :=
  limit ≤ s.newer ∧ limit < s.window.pageSize

instance
    (limit : Nat)
    (s : Scene key) : Decidable (s.Flooded limit) := by
  unfold Flooded
  infer_instance

/-
  What leaves a page too short: the load that would have made it
  longer is gone and has changed nothing, or a refresh is
  committed that could not read all the rows that came in.
-/
def Shortens
    (limit : Nat)
    (a b : Scene key) : Prop :=
  (a.Lengthening ∧ ¬b.Lengthening ∧ b.window = a.window) ∨
    (a.Refreshing ∧ a.Flooded limit ∧
      b.window.rows ≠ a.window.rows)

instance
    [DecidableEq ρ]
    (limit : Nat)
    (a b : Scene key) : Decidable (Shortens limit a b) := by
  unfold Shortens
  infer_instance

/- While a refresh is under way nothing else is. -/
theorem Kept.not_lengthening
    {s : Scene key}
    (hKept : Kept limit s)
    (hLoad : f ∈ s.loads)
    (hRefreshes : f.edit.refreshes = true) :
    ¬s.Lengthening := by
  rintro ⟨g, hOther, hLengthens⟩
  have hSame : g = f := by
    rcases s with ⟨source, w, loads⟩
    rcases loads with _ | ⟨first, _ | ⟨second, rest⟩⟩
    · cases hLoad
    · rw [List.mem_singleton.mp hOther, List.mem_singleton.mp hLoad]
    · exact absurd hKept.lone (by simp)
  rw [hSame, Edit.lengthens_of_refreshes hRefreshes] at hLengthens
  cases hLengthens

/- A refresh fills a whole page, unless too many rows came in. -/
theorem Kept.take_reach
    {s : Scene key}
    (hKept : Kept limit s)
    (hWhole : s.Whole)
    (hLengthening : ¬s.Lengthening)
    (hFlooded : ¬s.Flooded limit) :
    s.source.rows.take
        (min s.window.pageSize (s.reach limit)) =
      s.source.rows.take s.window.pageSize := by
  unfold Flooded at hFlooded
  unfold reach
  by_cases hRows : s.window.rows = []
  · rw [if_pos hRows, Nat.min_self]
  rw [if_neg hRows]
  split
  · rcases hWhole with hNil | hLonger | hFull | hEnd
    · exact absurd hNil hRows
    · exact absurd hLonger hLengthening
    · rw [Nat.min_eq_left (by omega)]
    · have hAll : s.newer + s.window.rows.length =
          s.source.rows.length := hKept.newer_add_length hRows hEnd
      rw [hAll, ← List.take_eq_take_min]
  · rw [Nat.min_eq_left (by omega)]

/- Rows from the top fill a page, or are all there are. -/
theorem whole_of_take
    {s : Scene key}
    (hRows :
      s.window.rows = s.source.rows.take s.window.pageSize) :
    s.Whole := by
  by_cases hLong : s.window.pageSize ≤ s.source.rows.length
  · refine .inr (.inr (.inl ?_))
    rw [hRows, List.length_take, Nat.min_eq_left hLong]
  · have hAll : s.window.rows = s.source.rows :=
      hRows.trans (List.take_of_length_le (by omega))
    exact .inr (.inr (.inr ⟨[], hAll⟩))

/- A page that was read down from somewhere is full, or ends. -/
theorem whole_of_down
    {s : Scene key}
    {ground : List ρ}
    {wanted : Nat}
    {l : Load ρ κ}
    (hDown : (Shape.gapless key).Down s.source ground wanted l)
    (hDone : l.isDone = true)
    (hRows : s.window.rows = ground ++ l.rows)
    (hWanted : s.window.pageSize ≤ ground.length + wanted) :
    s.Whole := by
  by_cases hShort : l.rows.length < wanted
  · by_cases hNil : ground ++ l.rows = []
    · exact .inl (by rw [hRows, hNil])
    · refine .inr (.inr (.inr ?_))
      rw [hRows]
      exact hDown.ends (Load.remaining_of_isDone hDone) hShort
        hNil
  · refine .inr (.inr (.inl ?_))
    rw [hRows, List.length_append]
    omega

/- A refresh that could not read all rows changes the window. -/
theorem Kept.rows_ne_of_flooded
    (hLimit : 0 < limit)
    {s : Scene key}
    (hKept : Kept limit s)
    (hLoad : f ∈ s.loads)
    (hDone : f.load.isDone = true)
    (hRefreshes : f.edit.refreshes = true)
    (hFlooded : s.Flooded limit) :
    (f.edit.apply key f.load.rows s.window).rows ≠
      s.window.rows := by
  unfold Flooded at hFlooded
  cases hEdit : f.edit with
  | newest pageSize =>
      have hAims := hKept.aims f hLoad
      unfold Aims at hAims
      rw [hEdit] at hAims
      have hNone : s.newer = 0 := by
        unfold newer
        rw [hAims.1]
        rfl
      omega
  | join =>
      rcases hKept.rows_of_join hLimit hLoad hDone hEdit with
        ⟨row, front, rest, older, hRows, hSource, hNewer, hNext⟩
      rw [hEdit, if_neg (by omega)] at hNext
      rw [hNext, hRows]
      -- the first row kept is older than all that came in
      intro hSame
      have hMem : row ∈ front := by
        apply List.mem_of_mem_take (i := limit)
        rw [hSame]
        exact List.mem_cons_self
      have hDescends := s.source.descends
      rw [hSource] at hDescends
      have hAbove := (Descending.append_iff.mp hDescends).2.2
      exact lt_irrefl _ (hAbove row hMem row List.mem_cons_self)
  | _ => rw [hEdit] at hRefreshes; cases hRefreshes

/- A page stays whole when a refresh that joins is committed. -/
theorem Kept.whole_of_join
    (hLimit : 0 < limit)
    {s : Scene key}
    (hKept : Kept limit s)
    (hLoad : f ∈ s.loads)
    (hDone : f.load.isDone = true)
    (hJoin : f.edit = .join)
    (hWhole : s.Whole) :
    let next : Scene key :=
      ⟨s.source, f.edit.apply key f.load.rows s.window, []⟩
    next.Whole ∨ Shortens limit s next := by
  intro next
  have hRefreshes : f.edit.refreshes = true := by
    rw [hJoin]
    rfl
  have hPage : next.window.pageSize = s.window.pageSize :=
    Edit.apply_pageSize key f.edit f.load.rows s.window
  rcases hKept.rows_of_join hLimit hLoad hDone hJoin with
    ⟨row, front, rest, older, hRows, hSource, hNewer, hNext⟩
  change next.window.rows = _ at hNext
  by_cases hFew : s.newer < limit
  · rw [if_pos hFew, ← hRows] at hNext
    left
    rcases hWhole with hNil | hLonger | hFull | hEnd
    · rw [hRows] at hNil
      cases hNil
    · exact absurd hLonger
        (hKept.not_lengthening hLoad hRefreshes)
    · refine .inr (.inr (.inl ?_))
      rw [hPage, hNext, List.length_append]
      omega
    · refine .inr (.inr (.inr ?_))
      have hKeeps : s.window.rows ≠ [] := by
        rw [hRows]
        exact List.cons_ne_nil _ _
      have hLength := hKept.newer_add_length hKeeps hEnd
      have hNone : older.length = 0 := by
        rw [hSource, hRows, hNewer] at hLength
        simp only [List.length_append, List.length_cons]
          at hLength
        omega
      have hAll : next.window.rows = s.source.rows := by
        rw [hNext, hRows, hSource,
          List.length_eq_zero_iff.mp hNone, List.append_nil]
      exact ⟨[], hAll⟩
  · rw [if_neg hFew] at hNext
    have hTaken : next.window.rows.length = limit := by
      rw [hNext, List.length_take]
      omega
    by_cases hFit : s.window.pageSize ≤ limit
    · refine .inl (.inr (.inr (.inl ?_)))
      rw [hPage, hTaken]
      exact hFit
    · refine .inr (.inr
        ⟨⟨f, hLoad, hRefreshes⟩, ⟨by omega, by omega⟩, ?_⟩)
      exact hKept.rows_ne_of_flooded hLimit hLoad hDone
        hRefreshes ⟨by omega, by omega⟩

/- A page stays whole in every step that does not shorten it. -/
theorem Kept.whole_turn
    (hLimit : 0 < limit)
    {a b : Scene key}
    (hKept : Kept limit a)
    (hWhole : a.Whole)
    (hTurn : Turn limit a b) :
    b.Whole ∨ Shortens limit a b := by
  -- what supersedes older rows on their way leaves the window
  have hBeyond (s : Scene key) (hSame : s.window = a.window)
      (hSource : s.source = a.source) :
      s.Whole ∨ Shortens limit a s := by
    by_cases hGone : a.Lengthening ∧ ¬s.Lengthening
    · exact .inr (.inl ⟨hGone.1, hGone.2, hSame⟩)
    · left
      unfold Whole
      rw [hSame, hSource]
      rcases hWhole with hNil | hLonger | hRest
      · exact .inl hNil
      · exact .inr (.inl
          (Decidable.not_not.mp (not_and.mp hGone hLonger)))
      · exact .inr (.inr hRest)
  cases hTurn with
  | refresh f hCourse => exact hBeyond _ rfl rfl
  | grow hGrown hStill =>
      left
      rcases hWhole with hNil | hLonger | hFull | hEnd
      · exact .inl hNil
      · exact .inr (.inl hLonger)
      · exact .inr (.inr (.inl hFull))
      · exact .inr (.inr (.inr (hEnd.trans hGrown)))
  | @resize source w loads pageSize f hCourse =>
      left
      have hAims :=
        aims_of_move source (w := w.resize pageSize)
          hKept.shadow hCourse
      rcases f with ⟨plan, edit, load⟩
      cases hCourse with
      | initial _ hPage hRows => exact .inl hRows
      | head _ row hPage hRow hShadow => exact absurd hAims id
      | tail _ row hPage hRow hShadow hBefore hDrained =>
          exact .inr (.inl ⟨_, List.mem_cons_self, rfl⟩)
      | turn _ hPage hRows hShadow hWithin =>
          rcases hAims.2 with hFull | hDrained
          · exact .inr (.inr (.inl hFull))
          · exact .inr (.inr (.inr
              (hKept.suits.ends hDrained hRows)))
  | pass hPassage =>
      cases hPassage with
      | lose => exact hBeyond _ rfl rfl
      | stay => exact .inl hWhole
      | answer f reply hOpen hAnswer =>
          left
          rcases hWhole with hNil | ⟨g, hMem, hLonger⟩ | hRest
          · exact .inl hNil
          · rw [List.mem_singleton.mp hMem] at hLonger
            exact .inr (.inl ⟨_, List.mem_cons_self, hLonger⟩)
          · exact .inr (.inr hRest)
      | @commit source w f hDone =>
          have hServes := hKept.serves f List.mem_cons_self
          have hAims := hKept.aims f List.mem_cons_self
          rcases f with ⟨plan, edit, load⟩
          cases edit with
          | newest pageSize =>
              rcases hAims with ⟨_, hSize, hYield⟩
              left
              apply whole_of_take
              show load.rows = source.rows.take w.pageSize
              rw [← hSize, ← hYield]
              unfold Load.yield
              rw [Load.remaining_of_isDone hDone, List.take_zero,
                List.append_nil]
          | join =>
              exact hKept.whole_of_join hLimit List.mem_cons_self
                hDone rfl hWhole
          | initial start stop =>
              left
              refine whole_of_down hServes hDone rfl ?_
              rw [hAims.2]
              exact Nat.le_add_left _ _
          | tail start wanted =>
              exact .inl
                (whole_of_down hServes.2 hDone rfl hAims.2.2)
          | turn start =>
              left
              rcases hWhole with hNil | ⟨g, hMem, hLonger⟩ | hRest
              · exact .inl hNil
              · rw [List.mem_singleton.mp hMem] at hLonger
                cases hLonger
              · exact .inr (.inr hRest)
          | anchored start pageSize => exact absurd hAims id
          | head start wanted => exact absurd hAims id

end Scene

end LedgerView
