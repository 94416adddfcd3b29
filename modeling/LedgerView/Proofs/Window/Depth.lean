import LedgerView.Proofs.Live.Scene
import LedgerView.Proofs.Load.Upward
import LedgerView.Proofs.Window.Page

/-
  Windows that stand as deep as they say.

  The depth of a key is the number of rows above it.  A window
  stands on a source if it has no gaps and its shadow counts no
  more rows than there are above its first row.  A page that is
  opened at a key stands if the key is as deep as the page
  begins, and whatever is loaded then leaves a window that
  stands.

  The rows that the shadow of such a window counts are there
  when they are asked for.  So a window that takes another page
  size, and goes to the page on which its first visible row now
  stands, shows that row.

  Key definitions include:
    * `Archive.depth`
    * `Window.Stands`
    * `Load.Beneath`
    * `Flight.Backs`

  Key theorems include:
    * `Flight.Backs.receive`
    * `Window.Stands.apply`
    * `Course.shows_first_row`
-/

namespace LedgerView

variable {ρ κ : Type} [LinearOrder κ]
variable {key : ρ → κ} {limit : Nat}

------------------------------------------------------------
-- Depths
------------------------------------------------------------

namespace Archive

variable (source : Archive key)

/- How many rows stand above a key. -/
def depth
    (k : κ) : Nat :=
  source.rows.countP fun row => Operator.gt.accepts (key row) k

/- Above a row stand the rows that precede it. -/
theorem depth_of_split
    {newer older : List ρ}
    {row : ρ}
    (hSource : source.rows = newer ++ row :: older) :
    source.depth (key row) = newer.length := by
  have hDescends := source.descends
  rw [hSource] at hDescends
  unfold depth
  rw [hSource, List.countP_eq_length_filter]
  exact congrArg List.length hDescends.filter_gt

/- Rows that come in make no key less deep. -/
theorem depth_le_of_suffix
    {next : Archive key}
    (hGrown : source.rows <:+ next.rows)
    (k : κ) :
    source.depth k ≤ next.depth k :=
  hGrown.sublist.countP_le

/- A lower key is no less deep. -/
theorem depth_le_of_le
    {a b : κ}
    (hBelow : a ≤ b) :
    source.depth b ≤ source.depth a := by
  refine List.countP_mono_left fun row _ hAbove => ?_
  have hLess := Operator.accepts_gt_iff.mp hAbove
  exact Operator.accepts_gt_iff.mpr
    (lt_of_le_of_lt hBelow hLess)

/- In a run each row is one deeper than the row before it. -/
theorem depth_of_run
    {before after : List ρ}
    {first row : ρ}
    (hRun : before ++ row :: after <:+: source.rows)
    (hFirst : (before ++ row :: after).head? = some first) :
    source.depth (key row) =
      source.depth (key first) + before.length := by
  rcases source.exists_split hRun with
    ⟨newer, older, hSource, -⟩
  rw [source.depth_of_split hSource, List.length_append]
  cases before with
  | nil =>
      rw [List.append_nil] at hSource
      cases hFirst
      rw [source.depth_of_split hSource]
  | cons next rest =>
      cases hFirst
      rw [List.append_assoc, List.cons_append] at hSource
      rw [source.depth_of_split hSource]

end Archive

------------------------------------------------------------
-- Windows That Stand
------------------------------------------------------------

/-
  A window without gaps whose shadow counts no more rows than
  there are above it.
-/
structure Window.Stands
    (source : Archive key)
    (w : Window ρ) : Prop where
  suits : (Shape.gapless key).Suits source w
  shadow_le :
    ∀ row ∈ w.rows.head?, w.shadow ≤ source.depth (key row)

namespace Window

variable {source : Archive key} {w : Window ρ}

/- Above an empty window there is nothing to count. -/
theorem stands_empty
    (source : Archive key)
    (pageSize : Nat) :
    (empty pageSize : Window ρ).Stands source where
  suits := Shape.suits_empty _ source pageSize
  shadow_le := fun _ hRow => nomatch hRow

/- Nor above one that is reset. -/
theorem Stands.reset
    (hStands : w.Stands source) :
    w.reset.Stands source where
  suits := hStands.suits.reset
  shadow_le := fun _ hRow => nomatch hRow

/- The size of the pages is of no account, -/
theorem Stands.resize
    (hStands : w.Stands source)
    (pageSize : Nat) :
    (w.resize pageSize).Stands source where
  suits := Scene.suits_resize hStands.suits pageSize
  shadow_le := hStands.shadow_le

/- nor are rows that come in. -/
theorem Stands.becomes
    {next : Archive key}
    (hStands : w.Stands source)
    (hGrown : (Conduct.growing key).Becomes source next) :
    w.Stands next where
  suits := hStands.suits.becomes hGrown
  shadow_le := fun row hRow =>
    Nat.le_trans (hStands.shadow_le row hRow)
      (source.depth_le_of_suffix hGrown (key row))

/- A row that is kept is as deep as its place in the window. -/
theorem Stands.place_le
    (hStands : w.Stands source)
    {before after : List ρ}
    {row : ρ}
    (hRows : w.rows = before ++ row :: after) :
    w.shadow + before.length ≤ source.depth (key row) := by
  have hRun : before ++ row :: after <:+: source.rows := by
    rw [← hRows]
    exact hStands.suits.fits
  cases hFirst : w.rows.head? with
  | none =>
      rw [List.head?_eq_none_iff.mp hFirst] at hRows
      simp at hRows
  | some first =>
      have hShadow := hStands.shadow_le first hFirst
      rw [hRows] at hFirst
      rw [source.depth_of_run hRun hFirst]
      omega

end Window

------------------------------------------------------------
-- Loads of Windows That Stand
------------------------------------------------------------

/- A load that reads down from a key, as far as it has come. -/
structure Load.Beneath
    (key : ρ → κ)
    (k : κ)
    (l : Load ρ κ) : Prop where
  rows : ∀ row ∈ l.rows, key row ≤ k
  strict : l.operator.strict = .lt
  cursor : ∃ bound, l.cursor = some bound ∧ bound ≤ k

/- What it asks for stands no higher than the key. -/
theorem Load.Beneath.le_of_wants
    {k : κ}
    {l : Load ρ κ}
    (hBeneath : l.Beneath key k)
    {candidate : κ}
    (hWants : (l.query limit).wants candidate = true) :
    candidate ≤ k := by
  rcases hBeneath.cursor with ⟨bound, hCursor, hBound⟩
  unfold ListQuery.wants Load.query at hWants
  rw [hCursor] at hWants
  have hStrict := hBeneath.strict
  cases hOperator : l.operator with
  | lt =>
      rw [hOperator] at hWants
      exact le_of_lt
        (lt_of_lt_of_le (Operator.accepts_lt_iff.mp hWants)
          hBound)
  | lte =>
      rw [hOperator] at hWants
      exact le_trans (Operator.accepts_lte_iff.mp hWants) hBound
  | gt => rw [hOperator] at hStrict; cases hStrict
  | gte => rw [hOperator] at hStrict; cases hStrict

/- An answer of such rows brings it further down. -/
theorem Load.Beneath.receive
    {k : κ}
    {l : Load ρ κ}
    (hBeneath : l.Beneath key k)
    {reply : List ρ}
    (hWanted :
      ∀ row ∈ reply, (l.query limit).wants (key row) = true) :
    (l.receive key limit reply).Beneath key k where
  rows := by
    rw [Load.receive_rows]
    intro row hRow
    rcases List.mem_append.mp hRow with hOld | hNew
    · exact hBeneath.rows row hOld
    · exact hBeneath.le_of_wants
        (hWanted row (List.mem_of_mem_take hNew))
  strict := by
    rw [Load.receive_operator, hBeneath.strict]
    rfl
  cursor := by
    rcases List.eq_nil_or_concat
        (reply.take (l.chunkSize limit)) with
      hNil | ⟨init, last, hChunk⟩
    · rw [Load.receive_cursor_of_nil hNil]
      exact hBeneath.cursor
    · rw [List.concat_eq_append] at hChunk
      have hLast : last ∈ reply.take (l.chunkSize limit) := by
        rw [hChunk]
        exact List.mem_concat_self
      exact
        ⟨key last, Load.receive_cursor_of_append hChunk,
          hBeneath.le_of_wants
            (hWanted last (List.mem_of_mem_take hLast))⟩

namespace Flight

/-
  What is known of a load for a window that stands: a page is
  opened at a key as deep as it begins, and a load of newer rows
  has found every row that it asked for.
-/
def Backs
    (source : Archive key)
    (w : Window ρ)
    (f : Flight ρ κ) : Prop :=
  match f.edit with
  | .anchored start _ =>
      ∃ k, start ≤ source.depth k ∧ f.load.Beneath key k
  | .head start wanted =>
      start + wanted = w.shadow ∧
        f.load.rows.length + f.load.remaining = wanted
  | .tail _ _ => w.rows ≠ []
  | .join => w.shadow = 0
  | .initial _ _ | .turn _ | .newest _ => True

variable {source : Archive key} {w : Window ρ}
variable {f : Flight ρ κ}

/- It is known of every load that begins at a deep enough key. -/
theorem backs_of_course
    {op : Operation κ}
    (hCourse : Course key limit w op f.edit f.load)
    (hDeep : ∀ page k, op = .move page (some k) →
      pageOffset page w.pageSize ≤ source.depth k) :
    f.Backs source w := by
  rcases f with ⟨plan, edit, load⟩
  cases hCourse with
  | anchored page k hPage =>
      refine ⟨k, hDeep page k rfl, ?_, rfl, k, rfl, le_refl k⟩
      exact fun row hRow => absurd hRow List.not_mem_nil
  | initial page hPage hRows => trivial
  | head page row hPage hRow hShadow =>
      exact
        ⟨Nat.add_sub_cancel' (Nat.le_of_lt hShadow),
          Nat.zero_add _⟩
  | tail page row hPage hRow hShadow hBeyond hDrained =>
      intro hNil
      rw [hNil] at hRow
      cases hRow
  | turn page hPage hRows hShadow hWithin => trivial
  | newest hNoHead => trivial
  | join row hRow hShadow => exact hShadow

/- There are rows above for as many as are still wanted. -/
theorem Backs.exists_newer
    {start wanted : Nat}
    (hBacks : f.Backs source w)
    (hStands : w.Stands source)
    (hEdit : f.edit = .head start wanted)
    (hRows : w.rows ≠ [])
    (hUp : (Shape.gapless key).Up source w.rows f.load) :
    ∃ newer row older,
      source.rows = newer ++ row :: older ∧
        f.load.Climbs key row ∧
        f.load.remaining ≤ newer.length := by
  unfold Backs at hBacks
  rw [hEdit] at hBacks
  rcases hBacks with ⟨hStart, hCount⟩
  rcases List.exists_cons_of_ne_nil hRows with
    ⟨first, rest, hFirst⟩
  rcases hUp.cursor with ⟨row, rows, hNext, hCursor⟩
  have hRun : [] ++ row :: rows <:+: source.rows := by
    rw [List.nil_append, ← hNext]
    exact hUp.fits
  rcases source.exists_split hRun with
    ⟨newer, older, hSource, -⟩
  rw [List.append_nil] at hSource
  refine
    ⟨newer, row, _, hSource, ⟨hCursor, hUp.operator, hUp.order⟩,
      ?_⟩
  have hShadow := hStands.shadow_le first (by rw [hFirst]; rfl)
  have hFits := hUp.fits
  have hHead :
      (f.load.rows.reverse ++ w.rows).head? = some row := by
    rw [hNext]
    rfl
  rw [hFirst] at hFits hHead
  have hRead := source.depth_of_run hFits hHead
  rw [source.depth_of_split hSource, List.length_reverse] at hRead
  omega

/- It stays known when the load is answered. -/
theorem Backs.receive
    (hBacks : f.Backs source w)
    (hStands : w.Stands source)
    (hServes :
      (Shape.gapless key).Serves limit source w ⟨.refresh, f⟩)
    {reply : Option (List ρ)}
    (hAnswer :
      (Conduct.growing key).Answers source
        (f.load.query limit) (.ok reply)) :
    (f.receive key limit (reply.getD [])).Backs source w := by
  rw [Conduct.growing_getD hAnswer]
  cases hEdit : f.edit with
  | anchored start pageSize =>
      unfold Backs at hBacks ⊢
      rw [hEdit] at hBacks
      rw [show (f.receive key limit _).edit = _ from hEdit]
      rcases hBacks with ⟨k, hDeep, hBeneath⟩
      have hHonest :=
        honest_selectRows source.descends (f.load.query limit)
      exact ⟨k, hDeep, hBeneath.receive hHonest.2⟩
  | head start wanted =>
      unfold Shape.Serves at hServes
      rw [hEdit] at hServes
      rcases hServes with ⟨hRows, hUp⟩
      rcases hBacks.exists_newer hStands hEdit hRows hUp with
        ⟨newer, row, older, hSource, hClimbs, hEnough⟩
      unfold Backs at hBacks ⊢
      rw [hEdit] at hBacks
      rw [show (f.receive key limit _).edit = _ from hEdit]
      refine ⟨hBacks.1, ?_⟩
      -- so many rows make the chunk a full one
      have hSize : f.load.chunkSize limit ≤ f.load.remaining :=
        Load.chunkSize_le
      have hLength :
          (newer.reverse.take
            (f.load.chunkSize limit)).length =
            f.load.chunkSize limit := by
        rw [List.length_take, List.length_reverse]
        omega
      have hCount := hBacks.2
      rw [hClimbs.selectRows_query source hSource]
      show (f.load.receive key limit _).rows.length +
        (f.load.receive key limit _).remaining = wanted
      rw [Load.receive_of_full (Nat.le_of_eq hLength.symm),
        Load.receive_rows, List.length_append, List.take_take,
        Nat.min_self, hLength]
      omega
  | _ =>
      unfold Backs at hBacks ⊢
      rw [hEdit] at hBacks
      rw [show (f.receive key limit _).edit = _ from hEdit]
      exact hBacks

/- It stays known when rows come in. -/
theorem Backs.becomes
    {next : Archive key}
    (hBacks : f.Backs source w)
    (hGrown : (Conduct.growing key).Becomes source next) :
    f.Backs next w := by
  unfold Backs at hBacks ⊢
  cases hEdit : f.edit with
  | anchored start pageSize =>
      rw [hEdit] at hBacks
      rcases hBacks with ⟨k, hDeep, hBeneath⟩
      exact
        ⟨k, Nat.le_trans hDeep
          (source.depth_le_of_suffix hGrown k), hBeneath⟩
  | _ => rw [hEdit] at hBacks; exact hBacks

end Flight

------------------------------------------------------------
-- Edits of Windows That Stand
------------------------------------------------------------

namespace Window

variable {source : Archive key} {w : Window ρ}
variable {f : Flight ρ κ}

/- Newer rows put in front leave fewer above the window. -/
theorem Stands.shadow_le_of_head
    (hStands : w.Stands source)
    (hRows : w.rows ≠ [])
    {newer : List ρ}
    (hRun : newer.reverse ++ w.rows <:+: source.rows)
    {row : ρ}
    (hRow : (newer.reverse ++ w.rows).head? = some row) :
    w.shadow - newer.length ≤ source.depth (key row) := by
  rcases List.exists_cons_of_ne_nil hRows with
    ⟨first, rest, hFirst⟩
  have hShadow := hStands.shadow_le first (by rw [hFirst]; rfl)
  rw [hFirst] at hRun hRow
  rw [source.depth_of_run hRun hRow, List.length_reverse]
    at hShadow
  omega

/- A load that ends leaves a window that stands. -/
theorem Stands.apply
    (hStands : w.Stands source)
    (hServes :
      (Shape.gapless key).Serves limit source w ⟨.refresh, f⟩)
    (hBacks : f.Backs source w)
    (hDone : f.load.isDone = true) :
    (f.edit.apply key f.load.rows w).Stands source where
  suits := hStands.suits.apply hServes hDone
  shadow_le := by
    intro row hRow
    rcases f with ⟨plan, edit, load⟩
    cases edit with
    | anchored start pageSize =>
        rcases hBacks with ⟨k, hDeep, hBeneath⟩
        have hFirst : row ∈ load.rows :=
          List.mem_of_mem_head? hRow
        exact Nat.le_trans hDeep
          (source.depth_le_of_le (hBeneath.rows row hFirst))
    | initial start stop => exact Nat.zero_le _
    | head start wanted =>
        rcases hServes with ⟨hRows, hUp⟩
        have hLess :=
          hStands.shadow_le_of_head hRows hUp.fits hRow
        show (if load.rows.length < wanted then 0
          else w.shadow - load.rows.length) ≤ _
        split
        · exact Nat.zero_le _
        · exact hLess
    | tail start wanted =>
        rcases List.exists_cons_of_ne_nil hBacks with
          ⟨first, rest, hFirst⟩
        change (w.rows ++ load.rows).head? = some row at hRow
        rw [hFirst] at hRow
        cases hRow
        exact hStands.shadow_le _ (by rw [hFirst]; rfl)
    | turn start => exact hStands.shadow_le row hRow
    | newest pageSize => exact Nat.zero_le _
    | join =>
        have hZero :
            (Edit.apply key .join load.rows w).shadow = 0 := by
          rcases Edit.apply_join_cases key load.rows w with
            ⟨_, _, _, _, _, _, _, hApply⟩ | hApply
          · rw [hApply]
            exact hBacks
          · rw [hApply]
            rfl
        rw [hZero]
        exact Nat.zero_le _

------------------------------------------------------------
-- The First Visible Row
------------------------------------------------------------

/- The first visible row stands where the page begins. -/
theorem rows_of_firstVisible
    {row : ρ}
    (hRow : w.firstVisible = some row) :
    w.rows[w.startIndex]? = some row := by
  unfold firstVisible pageRows at hRow
  rw [← List.head?_drop]
  rcases List.head?_eq_some_iff.mp hRow with ⟨rest, hPage⟩
  cases hRest : w.rows.drop w.startIndex with
  | nil =>
      rw [hRest, List.take_nil] at hPage
      cases hPage
  | cons first more =>
      rw [hRest] at hPage
      cases hSize : w.pageSize with
      | zero => rw [hSize] at hPage; cases hPage
      | succ n =>
          rw [hSize] at hPage
          cases hPage
          rfl

/- There are as many rows above it as above its page. -/
theorem Stands.offset_le
    (hStands : w.Stands source)
    {row : ρ}
    (hRow : w.firstVisible = some row) :
    pageOffset w.currentPage w.pageSize ≤
      source.depth (key row) := by
  have hPlace := rows_of_firstVisible hRow
  rcases List.getElem?_eq_some_iff.mp hPlace with ⟨hIndex, hGet⟩
  have hSplit :
      w.rows =
        w.rows.take w.startIndex ++
          row :: w.rows.drop (w.startIndex + 1) := by
    rw [← hGet, List.getElem_cons_drop, List.take_append_drop]
  have hDepth := hStands.place_le hSplit
  rw [List.length_take, Nat.min_eq_left (Nat.le_of_lt hIndex)]
    at hDepth
  have hPage : max w.currentPage 1 - 1 ≤
      w.absoluteStart / w.pageSize := by
    unfold currentPage saturate
    generalize w.absoluteStart / w.pageSize = before
    omega
  have hStart : w.absoluteStart ≤ w.shadow + w.startIndex :=
    Nat.min_le_left _ _
  calc pageOffset w.currentPage w.pageSize
      ≤ w.absoluteStart / w.pageSize * w.pageSize :=
        Nat.mul_le_mul_right _ hPage
    _ ≤ w.absoluteStart := Nat.div_mul_le_self _ _
    _ ≤ w.shadow + w.startIndex := hStart
    _ ≤ source.depth (key row) := hDepth

/-
  The page on which a window begins, in pages of another size,
  if there is such a page.
-/
theorem place_of_exists
    {pageSize : Nat}
    (hPos : 1 ≤ pageSize)
    (hPage :
      PageExists (w.absoluteStart / pageSize + 1) pageSize) :
    let start :=
      pageOffset (w.absoluteStart / pageSize + 1) pageSize
    start ≤ w.shadow + w.startIndex ∧
      w.shadow + w.startIndex < start + pageSize := by
  intro start
  have hStart : start = w.absoluteStart / pageSize * pageSize := by
    show pageOffset _ _ = _
    unfold pageOffset
    rw [Nat.max_eq_left (Nat.le_add_left 1 _), Nat.add_sub_cancel]
  have hPage' : start + pageSize ≤ maxWord := hPage
  have hFrom : w.absoluteStart / pageSize * pageSize ≤
      w.absoluteStart := Nat.div_mul_le_self _ _
  have hTo : w.absoluteStart <
      w.absoluteStart / pageSize * pageSize + pageSize :=
    Nat.lt_div_mul_add hPos
  rw [← hStart] at hFrom hTo
  -- a place that does not fit a word is on no page
  have hExact : w.absoluteStart = w.shadow + w.startIndex := by
    unfold absoluteStart saturate at hTo ⊢
    omega
  omega

end Window

/- A page that is shown shows the rows that stand on it. -/
theorem Edit.mem_pageRows_showPage
    {w : Window ρ}
    {page index : Nat}
    {row : ρ}
    (hRow : w.rows[index]? = some row)
    (hPos : 1 ≤ w.pageSize)
    (hPage : PageExists page w.pageSize)
    (hShadow : w.shadow ≤ pageOffset page w.pageSize)
    (hFrom : pageOffset page w.pageSize ≤ w.shadow + index)
    (hTo :
      w.shadow + index <
        pageOffset page w.pageSize + w.pageSize) :
    row ∈ (showPage w (pageOffset page w.pageSize)).pageRows := by
  let start := pageOffset page w.pageSize
  have hIndex : index < w.rows.length :=
    (List.getElem?_eq_some_iff.mp hRow).1
  have hKnown : start + 1 ≤ w.knownRowCount := by
    unfold PageExists at hPage
    unfold Window.knownRowCount saturate
    omega
  have hLast : start ≤ w.lastPageStart :=
    pageOffset_le_lastStart hPos hKnown
  have hStart : w.clampStart start = start - w.shadow := by
    unfold Window.clampStart
    dsimp only
    split <;> omega
  have hPlace :
      ((w.rows.drop (start - w.shadow)).take
          w.pageSize)[index - (start - w.shadow)]? =
        some row := by
    rw [List.getElem?_take_of_lt (by omega), List.getElem?_drop,
      Nat.add_sub_cancel' (by omega), hRow]
  unfold Window.pageRows showPage
  dsimp only
  rw [hStart]
  exact List.mem_of_getElem? hPlace

/- So does a page above which all rows wanted were found. -/
theorem Edit.mem_pageRows_head
    {w : Window ρ}
    {loaded : List ρ}
    {page index : Nat}
    {row : ρ}
    (hRow : w.rows[index]? = some row)
    (hPos : 1 ≤ w.pageSize)
    (hPage : PageExists page w.pageSize)
    (hFull :
      pageOffset page w.pageSize + loaded.length = w.shadow)
    (hTo :
      w.shadow + index <
        pageOffset page w.pageSize + w.pageSize) :
    row ∈
      (apply key
        (.head (pageOffset page w.pageSize) loaded.length)
        loaded w).pageRows := by
  let raised : Window ρ :=
    { w with
      rows := loaded.reverse ++ w.rows
      shadow :=
        if loaded.length < loaded.length then 0
        else w.shadow - loaded.length }
  have hShadow : raised.shadow = pageOffset page w.pageSize := by
    show (if loaded.length < loaded.length then 0
      else w.shadow - loaded.length) = _
    rw [if_neg (Nat.lt_irrefl _)]
    omega
  have hIndex :
      raised.rows[loaded.length + index]? = some row := by
    show (loaded.reverse ++ w.rows)[_]? = some row
    rw [← List.length_reverse,
      List.getElem?_append_right (Nat.le_add_right _ _),
      Nat.add_sub_cancel_left]
    exact hRow
  have hPage' : PageExists page raised.pageSize := hPage
  refine mem_pageRows_showPage hIndex hPos hPage' ?_ ?_ ?_
  · rw [hShadow]
  · rw [hShadow]
    exact Nat.le_add_right _ _
  · rw [hShadow]
    show _ < pageOffset page w.pageSize + w.pageSize
    omega

/-
  A window that stands, in pages of another size, shows its
  first visible row when it has gone to the page on which that
  row now stands.
-/
theorem Course.shows_first_row
    {source : Archive key}
    {w : Window ρ}
    {pageSize : Nat}
    {row : ρ}
    {f : Flight ρ κ}
    {load : Load ρ κ}
    (hCourse :
      Course key limit (w.resize pageSize)
        (.move (w.absoluteStart / max pageSize 1 + 1) none)
        f.edit load)
    (hRow : w.firstVisible = some row)
    (hBacks : f.Backs source (w.resize pageSize))
    (hDone : f.load.isDone = true) :
    row ∈
      (f.edit.apply key f.load.rows
        (w.resize pageSize)).pageRows := by
  have hPos : 1 ≤ max pageSize 1 := Nat.le_max_right _ _
  have hPlace := Window.rows_of_firstVisible hRow
  rcases f with ⟨plan, edit, loaded⟩
  cases hCourse with
  | initial _ hPage hRows =>
      rw [show w.rows = [] from hRows] at hPlace
      cases hPlace
  | head _ first hPage hFirst hShadow =>
      have hBounds := Window.place_of_exists hPos hPage
      rcases hBacks with ⟨hStart, hCount⟩
      dsimp only at hStart hCount
      rw [Load.remaining_of_isDone hDone, Nat.add_zero] at hCount
      rw [← hCount] at hStart ⊢
      exact Edit.mem_pageRows_head hPlace hPos hPage hStart
        hBounds.2
  | tail _ last hPage hLast hShadow hBeyond hDrained =>
      have hBounds := Window.place_of_exists hPos hPage
      have hKept :
          (w.rows ++ loaded.rows)[w.startIndex]? = some row := by
        rw [List.getElem?_append_left
          (List.getElem?_eq_some_iff.mp hPlace).1]
        exact hPlace
      exact Edit.mem_pageRows_showPage hKept hPos hPage hShadow
        hBounds.1 hBounds.2
  | turn _ hPage hRows hShadow hWithin =>
      have hBounds := Window.place_of_exists hPos hPage
      exact Edit.mem_pageRows_showPage hPlace hPos hPage hShadow
        hBounds.1 hBounds.2

end LedgerView
