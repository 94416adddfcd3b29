import LedgerView.Proofs.Buffer.Edit
import LedgerView.Proofs.Load.Chunk
import LedgerView.Proofs.Source.Order
import LedgerView.Proofs.Traffic.Invariant

/-
  Windows that grow at their ends.

  Rows reach a window in three ways.  A run is read from the
  newest row or from an anchor on; rows are read on from either
  end of a run; and two runs are joined at a common row.  A
  property of runs that these three keep is a property of every
  window, however operations overlap.

  Key definitions include:
    * `Shape`
    * `Shape.Suits`
    * `Shape.Down`
    * `Shape.Up`
    * `Shape.Peek`
    * `Shape.Serves`

  Key theorems include:
    * `Shape.Down.receive`
    * `Shape.Up.receive`
    * `Shape.Suits.apply_join`
    * `Shape.Suits.apply`
    * `Shape.suits_run`
-/

namespace LedgerView

variable {ε ρ κ : Type}

------------------------------------------------------------
-- Shapes
------------------------------------------------------------

/-
  A property of runs of rows, and one of runs that have been
  read down to the end, both of which reading keeps.
-/
structure Shape
    (C : Conduct ε ρ κ)
    (key : ρ → κ) where
  Fits : ε → List ρ → Prop
  Ends : ε → List ρ → Prop
  fits_nil : ∀ source, Fits source []
  /- A run that is read in descending order. -/
  fits_first :
    ∀ {source : ε} {q : ListQuery κ} {reply : Option (List ρ)},
      C.Answers source q (.ok reply) → q.order = .desc →
        Fits source ((reply.getD []).take q.limit)
  /- Such a run that is shorter than allowed. -/
  ends_first :
    ∀ {source : ε} {q : ListQuery κ} {reply : Option (List ρ)},
      C.Answers source q (.ok reply) → q.ReachesDown →
      (reply.getD []).length < q.limit → reply.getD [] ≠ [] →
        Ends source (reply.getD [])
  /- Rows read on from the last row of a run. -/
  fits_older :
    ∀ {source : ε} {rows : List ρ} {row : ρ} {limit : Nat}
      {reply : Option (List ρ)},
      Fits source (rows ++ [row]) →
      C.Answers source ⟨some (key row), .lt, .desc, limit⟩
        (.ok reply) →
        Fits source
          ((rows ++ [row]) ++ (reply.getD []).take limit)
  /- Such rows, if they are fewer than allowed. -/
  ends_older :
    ∀ {source : ε} {rows : List ρ} {row : ρ} {limit : Nat}
      {reply : Option (List ρ)},
      Fits source (rows ++ [row]) →
      C.Answers source ⟨some (key row), .lt, .desc, limit⟩
        (.ok reply) →
      (reply.getD []).length < limit →
        Ends source ((rows ++ [row]) ++ reply.getD [])
  /- Rows read on from the first row of a run. -/
  fits_newer :
    ∀ {source : ε} {rows : List ρ} {row : ρ} {limit : Nat}
      {reply : Option (List ρ)},
      Fits source (row :: rows) →
      C.Answers source ⟨some (key row), .gt, .asc, limit⟩
        (.ok reply) →
        Fits source
          (((reply.getD []).take limit).reverse ++ row :: rows)
  /- Two runs, one of which ends where the other begins. -/
  fits_meet :
    ∀ {source : ε} {fresh rows : List ρ} {a b : ρ},
      Fits source (fresh ++ [a]) → Fits source (b :: rows) →
      key a = key b → Fits source (fresh ++ b :: rows)
  /- Rows put in front leave the end as it is. -/
  ends_append :
    ∀ {source : ε} {newer rows : List ρ},
      Fits source (newer ++ rows) → rows ≠ [] →
      Ends source rows → Ends source (newer ++ rows)
  fits_becomes :
    ∀ {source next : ε} {rows : List ρ},
      C.Becomes source next → Fits source rows → Fits next rows
  ends_becomes :
    ∀ {source next : ε} {rows : List ρ},
      C.Becomes source next → Ends source rows → Ends next rows

namespace Shape

variable {C : Conduct ε ρ κ} {key : ρ → κ}
variable (S : Shape C key)

/- A window whose rows have the shape. -/
structure Suits
    (source : ε)
    (w : Window ρ) : Prop where
  fits : S.Fits source w.rows
  ends :
    w.drained = true → w.rows ≠ [] → S.Ends source w.rows
  startIndex_le : w.startIndex ≤ w.rows.length
  pageSize_pos : 1 ≤ w.pageSize

------------------------------------------------------------
-- Loads in Progress
------------------------------------------------------------

/- Up to `wanted` rows are read on below the rows `ground`. -/
structure Down
    (source : ε)
    (ground : List ρ)
    (wanted : Nat)
    (l : Load ρ κ) : Prop where
  order : l.order = .desc
  fits : S.Fits source (ground ++ l.rows)
  next :
    l.remaining = 0 ∨
      (ground ++ l.rows = [] ∧
        (l.operator = .lt ∨ l.operator = .lte)) ∨
      ∃ rows row, ground ++ l.rows = rows ++ [row] ∧
        l.cursor = some (key row) ∧ l.operator = .lt
  count : l.remaining = 0 ∨ l.rows.length + l.remaining = wanted
  ends :
    l.remaining = 0 → l.rows.length < wanted →
      ground ++ l.rows ≠ [] → S.Ends source (ground ++ l.rows)

/- Rows are read on above the rows `ground`. -/
structure Up
    (source : ε)
    (ground : List ρ)
    (l : Load ρ κ) : Prop where
  order : l.order = .asc
  operator : l.operator = .gt
  fits : S.Fits source (l.rows.reverse ++ ground)
  cursor :
    ∃ row rows, l.rows.reverse ++ ground = row :: rows ∧
      l.cursor = some (key row)

/- A run is read in one chunk of at most `limit` rows. -/
structure Peek
    (source : ε)
    (limit : Nat)
    (l : Load ρ κ) : Prop where
  order : l.order = .desc
  fits : S.Fits source l.rows
  next :
    l.remaining = 0 ∨ l.rows = [] ∧ l.remaining ≤ limit

/- Nothing has been read of a load that begins with a run. -/
theorem down_start
    (source : ε)
    (cursor : Option κ)
    (wanted : Nat)
    (inclusive : Bool) :
    S.Down source [] wanted (.below cursor wanted inclusive) where
  order := rfl
  fits := S.fits_nil source
  next := by
    cases inclusive with
    | true => exact .inr (.inl ⟨rfl, .inr rfl⟩)
    | false => exact .inr (.inl ⟨rfl, .inl rfl⟩)
  count := .inr (Nat.zero_add wanted)
  ends := fun _ _ hRows => absurd rfl hRows

/- Nothing has been read of a load that goes on below a run. -/
theorem down_continue
    {source : ε}
    {rows : List ρ}
    {row : ρ}
    (wanted : Nat)
    (hFits : S.Fits source rows)
    (hLast : rows.getLast? = some row)
    (hWanted : 0 < wanted) :
    S.Down source rows wanted
      (.below (some (key row)) wanted false) where
  order := rfl
  fits := by
    rw [show (Load.below (some (key row)) wanted false :
      Load ρ κ).rows = [] from rfl, List.append_nil]
    exact hFits
  next := by
    rcases List.getLast?_eq_some_iff.mp hLast with ⟨init, hInit⟩
    refine .inr (.inr ⟨init, row, ?_, rfl, rfl⟩)
    rw [hInit]
    exact List.append_nil _
  count := .inr (Nat.zero_add wanted)
  ends := fun hRemaining => absurd hRemaining (Nat.ne_of_gt hWanted)

variable {S}
variable {source : ε} {ground : List ρ} {wanted limit : Nat}
variable {l : Load ρ κ} {reply : Option (List ρ)}

/- What has been read stays in shape when a chunk is added. -/
theorem Down.fits_receive
    (hDown : S.Down source ground wanted l)
    (hDone : l.isDone = false)
    (hAnswer : C.Answers source (l.query limit) (.ok reply)) :
    S.Fits source
      (ground ++ (l.receive key limit (reply.getD [])).rows) := by
  have hRemaining := Load.remaining_ne_zero hDone
  rw [Load.receive_rows, ← List.append_assoc]
  rcases hDown.next with hZero | hFirst | hLater
  · exact absurd hZero hRemaining
  · rw [hFirst.1, List.nil_append]
    exact S.fits_first hAnswer hDown.order
  · rcases hLater with ⟨rows, row, hRows, hCursor, hOperator⟩
    rw [Load.query_eq limit hCursor hOperator hDown.order]
      at hAnswer
    have hFits := hDown.fits
    rw [hRows] at hFits ⊢
    exact S.fits_older hFits hAnswer

/-
  A chunk that is not full has been read down to the end,
  unless nothing at all has been read.
-/
theorem Down.ends_receive
    (hDown : S.Down source ground wanted l)
    (hDone : l.isDone = false)
    (hAnswer : C.Answers source (l.query limit) (.ok reply))
    (hShort : (reply.getD []).length < l.chunkSize limit)
    (hRead :
      ground ++ (l.receive key limit (reply.getD [])).rows ≠ []) :
    S.Ends source
      (ground ++ (l.receive key limit (reply.getD [])).rows) := by
  have hRemaining := Load.remaining_ne_zero hDone
  have hWhole :
      (reply.getD []).take (l.chunkSize limit) =
        reply.getD [] :=
    List.take_of_length_le (Nat.le_of_lt hShort)
  rw [Load.receive_rows, ← List.append_assoc, hWhole] at hRead ⊢
  rcases hDown.next with hZero | hFirst | hLater
  · exact absurd hZero hRemaining
  · rw [hFirst.1, List.nil_append] at hRead ⊢
    exact S.ends_first hAnswer ⟨hDown.order, hFirst.2⟩ hShort
      hRead
  · rcases hLater with ⟨rows, row, hRows, hCursor, hOperator⟩
    rw [Load.query_eq limit hCursor hOperator hDown.order]
      at hAnswer
    have hFits := hDown.fits
    rw [hRows] at hFits ⊢
    exact S.ends_older hFits hAnswer hShort

/- Every further chunk leaves out the row it continues from. -/
theorem Down.strict
    (hDown : S.Down source ground wanted l)
    (hRemaining : l.remaining ≠ 0) :
    l.operator.strict = .lt := by
  rcases hDown.next with hZero | hFirst | hLater
  · exact absurd hZero hRemaining
  · rcases hFirst.2 with hOperator | hOperator
    · rw [hOperator]
      rfl
    · rw [hOperator]
      rfl
  · rcases hLater with ⟨_, _, _, _, hOperator⟩
    rw [hOperator]
    rfl

/- A chunk that is not full is the last one. -/
theorem Down.receive_of_short
    (hDown : S.Down source ground wanted l)
    (hDone : l.isDone = false)
    (hAnswer : C.Answers source (l.query limit) (.ok reply))
    (hShort : (reply.getD []).length < l.chunkSize limit) :
    S.Down source ground wanted
      (l.receive key limit (reply.getD [])) := by
  have hFits := hDown.fits_receive hDone hAnswer
  have hZero :
      (l.receive key limit (reply.getD [])).remaining = 0 :=
    Load.receive_of_short hShort
  refine ⟨hDown.order, hFits, .inl hZero, .inl hZero, ?_⟩
  intro _ _ hRead
  exact hDown.ends_receive hDone hAnswer hShort hRead

/- After a full chunk its last row is the one to go on from. -/
theorem Down.receive_of_full
    (hDown : S.Down source ground wanted l)
    (hLimit : 0 < limit)
    (hDone : l.isDone = false)
    (hAnswer : C.Answers source (l.query limit) (.ok reply))
    (hFull : l.chunkSize limit ≤ (reply.getD []).length) :
    S.Down source ground wanted
      (l.receive key limit (reply.getD [])) := by
  have hRemaining := Load.remaining_ne_zero hDone
  have hSize := Load.chunkSize_pos hLimit hDone
  have hSizeLe : l.chunkSize limit ≤ l.remaining :=
    Load.chunkSize_le
  have hCount : l.rows.length + l.remaining = wanted :=
    hDown.count.resolve_left hRemaining
  have hFits := hDown.fits_receive hDone hAnswer
  have hRest :
      (l.receive key limit (reply.getD [])).remaining =
        l.remaining - l.chunkSize limit :=
    Load.receive_of_full hFull
  have hLength :
      ((reply.getD []).take (l.chunkSize limit)).length =
        l.chunkSize limit := by
    rw [List.length_take]
    omega
  have hRows :
      (l.receive key limit (reply.getD [])).rows.length =
        l.rows.length + l.chunkSize limit := by
    rw [Load.receive_rows, List.length_append, hLength]
  refine ⟨hDown.order, hFits, .inr (.inr ?_), .inr ?_, ?_⟩
  · rcases List.eq_nil_or_concat
        ((reply.getD []).take (l.chunkSize limit)) with
      hNil | ⟨init, last, hChunk⟩
    · rw [hNil, List.length_nil] at hLength
      omega
    · rw [List.concat_eq_append] at hChunk
      refine
        ⟨ground ++ l.rows ++ init, last, ?_,
          Load.receive_cursor_of_append hChunk,
          hDown.strict hRemaining⟩
      rw [Load.receive_rows, hChunk]
      simp only [List.append_assoc]
  · rw [hRows, hRest]
    omega
  · intro hZero hFewer
    rw [hRows] at hFewer
    rw [hRest] at hZero
    omega

/- A chunk is read on below what has been read before. -/
theorem Down.receive
    (hDown : S.Down source ground wanted l)
    (hLimit : 0 < limit)
    (hDone : l.isDone = false)
    (hAnswer : C.Answers source (l.query limit) (.ok reply)) :
    S.Down source ground wanted
      (l.receive key limit (reply.getD [])) := by
  by_cases hShort :
      (reply.getD []).length < l.chunkSize limit
  · exact hDown.receive_of_short hDone hAnswer hShort
  · exact
      hDown.receive_of_full hLimit hDone hAnswer
        (Nat.not_lt.mp hShort)

/- Nothing has been read of a load that goes on above a run. -/
theorem up_start
    (S : Shape C key)
    {rows : List ρ}
    {row : ρ}
    (count : Nat)
    (hFits : S.Fits source rows)
    (hHead : rows.head? = some row) :
    S.Up source rows (.above (key row) count) := by
  rcases List.head?_eq_some_iff.mp hHead with ⟨rest, hRows⟩
  refine ⟨rfl, rfl, hFits, row, rest, hRows, rfl⟩

/- A chunk is read on above what has been read before. -/
theorem Up.receive
    (hUp : S.Up source ground l)
    (hAnswer : C.Answers source (l.query limit) (.ok reply)) :
    S.Up source ground
      (l.receive key limit (reply.getD [])) := by
  rcases hUp.cursor with ⟨row, rows, hRows, hCursor⟩
  rw [Load.query_eq limit hCursor hUp.operator hUp.order]
    at hAnswer
  have hFits := hUp.fits
  rw [hRows] at hFits
  have hNewer := S.fits_newer hFits hAnswer
  refine ⟨hUp.order, ?_, ?_, ?_⟩
  · rw [Load.receive_operator, hUp.operator]
    rfl
  · rw [Load.receive_rows, List.reverse_append,
      List.append_assoc, hRows]
    exact hNewer
  · rcases List.eq_nil_or_concat
        ((reply.getD []).take (l.chunkSize limit)) with
      hNil | ⟨init, last, hChunk⟩
    · refine ⟨row, rows, ?_, ?_⟩
      · rw [Load.receive_rows, hNil, List.append_nil, hRows]
      · rw [Load.receive_cursor_of_nil hNil, hCursor]
    · rw [List.concat_eq_append] at hChunk
      refine
        ⟨last, init.reverse ++ row :: rows, ?_,
          Load.receive_cursor_of_append hChunk⟩
      rw [Load.receive_rows, hChunk, List.reverse_append,
        List.append_assoc, hRows, List.reverse_concat]
      rfl

/- Nothing has been read of a load of a single chunk. -/
theorem peek_start
    (S : Shape C key)
    (source : ε)
    (k : κ)
    (limit : Nat) :
    S.Peek source limit (.newest limit k limit) where
  order := rfl
  fits := S.fits_nil source
  next := .inr ⟨rfl, Nat.min_le_right _ _⟩

/- A load of a single chunk is done after it. -/
theorem Peek.receive
    (hPeek : S.Peek source limit l)
    (hDone : l.isDone = false)
    (hAnswer : C.Answers source (l.query limit) (.ok reply)) :
    S.Peek source limit
      (l.receive key limit (reply.getD [])) := by
  have hRemaining := Load.remaining_ne_zero hDone
  rcases hPeek.next.resolve_left hRemaining with
    ⟨hRows, hLe⟩
  refine ⟨hPeek.order, ?_, .inl ?_⟩
  · rw [Load.receive_rows, hRows, List.nil_append]
    exact S.fits_first hAnswer hPeek.order
  · exact Load.remaining_of_isDone (Load.isDone_receive _ hLe)

------------------------------------------------------------
-- Operations in Progress
------------------------------------------------------------

/- What is known of an operation planned for a window. -/
def Serves
    (S : Shape C key)
    (limit : Nat)
    (source : ε)
    (w : Window ρ)
    (v : Voyage ρ κ) : Prop :=
  match v.flight.edit with
  | .anchored _ wanted =>
      S.Down source [] wanted v.flight.load
  | .initial _ wanted =>
      S.Down source [] wanted v.flight.load
  | .newest wanted =>
      S.Down source [] wanted v.flight.load
  | .tail _ wanted =>
      w.drained = false ∧
        S.Down source w.rows wanted v.flight.load
  | .head _ _ => w.rows ≠ [] ∧ S.Up source w.rows v.flight.load
  | .turn _ => True
  | .join => w.rows ≠ [] ∧ S.Peek source limit v.flight.load

/- An operation that begins serves the window. -/
theorem serves_of_course
    {w : Window ρ}
    {op : Operation κ}
    {edit : Edit}
    {load : Load ρ κ}
    (hSuits : S.Suits source w)
    (hCourse : Course key limit w op edit load)
    (p : Plan κ) :
    S.Serves limit source w ⟨op, p, edit, load⟩ := by
  cases hCourse with
  | anchored page anchor hPage =>
      exact S.down_start source (some anchor) _ true
  | initial page hPage hRows =>
      exact S.down_start source none _ false
  | head page row hPage hRow hShadow =>
      refine ⟨?_, S.up_start _ hSuits.fits hRow⟩
      intro hNil
      rw [hNil] at hRow
      cases hRow
  | tail page row hPage hRow hShadow hBeyond hDrained =>
      refine
        ⟨hDrained, S.down_continue _ hSuits.fits hRow ?_⟩
      omega
  | turn page hPage hRows hShadow hWithin => trivial
  | newest hNoHead => exact S.down_start source none _ false
  | join row hRow hShadow =>
      refine ⟨?_, S.peek_start source (key row) limit⟩
      intro hNil
      rw [hNil] at hRow
      cases hRow

/- An operation that is answered still serves the window. -/
theorem Serves.receive
    {w : Window ρ}
    {v : Voyage ρ κ}
    (hServes : S.Serves limit source w v)
    (hLimit : 0 < limit)
    (hDone : v.flight.load.isDone = false)
    (hAnswer :
      C.Answers source (v.flight.load.query limit) (.ok reply)) :
    S.Serves limit source w
      { v with
        flight := v.flight.receive key limit (reply.getD []) } := by
  rcases v with ⟨op, plan, edit, load⟩
  cases edit with
  | anchored start wanted =>
      exact Down.receive hServes hLimit hDone hAnswer
  | initial start wanted =>
      exact Down.receive hServes hLimit hDone hAnswer
  | newest wanted =>
      exact Down.receive hServes hLimit hDone hAnswer
  | tail start wanted =>
      exact ⟨hServes.1, hServes.2.receive hLimit hDone hAnswer⟩
  | head start wanted =>
      exact ⟨hServes.1, hServes.2.receive hAnswer⟩
  | turn start => trivial
  | join => exact ⟨hServes.1, hServes.2.receive hDone hAnswer⟩

/- An operation still serves the window when the source changes. -/
theorem Serves.becomes
    {next : ε}
    {w : Window ρ}
    {v : Voyage ρ κ}
    (hServes : S.Serves limit source w v)
    (hBecomes : C.Becomes source next) :
    S.Serves limit next w v := by
  have hDown :
      ∀ {ground : List ρ} {wanted : Nat} {l : Load ρ κ},
        S.Down source ground wanted l →
          S.Down next ground wanted l := by
    intro ground wanted l hDown
    exact
      { order := hDown.order
        fits := S.fits_becomes hBecomes hDown.fits
        next := hDown.next
        count := hDown.count
        ends := fun hZero hFewer hRead =>
          S.ends_becomes hBecomes
            (hDown.ends hZero hFewer hRead) }
  rcases v with ⟨op, plan, edit, load⟩
  cases edit with
  | anchored start wanted => exact hDown hServes
  | initial start wanted => exact hDown hServes
  | newest wanted => exact hDown hServes
  | tail start wanted => exact ⟨hServes.1, hDown hServes.2⟩
  | head start wanted =>
      have hUp := hServes.2
      exact
        ⟨hServes.1, hUp.order, hUp.operator,
          S.fits_becomes hBecomes hUp.fits, hUp.cursor⟩
  | turn start => trivial
  | join =>
      have hPeek := hServes.2
      exact
        ⟨hServes.1, hPeek.order,
          S.fits_becomes hBecomes hPeek.fits, hPeek.next⟩

------------------------------------------------------------
-- Windows
------------------------------------------------------------

/- An empty window has every shape. -/
theorem suits_empty
    (S : Shape C key)
    (source : ε)
    (pageSize : Nat) :
    S.Suits source (.empty pageSize) where
  fits := S.fits_nil source
  ends := fun hDrained => by cases hDrained
  startIndex_le := Nat.le_refl 0
  pageSize_pos := Nat.le_max_right _ _

/- A window keeps its shape when the source changes. -/
theorem Suits.becomes
    {next : ε}
    {w : Window ρ}
    (hSuits : S.Suits source w)
    (hBecomes : C.Becomes source next) :
    S.Suits next w where
  fits := S.fits_becomes hBecomes hSuits.fits
  ends := fun hDrained hRows =>
    S.ends_becomes hBecomes (hSuits.ends hDrained hRows)
  startIndex_le := hSuits.startIndex_le
  pageSize_pos := hSuits.pageSize_pos

/- A window that is reset has every shape. -/
theorem Suits.reset
    {w : Window ρ}
    (hSuits : S.Suits source w) :
    S.Suits source w.reset where
  fits := S.fits_nil source
  ends := fun hDrained => by cases hDrained
  startIndex_le := Nat.le_refl 0
  pageSize_pos := hSuits.pageSize_pos

variable [DecidableEq κ]

/- A window to which a run is joined keeps its shape. -/
theorem Suits.apply_join
    {w : Window ρ}
    {fresh : List ρ}
    (hSuits : S.Suits source w)
    (hRows : w.rows ≠ [])
    (hFresh : S.Fits source fresh) :
    S.Fits source (Edit.apply key .join fresh w).rows ∧
      ((Edit.apply key .join fresh w).drained = true →
        S.Ends source (Edit.apply key .join fresh w).rows) := by
  rcases Edit.apply_join_cases key fresh w with
    ⟨newer, a, b, older, hNewer, hOlder, hKey, hApply⟩ | hApply
  · have hOld := hSuits.fits
    rw [hNewer] at hFresh
    rw [hOlder] at hOld
    have hMeet := S.fits_meet hFresh hOld hKey
    rw [hApply]
    refine ⟨hMeet, ?_⟩
    intro hDrained
    have hEnds := hSuits.ends hDrained hRows
    rw [hOlder] at hEnds
    exact S.ends_append hMeet (List.cons_ne_nil b older) hEnds
  · rw [hApply]
    refine ⟨hFresh, ?_⟩
    intro hDrained
    cases hDrained

/- A window that an operation edits keeps its shape. -/
theorem Suits.apply
    {w : Window ρ}
    {v : Voyage ρ κ}
    (hSuits : S.Suits source w)
    (hServes : S.Serves limit source w v)
    (hDone : v.flight.load.isDone = true) :
    S.Suits source
      (v.flight.edit.apply key v.flight.load.rows w) := by
  have hZero := Load.remaining_of_isDone hDone
  have hStart :=
    Edit.startIndex_apply_le key v.flight.edit
      v.flight.load.rows hSuits.startIndex_le
  have hPage :
      1 ≤ (v.flight.edit.apply key v.flight.load.rows
        w).pageSize := by
    rw [Edit.apply_pageSize]
    exact hSuits.pageSize_pos
  rcases v with ⟨op, plan, edit, load⟩
  cases edit with
  | anchored start wanted =>
      refine ⟨Down.fits hServes, ?_, hStart, hPage⟩
      intro hDrained hRead
      exact Down.ends hServes hZero
        (of_decide_eq_true hDrained) hRead
  | initial start wanted =>
      refine ⟨Down.fits hServes, ?_, hStart, hPage⟩
      intro hDrained hRead
      exact Down.ends hServes hZero
        (of_decide_eq_true hDrained) hRead
  | newest wanted =>
      refine ⟨Down.fits hServes, ?_, hStart, hPage⟩
      intro hDrained hRead
      exact Down.ends hServes hZero
        (of_decide_eq_true hDrained) hRead
  | tail start wanted =>
      rcases hServes with ⟨hOpen, hDown⟩
      refine ⟨hDown.fits, ?_, hStart, hPage⟩
      intro hDrained hRead
      have hFewer : load.rows.length < wanted := by
        simpa [Edit.apply, Edit.showPage, hOpen] using hDrained
      exact hDown.ends hZero hFewer hRead
  | head start wanted =>
      rcases hServes with ⟨hRows, hUp⟩
      refine ⟨hUp.fits, ?_, hStart, hPage⟩
      intro hDrained _
      exact S.ends_append hUp.fits hRows
        (hSuits.ends hDrained hRows)
  | turn start =>
      exact ⟨hSuits.fits, hSuits.ends, hStart, hPage⟩
  | join =>
      rcases hServes with ⟨hRows, hPeek⟩
      rcases hSuits.apply_join hRows hPeek.fits with
        ⟨hFits, hEnds⟩
      exact ⟨hFits, fun hDrained _ => hEnds hDrained, hStart, hPage⟩

/- A shape is an invariant of windows under traffic. -/
def invariant
    (S : Shape C key)
    (hLimit : 0 < limit) :
    Invariant C key limit where
  Holds := S.Suits
  Serves := S.Serves limit
  begins := by
    intro source b op f hMax hSuits hBegin
    have hCourse := (Buffer.begin_eq_ok_iff.mp hBegin).2
    rw [hMax] at hCourse
    exact serves_of_course hSuits hCourse f.plan
  receives := by
    intro source w v rows hServes hDone hAnswer
    exact hServes.receive hLimit hDone hAnswer
  commits := by
    intro source w v hSuits hServes hDone
    exact hSuits.apply hServes hDone
  becomes := by
    intro source next w hBecomes hSuits
    exact hSuits.becomes hBecomes
  serves_becomes := by
    intro source next w v hBecomes _ hServes
    exact hServes.becomes hBecomes
  resets := by
    intro source w hSuits
    exact hSuits.reset
  resizes := by
    intro source b pageSize hSuits
    exact
      { fits := hSuits.fits
        ends := hSuits.ends
        startIndex_le := Nat.min_le_right _ _
        pageSize_pos := Nat.le_max_right _ _ }

/- Every window under traffic has the shape. -/
theorem suits_run
    (S : Shape C key)
    (pageSize maxLimit : Nat)
    {events : List (Traffic.Event ε ρ κ)}
    (hAllows :
      C.Allows key (.start source pageSize maxLimit) events)
    (hChanges :
      ((Traffic.start source pageSize maxLimit).run key
        events).changes < 2 ^ 64) :
    S.Suits
      ((Traffic.start source pageSize maxLimit).run key
        events).source
      ((Traffic.start source pageSize maxLimit).run key
        events).buffer.window := by
  have hLimit : 0 < max maxLimit 1 := by omega
  have hStart :
      (S.invariant hLimit).Sound
        (.start source pageSize maxLimit) :=
    Invariant.sound_start source pageSize maxLimit rfl
      (S.suits_empty source pageSize)
  exact (Invariant.sound_run hStart hAllows hChanges).holds

end Shape

end LedgerView
