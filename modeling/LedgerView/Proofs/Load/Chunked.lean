import LedgerView.Proofs.Load.Asked
import LedgerView.Proofs.Load.Growing
import LedgerView.Proofs.Load.Upward
import LedgerView.Proofs.Window.Count

/-
  Chunks that make a whole.

  Whatever a source answers, a load asks no more often than its
  rows fill chunks, never for more rows than the limit, and takes
  no more rows than it wants.  Answered truthfully it gives what
  one query for all its rows would have given; downwards also
  when rows come in above between its chunks.

  Key definitions include:
    * `Load.Sparing`
    * `Load.Fresh`

  Key theorems include:
    * `Load.sparing_run`
    * `Load.chunks_make_whole`
-/

namespace LedgerView

variable {σ ρ κ : Type}

------------------------------------------------------------
-- How Often a Load Asks
------------------------------------------------------------

/- The rest after a chunk fills one chunk less. -/
theorem succ_divUp_le
    {limit count rest : Nat}
    (hLimit : 0 < limit)
    (hCount : count ≠ 0)
    (hRest : rest ≤ count - min count limit) :
    divUp rest limit + 1 ≤ divUp count limit := by
  by_cases hOne : count ≤ limit
  · have hNone : rest = 0 := by
      rw [Nat.min_eq_left hOne] at hRest
      omega
    rcases Nat.exists_eq_succ_of_ne_zero hCount with ⟨n, hSucc⟩
    rw [hNone, divUp_of_dvd hLimit (Nat.dvd_zero limit),
      Nat.zero_div, hSucc, divUp_succ hLimit]
    exact Nat.succ_le_succ (Nat.zero_le _)
  · have hMore : limit ≤ count := Nat.le_of_not_le hOne
    rw [Nat.min_eq_right hMore] at hRest
    have hLess : divUp rest limit ≤ divUp (count - limit) limit :=
      divUp_le_divUp limit hRest
    have hSplit :
        count + limit - 1 = (count - limit + limit - 1) + limit := by
      omega
    have hWhole : divUp count limit = divUp (count - limit) limit + 1 := by
      unfold divUp
      rw [hSplit, Nat.add_div_right _ hLimit]
    omega

namespace Load

variable {key : ρ → κ} {limit : Nat} {l : Load ρ κ}
variable {ask : σ → ListQuery κ → Reply ρ × σ}

/-
  Queries and rows that a load may cost: at most so many queries,
  none of them for no row or for more than the limit, and at most
  so many rows.
-/
structure Sparing
    (limit queries rows : Nat)
    (asked : List (ListQuery κ))
    (result : Except SourceError (Load ρ κ)) : Prop where
  often : asked.length ≤ queries
  each : ∀ q ∈ asked, 1 ≤ q.limit ∧ q.limit ≤ limit
  rows_le : ∀ l', result = .ok l' → l'.rows.length ≤ rows

/- One more query leaves the rest of the load as sparing. -/
theorem Sparing.cons
    {queries rows : Nat}
    {asked : List (ListQuery κ)}
    {result : Except SourceError (Load ρ κ)}
    (hSparing : Sparing limit queries rows asked result)
    {q : ListQuery κ}
    (hLeast : 1 ≤ q.limit)
    (hMost : q.limit ≤ limit) :
    Sparing limit (queries + 1) rows (q :: asked) result where
  often := Nat.succ_le_succ hSparing.often
  each := fun q' hMem => by
    rcases List.mem_cons.mp hMem with hEq | hOld
    · rw [hEq]
      exact ⟨hLeast, hMost⟩
    · exact hSparing.each q' hOld
  rows_le := hSparing.rows_le

/- It stays sparing where more is allowed. -/
theorem Sparing.mono
    {queries queries' rows rows' : Nat}
    {asked : List (ListQuery κ)}
    {result : Except SourceError (Load ρ κ)}
    (hSparing : Sparing limit queries rows asked result)
    (hQueries : queries ≤ queries')
    (hRows : rows ≤ rows') :
    Sparing limit queries' rows' asked result where
  often := Nat.le_trans hSparing.often hQueries
  each := hSparing.each
  rows_le := fun l' hOk =>
    Nat.le_trans (hSparing.rows_le l' hOk) hRows

/- A chunk takes no more rows than are no longer wanted. -/
theorem length_receive_le
    (reply : List ρ) :
    (l.receive key limit reply).rows.length +
        (l.receive key limit reply).remaining ≤
      l.rows.length + l.remaining ∧
    (l.receive key limit reply).remaining ≤
      l.remaining - l.chunkSize limit := by
  have hSize : l.chunkSize limit ≤ l.remaining := chunkSize_le
  rw [receive_rows, List.length_append, List.length_take]
  by_cases hFull : l.chunkSize limit ≤ reply.length
  · rw [receive_of_full hFull]
    omega
  · rw [receive_of_short (Nat.not_le.mp hFull)]
    omega

variable (key ask l) in
/-
  Whatever is answered, a load asks no more often than the rows
  that it still wants fill chunks.
-/
theorem sparing_run
    (hLimit : 0 < limit)
    (source : σ)
    (asked : List (ListQuery κ)) :
    ∃ result source' more,
      l.run key limit hLimit (keeping ask) (source, asked) =
          (result, source', asked ++ more) ∧
        Sparing limit (divUp l.remaining limit)
          (l.rows.length + l.remaining) more result := by
  induction l using chunk_induction key hLimit
    generalizing source asked with
  | done l hDone =>
      refine
        ⟨.ok l, source, [], ?_, Nat.zero_le _, by simp, ?_⟩
      · rw [run_of_isDone hLimit _ hDone, List.append_nil]
      · intro l' hSame
        cases hSame
        exact Nat.le_add_right _ _
  | loading l hOpen ih =>
      have hSome : l.remaining ≠ 0 := remaining_ne_zero hOpen
      have hLeast : 1 ≤ (l.query limit).limit :=
        chunkSize_pos hLimit hOpen
      have hMost : (l.query limit).limit ≤ limit :=
        Nat.min_le_right _ _
      rcases hAsk : ask source (l.query limit) with
        ⟨reply, source'⟩
      have hKept :
          keeping ask (source, asked) (l.query limit) =
            (reply, source', asked ++ [l.query limit]) := by
        unfold keeping
        rw [hAsk]
      cases reply with
      | error e =>
          have hNone :
              Sparing limit 0 (l.rows.length + l.remaining) []
                (.error e : Except SourceError (Load ρ κ)) :=
            ⟨Nat.le_refl _, by simp, by simp⟩
          refine
            ⟨.error e, source', [l.query limit],
              run_of_error hLimit hOpen hKept,
              (hNone.cons hLeast hMost).mono ?_ (Nat.le_refl _)⟩
          exact
            Nat.le_trans (Nat.succ_le_succ (Nat.zero_le _))
              (succ_divUp_le hLimit hSome (Nat.zero_le _))
      | ok rows =>
          have hRows :
              (l.receive key limit (rows.getD [])).rows.length +
                  (l.receive key limit (rows.getD [])).remaining ≤
                l.rows.length + l.remaining ∧
              (l.receive key limit (rows.getD [])).remaining ≤
                l.remaining - l.chunkSize limit :=
            length_receive_le (rows.getD [])
          rcases ih (rows.getD []) source'
              (asked ++ [l.query limit]) with
            ⟨result, last, more, hRun, hSparing⟩
          refine
            ⟨result, last, l.query limit :: more, ?_,
              (hSparing.cons hLeast hMost).mono ?_ hRows.1⟩
          · rw [run_of_answer hLimit hOpen hKept, hRun,
              List.append_assoc, List.singleton_append]
          · exact succ_divUp_le hLimit hSome hRows.2

/- A load that has not begun, of up to `count` rows in chunks. -/
inductive Fresh
    (count : Nat) : Load ρ κ → Prop where
  | above (k : κ) : Fresh count (.above k count)
  | below (k : Option κ) (inclusive : Bool) :
      Fresh count (.below k count inclusive)

/- It has no row, and wants them all. -/
theorem Fresh.length_add_remaining
    {count : Nat}
    (hFresh : l.Fresh count) :
    l.remaining = count ∧ l.rows.length + l.remaining = count := by
  cases hFresh <;> exact ⟨rfl, Nat.zero_add _⟩

------------------------------------------------------------
-- What It Reads
------------------------------------------------------------

/- A load below a key yields what one query for all gives. -/
theorem yield_below
    [LinearOrder κ]
    (source : Archive key)
    (k : Option κ)
    (count : Nat)
    (inclusive : Bool) :
    (below k count inclusive).yield source =
      selectRows key source.rows
        ⟨k, if inclusive then .lte else .lt, .desc, count⟩ := rfl

/- A load above a key will have read what one query gives. -/
theorem harvest_above
    [LinearOrder κ]
    (source : Archive key)
    (k : κ)
    (count : Nat) :
    (above k count).harvest source =
      selectRows key source.rows ⟨some k, .gt, .asc, count⟩ := by
  have hWhole :
      selectRows key source.rows ((above k count).query count) =
        ((above k count).path source).take
          ((above k count : Load ρ κ).chunkSize count) :=
    selectRows_query_path source
  have hSize : (above k count : Load ρ κ).chunkSize count = count :=
    Nat.min_self count
  unfold query at hWhole
  rw [hSize] at hWhole
  exact hWhole.symm

/- Both ways downwards are down. -/
theorem strict_below
    (k : Option κ)
    (count : Nat)
    (inclusive : Bool) :
    (below k count inclusive : Load ρ κ).operator.strict = .lt := by
  cases inclusive <;> rfl

/-
  In chunks of at most the limit, a load up or down asks at most
  as often as its rows fill chunks, each time for at least one
  row and for no more than the limit, and ends with no more rows
  than it wants, whatever is answered.  A truthful source whose
  rows stay gives a load above a key what one query for all its
  rows would give; a truthful source that only gains newer rows
  gives a load below a key, or from the top, what one query for
  all its rows would have given at the start.
-/
theorem chunks_make_whole
    [LinearOrder κ]
    (key : ρ → κ)
    (limit count : Nat)
    (hLimit : 0 < limit) :
    (∀ {σ : Type} (ask : σ → ListQuery κ → Reply ρ × σ)
        (source : σ) (l : Load ρ κ), l.Fresh count →
      ∃ result source' asked,
        l.run key limit hLimit (keeping ask) (source, []) =
            (result, source', asked) ∧
          l.run key limit hLimit ask source = (result, source') ∧
          asked.length ≤ divUp count limit ∧
          (∀ q ∈ asked, 1 ≤ q.limit ∧ q.limit ≤ limit) ∧
          ∀ l', result = .ok l' → l'.rows.length ≤ count) ∧
    ∀ {σ : Type} (archive : σ → Archive key)
        (ask : σ → ListQuery κ → Reply ρ × σ),
      Truthful archive ask → ∀ source,
        (Steady archive ask → ∀ k, ∃ l' later,
          (above k count).run key limit hLimit ask source =
              (.ok l', later) ∧
            l'.rows =
              selectRows key (archive source).rows
                ⟨some k, .gt, .asc, count⟩) ∧
        (Gaining archive ask → ∀ k inclusive, ∃ l' later,
          (below k count inclusive).run key limit hLimit ask
              source = (.ok l', later) ∧
            l'.rows =
              selectRows key (archive source).rows
                ⟨k, if inclusive then .lte else .lt, .desc,
                  count⟩) := by
  refine
    ⟨fun ask source l hFresh => ?_,
      fun archive ask hTruthful source => ⟨?_, ?_⟩⟩
  · rcases hFresh.length_add_remaining with ⟨hWanted, hSum⟩
    rcases sparing_run key l ask hLimit source [] with
      ⟨result, source', asked, hRun, hSparing⟩
    rw [hSum, hWanted] at hSparing
    rcases run_keeping key l ask hLimit source [] with
      ⟨more, hKept⟩
    have hSame :
        l.run key limit hLimit ask source = (result, source') := by
      rw [hRun] at hKept
      exact Prod.ext (congrArg (·.1) hKept).symm
        (congrArg (·.2.1) hKept).symm
    exact
      ⟨result, source', asked, hRun, hSame, hSparing.often,
        hSparing.each, hSparing.rows_le⟩
  · intro hSteady k
    rw [← harvest_above]
    exact
      run_path hTruthful hSteady hLimit (directed_above k count)
        source
  · intro hGaining k inclusive
    rw [← yield_below]
    exact
      run_gaining hTruthful hGaining hLimit rfl
        (strict_below k count inclusive) source

/- The numbers below one, the greatest first. -/
def numbersBelow
    (n : Nat) : Archive (id : Nat → Nat) where
  rows := (List.range n).reverse
  descends := List.pairwise_reverse.mpr List.pairwise_lt_range

/- Answer from the numbers that there are; then one comes in. -/
def askRising
    (n : Nat)
    (q : ListQuery Nat) : Reply Nat × Nat :=
  (.ok (some (selectRows id (numbersBelow n).rows q)), n + 1)

/-
  Seven numbers from 9 down in three chunks, though 9 and 10 come
  in meanwhile; and four numbers above 1.
-/
theorem chunks_make_whole_rising :
    (0 < 3 ∧ (below (some 9) 7 true : Load Nat Nat).Fresh 7 ∧
      Truthful numbersBelow askRising ∧
      Gaining numbersBelow askRising ∧
      Truthful (fun _ => numbersBelow 9) (numbersBelow 9).ask ∧
      Steady (fun _ => numbersBelow 9) (numbersBelow 9).ask) ∧
    (∃ result source' asked,
      (below (some 9) 7 true).run id 3 (by decide)
          (keeping askRising) (9, []) =
            (result, source', asked) ∧
        asked.length ≤ 3) ∧
    (∃ l' later,
      (below (some 9) 7 true).run id 3 (by decide) askRising 9 =
          (.ok l', later) ∧
        l'.rows = [8, 7, 6, 5, 4, 3, 2]) ∧
    ∃ l' later,
      (above 1 4).run id 3 (by decide) (numbersBelow 9).ask [] =
          (.ok l', later) ∧
        l'.rows = [2, 3, 4, 5] := by
  have hTruthful : Truthful numbersBelow askRising :=
    fun _ _ => rfl
  have hGaining : Gaining numbersBelow askRising := by
    intro n q
    show (List.range n).reverse <:+ (List.range (n + 1)).reverse
    rw [List.range_succ, List.reverse_append]
    exact List.suffix_append _ _
  have hFresh : (below (some 9) 7 true : Load Nat Nat).Fresh 7 :=
    .below (some 9) true
  rcases (chunks_make_whole id 3 7 (by decide)).1 askRising 9 _
      hFresh with
    ⟨result, source', asked, hRun, -, hOften, -, -⟩
  have hDown :=
    ((chunks_make_whole id 3 7 (by decide)).2 numbersBelow
      askRising hTruthful 9).2 hGaining (some 9) true
  have hUp :=
    ((chunks_make_whole id 3 4 (by decide)).2
      (fun _ => numbersBelow 9) (numbersBelow 9).ask
      (numbersBelow 9).truthful []).1 (numbersBelow 9).steady 1
  exact
    ⟨⟨by decide, hFresh, hTruthful, hGaining,
        (numbersBelow 9).truthful, (numbersBelow 9).steady⟩,
      ⟨result, source', asked, hRun, hOften⟩, hDown, hUp⟩

end Load

end LedgerView
