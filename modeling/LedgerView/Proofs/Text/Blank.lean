import Mathlib.Data.List.Basic
import Mathlib.Data.List.TakeWhile
import Mathlib.Tactic.SplitIfs
import LedgerView.Text.Blank

/-
  Trimming and splitting of texts whose marks are known.

  Key definitions include:
    * `Text.Between`

  Key theorems include:
    * `Text.eq_false_of_ascii`
    * `Text.takeWhile_append_stop`
    * `Text.dropWhile_append_stop`
    * `Text.dropLastWhile_append_takeWhile`
    * `Text.exists_append_of_end`
    * `Text.trimWhile_append`
    * `Text.trimWhile_eq_self`
    * `Text.between_trimChars`
    * `Text.Between.trimChars_eq`
    * `Text.splitFirst_append`
    * `Text.splitFirst_eq_self`
    * `Text.append_splitFirst`
    * `Text.splitAll_append`
    * `Text.splitAll_append_cons`
    * `Text.splitAll_eq_self`
    * `Text.intercalate_splitAll`
-/

namespace LedgerView.Text

variable {p : Char → Bool} {s : List Char}

/- A text is free of marks if all its characters are tested. -/
theorem eq_false_of_all
    (hAll : s.all (fun c => !p c) = true) :
    ∀ c ∈ s, p c = false := by
  intro c hMem
  have hNot : (!p c) = true := List.all_eq_true.mp hAll c hMem
  simpa using hNot

/- A set without any of some ASCII characters is missed by them. -/
theorem eq_false_of_ascii
    {q : Char → Bool}
    (hAscii : ∀ c, q c = true → c.toNat < 128)
    (hNone :
      ∀ n < 128, q (Char.ofNat n) = true →
        p (Char.ofNat n) = false)
    (hAll : ∀ c ∈ s, q c = true) :
    ∀ c ∈ s, p c = false := by
  intro c hMem
  have hChar : Char.ofNat c.toNat = c := Char.ofNat_toNat c
  have hThere := hNone c.toNat (hAscii c (hAll c hMem))
  rw [hChar] at hThere
  exact hThere (hAll c hMem)

/- A text that begins with something else is not shortened. -/
theorem dropWhile_eq_self
    (hNone : ∀ c ∈ s, p c = false) :
    s.dropWhile p = s := by
  cases s with
  | nil => rfl
  | cons c rest =>
      exact List.dropWhile_cons_of_neg
        (by rw [hNone c List.mem_cons_self]; decide)

/- A run of characters goes no further than its text. -/
theorem takeWhile_append_stop
    {t : List Char}
    (hStop : ∀ c ∈ t.head?, p c = false) :
    (s ++ t).takeWhile p = s.takeWhile p := by
  induction s with
  | nil =>
      cases t with
      | nil => rfl
      | cons c rest =>
          exact List.takeWhile_cons_of_neg
            (by rw [hStop c rfl]; decide)
  | cons c rest ih =>
      rw [List.cons_append, List.takeWhile_cons, List.takeWhile_cons,
        ih]

/- It does not go on behind a character that ends it. -/
theorem takeWhile_append_of_mem
    {t : List Char}
    {c : Char}
    (hMem : c ∈ s)
    (hStop : p c = false) :
    (s ++ t).takeWhile p = s.takeWhile p := by
  induction s with
  | nil => cases hMem
  | cons d rest ih =>
      rw [List.cons_append, List.takeWhile_cons, List.takeWhile_cons]
      rcases List.mem_cons.mp hMem with hHead | hRest
      · rw [← hHead, hStop]
        rfl
      · rw [ih hRest]

/- Behind such a run the rest of the text is left. -/
theorem dropWhile_append_stop
    {t : List Char}
    (hStop : ∀ c ∈ t.head?, p c = false) :
    (s ++ t).dropWhile p = s.dropWhile p ++ t := by
  induction s with
  | nil =>
      cases t with
      | nil => rfl
      | cons c rest =>
          exact List.dropWhile_cons_of_neg
            (by rw [hStop c rfl]; decide)
  | cons c rest ih =>
      rw [List.cons_append, List.dropWhile_cons, List.dropWhile_cons,
        ih]
      split_ifs
      · rfl
      · rfl

/- Nothing that is trimmed is left at the end. -/
theorem eq_false_of_getLast?_dropLastWhile
    {c : Char}
    (hLast : (dropLastWhile p s).getLast? = some c) :
    p c = false := by
  unfold dropLastWhile at hLast
  rw [List.getLast?_reverse] at hLast
  have hHead := List.head?_dropWhile_not p s.reverse
  rw [hLast] at hHead
  simpa using hHead

/- Nothing is trimmed at an end at which nothing has to be. -/
theorem dropLastWhile_append_stop
    {t : List Char}
    (hStop : ∀ c ∈ t, p c = false)
    (hSome : t ≠ []) :
    dropLastWhile p (s ++ t) = s ++ t := by
  have hReverse : t.reverse ≠ [] := by simpa using hSome
  rcases List.exists_cons_of_ne_nil hReverse with ⟨c, rest, hCons⟩
  have hLast : p c = false := by
    refine hStop c (List.mem_reverse.mp ?_)
    rw [hCons]
    exact List.mem_cons_self
  unfold dropLastWhile
  rw [List.reverse_append, hCons, List.cons_append,
    List.dropWhile_cons_of_neg (by rw [hLast]; decide),
    ← List.cons_append, ← hCons, ← List.reverse_append,
    List.reverse_reverse]

/- What is trimmed at the end stood there. -/
theorem dropLastWhile_append_takeWhile
    (p : Char → Bool)
    (s : List Char) :
    dropLastWhile p s ++ (s.reverse.takeWhile p).reverse = s := by
  unfold dropLastWhile
  rw [← List.reverse_append, List.takeWhile_append_dropWhile,
    List.reverse_reverse]

/- Copies of a character that were dropped can be put back. -/
theorem exists_dropLastWhile_append
    (c : Char)
    (s : List Char) :
    ∃ k, dropLastWhile (· == c) s ++ List.replicate k c = s := by
  have hAll :
      ∀ d ∈ (s.reverse.takeWhile (· == c)).reverse, d = c := by
    intro d hMem
    have hTaken :=
      List.mem_takeWhile_imp (List.mem_reverse.mp hMem)
    exact beq_iff_eq.mp hTaken
  refine ⟨(s.reverse.takeWhile (· == c)).reverse.length, ?_⟩
  rw [← List.eq_replicate_of_mem hAll]
  exact dropLastWhile_append_takeWhile (· == c) s

/- One of two ends is empty, or else they are alike. -/
theorem eq_nil_or_eq_nil
    {t front init : List Char}
    (hFirst : ∀ c ∈ s, p c = true)
    (hSecond : ∀ c ∈ t, p c = false)
    (hSame : front ++ s = init ++ t) :
    s = [] ∨ t = [] := by
  rcases List.eq_nil_or_concat' s with hNone | ⟨more, c, hEnd⟩
  · exact Or.inl hNone
  · rcases List.eq_nil_or_concat' t with hNone | ⟨rest, d, hOther⟩
    · exact Or.inr hNone
    · rw [hEnd, hOther, ← List.append_assoc, ← List.append_assoc]
        at hSame
      have hLast : c = d :=
        List.singleton_inj.mp (List.append_inj' hSame rfl).2
      have hIs := hFirst c
        (by rw [hEnd]; exact List.mem_concat_self)
      have hNot := hSecond d
        (by rw [hOther]; exact List.mem_concat_self)
      rw [hLast, hNot] at hIs
      cases hIs

/- An end is cut off behind characters that are not of its kind. -/
theorem exists_append_of_end
    {t front init back : List Char}
    (hFirst : ∀ c ∈ s, p c = true)
    (hSecond : ∀ c ∈ t, p c = false)
    (hSome : t ≠ [])
    (hSame : front ++ s = (init ++ t) ++ back) :
    ∃ kept, front = (init ++ t) ++ kept ∧ back = kept ++ s := by
  rcases List.append_eq_append_iff.mp hSame with
    ⟨lost, hInit, hEnd⟩ | ⟨kept, hFront, hBack⟩
  · have hLost : ∀ c ∈ lost, p c = true := by
      intro c hMem
      refine hFirst c ?_
      rw [hEnd]
      exact List.mem_append_left back hMem
    have hNone : lost = [] :=
      (eq_nil_or_eq_nil hLost hSecond hInit.symm).resolve_right hSome
    rw [hNone, List.append_nil] at hInit
    rw [hNone, List.nil_append] at hEnd
    exact ⟨[], by rw [hInit, List.append_nil], hEnd.symm⟩
  · exact ⟨kept, hFront, hBack⟩

/- Such characters before and behind a text are trimmed. -/
theorem trimWhile_append
    {front back : List Char}
    (hFront : ∀ c ∈ front, p c = true)
    (hBack : ∀ c ∈ back, p c = true)
    (hNone : ∀ c ∈ s, p c = false) :
    trimWhile p (front ++ s ++ back) = s := by
  have hReverse : ∀ c ∈ s.reverse, p c = false :=
    fun c hMem => hNone c (List.mem_reverse.mp hMem)
  have hBehind : ∀ c ∈ back.reverse, p c = true :=
    fun c hMem => hBack c (List.mem_reverse.mp hMem)
  unfold trimWhile dropLastWhile
  rw [List.append_assoc, List.dropWhile_append_of_pos hFront]
  cases s with
  | nil =>
      rw [List.nil_append, List.dropWhile_eq_nil_iff.mpr hBack]
      rfl
  | cons c rest =>
      rw [List.cons_append,
        List.dropWhile_cons_of_neg
          (by rw [hNone c List.mem_cons_self]; decide),
        ← List.cons_append, List.reverse_append,
        List.dropWhile_append_of_pos hBehind,
        dropWhile_eq_self hReverse, List.reverse_reverse]

/- A text without such characters is not trimmed. -/
theorem trimWhile_eq_self
    (hNone : ∀ c ∈ s, p c = false) :
    trimWhile p s = s := by
  have hEmpty : ∀ c ∈ ([] : List Char), p c = true :=
    fun c hMem => nomatch hMem
  have hTrim := trimWhile_append hEmpty hEmpty hNone
  rw [List.nil_append, List.append_nil] at hTrim
  exact hTrim

/- Nothing else is trimmed. -/
theorem exists_append_trimWhile
    (p : Char → Bool)
    (s : List Char) :
    ∃ front back,
      (∀ c ∈ front, p c = true) ∧ (∀ c ∈ back, p c = true) ∧
        s = front ++ trimWhile p s ++ back := by
  let rest := s.dropWhile p
  refine
    ⟨s.takeWhile p, (rest.reverse.takeWhile p).reverse,
      fun c hMem => List.mem_takeWhile_imp hMem,
      fun c hMem =>
        List.mem_takeWhile_imp (List.mem_reverse.mp hMem), ?_⟩
  have hRest :
      trimWhile p s ++ (rest.reverse.takeWhile p).reverse = rest :=
    dropLastWhile_append_takeWhile p rest
  rw [List.append_assoc, hRest, List.takeWhile_append_dropWhile]

/- A text with blanks before and behind it. -/
def Between
    (s text : List Char) : Prop :=
  ∃ front back,
    (∀ c ∈ front, isBlank c = true) ∧
      (∀ c ∈ back, isBlank c = true) ∧
        text = front ++ s ++ back

/- A text is between the blanks that are trimmed. -/
theorem between_trimChars
    (text : List Char) :
    Between (trimChars text) text :=
  exists_append_trimWhile isBlank text

/- What stands between blanks and holds none is left. -/
theorem Between.trimChars_eq
    {text : List Char}
    (hBetween : Between s text)
    (hNone : ∀ c ∈ s, isBlank c = false) :
    trimChars text = s := by
  rcases hBetween with ⟨front, back, hFront, hBack, hText⟩
  rw [hText]
  exact trimWhile_append hFront hBack hNone

/- A text is split at the first mark. -/
theorem splitFirst_append
    {mark : Char}
    {after : List Char}
    (hNone : ∀ c ∈ s, p c = false)
    (hMark : p mark = true) :
    splitFirst p (s ++ mark :: after) = (s, some after) := by
  induction s with
  | nil =>
      unfold splitFirst
      rw [List.nil_append]
      simp only [hMark, if_true]
  | cons c rest ih =>
      rcases List.forall_mem_cons.mp hNone with ⟨hHead, hRest⟩
      rw [List.cons_append]
      unfold splitFirst
      simp only [hHead, Bool.false_eq_true, if_false, ih hRest]

/- A text without a mark is not split. -/
theorem splitFirst_eq_self
    (hNone : ∀ c ∈ s, p c = false) :
    splitFirst p s = (s, none) := by
  induction s with
  | nil => rfl
  | cons c rest ih =>
      rcases List.forall_mem_cons.mp hNone with ⟨hHead, hRest⟩
      unfold splitFirst
      simp only [hHead, Bool.false_eq_true, if_false, ih hRest]

/- What is split is put together from its two parts. -/
theorem append_splitFirst
    (mark : Char)
    (s : List Char) :
    (splitFirst (· == mark) s).1 ++
        ((splitFirst (· == mark) s).2.map (mark :: ·)).getD [] =
      s := by
  induction s with
  | nil => rfl
  | cons c rest ih =>
      unfold splitFirst
      split
      · next hMark =>
          rw [beq_iff_eq.mp hMark]
          rfl
      · exact congrArg (c :: ·) ih

/- What stands before a mark is the first part. -/
theorem splitAll_append
    {mark : Char}
    {after : List Char}
    (hNone : ∀ c ∈ s, p c = false)
    (hMark : p mark = true) :
    splitAll p (s ++ mark :: after) = s :: splitAll p after := by
  induction s with
  | nil =>
      rw [List.nil_append, splitAll]
      simp only [hMark, if_true]
  | cons c rest ih =>
      rcases List.forall_mem_cons.mp hNone with ⟨hHead, hRest⟩
      rw [List.cons_append, splitAll, ih hRest]
      simp only [hHead, Bool.false_eq_true, if_false]

/- A text without a mark is its only part. -/
theorem splitAll_eq_self
    (hNone : ∀ c ∈ s, p c = false) :
    splitAll p s = [s] := by
  induction s with
  | nil => rfl
  | cons c rest ih =>
      rcases List.forall_mem_cons.mp hNone with ⟨hHead, hRest⟩
      rw [splitAll, ih hRest]
      simp only [hHead, Bool.false_eq_true, if_false]

/- There is always a first part. -/
theorem splitAll_ne_nil
    (s : List Char) :
    splitAll p s ≠ [] := by
  cases s with
  | nil => exact List.cons_ne_nil _ _
  | cons c rest =>
      unfold splitAll
      split
      · exact List.cons_ne_nil _ _
      · split <;> exact List.cons_ne_nil _ _

/- What stands before a separator and behind it is split apart. -/
theorem splitAll_append_cons
    {mark : Char}
    (hMark : p mark = true)
    (s t : List Char) :
    splitAll p (s ++ mark :: t) = splitAll p s ++ splitAll p t := by
  induction s with
  | nil =>
      change splitAll p (mark :: t) = [] :: splitAll p t
      rw [splitAll, if_pos hMark]
  | cons c rest ih =>
      rw [List.cons_append, splitAll, splitAll, ih]
      split
      · rfl
      · rcases List.exists_cons_of_ne_nil (splitAll_ne_nil (p := p) rest)
          with ⟨part, parts, hParts⟩
        rw [hParts]
        rfl

/- What is split is put together from all its parts. -/
theorem intercalate_splitAll
    (mark : Char)
    (s : List Char) :
    [mark].intercalate (splitAll (· == mark) s) = s := by
  induction s with
  | nil => rfl
  | cons c rest ih =>
      unfold splitAll
      split
      · next hMark =>
          rw [List.intercalate_cons_of_ne_nil (splitAll_ne_nil rest),
            ih, beq_iff_eq.mp hMark]
          rfl
      · split
        · next hNil => exact absurd hNil (splitAll_ne_nil rest)
        · next part parts hParts =>
            rw [hParts] at ih
            cases parts with
            | nil =>
                rw [List.intercalate_singleton] at ih ⊢
                rw [ih]
            | cons next more =>
                rw [List.intercalate_cons_cons] at ih ⊢
                rw [← ih]
                rfl

end LedgerView.Text
