import Mathlib.Data.List.Induction
import Mathlib.Data.List.TakeWhile
import LedgerView.Proofs.Reading
import LedgerView.Proofs.Text.Blank
import LedgerView.Url.Address

/-
  Numeric addresses are read as they were written.

  The canonical text of an address in eight groups leaves out
  one run of zero groups.  It falls apart at the double colon
  that stands for them, and between colons into the groups; the
  zeros are put back by their number.

  Key definitions include:
    * `Ipv6.IsAddress`

  Key theorems include:
    * `Ipv4.inBase?_toDigits`
    * `Ipv6.side?_join`
    * `Ipv6.longestZeros_eq_some`
    * `Ipv6.parse?_render`
    * `Ipv6.isAddress_of_parse?`
-/

namespace LedgerView

------------------------------------------------------------
-- Hexadecimal Numbers
------------------------------------------------------------

/- A digit has its value. -/
theorem Text.hexValue?_digitChar :
    ∀ d < 16, Text.hexValue? d.digitChar = some d := by
  decide

/- A number is written in digits. -/
theorem Text.exists_digitChar_of_mem
    {n : Nat}
    {c : Char}
    (hMem : c ∈ Nat.toDigits 16 n) :
    ∃ d < 16, c = d.digitChar := by
  induction n using Nat.strongRecOn with
  | ind n ih =>
      rw [Nat.toDigits_eq_if (by decide)] at hMem
      split at hMem
      · next hOne => exact ⟨n, hOne, List.mem_singleton.mp hMem⟩
      · next hMore =>
          rcases List.mem_append.mp hMem with hFront | hLast
          · exact ih (n / 16) (by omega) hFront
          · exact
              ⟨n % 16, by omega, List.mem_singleton.mp hLast⟩

/- No digit is one of other marks. -/
theorem Text.ne_of_mem_toDigits
    {mark : Char}
    (hMark : Text.hexValue? mark = none)
    {n : Nat}
    {c : Char}
    (hMem : c ∈ Nat.toDigits 16 n) :
    c ≠ mark := by
  rcases Text.exists_digitChar_of_mem hMem with ⟨d, hDigit, hChar⟩
  intro hSame
  rw [← hSame, hChar, Text.hexValue?_digitChar d hDigit] at hMark
  cases hMark

namespace Ipv4

/- The value of digits before a last one. -/
theorem inBase?_concat
    (base : Nat)
    (s : List Char)
    (c : Char) :
    inBase? base (s ++ [c]) =
      (inBase? base s).bind fun acc =>
        (Text.hexValue? c).bind fun d =>
          if d < base then some (acc * base + d) else none := by
  unfold inBase?
  rw [List.foldlM_append]
  simp only [List.foldlM_cons, List.foldlM_nil, bind_pure]
  rfl

/- A number is read as it was written. -/
theorem inBase?_toDigits
    (n : Nat) :
    inBase? 16 (Nat.toDigits 16 n) = some n := by
  induction n using Nat.strongRecOn with
  | ind n ih =>
      rw [Nat.toDigits_eq_if (by decide)]
      split
      · next hOne =>
          have hLast := inBase?_concat 16 [] n.digitChar
          rw [List.nil_append] at hLast
          rw [hLast, Text.hexValue?_digitChar n hOne]
          simp [inBase?, hOne]
      · next hMore =>
          have hDigit : n % 16 < 16 := Nat.mod_lt n (by decide)
          have hWhole : n / 16 * 16 + n % 16 = n :=
            Nat.div_add_mod' n 16
          rw [inBase?_concat, ih (n / 16) (by omega),
            Text.hexValue?_digitChar _ hDigit]
          simp only [Option.bind_some, if_pos hDigit, hWhole]

/- A few digits are no great number. -/
theorem lt_of_inBase?
    {base n : Nat}
    {s : List Char}
    (hRead : inBase? base s = some n) :
    n < base ^ s.length := by
  induction s using List.reverseRecOn generalizing n with
  | nil =>
      cases hRead
      exact Nat.one_pos
  | append_singleton s c ih =>
      rw [inBase?_concat, Option.bind_eq_some_iff] at hRead
      rcases hRead with ⟨acc, hFront, hRead⟩
      rw [Option.bind_eq_some_iff] at hRead
      rcases hRead with ⟨d, -, hLast⟩
      split at hLast
      · next hDigit =>
          have hAcc := ih hFront
          cases hLast
          rw [List.length_append, List.length_singleton, Nat.pow_succ]
          calc
            acc * base + d < acc * base + base := by omega
            _ = (acc + 1) * base := by
              rw [Nat.add_mul, Nat.one_mul]
            _ ≤ base ^ s.length * base :=
              Nat.mul_le_mul_right base hAcc
      · cases hLast

end Ipv4

------------------------------------------------------------
-- Groups
------------------------------------------------------------

namespace Ipv6

/- Eight groups of sixteen bits. -/
structure IsAddress
    (groups : List Nat) : Prop where
  length_eq : groups.length = 8
  small : ∀ g ∈ groups, g < 2 ^ 16

/- A group is read as it was written. -/
theorem group?_toDigits
    {g : Nat}
    (hSmall : g < 2 ^ 16) :
    group? (Nat.toDigits 16 g) = some g := by
  have hFew : (Nat.toDigits 16 g).length ≤ 4 :=
    (Nat.length_toDigits_le_iff (by decide) (by decide)).mpr hSmall
  have hSome : (Nat.toDigits 16 g).isEmpty = false :=
    List.isEmpty_eq_false_iff.mpr Nat.toDigits_ne_nil
  unfold group?
  rw [hSome, if_neg (by simpa using hFew), Ipv4.inBase?_toDigits]

/- A group is small. -/
theorem lt_of_group?
    {s : List Char}
    {g : Nat}
    (hRead : group? s = some g) :
    g < 2 ^ 16 := by
  unfold group? at hRead
  split at hRead
  · cases hRead
  · next hFew =>
      have hLength : s.length ≤ 4 := by
        simp only [Bool.or_eq_true, decide_eq_true_eq, not_or]
          at hFew
        omega
      calc
        g < 16 ^ s.length := Ipv4.lt_of_inBase? hRead
        _ ≤ 16 ^ 4 := Nat.pow_le_pow_right (by decide) hLength
        _ = 2 ^ 16 := by decide

/- One group is written alone. -/
theorem join_singleton
    (g : Nat) :
    join [g] = Nat.toDigits 16 g := by
  unfold join
  simp

/- The first group stands before a colon. -/
theorem join_cons_cons
    (first second : Nat)
    (rest : List Nat) :
    join (first :: second :: rest) =
      Nat.toDigits 16 first ++ ':' :: join (second :: rest) := by
  unfold join
  simp

/- What is written of any groups begins with a digit. -/
theorem join_cons_eq_cons
    (first : Nat)
    (rest : List Nat) :
    ∃ c s, join (first :: rest) = c :: s ∧ c ≠ ':' := by
  have hDigits : Nat.toDigits 16 first ≠ [] := Nat.toDigits_ne_nil
  rcases List.exists_cons_of_ne_nil hDigits with ⟨c, s, hCons⟩
  have hColon : c ≠ ':' := by
    refine Text.ne_of_mem_toDigits (n := first) (by decide) ?_
    rw [hCons]
    exact List.mem_cons_self
  cases rest with
  | nil =>
      rw [join_singleton]
      exact ⟨c, s, hCons, hColon⟩
  | cons second rest =>
      rw [join_cons_cons, hCons]
      exact ⟨c, _, rfl, hColon⟩

/- Groups are written in digits and colons. -/
theorem mem_join
    {groups : List Nat} :
    ∀ c ∈ join groups, c = ':' ∨ ∃ d < 16, c = d.digitChar := by
  cases groups with
  | nil => exact fun c hMem => nomatch hMem
  | cons first rest =>
      induction rest generalizing first with
      | nil =>
          intro c hMem
          rw [join_singleton] at hMem
          exact Or.inr (Text.exists_digitChar_of_mem hMem)
      | cons second rest ih =>
          intro c hMem
          rw [join_cons_cons] at hMem
          rcases List.mem_append.mp hMem with hFirst | hMore
          · exact Or.inr (Text.exists_digitChar_of_mem hFirst)
          · rcases List.mem_cons.mp hMore with hMark | hRest
            · exact Or.inl hMark
            · exact ih second c hRest

/- The parts between colons are the groups. -/
theorem splitAll_join
    (first : Nat)
    (rest : List Nat) :
    Text.splitAll (· == ':') (join (first :: rest)) =
      (first :: rest).map (Nat.toDigits 16) := by
  have hNone (g : Nat) :
      ∀ c ∈ Nat.toDigits 16 g, (c == ':') = false := by
    intro c hMem
    exact beq_false_of_ne
      (Text.ne_of_mem_toDigits (by decide) hMem)
  induction rest generalizing first with
  | nil =>
      rw [join_singleton]
      exact Text.splitAll_eq_self (hNone first)
  | cons second rest ih =>
      rw [join_cons_cons, Text.splitAll_append (hNone first) rfl,
        ih second]
      rfl

/- Groups are read as they were written. -/
theorem groups?_toDigits
    {groups : List Nat}
    (hSmall : ∀ g ∈ groups, g < 2 ^ 16) :
    groups? (groups.map (Nat.toDigits 16)) = some groups := by
  induction groups with
  | nil => rfl
  | cons first rest ih =>
      rcases List.forall_mem_cons.mp hSmall with ⟨hFirst, hRest⟩
      cases rest with
      | nil =>
          have hDot : (Nat.toDigits 16 first).contains '.' = false := by
            rw [List.contains_eq_mem]
            refine decide_eq_false fun hMem => ?_
            exact Text.ne_of_mem_toDigits (by decide) hMem rfl
          rw [List.map_singleton, groups?, hDot,
            group?_toDigits hFirst]
          rfl
      | cons second rest =>
          rw [List.map_cons, List.map_cons, groups?,
            group?_toDigits hFirst]
          · rw [← List.map_cons, ih hRest]
            rfl
          · intro hNil
            cases hNil

/- So are those on either side of a gap. -/
theorem side?_join
    {groups : List Nat}
    (hSmall : ∀ g ∈ groups, g < 2 ^ 16) :
    side? (join groups) = some groups := by
  cases groups with
  | nil => rfl
  | cons first rest =>
      have hSome : (join (first :: rest)).isEmpty = false := by
        rcases join_cons_eq_cons first rest with ⟨c, s, hCons, -⟩
        rw [hCons]
        rfl
      unfold side?
      rw [hSome, splitAll_join]
      exact groups?_toDigits hSmall

------------------------------------------------------------
-- Gaps
------------------------------------------------------------

/- No gap begins with another mark than a colon. -/
theorem splitGap_cons
    {c : Char}
    (hColon : c ≠ ':')
    (rest : List Char) :
    splitGap (c :: rest) =
      (c :: (splitGap rest).1, (splitGap rest).2) := by
  rw [splitGap]
  intro more hBoth
  exact absurd hBoth hColon

/- Nor with a colon that stands alone. -/
theorem splitGap_colon
    {c : Char}
    (hColon : c ≠ ':')
    (rest : List Char) :
    splitGap (':' :: c :: rest) =
      (':' :: (splitGap (c :: rest)).1,
        (splitGap (c :: rest)).2) := by
  rw [splitGap]
  intro more _ hBoth
  cases hBoth
  exact hColon rfl

/- Before the gap of what follows stand the digits of a group. -/
theorem splitGap_append
    {s : List Char}
    (hNone : ∀ c ∈ s, c ≠ ':')
    (rest : List Char) :
    splitGap (s ++ rest) =
      (s ++ (splitGap rest).1, (splitGap rest).2) := by
  induction s with
  | nil => rfl
  | cons c s ih =>
      rcases List.forall_mem_cons.mp hNone with ⟨hHead, hRest⟩
      rw [List.cons_append, splitGap_cons hHead, ih hRest]
      rfl

/- Before the gap of what follows stand all groups. -/
theorem splitGap_join_append
    (groups : List Nat)
    (rest : List Char) :
    splitGap (join groups ++ rest) =
      (join groups ++ (splitGap rest).1, (splitGap rest).2) := by
  have hNone (g : Nat) : ∀ c ∈ Nat.toDigits 16 g, c ≠ ':' :=
    fun c hMem => Text.ne_of_mem_toDigits (by decide) hMem
  cases groups with
  | nil => rfl
  | cons first more =>
      induction more generalizing first with
      | nil =>
          rw [join_singleton]
          exact splitGap_append (hNone first) rest
      | cons second more ih =>
          have hColon :
              splitGap (':' :: (join (second :: more) ++ rest)) =
                (':' :: (splitGap
                    (join (second :: more) ++ rest)).1,
                  (splitGap (join (second :: more) ++ rest)).2) := by
            rcases join_cons_eq_cons second more with
              ⟨c, s, hCons, hHead⟩
            rw [hCons]
            exact splitGap_colon hHead (s ++ rest)
          rw [join_cons_cons, List.append_assoc, List.cons_append,
            splitGap_append (hNone first), hColon, ih second]
          simp

------------------------------------------------------------
-- Runs of Zeros
------------------------------------------------------------

/- A run of zeros is where it is said to be. -/
theorem take_zeroRun
    (groups : List Nat) :
    groups.take (zeroRun groups) =
      List.replicate (zeroRun groups) 0 := by
  unfold zeroRun
  induction groups with
  | nil => rfl
  | cons g rest ih =>
      by_cases hZero : g = 0
      · rw [List.takeWhile_cons_of_pos (by simp [hZero]),
          List.length_cons, List.take_succ_cons, ih, hZero]
        rfl
      · rw [List.takeWhile_cons_of_neg (by simp [hZero])]
        rfl

/- The best of some runs is one of them, or the one at hand. -/
theorem foldl_longer_mem
    (runs : List (Nat × Nat))
    (best : Nat × Nat) :
    runs.foldl (fun b r => if b.2 < r.2 then r else b) best = best ∨
      runs.foldl (fun b r => if b.2 < r.2 then r else b) best ∈
        runs := by
  induction runs generalizing best with
  | nil => exact Or.inl rfl
  | cons run rest ih =>
      rw [List.foldl_cons]
      by_cases hLonger : best.2 < run.2
      · rw [if_pos hLonger]
        rcases ih run with hSame | hMem
        · rw [hSame]
          exact Or.inr List.mem_cons_self
        · exact Or.inr (List.mem_cons_of_mem _ hMem)
      · rw [if_neg hLonger]
        rcases ih best with hSame | hMem
        · exact Or.inl hSame
        · exact Or.inr (List.mem_cons_of_mem _ hMem)

/- What is left out of an address are two or more zeros. -/
theorem longestZeros_eq_some
    {groups : List Nat}
    {start length : Nat}
    (hLongest : longestZeros groups = some (start, length)) :
    2 ≤ length ∧
      groups =
        groups.take start ++
          (List.replicate length 0 ++
            groups.drop (start + length)) := by
  have hBest :=
    foldl_longer_mem
      ((List.range groups.length).map fun i =>
        (i, zeroRun (groups.drop i)))
      (0, 0)
  unfold longestZeros at hLongest
  dsimp only at hLongest
  generalize List.foldl _ _ _ = best at hLongest hBest
  split at hLongest
  · next hTwo =>
      cases hLongest
      refine ⟨hTwo, ?_⟩
      rcases hBest with hNone | hMem
      · cases hNone
        exact absurd hTwo (by decide)
      · rcases List.mem_map.mp hMem with ⟨i, -, hRun⟩
        cases hRun
        rw [← take_zeroRun, ← List.drop_drop, List.take_append_drop,
          List.take_append_drop]
  · cases hLongest

------------------------------------------------------------
-- Whole Addresses
------------------------------------------------------------

/- Nothing before a gap separates bytes. -/
theorem contains_join
    (groups : List Nat) :
    (join groups).contains '.' = false := by
  have hDigit : ∀ d < 16, '.' ≠ d.digitChar := by decide
  rw [List.contains_eq_mem]
  refine decide_eq_false fun hMem => ?_
  rcases mem_join '.' hMem with hColon | ⟨d, hSmall, hDot⟩
  · exact absurd hColon (by decide)
  · exact hDigit d hSmall hDot

/- An address is written in digits and colons. -/
theorem mem_render
    {groups : List Nat} :
    ∀ c ∈ render groups, c = ':' ∨ ∃ d < 16, c = d.digitChar := by
  intro c hMem
  unfold render at hMem
  split at hMem
  · exact mem_join c hMem
  · rcases List.mem_append.mp hMem with hMem | hBack
    · rcases List.mem_append.mp hMem with hFront | hGap
      · exact mem_join c hFront
      · left
        simpa using hGap
    · exact mem_join c hBack

/- An address is read as it was written. -/
theorem parse?_render
    {groups : List Nat}
    (hAddress : IsAddress groups) :
    parse? (render groups) = some groups := by
  have hSmall := hAddress.small
  have hLength := hAddress.length_eq
  unfold render
  split
  · have hSplit : splitGap (join groups) = (join groups, none) := by
      simpa [splitGap] using splitGap_join_append groups []
    unfold parse?
    rw [hSplit]
    simp only [side?_join hSmall, Option.bind_eq_bind,
      Option.bind_some, hLength, beq_self_eq_true, if_true]
  · next start length hLongest =>
      rcases longestZeros_eq_some hLongest with ⟨hTwo, hGroups⟩
      have hFront :
          ∀ g ∈ groups.take start, g < 2 ^ 16 :=
        fun g hMem => hSmall g (List.mem_of_mem_take hMem)
      have hBack :
          ∀ g ∈ groups.drop (start + length), g < 2 ^ 16 :=
        fun g hMem => hSmall g (List.mem_of_mem_drop hMem)
      have hSplit :=
        splitGap_join_append (groups.take start)
          ([':', ':'] ++ join (groups.drop (start + length)))
      have hCount := congrArg List.length hGroups
      rw [List.length_append, List.length_append,
        List.length_replicate] at hCount
      have hGap :
          8 - ((groups.take start).length +
            (groups.drop (start + length)).length) = length := by
        omega
      have hKnown :
          (groups.take start).length +
            (groups.drop (start + length)).length ≤ 7 := by
        omega
      unfold parse?
      rw [List.append_assoc, hSplit]
      simp only [List.cons_append, List.nil_append, splitGap,
        List.append_nil, contains_join, Bool.false_eq_true, if_false,
        side?_join hFront, side?_join hBack, Option.bind_eq_bind,
        Option.bind_some, if_pos hKnown, hGap]
      rw [List.append_assoc, ← hGroups]

------------------------------------------------------------
-- What Is Read
------------------------------------------------------------

/- Bytes make small groups. -/
theorem lt_of_bytes?
    {s : List Char}
    {groups : List Nat}
    (hRead : bytes? s = some groups) :
    ∀ g ∈ groups, g < 2 ^ 16 := by
  have hByte {part : List Char} {n : Nat}
      (hPart : byte? part = some n) : n < 256 := by
    unfold byte? at hPart
    split at hPart
    · cases hPart
    · exact of_decide_eq_true (Option.filter_eq_some_iff.mp hPart).2
  unfold bytes? at hRead
  rw [Option.bind_eq_bind, Option.bind_eq_some_iff] at hRead
  rcases hRead with ⟨values, hValues, hRead⟩
  have hSmall : ∀ v ∈ values, v < 256 := by
    intro v hMem
    have hAll := mapM_eq_some_iff.mp hValues
    have hSome := List.mem_map_of_mem (f := some) hMem
    rw [← hAll] at hSome
    rcases List.mem_map.mp hSome with ⟨part, -, hPart⟩
    exact hByte hPart
  split at hRead
  · next a b c d =>
      cases hRead
      have ha := hSmall a (by simp)
      have hb := hSmall b (by simp)
      have hc := hSmall c (by simp)
      have hd := hSmall d (by simp)
      intro g hMem
      simp only [List.mem_cons, List.not_mem_nil, or_false] at hMem
      omega
  · cases hRead

/- So are the groups read between colons. -/
theorem lt_of_groups?
    {parts : List (List Char)}
    {groups : List Nat}
    (hRead : groups? parts = some groups) :
    ∀ g ∈ groups, g < 2 ^ 16 := by
  induction parts generalizing groups with
  | nil =>
      cases hRead
      exact fun g hMem => nomatch hMem
  | cons part rest ih =>
      cases rest with
      | nil =>
          rw [groups?] at hRead
          split at hRead
          · exact lt_of_bytes? hRead
          · rcases Option.map_eq_some_iff.mp hRead with
              ⟨g, hGroup, hOne⟩
            rw [← hOne]
            exact
              List.forall_mem_singleton.mpr (lt_of_group? hGroup)
      | cons second rest =>
          rw [groups?] at hRead
          · simp only [Option.bind_eq_bind, Option.bind_eq_some_iff,
              Option.pure_def, Option.some.injEq] at hRead
            rcases hRead with ⟨g, hGroup, more, hMore, hCons⟩
            rw [← hCons]
            exact
              List.forall_mem_cons.mpr
                ⟨lt_of_group? hGroup, ih hMore⟩
          · intro hNil
            cases hNil

/- And those on either side of a gap. -/
theorem lt_of_side?
    {s : List Char}
    {groups : List Nat}
    (hRead : side? s = some groups) :
    ∀ g ∈ groups, g < 2 ^ 16 := by
  unfold side? at hRead
  split at hRead
  · cases hRead
    exact fun g hMem => nomatch hMem
  · exact lt_of_groups? hRead

/- What is read is an address. -/
theorem isAddress_of_parse?
    {s : List Char}
    {groups : List Nat}
    (hRead : parse? s = some groups) :
    IsAddress groups := by
  unfold parse? at hRead
  split at hRead
  · next all hNone =>
      simp only [Option.bind_eq_bind, Option.bind_eq_some_iff]
        at hRead
      rcases hRead with ⟨whole, hSide, hEight⟩
      split at hEight
      · next hLength =>
          cases hEight
          exact ⟨by simpa using hLength, lt_of_side? hSide⟩
      · cases hEight
  · next before after hSome =>
      split at hRead
      · cases hRead
      · simp only [Option.bind_eq_bind, Option.bind_eq_some_iff]
          at hRead
        rcases hRead with ⟨front, hFront, back, hBack, hRead⟩
        split at hRead
        · next hKnown =>
            cases hRead
            constructor
            · simp only [List.length_append, List.length_replicate]
              omega
            · intro g hMem
              rcases List.mem_append.mp hMem with hMem | hMem
              · rcases List.mem_append.mp hMem with hMem | hMem
                · exact lt_of_side? hFront g hMem
                · rw [List.eq_of_mem_replicate hMem]
                  decide
              · exact lt_of_side? hBack g hMem
        · cases hRead

end Ipv6

end LedgerView
