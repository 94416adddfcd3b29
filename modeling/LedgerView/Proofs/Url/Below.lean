import LedgerView.Proofs.Url.Site

/-
  Paths below an address.

  A path of plain segments put behind an address is the end of
  the path that is read, as it stands, unless a mark before it
  makes it a part of a query or a fragment.  Whether anything
  is read depends only on what is behind the authority.

  Key definitions include:
    * `Url.PlainSegment`
    * `Url.unrooted`
    * `Url.Extended`

  Key theorems include:
    * `Url.PlainSegment.not_dots`
    * `Url.resolve_append`
    * `Url.readSegments_append`
    * `Url.path_readPlace`
    * `Url.read_append_of_follows`
    * `Url.read_append_of_outer`
    * `Url.exists_extended`
-/

namespace LedgerView

namespace Url

variable {s t : List Char}

------------------------------------------------------------
-- Paths
------------------------------------------------------------

/- Whether a character stands for itself in a path. -/
def isPathChar
    (c : Char) : Bool :=
  c.isAlphanum || c == '.'

/- A segment that stands for itself. -/
structure PlainSegment
    (segment : List Char) : Prop where
  chars : ∀ c ∈ segment, isPathChar c = true
  first : ∃ c ∈ segment.head?, c.isAlphanum = true

/- Such a character is ASCII. -/
theorem lt_of_isPathChar
    {c : Char}
    (hChar : isPathChar c = true) :
    c.toNat < 128 := by
  have hBelow
      (last : Char)
      (hLast : last.val.toNat < 128)
      (hMost : c.val ≤ last.val) :
      c.toNat < 128 :=
    Nat.lt_of_le_of_lt (UInt32.le_iff_toNat_le.mp hMost) hLast
  rcases Bool.or_eq_true_iff.mp hChar with hAlphanum | hDot
  · rcases Bool.or_eq_true_iff.mp hAlphanum with hLetter | hDigit
    · rcases Bool.or_eq_true_iff.mp hLetter with hUpper | hLower
      · exact hBelow 'Z' (by decide) (of_decide_eq_true hUpper).2
      · exact hBelow 'z' (by decide)
          (of_decide_eq_true (Bool.and_eq_true_iff.mp hLower).2)
    · exact hBelow '9' (by decide)
        (of_decide_eq_true (Bool.and_eq_true_iff.mp hDigit).2)
  · rw [eq_of_beq hDot]
    decide

/- A set without such characters is missed by a segment. -/
theorem eq_false_of_isPathChar
    {p : Char → Bool}
    (hNone :
      ∀ n < 128, isPathChar (Char.ofNat n) = true →
        p (Char.ofNat n) = false)
    (hChars : ∀ c ∈ s, isPathChar c = true) :
    ∀ c ∈ s, p c = false :=
  Text.eq_false_of_ascii (fun _ => lt_of_isPathChar) hNone hChars

/- It begins with nothing with which a dot segment does. -/
theorem PlainSegment.toLower_ne
    (hPlain : PlainSegment s)
    {text : String}
    (hDots : text.toList.head? = some '.' ∨
      text.toList.head? = some '%') :
    ((String.ofList s).toLower == text) = false := by
  refine beq_false_of_ne fun hSame => ?_
  rcases hPlain.first with ⟨c, hHead, hFirst⟩
  have hEach :
      ∀ n < 128, (Char.ofNat n).isAlphanum = true →
        ((Char.ofNat n).toLower == '.' ||
          (Char.ofNat n).toLower == '%') = false := by
    decide
  have hChar :=
    hEach c.toNat (lt_of_isPathChar
      (Bool.or_eq_true_iff.mpr (Or.inl hFirst)))
  rw [Char.ofNat_toNat] at hChar
  have hLower : text.toList.head? = some c.toLower := by
    rw [← hSame]
    unfold String.toLower
    rw [String.toList_map, String.toList_ofList, List.head?_map,
      hHead]
    rfl
  rw [hLower] at hDots
  have hNeither := Bool.or_eq_false_iff.mp (hChar hFirst)
  rcases hDots with hDot | hPercent
  · exact beq_eq_false_iff_ne.mp hNeither.1 (Option.some.inj hDot)
  · exact beq_eq_false_iff_ne.mp hNeither.2 (Option.some.inj hPercent)

/- It is no dot segment. -/
theorem PlainSegment.not_dots
    (hPlain : PlainSegment s) :
    isSingleDot s = false ∧ isDoubleDot s = false := by
  unfold isSingleDot isDoubleDot
  dsimp only
  rw [hPlain.toLower_ne (Or.inl rfl), hPlain.toLower_ne (Or.inr rfl),
    hPlain.toLower_ne (Or.inl rfl), hPlain.toLower_ne (Or.inr rfl),
    hPlain.toLower_ne (Or.inl rfl), hPlain.toLower_ne (Or.inr rfl)]
  exact ⟨rfl, rfl⟩

/- Nothing in it is encoded. -/
theorem PlainSegment.encode_eq
    (hPlain : PlainSegment s) :
    Percent.encode Percent.inPath s = s := by
  refine Percent.encode_eq_self ?_
  exact eq_false_of_isPathChar (by decide) hPlain.chars

/- Plain segments are resolved to themselves. -/
theorem resolve_plain
    {plain : List (List Char)}
    (hPlain : ∀ segment ∈ plain, PlainSegment segment)
    (done : List (List Char)) :
    resolve done plain = done ++ plain := by
  induction plain generalizing done with
  | nil => rw [resolve, List.append_nil]
  | cons segment rest ih =>
      rcases List.forall_mem_cons.mp hPlain with ⟨hHead, hRest⟩
      rcases hHead.not_dots with ⟨hSingle, hDouble⟩
      rw [resolve]
      simp only [hSingle, hDouble, Bool.false_eq_true, if_false]
      rw [ih hRest, List.append_assoc]
      rfl

/- At the end of a path they are kept. -/
theorem resolve_append
    {plain : List (List Char)}
    (hPlain : ∀ segment ∈ plain, PlainSegment segment)
    (done front : List (List Char)) :
    ∃ before, resolve done (front ++ plain) = before ++ plain := by
  induction front generalizing done with
  | nil => exact ⟨done, resolve_plain hPlain done⟩
  | cons segment rest ih =>
      rw [List.cons_append, resolve]
      split
      · exact ih _
      · split
        · exact ih _
        · exact ih _

/- The segments of a text of plain segments. -/
theorem splitAll_path
    {first : List Char}
    {rest : List (List Char)}
    (hPlain : ∀ segment ∈ first :: rest, PlainSegment segment) :
    Text.splitAll isSlash
        (first ++ (UrlPath.segments rest).render) =
      first :: rest := by
  have hNone : ∀ c ∈ first, isSlash c = false :=
    eq_false_of_isPathChar (by decide)
      (hPlain first List.mem_cons_self).chars
  induction rest generalizing first with
  | nil =>
      change Text.splitAll isSlash (first ++ []) = _
      rw [List.append_nil]
      exact Text.splitAll_eq_self hNone
  | cons next more ih =>
      have hMore : ∀ segment ∈ next :: more, PlainSegment segment :=
        fun segment hMem =>
          hPlain segment (List.mem_cons_of_mem first hMem)
      change Text.splitAll isSlash
        (first ++ '/' :: (next ++ (UrlPath.segments more).render)) = _
      rw [Text.splitAll_append hNone rfl, ih hMore]
      exact eq_false_of_isPathChar (by decide)
        (hMore next List.mem_cons_self).chars

/- A text without the slash with which it begins. -/
def unrooted
    (s : List Char) : List Char :=
  match s with
  | c :: rest => if isSlash c then rest else s
  | [] => s

/- A rooted path is split at its slashes and resolved. -/
theorem readSegments_common
    (s : List Char) :
    readSegments .common s =
      resolve []
        ((Text.splitAll isSlash (unrooted s)).map
          (Percent.encode Percent.inPath)) :=
  rfl

/- What stands behind a slash is split by itself. -/
theorem exists_splitAll_unrooted
    (s t : List Char) :
    ∃ front,
      Text.splitAll isSlash (unrooted (s ++ '/' :: t)) =
        front ++ Text.splitAll isSlash t := by
  cases s with
  | nil => exact ⟨[], rfl⟩
  | cons c rest =>
      rw [List.cons_append]
      unfold unrooted
      dsimp only
      split
      · exact ⟨_, Text.splitAll_append_cons rfl rest t⟩
      · rw [← List.cons_append]
        exact ⟨_, Text.splitAll_append_cons rfl (c :: rest) t⟩

/- A path that ends in plain segments is read with them. -/
theorem readSegments_append
    {plain : List (List Char)}
    (hPlain : ∀ segment ∈ plain, PlainSegment segment)
    (hSome : plain ≠ [])
    (s : List Char) :
    ∃ before,
      readSegments .common (s ++ (UrlPath.segments plain).render) =
        before ++ plain := by
  rcases List.exists_cons_of_ne_nil hSome with ⟨first, rest, hCons⟩
  have hText :
      (UrlPath.segments plain).render =
        '/' :: (first ++ (UrlPath.segments rest).render) := by
    rw [hCons]
    rfl
  have hSegments :
      Text.splitAll isSlash
        (first ++ (UrlPath.segments rest).render) = plain := by
    rw [hCons] at hPlain ⊢
    exact splitAll_path hPlain
  have hSame : plain.map (Percent.encode Percent.inPath) = plain := by
    refine (List.map_congr_left fun segment hMem => ?_).trans
      (List.map_id plain)
    exact (hPlain segment hMem).encode_eq
  rcases exists_splitAll_unrooted s
    (first ++ (UrlPath.segments rest).render) with ⟨front, hSplit⟩
  rw [readSegments_common, hText, hSplit, hSegments, List.map_append,
    hSame]
  exact resolve_append hPlain [] _

------------------------------------------------------------
-- Places
------------------------------------------------------------

/- The path ends before the first mark. -/
theorem path_readPlace
    {scheme : String}
    (hKind : SchemeKind.of scheme = .common)
    (authority : Option Authority)
    (s : List Char) :
    (readPlace scheme authority s).path =
      .segments (readSegments .common (s.takeWhile (!endsPath ·))) := by
  unfold readPlace
  dsimp only
  rw [hKind, Bool.and_comm]
  rfl

/- A path of plain segments is seen, and has no mark. -/
theorem render_plain
    {plain : List (List Char)}
    (hPlain : ∀ segment ∈ plain, PlainSegment segment) :
    ∀ c ∈ (UrlPath.segments plain).render,
      isOuter c = false ∧ endsPath c = false := by
  intro c hMem
  rcases List.mem_flatMap.mp hMem with ⟨segment, hSegment, hChar⟩
  rcases List.mem_cons.mp hChar with hSlash | hIn
  · rw [hSlash]
    decide
  · have hChars := (hPlain segment hSegment).chars
    exact ⟨eq_false_of_isPathChar (by decide) hChars c hIn,
      eq_false_of_isPathChar (by decide) hChars c hIn⟩

/- Plain segments at the end of a path end it as a text. -/
theorem suffix_readPlace
    {scheme : String}
    {plain : List (List Char)}
    (hKind : SchemeKind.of scheme = .common)
    (authority : Option Authority)
    (hNone : ∀ c ∈ s, endsPath c = false)
    (hPlain : ∀ segment ∈ plain, PlainSegment segment)
    (hSome : plain ≠ []) :
    (UrlPath.segments plain).render <:+
      (readPlace scheme authority
        (s ++ (UrlPath.segments plain).render)).path.render := by
  have hWhole :
      (s ++ (UrlPath.segments plain).render).takeWhile
          (!endsPath ·) =
        s ++ (UrlPath.segments plain).render := by
    refine List.takeWhile_eq_self_iff.mpr fun c hMem => ?_
    rcases List.mem_append.mp hMem with hFront | hPath
    · rw [hNone c hFront]
      rfl
    · rw [(render_plain hPlain c hPath).2]
      rfl
  rcases readSegments_append hPlain hSome s with ⟨before, hRead⟩
  rw [path_readPlace hKind, hWhole, hRead]
  refine ⟨(UrlPath.segments before).render, ?_⟩
  exact List.flatMap_append.symm

/- Without a mark there is neither a query nor a fragment. -/
theorem query_readPlace
    {scheme : String}
    (authority : Option Authority)
    (hNone : ∀ c ∈ s, endsPath c = false) :
    (readPlace scheme authority s).query = none := by
  have hRest : s.dropWhile (!endsPath ·) = [] :=
    List.dropWhile_eq_nil_iff.mpr fun c hMem => by
      rw [hNone c hMem]
      rfl
  unfold readPlace
  dsimp only
  rw [hRest]
  rfl

------------------------------------------------------------
-- Addresses with a Path behind Them
------------------------------------------------------------

/- No path is empty. -/
theorem render_ne_nil
    {all : List (List Char)}
    (hSome : all ≠ []) :
    (UrlPath.segments all).render ≠ [] := by
  rcases List.exists_cons_of_ne_nil hSome with ⟨first, rest, hCons⟩
  rw [hCons]
  exact List.cons_ne_nil _ _

/- A path may follow an authority. -/
theorem follows_render
    (all : List (List Char)) :
    Follows (UrlPath.segments all).render := by
  intro c hHead
  cases all with
  | nil => cases hHead
  | cons first rest =>
      cases hHead
      decide

/- So may anything that may, with a path behind it. -/
theorem Follows.append
    (hFirst : Follows s)
    (hSecond : Follows t) :
    Follows (s ++ t) := by
  cases s with
  | nil => exact hSecond
  | cons c rest => exact fun d hHead => hFirst d hHead

variable {scheme : String}
variable {name slashes site after behind : List Char}
variable {authority : Authority}
variable {plain : List (List Char)}

/-
  A path behind an address is read with the same authority, if
  what is behind the authority may follow it.
-/
theorem read_append_of_follows
    (hKind : SchemeKind.of scheme = .common)
    (hSited : Sited scheme name slashes site after authority)
    (hOpened : opened s = lead name slashes ++ (site ++ behind))
    (hFollows : Follows behind)
    (hPlain : ∀ segment ∈ plain, PlainSegment segment)
    (hSome : plain ≠ []) :
    read (cleaned (s ++ (UrlPath.segments plain).render)) =
      .ok (readPlace scheme (some authority)
        (behind ++ (UrlPath.segments plain).render)) := by
  have hVisible := fun c hMem => (render_plain hPlain c hMem).1
  have hPath := render_ne_nil hSome
  have hNext : Follows (behind ++ (UrlPath.segments plain).render) :=
    hFollows.append (follows_render plain)
  rw [cleaned_append hVisible hPath, hOpened, List.append_assoc,
    List.append_assoc,
    hSited.lead.read_append hKind (hSited.isSlash_eq_false _),
    readAuthority_append hKind hSited.bare hNext, hSited.reads]
  rfl

/- Nothing is read if a control or a space is behind it. -/
theorem read_append_of_outer
    (hKind : SchemeKind.of scheme = .common)
    (hSited : Sited scheme name slashes site after authority)
    (hOpened : opened s = lead name slashes ++ (site ++ behind))
    (hOuter : Outer behind)
    (hBlank : behind ≠ [])
    (hPlain : ∀ segment ∈ plain, PlainSegment segment)
    (hSome : plain ≠ [])
    (url : Url) :
    read (cleaned (s ++ (UrlPath.segments plain).render)) ≠
      .ok url := by
  have hVisible := fun c hMem => (render_plain hPlain c hMem).1
  have hPath := render_ne_nil hSome
  intro hRead
  rw [cleaned_append hVisible hPath, hOpened, List.append_assoc,
    List.append_assoc,
    hSited.lead.read_append hKind (hSited.isSlash_eq_false _)]
    at hRead
  rcases map_eq_ok_iff.mp hRead with ⟨found, hFound, -⟩
  rw [← List.append_assoc] at hFound
  exact readAuthority_outer hKind hSited.bare hOuter hBlank
    (follows_render plain) found hFound

------------------------------------------------------------
-- Marks
------------------------------------------------------------

/- An authority ends before a slash or a mark. -/
theorem endsAuthority_eq
    (c : Char) :
    endsAuthority true c = (isSlash c || endsPath c) := by
  unfold endsAuthority isSlash endsPath
  rw [Bool.true_and, Bool.or_right_comm,
    Bool.or_right_comm (c == '/'), Bool.or_assoc]

/- The marks of an address stand behind its authority. -/
theorem mem_after_of_mark
    {c : Char}
    {blanks : List Char}
    (hSited : Sited scheme name slashes site after authority)
    (hText : cleaned s = lead name slashes ++ (site ++ after))
    (hOuter : Outer blanks)
    (hBlanks : opened s = cleaned s ++ blanks)
    (hMark : endsPath c = true)
    (hMem : c ∈ s) :
    c ∈ after := by
  have hEnds : endsAuthority true c = true := by
    rw [endsAuthority_eq, hMark, Bool.or_true]
  have hMissed :
      ∀ p : Char → Bool, p '?' = false → p '#' = false →
        p c = false := by
    intro p hQuery hFragment
    unfold endsPath at hMark
    rcases Bool.or_eq_true_iff.mp hMark with hIs | hIs
    · rw [beq_iff_eq.mp hIs]
      exact hQuery
    · rw [beq_iff_eq.mp hIs]
      exact hFragment
  have hSeen : c ∈ opened s := by
    refine List.mem_filter.mpr ⟨?_, ?_⟩
    · rw [← List.takeWhile_append_dropWhile (p := isOuter) (l := s)]
        at hMem
      refine (List.mem_append.mp hMem).resolve_left fun hIn => ?_
      have hOut : isOuter c = true := List.mem_takeWhile_imp hIn
      rw [hMissed isOuter (by decide) (by decide)] at hOut
      cases hOut
    · rw [hMissed isLineMark (by decide) (by decide)]
      rfl
  rw [hBlanks, hText] at hSeen
  simp only [lead, List.mem_append, List.mem_cons] at hSeen
  rcases hSeen with
    ((hName | hColon | hSlash) | hSite | hAfter) | hBlank
  · have hChar := hSited.lead.chars c hName
    rw [hMissed isSchemeChar (by decide) (by decide)] at hChar
    cases hChar
  · rw [hColon] at hMark
    exact absurd hMark (by decide)
  · have hIs := hSited.lead.slashes c hSlash
    rw [hMissed isSlash (by decide) (by decide)] at hIs
    cases hIs
  · rw [hSited.bare c hSite] at hEnds
    cases hEnds
  · exact hAfter
  · rw [(hOuter.plain c hBlank).1] at hEnds
    cases hEnds

------------------------------------------------------------
-- Whole Addresses
------------------------------------------------------------

/-
  How an address is read with a path behind it: its marks are
  left, and a path follows, unless the address hangs.
-/
structure Extended
    (address scheme : String)
    (name slashes site after behind : List Char)
    (authority : Authority) : Prop where
  sited : Sited scheme name slashes site after authority
  opened :
    Url.opened (Text.dropLastWhile (· == '/') address.toList) =
      lead name slashes ++ (site ++ behind)
  marks :
    ∀ c, endsPath c = true → (c ∈ address.toList ↔ c ∈ behind)
  ends :
    Follows behind ∧
        ((∀ c ∈ behind, endsPath c = false) →
          hangs address = false) ∨
      hangs address = true ∧ Outer behind ∧ behind ≠ []

/- There is a mark behind the authority if there is any. -/
theorem Extended.no_mark_iff
    {address : String}
    (hExtended :
      Extended address scheme name slashes site after behind
        authority) :
    (∀ mark ∈ address.toList, mark ≠ '?' ∧ mark ≠ '#') ↔
      ¬ ∃ mark ∈ behind, endsPath mark = true := by
  constructor
  · rintro hNone ⟨mark, hMem, hIs⟩
    have hThere := hNone mark ((hExtended.marks mark hIs).mpr hMem)
    rcases Bool.or_eq_true_iff.mp hIs with hQuery | hFragment
    · exact hThere.1 (beq_iff_eq.mp hQuery)
    · exact hThere.2 (beq_iff_eq.mp hFragment)
  · intro hNone mark hMem
    refine ⟨fun hQuery => ?_, fun hFragment => ?_⟩
    · rw [hQuery] at hMem
      exact hNone ⟨'?', (hExtended.marks '?' rfl).mp hMem, rfl⟩
    · rw [hFragment] at hMem
      exact hNone ⟨'#', (hExtended.marks '#' rfl).mp hMem, rfl⟩

/- Every address of a common scheme is read so. -/
theorem exists_extended
    {address : String}
    {url : Url}
    (hParse : Url.parse address = .ok url)
    (hKind : SchemeKind.of url.scheme = .common) :
    ∃ name slashes site after behind authority,
      Extended address url.scheme name slashes site after behind
        authority := by
  rw [parse_eq] at hParse
  rcases exists_sited hParse hKind with
    ⟨name, slashes, site, after, authority, hSited, hText⟩
  rcases exists_opened address.toList with
    ⟨blanks, hOuter, hBlanks⟩
  rcases exists_behind hSited hText hOuter hBlanks with
    ⟨behind, hOpened, hBehind⟩
  have hHangs := hangs_iff hSited hText hOuter hBlanks
  refine ⟨name, slashes, site, after, behind, authority,
    ⟨hSited, hOpened,
      fun c hMark => ⟨fun hMem => ?_, fun hMem => ?_⟩, ?_⟩⟩
  · have hAfter :=
      mem_after_of_mark hSited hText hOuter hBlanks hMark hMem
    rcases hBehind with ⟨-, gone, hGone, hSplit⟩ | hJoin
    · rw [hSplit] at hAfter
      refine (List.mem_append.mp hAfter).resolve_right fun hIn => ?_
      rw [hGone c hIn] at hMark
      exact absurd hMark (by decide)
    · rw [hJoin]
      exact List.mem_append_left blanks hAfter
  · have hBase :
        c ∈ opened (Text.dropLastWhile (· == '/') address.toList) := by
      rw [hOpened]
      exact List.mem_append_right _
        (List.mem_append_right site hMem)
    have hKept := List.dropWhile_subset isOuter
      (List.mem_filter.mp hBase).1
    rw [← Text.dropLastWhile_append_takeWhile (· == '/')
      address.toList]
    exact List.mem_append_left _ hKept
  · have hSound : blanks = [] → hangs address = false :=
      fun hNone => Bool.eq_false_iff.mpr
        fun hHang => (hHangs.mp hHang).1 hNone
    rcases hBehind with ⟨hNone, gone, -, hSplit⟩ | hJoin
    · refine Or.inl ⟨fun c hHead => ?_, fun _ => hSound hNone⟩
      refine hSited.follows c ?_
      rw [hSplit, List.head?_append, hHead]
      rfl
    · cases hAfter : after with
      | nil =>
          rw [hAfter, List.nil_append] at hJoin
          by_cases hNone : blanks = []
          · refine Or.inl ⟨fun c hHead => ?_, fun _ => hSound hNone⟩
            rw [hJoin, hNone] at hHead
            cases hHead
          · refine Or.inr ⟨hHangs.mpr ⟨hNone, fun c hMem => ?_⟩,
              hJoin ▸ hOuter, hJoin ▸ hNone⟩
            rw [hAfter] at hMem
            cases hMem
      | cons first rest =>
          have hEnds := hSited.follows first (by rw [hAfter]; rfl)
          rw [hAfter] at hJoin
          refine Or.inl ⟨fun c hHead => ?_, fun hPlain => ?_⟩
          · rw [hJoin] at hHead
            cases hHead
            exact hEnds
          · refine Bool.eq_false_iff.mpr fun hHang => ?_
            have hSlash := (hHangs.mp hHang).2 first
              (by rw [hAfter]; exact List.mem_cons_self)
            have hMark := hPlain first
              (by rw [hJoin]; exact List.mem_cons_self)
            rw [endsAuthority_eq, hSlash, hMark] at hEnds
            cases hEnds

end Url

end LedgerView
