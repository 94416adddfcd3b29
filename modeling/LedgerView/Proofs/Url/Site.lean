import LedgerView.Proofs.Url.Authority
import LedgerView.Proofs.Url.Host

/-
  How addresses of common schemes fall apart.

  What counts of such an address is a scheme with slashes, an
  authority and what follows it.  With more text behind it the
  address falls apart in the same way, but its end counts: the
  controls and spaces there are no longer left out.  Only right
  behind the authority they matter; such an address hangs.

  Key definitions include:
    * `Url.cleaned`
    * `Url.opened`
    * `Url.read`
    * `Url.Lead`
    * `Url.Sited`
    * `Url.hangs`

  Key theorems include:
    * `Url.cleaned_append`
    * `Url.exists_opened`
    * `Url.Lead.read_append`
    * `Url.exists_sited`
    * `Url.exists_behind`
    * `Url.hangs_iff`
-/

namespace LedgerView

namespace Url

variable {s t : List Char}

------------------------------------------------------------
-- Cleaning
------------------------------------------------------------

/- Whether a character does not count at the ends of a text. -/
def isOuter
    (c : Char) : Bool :=
  c.toNat ≤ 0x20

/- Whether a character does not count anywhere. -/
def isLineMark
    (c : Char) : Bool :=
  c == '\t' || c == '\n' || c == '\r'

/- What counts of a text. -/
def cleaned
    (s : List Char) : List Char :=
  (Text.trimWhile isOuter s).filter (!isLineMark ·)

/- What counts of a text if something else follows. -/
def opened
    (s : List Char) : List Char :=
  (s.dropWhile isOuter).filter (!isLineMark ·)

/- Read what counts of a text. -/
def read
    (s : List Char) : Except UrlError Url :=
  match readScheme? s with
  | some (scheme, rest) => readAfterScheme scheme rest
  | none => .error .relative

/- Only that is read. -/
theorem parse_eq
    (text : String) :
    Url.parse text = read (cleaned text.toList) :=
  rfl

/- A line mark does not count at the ends either. -/
theorem isOuter_of_isLineMark
    {c : Char}
    (hMark : isLineMark c = true) :
    isOuter c = true := by
  unfold isLineMark at hMark
  simp only [Bool.or_eq_true, beq_iff_eq] at hMark
  rcases hMark with (hTab | hFeed) | hReturn
  · rw [hTab]
    decide
  · rw [hFeed]
    decide
  · rw [hReturn]
    decide

/- A text without controls and spaces counts as it is. -/
theorem filter_of_visible
    (hVisible : ∀ c ∈ s, isOuter c = false) :
    s.filter (!isLineMark ·) = s := by
  refine List.filter_eq_self.mpr fun c hMem => ?_
  have hNot : isLineMark c = false := by
    refine Bool.eq_false_iff.mpr fun hMark => ?_
    have hThere := hVisible c hMem
    rw [isOuter_of_isLineMark hMark] at hThere
    cases hThere
  rw [hNot]
  rfl

/- What follows counts by itself. -/
theorem opened_append
    (hVisible : ∀ c ∈ t, isOuter c = false) :
    opened (s ++ t) = opened s ++ t := by
  unfold opened
  rw [Text.dropWhile_append_stop fun c hHead =>
      hVisible c (List.mem_of_mem_head? hHead),
    List.filter_append, filter_of_visible hVisible]

/- With something behind it, the end of a text counts. -/
theorem cleaned_append
    (hVisible : ∀ c ∈ t, isOuter c = false)
    (hSome : t ≠ []) :
    cleaned (s ++ t) = opened s ++ t := by
  rw [← opened_append hVisible]
  unfold cleaned opened Text.trimWhile
  rw [Text.dropWhile_append_stop fun c hHead =>
      hVisible c (List.mem_of_mem_head? hHead),
    Text.dropLastWhile_append_stop hVisible hSome]

/- Only controls and spaces at its end count in addition. -/
theorem exists_opened
    (s : List Char) :
    ∃ blanks, Outer blanks ∧ opened s = cleaned s ++ blanks := by
  let back :=
    ((s.dropWhile isOuter).reverse.takeWhile isOuter).reverse
  refine ⟨back.filter (!isLineMark ·), fun c hMem => ?_, ?_⟩
  · have hBack := List.mem_reverse.mp (List.mem_filter.mp hMem).1
    have hOuter : isOuter c = true := List.mem_takeWhile_imp hBack
    exact of_decide_eq_true hOuter
  · unfold opened cleaned Text.trimWhile
    rw [← List.filter_append,
      Text.dropLastWhile_append_takeWhile]

/- What is left of a text does not end in a control or a space. -/
theorem eq_false_of_getLast?_cleaned
    {c : Char}
    (hLast : (cleaned s).getLast? = some c) :
    isOuter c = false := by
  unfold cleaned Text.trimWhile at hLast
  rcases List.eq_nil_or_concat'
    (Text.dropLastWhile isOuter (s.dropWhile isOuter)) with
    hNone | ⟨more, last, hSome⟩
  · rw [hNone] at hLast
    cases hLast
  · have hVisible : isOuter last = false := by
      refine Text.eq_false_of_getLast?_dropLastWhile
        (s := s.dropWhile isOuter) ?_
      rw [hSome]
      exact List.getLast?_concat
    have hKept :
        [last].filter (!isLineMark ·) = [last] := by
      refine filter_of_visible fun d hMem => ?_
      rw [List.mem_singleton.mp hMem]
      exact hVisible
    rw [hSome, List.filter_append, hKept, List.getLast?_concat]
      at hLast
    rw [← Option.some.inj hLast]
    exact hVisible

------------------------------------------------------------
-- Schemes
------------------------------------------------------------

/- Whether a character is a slash of either kind. -/
def isSlash
    (c : Char) : Bool :=
  c == '/' || c == '\\'

/- A scheme with its colon and the slashes behind it. -/
structure Lead
    (scheme : String)
    (name slashes : List Char) : Prop where
  first : ∃ c ∈ name.head?, c.isAlpha = true
  chars : ∀ c ∈ name, isSchemeChar c = true
  small : String.ofList (name.map Char.toLower) = scheme
  slashes : ∀ c ∈ slashes, isSlash c = true

/- The text of such a lead. -/
def lead
    (name slashes : List Char) : List Char :=
  name ++ ':' :: slashes

/- No character of a scheme is a colon. -/
theorem Lead.ne_colon
    {scheme : String}
    {name slashes : List Char}
    (hLead : Lead scheme name slashes) :
    ∀ c ∈ name, (c == ':') = false := by
  intro c hMem
  refine beq_false_of_ne fun hColon => ?_
  have hChar := hLead.chars c hMem
  rw [hColon] at hChar
  exact absurd hChar (by decide)

/- Behind the lead an authority is read, and then a place. -/
theorem Lead.read_append
    {scheme : String}
    {name slashes : List Char}
    (hLead : Lead scheme name slashes)
    (hKind : SchemeKind.of scheme = .common)
    (hStop : ∀ c ∈ t.head?, isSlash c = false) :
    read (lead name slashes ++ t) =
      (readAuthority scheme t).map fun found =>
        readPlace scheme (some found.1) found.2 := by
  have hScheme :
      readScheme? (lead name slashes ++ t) =
        some (scheme, slashes ++ t) := by
    rcases hLead.first with ⟨c, hHead, hAlpha⟩
    have hFirst : (name ++ ':' :: (slashes ++ t)).head? = some c := by
      rw [List.head?_append, hHead]
      rfl
    have hAll : name.all isSchemeChar = true :=
      List.all_eq_true.mpr hLead.chars
    unfold readScheme? lead
    rw [List.append_assoc, List.cons_append, hFirst,
      Text.splitFirst_append hLead.ne_colon rfl]
    dsimp only
    rw [hAlpha, hAll, hLead.small]
    rfl
  have hRest :
      (slashes ++ t).dropWhile (fun c => c == '/' || c == '\\') =
        t := by
    change (slashes ++ t).dropWhile isSlash = t
    rw [Text.dropWhile_append_stop hStop,
      List.dropWhile_eq_nil_iff.mpr hLead.slashes, List.nil_append]
  unfold read
  rw [hScheme]
  dsimp only
  unfold readAfterScheme
  rw [hKind]
  dsimp only
  rw [hRest]
  cases readAuthority scheme t <;> rfl

/-
  How what counts of an address falls apart: scheme and slashes,
  an authority, and what follows it.
-/
structure Sited
    (scheme : String)
    (name slashes site after : List Char)
    (authority : Authority) : Prop where
  lead : Lead scheme name slashes
  bare : Bare site
  some : site ≠ []
  follows : Follows after
  reads : readAuthority scheme site = .ok (authority, [])

/- Without a mark nothing is left behind a service. -/
theorem readService_bare
    {scheme : String}
    {found : Option Nat × List Char}
    (hBare : Bare s)
    (hRead : readService scheme s = .ok found) :
    found.2 = [] := by
  unfold readService at hRead
  dsimp only at hRead
  cases hRest : s.dropWhile Text.isDigit with
  | nil =>
      rw [hRest] at hRead
      split_ifs at hRead
      · cases hRead
        rfl
      · cases hRead
        rfl
  | cons c rest =>
      have hEnds : endsAuthority true c = false := by
        refine hBare c (List.dropWhile_subset Text.isDigit ?_)
        rw [hRest]
        exact List.mem_cons_self
      rw [hRest, if_pos (by simp only [hEnds, Bool.not_false,
        Bool.or_true])] at hRead
      cases hRead

/- Without a mark nothing is left behind a site. -/
theorem readSite_bare
    {scheme : String}
    {user password : List Char}
    {found : Authority × List Char}
    (hKind : SchemeKind.of scheme = .common)
    (hBare : Bare s)
    (hRead : readSite scheme user password s = .ok found) :
    found.2 = [] := by
  have hAfter :
      ∀ {host rest : List Char},
        splitHost true false s = (host, rest) →
        (∀ number, readAfterHost scheme rest = .ok number →
          number.2 = []) →
        found.2 = [] := by
    intro host rest hSplit hNothing
    rw [readSite_eq hKind user password hSplit] at hRead
    split at hRead
    · cases hRead
    · rcases bind_eq_ok_iff.mp hRead with ⟨name, -, hRead⟩
      split at hRead
      · cases hRead
      · rcases bind_eq_ok_iff.mp hRead with ⟨number, hNumber, hSeat⟩
        unfold seat at hSeat
        split at hSeat
        · cases hSeat
        · cases hSeat
          exact hNothing number hNumber
  rcases hBare.splitHost_append [] with
    ⟨hAll, -⟩ | ⟨host, rest, hRest, hCut, -⟩
  · refine hAfter hAll fun number hNumber => ?_
    cases hNumber
    rfl
  · exact hAfter hCut fun number hNumber =>
      readService_bare hRest hNumber

/- Without a mark nothing is left behind an authority. -/
theorem readAuthority_bare
    {scheme : String}
    {found : Authority × List Char}
    (hKind : SchemeKind.of scheme = .common)
    (hBare : Bare s)
    (hRead : readAuthority scheme s = .ok found) :
    found.2 = [] := by
  rw [readAuthority_eq_readSite_self hKind hBare] at hRead
  exact readSite_bare hKind
    (fun c hMem => hBare c (mem_of_mem_userinfo hMem)) hRead

/- No authority is read from nothing. -/
theorem readAuthority_nil
    {scheme : String}
    (hKind : SchemeKind.of scheme = .common) :
    readAuthority scheme [] = .error .emptyHost := by
  have hBare : Bare [] := fun c hMem => nomatch hMem
  rw [readAuthority_eq_readSite_self hKind hBare,
    readSite_eq hKind _ _ rfl]
  rfl

/- The scheme of an address stands before its first colon. -/
theorem lead_of_readScheme?
    {scheme : String}
    {rest : List Char}
    (hScheme : readScheme? s = some (scheme, rest)) :
    ∃ name,
      s = name ++ ':' :: rest ∧
        Lead scheme name (rest.takeWhile isSlash) := by
  unfold readScheme? at hScheme
  split at hScheme
  · next first name after hFirst hSplit =>
      split at hScheme
      · next hName =>
          rcases Bool.and_eq_true_iff.mp hName with ⟨hAlpha, hChars⟩
          have hText := Text.append_splitFirst ':' s
          rw [hSplit] at hText
          cases hScheme
          refine ⟨name, hText.symm, ?_, List.all_eq_true.mp hChars,
            rfl, fun c hMem => List.mem_takeWhile_imp hMem⟩
          refine ⟨first, ?_, hAlpha⟩
          cases name with
          | nil =>
              rw [← hText] at hFirst
              cases hFirst
              exact absurd hAlpha (by decide)
          | cons c more =>
              rw [← hText] at hFirst
              exact hFirst
      · cases hScheme
  · cases hScheme

/- What an authority is read from is cut off where it ends. -/
theorem exists_site
    {scheme : String}
    {place : List Char}
    {found : Authority × List Char}
    (hKind : SchemeKind.of scheme = .common)
    (hFound : readAuthority scheme place = .ok found) :
    ∃ site after authority,
      place = site ++ after ∧ Bare site ∧ site ≠ [] ∧
        Follows after ∧
          readAuthority scheme site = .ok (authority, []) := by
  have hBare :
      Bare (place.takeWhile (!endsAuthority true ·)) := by
    intro c hMem
    simpa using List.mem_takeWhile_imp hMem
  have hFollows :
      Follows (place.dropWhile (!endsAuthority true ·)) := by
    intro c hHead
    have hNot :=
      List.head?_dropWhile_not (!endsAuthority true ·) place
    rw [Option.mem_def.mp hHead] at hNot
    simpa using hNot
  have hPlace :=
    List.takeWhile_append_dropWhile
      (p := (!endsAuthority true ·)) (l := place)
  rw [← hPlace, readAuthority_append hKind hBare hFollows] at hFound
  rcases map_eq_ok_iff.mp hFound with ⟨⟨authority, left⟩, hSite, -⟩
  have hLeft : left = [] := readAuthority_bare hKind hBare hSite
  rw [hLeft] at hSite
  refine ⟨_, _, authority, hPlace.symm, hBare, ?_, hFollows, hSite⟩
  intro hNone
  rw [hNone, readAuthority_nil hKind] at hSite
  cases hSite

/- An address of a common scheme falls apart. -/
theorem exists_sited
    {url : Url}
    (hRead : read s = .ok url)
    (hKind : SchemeKind.of url.scheme = .common) :
    ∃ name slashes site after authority,
      Sited url.scheme name slashes site after authority ∧
        s = lead name slashes ++ (site ++ after) := by
  unfold read at hRead
  split at hRead
  · next scheme rest hScheme =>
      rw [scheme_of_readAfterScheme hRead] at hKind ⊢
      rcases lead_of_readScheme? hScheme with ⟨name, hText, hLead⟩
      unfold readAfterScheme at hRead
      rw [hKind] at hRead
      dsimp only at hRead
      rcases bind_eq_ok_iff.mp hRead with ⟨found, hFound, -⟩
      rcases exists_site hKind hFound with
        ⟨site, after, authority, hPlace, hBare, hSome, hFollows,
          hSite⟩
      change rest.dropWhile isSlash = _ at hPlace
      refine ⟨name, _, site, after, authority,
        ⟨hLead, hBare, hSome, hFollows, hSite⟩, ?_⟩
      unfold lead
      rw [hText, ← hPlace, List.append_assoc, List.cons_append,
        List.takeWhile_append_dropWhile]
  · cases hRead

/- In a text cut off before a slash there is none. -/
theorem Bare.isSlash_eq_false
    (hBare : Bare s) :
    ∀ c ∈ s, isSlash c = false := by
  intro c hMem
  have hEnds := hBare c hMem
  unfold endsAuthority at hEnds
  unfold isSlash
  simp only [Bool.or_eq_false_iff, Bool.true_and] at hEnds ⊢
  exact ⟨hEnds.1.1.1, hEnds.2⟩

/- So no slash is found in it. -/
theorem Bare.any_isSlash
    (hBare : Bare s) :
    s.any isSlash = false := by
  refine List.any_eq_false.mpr fun c hMem => ?_
  rw [hBare.isSlash_eq_false c hMem]
  decide

/- No authority begins with a slash. -/
theorem Sited.isSlash_eq_false
    {scheme : String}
    {name slashes site after : List Char}
    {authority : Authority}
    (hSited : Sited scheme name slashes site after authority)
    (t : List Char) :
    ∀ c ∈ (site ++ t).head?, isSlash c = false := by
  rcases List.exists_cons_of_ne_nil hSited.some with
    ⟨c, rest, hSite⟩
  intro d hHead
  rw [hSite] at hHead
  cases hHead
  refine hSited.bare.isSlash_eq_false c ?_
  rw [hSite]
  exact List.mem_cons_self

------------------------------------------------------------
-- Addresses with More behind Them
------------------------------------------------------------

/-
  With more behind it an address falls apart in the same way,
  but slashes at its end are gone, or else controls and spaces
  at its end count.
-/
theorem exists_behind
    {scheme : String}
    {name slashes site after blanks : List Char}
    {authority : Authority}
    (hSited : Sited scheme name slashes site after authority)
    (hText : cleaned s = lead name slashes ++ (site ++ after))
    (hOuter : Outer blanks)
    (hBlanks : opened s = cleaned s ++ blanks) :
    ∃ behind,
      opened (Text.dropLastWhile (· == '/') s) =
          lead name slashes ++ (site ++ behind) ∧
        ((blanks = [] ∧
            ∃ gone, (∀ c ∈ gone, c = '/') ∧ after = behind ++ gone) ∨
          behind = after ++ blanks) := by
  have hGone :
      ∀ c ∈ (s.reverse.takeWhile (· == '/')).reverse, c = '/' := by
    intro c hMem
    exact beq_iff_eq.mp
      (List.mem_takeWhile_imp (p := (· == '/'))
        (List.mem_reverse.mp hMem))
  have hWhole :=
    Text.dropLastWhile_append_takeWhile (· == '/') s
  revert hGone hWhole
  generalize (s.reverse.takeWhile (· == '/')).reverse = gone
  generalize Text.dropLastWhile (· == '/') s = base
  generalize lead name slashes = front at hText ⊢
  intro hGone hWhole
  have hVisible : ∀ c ∈ gone, isOuter c = false := by
    intro c hMem
    rw [hGone c hMem]
    decide
  have hOpened :
      opened base ++ gone = (front ++ site) ++ (after ++ blanks) := by
    rw [← opened_append hVisible, hWhole, hBlanks, hText]
    simp only [List.append_assoc]
  have hSlash : ∀ c ∈ gone, isSlash c = true := by
    intro c hMem
    rw [hGone c hMem]
    rfl
  have hBlank : ∀ c ∈ blanks, isSlash c = false :=
    Bare.isSlash_eq_false fun c hMem => (hOuter.plain c hMem).1
  rw [← List.append_assoc] at hOpened
  rcases Text.eq_nil_or_eq_nil hSlash hBlank hOpened with
    hNone | hNone
  · refine ⟨after ++ blanks, ?_, Or.inr rfl⟩
    rw [hNone, List.append_nil] at hOpened
    simp only [hOpened, List.append_assoc]
  · rw [hNone, List.append_nil] at hOpened
    rcases Text.exists_append_of_end hSlash
        hSited.bare.isSlash_eq_false hSited.some hOpened with
      ⟨behind, hBehind, hAfter⟩
    refine ⟨behind, ?_, Or.inl ⟨hNone, gone, hGone, hAfter⟩⟩
    rw [hBehind, List.append_assoc]

------------------------------------------------------------
-- Hanging Blanks
------------------------------------------------------------

/-
  Whether a text ends in a control or a space that stands right
  behind its authority: line marks do not count, and neither do
  slashes before the authority.
-/
def hangs
    (address : String) : Bool :=
  let s := address.toList.filter (!isLineMark ·)
  let place := (Text.splitFirst (· == ':') s).2.getD []
  s.getLast?.any isOuter &&
    !(place.dropWhile isSlash).any isSlash

/- Before what counts of a text there is no colon. -/
theorem exists_filter
    (s : List Char) :
    ∃ front,
      (∀ c ∈ front, (c == ':') = false) ∧
        s.filter (!isLineMark ·) = front ++ opened s := by
  refine ⟨(s.takeWhile isOuter).filter (!isLineMark ·),
    fun c hMem => beq_false_of_ne fun hColon => ?_, ?_⟩
  · have hOuter : isOuter c = true :=
      List.mem_takeWhile_imp (List.mem_filter.mp hMem).1
    rw [hColon] at hOuter
    exact absurd hOuter (by decide)
  · unfold opened
    rw [← List.filter_append, List.takeWhile_append_dropWhile]

/- A text ends in a control or a space if any counts there. -/
theorem any_isOuter_getLast?
    {blanks : List Char}
    (hOuter : Outer blanks)
    (hSome : cleaned s ≠ [])
    (front : List Char) :
    (front ++ (cleaned s ++ blanks)).getLast?.any isOuter =
      !blanks.isEmpty := by
  rcases List.eq_nil_or_concat' blanks with
    hNone | ⟨rest, blank, hBlanks⟩
  · rcases List.eq_nil_or_concat' (cleaned s) with
      hNothing | ⟨more, last, hLast⟩
    · exact absurd hNothing hSome
    · have hVisible : isOuter last = false := by
        refine eq_false_of_getLast?_cleaned (s := s) ?_
        rw [hLast]
        exact List.getLast?_concat
      rw [hNone, List.append_nil, hLast, ← List.append_assoc,
        List.getLast?_concat, Option.any_some, hVisible]
      rfl
  · have hBlank : isOuter blank = true := by
      refine decide_eq_true (hOuter blank ?_)
      rw [hBlanks]
      exact List.mem_concat_self
    rw [hBlanks, ← List.append_assoc, ← List.append_assoc,
      List.getLast?_concat, Option.any_some, hBlank]
    simp

/-
  An address hangs if controls and spaces count at its end when
  something follows, and no slash stands before them.
-/
theorem hangs_iff
    {address : String}
    {scheme : String}
    {name slashes site after blanks : List Char}
    {authority : Authority}
    (hSited : Sited scheme name slashes site after authority)
    (hText :
      cleaned address.toList =
        lead name slashes ++ (site ++ after))
    (hOuter : Outer blanks)
    (hBlanks :
      opened address.toList = cleaned address.toList ++ blanks) :
    hangs address = true ↔
      blanks ≠ [] ∧ ∀ c ∈ after, isSlash c = false := by
  rcases exists_filter address.toList with ⟨front, hFront, hWhole⟩
  have hEnd :
      (address.toList.filter (!isLineMark ·)).getLast?.any isOuter =
        !blanks.isEmpty := by
    rw [hWhole, hBlanks]
    refine any_isOuter_getLast? hOuter (fun hNone => ?_) front
    rw [hText] at hNone
    unfold lead at hNone
    simp at hNone
  have hSplit :
      (Text.splitFirst (· == ':')
          (address.toList.filter (!isLineMark ·))).2 =
        some (slashes ++ (site ++ (after ++ blanks))) := by
    have hName : ∀ c ∈ front ++ name, (c == ':') = false :=
      List.forall_mem_append.mpr ⟨hFront, hSited.lead.ne_colon⟩
    have hParts :
        address.toList.filter (!isLineMark ·) =
          (front ++ name) ++
            ':' :: (slashes ++ (site ++ (after ++ blanks))) := by
      rw [hWhole, hBlanks, hText]
      unfold lead
      simp only [List.append_assoc, List.cons_append]
    rw [hParts, Text.splitFirst_append hName rfl]
  have hPlace :
      (slashes ++ (site ++ (after ++ blanks))).dropWhile isSlash =
        site ++ (after ++ blanks) := by
    rw [Text.dropWhile_append_stop
        (hSited.isSlash_eq_false (after ++ blanks)),
      List.dropWhile_eq_nil_iff.mpr hSited.lead.slashes,
      List.nil_append]
  have hSlash :
      (site ++ (after ++ blanks)).any isSlash = after.any isSlash := by
    have hBlank : Bare blanks :=
      fun c hMem => (hOuter.plain c hMem).1
    rw [List.any_append, List.any_append, hSited.bare.any_isSlash,
      hBlank.any_isSlash, Bool.false_or, Bool.or_false]
  unfold hangs
  dsimp only
  rw [hSplit, hEnd, Option.getD_some, hPlace, hSlash]
  simp

example :
    hangs "http://m:80 \n" = true ∧ hangs "http://m/ " = false ∧
      hangs "http://m\t" = false := by
  decide

end Url

end LedgerView
