import Mathlib.Data.List.TakeWhile
import Mathlib.Tactic.SplitIfs
import LedgerView.Proofs.Reading
import LedgerView.Proofs.Text.Blank
import LedgerView.Proofs.Text.Utf8
import LedgerView.Proofs.Url.Form
import LedgerView.Url.Parse

/-
  Authorities of common schemes, and what stands behind them.

  An authority ends before a slash or a mark, and whatever
  begins there does not matter for it.  A control or a space
  would belong to it: to the host, which must not hold any, or
  to the number of the service.  So no authority is read that
  ends in one.

  Key definitions include:
    * `Url.Bare`
    * `Url.Follows`
    * `Url.Outer`
    * `Url.leaving`
    * `Url.readSite`
    * `Url.readAfterHost`
    * `Url.userinfo`

  Key theorems include:
    * `Host.parseDomain_concat`
    * `Url.splitHost_append`
    * `Url.Bare.splitHost_append`
    * `Url.readSite_append`
    * `Url.readAuthority_append`
    * `Url.readSite_outer`
    * `Url.readAuthority_outer`
-/

namespace LedgerView

------------------------------------------------------------
-- Hosts
------------------------------------------------------------

namespace Host

/- No control and no space is overlooked in a domain name. -/
theorem isForbiddenInDomain_of_le
    {c : Char}
    (hOuter : c.toNat ≤ 0x20) :
    isSkipped c = false ∧ Text.lowerChar (narrow c) = [c] ∧
      isForbiddenInDomain c = true := by
  have hEach :
      ∀ n < 33,
        isSkipped (Char.ofNat n) = false ∧
          Text.lowerChar (narrow (Char.ofNat n)) = [Char.ofNat n] ∧
            isForbiddenInDomain (Char.ofNat n) = true := by
    decide +kernel
  have hHere := hEach c.toNat (by omega)
  rw [Char.ofNat_toNat] at hHere
  exact hHere

/- No domain name is read from a text that holds one. -/
theorem domain?_eq_none
    {s : List Char}
    {c : Char}
    (hMem : c ∈ s)
    (hOuter : c.toNat ≤ 0x20) :
    domain? s = none := by
  rcases isForbiddenInDomain_of_le hOuter with
    ⟨hSeen, hSame, hForbidden⟩
  have hAny :
      ((s.filter fun c => !isSkipped c).flatMap fun c =>
          Text.lowerChar (narrow c)).any isForbiddenInDomain =
        true := by
    refine List.any_eq_true.mpr ⟨c, ?_, hForbidden⟩
    refine List.mem_flatMap.mpr ⟨c, ?_, ?_⟩
    · exact List.mem_filter.mpr ⟨hMem, by rw [hSeen]; rfl⟩
    · rw [hSame]
      exact List.mem_singleton_self c
  unfold domain?
  simp only [hAny, if_true]
  rfl

/- No host is read from a text that ends in one. -/
theorem parseDomain_concat
    {c : Char}
    (hOuter : c.toNat ≤ 0x20)
    (s host : List Char) :
    parseDomain (s ++ [c]) ≠ .ok host := by
  have hEach :
      ∀ n < 33, Char.ofNat n ≠ '%' ∧ Char.ofNat n ≠ ']' ∧
        Text.hexValue? (Char.ofNat n) = none := by
    decide
  have hHere := hEach c.toNat (by omega)
  rw [Char.ofNat_toNat] at hHere
  rcases hHere with ⟨hPercent, hBracket, hDigit⟩
  have hByte : (UInt8.ofNat c.toNat).toNat = c.toNat :=
    Text.toNat_byte (by omega)
  have hWritten :
      UInt8.ofNat c.toNat ∈ Percent.decode (s ++ [c]) := by
    rw [Percent.decode_concat hPercent hDigit]
    refine List.mem_append_right _ ?_
    unfold Text.utf8Char
    dsimp only
    rw [if_pos (by omega)]
    exact List.mem_singleton_self _
  have hMem :
      c ∈ Text.utf8Decode (Percent.decode (s ++ [c])) := by
    have hRead :=
      Text.mem_utf8DecodeFrom Text.Utf8State.aboveAscii_start
        (by omega) hWritten
    rw [hByte, Char.ofNat_toNat] at hRead
    exact hRead
  have hOpen :
      ∀ result, bracketed? (s ++ [c]) = some result →
        result = .error .ipv6 := by
    intro result hResult
    unfold bracketed? at hResult
    split at hResult
    · next rest hRest =>
        rw [if_neg] at hResult
        · exact (Option.some.inj hResult).symm
        · intro hClosed
          have hLast := List.getLast?_concat (l := s) (a := c)
          rw [hRest, List.getLast?_cons,
            beq_iff_eq.mp hClosed] at hLast
          exact hBracket (Option.some.inj hLast).symm
    · cases hResult
  intro hParse
  unfold parseDomain at hParse
  split at hParse
  · next result hResult =>
      rw [hOpen result hResult] at hParse
      cases hParse
  · rw [domain?_eq_none hMem hOuter] at hParse
    cases hParse

end Host

namespace Url

variable {s t : List Char}

------------------------------------------------------------
-- Where Authorities End
------------------------------------------------------------

/- A text in which no authority ends. -/
def Bare
    (s : List Char) : Prop :=
  ∀ c ∈ s, endsAuthority true c = false

/- A text that may stand behind an authority. -/
def Follows
    (t : List Char) : Prop :=
  ∀ c ∈ t.head?, endsAuthority true c = true

/- An authority is cut off from what follows it. -/
theorem Bare.takeWhile_append
    (hBare : Bare s)
    (hFollows : Follows t) :
    (s ++ t).takeWhile (!endsAuthority true ·) = s := by
  rw [Text.takeWhile_append_stop
    fun c hHead => by rw [hFollows c hHead]; rfl]
  exact List.takeWhile_eq_self_iff.mpr
    fun c hMem => by rw [hBare c hMem]; rfl

/- What follows it is left. -/
theorem Bare.dropWhile_append
    (hBare : Bare s)
    (hFollows : Follows t) :
    (s ++ t).dropWhile (!endsAuthority true ·) = t := by
  rw [Text.dropWhile_append_stop
    fun c hHead => by rw [hFollows c hHead]; rfl,
    List.dropWhile_eq_nil_iff.mpr
      fun c hMem => by rw [hBare c hMem]; rfl, List.nil_append]

/- The last at sign stands before any text without one. -/
theorem splitLastAt_append
    (hNone : ∀ c ∈ t, c ≠ '@') :
    splitLastAt (s ++ t) =
      (splitLastAt s).map fun parts => (parts.1, parts.2 ++ t) := by
  have hRest :
      ∀ c ∈ t.reverse, (c != '@') = true :=
    fun c hMem =>
      bne_iff_ne.mpr (hNone c (List.mem_reverse.mp hMem))
  have hLength :
      ((s.reverse.takeWhile (· != '@')).reverse).length ≤
        s.length := by
    have hFew := (List.takeWhile_sublist (· != '@')
      (l := s.reverse)).length_le
    rw [List.length_reverse] at hFew ⊢
    exact hFew
  unfold splitLastAt
  dsimp only
  rw [List.reverse_append, List.takeWhile_append_of_pos hRest,
    List.reverse_append, List.reverse_reverse, List.length_append,
    List.length_append]
  split_ifs with hWhole hAll hAll
  · rfl
  · simp at hWhole hAll
    omega
  · simp at hWhole hAll
    omega
  · rw [Option.map_some, List.take_append_of_le_length (by omega),
      show s.length + t.length -
        ((s.reverse.takeWhile (· != '@')).reverse.length + t.length)
          - 1 = s.length -
        (s.reverse.takeWhile (· != '@')).reverse.length - 1 by omega]

/-
  A host is cut off at a mark of its own text, or else goes on
  behind it.
-/
theorem splitHost_append
    (special inBrackets : Bool)
    (s t : List Char) :
    (splitHost special inBrackets s = (s, []) ∧
        ∃ inside,
          splitHost special inBrackets (s ++ t) =
            (s ++ (splitHost special inside t).1,
              (splitHost special inside t).2)) ∨
      ∃ host c rest,
        s = host ++ c :: rest ∧
          (c = ':' ∨ endsAuthority special c = true) ∧
          splitHost special inBrackets s = (host, c :: rest) ∧
          splitHost special inBrackets (s ++ t) =
            (host, c :: rest ++ t) := by
  induction s generalizing inBrackets with
  | nil => exact Or.inl ⟨rfl, inBrackets, rfl⟩
  | cons c rest ih =>
      by_cases hEnds :
          ((c == ':' && !inBrackets) || endsAuthority special c) =
            true
      · refine Or.inr ⟨[], c, rest, rfl, ?_, ?_, ?_⟩
        · rcases Bool.or_eq_true_iff.mp hEnds with hColon | hEnd
          · exact Or.inl
              (beq_iff_eq.mp (Bool.and_eq_true_iff.mp hColon).1)
          · exact Or.inr hEnd
        · rw [splitHost, if_pos hEnds]
        · rw [List.cons_append, splitHost, if_pos hEnds]
      · rcases ih (c == '[' || (inBrackets && c != ']')) with
          ⟨hAll, inside, hOn⟩ |
            ⟨host, d, more, hRest, hMark, hCut, hOn⟩
        · refine Or.inl ⟨?_, inside, ?_⟩
          · rw [splitHost, if_neg hEnds]
            dsimp only
            rw [hAll]
          · rw [List.cons_append, splitHost, if_neg hEnds]
            dsimp only
            rw [hOn]
            rfl
        · refine Or.inr ⟨c :: host, d, more, ?_, hMark, ?_, ?_⟩
          · rw [hRest]
            rfl
          · rw [splitHost, if_neg hEnds]
            dsimp only
            rw [hCut]
          · rw [List.cons_append, splitHost, if_neg hEnds]
            dsimp only
            rw [hOn]

/- In an authority that mark is the colon before the service. -/
theorem Bare.splitHost_append
    (hBare : Bare s)
    (t : List Char) :
    (splitHost true false s = (s, []) ∧
        ∃ inside,
          splitHost true false (s ++ t) =
            (s ++ (splitHost true inside t).1,
              (splitHost true inside t).2)) ∨
      ∃ host rest,
        Bare rest ∧
          splitHost true false s = (host, ':' :: rest) ∧
          splitHost true false (s ++ t) =
            (host, ':' :: rest ++ t) := by
  rcases Url.splitHost_append true false s t with
    hAll | ⟨host, c, rest, hText, hMark, hCut, hOn⟩
  · exact Or.inl hAll
  · have hPart : Bare (c :: rest) := by
      intro d hMem
      refine hBare d ?_
      rw [hText]
      exact List.mem_append_right host hMem
    have hColon : c = ':' := by
      refine hMark.resolve_right fun hEnds => ?_
      rw [hPart c List.mem_cons_self] at hEnds
      cases hEnds
    rw [hColon] at hCut hOn
    exact Or.inr ⟨host, rest,
      fun d hMem => hPart d (List.mem_cons_of_mem c hMem), hCut, hOn⟩

/- No host is cut off from what may follow an authority. -/
theorem Follows.splitHost_eq
    (hFollows : Follows t)
    (inBrackets : Bool) :
    splitHost true inBrackets t = ([], t) := by
  cases t with
  | nil => rfl
  | cons c rest =>
      rw [splitHost, if_pos]
      rw [hFollows c rfl, Bool.or_true]

------------------------------------------------------------
-- Services
------------------------------------------------------------

/- What was read, with more text left behind it. -/
def leaving
    {α : Type}
    (t : List Char)
    (read : α × List Char) : α × List Char :=
  (read.1, read.2 ++ t)

/- A digit ends no authority. -/
theorem endsAuthority_of_isDigit
    {c : Char}
    (hDigit : Text.isDigit c = true) :
    endsAuthority true c = false := by
  refine Text.eq_false_of_ascii (q := Text.isDigit) (fun d hOne => ?_)
    (by decide) (s := [c]) (fun d hMem => ?_) c
    (List.mem_singleton_self c)
  · simp only [Text.isDigit, Bool.and_eq_true, decide_eq_true_eq,
      Char.le_def, UInt32.le_iff_toNat_le] at hOne
    exact Nat.lt_of_le_of_lt hOne.2 (by decide)
  · rw [List.mem_singleton.mp hMem]
    exact hDigit

/- The number of a service is cut off from what follows it. -/
theorem readService_append
    {scheme : String}
    (hFollows : Follows t) :
    readService scheme (s ++ t) =
      (readService scheme s).map (leaving t) := by
  have hStop : ∀ c ∈ t.head?, Text.isDigit c = false := by
    intro c hHead
    refine Bool.eq_false_iff.mpr fun hDigit => ?_
    have hEnds := hFollows c hHead
    rw [endsAuthority_of_isDigit hDigit] at hEnds
    cases hEnds
  unfold readService
  dsimp only
  rw [Text.takeWhile_append_stop hStop,
    Text.dropWhile_append_stop hStop]
  cases s.dropWhile Text.isDigit with
  | nil =>
      cases t with
      | nil =>
        simp only [List.nil_append]
        split_ifs <;> rfl
      | cons c rest =>
        simp only [List.nil_append, hFollows c rfl]
        split_ifs <;> rfl
  | cons c rest =>
      simp only [List.cons_append]
      split_ifs <;> rfl

------------------------------------------------------------
-- Behind the User
------------------------------------------------------------

/- What is read behind the user of an authority. -/
def readSite
    (scheme : String)
    (user password s : List Char) :
    Except UrlError (Authority × List Char) := do
  let special := (SchemeKind.of scheme).isSpecial
  let (hostText, s) := splitHost special false s
  if special && hostText.isEmpty then throw .emptyHost
  let host ←
    if special then Host.parseDomain hostText
    else Host.parseOpaque hostText
  if host.isEmpty && s.head? == some ':' then throw .emptyHost
  let (service, s) ←
    match s with
    | ':' :: after => readService scheme after
    | _ => pure (none, s)
  if host.isEmpty && !(user.isEmpty && password.isEmpty) then
    throw .emptyHost
  return (⟨user, password, host, service⟩, s)

/- An authority is a user and what is read behind it. -/
theorem readAuthority_eq
    (scheme : String)
    (s : List Char) :
    readAuthority scheme s =
      (readUserinfo (SchemeKind.of scheme).isSpecial s).bind
        fun read => readSite scheme read.1 read.2.1 read.2.2 :=
  rfl

/- The service behind a host, and what follows it. -/
def readAfterHost
    (scheme : String)
    (s : List Char) :
    Except UrlError (Option Nat × List Char) :=
  match s with
  | ':' :: after => readService scheme after
  | _ => .ok (none, s)

/- A service is read as it is behind a host. -/
theorem bind_readAfterHost
    {α : Type}
    (scheme : String)
    (s : List Char)
    (next : Option Nat × List Char → Except UrlError α) :
    (readAfterHost scheme s).bind next =
      match s with
      | ':' :: after => (readService scheme after).bind next
      | _ => next (none, s) := by
  unfold readAfterHost
  split <;> rfl

/- The authority of a user, a host and a service. -/
def seat
    (user password host : List Char)
    (read : Option Nat × List Char) :
    Except UrlError (Authority × List Char) :=
  if host.isEmpty && !(user.isEmpty && password.isEmpty) then
    .error .emptyHost
  else
    .ok (⟨user, password, host, read.1⟩, read.2)

/- In a common scheme, a host and then a service are read. -/
theorem readSite_eq
    {scheme : String}
    (hKind : SchemeKind.of scheme = .common)
    (user password : List Char)
    {host rest : List Char}
    (hSplit : splitHost true false s = (host, rest)) :
    readSite scheme user password s =
      if host.isEmpty then .error .emptyHost
      else (Host.parseDomain host).bind fun host =>
        if host.isEmpty && rest.head? == some ':' then
          .error .emptyHost
        else
          (readAfterHost scheme rest).bind
            (seat user password host) := by
  have hSpecial : (SchemeKind.of scheme).isSpecial = true := by
    rw [hKind]
    rfl
  unfold readSite
  simp only [hSpecial, hSplit, Bool.true_and, if_true,
    bind_readAfterHost]
  split_ifs with hNone
  · rfl
  · cases Host.parseDomain host with
    | error e => rfl
    | ok name =>
        unfold seat
        change (if _ then _ else _) = _
        dsimp only [Except.bind]
        split_ifs
        · rfl
        · rfl
        · split <;> rfl
        · split <;> rfl

/- No colon follows an authority. -/
theorem Follows.ne_colon
    (hFollows : Follows t) :
    t.head? ≠ some ':' := by
  intro hHead
  exact absurd (hFollows ':' hHead) (by decide)

/- A service is cut off from what follows it. -/
theorem readAfterHost_append
    {scheme : String}
    (hFollows : Follows t) :
    readAfterHost scheme (s ++ t) =
      (readAfterHost scheme s).map (leaving t) := by
  rcases s with _ | ⟨c, rest⟩
  · unfold readAfterHost
    split
    · next after hColon =>
        have hText : t = ':' :: after := hColon
        exact absurd (by rw [hText]; rfl) hFollows.ne_colon
    · rfl
  · by_cases hColon : c = ':'
    · rw [hColon]
      exact readService_append hFollows
    · unfold readAfterHost
      split
      · next after hCons =>
          exact absurd (List.cons.inj hCons).1 hColon
      · split
        · next after hCons =>
            exact absurd (List.cons.inj hCons).1 hColon
        · rfl

/- The authority is the same, whatever is left. -/
theorem seat_leaving
    (user password host t : List Char)
    (read : Option Nat × List Char) :
    seat user password host (leaving t read) =
      (seat user password host read).map (leaving t) := by
  unfold seat
  split_ifs <;> rfl

/- What follows an authority does not matter for its host. -/
theorem readSite_append
    {scheme : String}
    (hKind : SchemeKind.of scheme = .common)
    (user password : List Char)
    (hFollows : Follows t) :
    readSite scheme user password (s ++ t) =
      (readSite scheme user password s).map (leaving t) := by
  have hSeat :
      ∀ (name rest : List Char),
        (readAfterHost scheme (rest ++ t)).bind
            (seat user password name) =
          ((readAfterHost scheme rest).bind
            (seat user password name)).map (leaving t) := by
    intro name rest
    rw [readAfterHost_append hFollows]
    cases readAfterHost scheme rest with
    | error e => rfl
    | ok read => exact seat_leaving user password name t read
  have hSite :
      ∀ {host rest : List Char},
        splitHost true false s = (host, rest) →
        splitHost true false (s ++ t) = (host, rest ++ t) →
        readSite scheme user password (s ++ t) =
          (readSite scheme user password s).map (leaving t) := by
    intro host rest hCut hOn
    have hHead :
        ((rest ++ t).head? == some ':') =
          (rest.head? == some ':') := by
      cases rest with
      | nil => exact beq_false_of_ne hFollows.ne_colon
      | cons c more => rfl
    rw [readSite_eq hKind user password hCut,
      readSite_eq hKind user password hOn, hHead]
    split_ifs
    · rfl
    · cases Host.parseDomain host with
      | error e => rfl
      | ok name =>
          dsimp only [Except.bind]
          split_ifs
          · rfl
          · exact hSeat name rest
  rcases splitHost_append true false s t with
    ⟨hAll, inside, hOn⟩ | ⟨host, c, rest, -, -, hCut, hOn⟩
  · rw [hFollows.splitHost_eq, List.append_nil] at hOn
    exact hSite hAll hOn
  · exact hSite hCut hOn

------------------------------------------------------------
-- Whole Authorities
------------------------------------------------------------

/- User name, password and what stands behind the at sign. -/
def userinfo
    (s : List Char) : List Char × List Char × List Char :=
  match splitLastAt s with
  | none => ([], [], s)
  | some ([], after) => ([], [], after)
  | some (info, after) =>
      let (user, password) := Text.splitFirst (· == ':') info
      let encode := Percent.encode Percent.inUserinfo
      (encode user, encode (password.getD []), after)

/- A user is read, but perhaps not when nothing else is there. -/
theorem readUserinfo_append
    (hBare : Bare s)
    (hFollows : Follows t) :
    readUserinfo true (s ++ t) =
        .ok ((userinfo s).1, (userinfo s).2.1,
          (userinfo s).2.2 ++ t) ∨
      (userinfo s).2.2 = [] ∧
        readUserinfo true (s ++ t) = .error .emptyHost := by
  unfold readUserinfo userinfo
  dsimp only
  rw [hBare.takeWhile_append hFollows,
    hBare.dropWhile_append hFollows]
  rcases splitLastAt s with _ | ⟨_ | ⟨c, info⟩, after⟩
  · exact Or.inl rfl
  · dsimp only
    split_ifs with hNone
    · refine Or.inr ⟨?_, rfl⟩
      exact List.isEmpty_iff.mp (Bool.and_eq_true_iff.mp hNone).1
    · exact Or.inl rfl
  · exact Or.inl rfl

/- An authority goes on with what stands behind its user. -/
theorem readAuthority_eq_readSite
    {scheme : String}
    (hKind : SchemeKind.of scheme = .common)
    (hBare : Bare s)
    (hFollows : Follows t) :
    readAuthority scheme (s ++ t) =
      readSite scheme (userinfo s).1 (userinfo s).2.1
        ((userinfo s).2.2 ++ t) := by
  have hSpecial : (SchemeKind.of scheme).isSpecial = true := by
    rw [hKind]
    rfl
  rw [readAuthority_eq, hSpecial]
  rcases readUserinfo_append hBare hFollows with
    hRead | ⟨hNone, hFault⟩
  · rw [hRead]
    rfl
  · rw [hFault, hNone, List.nil_append,
      readSite_eq hKind _ _ (hFollows.splitHost_eq false)]
    rfl

/- So it does if nothing follows it. -/
theorem readAuthority_eq_readSite_self
    {scheme : String}
    (hKind : SchemeKind.of scheme = .common)
    (hBare : Bare s) :
    readAuthority scheme s =
      readSite scheme (userinfo s).1 (userinfo s).2.1
        (userinfo s).2.2 := by
  have hNothing : Follows [] := fun c hHead => nomatch hHead
  have hAlone := readAuthority_eq_readSite hKind hBare hNothing
  rw [List.append_nil, List.append_nil] at hAlone
  exact hAlone

/- What follows an authority does not matter for it. -/
theorem readAuthority_append
    {scheme : String}
    (hKind : SchemeKind.of scheme = .common)
    (hBare : Bare s)
    (hFollows : Follows t) :
    readAuthority scheme (s ++ t) =
      (readAuthority scheme s).map (leaving t) := by
  rw [readAuthority_eq_readSite hKind hBare hFollows,
    readAuthority_eq_readSite_self hKind hBare,
    readSite_append hKind _ _ hFollows]

------------------------------------------------------------
-- Blanks behind an Authority
------------------------------------------------------------

/- A text of controls and spaces. -/
def Outer
    (s : List Char) : Prop :=
  ∀ c ∈ s, c.toNat ≤ 0x20

/- No control and no space is a mark or a digit. -/
theorem Outer.plain
    (hOuter : Outer s) :
    ∀ c ∈ s, endsAuthority true c = false ∧ c ≠ ':' ∧ c ≠ '@' ∧
      Text.isDigit c = false := by
  have hEach :
      ∀ n < 33,
        endsAuthority true (Char.ofNat n) = false ∧
          Char.ofNat n ≠ ':' ∧ Char.ofNat n ≠ '@' ∧
            Text.isDigit (Char.ofNat n) = false := by
    decide
  intro c hMem
  have hHere := hEach c.toNat (Nat.lt_succ_of_le (hOuter c hMem))
  rw [Char.ofNat_toNat] at hHere
  exact hHere

/- They would belong to the user's host. -/
theorem userinfo_append
    (hOuter : Outer t) :
    userinfo (s ++ t) =
      ((userinfo s).1, (userinfo s).2.1, (userinfo s).2.2 ++ t) := by
  unfold userinfo
  rw [splitLastAt_append fun c hMem => (hOuter.plain c hMem).2.2.1]
  cases splitLastAt s with
  | none => rfl
  | some parts =>
      rcases parts with ⟨_ | ⟨c, info⟩, after⟩
      · rfl
      · rfl

/- They are no end of a host. -/
theorem Outer.splitHost_eq
    (hOuter : Outer s)
    (inBrackets : Bool) :
    splitHost true inBrackets s = (s, []) := by
  induction s generalizing inBrackets with
  | nil => rfl
  | cons c rest ih =>
      rcases hOuter.plain c List.mem_cons_self with
        ⟨hEnds, hColon, -⟩
      rw [splitHost, if_neg]
      · dsimp only
        rw [ih fun d hMem => hOuter d (List.mem_cons_of_mem c hMem)]
      · rw [hEnds, beq_false_of_ne hColon, Bool.false_and]
        decide

/- They are no part of the number of a service. -/
theorem readService_outer
    {scheme : String}
    (hBare : Bare s)
    (hOuter : Outer t)
    (hSome : t ≠ []) :
    readService scheme (s ++ t) = .error .portNumber := by
  have hStop : ∀ c ∈ t.head?, Text.isDigit c = false :=
    fun c hHead =>
      (hOuter.plain c (List.mem_of_mem_head? hHead)).2.2.2
  have hLeft :
      ∃ c rest, s.dropWhile Text.isDigit ++ t = c :: rest ∧
        endsAuthority true c = false := by
    cases hRest : s.dropWhile Text.isDigit with
    | nil =>
        rcases List.exists_cons_of_ne_nil hSome with ⟨c, rest, hText⟩
        refine ⟨c, rest, hText, (hOuter.plain c ?_).1⟩
        rw [hText]
        exact List.mem_cons_self
    | cons c rest =>
        refine ⟨c, rest ++ t, rfl, hBare c ?_⟩
        refine List.dropWhile_subset Text.isDigit ?_
        rw [hRest]
        exact List.mem_cons_self
  rcases hLeft with ⟨c, rest, hText, hEnds⟩
  unfold readService
  dsimp only
  rw [Text.dropWhile_append_stop hStop, hText]
  refine if_pos ?_
  simp only [hEnds, Bool.not_false, Bool.or_true]

/- What stands behind the user is a part of the authority. -/
theorem mem_of_mem_userinfo
    {c : Char}
    (hMem : c ∈ (userinfo s).2.2) :
    c ∈ s := by
  have hLast :
      ∀ parts, splitLastAt s = some parts → ∀ d ∈ parts.2, d ∈ s := by
    intro parts hSplit d hIn
    unfold splitLastAt at hSplit
    dsimp only at hSplit
    split at hSplit
    · cases hSplit
    · cases hSplit
      exact List.mem_reverse.mp (List.takeWhile_subset _
        (List.mem_reverse.mp hIn))
  unfold userinfo at hMem
  rcases hSplit : splitLastAt s with _ | ⟨_ | ⟨d, info⟩, after⟩
  · rw [hSplit] at hMem
    exact hMem
  · rw [hSplit] at hMem
    exact hLast _ hSplit c hMem
  · rw [hSplit] at hMem
    exact hLast _ hSplit c hMem

/- No site is read with a control or a space at its end. -/
theorem readSite_outer
    {scheme : String}
    (hKind : SchemeKind.of scheme = .common)
    (user password : List Char)
    (hBare : Bare s)
    (hOuter : Outer t)
    (hSome : t ≠ [])
    (read : Authority × List Char) :
    readSite scheme user password (s ++ t) ≠ .ok read := by
  intro hRead
  rcases hBare.splitHost_append t with
    ⟨-, inside, hOn⟩ | ⟨host, rest, hRest, -, hOn⟩
  · rw [hOuter.splitHost_eq] at hOn
    rw [readSite_eq hKind user password hOn] at hRead
    split at hRead
    · cases hRead
    · rcases bind_eq_ok_iff.mp hRead with ⟨name, hName, -⟩
      have hLast := List.dropLast_concat_getLast hSome
      rw [← hLast, ← List.append_assoc] at hName
      exact Host.parseDomain_concat
        (hOuter _ (List.getLast_mem hSome)) _ _ hName
  · rw [readSite_eq hKind user password hOn] at hRead
    split at hRead
    · cases hRead
    · rcases bind_eq_ok_iff.mp hRead with ⟨name, -, hRead⟩
      split at hRead
      · cases hRead
      · rcases bind_eq_ok_iff.mp hRead with ⟨number, hNumber, -⟩
        have hFault : readAfterHost scheme (':' :: rest ++ t) = _ :=
          readService_outer hRest hOuter hSome
        rw [hFault] at hNumber
        cases hNumber

/- No authority is read with a control or a space at its end. -/
theorem readAuthority_outer
    {scheme : String}
    (hKind : SchemeKind.of scheme = .common)
    (hBare : Bare s)
    (hOuter : Outer t)
    (hSome : t ≠ [])
    {after : List Char}
    (hFollows : Follows after)
    (read : Authority × List Char) :
    readAuthority scheme (s ++ t ++ after) ≠ .ok read := by
  have hWhole : Bare (s ++ t) := by
    intro c hMem
    rcases List.mem_append.mp hMem with hSite | hEnd
    · exact hBare c hSite
    · exact (hOuter.plain c hEnd).1
  have hSite : Bare (userinfo s).2.2 :=
    fun c hMem => hBare c (mem_of_mem_userinfo hMem)
  intro hRead
  rw [readAuthority_eq_readSite hKind hWhole hFollows,
    userinfo_append hOuter, readSite_append hKind _ _ hFollows]
    at hRead
  rcases map_eq_ok_iff.mp hRead with ⟨whole, hSiteRead, -⟩
  exact readSite_outer hKind _ _ hSite hOuter hSome whole hSiteRead

end Url

end LedgerView
