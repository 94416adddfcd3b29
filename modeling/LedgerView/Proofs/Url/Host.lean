import Mathlib.Data.List.TakeWhile
import LedgerView.Proofs.Url.Address
import LedgerView.Proofs.Url.Form
import LedgerView.Url.Parse

/-
  Hosts of uncommon schemes are read as they were written.

  Such a host is an address in brackets or a text in which some
  characters are percent-encoded.  Written after two slashes and
  before a query it is cut off where it ends, and nothing of it
  is encoded again.

  Key definitions include:
    * `Host.isSafe`
    * `Host.isOwn`
    * `Host.Settled`
    * `Url.tail`

  Key theorems include:
    * `Host.settled_of_isOwn`
    * `Host.settled_bracketed`
    * `Host.settled_of_parseOpaque`
    * `Url.readAuthority_tail`
    * `Url.settled_of_parse`
-/

namespace LedgerView

/- A query with its mark, unless it is empty. -/
def Url.tail : List Char → List Char
  | [] => []
  | c :: rest => '?' :: c :: rest

------------------------------------------------------------
-- Characters of Hosts
------------------------------------------------------------

namespace Host

/- Visible ASCII without the marks that end a host or a user. -/
def isSafe
    (c : Char) : Bool :=
  0x20 < c.toNat && c.toNat < 0x7F && c != '/' && c != '?' &&
    c != '#' && c != '@'

/- What stands for itself in a host without brackets. -/
def isOwn
    (c : Char) : Bool :=
  isSafe c && !isForbidden c

/- A set without safe characters is missed by them. -/
theorem eq_false_of_isSafe
    {p : Char → Bool}
    (hNone :
      ∀ n < 128, isSafe (Char.ofNat n) = true →
        p (Char.ofNat n) = false)
    {s : List Char}
    (hSafe : ∀ c ∈ s, isSafe c = true) :
    ∀ c ∈ s, p c = false := by
  refine Text.eq_false_of_ascii (fun c hChar => ?_) hNone hSafe
  simp only [isSafe, Bool.and_eq_true, decide_eq_true_eq] at hChar
  omega

/- So is one without characters that stand for themselves. -/
theorem eq_false_of_isOwn
    {p : Char → Bool}
    (hNone :
      ∀ n < 128, isOwn (Char.ofNat n) = true →
        p (Char.ofNat n) = false)
    {s : List Char}
    (hOwn : ∀ c ∈ s, isOwn c = true) :
    ∀ c ∈ s, p c = false := by
  refine Text.eq_false_of_ascii (fun c hChar => ?_) hNone hOwn
  simp only [isOwn, isSafe, Bool.and_eq_true, decide_eq_true_eq]
    at hChar
  omega

/- Queries are written in safe characters. -/
theorem isSafe_of_isMark
    {s : List Char}
    (hMarks : ∀ c ∈ s, Form.isMark c = true) :
    ∀ c ∈ s, isSafe c = true := by
  intro c hMem
  have hNot :=
    Form.eq_false_of_isMark (p := fun c => !isSafe c) (by decide)
      hMarks c hMem
  simpa using hNot

/- A byte is encoded in characters that stand for themselves. -/
theorem isOwn_of_mem_byte
    {b : UInt8}
    {c : Char}
    (hMem : c ∈ Percent.byte b) :
    isOwn c = true :=
  Percent.forall_mem_byte (P := fun c => isOwn c = true)
    (by decide) (by decide) b c hMem

/- So is a host that holds no forbidden mark. -/
theorem isOwn_of_mem_encode
    {s : List Char}
    (hAllowed : s.any isForbidden = false) :
    ∀ c ∈ Percent.encode Percent.isControl s, isOwn c = true := by
  have hSelf :
      ∀ n < 128, isForbidden (Char.ofNat n) = false →
        Percent.isControl (Char.ofNat n) = false →
          isOwn (Char.ofNat n) = true := by
    decide
  intro c hMem
  rcases List.mem_flatMap.mp hMem with ⟨d, hd, hChar⟩
  unfold Percent.encodeChar at hChar
  split at hChar
  · rcases List.mem_flatMap.mp hChar with ⟨b, -, hByte⟩
    exact isOwn_of_mem_byte hByte
  · next hPlain =>
      simp only [Bool.or_eq_true, decide_eq_true_eq, not_or,
        Bool.not_eq_true] at hPlain
      have hForbidden : isForbidden d = false := by
        simpa using List.any_eq_false.mp hAllowed d hd
      have hOwn := hSelf d.toNat (by omega)
      rw [Char.ofNat_toNat] at hOwn
      rw [List.mem_singleton.mp hChar]
      exact hOwn hForbidden hPlain.1

------------------------------------------------------------
-- Settled Hosts
------------------------------------------------------------

/- A host that is cut off and read as it stands. -/
structure Settled
    (host : List Char) : Prop where
  safe : ∀ c ∈ host, isSafe c = true
  ends :
    ∀ query,
      Url.splitHost false false (host ++ Url.tail query) =
        (host, Url.tail query)
  reads : parseOpaque host = .ok host

/- Nothing of a host is left where a query begins. -/
theorem splitHost_tail
    (inBrackets : Bool)
    (query : List Char) :
    Url.splitHost false inBrackets (Url.tail query) =
      ([], Url.tail query) := by
  cases query with
  | nil => rfl
  | cons c rest =>
      unfold Url.tail Url.splitHost
      simp [Url.endsAuthority]

variable {host : List Char}

/- A host without brackets ends where a query begins. -/
theorem splitHost_of_isOwn
    (hOwn : ∀ c ∈ host, isOwn c = true)
    (query : List Char) :
    Url.splitHost false false (host ++ Url.tail query) =
      (host, Url.tail query) := by
  induction host with
  | nil => exact splitHost_tail false query
  | cons c rest ih =>
      have hColon : ∀ d ∈ c :: rest, (d == ':') = false :=
        eq_false_of_isOwn (by decide) hOwn
      have hEnds :
          ∀ d ∈ c :: rest, Url.endsAuthority false d = false :=
        eq_false_of_isOwn (by decide) hOwn
      have hBracket : ∀ d ∈ c :: rest, (d == '[') = false :=
        eq_false_of_isOwn (by decide) hOwn
      rw [List.cons_append, Url.splitHost,
        hColon c List.mem_cons_self, hEnds c List.mem_cons_self,
        hBracket c List.mem_cons_self]
      simp only [Bool.false_and, Bool.or_false, Bool.false_eq_true,
        if_false, ih (List.forall_mem_cons.mp hOwn).2]

/- A host without brackets is taken as it is. -/
theorem parseOpaque_of_isOwn
    (hOwn : ∀ c ∈ host, isOwn c = true) :
    parseOpaque host = .ok host := by
  have hBracket : bracketed? host = none := by
    unfold bracketed?
    split
    · next rest =>
        have hFirst := hOwn '[' List.mem_cons_self
        exact absurd hFirst (by decide)
    · rfl
  have hForbidden : host.any isForbidden = false := by
    have hNone : ∀ c ∈ host, isForbidden c = false :=
      eq_false_of_isOwn (by decide) hOwn
    simpa using hNone
  unfold parseOpaque
  rw [hBracket]
  dsimp only
  rw [hForbidden,
    Percent.encode_eq_self (eq_false_of_isOwn (by decide) hOwn)]
  rfl

/- A host without brackets is settled. -/
theorem settled_of_isOwn
    (hOwn : ∀ c ∈ host, isOwn c = true) :
    Settled host where
  safe := fun c hMem => by
    have hBoth := hOwn c hMem
    unfold isOwn at hBoth
    exact (Bool.and_eq_true_iff.mp hBoth).1
  ends := splitHost_of_isOwn hOwn
  reads := parseOpaque_of_isOwn hOwn

/- Inside brackets a host goes on up to the closing one. -/
theorem splitHost_bracketed
    {s : List Char}
    (hSafe : ∀ c ∈ s, isSafe c = true)
    (hOpen : ∀ c ∈ s, c ≠ ']')
    (query : List Char) :
    Url.splitHost false true (s ++ ']' :: Url.tail query) =
      (s ++ [']'], Url.tail query) := by
  induction s with
  | nil =>
      rw [List.nil_append, Url.splitHost]
      simp [Url.endsAuthority, splitHost_tail]
  | cons c rest ih =>
      rcases List.forall_mem_cons.mp hOpen with ⟨hHead, hRest⟩
      have hEnds :
          ∀ d ∈ c :: rest, Url.endsAuthority false d = false :=
        eq_false_of_isSafe (by decide) hSafe
      have hInside : (c == '[' || (true && c != ']')) = true := by
        simp [hHead]
      have hMore := ih (List.forall_mem_cons.mp hSafe).2 hRest
      rw [List.cons_append, Url.splitHost,
        hEnds c List.mem_cons_self, hInside]
      simp only [hMore, Bool.not_true, Bool.and_false,
        Bool.or_false, Bool.false_eq_true, if_false,
        List.cons_append]

/- An address is written in safe characters. -/
theorem isSafe_of_mem_render
    {groups : List Nat} :
    ∀ c ∈ Ipv6.render groups, isSafe c = true ∧ c ≠ ']' := by
  have hDigit :
      ∀ d < 16, isSafe d.digitChar = true ∧ d.digitChar ≠ ']' := by
    decide
  intro c hMem
  rcases Ipv6.mem_render c hMem with hColon | ⟨d, hSmall, hChar⟩
  · rw [hColon]
    decide
  · rw [hChar]
    exact hDigit d hSmall

/- An address in brackets is settled. -/
theorem settled_bracketed
    {groups : List Nat}
    (hAddress : Ipv6.IsAddress groups) :
    Settled ('[' :: (Ipv6.render groups ++ [']'])) where
  safe := by
    refine List.forall_mem_cons.mpr ⟨by decide, ?_⟩
    refine List.forall_mem_append.mpr
      ⟨?_, List.forall_mem_singleton.mpr (by decide)⟩
    exact fun c hMem => (isSafe_of_mem_render c hMem).1
  ends := by
    intro query
    have hInside :=
      splitHost_bracketed
        (fun c hMem => (isSafe_of_mem_render c hMem).1)
        (fun c hMem => (isSafe_of_mem_render c hMem).2)
        query (s := Ipv6.render groups)
    rw [List.cons_append, List.append_assoc, List.singleton_append,
      Url.splitHost]
    simp [Url.endsAuthority, hInside]
  reads := by
    have hLast :
        (Ipv6.render groups ++ [']']).getLast? = some ']' :=
      List.getLast?_concat
    unfold parseOpaque bracketed?
    simp only [hLast, beq_self_eq_true, if_true,
      List.dropLast_concat, Ipv6.parse?_render hAddress]
    rfl

/- Whatever is read as a host is settled. -/
theorem settled_of_parseOpaque
    {s : List Char}
    (hParse : parseOpaque s = .ok host) :
    Settled host := by
  unfold parseOpaque at hParse
  split at hParse
  · next result hResult =>
      unfold bracketed? at hResult
      split at hResult
      · next rest =>
          split at hResult
          · split at hResult
            · next groups hGroups =>
                cases hResult
                cases hParse
                exact
                  settled_bracketed (Ipv6.isAddress_of_parse? hGroups)
            · cases hResult
              cases hParse
          · cases hResult
            cases hParse
      · cases hResult
  · split at hParse
    · cases hParse
    · next hAllowed =>
        have hNone : s.any isForbidden = false := by
          simpa using hAllowed
        cases hParse
        exact settled_of_isOwn (isOwn_of_mem_encode hNone)

end Host

------------------------------------------------------------
-- Authorities
------------------------------------------------------------

namespace Url

variable {host query : List Char}

/- A host is no user. -/
theorem readUserinfo_tail
    (hSafe : ∀ c ∈ host, Host.isSafe c = true) :
    readUserinfo false (host ++ tail query) =
      .ok ([], [], host ++ tail query) := by
  have hEnds : ∀ c ∈ host, endsAuthority false c = false :=
    Host.eq_false_of_isSafe (by decide) hSafe
  have hAt : ∀ c ∈ host, (c == '@') = false :=
    Host.eq_false_of_isSafe (by decide) hSafe
  have hHere :
      (host ++ tail query).takeWhile (!endsAuthority false ·) =
        host := by
    rw [List.takeWhile_append_of_pos
      fun c hMem => by rw [hEnds c hMem]; rfl]
    cases query with
    | nil => exact List.append_nil host
    | cons c rest => exact List.append_nil host
  have hAfter : host.reverse.takeWhile (· != '@') = host.reverse := by
    refine List.takeWhile_eq_self_iff.mpr fun c hMem => ?_
    exact bne_iff_ne.mpr
      (beq_eq_false_iff_ne.mp (hAt c (List.mem_reverse.mp hMem)))
  have hSplit : splitLastAt host = none := by
    unfold splitLastAt
    dsimp only
    rw [hAfter, List.reverse_reverse, beq_self_eq_true, if_pos rfl]
  unfold readUserinfo
  dsimp only
  rw [hHere, hSplit]

/- A settled host is read up to the query. -/
theorem readAuthority_tail
    {scheme : String}
    (hKind : SchemeKind.of scheme = .other)
    (hHost : Host.Settled host) :
    readAuthority scheme (host ++ tail query) =
      .ok ({ host := host }, tail query) := by
  have hSpecial : (SchemeKind.of scheme).isSpecial = false := by
    rw [hKind]
    rfl
  have hColon : ((tail query).head? == some ':') = false := by
    cases query with
    | nil => rfl
    | cons c rest => rfl
  unfold readAuthority
  simp only [hSpecial, readUserinfo_tail hHost.safe, hHost.ends,
    hHost.reads, hColon, Bool.false_and, Bool.and_false,
    Bool.false_eq_true, if_false, List.isEmpty_nil, Bool.and_true,
    Bool.not_true, bind, Except.bind, pure, Except.pure]
  cases query with
  | nil => rfl
  | cons c rest => rfl

/- Whatever host is read in an uncommon scheme is settled. -/
theorem settled_of_readAuthority
    {scheme : String}
    {s rest : List Char}
    {authority : Authority}
    (hKind : SchemeKind.of scheme = .other)
    (hRead : readAuthority scheme s = .ok (authority, rest)) :
    Host.Settled authority.host := by
  have hSpecial : (SchemeKind.of scheme).isSpecial = false := by
    rw [hKind]
    rfl
  unfold readAuthority at hRead
  dsimp only at hRead
  rw [bind_eq_ok_iff] at hRead
  rcases hRead with ⟨⟨user, password, after⟩, -, hRead⟩
  simp only [hSpecial, Bool.false_and, Bool.false_eq_true, if_false]
    at hRead
  rw [bind_eq_ok_iff] at hRead
  rcases hRead with ⟨host, hHost, hRead⟩
  have hSame : authority.host = host := by
    split at hRead
    · cases hRead
    · split at hRead
      · rw [bind_eq_ok_iff] at hRead
        rcases hRead with ⟨service, -, hRead⟩
        split at hRead
        · cases hRead
        · cases hRead
          rfl
      · split at hRead
        · cases hRead
        · cases hRead
          rfl
  rw [hSame]
  exact Host.settled_of_parseOpaque hHost

/- A URL is of the scheme with which it was begun. -/
theorem scheme_of_readAfterScheme
    {scheme : String}
    {s : List Char}
    {url : Url}
    (hRead : readAfterScheme scheme s = .ok url) :
    url.scheme = scheme := by
  unfold readAfterScheme at hRead
  split at hRead
  · dsimp only at hRead
    rw [bind_eq_ok_iff] at hRead
    rcases hRead with ⟨⟨authority, after⟩, -, hPlace⟩
    cases hPlace
    rfl
  · split at hRead
    · dsimp only at hRead
      split at hRead
      · rw [bind_eq_ok_iff] at hRead
        rcases hRead with ⟨⟨authority, after⟩, -, hPlace⟩
        cases hPlace
        rfl
      · cases hRead
        rfl
    · cases hRead
      rfl
  · split at hRead
    · rw [bind_eq_ok_iff] at hRead
      rcases hRead with ⟨⟨authority, after⟩, -, hPlace⟩
      cases hPlace
      rfl
    · cases hRead
      rfl
    · cases hRead
      rfl

/-
  Whatever host a URL of an uncommon scheme has is settled, and
  something is left of it.
-/
theorem settled_of_parse
    {text : String}
    {url : Url}
    (hParse : Url.parse text = .ok url)
    (hKind : SchemeKind.of url.scheme = .other)
    (hHost : url.host? = some host) :
    Host.Settled host ∧ host ≠ [] := by
  unfold Url.parse at hParse
  dsimp only at hParse
  split at hParse
  · next scheme s hScheme =>
      rw [scheme_of_readAfterScheme hParse] at hKind
      unfold readAfterScheme at hParse
      rw [hKind] at hParse
      dsimp only at hParse
      split at hParse
      · rw [bind_eq_ok_iff] at hParse
        rcases hParse with ⟨⟨authority, after⟩, hRead, hPlace⟩
        have hSettled := settled_of_readAuthority hKind hRead
        cases hPlace
        change (if _ then _ else _) = _ at hHost
        split at hHost
        · cases hHost
        · next hSome =>
            cases hHost
            exact ⟨hSettled, fun hNil => hSome (by rw [hNil]; rfl)⟩
      · cases hParse
        cases hHost
      · cases hParse
        cases hHost
  · cases hParse

end Url

end LedgerView
