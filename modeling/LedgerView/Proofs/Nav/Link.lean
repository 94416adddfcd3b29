import LedgerView.Nav.Link
import LedgerView.Proofs.Nav.Query
import LedgerView.Proofs.Url.Host
import LedgerView.Table.Kind

/-
  Links are read as they were written.

  A link to a table is a URL whose host is the table's name.
  The name is a host that is read as it stands, and the query
  holds only characters in which queries are written, so nothing
  is cut off, split or encoded on reading.  Whatever host a link
  was read with is such a name.

  Key definitions include:
    * `Url.front`

  Key theorems include:
    * `Url.query_readPlace_tail`
    * `Url.parse_link`
    * `Link.parse_toString_of_settled`
    * `Link.parse_toString`
    * `Link.settled_of_parse`
    * `Link.reads_as_written`
-/

namespace LedgerView

namespace Url

variable {name query : List Char}

/- The scheme of links is an uncommon one. -/
theorem kind_linkScheme :
    SchemeKind.of linkScheme = .other := by
  decide

------------------------------------------------------------
-- Queries
------------------------------------------------------------

/- After the host follows nothing but the query. -/
theorem query_readPlace_tail
    (authority : Option Authority)
    (hQuery : ∀ c ∈ query, Form.isMark c = true) :
    (readPlace linkScheme authority (tail query)).query.getD [] =
      query := by
  cases query with
  | nil => rfl
  | cons c rest =>
      have hHash : ∀ d ∈ c :: rest, (d == '#') = false :=
        Form.eq_false_of_isMark (by decide) hQuery
      have hSplit :
          Text.splitFirst (· == '#') (tail (c :: rest)) =
            ('?' :: c :: rest, none) :=
        Text.splitFirst_eq_self
          (List.forall_mem_cons.mpr ⟨by decide, hHash⟩)
      have hSame :
          Percent.encode (Percent.inQuery false) (c :: rest) =
            c :: rest :=
        Percent.encode_eq_self
          (Form.eq_false_of_isMark (by decide) hQuery)
      show (assemble linkScheme authority (.segments [])
        (tail (c :: rest))).query.getD [] = _
      unfold assemble
      rw [hSplit, kind_linkScheme]
      exact hSame

------------------------------------------------------------
-- Whole Links
------------------------------------------------------------

/- What a link begins with. -/
def front : List Char :=
  linkScheme.toList ++ [':', '/', '/']

/- A set without the characters of links is missed by them. -/
theorem eq_false_of_mem_link
    {p : Char → Bool}
    (hFront : ('?' :: front).all (fun c => !p c) = true)
    (hNone :
      ∀ n < 128, Host.isSafe (Char.ofNat n) = true →
        p (Char.ofNat n) = false)
    (hName : ∀ c ∈ name, Host.isSafe c = true)
    (hQuery : ∀ c ∈ query, Form.isMark c = true) :
    ∀ c ∈ front ++ (name ++ tail query), p c = false := by
  rcases List.forall_mem_cons.mp (Text.eq_false_of_all hFront) with
    ⟨hMark, hFront⟩
  have hTail : ∀ c ∈ tail query, p c = false := by
    cases query with
    | nil => exact fun c hMem => nomatch hMem
    | cons c rest =>
        exact List.forall_mem_cons.mpr
          ⟨hMark,
            Host.eq_false_of_isSafe hNone
              (Host.isSafe_of_isMark hQuery)⟩
  exact List.forall_mem_append.mpr
    ⟨hFront, List.forall_mem_append.mpr
      ⟨Host.eq_false_of_isSafe hNone hName, hTail⟩⟩

/- The URL that is read from a link. -/
theorem parse_link
    (hName : Host.Settled name)
    (hQuery : ∀ c ∈ query, Form.isMark c = true) :
    Url.parse (String.ofList (front ++ (name ++ tail query))) =
      .ok (readPlace linkScheme (some { host := name })
        (tail query)) := by
  have hOuter :
      ∀ c ∈ front ++ (name ++ tail query),
        decide (c.toNat ≤ 0x20) = false :=
    eq_false_of_mem_link (by decide) (by decide) hName.safe hQuery
  have hLine :
      ∀ c ∈ front ++ (name ++ tail query),
        (c == '\t' || c == '\n' || c == '\r') = false :=
    eq_false_of_mem_link (by decide) (by decide) hName.safe hQuery
  have hScheme :
      readScheme? (front ++ (name ++ tail query)) =
        some (linkScheme, '/' :: '/' :: (name ++ tail query)) := by
    have hSplit :
        Text.splitFirst (· == ':')
            (linkScheme.toList ++
              ':' :: '/' :: '/' :: (name ++ tail query)) =
          (linkScheme.toList,
            some ('/' :: '/' :: (name ++ tail query))) :=
      Text.splitFirst_append (Text.eq_false_of_all (by decide)) rfl
    have hFront :
        front ++ (name ++ tail query) =
          linkScheme.toList ++
            ':' :: '/' :: '/' :: (name ++ tail query) := by
      unfold front
      rw [List.append_assoc]
      rfl
    unfold readScheme?
    rw [hFront, hSplit]
    rfl
  have hFilter :
      (front ++ (name ++ tail query)).filter
          (fun c => !(c == '\t' || c == '\n' || c == '\r')) =
        front ++ (name ++ tail query) :=
    List.filter_eq_self.mpr fun c hMem => by rw [hLine c hMem]; rfl
  unfold Url.parse
  dsimp only
  rw [String.toList_ofList, Text.trimWhile_eq_self hOuter, hFilter,
    hScheme]
  dsimp only
  unfold readAfterScheme
  rw [kind_linkScheme]
  simp only [readAuthority_tail kind_linkScheme hName, bind,
    Except.bind, pure, Except.pure]

end Url

namespace Link

/- What is written of a link. -/
theorem toList_toString
    (l : Link) :
    l.toString.toList =
      Url.front ++
        (l.table.toList ++ Url.tail (Form.encode l.query.pairs)) := by
  have hFront : (linkScheme ++ "://").toList = Url.front := by
    decide
  unfold Link.toString Params.toQueryString
  dsimp only
  cases hQuery : Form.encode l.query.pairs with
  | nil =>
      have hNone : (String.ofList []).isEmpty = true := rfl
      rw [if_pos hNone, String.toList_append, hFront]
      exact congrArg (Url.front ++ ·) (List.append_nil _).symm
  | cons c rest =>
      have hSome : (String.ofList (c :: rest)).isEmpty ≠ true := by
        intro hEmpty
        have hText := String.isEmpty_iff.mp hEmpty
        simp at hText
      rw [if_neg hSome, String.toList_append, String.toList_append,
        String.toList_append, hFront, String.toList_ofList,
        List.append_assoc, List.append_assoc, String.toList_ofList]
      rfl

/- What is read of a URL that is a link. -/
theorem parse_of_url
    {text : String}
    {url : Url}
    {host : List Char}
    (hUrl : Url.parse (Text.trim text) = .ok url)
    (hScheme : url.scheme = linkScheme)
    (hHost : url.host? = some host) :
    Link.parse text =
      .ok
        { table := String.ofList host
          query := .parse (String.ofList (url.query.getD [])) } := by
  unfold Link.parse
  simp only [hUrl, hScheme, hHost, bne_self_eq_false,
    Bool.false_eq_true, if_false]

/- A link to a settled host is read as it was written. -/
theorem parse_toString_of_settled
    {l : Link}
    (hName : Host.Settled l.table.toList)
    (hSome : l.table.toList ≠ []) :
    Link.parse l.toString = .ok l := by
  have hQuery := Form.isMark_of_mem_encode l.query.pairs
  let rest := Url.tail (Form.encode l.query.pairs)
  have hBlank :
      ∀ c ∈ Url.front ++ (l.table.toList ++ rest),
        Text.isBlank c = false :=
    Url.eq_false_of_mem_link (by decide) (by decide) hName.safe
      hQuery
  have hText :
      Text.trim l.toString =
        String.ofList (Url.front ++ (l.table.toList ++ rest)) := by
    unfold Text.trim Text.trimChars
    rw [toList_toString, Text.trimWhile_eq_self hBlank]
  have hUrl := Url.parse_link hName hQuery
  rw [← hText] at hUrl
  have hHost :
      (Url.readPlace linkScheme (some { host := l.table.toList })
        rest).host? = some l.table.toList :=
    if_neg fun hEmpty => hSome (List.isEmpty_iff.mp hEmpty)
  rw [parse_of_url hUrl rfl hHost,
    Url.query_readPlace_tail _ hQuery, String.ofList_toList]
  have hAgain :
      Params.parse (String.ofList (Form.encode l.query.pairs)) =
        l.query :=
    l.query.parse_toQueryString
  rw [hAgain]

/- A link to a table is read as it was written. -/
theorem parse_toString
    (kind : TableKind)
    (query : Params) :
    Link.parse (Link.toString ⟨kind.name, query⟩) =
      .ok ⟨kind.name, query⟩ := by
  have hOwn : ∀ c ∈ kind.name.toList, Host.isOwn c = true := by
    refine List.all_eq_true.mp ?_
    cases kind <;> decide
  have hSome : kind.name.toList ≠ [] := by
    cases kind <;> decide
  exact
    parse_toString_of_settled (l := ⟨kind.name, query⟩)
      (Host.settled_of_isOwn hOwn) hSome

/- Whatever a link was read to lead to is a settled host. -/
theorem settled_of_parse
    {text : String}
    {l : Link}
    (hParse : Link.parse text = .ok l) :
    Host.Settled l.table.toList ∧ l.table.toList ≠ [] := by
  unfold Link.parse at hParse
  dsimp only at hParse
  split at hParse
  · cases hParse
  · next url hUrl =>
      split at hParse
      · cases hParse
      · next hScheme =>
          split at hParse
          · cases hParse
          · next host hHost =>
              have hSame : url.scheme = linkScheme := by
                simpa using hScheme
              have hKind : SchemeKind.of url.scheme = .other := by
                rw [hSame]
                exact Url.kind_linkScheme
              cases hParse
              rw [String.toList_ofList]
              exact Url.settled_of_parse hUrl hKind hHost

/-
  Parameters and links are read as they were written, and a
  link that was read is written as a text that reads as the
  same link, whatever else stood in the URL.
-/
theorem reads_as_written :
    (∀ query : Params,
      Params.parse query.toQueryString = query) ∧
      (∀ (kind : TableKind) (query : Params),
        Link.parse (Link.toString ⟨kind.name, query⟩) =
          .ok ⟨kind.name, query⟩) ∧
      ∀ (text : String) (l : Link),
        Link.parse text = .ok l →
          Link.parse l.toString = .ok l := by
  refine ⟨Params.parse_toQueryString, parse_toString, ?_⟩
  intro text l hParse
  rcases settled_of_parse hParse with ⟨hName, hSome⟩
  exact parse_toString_of_settled hName hSome

/- A link with a user, an address, a port, a path and an end. -/
def roundabout : String :=
  " LedgerScope://ann@[2001:DB8:0:0::1]:80/x?size=5&q=a+b%26#y"

/- What counts of it is kept, in lower case and in order. -/
theorem reads_as_written_roundabout :
    ∃ l : Link,
      Link.parse roundabout = .ok l ∧
        l.toString =
          "ledgerscope://[2001:db8::1]?q=a+b%26&size=5" ∧
        Link.parse l.toString = .ok l := by
  let l : Link :=
    { table := "[2001:db8::1]"
      query := .parse "q=a+b%26&size=5" }
  have hParse : Link.parse roundabout = .ok l := by
    decide +kernel
  refine ⟨l, hParse, by decide +kernel, ?_⟩
  exact reads_as_written.2.2 roundabout l hParse

end Link

end LedgerView
