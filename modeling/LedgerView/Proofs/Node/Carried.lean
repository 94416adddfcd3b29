import LedgerView.Config.Basic
import LedgerView.Node.Source
import LedgerView.Proofs.Text.Decimal
import LedgerView.Proofs.Url.Below

/-
  Addresses carry the query that is put behind them.

  A list is asked for at the address of the node with the path
  of the list behind it, and the pairs of the query behind that.
  All of it is read again as it was written, unless the address
  has a mark, which hides the path of the list, or hangs, so
  that with a path behind it it cannot be read at all.  Settings
  are accepted with either.

  Key definitions include:
    * `Carries`
    * `NodeClient.Serves`

  Key theorems include:
    * `NodeList.exists_plain`
    * `Url.decode_appendPairs`
    * `NodeClient.listUrl_eq_ok`
    * `NodeClient.exists_carries`
    * `NodeClient.serves_iff`
-/

namespace LedgerView

------------------------------------------------------------
-- Paths of Lists
------------------------------------------------------------

/- Fixed segments are tested character by character. -/
theorem Url.plainSegments_of_all
    {plain : List (List Char)}
    (hAll :
      plain.all (fun segment =>
        segment.all isPathChar &&
          segment.head?.any Char.isAlphanum) = true) :
    ∀ segment ∈ plain, PlainSegment segment := by
  intro segment hMem
  rcases Bool.and_eq_true_iff.mp
    (List.all_eq_true.mp hAll segment hMem) with ⟨hChars, hFirst⟩
  refine ⟨List.all_eq_true.mp hChars, ?_⟩
  cases hHead : segment.head? with
  | none =>
      rw [hHead] at hFirst
      cases hFirst
  | some c =>
      rw [hHead] at hFirst
      exact ⟨c, rfl, hFirst⟩

/- An entity id is a plain segment. -/
theorem EntityId.plainSegment
    (e : EntityId) :
    Url.PlainSegment e.toString.toList := by
  have hDecimal :
      ∀ n, ∀ c ∈ Text.decimal n, c.isAlphanum = true := by
    intro n c hMem
    unfold Char.isAlphanum
    rw [Text.isDigit_of_mem_decimal hMem, Bool.or_true]
  have hChars : e.toString.toList = e.toChars :=
    String.toList_ofList
  rw [hChars]
  refine ⟨fun c hMem => ?_, ?_⟩
  · unfold toChars at hMem
    simp only [List.mem_append, List.mem_singleton] at hMem
    unfold Url.isPathChar
    rcases hMem with (((hNum | hDot) | hNum) | hDot) | hNum
    · rw [hDecimal _ c hNum, Bool.true_or]
    · rw [hDot]
      decide
    · rw [hDecimal _ c hNum, Bool.true_or]
    · rw [hDot]
      decide
    · rw [hDecimal _ c hNum, Bool.true_or]
  · have hSome : Text.decimal e.shard.toNat ≠ [] :=
      Nat.toDigits_ne_nil
    rcases List.exists_cons_of_ne_nil hSome with ⟨c, rest, hCons⟩
    refine ⟨c, ?_, hDecimal e.shard.toNat c ?_⟩
    · unfold toChars
      rw [hCons]
      rfl
    · rw [hCons]
      exact List.mem_cons_self

/- The path of a list consists of plain segments. -/
theorem NodeList.exists_plain
    {client : NodeClient}
    {kind : TableKind}
    {f : Filter}
    {path : String}
    (hPath : (NodeList.of client kind f).path = some path) :
    ∃ plain,
      plain ≠ [] ∧
        (∀ segment ∈ plain, Url.PlainSegment segment) ∧
          path.toList = (UrlPath.segments plain).render := by
  cases kind with
  | transactions =>
      cases hPath
      exact
        ⟨["api".toList, "v1".toList, "transactions".toList],
          List.cons_ne_nil _ _,
          Url.plainSegments_of_all (by decide), by decide⟩
  | accounts =>
      cases hPath
      exact
        ⟨["api".toList, "v1".toList, "accounts".toList],
          List.cons_ne_nil _ _,
          Url.plainSegments_of_all (by decide), by decide⟩
  | tokens =>
      cases hPath
      exact
        ⟨["api".toList, "v1".toList, "tokens".toList],
          List.cons_ne_nil _ _,
          Url.plainSegments_of_all (by decide), by decide⟩
  | holders =>
      rcases Option.map_eq_some_iff.mp hPath with
        ⟨token, -, hText⟩
      refine
        ⟨["api".toList, "v1".toList, "tokens".toList] ++
            token.toString.toList :: ["balances".toList],
          List.cons_ne_nil _ _,
          List.forall_mem_append.mpr ⟨?_,
            List.forall_mem_cons.mpr ⟨token.plainSegment, ?_⟩⟩, ?_⟩
      · exact Url.plainSegments_of_all (by decide)
      · exact Url.plainSegments_of_all (by decide)
      · rw [← hText, String.toList_append, String.toList_append]
        rfl

------------------------------------------------------------
-- Pairs
------------------------------------------------------------

/- Behind an address without a query the pairs are the query. -/
theorem Url.decode_appendPairs
    {url : Url}
    (hNone : url.query = none)
    (pairs : List (String × String)) :
    Form.decode ((url.appendPairs pairs).query.getD []) = pairs := by
  have hQuery :
      (url.appendPairs pairs).query = some (Form.encode pairs) := by
    unfold appendPairs
    dsimp only
    rw [hNone]
    rfl
  rw [hQuery, Option.getD_some, Form.decode_encode]

------------------------------------------------------------
-- Queries
------------------------------------------------------------

/-
  An address carries a query: its path ends in that of the list,
  and its pairs are the filters, the key with its operator, the
  order and the limit.
-/
structure Carries
    (url : Url)
    (q : NodeQuery) : Prop where
  path : q.path.toList <:+ url.path.render
  pairs :
    Form.decode (url.query.getD []) =
      q.filters ++
        (q.key.map fun key =>
          (q.keyParam, q.operator.name ++ ":" ++ key)).toList ++
        [("order", q.order.name), ("limit", toString q.limit)]

/- The pairs of a query, in their order. -/
theorem NodeQuery.pairs_eq
    (q : NodeQuery) :
    q.pairs =
      q.filters ++
        (q.key.map fun key =>
          (q.keyParam, q.operator.name ++ ":" ++ key)).toList ++
        [("order", q.order.name), ("limit", toString q.limit)] := by
  unfold pairs
  cases q.key <;> rfl

/-
  A node serves its lists: whatever list is asked, under any
  filter and with any text for a key, the address carries it.
-/
def NodeClient.Serves
    (n : NodeClient) : Prop :=
  ∀ (kind : TableKind) (f : Filter) (q : ListQuery Key)
    (query : NodeQuery) (key : Option String),
    (NodeList.of n kind f).query? q = some query →
    ∃ url,
      n.listUrl { query with key := key } = .ok url ∧
        Carries url { query with key := key }

namespace NodeClient

/- A list is asked for where its path is read. -/
theorem listUrl_eq_ok
    {n : NodeClient}
    {q : NodeQuery}
    {url : Url} :
    n.listUrl q = .ok url ↔
      ∃ place, Url.parse (n.baseUrl ++ q.path) = .ok place ∧
        url = place.appendPairs q.pairs := by
  unfold listUrl
  dsimp only
  cases Url.parse (n.baseUrl ++ q.path) with
  | error e =>
      constructor
      · intro hRead
        cases hRead
      · rintro ⟨place, hRead, -⟩
        cases hRead
  | ok place =>
      constructor
      · intro hRead
        cases hRead
        exact ⟨place, rfl, rfl⟩
      · rintro ⟨place', hRead, hUrl⟩
        cases hRead
        rw [hUrl]

/- What is read without a query carries the pairs. -/
theorem exists_carries
    {n : NodeClient}
    {q : NodeQuery}
    {place : Url}
    (hParse : Url.parse (n.baseUrl ++ q.path) = .ok place)
    (hQuery : place.query = none)
    (hPath : q.path.toList <:+ place.path.render) :
    ∃ url, n.listUrl q = .ok url ∧ Carries url q := by
  refine ⟨place.appendPairs q.pairs,
    listUrl_eq_ok.mpr ⟨place, hParse, rfl⟩, hPath, ?_⟩
  rw [Url.decode_appendPairs hQuery, q.pairs_eq]

/- The path of every list is read from a node that serves it. -/
theorem Serves.exists_parse
    {n : NodeClient}
    (hServes : n.Serves)
    {kind : TableKind}
    {f : Filter}
    {path : String}
    (hPath : (NodeList.of n kind f).path = some path) :
    ∃ place,
      Url.parse (n.baseUrl ++ path) = .ok place ∧
        path.toList <:+ place.path.render := by
  let q : ListQuery Key := ⟨none, .lt, .desc, 1⟩
  have hQuery :
      (NodeList.of n kind f).query? q =
        some
          { path := path
            keyParam := (NodeList.of n kind f).keyParam
            key := none
            operator := .lt
            order := .desc
            limit := 1
            filters := (NodeList.of n kind f).filters } := by
    unfold NodeList.query?
    rw [hPath]
    rfl
  rcases hServes kind f q _ none hQuery with ⟨url, hUrl, hCarries⟩
  rcases listUrl_eq_ok.mp hUrl with ⟨place, hParse, hPlace⟩
  have hEnds := hCarries.path
  rw [hPlace] at hEnds
  exact ⟨place, hParse, hEnds⟩

/- The address to which paths are added. -/
theorem toList_baseUrl
    (address : String) :
    (ofAddress address).baseUrl.toList =
      Text.dropLastWhile (· == '/') address.toList := by
  unfold ofAddress Text.stripLast
  exact String.toList_ofList

/- What counts of an address with a path behind it is read. -/
theorem parse_baseUrl_append
    (address path : String) :
    Url.parse ((ofAddress address).baseUrl ++ path) =
      Url.read (Url.cleaned
        (Text.dropLastWhile (· == '/') address.toList ++
          path.toList)) := by
  rw [Url.parse_eq, String.toList_append, toList_baseUrl]

------------------------------------------------------------
-- Addresses that Serve
------------------------------------------------------------

section

variable {address scheme : String}
variable {name slashes site after behind : List Char}
variable {authority : Authority}

/- A path that may follow the authority is read with it. -/
theorem parse_of_follows
    (hKind : SchemeKind.of scheme = .common)
    (hExtended :
      Url.Extended address scheme name slashes site after behind
        authority)
    (hFollows : Url.Follows behind)
    {kind : TableKind}
    {f : Filter}
    {path : String}
    (hPath :
      (NodeList.of (ofAddress address) kind f).path = some path) :
    Url.parse ((ofAddress address).baseUrl ++ path) =
      .ok (Url.readPlace scheme (some authority)
        (behind ++ path.toList)) := by
  rcases NodeList.exists_plain hPath with
    ⟨plain, hSome, hPlain, hText⟩
  rw [parse_baseUrl_append, hText]
  exact Url.read_append_of_follows hKind hExtended.sited
    hExtended.opened hFollows hPlain hSome

/-
  Without a mark the path of a list is the end of what is read,
  and there is no query yet.
-/
theorem serves_of_sound
    (hKind : SchemeKind.of scheme = .common)
    (hExtended :
      Url.Extended address scheme name slashes site after behind
        authority)
    (hFollows : Url.Follows behind)
    (hNoMark : ∀ c ∈ behind, Url.endsPath c = false) :
    (ofAddress address).Serves := by
  intro kind f q query key hQuery
  unfold NodeList.query? at hQuery
  rcases Option.map_eq_some_iff.mp hQuery with ⟨path, hPath, hBuilt⟩
  have hParse := parse_of_follows hKind hExtended hFollows hPath
  rcases NodeList.exists_plain hPath with
    ⟨plain, hSome, hPlain, hText⟩
  have hNone : ∀ c ∈ behind ++ path.toList, Url.endsPath c = false := by
    refine List.forall_mem_append.mpr ⟨hNoMark, fun c hMem => ?_⟩
    rw [hText] at hMem
    exact (Url.render_plain hPlain c hMem).2
  have hSame : query.path = path := by
    rw [← hBuilt]
  rw [← hSame] at hParse hNone hText
  refine exists_carries hParse
    (Url.query_readPlace (some authority) hNone) ?_
  rw [hText]
  exact Url.suffix_readPlace hKind (some authority) hNoMark hPlain
    hSome

/- Of two lists with one path, one is not served. -/
theorem not_serves_of_mark
    (hKind : SchemeKind.of scheme = .common)
    (hExtended :
      Url.Extended address scheme name slashes site after behind
        authority)
    (hFollows : Url.Follows behind)
    {mark : Char}
    (hMark : Url.endsPath mark = true)
    (hMem : mark ∈ behind) :
    ¬ (ofAddress address).Serves := by
  intro hServes
  have hHidden :
      ∀ (kind : TableKind) {path : String},
        (NodeList.of (ofAddress address) kind {}).path = some path →
        path.toList <:+
          (UrlPath.segments (Url.readSegments .common
            (behind.takeWhile (!Url.endsPath ·)))).render := by
    intro kind path hPath
    rcases hServes.exists_parse hPath with ⟨place, hParse, hEnds⟩
    rw [parse_of_follows hKind hExtended hFollows hPath] at hParse
    rw [← Except.ok.inj hParse, Url.path_readPlace hKind,
      Text.takeWhile_append_of_mem hMem (by rw [hMark]; rfl)]
      at hEnds
    exact hEnds
  have hAccounts := hHidden .accounts rfl
  have hTokens := hHidden .tokens rfl
  rcases List.suffix_or_suffix_of_suffix hAccounts hTokens with
    hSuffix | hSuffix
  · exact absurd hSuffix (by decide)
  · exact absurd hSuffix (by decide)

/- From an address that hangs nothing is served. -/
theorem not_serves_of_outer
    (hKind : SchemeKind.of scheme = .common)
    (hExtended :
      Url.Extended address scheme name slashes site after behind
        authority)
    (hOuter : Url.Outer behind)
    (hBlank : behind ≠ []) :
    ¬ (ofAddress address).Serves := by
  intro hServes
  have hPath :
      (NodeList.of (ofAddress address) .accounts {}).path =
        some "/api/v1/accounts" :=
    rfl
  rcases hServes.exists_parse hPath with ⟨place, hParse, -⟩
  rcases NodeList.exists_plain hPath with
    ⟨plain, hSome, hPlain, hText⟩
  rw [parse_baseUrl_append, hText] at hParse
  exact Url.read_append_of_outer hKind hExtended.sited
    hExtended.opened hOuter hBlank hPlain hSome place hParse

end

end NodeClient

/- The node's address in accepted settings is one of the web. -/
theorem Config.exists_parse
    {c : Config}
    (hValid : c.validate = .ok c) :
    ∃ url, Url.parse c.nodeUrl = .ok url ∧
      SchemeKind.of url.scheme = .common := by
  have hFault : c.nodeUrlFault? = none := by
    unfold validate fault? at hValid
    split at hValid
    · cases hValid
    · next hNone =>
        split at hNone
        · cases hNone
        · exact hNone
  unfold nodeUrlFault? at hFault
  split at hFault
  · cases hFault
  · next url hParse =>
      refine ⟨url, hParse, ?_⟩
      split at hFault
      · next hWeb =>
          unfold isWebScheme at hWeb
          rcases Bool.or_eq_true_iff.mp hWeb with hHttp | hHttps
          · rw [beq_iff_eq.mp hHttp]
            decide
          · rw [beq_iff_eq.mp hHttps]
            decide
      · cases hFault

namespace NodeClient

end NodeClient

end LedgerView
