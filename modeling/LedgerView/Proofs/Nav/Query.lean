import LedgerView.Proofs.Nav.Params
import LedgerView.Proofs.Text.Decimal
import LedgerView.Proofs.Url.Form

/-
  Parameters are read as they were written.

  Their names ascend, so pairs that are put in place one by one
  stand in the order in which they came.  A query holds no
  character that is dropped on reading.

  Key theorems include:
    * `Params.ofPairs_pairs`
    * `Params.parse_toQueryString`
    * `parsePage_toString`
    * `NavState.readOrEmpty_write`
-/

namespace LedgerView

------------------------------------------------------------
-- Sorted Pairs
------------------------------------------------------------

/- A pair whose name comes after all others is put last. -/
theorem insertParam_concat
    {name : String}
    (value : String)
    {pairs : List Param}
    (hLast : ∀ p ∈ pairs, p.1 < name) :
    insertParam name value pairs = pairs ++ [(name, value)] := by
  induction pairs with
  | nil => rfl
  | cons p rest ih =>
      rcases List.forall_mem_cons.mp hLast with ⟨hHead, hRest⟩
      have hNotLess : ¬name < p.1 := String.lt_asymm hHead
      have hNotSame : name ≠ p.1 := by
        intro hSame
        rw [hSame] at hHead
        exact String.lt_irrefl _ hHead
      unfold insertParam
      rw [if_neg hNotLess, if_neg hNotSame, ih hRest]
      rfl

namespace Params

/- Pairs that come in order stay in order. -/
theorem pairs_foldl_insert
    (p : Params)
    {more : List Param}
    (hAscend : NamesAscend (p.pairs ++ more)) :
    (more.foldl (fun p pair => p.insert pair.1 pair.2) p).pairs =
      p.pairs ++ more := by
  induction more generalizing p with
  | nil => simp
  | cons pair rest ih =>
      have hLast : ∀ q ∈ p.pairs, q.1 < pair.1 := by
        intro q hMem
        exact (List.pairwise_append.mp hAscend).2.2 q hMem pair
          List.mem_cons_self
      have hInsert :
          (p.insert pair.1 pair.2).pairs = p.pairs ++ [pair] :=
        insertParam_concat pair.2 hLast
      have hSplit :
          p.pairs ++ pair :: rest =
            (p.insert pair.1 pair.2).pairs ++ rest := by
        rw [hInsert, List.append_assoc]
        rfl
      rw [hSplit] at hAscend
      rw [List.foldl_cons, ih _ hAscend, ← hSplit]

/- Parameters are the map of their own pairs. -/
theorem ofPairs_pairs
    (p : Params) :
    ofPairs p.pairs = p := by
  have hPairs : (ofPairs p.pairs).pairs = p.pairs :=
    pairs_foldl_insert empty p.ascend
  cases hMap : ofPairs p.pairs with
  | mk pairs ascend =>
      rw [hMap] at hPairs
      cases p
      cases hPairs
      rfl

------------------------------------------------------------
-- Queries
------------------------------------------------------------

/- Nothing of a query is dropped on reading. -/
theorem queryText_encode
    (pairs : List Param) :
    queryText (String.ofList (Form.encode pairs)) =
      Form.encode pairs := by
  have hMarks := Form.isMark_of_mem_encode pairs
  have hBlank : ∀ c ∈ Form.encode pairs, Text.isBlank c = false :=
    Form.eq_false_of_isMark (by decide) hMarks
  have hMark : ∀ c ∈ Form.encode pairs, (c == '?') = false :=
    Form.eq_false_of_isMark (by decide) hMarks
  have hLine : ∀ c ∈ Form.encode pairs, isLineMark c = false :=
    Form.eq_false_of_isMark (by decide) hMarks
  have hTrim :
      Text.trimChars (Form.encode pairs) = Form.encode pairs :=
    Text.trimWhile_eq_self hBlank
  unfold queryText
  dsimp only
  rw [String.toList_ofList, hTrim, Text.dropWhile_eq_self hMark,
    List.filter_eq_self]
  intro c hMem
  rw [hLine c hMem]
  rfl

/- Parameters are read from the query in which they are written. -/
@[simp]
theorem parse_toQueryString
    (p : Params) :
    parse p.toQueryString = p := by
  unfold parse toQueryString
  rw [queryText_encode, Form.decode_encode, ofPairs_pairs]

end Params

------------------------------------------------------------
-- Page Numbers
------------------------------------------------------------

/- Around the digits of a number there are no blanks. -/
theorem trimChars_decimal
    (n : Nat) :
    Text.trimChars (Text.decimal n) = Text.decimal n :=
  Text.trimWhile_eq_self fun _ hMem =>
    Text.isBlank_of_isDigit (Text.isDigit_of_mem_decimal hMem)

/- The number of a page is read as it was written. -/
theorem parsePage_toString
    {page : Nat}
    (hFirst : 1 ≤ page)
    (hLast : page ≤ maxPage) :
    parsePage (toString page) = .ok page := by
  have hWord : page < 2 ^ 64 :=
    Nat.lt_of_le_of_lt hLast (by decide)
  unfold parsePage
  rw [Text.toList_toString, trimChars_decimal,
    Text.natural?_decimal hWord]
  exact if_pos ⟨hFirst, hLast⟩

/- No other number is read. -/
theorem eq_of_parsePage
    {page n : Nat}
    (hRead : parsePage (toString n) = .ok page) :
    page = n := by
  unfold parsePage at hRead
  rw [Text.toList_toString, trimChars_decimal] at hRead
  split at hRead
  · next value hValue =>
      have hSame : value = page := by
        split at hRead <;> injections
      rcases (Text.natural?_eq_some_iff.mp hValue).2 with
        hDigits | ⟨rest, hPlus, -⟩
      · rw [← hSame, ← hDigits.value]
        exact (Text.digits_decimal n).value
      · have hDigit : '+'.isDigit = true := by
          refine Text.isDigit_of_mem_decimal (n := n) ?_
          rw [hPlus]
          exact List.mem_cons_self
        exact absurd hDigit (by decide)
  · cases hRead

------------------------------------------------------------
-- Recorded Places
------------------------------------------------------------

namespace NavState

variable {names : NavNames} {page : Nat} {key : String}

/- What is read of a number and a key. -/
theorem readOrEmpty_of_get?
    {store : Params}
    (hPage : store.get? names.page = some (toString page))
    (hKey : store.get? names.key = some key)
    (hFirst : 1 ≤ page)
    (hLast : page ≤ maxPage)
    (hSome : key ≠ "") :
    readOrEmpty store names = ⟨some page, some key⟩ := by
  have hText : key.isEmpty = false :=
    Bool.eq_false_iff.mpr fun hNone =>
      hSome (String.isEmpty_iff.mp hNone)
  have hRead : read store names = .ok ⟨some page, some key⟩ := by
    unfold read
    rw [hPage, hKey]
    simp only [Option.mapM_some, parsePage_toString hFirst hLast,
      Option.filter_some, hText, Bool.not_false, if_true]
    rfl
  unfold readOrEmpty
  rw [hRead]

/- What was read of a number that was written. -/
theorem page_of_readOrEmpty
    {store : Params}
    {n : Nat}
    (hGet : store.get? names.page = some (toString n))
    (hPage : (readOrEmpty store names).page = some page) :
    page = n := by
  unfold readOrEmpty read at hPage
  rw [hGet, Option.mapM_some] at hPage
  cases hRead : parsePage (toString n) with
  | ok value =>
      rw [hRead] at hPage
      cases hPage
      exact eq_of_parsePage hRead
  | error e =>
      rw [hRead] at hPage
      cases hPage

/- A key was read as it stands there. -/
theorem key_of_readOrEmpty
    {store : Params}
    (hKey : (readOrEmpty store names).key = some key) :
    store.get? names.key = some key := by
  unfold readOrEmpty read at hKey
  cases hRead : (store.get? names.page).mapM parsePage with
  | ok value =>
      rw [hRead] at hKey
      exact (Option.filter_eq_some_iff.mp hKey).1
  | error e =>
      rw [hRead] at hKey
      cases hKey

/- A place is read as it was written under two names. -/
theorem readOrEmpty_write
    (store : Params)
    (hNames : names.Distinct)
    (hFirst : 1 ≤ page)
    (hLast : page ≤ maxPage)
    (hSome : key ≠ "") :
    readOrEmpty
        ((⟨some page, some key⟩ : NavState).write store names)
        names =
      ⟨some page, some key⟩ :=
  readOrEmpty_of_get? (get?_write_page _ _ hNames)
    (get?_write_key _ _ _) hFirst hLast hSome

/-
  Under one name the key is written over the number of the page,
  and a key that is a number is read for it.
-/
theorem readOrEmpty_write_same
    (place : NavState)
    (store : Params)
    (hSame : names.page = names.key)
    (hKey : place.key = some (toString page))
    (hFirst : 1 ≤ page)
    (hLast : page ≤ maxPage) :
    readOrEmpty (place.write store names) names =
      ⟨some page, some (toString page)⟩ := by
  have hRead :
      (place.write store names).get? names.key =
        some (toString page) := by
    rw [get?_write_key, hKey]
  have hPage :
      (place.write store names).get? names.page =
        some (toString page) := by
    rw [hSame, hRead]
  exact
    readOrEmpty_of_get? hPage hRead hFirst hLast
      (Text.toString_ne_empty page)

end NavState

end LedgerView
