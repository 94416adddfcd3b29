import LedgerView.Text.Blank
import LedgerView.Url.Form

/-
  Parameters of navigation.

  A finite map from names to values that travels as a query.
  Names are kept in ascending order, so that equal maps have the
  same text.  When a query names a parameter twice, the last
  value counts.

  Key definitions include:
    * `Params`
    * `Params.get?`
    * `Params.set`
    * `Params.parse`
    * `Params.toQueryString`
-/

namespace LedgerView

------------------------------------------------------------
-- Sorted Pairs
------------------------------------------------------------

/- A name with its value. -/
abbrev Param := String × String

/- Whether names ascend strictly. -/
def NamesAscend
    (pairs : List Param) : Prop :=
  pairs.Pairwise fun a b => a.1 < b.1

/- Put a pair at its place, replacing one of the same name. -/
def insertParam
    (name value : String) :
    List Param → List Param
  | [] => [(name, value)]
  | p :: rest =>
      if name < p.1 then
        (name, value) :: p :: rest
      else if name = p.1 then
        (name, value) :: rest
      else
        p :: insertParam name value rest

/- An inserted pair is new or was there. -/
theorem mem_insertParam
    {name value : String}
    {pairs : List Param}
    {q : Param}
    (h : q ∈ insertParam name value pairs) :
    q.1 = name ∨ q ∈ pairs := by
  induction pairs with
  | nil =>
      simp only [insertParam, List.mem_singleton] at h
      simp [h]
  | cons p rest ih =>
      simp only [insertParam] at h
      split at h
      · rcases List.mem_cons.1 h with h | h
        · simp [h]
        · exact Or.inr h
      · split at h
        · rcases List.mem_cons.1 h with h | h
          · simp [h]
          · exact Or.inr (List.mem_cons_of_mem _ h)
        · rcases List.mem_cons.1 h with h | h
          · exact Or.inr (by simp [h])
          · rcases ih h with h | h
            · exact Or.inl h
            · exact Or.inr (List.mem_cons_of_mem _ h)

/- Insertion keeps the order. -/
theorem namesAscend_insertParam
    (name value : String)
    {pairs : List Param}
    (h : NamesAscend pairs) :
    NamesAscend (insertParam name value pairs) := by
  induction pairs with
  | nil => simp [insertParam, NamesAscend]
  | cons p rest ih =>
      have hTail := List.pairwise_cons.1 h
      simp only [insertParam]
      split
      · rename_i hLess
        refine List.pairwise_cons.2 ⟨?_, h⟩
        intro q hq
        rcases List.mem_cons.1 hq with hq | hq
        · simpa [hq] using hLess
        · exact String.lt_trans hLess (hTail.1 q hq)
      · split
        · rename_i hEqual
          refine List.pairwise_cons.2 ⟨?_, hTail.2⟩
          intro q hq
          simpa [hEqual] using hTail.1 q hq
        · rename_i hNotLess hNotEqual
          refine List.pairwise_cons.2 ⟨?_, ih hTail.2⟩
          intro q hq
          rcases mem_insertParam hq with hq | hq
          · rw [hq]
            exact Std.lt_of_le_of_ne
              (String.not_lt.1 hNotLess)
              (Ne.symm hNotEqual)
          · exact hTail.1 q hq

------------------------------------------------------------
-- Parameters
------------------------------------------------------------

/- A finite map from names to values. -/
structure Params where
  pairs : List Param
  ascend : NamesAscend pairs
deriving DecidableEq

namespace Params

/- No parameters. -/
def empty : Params :=
  ⟨[], List.Pairwise.nil⟩

instance : Inhabited Params :=
  ⟨empty⟩

/- Whether there are no parameters. -/
def isEmpty
    (p : Params) : Bool :=
  p.pairs.isEmpty

/- The value of a parameter. -/
def get?
    (p : Params)
    (name : String) : Option String :=
  p.pairs.lookup name

/- Give a parameter a value. -/
def insert
    (p : Params)
    (name value : String) : Params :=
  ⟨insertParam name value p.pairs,
    namesAscend_insertParam name value p.ascend⟩

/- Drop a parameter. -/
def erase
    (p : Params)
    (name : String) : Params :=
  ⟨p.pairs.filter (·.1 != name), p.ascend.filter _⟩

/- Give a parameter a value, or drop it. -/
def set
    (p : Params)
    (name : String)
    (value : Option String) : Params :=
  match value with
  | some value => p.insert name value
  | none => p.erase name

/- The map of a list of pairs; the last of a name counts. -/
def ofPairs
    (pairs : List Param) : Params :=
  pairs.foldl (fun p pair => p.insert pair.1 pair.2) empty

------------------------------------------------------------
-- Queries
------------------------------------------------------------

/- Characters that are dropped wherever they stand. -/
def isLineMark
    (c : Char) : Bool :=
  c == '\t' || c == '\n' || c == '\r'

/- The text of a query without what may surround it. -/
def queryText
    (text : String) : List Char :=
  let trimmed := Text.trimChars text.toList
  (trimmed.dropWhile (· == '?')).filter (!isLineMark ·)

/- Read a query, with or without its question mark. -/
def parse
    (text : String) : Params :=
  ofPairs (Form.decode (queryText text))

/- Write the parameters as a query. -/
def toQueryString
    (p : Params) : String :=
  String.ofList (Form.encode p.pairs)

end Params

end LedgerView
