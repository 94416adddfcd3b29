/-
  White space at the ends of a text.

  A character is blank when it has the Unicode property
  White_Space.  Keys, table names, page numbers, links and
  typed commands are read after their ends are trimmed.

  Key definitions include:
    * `isBlank`
    * `trimChars`
    * `trim`
    * `stripLast`
-/

namespace LedgerView.Text

------------------------------------------------------------
-- Blank Characters
------------------------------------------------------------

/- The Unicode property White_Space. -/
def isBlank
    (c : Char) : Bool :=
  let n := c.toNat
  (0x9 ≤ n && n ≤ 0xD) || n == 0x20 || n == 0x85 ||
    n == 0xA0 || n == 0x1680 ||
    (0x2000 ≤ n && n ≤ 0x200A) || n == 0x2028 ||
    n == 0x2029 || n == 0x202F || n == 0x205F ||
    n == 0x3000

------------------------------------------------------------
-- Trimming
------------------------------------------------------------

/- Drop the characters satisfying `p` from the end. -/
def dropLastWhile
    (p : Char → Bool)
    (s : List Char) : List Char :=
  (s.reverse.dropWhile p).reverse

/- Drop the characters satisfying `p` from both ends. -/
def trimWhile
    (p : Char → Bool)
    (s : List Char) : List Char :=
  dropLastWhile p (s.dropWhile p)

/- Drop the blanks at both ends. -/
def trimChars
    (s : List Char) : List Char :=
  trimWhile isBlank s

/- Drop the blanks at both ends of a string. -/
def trim
    (s : String) : String :=
  String.ofList (trimChars s.toList)

/- Drop every trailing copy of `c`. -/
def stripLast
    (c : Char)
    (s : String) : String :=
  String.ofList (dropLastWhile (· == c) s.toList)

------------------------------------------------------------
-- Splitting
------------------------------------------------------------

/-
  Split at the first character satisfying `p`, which is
  dropped.  Without one the second part is missing.
-/
def splitFirst
    (p : Char → Bool) :
    List Char → List Char × Option (List Char)
  | [] => ([], none)
  | c :: rest =>
      if p c then
        ([], some rest)
      else
        let (before, after) := splitFirst p rest
        (c :: before, after)

/-
  Split at every character satisfying `p`.  There is always
  one part more than there are separators.
-/
def splitAll
    (p : Char → Bool) :
    List Char → List (List Char)
  | [] => [[]]
  | c :: rest =>
      if p c then
        [] :: splitAll p rest
      else
        match splitAll p rest with
        | [] => [[c]]
        | part :: parts => (c :: part) :: parts

end LedgerView.Text
