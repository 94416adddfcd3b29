import Mathlib.Data.Nat.Basic
import LedgerView.Proofs.Buffer.Operation
import LedgerView.Proofs.Window.Count

/-
  Window arithmetic that is checked.

  On machine words a sum or a product may overflow, a difference
  may fall below zero, and a divisor may be zero.  Each of these
  is checked here wherever a window is computed without one of
  the operations that stop at the greatest or the least word.  A
  window whose rows can be counted, changed by rows that an edit
  suits, fails no check.

  Key definitions include:
    * `checkedAdd`
    * `checkedSub`
    * `checkedMul`
    * `checkedDiv`
    * `Window.clampStart?`
    * `Edit.applied?`
    * `Window.Countable`
    * `Edit.Suits`

  Key theorems include:
    * `checkedBounds?_eq`
    * `Window.clampStart?_eq`
    * `Edit.applied?_eq`
    * `Edit.countable_apply`
-/

namespace LedgerView

------------------------------------------------------------
-- Checked Operations
------------------------------------------------------------

/- A sum, if it is a word. -/
def checkedAdd
    (a b : Nat) : Option Nat :=
  if a + b ≤ maxWord then some (a + b) else none

/- A difference, if it is not below zero. -/
def checkedSub
    (a b : Nat) : Option Nat :=
  if b ≤ a then some (a - b) else none

/- A product, if it is a word. -/
def checkedMul
    (a b : Nat) : Option Nat :=
  if a * b ≤ maxWord then some (a * b) else none

/- A quotient, unless the divisor is zero. -/
def checkedDiv
    (a b : Nat) : Option Nat :=
  if b = 0 then none else some (a / b)

theorem checkedAdd_of_le
    {a b : Nat}
    (hLe : a + b ≤ maxWord) :
    checkedAdd a b = some (a + b) :=
  if_pos hLe

theorem checkedSub_of_le
    {a b : Nat}
    (hLe : b ≤ a) :
    checkedSub a b = some (a - b) :=
  if_pos hLe

theorem checkedMul_of_le
    {a b : Nat}
    (hLe : a * b ≤ maxWord) :
    checkedMul a b = some (a * b) :=
  if_pos hLe

theorem checkedDiv_of_pos
    {a b : Nat}
    (hPos : 0 < b) :
    checkedDiv a b = some (a / b) :=
  if_neg (Nat.ne_of_gt hPos)

/- The rows of a page, computed one operation after the other. -/
def checkedBounds?
    (page pageSize : Nat) : Option (Nat × Nat) := do
  let before ← checkedSub page 1
  let start ← checkedMul before pageSize
  let stop ← checkedAdd start pageSize
  return (start, stop)

/-
  A page exists exactly if all of its bounds can be computed: its
  end is the greatest number on the way.
-/
theorem checkedBounds?_eq
    {page : Nat}
    (hPage : 1 ≤ page)
    (pageSize : Nat) :
    checkedBounds? page pageSize = pageBounds? page pageSize := by
  unfold checkedBounds? pageBounds?
  rw [checkedSub_of_le hPage]
  by_cases hEnd : (page - 1) * pageSize + pageSize ≤ maxWord
  · have hStart : (page - 1) * pageSize ≤ maxWord :=
      Nat.le_trans (Nat.le_add_right _ _) hEnd
    simp only [Option.bind_eq_bind, Option.bind_some,
      checkedMul_of_le hStart, checkedAdd_of_le hEnd,
      Option.pure_def, if_pos hEnd]
  · simp only [Option.bind_eq_bind, Option.bind_some,
      checkedMul, checkedAdd, if_neg hEnd]
    split <;> simp [hEnd]

------------------------------------------------------------
-- Windows
------------------------------------------------------------

namespace Window

variable {ρ : Type} {w : Window ρ}

/-
  Where the last page of the known rows begins.  The known rows
  themselves stop at the greatest word.
-/
def lastPageStart?
    (w : Window ρ) : Option Nat :=
  if w.knownRowCount = 0 then
    some 0
  else do
    let last ← checkedSub w.knownRowCount 1
    let pages ← checkedDiv last w.pageSize
    checkedMul pages w.pageSize

/-
  The index at which a page wanted to begin at `start` begins.
  The shadow is taken off without falling below zero.
-/
def clampStart?
    (w : Window ρ)
    (start : Nat) : Option Nat := do
  let start ←
    if w.drained then
      w.lastPageStart?.map (min start)
    else
      some start
  return min (start - w.shadow) w.rows.length

/- The known rows are counted by a word. -/
theorem knownRowCount_le
    (w : Window ρ) :
    w.knownRowCount ≤ maxWord :=
  Nat.min_le_right _ _

/- The last page begins before the known rows end. -/
theorem lastPageStart?_eq
    (hSize : 0 < w.pageSize) :
    w.lastPageStart? = some w.lastPageStart := by
  unfold lastPageStart? lastPageStart
  split
  · next hNone =>
      rw [hNone, Nat.zero_sub, Nat.zero_div, Nat.zero_mul]
  · next hSome =>
      have hLast : 1 ≤ w.knownRowCount := Nat.one_le_iff_ne_zero.mpr hSome
      have hPages :
          (w.knownRowCount - 1) / w.pageSize * w.pageSize ≤
            maxWord :=
        calc (w.knownRowCount - 1) / w.pageSize * w.pageSize
          _ ≤ w.knownRowCount - 1 := Nat.div_mul_le_self _ _
          _ ≤ w.knownRowCount := Nat.sub_le _ _
          _ ≤ maxWord := w.knownRowCount_le
      simp only [checkedSub_of_le hLast, checkedDiv_of_pos hSize,
        checkedMul_of_le hPages, Option.bind_eq_bind,
        Option.bind_some]

/- With rows on a page, every page can be shown. -/
theorem clampStart?_eq
    (hSize : 0 < w.pageSize)
    (start : Nat) :
    w.clampStart? start = some (w.clampStart start) := by
  unfold clampStart? clampStart
  cases hDrained : w.drained <;>
    simp [lastPageStart?_eq hSize]

/-
  The rows before and in a window that is not at the start of its
  list are counted by a word.
-/
structure Countable
    (w : Window ρ) : Prop where
  pageSize_pos : 0 < w.pageSize
  known_le :
    0 < w.shadow → w.shadow + w.rows.length ≤ maxWord

namespace Countable

/- The rows of an empty window can be counted. -/
theorem empty
    (pageSize : Nat) :
    (Window.empty pageSize : Window ρ).Countable where
  pageSize_pos := Nat.le_max_right _ _
  known_le := fun hShadow => by cases hShadow

/- So can rows that nothing is known to precede. -/
theorem of_shadow_eq_zero
    (hSize : 0 < w.pageSize)
    (hShadow : w.shadow = 0) :
    w.Countable where
  pageSize_pos := hSize
  known_le := fun hPos => by omega

/- Only rows that nothing precedes may be too many. -/
theorem known_le_of_length
    (hCountable : w.Countable)
    (hLength : w.rows.length ≤ maxWord) :
    w.shadow + w.rows.length ≤ maxWord := by
  rcases Nat.eq_zero_or_pos w.shadow with hZero | hPos
  · omega
  · exact hCountable.known_le hPos

end Countable

end Window

------------------------------------------------------------
-- Edits
------------------------------------------------------------

namespace Edit

variable {ρ κ : Type} {w : Window ρ} {edit : Edit}

/- Show the page that begins at `start`, or the last one. -/
def showPage?
    (w : Window ρ)
    (start : Nat) : Option (Window ρ) :=
  (w.clampStart? start).map fun index =>
    { w with startIndex := index }

/- The rows that still precede the window after a head load. -/
def headShadow?
    (w : Window ρ)
    (loaded : List ρ)
    (wanted : Nat) : Option Nat :=
  if loaded.length < wanted then some 0
  else checkedSub w.shadow loaded.length

/- Change the window by loaded rows. -/
def applied?
    [DecidableEq κ]
    (key : ρ → κ)
    (edit : Edit)
    (loaded : List ρ)
    (w : Window ρ) : Option (Window ρ) :=
  match edit with
  | initial start stop =>
      showPage?
        { w with
          rows := loaded
          shadow := 0
          drained := loaded.length < stop }
        start
  | head start wanted => do
      let shadow ← headShadow? w loaded wanted
      showPage?
        { w with
          rows := loaded.reverse ++ w.rows
          shadow := shadow }
        start
  | tail start wanted =>
      showPage?
        { w with
          rows := w.rows ++ loaded
          drained := w.drained || loaded.length < wanted }
        start
  | turn start => showPage? w start
  | anchored _ _ => some (edit.apply key loaded w)
  | newest _ => some (edit.apply key loaded w)
  | join => some (edit.apply key loaded w)

/- The rows that an edit wants of its load. -/
def wanted
    (limit : Nat) : Edit → Nat
  | anchored _ pageSize => pageSize
  | initial _ stop => stop
  | head _ wanted => wanted
  | tail _ wanted => wanted
  | turn _ => 0
  | newest pageSize => pageSize
  | join => limit

/-
  What the rows that an edit wants have to do with the window
  that it was planned for.
-/
def Suits
    (w : Window ρ) : Edit → Prop
  | anchored start pageSize => start + pageSize ≤ maxWord
  | head start wanted => start + wanted = w.shadow
  | tail _ wanted => w.shadow + w.rows.length + wanted ≤ maxWord
  | join => w.shadow = 0
  | initial _ _ => True
  | turn _ => True
  | newest _ => True

/- What an operation begins with suits its window. -/
theorem suits_of_course
    {key : ρ → κ}
    {limit : Nat}
    {op : Operation κ}
    {load : Load ρ κ}
    (hCourse : Course key limit w op edit load) :
    edit.Suits w := by
  cases hCourse with
  | anchored page anchor hPage => exact hPage
  | initial page hPage hRows => trivial
  | head page row hPage hRow hShadow =>
      exact Nat.add_sub_cancel' (Nat.le_of_lt hShadow)
  | tail page row hPage hRow hShadow hBeyond hDrained =>
      have hEnd :
          pageOffset page w.pageSize + w.pageSize ≤ maxWord :=
        hPage
      show _ + _ ≤ maxWord
      rw [Nat.add_sub_cancel' (Nat.le_of_lt hBeyond)]
      exact hEnd
  | turn page hPage hRows hShadow hWithin => trivial
  | newest hNoHead => trivial
  | join row hRow hShadow => exact hShadow

/- A page is shown without a check that fails. -/
theorem showPage?_eq
    (hSize : 0 < w.pageSize)
    (start : Nat) :
    showPage? w start = some (showPage w start) := by
  unfold showPage? showPage
  rw [Window.clampStart?_eq hSize, Option.map_some]

variable [DecidableEq κ] (key : ρ → κ)

/-
  An edit that suits a window changes it without a check that
  fails.  Rows put in front are no more than precede the window.
-/
theorem applied?_eq
    (hSize : 0 < w.pageSize)
    (hSuits : edit.Suits w)
    {limit : Nat}
    {loaded : List ρ}
    (hLoaded : loaded.length ≤ edit.wanted limit) :
    edit.applied? key loaded w = some (edit.apply key loaded w) := by
  have hShown :
      ∀ (u : Window ρ) (start : Nat), u.pageSize = w.pageSize →
        showPage? u start = some (showPage u start) := by
    intro u start hSame
    rw [← hSame] at hSize
    exact showPage?_eq hSize start
  cases edit with
  | anchored start pageSize => rfl
  | initial start stop => exact hShown _ start rfl
  | head start wanted =>
      have hShadow : start + wanted = w.shadow := hSuits
      have hWanted : loaded.length ≤ wanted := hLoaded
      have hHead :
          headShadow? w loaded wanted =
            some (if loaded.length < wanted then 0
              else w.shadow - loaded.length) := by
        unfold headShadow?
        rw [checkedSub_of_le (by omega)]
        split <;> rfl
      simp only [applied?, hHead, Option.bind_eq_bind,
        Option.bind_some]
      exact hShown _ start rfl
  | tail start wanted => exact hShown _ start rfl
  | turn start => exact hShown _ start rfl
  | newest pageSize => rfl
  | join => rfl

/-
  An edit leaves rows that can be counted.  Rows put in front
  leave their number off the shadow, and rows put behind do not
  reach beyond the page that they were wanted for.
-/
theorem countable_apply
    (hCountable : w.Countable)
    (hSuits : edit.Suits w)
    {limit : Nat}
    {loaded : List ρ}
    (hLoaded : loaded.length ≤ edit.wanted limit) :
    (edit.apply key loaded w).Countable := by
  refine ⟨?_, fun hPos => ?_⟩
  · rw [apply_pageSize]
    exact hCountable.pageSize_pos
  cases edit with
  | anchored start pageSize =>
      have hEnd : start + pageSize ≤ maxWord := hSuits
      have hWanted : loaded.length ≤ pageSize := hLoaded
      show start + loaded.length ≤ maxWord
      omega
  | initial start stop => cases hPos
  | head start wanted =>
      have hShadow : start + wanted = w.shadow := hSuits
      have hWanted : loaded.length ≤ wanted := hLoaded
      simp only [apply, showPage, List.length_append,
        List.length_reverse] at hPos ⊢
      split at hPos
      · cases hPos
      · next hFull =>
          have hKnown := hCountable.known_le (by omega)
          rw [if_neg hFull]
          omega
  | tail start wanted =>
      have hEnd :
          w.shadow + w.rows.length + wanted ≤ maxWord := hSuits
      have hWanted : loaded.length ≤ wanted := hLoaded
      simp only [apply, showPage, List.length_append]
      omega
  | turn start => exact hCountable.known_le hPos
  | newest pageSize => cases hPos
  | join =>
      have hShadow : w.shadow = 0 := hSuits
      rcases apply_join_cases key loaded w with
        ⟨_, _, _, _, _, _, _, hApply⟩ | hApply
      · rw [hApply] at hPos
        simp only [hShadow] at hPos
        cases hPos
      · rw [hApply] at hPos
        cases hPos

end Edit

end LedgerView
