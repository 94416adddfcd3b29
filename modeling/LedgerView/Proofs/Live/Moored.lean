import LedgerView.Proofs.Live.Scene
import LedgerView.Proofs.Window.Depth

/-
  Scenes whose windows stand.

  A load that begins at a key that is deep enough leaves its
  window standing when it is committed, whatever rows come in
  while it is under way.  A window that is shown from its first
  row keeps being shown from there if only first pages are loaded
  for it.

  Key definitions include:
    * `Scene.Moored`
    * `Scene.Fronted`

  Key theorems include:
    * `Scene.Moored.turn`
    * `Scene.Fronted.turn`
-/

namespace LedgerView

variable {ρ κ : Type}

------------------------------------------------------------
-- Scenes Whose Windows Stand
------------------------------------------------------------

namespace Scene

variable [LinearOrder κ] {key : ρ → κ} {limit : Nat}
variable {source : Archive key} {w : Window ρ}
variable {f : Flight ρ κ} {a b : Scene key}

/- A window that stands, with loads that leave it standing. -/
structure Moored
    (limit : Nat)
    (s : Scene key) : Prop where
  stands : s.window.Stands s.source
  serves : ∀ f ∈ s.loads,
    (Shape.gapless key).Serves limit s.source s.window
      ⟨.refresh, f⟩
  backs : ∀ f ∈ s.loads, f.Backs s.source s.window

/- Nothing needs to be under way. -/
theorem moored_idle
    (hStands : w.Stands source) :
    Moored limit ⟨source, w, []⟩ where
  stands := hStands
  serves := fun _ hMem => absurd hMem List.not_mem_nil
  backs := fun _ hMem => absurd hMem List.not_mem_nil

/- What begins may begin at any key that is deep enough. -/
theorem moored_begin
    (hStands : w.Stands source)
    {op : Operation κ}
    (hCourse : Course key limit w op f.edit f.load)
    (hDeep : ∀ page k, op = .move page (some k) →
      pageOffset page w.pageSize ≤ source.depth k) :
    Moored limit ⟨source, w, [f]⟩ where
  stands := hStands
  serves := List.forall_mem_singleton.mpr
    (Shape.serves_of_course hStands.suits hCourse f.plan)
  backs := List.forall_mem_singleton.mpr
    (Flight.backs_of_course hCourse hDeep)

/- Rows may come in at any time. -/
theorem Moored.grow
    {loads : List (Flight ρ κ)}
    {next : Archive key}
    (hMoored : Moored limit ⟨source, w, loads⟩)
    (hGrown : (Conduct.growing key).Becomes source next) :
    Moored limit ⟨next, w, loads⟩ where
  stands := hMoored.stands.becomes hGrown
  serves := fun f hMem => (hMoored.serves f hMem).becomes hGrown
  backs := fun f hMem => (hMoored.backs f hMem).becomes hGrown

/- The window stands while nothing begins, -/
theorem Moored.passage
    (hLimit : 0 < limit)
    (hMoored : Moored limit a)
    (hPassage : Passage limit a b) :
    Moored limit b := by
  cases hPassage with
  | answer f reply hOpen hAnswer =>
      have hServes := hMoored.serves f List.mem_cons_self
      have hBacks := hMoored.backs f List.mem_cons_self
      exact
        { stands := hMoored.stands
          serves := List.forall_mem_singleton.mpr
            (hServes.receive hLimit hOpen hAnswer)
          backs := List.forall_mem_singleton.mpr
            (hBacks.receive hMoored.stands hServes hAnswer) }
  | lose => exact moored_idle hMoored.stands
  | commit f hDone =>
      have hServes := hMoored.serves f List.mem_cons_self
      have hBacks := hMoored.backs f List.mem_cons_self
      exact moored_idle (hMoored.stands.apply hServes hBacks hDone)
  | stay => exact hMoored

/- and in every turn of a live table. -/
theorem Moored.turn
    (hLimit : 0 < limit)
    (hMoored : Moored limit a)
    (hTurn : Turn limit a b) :
    Moored limit b := by
  cases hTurn with
  | refresh f hCourse =>
      exact moored_begin hMoored.stands hCourse
        fun page k hSame => nomatch hSame
  | resize pageSize f hCourse =>
      exact moored_begin (hMoored.stands.resize pageSize) hCourse
        fun page k hSame => nomatch hSame
  | grow hGrown hStill => exact hMoored.grow hGrown
  | pass hPassage => exact hMoored.passage hLimit hPassage

------------------------------------------------------------
-- Scenes Shown from Their First Row
------------------------------------------------------------

/- A window shown from its first row, above which none is unseen. -/
structure Fronted
    (s : Scene key) : Prop where
  shadow : s.window.shadow = 0
  startIndex : s.window.startIndex = 0
  fronts : ∀ f ∈ s.loads, f.edit.Fronts

omit [LinearOrder κ] in
/- A load that begins on such a window is for its first page. -/
theorem fronts_of_course
    (hShadow : w.shadow = 0)
    {op : Operation κ}
    (hCourse : Course key limit w op f.edit f.load)
    (hOp : op = .refresh ∨ op = .move 1 none) :
    f.edit.Fronts := by
  rcases f with ⟨plan, edit, load⟩
  have hFirst : pageOffset 1 w.pageSize = 0 := Nat.zero_mul _
  rcases hOp with rfl | rfl
  · cases hCourse with
    | newest hNoHead => trivial
    | join row hRow hNone => trivial
  · cases hCourse with
    | head _ row hPage hRow hLess => omega
    | initial | tail | turn => exact hFirst

/- It is shown from there while nothing begins, -/
theorem Fronted.passage
    (hFronted : a.Fronted)
    (hPassage : Passage limit a b) :
    b.Fronted := by
  cases hPassage with
  | answer f reply hOpen hAnswer =>
      have hFronts := hFronted.fronts f List.mem_cons_self
      exact
        ⟨hFronted.shadow, hFronted.startIndex,
          List.forall_mem_singleton.mpr hFronts⟩
  | lose =>
      exact
        ⟨hFronted.shadow, hFronted.startIndex,
          fun _ hMem => absurd hMem List.not_mem_nil⟩
  | commit f hDone =>
      have hFirst :=
        (hFronted.fronts f List.mem_cons_self).first_apply key
          hFronted.shadow hFronted.startIndex f.load.rows
      exact
        ⟨hFirst.1, hFirst.2,
          fun _ hMem => absurd hMem List.not_mem_nil⟩
  | stay => exact hFronted

/- and in every turn of a live table. -/
theorem Fronted.turn
    (hFronted : a.Fronted)
    (hTurn : Turn limit a b) :
    b.Fronted := by
  cases hTurn with
  | refresh f hCourse =>
      exact
        ⟨hFronted.shadow, hFronted.startIndex,
          List.forall_mem_singleton.mpr
            (fronts_of_course hFronted.shadow hCourse (.inl rfl))⟩
  | @resize source w loads pageSize f hCourse =>
      have hStart : w.startIndex = 0 := hFronted.startIndex
      have hShadow : (w.resize pageSize).shadow = 0 :=
        hFronted.shadow
      refine ⟨hShadow, ?_, List.forall_mem_singleton.mpr
        (fronts_of_course hShadow hCourse (.inr rfl))⟩
      show min w.startIndex _ = 0
      rw [hStart, Nat.zero_min]
  | grow hGrown hStill =>
      exact
        ⟨hFronted.shadow, hFronted.startIndex, hFronted.fronts⟩
  | pass hPassage => exact hFronted.passage hPassage

end Scene

end LedgerView
