import LedgerView.Pager.Controller

/-
  How a live view counts its ticks, and pauses.

  A live view is started, paused, resumed and stopped at any
  time, also while a tick is loading, which is then dropped.
  Refreshes outside the timer and other operations supersede
  ticks as they like.  A log tells what happened.  It decides
  whether the view is paused, whether its timer runs, and how
  many ticks it has counted: a tick counts when it ends, well
  or not, and the view pauses itself when the last tick ends
  that it may count.

  Key definitions include:
    * `Note`
    * `sinceRestart`
    * `ticks`
    * `PausedBy`
    * `Vigil`
    * `Vigil.step`
    * `Vigil.Tallied`

  Key theorems include:
    * `Vigil.stride_step`
    * `Vigil.Tallied.step`
    * `Vigil.counts_and_pauses`
-/

namespace LedgerView

variable {ρ κ : Type}

------------------------------------------------------------
-- Logs
------------------------------------------------------------

/- Something that happened to a live view. -/
inductive Note where
  | started
  | resumed
  | paused
  | stopped
  /- A tick began to load. -/
  | began
  /- A tick ended; a load that failed has no outcome. -/
  | ended (outcome : Option Outcome)
deriving Repr, DecidableEq

namespace Note

/- Whether the count starts anew. -/
def restarts : Note → Bool
  | started | resumed => true
  | _ => false

/- Whether a tick ended. -/
def ends : Note → Bool
  | ended _ => true
  | _ => false

end Note

/- What happened since the view was last started or resumed. -/
def sinceRestart
    (log : List Note) : List Note :=
  log.foldl
    (fun since note =>
      if note.restarts then [] else since ++ [note])
    []

/- How many ticks ended. -/
def ticks
    (since : List Note) : Nat :=
  since.countP Note.ends

/-
  Whether a view that may count `most` ticks is paused, going by
  its log: it was paused since it was last resumed, or as many
  ticks have ended since then.  A view that may count none at
  all counts on for ever.
-/
def PausedBy
    (most : Nat)
    (log : List Note) : Prop :=
  .paused ∈ sinceRestart log ∨
    0 < most ∧ ticks (sinceRestart log) = most

instance
    (most : Nat)
    (log : List Note) :
    Decidable (PausedBy most log) :=
  inferInstanceAs (Decidable (_ ∨ _))

/- A start or a resume is where the count starts. -/
theorem sinceRestart_of_restarts
    (log : List Note)
    {note : Note}
    (hRestarts : note.restarts = true) :
    sinceRestart (log ++ [note]) = [] := by
  unfold sinceRestart
  rw [List.foldl_append]
  exact if_pos hRestarts

/- Anything else happens since then. -/
theorem sinceRestart_of_not_restarts
    (log : List Note)
    {note : Note}
    (hGoesOn : note.restarts = false) :
    sinceRestart (log ++ [note]) =
      sinceRestart log ++ [note] := by
  unfold sinceRestart
  rw [List.foldl_append]
  exact if_neg (Bool.eq_false_iff.mp hGoesOn)

/- What is no end of a tick is not counted. -/
theorem ticks_of_not_ends
    (since : List Note)
    {note : Note}
    (hNone : note.ends = false) :
    ticks (since ++ [note]) = ticks since := by
  unfold ticks
  rw [List.countP_append]
  simp [hNone]

/- The end of a tick counts for one. -/
theorem ticks_ended
    (since : List Note)
    (outcome : Option Outcome) :
    ticks (since ++ [.ended outcome]) = ticks since + 1 := by
  unfold ticks
  rw [List.countP_append]
  rfl

/- A view is paused by a pause, -/
theorem pausedBy_paused
    (most : Nat)
    (log : List Note) :
    PausedBy most (log ++ [.paused]) := by
  refine .inl ?_
  rw [sinceRestart_of_not_restarts log rfl]
  exact List.mem_append_right _ (List.mem_singleton_self _)

/- by the last tick that it may count, -/
theorem pausedBy_ended
    {most : Nat}
    {log : List Note}
    (outcome : Option Outcome)
    (hRuns : ¬PausedBy most log) :
    PausedBy most (log ++ [.ended outcome]) ↔
      0 < most ∧ ticks (sinceRestart log) + 1 = most := by
  unfold PausedBy
  rw [sinceRestart_of_not_restarts log rfl, ticks_ended]
  refine ⟨fun hPaused => ?_, .inr⟩
  rcases hPaused with hPaused | hPaused
  · rcases List.mem_append.mp hPaused with hBefore | hLast
    · exact absurd (.inl hBefore) hRuns
    · exact nomatch List.mem_singleton.mp hLast
  · exact hPaused

/- and by nothing else. -/
theorem pausedBy_concat
    (most : Nat)
    (log : List Note)
    {note : Note}
    (hGoesOn : note.restarts = false)
    (hNoEnd : note.ends = false)
    (hNoPause : note ≠ .paused) :
    PausedBy most (log ++ [note]) ↔ PausedBy most log := by
  unfold PausedBy
  rw [sinceRestart_of_not_restarts log hGoesOn,
    ticks_of_not_ends _ hNoEnd, List.mem_append,
    List.mem_singleton, or_iff_left hNoPause.symm]

------------------------------------------------------------
-- Live Views under Traffic
------------------------------------------------------------

/- A live view, the buffer that it refreshes, and its log. -/
structure Vigil (ρ κ : Type) where
  view : AutoRefresh ρ κ
  buffer : Buffer ρ
  /- Refreshes under way that are not the timer's. -/
  refreshes : List (Flight ρ κ)
  log : List Note

/- Whether the timer of a view runs. -/
def AutoRefresh.runs
    (a : AutoRefresh ρ κ) : Bool :=
  match a.timer with
  | .off => false
  | _ => true

/- Whether a view differs from another at most in its timer. -/
structure AutoRefresh.Continues
    (a a' : AutoRefresh ρ κ) : Prop where
  count : a'.count = a.count
  paused : a'.paused = a.paused
  maxCount : a'.maxCount = a.maxCount

namespace Vigil

/- Something that happens.  Places count from zero. -/
inductive Event (ρ κ : Type) where
  | start (now : Nat)
  | pause
  | resume (now : Nat)
  | toggle (now : Nat)
  | stop
  /- The tick that is due begins. -/
  | tick
  /- The query of the tick is answered. -/
  | answerTick (reply : Reply ρ)
  /- A tick that has loaded everything ends. -/
  | finishTick
  /- A refresh outside the timer begins. -/
  | refresh
  /- The query of such a refresh is answered. -/
  | answer (place : Nat) (reply : Reply ρ)
  /- Such a refresh ends when it has loaded everything. -/
  | finish (place : Nat)
  /- Another operation does something to the buffer. -/
  | other (next : Buffer ρ)

/- A view that has not been started. -/
def new
    (period : Nat)
    (maxCount : UInt32)
    (buffer : Buffer ρ) : Vigil ρ κ :=
  ⟨.new period maxCount, buffer, [], []⟩

/- Note what happened to the view. -/
def note
    (s : Vigil ρ κ)
    (view : AutoRefresh ρ κ)
    (note : Note) : Vigil ρ κ :=
  { s with view := view, log := s.log ++ [note] }

/- Begin a refresh outside the timer. -/
def refresh
    (key : ρ → κ)
    (s : Vigil ρ κ) : Vigil ρ κ :=
  let (buffer, flight) := AutoRefresh.beginRefresh key s.buffer
  { s with
    buffer := buffer
    refreshes := s.refreshes ++ [flight] }

section Steps

variable [DecidableEq κ]

/- End the tick that is loading, and count it. -/
def endTick
    (key : ρ → κ)
    (s : Vigil ρ κ)
    (loaded : Option (Flight ρ κ)) : Vigil ρ κ :=
  let (view, buffer) := s.view.endTick key s.buffer loaded
  { s with buffer := buffer }.note view
    (.ended (loaded.map fun flight =>
      (s.buffer.commit key flight).2))

/-
  What an event changes.  An event that cannot happen, such as
  an answer where nothing was asked, changes nothing.
-/
def step
    (key : ρ → κ)
    (s : Vigil ρ κ)
    (event : Event ρ κ) : Vigil ρ κ :=
  match event with
  | .start now =>
      (s.note (s.view.start now) .started).refresh key
  | .pause => s.note s.view.pause .paused
  | .resume now => s.note (s.view.resume now) .resumed
  | .toggle now =>
      s.note (s.view.toggle now)
        (if s.view.paused then .resumed else .paused)
  | .stop => s.note s.view.stop .stopped
  | .tick =>
      match s.view.timer with
      | .waiting _ =>
          let (view, buffer) := s.view.beginTick key s.buffer
          { s with buffer := buffer }.note view .began
      | _ => s
  | .answerTick reply =>
      match s.view.timer with
      | .loading due flight =>
          if flight.load.isDone then s
          else
            match reply with
            | .ok rows =>
                let flight :=
                  flight.receive key s.buffer.maxLimit (rows.getD [])
                { s with
                  view :=
                    { s.view with timer := .loading due flight } }
            | .error _ => s.endTick key none
      | _ => s
  | .finishTick =>
      match s.view.timer with
      | .loading _ flight =>
          if flight.load.isDone then s.endTick key (some flight)
          else s
      | _ => s
  | .refresh => s.refresh key
  | .answer place reply =>
      match s.refreshes[place]? with
      | some flight =>
          if flight.load.isDone then s
          else
            match reply with
            | .ok rows =>
                let flight :=
                  flight.receive key s.buffer.maxLimit (rows.getD [])
                { s with refreshes := s.refreshes.set place flight }
            | .error _ =>
                { s with refreshes := s.refreshes.eraseIdx place }
      | none => s
  | .finish place =>
      match s.refreshes[place]? with
      | some flight =>
          if flight.load.isDone then
            { s with
              buffer := (s.buffer.commit key flight).1
              refreshes := s.refreshes.eraseIdx place }
          else s
      | none => s
  | .other next => { s with buffer := next }

/- What a list of events changes. -/
def run
    (key : ρ → κ)
    (s : Vigil ρ κ)
    (events : List (Event ρ κ)) : Vigil ρ κ :=
  events.foldl (step key) s

end Steps

------------------------------------------------------------
-- Strides
------------------------------------------------------------

/- What an event can make of a view and its log. -/
inductive Stride
    (s s' : Vigil ρ κ) : Prop where
  | restart
      (now : Nat)
      (note : Note)
      (hRestarts : note.restarts = true)
      (hView : s'.view = s.view.start now)
      (hLog : s'.log = s.log ++ [note])
  | pause
      (hView : s'.view = s.view.pause)
      (hLog : s'.log = s.log ++ [.paused])
  | stop
      (hSame : s.view.Continues s'.view)
      (hStops : s'.view.runs = false)
      (hLog : s'.log = s.log ++ [.stopped])
  | tick
      (hRuns : s.view.runs = true)
      (hSame : s.view.Continues s'.view)
      (hGoesOn : s'.view.runs = true)
      (hLog : s'.log = s.log ++ [.began])
  | count
      (due : Nat)
      (outcome : Option Outcome)
      (hRuns : s.view.runs = true)
      (hView : s'.view = s.view.countTick due)
      (hLog : s'.log = s.log ++ [.ended outcome])
  | stay
      (hSame : s.view.Continues s'.view)
      (hRuns : s'.view.runs = s.view.runs)
      (hLog : s'.log = s.log)

/- A view that is left alone stays as it is. -/
theorem stride_of_view
    {s s' : Vigil ρ κ}
    (hView : s'.view = s.view)
    (hLog : s'.log = s.log) :
    s.Stride s' := by
  refine .stay ?_ (by rw [hView]) hLog
  rw [hView]
  exact ⟨rfl, rfl, rfl⟩

section Strides

variable [DecidableEq κ]

/- A tick that ends is counted, however it ends. -/
theorem stride_endTick
    (key : ρ → κ)
    (s : Vigil ρ κ)
    {due : Nat}
    {flight : Flight ρ κ}
    (hTimer : s.view.timer = .loading due flight)
    (loaded : Option (Flight ρ κ)) :
    s.Stride (s.endTick key loaded) := by
  have hRuns : s.view.runs = true := by
    unfold AutoRefresh.runs
    rw [hTimer]
  have hView :
      (s.endTick key loaded).view = s.view.countTick due := by
    unfold endTick note AutoRefresh.endTick
    rw [hTimer]
  exact .count due _ hRuns hView rfl

/- Nothing else can become of them. -/
theorem stride_step
    (key : ρ → κ)
    (s : Vigil ρ κ)
    (event : Event ρ κ) :
    s.Stride (s.step key event) := by
  unfold step
  cases event with
  | start now => exact .restart now .started rfl rfl rfl
  | pause => exact .pause rfl rfl
  | resume now => exact .restart now .resumed rfl rfl rfl
  | toggle now =>
      by_cases hPaused : s.view.paused = true
      · refine .restart now .resumed rfl ?_ ?_
        · exact if_pos hPaused
        · show s.log ++ [_] = _
          rw [if_pos hPaused]
      · refine .pause ?_ ?_
        · exact if_neg hPaused
        · show s.log ++ [_] = _
          rw [if_neg hPaused]
  | stop => exact .stop ⟨rfl, rfl, rfl⟩ rfl rfl
  | tick =>
      dsimp only
      split
      · next due hTimer =>
          have hRuns : s.view.runs = true := by
            unfold AutoRefresh.runs
            rw [hTimer]
          unfold AutoRefresh.beginTick
          rw [hTimer]
          exact .tick hRuns ⟨rfl, rfl, rfl⟩ rfl rfl
      · exact stride_of_view rfl rfl
  | answerTick reply =>
      dsimp only
      split
      · next due flight hTimer =>
          have hRuns : s.view.runs = true := by
            unfold AutoRefresh.runs
            rw [hTimer]
          split
          · exact stride_of_view rfl rfl
          · split
            · exact .stay ⟨rfl, rfl, rfl⟩ hRuns.symm rfl
            · exact s.stride_endTick key hTimer none
      · exact stride_of_view rfl rfl
  | finishTick =>
      dsimp only
      split
      · next due flight hTimer =>
          split
          · exact s.stride_endTick key hTimer (some flight)
          · exact stride_of_view rfl rfl
      · exact stride_of_view rfl rfl
  | refresh => exact stride_of_view rfl rfl
  | answer place reply =>
      dsimp only
      split
      · split
        · exact stride_of_view rfl rfl
        · split <;> exact stride_of_view rfl rfl
      · exact stride_of_view rfl rfl
  | finish place =>
      dsimp only
      split
      · split <;> exact stride_of_view rfl rfl
      · exact stride_of_view rfl rfl
  | other next => exact stride_of_view rfl rfl

end Strides

------------------------------------------------------------
-- Counting
------------------------------------------------------------

/-
  What the log of a view that was started tells about it: its
  count, whether it is paused, and whether its timer runs.  The
  count is a 32-bit word, which wraps around.
-/
structure Tallied
    (s : Vigil ρ κ) : Prop where
  count : s.view.count = .ofNat (ticks (sinceRestart s.log))
  paused : s.view.paused = true ↔
    PausedBy s.view.maxCount.toNat s.log
  runs : s.view.runs = true ↔
    ¬PausedBy s.view.maxCount.toNat s.log ∧
      .stopped ∉ sinceRestart s.log
  few : 0 < s.view.maxCount.toNat →
    ticks (sinceRestart s.log) ≤ s.view.maxCount.toNat
  begun : ∀ before, before ++ [.began] <+: s.log →
    ¬PausedBy s.view.maxCount.toNat before

/- What began before still began in time. -/
theorem begun_concat
    {most : Nat}
    {log : List Note}
    {note : Note}
    (hBegun : ∀ before, before ++ [.began] <+: log →
      ¬PausedBy most before)
    (hNote : note = .began → ¬PausedBy most log) :
    ∀ before, before ++ [.began] <+: log ++ [note] →
      ¬PausedBy most before := by
  intro before hPrefix
  rcases List.prefix_concat_iff.mp hPrefix with hWhole | hEarlier
  · rcases List.append_inj' hWhole rfl with ⟨hBefore, hLast⟩
    rw [hBefore]
    exact hNote (List.singleton_inj.mp hLast).symm
  · exact hBegun before hEarlier

/- A view that is started or resumed has counted nothing. -/
theorem tallied_restart
    {s s' : Vigil ρ κ}
    {note : Note}
    {now : Nat}
    (hBegun : ∀ before, before ++ [.began] <+: s.log →
      ¬PausedBy s.view.maxCount.toNat before)
    (hRestarts : note.restarts = true)
    (hView : s'.view = s.view.start now)
    (hLog : s'.log = s.log ++ [note]) :
    s'.Tallied := by
  have hSince : sinceRestart s'.log = [] := by
    rw [hLog, sinceRestart_of_restarts _ hRestarts]
  have hMost : s'.view.maxCount = s.view.maxCount := by
    rw [hView]
    rfl
  have hRuns : ¬PausedBy s'.view.maxCount.toNat s'.log := by
    unfold PausedBy
    rw [hSince]
    rintro (hPaused | ⟨hSome, hNone⟩)
    · exact absurd hPaused List.not_mem_nil
    · exact absurd hNone (Nat.ne_of_lt hSome)
  constructor
  · rw [hSince, hView]
    rfl
  · refine ⟨fun hPaused => ?_,
      fun hPaused => absurd hPaused hRuns⟩
    rw [hView] at hPaused
    exact nomatch hPaused
  · rw [hSince]
    refine ⟨fun _ => ⟨hRuns, List.not_mem_nil⟩, fun _ => ?_⟩
    rw [hView]
    rfl
  · rw [hSince]
    exact fun _ => Nat.zero_le _
  · rw [hMost, hLog]
    refine begun_concat hBegun fun hNote => ?_
    rw [hNote] at hRestarts
    exact nomatch hRestarts

namespace Tallied

variable {s s' : Vigil ρ κ}

/- A view that is paused still tells what it has counted. -/
theorem pause
    (hTallied : s.Tallied)
    (hView : s'.view = s.view.pause)
    (hLog : s'.log = s.log ++ [.paused]) :
    s'.Tallied := by
  have hPaused (most : Nat) : PausedBy most s'.log := by
    rw [hLog]
    exact pausedBy_paused most s.log
  have hTicks :
      ticks (sinceRestart s'.log) = ticks (sinceRestart s.log) := by
    rw [hLog, sinceRestart_of_not_restarts s.log rfl,
      ticks_of_not_ends _ rfl]
  constructor
  · rw [hTicks, hView]
    exact hTallied.count
  · refine ⟨fun _ => hPaused _, fun _ => ?_⟩
    rw [hView]
    rfl
  · refine ⟨fun hRuns => ?_, fun hNot => absurd (hPaused _) hNot.1⟩
    rw [hView] at hRuns
    exact nomatch hRuns
  · rw [hTicks, hView]
    exact hTallied.few
  · rw [hView, hLog]
    exact begun_concat hTallied.begun fun hNote => nomatch hNote

/-
  So does one that goes on as it is, but for its timer: a tick
  that begins leaves it running, and a stop does not.
-/
theorem goOn
    (hTallied : s.Tallied)
    {note : Note}
    (hNote : note = .began ∨ note = .stopped)
    (hSame : s.view.Continues s'.view)
    (hRuns : s'.view.runs = true ↔
      s.view.runs = true ∧ note ≠ .stopped)
    (hBegan : note = .began → s.view.runs = true)
    (hLog : s'.log = s.log ++ [note]) :
    s'.Tallied := by
  have hKind : note.restarts = false ∧ note.ends = false ∧
      note ≠ .paused := by
    rcases hNote with hNote | hNote <;>
    · rw [hNote]
      exact ⟨rfl, rfl, by decide⟩
  rcases hKind with ⟨hGoesOn, hNoEnd, hNoPause⟩
  have hSince :
      sinceRestart s'.log = sinceRestart s.log ++ [note] := by
    rw [hLog, sinceRestart_of_not_restarts s.log hGoesOn]
  have hTicks :
      ticks (sinceRestart s'.log) = ticks (sinceRestart s.log) := by
    rw [hSince, ticks_of_not_ends _ hNoEnd]
  have hPaused (most : Nat) :
      PausedBy most s'.log ↔ PausedBy most s.log := by
    rw [hLog]
    exact pausedBy_concat most s.log hGoesOn hNoEnd hNoPause
  constructor
  · rw [hTicks, hSame.count]
    exact hTallied.count
  · rw [hSame.paused, hSame.maxCount, hPaused]
    exact hTallied.paused
  · rw [hRuns, hSame.maxCount, hPaused, hSince, hTallied.runs,
      List.mem_append, List.mem_singleton, not_or, and_assoc,
      ne_comm]
  · rw [hTicks, hSame.maxCount]
    exact hTallied.few
  · rw [hSame.maxCount, hLog]
    exact begun_concat hTallied.begun fun hNote =>
      (hTallied.runs.mp (hBegan hNote)).1

/- The count after the end of a tick. -/
theorem count_add_one
    (hTallied : s.Tallied) :
    s.view.count + 1 =
      .ofNat (ticks (sinceRestart s.log) + 1) := by
  rw [hTallied.count, UInt32.ofNat_add]
  rfl

/- A view that is not paused has yet to count its last tick. -/
theorem ticks_lt
    (hTallied : s.Tallied)
    (hNotPaused : ¬PausedBy s.view.maxCount.toNat s.log)
    (hSome : 0 < s.view.maxCount.toNat) :
    ticks (sinceRestart s.log) < s.view.maxCount.toNat :=
  Nat.lt_of_le_of_ne (hTallied.few hSome)
    fun hAll => hNotPaused (.inr ⟨hSome, hAll⟩)

/-
  A view that is not paused finds that the tick that ends is the
  last that may be counted if it is: before, fewer have been, so
  the count still fits its word.
-/
theorem finds_last
    (hTallied : s.Tallied)
    (hNotPaused : ¬PausedBy s.view.maxCount.toNat s.log) :
    (0 < s.view.maxCount && s.view.maxCount ≤ s.view.count + 1) =
      decide
        (0 < s.view.maxCount.toNat ∧
          ticks (sinceRestart s.log) + 1 =
            s.view.maxCount.toNat) := by
  rw [← Bool.decide_and, decide_eq_decide,
    UInt32.lt_iff_toNat_lt, UInt32.le_iff_toNat_le,
    hTallied.count_add_one]
  refine and_congr_right fun hSome => ?_
  have hLess := hTallied.ticks_lt hNotPaused hSome
  have hWord : ticks (sinceRestart s.log) + 1 < 2 ^ 32 :=
    Nat.lt_of_le_of_lt hLess s.view.maxCount.toNat_lt
  rw [UInt32.toNat_ofNat_of_lt' hWord]
  exact ⟨Nat.le_antisymm hLess, Nat.le_of_eq ∘ Eq.symm⟩

/-
  The end of a tick counts for one, and pauses the view if it is
  the last that may be counted.
-/
theorem countTick
    (hTallied : s.Tallied)
    {due : Nat}
    {outcome : Option Outcome}
    (hRuns : s.view.runs = true)
    (hView : s'.view = s.view.countTick due)
    (hLog : s'.log = s.log ++ [.ended outcome]) :
    s'.Tallied := by
  let most := s.view.maxCount.toNat
  let since := sinceRestart s.log
  have hSince : sinceRestart s'.log = since ++ [.ended outcome] := by
    rw [hLog, sinceRestart_of_not_restarts s.log rfl]
  have hTicks : ticks (sinceRestart s'.log) = ticks since + 1 := by
    rw [hSince, ticks_ended]
  rcases hTallied.runs.mp hRuns with ⟨hNotPaused, hNotStopped⟩
  have hPaused :
      PausedBy most s'.log ↔ 0 < most ∧ ticks since + 1 = most := by
    rw [hLog]
    exact pausedBy_ended outcome hNotPaused
  have hParts :
      s'.view.maxCount = s.view.maxCount ∧
        s'.view.count = s.view.count + 1 := by
    rw [hView]
    unfold AutoRefresh.countTick
    dsimp only
    split <;> exact ⟨rfl, rfl⟩
  rcases hParts with ⟨hMost, hNext⟩
  have hStopped : .stopped ∉ sinceRestart s'.log := by
    rw [hSince, List.mem_append, List.mem_singleton]
    exact not_or.mpr ⟨hNotStopped, nofun⟩
  -- The view pauses itself exactly if this was the last tick.
  have hPauses :
      (s'.view.paused = true ↔ PausedBy most s'.log) ∧
        (s'.view.runs = true ↔ ¬PausedBy most s'.log) := by
    rw [hPaused, hView]
    unfold AutoRefresh.countTick
    dsimp only
    rw [hTallied.finds_last hNotPaused]
    by_cases hLast : 0 < most ∧ ticks since + 1 = most
    · rw [if_pos (decide_eq_true hLast)]
      exact ⟨iff_of_true rfl hLast,
        iff_of_false nofun (not_not_intro hLast)⟩
    · rw [if_neg (Bool.eq_false_iff.mp (decide_eq_false hLast))]
      exact ⟨iff_of_false (mt hTallied.paused.mp hNotPaused) hLast,
        iff_of_true rfl hLast⟩
  constructor
  · rw [hTicks, hNext, hTallied.count_add_one]
  · rw [hMost]
    exact hPauses.1
  · rw [hMost]
    exact hPauses.2.trans (iff_self_and.mpr fun _ => hStopped)
  · rw [hTicks, hMost]
    exact hTallied.ticks_lt hNotPaused
  · rw [hMost, hLog]
    exact begun_concat hTallied.begun fun hNote => nomatch hNote

/- What leaves view and log alone changes nothing of it. -/
theorem stay
    (hTallied : s.Tallied)
    (hSame : s.view.Continues s'.view)
    (hRuns : s'.view.runs = s.view.runs)
    (hLog : s'.log = s.log) :
    s'.Tallied := by
  constructor
  · rw [hSame.count, hLog]
    exact hTallied.count
  · rw [hSame.paused, hSame.maxCount, hLog]
    exact hTallied.paused
  · rw [hRuns, hSame.maxCount, hLog]
    exact hTallied.runs
  · rw [hSame.maxCount, hLog]
    exact hTallied.few
  · rw [hSame.maxCount, hLog]
    exact hTallied.begun

/- So the log tells all this whatever happens, -/
theorem step
    [DecidableEq κ]
    (key : ρ → κ)
    (hTallied : s.Tallied)
    (event : Event ρ κ) :
    (s.step key event).Tallied := by
  have hStride := s.stride_step key event
  generalize s.step key event = s' at hStride
  cases hStride with
  | restart now note hRestarts hView hLog =>
      exact tallied_restart hTallied.begun hRestarts hView hLog
  | pause hView hLog => exact hTallied.pause hView hLog
  | stop hSame hStops hLog =>
      refine hTallied.goOn (.inr rfl) hSame ?_ nofun hLog
      rw [hStops]
      exact iff_of_false nofun fun hRuns => hRuns.2 rfl
  | tick hRuns hSame hGoesOn hLog =>
      refine hTallied.goOn (.inl rfl) hSame ?_ (fun _ => hRuns) hLog
      rw [hGoesOn]
      exact iff_of_true rfl ⟨hRuns, nofun⟩
  | count due outcome hRuns hView hLog =>
      exact hTallied.countTick hRuns hView hLog
  | stay hSame hRuns hLog => exact hTallied.stay hSame hRuns hLog

/- and all along. -/
theorem run
    [DecidableEq κ]
    (key : ρ → κ)
    (hTallied : s.Tallied)
    (events : List (Event ρ κ)) :
    (s.run key events).Tallied := by
  induction events generalizing s with
  | nil => exact hTallied
  | cons event rest ih => exact ih (hTallied.step key event)

end Tallied

section Runs

variable [DecidableEq κ] (key : ρ → κ)

/- How many ticks a view may count never changes, -/
theorem maxCount_step
    (s : Vigil ρ κ)
    (event : Event ρ κ) :
    (s.step key event).view.maxCount = s.view.maxCount := by
  have hStride := s.stride_step key event
  generalize s.step key event = s' at hStride
  cases hStride with
  | restart now note hRestarts hView hLog =>
      rw [hView]
      rfl
  | pause hView hLog =>
      rw [hView]
      rfl
  | stop hSame hStops hLog => exact hSame.maxCount
  | tick hRuns hSame hGoesOn hLog => exact hSame.maxCount
  | count due outcome hRuns hView hLog =>
      rw [hView]
      unfold AutoRefresh.countTick
      dsimp only
      split <;> rfl
  | stay hSame hRuns hLog => exact hSame.maxCount

/- in any run. -/
theorem maxCount_run
    (s : Vigil ρ κ)
    (events : List (Event ρ κ)) :
    (s.run key events).view.maxCount = s.view.maxCount := by
  induction events generalizing s with
  | nil => rfl
  | cons event rest ih =>
      exact (ih (s.step key event)).trans (s.maxCount_step key event)

/-
  What a live view shows after it was started, whatever happens
  to it.  Unless it was stopped since it was last started or
  resumed, its timer runs if and only if it is not paused.  Its
  count is the number of ticks that ended since then, as long as
  that fits a word, and never more than it may count.  It is
  paused if it was paused since then, or if the last tick that
  it may count has ended, and not otherwise.  No tick ever
  began while it was paused.
-/
theorem counts_and_pauses
    (period : Nat)
    (maxCount : UInt32)
    (buffer : Buffer ρ)
    (now : Nat)
    (events : List (Event ρ κ)) :
    let s :=
      (new period maxCount buffer).run key (.start now :: events)
    let since := sinceRestart s.log
    let most := maxCount.toNat
    (.stopped ∉ since →
      (s.view.runs = true ↔ s.view.status.paused = false)) ∧
    (ticks since < 2 ^ 32 →
      s.view.status.updateCount.toNat = ticks since) ∧
    (0 < most → ticks since ≤ most) ∧
    (s.view.status.paused = true ↔
      .paused ∈ since ∨ 0 < most ∧ ticks since = most) ∧
    ∀ before, before ++ [.began] <+: s.log →
      ¬PausedBy most before := by
  intro s since most
  let fresh : Vigil ρ κ := new period maxCount buffer
  have hStarted : (fresh.step key (.start now)).Tallied := by
    have hView : (fresh.step key (.start now)).view =
        fresh.view.start now := rfl
    have hLog : (fresh.step key (.start now)).log =
        fresh.log ++ [.started] := rfl
    refine tallied_restart (fun before hPrefix => ?_) rfl hView hLog
    exact absurd (List.prefix_nil.mp hPrefix)
      (List.concat_ne_nil _ _)
  have hTallied : s.Tallied := hStarted.run key events
  have hMost : s.view.maxCount.toNat = most :=
    congrArg UInt32.toNat (fresh.maxCount_run key _)
  have hPaused : s.view.paused = true ↔ PausedBy most s.log :=
    hMost ▸ hTallied.paused
  refine ⟨fun hGoesOn => ?_, fun hFew => ?_, ?_, hPaused, ?_⟩
  · show s.view.runs = true ↔ s.view.paused = false
    rw [hTallied.runs, hMost, ← hPaused, Bool.not_eq_true]
    exact and_iff_left hGoesOn
  · show s.view.count.toNat = ticks since
    rw [hTallied.count]
    exact UInt32.toNat_ofNat_of_lt' hFew
  · rw [← hMost]
    exact hTallied.few
  · rw [← hMost]
    exact hTallied.begun

end Runs

/-
  A view that may count two ticks.  It is paused while the first
  one loads, and resumed; then a tick fails, and one that is
  superseded by a refresh is the last.  It is not due again.
-/
def watched : List (Event Nat Nat) :=
  [.tick, .pause, .finishTick, .toggle 30,
    .tick, .answerTick (.error (.refused "gone")),
    .tick, .refresh, .answerTick (.ok (some [2, 1])), .finishTick,
    .tick]

/- Of the three ticks that began two have ended. -/
theorem counts_and_pauses_watched :
    let s :=
      (new 10 2 (.empty 2 2)).run (id : Nat → Nat)
        (.start 0 :: watched)
    (.stopped ∉ sinceRestart s.log ∧
      ticks (sinceRestart s.log) < 2 ^ 32 ∧
      0 < (2 : UInt32).toNat) ∧
    s.log =
      [.started, .began, .paused, .resumed, .began, .ended none,
        .began, .ended (some .discarded)] ∧
    (s.view.runs = true ↔ s.view.status.paused = false) ∧
    s.view.status.paused = true ∧
    s.view.status.updateCount.toNat = 2 ∧
    ¬PausedBy 2
      [.started, .began, .paused, .resumed, .began, .ended none] := by
  intro s
  have hGoesOn : .stopped ∉ sinceRestart s.log := by decide
  have hFew : ticks (sinceRestart s.log) < 2 ^ 32 := by decide
  rcases counts_and_pauses id 10 2 (.empty 2 2) 0 watched with
    ⟨hRuns, hCount, hMost, hPaused, hBegun⟩
  refine
    ⟨⟨hGoesOn, hFew, by decide⟩, by decide, hRuns hGoesOn,
      hPaused.mpr (by decide), (hCount hFew).trans (by decide),
      hBegun _ ?_⟩
  decide

end Vigil

end LedgerView
