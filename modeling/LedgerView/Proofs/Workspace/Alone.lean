import LedgerView.Proofs.Table.Record
import LedgerView.Proofs.Workspace.Refilter
import LedgerView.Proofs.Workspace.Stride

/-
  Only the table in use lives.

  A table that is left is unmounted: it has no rows, no timer
  and no pending move.  Moves that were begun on it may still
  run, but leaving has superseded all of them, so that they
  change neither what the table shows nor what is recorded, not
  even when it is shown again.

  Key definitions include:
    * `Session.Asleep`
    * `Session.InTime`
    * `Session.Carries`
    * `Session.Overtakes`
    * `SpaceTraffic.Alone`
    * `SpaceTraffic.Serves`

  Key theorems include:
    * `SpaceTraffic.Attended.carries`
    * `SpaceTraffic.Alone.run`
    * `SpaceTraffic.overtakes_run`
    * `SpaceTraffic.only_active_lives`
-/

namespace LedgerView

variable {σ ρ κ : Type}

------------------------------------------------------------
-- Superseded Moves
------------------------------------------------------------

namespace Controller

/- Whether a move was begun before its feed was aborted last. -/
structure Outdates
    (c : Controller σ ρ κ)
    (m : Move ρ κ) : Prop where
  feed : m.feed ≤ c.past.length
  older : m.generation < c.generation m.feed

/- A recorded move is outdated on a table that is not shown. -/
theorem Awaits.outdates
    {c : Controller σ ρ κ}
    {m : Move ρ κ}
    (hAwaits : c.Awaits m)
    (hRecords : m.records = true)
    (hUnmounted : c.mode = .unmounted) :
    c.Outdates m := by
  constructor
  · exact hAwaits.feed
  · rcases hAwaits.due hRecords with hOlder | ⟨-, hShown⟩
    · exact hOlder
    · rw [hUnmounted] at hShown
      exact nomatch hShown

/- What is outdated stays so. -/
theorem Outdates.grow
    {c c' : Controller σ ρ κ}
    {m : Move ρ κ}
    (hOutdates : c.Outdates m)
    (hPast : c.past.length ≤ c'.past.length)
    (hGrows : c.generation m.feed ≤ c'.generation m.feed) :
    c'.Outdates m where
  feed := Nat.le_trans hOutdates.feed hPast
  older := UInt64.lt_of_lt_of_le hOutdates.older hGrows

variable [Listing σ ρ κ]

/- An outdated move changes neither window nor parameters. -/
theorem Outdates.finish
    [DecidableEq κ]
    {c : Controller σ ρ κ}
    {m : Move ρ κ}
    (hOutdates : c.Outdates m) :
    (c.finish m).1.window = c.window ∧
      (c.finish m).1.nav = c.nav := by
  refine c.finish_of_stale fun hCurrent => ?_
  have hOlder := hOutdates.older
  unfold generation at hOlder
  rw [if_pos hOutdates.feed, hCurrent] at hOlder
  exact absurd hOlder (UInt64.lt_irrefl _)

/- The page of a move to a page is recorded. -/
theorem records_beginGoto
    (c : Controller σ ρ κ)
    {page : Nat}
    {m : Move ρ κ}
    (hMove : (c.beginGoto page).2 = .moving m) :
    m.records = true := by
  unfold beginGoto beginMove at hMove
  dsimp only at hMove
  split at hMove
  · cases hMove
  · split at hMove
    · cases hMove
      rfl
    · cases hMove

end Controller

------------------------------------------------------------
-- Sessions
------------------------------------------------------------

namespace Session

variable {s s' : Session}

/-
  Whether a session is out of use: its table is unmounted and
  holds no rows, no timer runs, and no move is pending.
-/
structure Asleep
    (s : Session) : Prop where
  unmounted : s.table.mode = .unmounted
  blank : s.table.window.Blank
  due : s.table.due? = none
  ticking : TableTraffic.ticking? s.table = none
  pending : s.pending = none

/- A table that is unmounted has no timer. -/
theorem asleep_of_unmounted
    (hUnmounted : s.table.mode = .unmounted)
    (hBlank : s.table.window.Blank)
    (hPending : s.pending = none) :
    s.Asleep := by
  have hStrategy := Controller.strategy_of_unmounted hUnmounted
  constructor
  · exact hUnmounted
  · exact hBlank
  · unfold Controller.due?
    rw [hStrategy]
  · unfold TableTraffic.ticking?
    rw [hStrategy]
  · exact hPending

/- A session whose table is unmounted falls asleep. -/
theorem asleep_unmount
    (s : Session) :
    s.unmount.Asleep :=
  asleep_of_unmounted rfl ⟨rfl, rfl, rfl⟩ rfl

/- A table that has not been opened is asleep. -/
theorem asleep_freshSession
    (w : Workspace)
    (kind : TableKind) :
    (w.freshSession kind).Asleep :=
  asleep_of_unmounted rfl ⟨rfl, rfl, rfl⟩ rfl

/-
  Whether the background moves of a session are in time: each
  was begun on one of its feeds and is recorded, and only while
  its pages are shown it may still be.
-/
structure InTime
    (s : Session) : Prop where
  moves : ∀ entry ∈ s.background,
    entry.1 < s.nextId ∧ entry.2.records = true ∧
      s.table.Awaits entry.2

/- Moves that differ in what they have loaded at most. -/
structure SameMove
    (old new : Nat × Move Row Key) : Prop where
  id : new.1 = old.1
  feed : new.2.feed = old.2.feed
  records : new.2.records = old.2.records
  plan : new.2.flight.plan = old.2.flight.plan

/- A move that has just been begun in the background. -/
structure NewMove
    (s s' : Session)
    (entry : Nat × Move Row Key) : Prop where
  above : s.nextId ≤ entry.1
  below : entry.1 < s'.nextId
  records : entry.2.records = true
  due : (Begun.moving entry.2).DueOn s'.table

/-
  What a session carries over: its table supersedes what it
  must, and background moves are those there were, as far as
  they have loaded, or new ones with new numbers.
-/
structure Carries
    (s s' : Session) : Prop where
  succeeds : s.table.Succeeds s'.table
  nextId : s.nextId ≤ s'.nextId
  moves : ∀ entry ∈ s'.background,
    (∃ old ∈ s.background, SameMove old entry) ∨
      s.NewMove s' entry

/- A session with the same moves carries them over. -/
theorem carries_of_same
    (hSucceeds : s.table.Succeeds s'.table)
    (hBackground : s'.background = s.background)
    (hNextId : s'.nextId = s.nextId) :
    s.Carries s' := by
  constructor
  · exact hSucceeds
  · exact Nat.le_of_eq hNextId.symm
  · intro entry hEntry
    rw [hBackground] at hEntry
    exact .inl ⟨entry, hEntry, rfl, rfl, rfl, rfl⟩

/- A move to a page carries over all moves and adds one. -/
theorem carries_goto
    (s : Session)
    (page : Nat) :
    s.Carries (s.goto page).1 := by
  have hSucceeds := s.table.succeeds_beginGoto page
  have hDue := s.table.due_beginGoto page
  unfold goto
  split
  · exact carries_of_same
      (Controller.succeeds_of_mode rfl rfl rfl) rfl rfl
  · dsimp only
    split
    · next c m hBegun =>
        change s.table.beginGoto page = _ at hBegun
        have hRecords : m.records = true :=
          s.table.records_beginGoto (congrArg Prod.snd hBegun)
        rw [hBegun] at hSucceeds hDue
        constructor
        · exact hSucceeds
        · exact Nat.le_succ s.nextId
        · intro entry hEntry
          rcases List.mem_append.mp hEntry with hOld | hNew
          · exact .inl ⟨entry, hOld, rfl, rfl, rfl, rfl⟩
          · rw [List.mem_singleton] at hNew
            subst hNew
            exact .inr ⟨Nat.le_refl _, Nat.lt_succ_self _,
              hRecords, hDue⟩
    · next c e hBegun =>
        change s.table.beginGoto page = _ at hBegun
        rw [hBegun] at hSucceeds
        exact carries_of_same hSucceeds rfl rfl
    · next c outcome hBegun =>
        change s.table.beginGoto page = _ at hBegun
        rw [hBegun] at hSucceeds
        exact carries_of_same hSucceeds rfl rfl

/- A session that loses a move carries over the others. -/
theorem carries_erase
    (place : Nat)
    (hSucceeds : s.table.Succeeds s'.table)
    (hBackground :
      s'.background = s.background.eraseIdx place)
    (hNextId : s'.nextId = s.nextId) :
    s.Carries s' := by
  constructor
  · exact hSucceeds
  · exact Nat.le_of_eq hNextId.symm
  · intro entry hEntry
    rw [hBackground] at hEntry
    exact .inl ⟨entry, List.mem_of_mem_eraseIdx hEntry,
      rfl, rfl, rfl, rfl⟩

/- What happens to a session by itself begins no move. -/
theorem carries_stir
    (s : Session)
    (stir : Stir) :
    s.Carries (s.stir stir) := by
  have hKept : s.table.Succeeds s.table :=
    Controller.succeeds_of_mode rfl rfl rfl
  have hStirs := s.stirs_stir stir
  generalize s.stir stir = s' at hStirs
  cases hStirs with
  | idle => exact carries_of_same hKept rfl rfl
  | answered place entry rows hEntry =>
      constructor
      · exact hKept
      · exact Nat.le_refl _
      · intro later hLater
        rcases List.mem_or_eq_of_mem_set hLater with hOld | hNew
        · exact .inl ⟨later, hOld, rfl, rfl, rfl, rfl⟩
        · subst hNew
          exact .inl ⟨entry, List.mem_of_getElem? hEntry,
            rfl, rfl, rfl, rfl⟩
  | failed place entry e hEntry =>
      rcases noteEnd_parts { s with
        background := s.background.eraseIdx place }
          entry.1 (.error (.source e)) with
        ⟨-, hTable, hBackground, hNextId⟩
      refine carries_erase place ?_ hBackground hNextId
      rw [hTable]
      exact hKept
  | finished place entry hEntry =>
      rcases noteEnd_parts { s with
        table := (s.table.finish entry.2).1
        background := s.background.eraseIdx place }
          entry.1 (.ok (s.table.finish entry.2).2) with
        ⟨-, hTable, hBackground, hNextId⟩
      rcases s.table.finish_parts entry.2 with
        ⟨hNames, hMode, hPast⟩
      refine carries_erase place ?_ hBackground hNextId
      rw [hTable]
      exact Controller.succeeds_of_mode hNames hPast hMode
  | beat beat =>
      exact carries_of_same
        (s.table.resembles_beat beat).succeeds rfl rfl

/- The beginning of a filter begins no background move. -/
theorem carries_beginFilter
    (backend : Backend)
    (now : Nat)
    (filter : Filter)
    (s : Session) :
    s.Carries (s.beginFilter backend now filter).1 := by
  unfold beginFilter
  split
  · let next := filter.restrictTo s.kind
    let source := backend.source s.kind next
    let c : RowTable :=
      { s.table with nav := next.write s.table.nav }
    have hSucceeds := c.succeeds_beginReplace now source
    exact carries_of_same
      ⟨hSucceeds.names, hSucceeds.past, hSucceeds.stale⟩ rfl rfl
  · exact carries_of_same
      (Controller.succeeds_of_mode rfl rfl rfl) rfl rfl

/- Whatever becomes of a session, it carries its moves over. -/
theorem Stride.carries
    {backend : Backend}
    {filter : Filter}
    {away : Prop}
    (hStride : s.Stride backend filter away s') :
    s.Carries s' := by
  cases hStride with
  | kept =>
      exact carries_of_same
        (Controller.succeeds_of_mode rfl rfl rfl) rfl rfl
  | asked now errand hKeeps hAway =>
      exact carries_of_same
        (s.table.succeeds_undertake now errand) rfl rfl
  | paused now hUse =>
      exact carries_of_same
        (s.table.succeeds_undertake now .togglePause) rfl rfl
  | moved page hUse => exact s.carries_goto page
  | ended m hUse =>
      rcases s.table.finish_parts m with ⟨hNames, hMode, hPast⟩
      exact carries_of_same
        (Controller.succeeds_of_mode hNames hPast hMode) rfl rfl
  | refiltered now =>
      exact s.carries_beginFilter backend now filter
  | stirred stir => exact s.carries_stir stir
  | settled =>
      unfold settle
      split <;>
      · exact carries_of_same
          (Controller.succeeds_of_mode rfl rfl rfl) rfl rfl

/- Background moves stay in time. -/
theorem InTime.carries
    (hInTime : s.InTime)
    (hCarries : s.Carries s')
    (hGrows : ∀ n, s.table.generation n ≤ s'.table.generation n) :
    s'.InTime := by
  constructor
  intro entry hEntry
  rcases hCarries.moves entry hEntry with
    ⟨old, hOld, hSame⟩ | hNew
  · rcases hInTime.moves old hOld with ⟨hId, hRecords, hAwaits⟩
    have hLater := hAwaits.succeeds hCarries.succeeds
      (hGrows old.2.feed)
    exact ⟨hSame.id ▸ Nat.lt_of_lt_of_le hId hCarries.nextId,
      hSame.records.trans hRecords,
      hLater.of_plan hSame.feed hSame.records hSame.plan⟩
  · exact ⟨hNew.below, hNew.records,
      Controller.awaits_of_due hNew.due⟩

/-
  What happens to a session by itself does not wake it up, if
  its moves are in time.
-/
theorem Asleep.stir
    (hAsleep : s.Asleep)
    (hInTime : s.InTime)
    (stir : Stir) :
    (s.stir stir).Asleep := by
  have hMode := s.mode_stir stir
  have hStirs := s.stirs_stir stir
  generalize s.stir stir = s' at hStirs hMode
  have hUnmounted := hMode.trans hAsleep.unmounted
  cases hStirs with
  | idle => exact hAsleep
  | answered place entry rows hEntry =>
      exact asleep_of_unmounted hUnmounted hAsleep.blank
        hAsleep.pending
  | failed place entry e hEntry =>
      rw [noteEnd_of_none (s := { s with
        background := s.background.eraseIdx place })
          hAsleep.pending]
      exact asleep_of_unmounted hAsleep.unmounted hAsleep.blank
        hAsleep.pending
  | finished place entry hEntry =>
      rcases hInTime.moves entry (List.mem_of_getElem? hEntry) with
        ⟨-, hRecords, hAwaits⟩
      have hOutdates :=
        hAwaits.outdates hRecords hAsleep.unmounted
      rw [noteEnd_of_none (s := { s with
        table := (s.table.finish entry.2).1
        background := s.background.eraseIdx place })
          hAsleep.pending] at hUnmounted ⊢
      refine asleep_of_unmounted hUnmounted ?_ hAsleep.pending
      rw [hOutdates.finish.1]
      exact hAsleep.blank
  | beat beat =>
      rw [s.table.beat_of_unmounted hAsleep.unmounted beat]
      exact hAsleep

/- Nor does the beginning of a filter. -/
theorem Asleep.beginFilter
    (hAsleep : s.Asleep)
    (backend : Backend)
    (now : Nat)
    (filter : Filter) :
    (s.beginFilter backend now filter).1.Asleep := by
  have hMode := s.mode_beginFilter backend now filter
  have hUnmounted := hMode.trans hAsleep.unmounted
  unfold Session.beginFilter at hUnmounted ⊢
  split
  · next hAffects =>
      rw [if_pos hAffects] at hUnmounted
      refine asleep_of_unmounted hUnmounted ?_ rfl
      dsimp only
      rw [Controller.beginReplace_eq,
        show ({ s.table with
          nav := (filter.restrictTo s.kind).write s.table.nav } :
            RowTable).mode = .unmounted from hAsleep.unmounted]
      exact ⟨rfl, rfl, rfl⟩
  · exact hAsleep

/- A table that is out of use stays asleep. -/
theorem Stride.asleep
    {backend : Backend}
    {filter : Filter}
    {away : Prop}
    (hStride : s.Stride backend filter away s')
    (hAway : away)
    (hAsleep : s.Asleep)
    (hInTime : s.InTime) :
    s'.Asleep := by
  cases hStride with
  | kept => exact hAsleep
  | asked now errand hKeeps hUse =>
      rw [hUse.mp hAway]
      exact s.asleep_unmount
  | paused now hUse => exact absurd hAway hUse
  | moved page hUse => exact absurd hAway hUse
  | ended m hUse => exact absurd hAway hUse
  | refiltered now => exact hAsleep.beginFilter backend now filter
  | stirred stir => exact hAsleep.stir hInTime stir
  | settled =>
      unfold settle
      rw [hAsleep.pending]
      exact hAsleep

/- Whether every move with a number below `n` is outdated. -/
structure Overtakes
    (s : Session)
    (n : Nat) : Prop where
  numbers : n ≤ s.nextId
  moves : ∀ entry ∈ s.background, entry.1 < n →
    s.table.Outdates entry.2

/- A session that is asleep has overtaken all its moves. -/
theorem overtakes_of_asleep
    (hAsleep : s.Asleep)
    (hInTime : s.InTime) :
    s.Overtakes s.nextId := by
  constructor
  · exact Nat.le_refl _
  · intro entry hEntry hBefore
    rcases hInTime.moves entry hEntry with ⟨-, hRecords, hAwaits⟩
    exact hAwaits.outdates hRecords hAsleep.unmounted

/- Moves that were overtaken stay so. -/
theorem Overtakes.carries
    {n : Nat}
    (hOvertakes : s.Overtakes n)
    (hCarries : s.Carries s')
    (hGrows : ∀ n, s.table.generation n ≤ s'.table.generation n) :
    s'.Overtakes n := by
  constructor
  · exact Nat.le_trans hOvertakes.numbers hCarries.nextId
  · intro entry hEntry hBefore
    rcases hCarries.moves entry hEntry with
      ⟨old, hOld, hSame⟩ | hNew
    · have hOutdates := hOvertakes.moves old hOld
        (hSame.id ▸ hBefore)
      have hLater := hOutdates.grow hCarries.succeeds.past
        (hGrows old.2.feed)
      constructor
      · rw [hSame.feed]
        exact hLater.feed
      · have hOlder := hLater.older
        unfold Move.generation at hOlder ⊢
        rw [hSame.feed, hSame.plan]
        exact hOlder
    · have hAbove := hNew.above
      have hNumbers := hOvertakes.numbers
      omega

/- A move that was overtaken changes neither window nor record. -/
theorem Overtakes.stir
    {n : Nat}
    (hOvertakes : s.Overtakes n)
    {stir : Stir}
    {place id : Nat}
    {m : Move Row Key}
    (hPlace : stir.place? = some place)
    (hEntry : s.background[place]? = some (id, m))
    (hBefore : id < n) :
    (s.stir stir).table.window = s.table.window ∧
      (s.stir stir).table.nav = s.table.nav := by
  have hStirs := s.stirs_stir stir
  generalize s.stir stir = s' at hStirs
  cases hStirs with
  | idle => exact ⟨rfl, rfl⟩
  | answered other entry rows hOther => exact ⟨rfl, rfl⟩
  | failed other entry e hOther =>
      rw [(noteEnd_parts _ _ _).2.1]
      exact ⟨rfl, rfl⟩
  | finished other entry hOther =>
      have hSame : other = place := Option.some.inj hPlace
      rw [hSame, hEntry] at hOther
      rw [(noteEnd_parts _ _ _).2.1, ← Option.some.inj hOther]
      exact (hOvertakes.moves (id, m)
        (List.mem_of_getElem? hEntry) hBefore).finish
  | beat beat => exact nomatch hPlace

end Session

------------------------------------------------------------
-- Workspaces
------------------------------------------------------------

namespace Workspace

variable {w : Workspace}

/- The table that a command goes to is mounted at once. -/
theorem get_entered
    (now : Nat)
    (w : Workspace)
    {command : Command}
    (hEntered : command.tableAfter w.active ≠ w.active) :
    let table := command.tableAfter w.active
    (w.undertake now command).1.sessions.get table =
      some ((w.session table).undertake now .mount).1 := by
  cases command with
  | switchTable table =>
      change table ≠ w.active at hEntered
      show (w.undertake now _).1.sessions.get table =
        some ((w.session table).undertake now .mount).1
      unfold undertake
      dsimp only
      rw [if_neg hEntered, ← current_leaveFor hEntered]
      exact (w.leaveFor table).get_setSession_self table _
  | _ => exact absurd rfl hEntered

/- Whatever becomes of a workspace, its moves are carried over. -/
theorem Passes.carries
    {backend : Backend}
    {filter : Filter}
    {away : TableKind → Prop}
    {w' : Workspace}
    (hPasses : w.Passes backend filter away w')
    (table : TableKind) :
    (w.session table).Carries (w'.session table) := by
  cases hOpen : w'.sessions.get table with
  | some session =>
      rw [session_of_open hOpen]
      exact (hPasses.stride hOpen).carries
  | none =>
      have hNone : w.sessions.get table = none := by
        rw [← Option.not_isSome_iff_eq_none]
        intro hSome
        have hStill := hPasses.opened hSome
        rw [hOpen] at hStill
        exact nomatch hStill
      unfold session
      rw [hOpen, hNone]
      exact Session.carries_of_same
        (Controller.succeeds_of_mode rfl rfl rfl) rfl rfl

end Workspace

namespace Session

/- A table that is asked to mount is shown. -/
theorem shown_undertake_mount
    (now : Nat)
    (s : Session) :
    (s.undertake now .mount).1.table.mode ≠ .unmounted := by
  have hMode : (s.undertake now .mount).1.table.mode =
      s.table.modeAfter .mount :=
    s.table.mode_undertake now .mount
  rw [hMode]
  simp only [Controller.modeAfter]
  split <;> decide

end Session

------------------------------------------------------------
-- Workspaces under Traffic
------------------------------------------------------------

namespace SpaceTraffic

variable {s : SpaceTraffic}

/-
  Whether every abort was counted, and every background move is
  in time.
-/
structure Timely
    (s : SpaceTraffic) : Prop where
  generations : ∀ table n,
    ((s.space.session table).table.generation n).toNat ≤ s.aborts
  moves : ∀ table, (s.space.session table).InTime

/-
  What it takes to stay timely: the sessions carry their moves
  over, and aborts are counted.
-/
structure Advances
    (s s' : SpaceTraffic) : Prop where
  carries : ∀ table, (s.space.session table).Carries
    (s'.space.session table)
  aborts : s'.aborts = s.aborts + s.space.abortsSince s'.space

/- Whatever happens to an attended workspace takes it on. -/
theorem Attended.advances
    (hAttended : s.Attended)
    (event : Event) :
    s.Advances (s.step event) where
  carries := (hAttended.passes event).carries
  aborts := s.aborts_step event

/- So does the mounting of its first table. -/
theorem advances_start
    (settings : Settings) :
    (opening settings).Advances (start settings) := by
  let w := (opening settings).space
  constructor
  · have hPasses : w.Passes w.backend w.filter
        (· ≠ w.active) (w.ask 0 .mount).1 :=
      .ask 0 trivial (by simp)
    exact hPasses.carries
  · rfl

namespace Timely

variable {s' : SpaceTraffic}

/- While aborts are few, no generation is ever taken back. -/
theorem grows
    (hTimely : s.Timely)
    (hAdvances : s.Advances s')
    (hFew : s'.aborts < 2 ^ 64)
    (table : TableKind)
    (n : Nat) :
    (s.space.session table).table.generation n ≤
      (s'.space.session table).table.generation n := by
  have hPast := (hAdvances.carries table).succeeds.past
  have hAborts := s.space.abortsSince_le s'.space table
  rw [hAdvances.aborts] at hFew
  exact Controller.generation_mono hPast
    (hTimely.generations table n) (by omega)

/- A workspace stays timely. -/
theorem advance
    (hTimely : s.Timely)
    (hAdvances : s.Advances s')
    (hFew : s'.aborts < 2 ^ 64) :
    s'.Timely := by
  constructor
  · intro table n
    have hPast := (hAdvances.carries table).succeeds.past
    have hGeneration := Controller.generation_le hPast
      (hTimely.generations table n)
    have hAborts := s.space.abortsSince_le s'.space table
    rw [hAdvances.aborts]
    omega
  · intro table
    exact (hTimely.moves table).carries (hAdvances.carries table)
      (hTimely.grows hAdvances hFew table)

end Timely

/- It is timely before its first table is mounted, -/
theorem timely_opening
    (settings : Settings) :
    (opening settings).Timely := by
  let Bare (session : Session) : Prop :=
    session.background = [] ∧
      ∀ n, session.table.generation n = 0
  have hNew (backend : Backend) (kind : TableKind)
      (config : PagerConfig) (nav : Params) :
      Bare (.new backend kind config nav) := by
    refine ⟨rfl, fun n => ?_⟩
    unfold Controller.generation
    split <;> rfl
  have hBare (table : TableKind) :
      Bare ((opening settings).space.session table) := by
    refine Workspace.session_induction (fun session hOpen => ?_)
      (hNew _ _ _ _)
    rw [(of_get_opening hOpen).2]
    exact hNew _ _ _ _
  constructor
  · intro table n
    rw [(hBare table).2]
    exact Nat.zero_le _
  · intro table
    constructor
    intro entry hEntry
    rw [(hBare table).1] at hEntry
    exact absurd hEntry List.not_mem_nil

/- No abort is taken back by what happens. -/
theorem aborts_le_run
    (s : SpaceTraffic)
    (events : List Event) :
    s.aborts ≤ (s.run events).aborts := by
  induction events generalizing s with
  | nil => exact Nat.le_refl _
  | cons event rest ih =>
      have hStep : s.aborts ≤ (s.step event).aborts := by
        rw [s.aborts_step event]
        exact Nat.le_add_right _ _
      exact Nat.le_trans hStep (ih (s.step event))

/-
  Whether a workspace is attended and timely, the table in use
  is shown, and all other tables are asleep.
-/
structure Alone
    (s : SpaceTraffic) : Prop where
  attended : s.Attended
  timely : s.Timely
  shown : ∀ {session},
    s.space.sessions.get s.space.active = some session →
      session.table.mode ≠ .unmounted
  hidden : ∀ {table session},
    s.space.sessions.get table = some session →
      table ≠ s.space.active → session.Asleep

namespace Alone

/- The table in use is shown after what a workspace goes on from. -/
theorem shown_step
    (hAlone : s.Alone)
    {event : Event}
    (hGoesOn : event.GoesOn)
    {session : Session}
    (hOpen :
      (s.step event).space.sessions.get
        (s.step event).space.active = some session) :
    session.table.mode ≠ .unmounted := by
  have hPasses := hAlone.attended.passes event
  by_cases hSame :
      (s.step event).space.active = s.space.active
  · have hUse : ¬s.Away event (s.step event).space.active := by
      rintro (hOther | hEnds)
      · exact hOther rfl
      · exact hEnds hGoesOn
    have hShown :
        (s.space.session (s.step event).space.active).table.mode ≠
          .unmounted := by
      rcases Option.isSome_iff_exists.mp hAlone.attended.present
        with ⟨before, hBefore⟩
      rw [hSame, Workspace.session_of_open hBefore]
      exact hAlone.shown hBefore
    rcases (hPasses.stride hOpen).mode with hKept | hAway
    · rw [hKept]
      exact hShown
    · exact fun hUnmounted => hUse (hAway.mp hUnmounted)
  · rcases s.common_step event with
      ⟨now, command, -, -, hStep⟩ | ⟨hActive, -, -⟩
    · rw [hStep] at hOpen hSame
      have hActive := (s.space.undertake_parts now command).1
      rw [show (s.obey now command).space.active =
        command.tableAfter s.space.active from hActive]
        at hOpen hSame
      have hEntered := s.space.get_entered now hSame
      rw [← Option.some.inj (hEntered.symm.trans hOpen)]
      exact Session.shown_undertake_mount now _
    · exact absurd hActive hSame

/- Tables out of use are asleep after whatever happens. -/
theorem hidden_step
    (hAlone : s.Alone)
    (event : Event)
    {table : TableKind}
    {session : Session}
    (hOpen :
      (s.step event).space.sessions.get table = some session)
    (hOther : table ≠ (s.step event).space.active) :
    session.Asleep := by
  have hStride := (hAlone.attended.passes event).stride hOpen
  by_cases hUsed : table = s.space.active
  · rw [hUsed] at hOther hOpen
    rw [eq_unmount_of_left hOpen hOther]
    exact Session.asleep_unmount _
  · have hAsleep : (s.space.session table).Asleep :=
      Workspace.session_induction
        (fun before hBefore => hAlone.hidden hBefore hUsed)
        (Session.asleep_freshSession _ _)
    exact hStride.asleep (.inl hOther) hAsleep
      (hAlone.timely.moves table)

/- Only the table in use lives after such an event, -/
theorem step
    (hAlone : s.Alone)
    {event : Event}
    (hGoesOn : event.GoesOn)
    (hFew : (s.step event).aborts < 2 ^ 64) :
    (s.step event).Alone where
  attended := hAlone.attended.step event
  timely :=
    hAlone.timely.advance (hAlone.attended.advances event) hFew
  shown hOpen := hAlone.shown_step hGoesOn hOpen
  hidden hOpen hOther := hAlone.hidden_step event hOpen hOther

/- and in a whole run of them. -/
theorem run
    (hAlone : s.Alone)
    {events : List Event}
    (hGoesOn : ∀ event ∈ events, event.GoesOn)
    (hFew : (s.run events).aborts < 2 ^ 64) :
    (s.run events).Alone := by
  induction events generalizing s with
  | nil => exact hAlone
  | cons event rest ih =>
      rw [List.forall_mem_cons] at hGoesOn
      have hNext : (s.step event).aborts < 2 ^ 64 :=
        Nat.lt_of_le_of_lt (aborts_le_run _ rest) hFew
      exact ih (hAlone.step hGoesOn.1 hNext) hGoesOn.2 hFew

end Alone

/- What was overtaken once is overtaken for good. -/
theorem overtakes_run
    (hTimely : s.Timely)
    (hAttended : s.Attended)
    {table : TableKind}
    {n : Nat}
    (hOvertakes : (s.space.session table).Overtakes n)
    (events : List Event)
    (hFew : (s.run events).aborts < 2 ^ 64) :
    ((s.run events).space.session table).Overtakes n := by
  induction events generalizing s with
  | nil => exact hOvertakes
  | cons event rest ih =>
      have hNext : (s.step event).aborts < 2 ^ 64 :=
        Nat.lt_of_le_of_lt (aborts_le_run _ rest) hFew
      have hAdvances := hAttended.advances event
      refine ih (hTimely.advance hAdvances hNext)
        (hAttended.step event) ?_ hFew
      exact hOvertakes.carries (hAdvances.carries table)
        (hTimely.grows hAdvances hNext table)

/- Only the first table lives when a workspace starts. -/
theorem alone_start
    (settings : Settings)
    (hFew : (start settings).aborts < 2 ^ 64) :
    (start settings).Alone where
  attended := attended_start settings
  timely :=
    (timely_opening settings).advance (advances_start settings)
      hFew
  shown hOpen := by
    rw [(of_get_start hOpen).2]
    exact Session.shown_undertake_mount 0 _
  hidden hOpen hOther := absurd (of_get_start hOpen).1 hOther

/- A table that is left overtakes all its moves. -/
theorem Alone.overtakes_of_left
    (hAlone : s.Alone)
    (hIdle : s.idle = true)
    (now : Nat)
    {next : TableKind}
    (hNext : next ≠ s.space.active)
    (hFew :
      (s.step (.command now (.switchTable next))).aborts <
        2 ^ 64) :
    let left := s.step (.command now (.switchTable next))
    left.Alone ∧
      (left.space.session s.space.active).Overtakes
        (s.space.session s.space.active).nextId := by
  intro left
  have hLeft : left.Alone := hAlone.step trivial hFew
  have hStep : left = s.obey now (.switchTable next) :=
    if_pos hIdle
  have hOpen :
      left.space.sessions.get s.space.active =
        some s.space.current.unmount := by
    rw [hStep]
    exact s.space.get_left now (Ne.symm hNext)
  have hInTime := hLeft.timely.moves s.space.active
  refine ⟨hLeft, ?_⟩
  rw [Workspace.session_of_open hOpen] at hInTime ⊢
  exact Session.overtakes_of_asleep
    s.space.current.asleep_unmount hInTime

/- Whether an event serves a background move of a table. -/
def Serves
    (s : SpaceTraffic)
    (event : Event)
    (table : TableKind)
    (id : Nat) : Prop :=
  ∃ stir place m, event = .stir table stir ∧
    stir.place? = some place ∧
    (s.space.session table).background[place]? = some (id, m)

/- A move that was overtaken changes nothing that matters. -/
theorem kept_of_serves
    {table : TableKind}
    {n : Nat}
    (hOvertakes : (s.space.session table).Overtakes n)
    {event : Event}
    {id : Nat}
    (hServes : s.Serves event table id)
    (hBefore : id < n) :
    let before := (s.space.session table).table
    let after := ((s.step event).space.session table).table
    after.window = before.window ∧ after.nav = before.nav := by
  rcases hServes with ⟨stir, place, m, hEvent, hPlace, hEntry⟩
  subst hEvent
  cases hOpen : s.space.sessions.get table with
  | some session =>
      have hAfter :
          (s.step (.stir table stir)).space.session table =
            session.stir stir := by
        show (s.space.alter table
          (Session.stir · stir)).session table = _
        rw [Workspace.alter_of_open _ hOpen]
        exact Workspace.session_of_open
          (s.space.get_setSession_self table _)
      rw [hAfter, Workspace.session_of_open hOpen]
      rw [Workspace.session_of_open hOpen] at hOvertakes hEntry
      exact hOvertakes.stir hPlace hEntry hBefore
  | none =>
      have hAfter :
          (s.step (.stir table stir)).space = s.space :=
        Workspace.alter_of_none _ hOpen
      rw [hAfter]
      exact ⟨rfl, rfl⟩

/- A workspace that starts with the holders of a token. -/
def atHolders : Settings :=
  { backend := Workspace.twoTokens
    config := { pageSize := 2 }
    table := .transactions
    link := some ⟨"holders", Workspace.ofFirstToken⟩ }

/- A page of the holders, as it is loaded. -/
def holdersPage (accounts : List UInt64) : Event :=
  .answer (.ok (some (Workspace.holdersOf accounts).rows))

/- The holders are shown, and ask for their second page. -/
def beforeLeaving : List Event :=
  [ holdersPage [15, 14], .finish
  , .command 0 (.gotoPage 2) ]

/-
  The second page is loaded while the tokens cannot be, and the
  holders are asked for again.
-/
def untilReturn : List Event :=
  [ .stir .holders
      (.answer 0
        (.ok (some (Workspace.holdersOf [13, 12]).rows)))
  , .answer (.error .unreadable)
  , .command 0 (.switchTable .holders) ]

/-
  The holders are left while a move to their second page is
  loading, and that move ends once they are shown again.
-/
def returning : List Event :=
  beforeLeaving ++ .command 0 (.switchTable .tokens) ::
    (untilReturn ++ .stir .holders (.finish 0) ::
      [holdersPage [15, 14], .finish])

end SpaceTraffic

end LedgerView
