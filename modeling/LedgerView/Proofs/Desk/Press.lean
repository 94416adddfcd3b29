import LedgerView.Viewer.Keys

/-
  What a key comes to.

  As far as the workspace is concerned a key does one of four
  things: nothing, or it asks for something that concerns
  neither table nor filter, or it shows another table, or it
  carries out a typed change of the filter.  Such a change is
  applied to the viewer's copy of the filter, and is only asked
  for if the copy changes.

  Key definitions include:
    * `FilterChange`
    * `Viewer.change?`
    * `Viewer.Reacts`

  Key theorems include:
    * `Viewer.reacts_press`
-/

namespace LedgerView

------------------------------------------------------------
-- Changes of the Filter
------------------------------------------------------------

/- A change of the filter that a user asks for. -/
inductive FilterChange where
  | account (id : EntityId)
  | token (id : EntityId)
  | clear
deriving DecidableEq

/- The filter after a change. -/
def FilterChange.apply
    (f : Filter) : FilterChange → Filter
  | .account id => { f with account := some id }
  | .token id => { f with token := some id }
  | .clear => {}

/- The change of the filter that a typed command asks for. -/
def PromptCommand.change? :
    PromptCommand → Option FilterChange
  | .account text =>
      (EntityId.parse text).toOption.map .account
  | .token text =>
      (EntityId.parse text).toOption.map .token
  | .clear => some .clear
  | _ => none

/- The change of the filter that a typed text asks for. -/
def FilterChange.ofTyped?
    (typed : List Char) : Option FilterChange :=
  if (Text.trimChars typed).isEmpty then none
  else (PromptCommand.parse (String.ofList typed)).change?

/- The change of the filter that a key carries out. -/
def Viewer.change?
    (v : Viewer)
    (p : Press) : Option FilterChange :=
  if p.released then
    none
  else if p.control && p.code == .char 'c' then
    none
  else if v.helpOpen then
    none
  else
    match v.typed with
    | none => none
    | some typed =>
        if p.code = .enter then FilterChange.ofTyped? typed
        else none

/- Whether a command concerns neither table nor filter. -/
def Command.Plain : Command → Prop
  | .switchTable _ | .setFilter _ | .shutdown => False
  | _ => True

------------------------------------------------------------
-- Reactions
------------------------------------------------------------

namespace Viewer

/-
  How a viewer reacts to a key, with the change of the filter
  that the key carries out, if it does.
-/
inductive Reacts
    (v : Viewer) : Option FilterChange → Viewer → Prop where
  /- Nothing is asked of the workspace. -/
  | aside
      {v' : Viewer}
      (hTable : v'.table = v.table)
      (hPage : v'.page = v.page)
      (hFilter : v'.filter = v.filter)
      (hOutbox : v'.outbox = v.outbox) :
      Reacts v none v'
  /- Something is asked of the table that is shown. -/
  | asks
      {v' : Viewer}
      {command : Command}
      (hPlain : command.Plain)
      (hTable : v'.table = v.table)
      (hPage : v'.page = v.page)
      (hFilter : v'.filter = v.filter)
      (hOutbox : v'.outbox = v.outbox ++ [command]) :
      Reacts v none v'
  /- Another table is shown. -/
  | switches
      {v' : Viewer}
      (hTable : v'.table ≠ v.table)
      (hPage : v'.page = none)
      (hFilter : v'.filter = v.filter)
      (hOutbox :
        v'.outbox = v.outbox ++ [.switchTable v'.table]) :
      Reacts v none v'
  /- A change leaves the copy of the filter as it is. -/
  | suppresses
      {v' : Viewer}
      {change : FilterChange}
      (hSame : change.apply v.filter = v.filter)
      (hTable : v'.table = v.table)
      (hPage : v'.page = v.page)
      (hFilter : v'.filter = v.filter)
      (hOutbox : v'.outbox = v.outbox) :
      Reacts v (some change) v'
  /- A change leads to another filter. -/
  | filters
      {v' : Viewer}
      {change : FilterChange}
      (hTable : v'.table = v.table)
      (hPage : v'.page = v.page)
      (hFilter : v'.filter = change.apply v.filter)
      (hOutbox :
        v'.outbox =
          v.outbox ++ [.setFilter (change.apply v.filter)]) :
      Reacts v (some change) v'

/- It does not matter what has been typed before. -/
theorem Reacts.of_typed
    {v v' : Viewer}
    {typed : Option (List Char)}
    {change : Option FilterChange}
    (hReacts : Reacts { v with typed := typed } change v') :
    Reacts v change v' := by
  cases hReacts with
  | aside hTable hPage hFilter hOutbox =>
      exact .aside hTable hPage hFilter hOutbox
  | asks hPlain hTable hPage hFilter hOutbox =>
      exact .asks hPlain hTable hPage hFilter hOutbox
  | switches hTable hPage hFilter hOutbox =>
      exact .switches hTable hPage hFilter hOutbox
  | suppresses hSame hTable hPage hFilter hOutbox =>
      exact .suppresses hSame hTable hPage hFilter hOutbox
  | filters hTable hPage hFilter hOutbox =>
      exact .filters hTable hPage hFilter hOutbox

/- How the viewer is after a reaction. -/
def settleReaction
    (r : Reaction) : Viewer :=
  r.viewer.dispatch r.action

variable (v : Viewer) (target : ExportTarget)

/- Nothing need happen. -/
theorem reacts_self :
    Reacts v none v :=
  .aside rfl rfl rfl rfl

/- Something can be asked of the table that is shown. -/
theorem reacts_request
    (command : Command)
    (hPlain : command.Plain) :
    Reacts v none (v.request command) :=
  .asks hPlain rfl rfl rfl rfl

/- The page can be resized, if there is one. -/
theorem reacts_resize
    (delta : Int) :
    Reacts v none (v.resize delta) := by
  unfold resize
  split
  · exact reacts_self v
  · dsimp only
    split
    · exact reacts_self v
    · exact reacts_request v _ trivial

/- A row can be selected. -/
theorem reacts_selectNext :
    Reacts v none v.selectNext := by
  unfold selectNext
  dsimp only
  split
  · exact .aside rfl rfl rfl rfl
  · exact reacts_self v

/- A text can be copied. -/
theorem reacts_copy
    (text : Option String)
    (otherwise : String) :
    Reacts v none (settleReaction (v.copy text otherwise)) := by
  unfold copy
  split <;> exact .aside rfl rfl rfl rfl

/- The page can be saved. -/
theorem reacts_save
    (format : ExportFormat) :
    Reacts v none (settleReaction (v.save target format)) := by
  unfold save
  split <;> exact .aside rfl rfl rfl rfl

/- A table can be chosen. -/
theorem reacts_switchTable
    (table : TableKind) :
    Reacts v none (v.switchTable table) := by
  unfold switchTable
  split
  · exact reacts_self v
  · next hOther => exact .switches hOther rfl rfl rfl

/- It can be chosen by a name. -/
theorem reacts_chooseTable
    (name : String) :
    Reacts v none (settleReaction (v.chooseTable name)) := by
  unfold chooseTable
  split
  · exact reacts_switchTable v _
  · exact .aside rfl rfl rfl rfl

/- A change of the filter is carried out on the copy. -/
theorem reacts_chooseFilter
    (change : FilterChange) :
    Reacts v (some change)
      (settleReaction
        (v.chooseFilter (change.apply v.filter))) := by
  unfold chooseFilter
  split
  · next hSame => exact .suppresses hSame rfl rfl rfl rfl
  · exact .filters rfl rfl rfl rfl

/- So is a change by an entity id, if it can be read. -/
theorem reacts_chooseEntity
    (text : String)
    (change : EntityId → FilterChange) :
    Reacts v ((EntityId.parse text).toOption.map change)
      (settleReaction
        (v.chooseEntity text fun id =>
          (change id).apply v.filter)) := by
  unfold chooseEntity
  cases EntityId.parse text with
  | ok id => exact reacts_chooseFilter v (change id)
  | error e => exact .aside rfl rfl rfl rfl

/- A typed command is carried out. -/
theorem reacts_perform
    (command : PromptCommand) :
    Reacts v command.change?
      (settleReaction (v.perform target command)) := by
  cases command with
  | page number => exact reacts_request v (.gotoPage number) trivial
  | size rows => exact reacts_request v (.setPageSize rows) trivial
  | live => exact reacts_request v .live trivial
  | table name => exact reacts_chooseTable v name
  | account text => exact reacts_chooseEntity v text .account
  | token text => exact reacts_chooseEntity v text .token
  | clear => exact reacts_chooseFilter v .clear
  | save format => exact reacts_save v target format
  | link => exact reacts_copy v _ _
  | help => exact .aside rfl rfl rfl rfl
  | quit => exact .aside rfl rfl rfl rfl
  | unknown text => exact .aside rfl rfl rfl rfl

/- A key that means something by itself is followed. -/
theorem reacts_onKey
    (code : KeyCode) :
    Reacts v none (settleReaction (v.onKey target code)) := by
  unfold onKey
  dsimp only
  split
  case h_1 | h_2 | h_3 => exact .aside rfl rfl rfl rfl
  case h_4 | h_5 | h_6 => exact reacts_request v .nextPage trivial
  case h_7 | h_8 | h_9 =>
    exact reacts_request v .previousPage trivial
  case h_10 => exact reacts_request v .live trivial
  case h_11 => exact reacts_request v .togglePause trivial
  case h_12 => exact reacts_request v .refresh trivial
  case h_13 | h_14 => exact reacts_selectNext v
  case h_15 | h_16 => exact .aside rfl rfl rfl rfl
  case h_17 | h_18 => exact reacts_resize v resizeStep
  case h_19 => exact reacts_resize v (-resizeStep)
  case h_20 => exact reacts_switchTable v v.table.next
  case h_21 | h_22 => exact reacts_copy v _ _
  case h_23 => exact reacts_save v target .csv
  case h_24 => exact reacts_self v

/- What was typed is carried out. -/
theorem reacts_submit
    (typed : List Char) :
    Reacts v (FilterChange.ofTyped? typed)
      (settleReaction (v.submit target typed)) := by
  unfold submit FilterChange.ofTyped?
  dsimp only
  split
  · exact .aside rfl rfl rfl rfl
  · exact (reacts_perform { v with typed := none } target
      (.parse (String.ofList typed))).of_typed

/- A key means something while a command is typed. -/
theorem reacts_onTyping
    (typed : List Char)
    (code : KeyCode) :
    Reacts v
      (if code = .enter then FilterChange.ofTyped? typed else none)
      (settleReaction (v.onTyping target typed code)) := by
  unfold onTyping
  cases code with
  | enter => exact reacts_submit v target typed
  | _ => exact .aside rfl rfl rfl rfl

/- A viewer reacts to every key in one of these ways. -/
theorem reacts_press
    (p : Press) :
    Reacts v (v.change? p) (v.press target p).1 := by
  unfold press change?
  split
  · exact reacts_self v
  · split
    · exact .aside rfl rfl rfl rfl
    · split
      · dsimp only
        split
        · exact .aside rfl rfl rfl rfl
        · exact reacts_self v
      · cases v.typed with
        | none => exact reacts_onKey v target p.code
        | some typed => exact reacts_onTyping v target typed p.code

end Viewer

end LedgerView
