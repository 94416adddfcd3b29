import LedgerView.Viewer.Basic

/-
  Keys.

  While a command is typed, characters go into it.  While help
  is shown, only the keys that close it count.  Otherwise each
  key has a meaning of its own.

  Key definitions include:
    * `KeyCode`
    * `Press`
    * `Press.ofName`
    * `Viewer.press`
-/

namespace LedgerView

/- A key. -/
inductive KeyCode where
  | char (c : Char)
  | tab
  | enter
  | escape
  | backspace
  | left
  | right
  | up
  | down
  | pageUp
  | pageDown
  | other
deriving Repr, DecidableEq

/- What a key did. -/
structure Press where
  code : KeyCode
  control : Bool := false
  /- Whether the key was let go. -/
  released : Bool := false
deriving Repr, DecidableEq

/- The keys that have names, other than characters. -/
def KeyCode.named : List (String × KeyCode) :=
  [ ("Tab", .tab)
  , ("Enter", .enter)
  , ("Esc", .escape)
  , ("Backspace", .backspace)
  , ("Left", .left)
  , ("Right", .right)
  , ("Up", .up)
  , ("Down", .down)
  , ("PageUp", .pageUp)
  , ("PageDown", .pageDown) ]

/- The key of a name; a character names itself. -/
def KeyCode.ofName
    (name : String) : KeyCode :=
  match name.toList with
  | [c] => .char c
  | _ => (KeyCode.named.lookup name).getD .other

namespace Press

/- The rest of a name that starts in some way. -/
def after?
    (start name : String) : Option String :=
  if name.startsWith start then
    some (String.ofList (name.toList.drop start.length))
  else
    none

/-
  The press of a name, before which it may stand that the key
  is let go, and then that it is pressed with Control.
-/
def ofName
    (name : String) : Press :=
  let released := after? "release+" name
  let name := released.getD name
  let control := after? "ctrl+" name
  { code := .ofName (control.getD name)
    control := control.isSome
    released := released.isSome }

end Press

namespace Viewer

------------------------------------------------------------
-- Plain Keys
------------------------------------------------------------

/- How many rows the keys for the page size add or remove. -/
def resizeStep : Int := 5

/- What a key means when nothing is typed. -/
def onKey
    (v : Viewer)
    (target : ExportTarget)
    (code : KeyCode) : Reaction :=
  let send := fun command =>
    { viewer := v, action := .send command : Reaction }
  match code with
  | .char 'q' => { viewer := v, action := .quit }
  | .char '?' => { viewer := v, action := .toggleHelp }
  | .char ':' => { viewer := { v with typed := some [] } }
  | .char 'n' | .right | .pageDown => send .nextPage
  | .char 'p' | .left | .pageUp => send .previousPage
  | .char 'l' => send .live
  | .char ' ' => send .togglePause
  | .char 'r' => send .refresh
  | .char 'j' | .down => { viewer := v.selectNext }
  | .char 'k' | .up => { viewer := v.selectPrevious }
  | .char '+' | .char '=' => { viewer := v.resize resizeStep }
  | .char '-' => { viewer := v.resize (-resizeStep) }
  | .tab => { viewer := v.nextTable }
  | .char 'y' => v.copy v.link? "Nothing to copy"
  | .char 'Y' => v.copy v.selectedKey? "Nothing to copy"
  | .char 'e' => v.save target .csv
  | _ => { viewer := v }

------------------------------------------------------------
-- Typing
------------------------------------------------------------

/- Carry out what was typed; blanks alone mean nothing. -/
def submit
    (v : Viewer)
    (target : ExportTarget)
    (typed : List Char) : Reaction :=
  let v := { v with typed := none }
  if (Text.trimChars typed).isEmpty then
    { viewer := v }
  else
    v.execute target (String.ofList typed)

/- What a key means while a command is typed. -/
def onTyping
    (v : Viewer)
    (target : ExportTarget)
    (typed : List Char)
    (code : KeyCode) : Reaction :=
  match code with
  | .escape => { viewer := { v with typed := none } }
  | .enter => v.submit target typed
  | .backspace =>
      { viewer :=
          { v with
            typed :=
              if typed.isEmpty then none
              else some typed.dropLast } }
  | .char c => { viewer := { v with typed := some (typed ++ [c]) } }
  | _ => { viewer := v }

------------------------------------------------------------
-- Presses
------------------------------------------------------------

/- Whether a key closes the help. -/
def closesHelp
    (code : KeyCode) : Bool :=
  [.escape, .char '?', .char 'q'].contains code

/- React to a key; tells the file to be written, if any. -/
def press
    (v : Viewer)
    (target : ExportTarget)
    (p : Press) : Viewer × Option ExportFile :=
  if p.released then
    (v, none)
  else if p.control && p.code == .char 'c' then
    ({ v with quit := true }, none)
  else if v.helpOpen then
    (if closesHelp p.code then { v with helpOpen := false } else v,
      none)
  else
    let reaction :=
      match v.typed with
      | none => v.onKey target p.code
      | some typed => v.onTyping target typed p.code
    (reaction.viewer.dispatch reaction.action, reaction.file)

/- React to keys in turn; tells the last file to be written. -/
def pressAll
    (v : Viewer)
    (target : ExportTarget)
    (presses : List Press) : Viewer × Option ExportFile :=
  presses.foldl
    (fun (v, file) p =>
      let (v, next) := v.press target p
      (v, next <|> file))
    (v, none)

end Viewer

end LedgerView
