import LedgerView.Config.Basic
import LedgerView.Table.Kind

/-
  Arguments of the command line.

  An option takes its value after an equals sign, or from the
  next argument, which must not begin with a hyphen.  No option
  is given twice.  Arguments count from left to right; a value
  that follows its option is looked at only when the next known
  option comes, or at the end.

  Key definitions include:
    * `Arguments`
    * `ArgumentFault`
    * `Arguments.parse`
    * `SettingsError`
    * `Arguments.settings`
-/

namespace LedgerView

/- What the command line says. -/
structure Arguments where
  nodeUrl : Option String := none
  demo : Bool := false
  table : Option TableKind := none
  link : Option String := none
  pageSize : Option Nat := none
  logLevel : Option String := none
deriving Repr, DecidableEq, Inhabited

/- Why a command line is not followed. -/
inductive ArgumentFault where
  | unknown
  | missingValue
  | unwantedValue
  | badValue
  | conflict
  /- Not a fault: only help, or the version, is wanted. -/
  | helpWanted
  | versionWanted
deriving Repr, DecidableEq

namespace Arguments

------------------------------------------------------------
-- Options
------------------------------------------------------------

/- The options that take a value. -/
inductive Named where
  | nodeUrl
  | table
  | link
  | pageSize
  | logLevel
deriving Repr, DecidableEq

/- The options that take none. -/
inductive Plain where
  | demo
  | help
  | version
deriving Repr, DecidableEq

/- The option of a name. -/
def option? : String → Option (Named ⊕ Plain)
  | "mirror" => some (.inl .nodeUrl)
  | "table" => some (.inl .table)
  | "link" => some (.inl .link)
  | "page-size" => some (.inl .pageSize)
  | "log-level" => some (.inl .logLevel)
  | "demo" => some (.inr .demo)
  | "help" => some (.inr .help)
  | "version" => some (.inr .version)
  | _ => none

/- The option of a letter. -/
def letter? : Char → Option Plain
  | 'h' => some .help
  | 'V' => some .version
  | _ => none

/- Whether an option has been given. -/
def has
    (a : Arguments) : Named → Bool
  | .nodeUrl => a.nodeUrl.isSome
  | .table => a.table.isSome
  | .link => a.link.isSome
  | .pageSize => a.pageSize.isSome
  | .logLevel => a.logLevel.isSome

/- The table to be shown first. -/
def firstTable
    (a : Arguments) : TableKind :=
  a.table.getD .transactions

/- Take over a value. -/
def setValue?
    (a : Arguments)
    (value : String) : Named → Option Arguments
  | .nodeUrl => some { a with nodeUrl := some value }
  | .table => do
      let kind ← (TableKind.parse value).toOption
      return { a with table := some kind }
  | .link => some { a with link := some value }
  | .pageSize => do
      let n ← Text.natural? (2 ^ 64) value.toList
      return { a with pageSize := some n }
  | .logLevel => some { a with logLevel := some value }

/- Take over a value of an option, unless it had one. -/
def give
    (a : Arguments)
    (option : Named)
    (value : String) : Except ArgumentFault Arguments :=
  if a.has option then
    .error .conflict
  else
    match a.setValue? value option with
    | some a => .ok a
    | none => .error .badValue

/- Take over an option without a value. -/
def turnOn
    (a : Arguments) : Plain → Except ArgumentFault Arguments
  | .demo =>
      if a.demo then .error .conflict
      else .ok { a with demo := true }
  | .help => .error .helpWanted
  | .version => .error .versionWanted

------------------------------------------------------------
-- Reading
------------------------------------------------------------

/- How far a command line has been read. -/
structure Reading where
  taken : Arguments := {}
  /- The last option, with its value once it is there. -/
  pending : Option (Named × Option String) := none
  /- Whether options have been declared to be over. -/
  ended : Bool := false

namespace Reading

/- Take over the last option. -/
def resolve
    (r : Reading) : Except ArgumentFault Reading :=
  match r.pending with
  | none => .ok r
  | some (_, none) => .error .missingValue
  | some (option, some value) => do
      let taken ← r.taken.give option value
      return { r with taken := taken, pending := none }

/- Read an option without a value. -/
def plain
    (r : Reading)
    (option : Plain) : Except ArgumentFault Reading := do
  let r ← r.resolve
  return { r with taken := ← r.taken.turnOn option }

/- Read an option by name, with the value attached to it. -/
def named
    (r : Reading)
    (name : String)
    (attached : Option String) : Except ArgumentFault Reading :=
  match option? name, attached with
  | none, _ => .error .unknown
  | some (.inr _), some _ => .error .unwantedValue
  | some (.inr option), none => r.plain option
  | some (.inl option), none => do
      return { ← r.resolve with pending := some (option, none) }
  | some (.inl option), some value => do
      let r ← r.resolve
      return { r with taken := ← r.taken.give option value }

/- Read options by letter.  Each of them ends the reading. -/
def letters
    (r : Reading) : List Char → Except ArgumentFault Reading
  | [] => .ok r
  | c :: rest =>
      match letter? c with
      | none => .error .unknown
      | some option => do (← r.plain option).letters rest

/- Read what can only be a value. -/
def value
    (r : Reading)
    (text : String) : Except ArgumentFault Reading :=
  match r.pending with
  | some (option, none) =>
      .ok { r with pending := some (option, some text) }
  | _ => .error .unknown

/- The parts of an option by name. -/
def splitNamed
    (text : List Char) : String × Option String :=
  let (name, attached) := Text.splitFirst (· == '=') text
  (String.ofList name, attached.map String.ofList)

/- Read one argument. -/
def argument
    (r : Reading)
    (text : String) : Except ArgumentFault Reading :=
  if r.ended then
    .error .unknown
  else
    match text.toList with
    | ['-', '-'] => .ok { r with ended := true }
    | '-' :: '-' :: rest =>
        let (name, attached) := splitNamed rest
        r.named name attached
    | '-' :: c :: rest => r.letters (c :: rest)
    | _ => r.value text

end Reading

/- Read a command line. -/
def parse
    (arguments : List String) : Except ArgumentFault Arguments := do
  let read ← arguments.foldlM Reading.argument {}
  let taken := (← read.resolve).taken
  if taken.demo && taken.nodeUrl.isSome then
    .error .conflict
  else
    .ok taken

end Arguments

------------------------------------------------------------
-- Settings
------------------------------------------------------------

/- At which point settings were found to be at fault. -/
inductive SettingsError where
  | loading (cause : ConfigError)
  | overriding (cause : ConfigError)
deriving Repr, DecidableEq

namespace SettingsError

/- What is at fault. -/
def cause : SettingsError → ConfigError
  | loading cause => cause
  | overriding cause => cause

/- The wording shown to users. -/
def message
    (e : SettingsError) : String :=
  let point :=
    match e with
    | loading _ => "Failed to load config"
    | overriding _ => "Invalid settings"
  ": ".intercalate (point :: e.cause.message?.toList)

end SettingsError

namespace Arguments

/- Settings with what the command line says put above them. -/
def override
    (a : Arguments)
    (c : Config) : Config :=
  { c with
    nodeUrl := a.nodeUrl.getD c.nodeUrl
    pageSize := a.pageSize.getD c.pageSize
    logLevel := a.logLevel.getD c.logLevel }

/- The settings in force, given those that were loaded. -/
def settings
    (a : Arguments)
    (loaded : Except ConfigError Config) :
    Except SettingsError Config :=
  match loaded with
  | .error e => .error (.loading e)
  | .ok c => (a.override c).validate.mapError .overriding

end Arguments

end LedgerView
