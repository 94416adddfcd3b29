/-
  Where files are kept.

  The environment may name the settings file, or the folders of
  settings and of data; otherwise both are found below the home
  folder.

  Key definitions include:
    * `Environment`
    * `joinPath`
    * `Environment.configFile?`
    * `Environment.dataFolder?`
    * `Environment.logFile?`
    * `Environment.exportFolder?`
-/

namespace LedgerView

/- What the environment says of files.  A name may be empty. -/
structure Environment where
  /- The settings file itself. -/
  configFile : Option String := none
  configHome : Option String := none
  dataHome : Option String := none
  home : Option String := none
deriving Repr, DecidableEq, Inhabited

/-
  A relative path below a folder.  Below an empty path it stands
  for itself.
-/
def joinPath
    (folder part : String) : String :=
  if folder.isEmpty || folder.endsWith "/" then
    folder ++ part
  else
    folder ++ "/" ++ part

/- A path of several parts below a folder. -/
def joinPaths
    (folder : String)
    (parts : List String) : String :=
  parts.foldl joinPath folder

namespace Environment

/- The settings file. -/
def configFile?
    (e : Environment) : Option String :=
  let below := fun parts folder =>
    joinPaths folder (parts ++ ["ledgerscope", "config.toml"])
  e.configFile <|> e.configHome.map (below []) <|>
    e.home.map (below [".config"])

/- The folder of data. -/
def dataFolder?
    (e : Environment) : Option String :=
  let below := fun parts folder =>
    joinPaths folder (parts ++ ["ledgerscope"])
  e.dataHome.map (below []) <|>
    e.home.map (below [".local", "share"])

/- The log file. -/
def logFile?
    (e : Environment) : Option String :=
  e.dataFolder?.map fun folder =>
    joinPath folder "ledgerscope.log"

/- The folder of exported pages. -/
def exportFolder?
    (e : Environment) : Option String :=
  e.dataFolder?.map fun folder => joinPath folder "exports"

end Environment

end LedgerView
