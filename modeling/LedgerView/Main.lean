import LedgerView.Config.Arguments
import LedgerView.Screen.Draw
import LedgerView.Viewer.Desk

/-
  The command line.

  Each line of standard input names a key, and an empty line
  lets some time pass.  After each line the screen is printed.
  An exported page is printed before the screen.  No files are
  touched: the settings are the usual ones, with what the
  arguments say put above them.

  Key definitions include:
    * `CommandLine.deskFor`
    * `main`
-/

namespace LedgerView

namespace CommandLine

/- The size of the screen. -/
def screenWidth : Nat := 100

def screenHeight : Nat := 30

/- What is printed when help is wanted. -/
def usage : String :=
  "\n".intercalate
    [ "Page through the lists of a ledger from the terminal."
    , ""
    , "Usage: ledgerscope [OPTIONS]"
    , ""
    , "  --mirror <URL>        base address of the node"
    , "  --demo                browse a synthetic ledger"
    , "  --table <TABLE>       table shown first"
    , "  --link <LINK>         reopen a copied link"
    , "  --page-size <ROWS>    rows per page"
    , "  --log-level <FILTER>  how much to log"
    , "  -h, --help            print help"
    , "  -V, --version         print version" ]

/- What is printed when the version is wanted. -/
def version : String := "ledgerscope 0.1.0"

/- The wording of a fault of the arguments. -/
def faultText : ArgumentFault → String
  | .unknown => "unexpected argument"
  | .missingValue => "a value is required"
  | .unwantedValue => "unexpected value"
  | .badValue => "invalid value"
  | .conflict => "arguments cannot be used together"
  | .helpWanted => usage
  | .versionWanted => version

/- The link to be reopened. -/
def link?
    (a : Arguments) : Except NavError (Option Link) :=
  a.link.mapM Link.parse

/- A desk for some arguments; no node can be reached. -/
def deskFor
    (a : Arguments)
    (c : Config)
    (link : Option Link) : Desk :=
  let (backend, label) :=
    if a.demo then
      (Backend.demo (.new Worker.firstTransactions), "demo")
    else
      (.node (.ofAddress c.nodeUrl) fun _ => none, c.nodeUrl)
  let settings : Settings :=
    { backend := backend
      config := c.pager
      table := a.firstTable
      link := link }
  let desk := Desk.start settings label
  { desk with viewer := desk.viewer.setStatus ⟨"Loading…", .info⟩ }

/- Where an exported page goes: its name tells the time. -/
def target
    (d : Desk) : ExportTarget :=
  { folder := .ok "exports", stamp := toString d.worker.now }

/- The key that a line names, if it names one. -/
def keys
    (line : String) : List Press :=
  let name := String.ofList (line.toList.filter (· != '\n'))
  if name.isEmpty then [] else [.ofName name]

/- Print the screen. -/
def print
    (out : IO.FS.Stream)
    (d : Desk) : IO Unit := do
  for line in (d.viewer.draw screenWidth screenHeight).lines do
    out.putStrLn line
  out.flush

/- React to lines until one ends the program, or none is left. -/
partial def serve
    (input out : IO.FS.Stream)
    (d : Desk) : IO Unit := do
  print out d
  if d.viewer.quit then
    return ()
  let line ← input.getLine
  if line.isEmpty then
    return ()
  let d := { d with viewer := d.viewer.tick Desk.exchangeTime }
  let (next, file) := d.press (target d) (keys line)
  for file in file.toList do
    out.putStr file.content
  serve input out next

end CommandLine

end LedgerView

open LedgerView in
/- Browse the lists of a ledger. -/
def main
    (arguments : List String) : IO UInt32 := do
  match Arguments.parse arguments with
  | .error .helpWanted =>
      IO.println CommandLine.usage
      return 0
  | .error .versionWanted =>
      IO.println CommandLine.version
      return 0
  | .error fault =>
      IO.eprintln ("error: " ++ CommandLine.faultText fault)
      return 2
  | .ok a =>
      match a.settings (.ok {}), CommandLine.link? a with
      | .error e, _ =>
          IO.eprintln ("Error: " ++ e.message)
          return 1
      | _, .error e =>
          IO.eprintln ("Error: Invalid --link: " ++ e.message)
          return 1
      | .ok config, .ok link =>
          let desk := CommandLine.deskFor a config link
          CommandLine.serve (← IO.getStdin) (← IO.getStdout)
            (desk.wait (Worker.turnPeriod / 2)).collect
          return 0
