import LedgerView.Config.Error
import LedgerView.Pager.Config
import LedgerView.Text.Quoted
import LedgerView.Toml.Document
import LedgerView.Url.Parse

/-
  Settings.

  Settings are read from a flat document.  Whatever it leaves
  out has its default; a key that is not known, or a value that
  does not fit, spoils the whole document.

  Key definitions include:
    * `Config`
    * `Config.ofDocument?`
    * `Config.validate`
    * `Config.parse`
    * `Config.pager`
-/

namespace LedgerView

/- How the program works. -/
structure Config where
  /- The base address of the node. -/
  nodeUrl : String :=
    "https://mainnet-public.mirrornode.hedera.com"
  pageSize : Nat := 15
  maxLimit : Nat := 100
  presumedRowCount : Nat := 50
  /- Milliseconds between timed refreshes. -/
  updatePeriod : Nat := 5000
  /- Timed refreshes until the timer pauses; 0 for no end. -/
  maxAutoUpdateCount : UInt32 := 20
  /- Milliseconds to wait for an answer. -/
  requestTimeout : Nat := 10000
  logLevel : String := "info"
deriving Repr, DecidableEq, Inhabited

namespace Config

------------------------------------------------------------
-- Reading
------------------------------------------------------------

/- A number that is not negative. -/
def natural?
    (value : Toml.Value) : Option Nat :=
  match value with
  | .integer (.ofNat n) => some n
  | _ => none

/- A text. -/
def text?
    (value : Toml.Value) : Option String :=
  match value with
  | .text content => some content
  | _ => none

/- Take over the value of one key. -/
def setKey?
    (c : Config)
    (key : String)
    (value : Toml.Value) : Option Config :=
  match key with
  | "mirror_url" => do return { c with nodeUrl := ← text? value }
  | "page_size" => do
      return { c with pageSize := ← natural? value }
  | "max_limit" => do
      return { c with maxLimit := ← natural? value }
  | "presumed_row_count" => do
      return { c with presumedRowCount := ← natural? value }
  | "update_period_ms" => do
      return { c with updatePeriod := ← natural? value }
  | "max_auto_update_count" => do
      let n ← (natural? value).filter (· < 2 ^ 32)
      return { c with maxAutoUpdateCount := UInt32.ofNat n }
  | "request_timeout_ms" => do
      return { c with requestTimeout := ← natural? value }
  | "log_level" => do return { c with logLevel := ← text? value }
  | _ => none

/- The settings in a document. -/
def ofDocument?
    (document : Toml.Document) : Option Config :=
  document.foldlM (fun c entry => c.setKey? entry.1 entry.2) {}

------------------------------------------------------------
-- Validity
------------------------------------------------------------

/- The numbers that have to be positive, with their keys. -/
def positives
    (c : Config) : List (String × Nat) :=
  [ ("page_size", c.pageSize)
  , ("max_limit", c.maxLimit)
  , ("presumed_row_count", c.presumedRowCount)
  , ("update_period_ms", c.updatePeriod)
  , ("request_timeout_ms", c.requestTimeout) ]

/- Whether a node can be asked under a scheme. -/
def isWebScheme
    (scheme : String) : Bool :=
  scheme == "http" || scheme == "https"

/- The fault of the node's address, if it has one. -/
def nodeUrlFault?
    (c : Config) : Option ConfigError :=
  match Url.parse c.nodeUrl with
  | .error e => some (.invalid "mirror_url" e.message)
  | .ok url =>
      if isWebScheme url.scheme then
        none
      else
        some
          (.invalid "mirror_url"
            ("unsupported scheme " ++ Text.quote url.scheme))

/- The first fault of some settings. -/
def fault?
    (c : Config) : Option ConfigError :=
  match c.positives.find? (·.2 == 0) with
  | some (field, _) => some (.notPositive field)
  | none => c.nodeUrlFault?

/- The settings, unless they are at fault. -/
def validate
    (c : Config) : Except ConfigError Config :=
  match c.fault? with
  | some e => .error e
  | none => .ok c

/- Read settings from the text of a document. -/
def parse
    (text : String) : Except ConfigError Config :=
  match (Toml.parse? text).bind ofDocument? with
  | some c => c.validate
  | none => .error .unreadable

------------------------------------------------------------
-- Use
------------------------------------------------------------

/- How tables page and refresh. -/
def pager
    (c : Config) : PagerConfig :=
  { pageSize := c.pageSize
    maxLimit := c.maxLimit
    presumedRowCount := c.presumedRowCount
    updatePeriod := c.updatePeriod
    maxAutoUpdateCount := c.maxAutoUpdateCount }

end Config

end LedgerView
