import Testbed.Http.Message

/-!
# Configuration

One value holds all settings. It is built once and handed to whatever acquires clusters, runs
testsets or reports.

## Main definitions

* `Color` — the colours of a terminal
* `Config` — the settings, with their defaults
* `Config.colorize` — text in a colour, if colours are wanted
-/

namespace Testbed

/-- A colour of a terminal. -/
inductive Color where
  | red
  | green
  | yellow
  deriving DecidableEq, Repr

/-- What switches a terminal to a colour. -/
def Color.sequence : Color → String
  | .red => "\x1b[31m"
  | .green => "\x1b[32m"
  | .yellow => "\x1b[33m"

/-- What switches a terminal back. -/
def Color.reset : String := "\x1b[0m"

/-- The settings of a run. -/
structure Config where
  useColors : Bool := false
  /-- Body output goes straight to the sink, uncaptured. -/
  verbose : Bool := false
  /-- Status words end at this column; zero leaves them where they are. -/
  width : Nat := 80
  /-- Only the skeleton of the reports is made and no body is invoked. -/
  dryRun : Bool := false
  httpTimeoutSecs : Nat := 60
  clusterDir : String := "cluster_run"
  auth : Credentials := ⟨"Administrator", "asdasd"⟩
  deriving DecidableEq, Repr, Inhabited

namespace Config

/-- Settings without colours and alignment. -/
def plain : Config := { width := 0 }

/-- How long a request may take. -/
def httpTimeout (config : Config) : Duration :=
  .ofSecs config.httpTimeoutSecs

/-- Text after a sequence and before the reset, if colours are wanted. -/
def colorizeWith (config : Config) (text sequence : String) : String :=
  if config.useColors then sequence ++ text ++ Color.reset else text

/-- Text in a colour, if colours are wanted. -/
def colorize (config : Config) (text : String) (color : Color) : String :=
  config.colorizeWith text color.sequence

end Config

end Testbed
