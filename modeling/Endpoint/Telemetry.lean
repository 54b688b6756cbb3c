import Endpoint.Error
import Endpoint.Event
import Endpoint.Text.Lower
import Endpoint.Text.Basic

/-!
How the program's reports are shown: from which level on, in which format, and whether with the
thread that they come from. Levels and formats are read from texts, such as the variables of the
surroundings.
-/
namespace Endpoint
open Text

/-- The level that a text names: a word in any case, or a number from one for errors to five. -/
def Level.ofText? (s : String) : Option Level :=
  let byWord := [error, warn, info, debug, trace].find? fun l => sameIgnoringCase l.word s
  match wordOfDigits? s.toList with
  | some n => [error, warn, info, debug, trace][n.toNat - 1]?.filter fun _ => n ≠ 0
  | none => byWord

/-- The format of a report. -/
inductive OutputFormat where
  | text
  | json
  | jsonCompact
deriving DecidableEq, Repr, Inhabited

namespace OutputFormat

/-- How a format is shown in diagnostics. -/
def debug : OutputFormat → String
  | text => "Text"
  | json => "Json"
  | jsonCompact => "JsonCompact"

/-- The format that a text names, in any case. -/
def ofText (s : String) : Except Error OutputFormat :=
  let lowered := lowerUnicode s
  if lowered == "text" then .ok text
  else if lowered == "json" then .ok json
  else if lowered == "json-compact" then .ok jsonCompact
  else .error (.configuration (.logFormat lowered))

end OutputFormat

/-- How reports are shown. -/
structure Telemetry where
  level : Level
  format : OutputFormat
  threadInfo : Bool
deriving DecidableEq, Repr

namespace Telemetry

def levelVariable : String := "RESTCALL_LOG_LEVEL"
def formatVariable : String := "RESTCALL_LOG_FORMAT"

def standard : Telemetry := ⟨.info, .text, false⟩

def verbose : Telemetry := ⟨.debug, .text, true⟩

/-- The level that a text names. -/
def withLevelText (t : Telemetry) (s : String) : Except Error Telemetry :=
  match Level.ofText? s with
  | some level => .ok { t with level }
  | none => .error (.configuration (.logLevel s))

def withFormatText (t : Telemetry) (s : String) : Except Error Telemetry :=
  (fun format => { t with format }) <$> OutputFormat.ofText s

/-- What the variables of the surroundings ask for; the level is looked at first. -/
def ofSurroundings (level format : Option String) : Except Error Telemetry := do
  let t ← match level with
    | some s => standard.withLevelText s
    | none => pure standard
  match format with
  | some s => t.withFormatText s
  | none => return t

end Telemetry
end Endpoint
