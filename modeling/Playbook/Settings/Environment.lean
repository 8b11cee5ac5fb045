import Playbook.Decimal.Count
import Playbook.Json.Record
import Playbook.Settings.Basic
import Playbook.Text.Blank

/-!
Variables of the environment that win over settings. A blank level or trace file leaves the setting
as it is; a format or a limit that cannot be read is a fault, the one of the format first.
-/
namespace Playbook

inductive EnvironmentFault where
  | logFormat (value : String)
  | parallelHardLimit (cause : Decimal.CountFault)
  deriving DecidableEq, Repr

namespace EnvironmentFault

def message : EnvironmentFault → String
  | .logFormat value => s!"PROGFLOW_LOG_FORMAT must be 'text' or 'json', got '{value}'"
  | .parallelHardLimit cause =>
    "PROGFLOW_PARALLEL_HARD_LIMIT must be a positive integer: " ++ cause.message

end EnvironmentFault

namespace Settings

/-- The value of a variable, where it is set. -/
abbrev Environment := String → Option String

/-- The value of a variable without the blanks around it, where anything is left. -/
def filled? (environment : Environment) (name : String) : Option String :=
  ((environment name).map Text.trim).filter (· ≠ "")

def readLogFormat (value : String) : Except EnvironmentFault LogFormat :=
  match Text.asciiLower (Text.trim value) with
  | "text" => .ok .text
  | "json" => .ok .json
  | other => .error (.logFormat other)

def readHardLimit (value : String) : Except EnvironmentFault Nat :=
  (Decimal.readCount Json.Value.maxCount64 (Text.trim value)).mapError .parallelHardLimit

/-- Settings with what the environment sets. -/
def override (environment : Environment) (s : Settings) : Except EnvironmentFault Settings := do
  let level := (filled? environment "PROGFLOW_LOG_LEVEL").getD s.logging.level
  let format ← match environment "PROGFLOW_LOG_FORMAT" with
    | some value => readLogFormat value
    | none => .ok s.logging.format
  let limit ← match environment "PROGFLOW_PARALLEL_HARD_LIMIT" with
    | some value => readHardLimit value
    | none => .ok s.execution.parallelHardLimit
  let traceFile := (filled? environment "PROGFLOW_TRACE_FILE").orElse fun _ => s.recorder.traceFile
  .ok { s with
    execution := { s.execution with parallelHardLimit := limit }
    recorder := { s.recorder with traceFile }
    logging := ⟨level, format⟩ }

end Settings
end Playbook
