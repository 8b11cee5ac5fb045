import Playbook.Decimal.Style
import Playbook.Settings.Basic
import Playbook.Text.Blank

/-!
What settings have to satisfy. Of several faults the first one counts, in the order of the
constructors.
-/
namespace Playbook

inductive SettingsFault where
  | parallelHardLimit
  | backoffMultiplier (value : Float)
  | expressionLimits
  | maxRetainedRuns
  | threshold (value : Float32)
  | httpTimeout
  | logLevel

namespace SettingsFault

def message : SettingsFault → String
  | .parallelHardLimit => "execution.parallel_hard_limit must be at least 1"
  | .backoffMultiplier x =>
    "execution.retry_backoff_multiplier must be >= 1.0, got " ++ Decimal.Style.message.format x
  | .expressionLimits => "expressions.max_length and expressions.max_depth must be positive"
  | .maxRetainedRuns => "recorder.max_retained_runs must be at least 1"
  | .threshold x =>
    "knowledge.threshold must be within [0, 1], got " ++ Decimal.Style.message.formatSingle x
  | .httpTimeout => "http.timeout_seconds must be greater than zero"
  | .logLevel => "logging.level cannot be empty"

end SettingsFault

namespace Settings

/-- The faults of some settings. -/
def faults (s : Settings) : List SettingsFault :=
  let require (holds : Bool) (fault : SettingsFault) := if holds then [] else [fault]
  let multiplier := s.execution.retryBackoffMultiplier
  let threshold := s.knowledge.threshold
  require (s.execution.parallelHardLimit != 0) .parallelHardLimit ++
  require (multiplier.isFinite && decide (1.0 ≤ multiplier)) (.backoffMultiplier multiplier) ++
  require (s.expressions.maxLength != 0 && s.expressions.maxDepth != 0) .expressionLimits ++
  require (s.recorder.maxRetainedRuns != 0) .maxRetainedRuns ++
  require (decide (0.0 ≤ threshold) && decide (threshold ≤ 1.0)) (.threshold threshold) ++
  require (s.http.timeoutSeconds != 0) .httpTimeout ++
  require (!Text.allBlank s.logging.level) .logLevel

/-- Settings that have no fault, or the first fault. -/
def check (s : Settings) : Except SettingsFault Unit :=
  match s.faults with
  | [] => .ok ()
  | fault :: _ => .error fault

end Settings
end Playbook
