import Playbook.Instant.Stamp
import Playbook.Json.Record

/-!
What comes of a run: for each step a result with the decision of its trigger, for the whole run a
status and, when it failed, the reason. Moments are milliseconds since the start of the run.
-/
namespace Playbook

open Json (Value)

inductive StepErrorKind where
  | evaluation | unknownHandler | handler | timeout | cancelled
  deriving DecidableEq, Repr

namespace StepErrorKind

def name : StepErrorKind → String
  | .evaluation => "evaluation"
  | .unknownHandler => "unknown_handler"
  | .handler => "handler"
  | .timeout => "timeout"
  | .cancelled => "cancelled"

def ofName? (s : String) : Option StepErrorKind :=
  [.evaluation, .unknownHandler, .handler, .timeout, .cancelled].find? fun k => k.name == s

/-- Whether another attempt may do better. -/
def isRetryable : StepErrorKind → Bool
  | .evaluation | .handler | .timeout => true
  | .unknownHandler | .cancelled => false

end StepErrorKind

/-- Why a step failed. -/
structure StepError where
  kind : StepErrorKind
  message : String
  deriving DecidableEq, Repr

namespace StepError

def evaluation (message : String) : StepError := ⟨.evaluation, message⟩

def handler (message : String) : StepError := ⟨.handler, message⟩

def timeout (seconds : Nat) : StepError :=
  ⟨.timeout, s!"step exceeded timeout of {seconds} seconds"⟩

/-- The step would have gone on past the deadline of its run. -/
def deadline : StepError := ⟨.timeout, "run deadline exhausted"⟩

def cancelled : StepError := ⟨.cancelled, "run was cancelled"⟩

def encode (e : StepError) : Value := .object [
  ("kind", .text e.kind.name), ("message", .text e.message)]

end StepError

/-! The names of the branches that a step can take. -/
namespace Branch

def taken : String := "taken"
def notTaken : String := "not_taken"
def upstreamFailed : String := "upstream_failed"
def allPredecessorsSkipped : String := "branch_not_taken"
def unreachable : String := "unreachable"
def cancelled : String := "cancelled"
def unevaluated : String := "unevaluated"

end Branch

/-- Whether a trigger fired, the branch that follows, and why. -/
structure Decision where
  fired : Bool
  branch : String
  reason : Option String := none
  deriving DecidableEq, Repr

namespace Decision

def fire : Decision := ⟨true, Branch.taken, none⟩

def fireBecause (reason : String) : Decision := ⟨true, Branch.taken, some reason⟩

def skip (branch reason : String) : Decision := ⟨false, branch, some reason⟩

def hold (reason : String) : Decision := skip Branch.notTaken reason

/-- Stands where no trigger came to a decision. -/
def unevaluated : Decision := ⟨false, Branch.unevaluated, none⟩

def encode (d : Decision) : Value := .object <|
  [("fired", .bool d.fired), ("branch", .text d.branch)] ++
  (match d.reason with
  | none => []
  | some r => [("reason", .text r)])

end Decision

inductive StepStatus where
  | completed | skipped | failed | retried
  deriving DecidableEq, Repr

def StepStatus.name : StepStatus → String
  | .completed => "completed"
  | .skipped => "skipped"
  | .failed => "failed"
  | .retried => "retried"

structure StepResult where
  stepId : String
  status : StepStatus
  output : Value := .object []
  error : Option StepError := none
  startedAt : Nat := 0
  finishedAt : Nat := 0
  attempts : Nat := 1
  trigger : Decision
  metadata : List (String × Value) := []

namespace StepResult

def completed (stepId : String) (attempts : Nat) (output : Value) (trigger : Decision) :
    StepResult :=
  { stepId, status := .completed, output, attempts, trigger }

def failed (stepId : String) (attempts : Nat) (error : StepError) (trigger : Decision) :
    StepResult :=
  { stepId, status := .failed, error := some error, attempts, trigger }

def skipped (stepId : String) (attempts : Nat) (trigger : Decision) : StepResult :=
  { stepId, status := .skipped, attempts, trigger }

def isFailed (r : StepResult) : Bool := r.status == .failed

def errorKind (r : StepResult) : Option StepErrorKind := r.error.map StepError.kind

def durationMs (r : StepResult) : Nat := r.finishedAt - r.startedAt

/-- The result with the moments of its start and its end. -/
def between (r : StepResult) (startedAt finishedAt : Nat) : StepResult :=
  { r with startedAt, finishedAt }

/-- The result written out; `start` is the instant at which the run started. -/
def encode (start : Instant) (r : StepResult) : Value := .object <|
  [("step_id", .text r.stepId), ("status", .text r.status.name), ("output", r.output)] ++
  (match r.error with
  | none => []
  | some e => [("error", e.encode)]) ++
  [("started_at", .text (start.addMillis r.startedAt).formatStamp),
    ("finished_at", .text (start.addMillis r.finishedAt).formatStamp),
    ("duration_ms", .ofNat r.durationMs),
    ("attempts", .ofNat r.attempts),
    ("trigger", r.trigger.encode),
    ("metadata", .object r.metadata)]

end StepResult

inductive RunStatus where
  | completed | failed
  deriving DecidableEq, Repr

namespace RunStatus

def name : RunStatus → String
  | .completed => "completed"
  | .failed => "failed"

def title : RunStatus → String
  | .completed => "Completed"
  | .failed => "Failed"

def ofName? (s : String) : Option RunStatus :=
  [.completed, .failed].find? fun k => k.name == s

end RunStatus

/-- Why a run failed. -/
inductive FailureReason where
  | stepFailed (stepId : String)
  | cancelled
  | deadlineExceeded
  | engineFault (message : String)
  deriving DecidableEq, Repr

namespace FailureReason

def message : FailureReason → String
  | .stepFailed stepId => s!"step '{stepId}' failed"
  | .cancelled => "cancelled"
  | .deadlineExceeded => "run deadline exceeded"
  | .engineFault message => s!"engine fault: {message}"

def encode : FailureReason → Value
  | .stepFailed stepId => .object [("kind", .text "step_failed"), ("step_id", .text stepId)]
  | .cancelled => .object [("kind", .text "cancelled")]
  | .deadlineExceeded => .object [("kind", .text "deadline_exceeded")]
  | .engineFault message => .object [("kind", .text "engine_fault"), ("message", .text message)]

end FailureReason

structure RunResult where
  runId : String
  programId : String
  version : Nat
  status : RunStatus
  failureReason : Option FailureReason
  /-- the results of the steps in the order in which they ended -/
  steps : List StepResult
  /-- the results of the attempts that were followed by another one -/
  retried : List StepResult
  «variables» : List (String × Value)
  /-- the instant at which the run started -/
  start : Instant
  elapsedMs : Nat

namespace RunResult

def step? (r : RunResult) (id : String) : Option StepResult :=
  r.steps.find? fun s => s.stepId == id

def isCompleted (r : RunResult) : Bool := r.status == .completed

/-- The number of attempts that a step took, or one for its only result. -/
def attemptsFor (r : RunResult) (id : String) : Nat :=
  ((r.retried ++ r.steps).filter fun s => s.stepId == id).length

def encode (r : RunResult) : Value := .object <|
  [("run_id", .text r.runId), ("program_id", .text r.programId), ("version", .ofNat r.version),
    ("status", .text r.status.name)] ++
  (match r.failureReason with
  | none => []
  | some reason => [("failure_reason", reason.encode)]) ++
  [("steps", .list (r.steps.map (StepResult.encode r.start))),
    ("retried", .list (r.retried.map (StepResult.encode r.start))),
    ("variables", .object r.variables),
    ("started_at", .text r.start.formatStamp),
    ("finished_at", .text (r.start.addMillis r.elapsedMs).formatStamp),
    ("elapsed_ms", .ofNat r.elapsedMs)]

end RunResult
end Playbook
