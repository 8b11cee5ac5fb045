import Playbook.Decimal.Binary
import Playbook.Program.Graph
import Playbook.Run.Dispatch
import Playbook.Settings.Basic
import Playbook.Validation

/-!
The plan of a run: what stays the same while it goes on. A program becomes a plan unless it is
archived or has a blocking issue.
-/
namespace Playbook

open Json (Value)
open Expression (Evaluator)
open Trace (EventKind)

/-- How often a failed step is tried again, and how long the pauses before it are. -/
structure RetryPolicy where
  retries : Nat
  initialBackoffMs : Nat
  multiplier : Float
  maxBackoffMs : Nat

namespace RetryPolicy

def ofSettings (s : ExecutionSettings) (e : ExecutionPolicy) : RetryPolicy where
  retries := if e.retryFailedSteps then e.maxRetries else 0
  initialBackoffMs := e.retryBackoffMs
  multiplier := s.retryBackoffMultiplier
  maxBackoffMs := max s.retryBackoffMaxMs e.retryBackoffMs

/-- The pause after a pause: scaled to the nearest millisecond and bounded. No pause stays none, and
what cannot be scaled stays as it is. -/
def nextBackoffMs (p : RetryPolicy) (current : Nat) : Nat :=
  if current = 0 then 0
  else
    let scaled := match Decimal.roundHalfAway? (Float.ofNat current * p.multiplier) with
      | some (.ofNat (n + 1)) => min (n + 1) (Nat.pow 2 64 - 1)
      | _ => current
    min scaled (max p.maxBackoffMs 1)

end RetryPolicy

/-- How many steps may run at once. -/
def ExecutionPolicy.limit (e : ExecutionPolicy) (hardLimit : Nat) : Nat :=
  match e.strategy with
  | .parallel => max (min e.parallelLimit hardLimit) 1
  | .sequential | .conditional => 1

/-- Why a program is not run. -/
inductive Rejection where
  | status (cause : StatusError)
  | invalid (programId : String) (issues : List Issue)
  deriving DecidableEq, Repr

def Rejection.message : Rejection → String
  | .status cause => "validation error: " ++ cause.message
  | .invalid id issues => s!"program '{id}' has {issues.length} blocking validation issue(s)"

structure Plan where
  program : Program
  graph : StepGraph
  limit : Nat
  retry : RetryPolicy
  /-- the moment after which no attempt goes on -/
  deadline : Option Nat
  /-- one attempt at a step with the variables that it sees -/
  attempt : (vars : List (String × Value)) → Step → (number : Nat) →
    Activity EventKind StepResult

namespace Plan

/-- The plan for a program, whatever its status and its issues are. -/
def make (d : Dispatcher) (settings : ExecutionSettings) (p : Program) (scope : RunScope) : Plan where
  program := p
  graph := StepGraph.ofProgram p
  limit := p.execution.limit settings.parallelHardLimit
  retry := RetryPolicy.ofSettings settings p.execution
  deadline := p.execution.runDeadlineSeconds.map (· * 1000)
  attempt vars step number := d.dispatch scope vars false step number

/-- Whether a program may run. -/
def permit (registry : Registry) (evaluator : Evaluator) (p : Program) : Except Rejection Unit :=
  if !p.isExecutable then .error (.status (.notExecutable p.id p.version))
  else
    match (Validation.issues registry evaluator p).filter Issue.blocksExecution with
    | [] => .ok ()
    | issues => .error (.invalid p.id issues)

/-- Milliseconds that an attempt at a step may take. -/
def timeoutMs (p : Plan) (s : Step) : Nat :=
  s.timeoutSeconds.getD p.program.execution.timeoutSeconds * 1000

/-- The seconds of that limit. -/
def timeoutSeconds (p : Plan) (s : Step) : Nat :=
  s.timeoutSeconds.getD p.program.execution.timeoutSeconds

/-- Whether the run goes on after a failure of a step. -/
def tolerates (p : Plan) (stepId : String) : Bool :=
  p.program.steps.any fun s => s.id == stepId && s.continueOnFailure

def isPastDeadline (p : Plan) (now : Nat) : Bool :=
  match p.deadline with
  | some deadline => deadline ≤ now
  | none => false

/-- The steps that no entry point leads to. -/
def unreachable (p : Plan) : List String :=
  let reachable := p.graph.reachable (p.graph.entryPoints p.program)
  p.graph.nodes.filter fun id => !reachable.contains id

end Plan
end Playbook
