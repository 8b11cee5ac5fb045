import Playbook.First
import Playbook.Run.Context
import Playbook.Run.Job

/-!
The state of a run between two acts. The loop of a run scans the steps that are pending, starts the
ready ones as jobs up to the limit, and takes in the jobs that have ended, one at a time with a scan
in between; jobs are polled beside it. Time passes and a cancellation comes from outside. Each act
is a function on the state, so an order of acts is an interleaving of the loop and the jobs, and
`weight` falls with every act that does something.
-/
namespace Playbook

open Json (Value)
open Trace (EventKind)

/-- A job that has ended and is not taken in yet. -/
structure EndedJob where
  stepId : String
  outcome : JobOutcome

/-- Where the loop of a run stands. -/
inductive Control where
  /-- at the top of a round: about to scan, unless the run is cancelled -/
  | looking
  /-- going through the pending steps; `progressed` tells whether a step got its result -/
  | scanning (rest : List String) (progressed : Bool)
  /-- about to scan again, to take in an ended job, to wait, or to leave -/
  | choosing (progressed : Bool)
  /-- cancelled, and waiting for the jobs to end -/
  | draining
  | over (status : RunStatus) (reason : Option FailureReason) (elapsedMs : Nat)

structure RunState where
  control : Control
  now : Nat := 0
  cancelled : Bool
  context : RunContext
  /-- the steps without a result that are not in flight -/
  pending : List String
  /-- the jobs in flight in the order in which they started -/
  jobs : List Job := []
  /-- the jobs that have ended, in the order in which they ended -/
  ended : List EndedJob := []
  /-- the results of steps, in the order in which they came -/
  results : List StepResult := []
  retried : List StepResult := []
  /-- the first fault of the engine itself -/
  fault : Option String := none
  log : List LogEntry := []

/-- What a pending step has to do, seen from its predecessors. -/
inductive Readiness where
  | waiting
  | ready
  | skip (branch reason : String)
  deriving DecidableEq, Repr

namespace RunState

def result? (s : RunState) (id : String) : Option StepResult :=
  s.results.find? fun r => r.stepId == id

def isTerminal (s : RunState) (id : String) : Bool := (s.result? id).isSome

def inFlight (s : RunState) : Nat := s.jobs.length + s.ended.length

/-- Whether a step has failed in a way that stops what follows it. -/
def blocks (p : Plan) (s : RunState) (id : String) : Bool :=
  match s.result? id with
  | some r => (r.status == .failed || r.status == .retried) && !p.tolerates id
  | none => false

def isSkipped (s : RunState) (id : String) : Bool :=
  match s.result? id with
  | some r => r.status == .skipped
  | none => false

/-- A step waits for all of its predecessors. It is skipped when one of them blocks it or when all
of them were skipped. -/
def readiness (p : Plan) (s : RunState) (id : String) : Readiness :=
  let predecessors := p.graph.predecessors id
  if predecessors.any fun q => !s.isTerminal q then .waiting
  else
    match predecessors.find? (s.blocks p) with
    | some failed => .skip Branch.upstreamFailed s!"predecessor '{failed}' failed"
    | none =>
      if !predecessors.isEmpty && predecessors.all s.isSkipped then
        .skip Branch.allPredecessorsSkipped "every predecessor was skipped"
      else .ready

def runEntry (s : RunState) (kind : EventKind) : LogEntry := ⟨s.now, none, none, kind⟩

/-- The event of a step that has got its result. -/
def terminalKind (r : StepResult) : EventKind :=
  match r.status with
  | .completed => .stepCompleted r.trigger.branch r.durationMs
  | .skipped => .stepSkipped r.trigger.branch r.trigger.reason
  | .failed | .retried =>
    .stepFailed r.trigger.branch (r.error.getD (.handler "step failed without detail"))
      r.durationMs

/-- Notes the result of a step. An event of a step without any attempt names none. -/
def finish (r : StepResult) (s : RunState) : RunState :=
  { s with
    context := if r.status = .completed then s.context.recordOutput r.stepId r.output
      else s.context
    results := s.results ++ [r]
    log := s.log ++ [⟨s.now, some r.stepId, if r.attempts = 0 then none else some r.attempts,
      terminalKind r⟩] }

/-- Notes the result of a step that is not pending any more. -/
def decide (r : StepResult) (s : RunState) : RunState :=
  { s.finish r with pending := s.pending.erase r.stepId }

def skip (id branch reason : String) (s : RunState) : RunState :=
  s.decide ((StepResult.skipped id 0 (.skip branch reason)).between s.now s.now)

/-- The state in which a run starts: the steps that nothing leads to are skipped. -/
def start (p : Plan) (context : RunContext) (cancelled : Bool) : RunState :=
  let s : RunState := {
    control := .looking
    cancelled, context
    pending := p.graph.nodes
    log := [⟨0, none, none, .runStarted p.program.id p.program.version
      p.program.execution.strategy.name⟩] }
  p.unreachable.foldl
    (fun s id => s.skip id Branch.unreachable "not reachable from any entry point") s

/-! ### Acts of the loop -/

/-- Starts a job for a step. -/
def launch (p : Plan) (step : Step) (s : RunState) : RunState :=
  { s with
    pending := s.pending.erase step.id
    jobs := s.jobs ++ [Job.ofStep p step s.context.variables] }

/-- Looks at one step if it is pending: it is left waiting, skipped, failed because time is over, or
started. The answer tells whether it got its result. -/
def visit (p : Plan) (id : String) (s : RunState) : RunState × Bool :=
  if id ∉ s.pending then (s, false)
  else match s.readiness p id with
  | .waiting => (s, false)
  | .skip branch reason => (s.skip id branch reason, true)
  | .ready =>
    if p.limit ≤ s.inFlight then (s, false)
    else if p.isPastDeadline s.now then
      (s.decide ((StepResult.failed id 0 .deadline .unevaluated).between s.now s.now), true)
    else
      match p.program.step? id with
      | some step => (s.launch p step, false)
      | none => (s, false)

/-- Takes in a job that has ended. A panic cancels the run. -/
def absorb (e : EndedJob) (s : RunState) : RunState :=
  match e.outcome with
  | .finished r superseded => { s with retried := s.retried ++ superseded }.finish r
  | .panicked message =>
    let fault := s!"step '{e.stepId}' panicked: {message}"
    let s := s.finish
      ((StepResult.failed e.stepId 1 (.handler fault) .unevaluated).between s.now s.now)
    { s with fault := s.fault.or (some fault), cancelled := true }

/-- Takes in the first of the jobs that have ended. -/
def takeIn (e : EndedJob) (rest : List EndedJob) (s : RunState) : RunState :=
  { s with ended := rest }.absorb e

/-- The first failure that the run cannot tolerate. -/
def firstBlockingFailure (p : Plan) (s : RunState) : Option StepResult :=
  s.results.find? fun r => r.isFailed && !p.tolerates r.stepId

/-- Why the run has failed, if it has. -/
def failureReason (p : Plan) (s : RunState) (interrupted : Bool) : Option FailureReason :=
  match s.fault with
  | some message => some (.engineFault message)
  | none =>
    if interrupted then some .cancelled
    else (s.firstBlockingFailure p).map fun r =>
      if p.isPastDeadline s.now && r.errorKind == some .timeout then .deadlineExceeded
      else .stepFailed r.stepId

/-- Ends the run. -/
def close (p : Plan) (s : RunState) (interrupted : Bool) : RunState :=
  let reason := s.failureReason p interrupted
  let status := if reason.isSome then RunStatus.failed else .completed
  { s with
    control := .over status reason s.now
    log := s.log ++ [s.runEntry (.runCompleted status reason s.now)] }

/-- Leaves the loop: the run ends, unless it is cancelled before every step has its result. -/
def leave (p : Plan) (s : RunState) : RunState :=
  if s.cancelled && !(s.pending.isEmpty && s.inFlight == 0) then
    { s with
      control := .draining
      log := if s.fault.isNone then s.log ++ [s.runEntry .runCancelled] else s.log }
  else s.close p false

/-- Ends a cancelled run whose jobs have all ended. -/
def finishDraining (p : Plan) (s : RunState) : RunState :=
  let reason := if s.fault.isSome then "run aborted after engine fault" else "run cancelled"
  (s.pending.foldl (fun s id => s.skip id Branch.cancelled reason) s).close p true

/-- Begins a scan; a cancelled run scans nothing. -/
def rescan (s : RunState) : RunState :=
  { s with control := if s.cancelled then .choosing false else .scanning s.pending false }

/-- The next act of the loop, or none when it waits or is over. -/
def act? (p : Plan) (s : RunState) : Option RunState :=
  match s.control with
  | .looking => some s.rescan
  | .scanning [] progressed => some { s with control := .choosing progressed }
  | .scanning (id :: rest) progressed =>
    let (s, decided) := s.visit p id
    some { s with control := .scanning rest (progressed || decided) }
  | .choosing progressed =>
    if s.inFlight = 0 then
      if progressed && !s.cancelled then some { s with control := .looking } else some (s.leave p)
    else if s.cancelled then some (s.leave p)
    else
      match s.ended with
      | [] => none
      | e :: rest => some { s.takeIn e rest with control := .looking }
  | .draining =>
    match s.ended with
    | e :: rest => some (s.takeIn e rest)
    | [] => if s.jobs.isEmpty then some (s.finishDraining p) else none
  | .over .. => none

/-! ### Acts beside the loop -/

/-- Whether a job is a step's. -/
def isJobOf (id : String) (j : Job) : Bool := j.step.id == id

/-- Polls the job of a step, or none when there is nothing for it to do. -/
def poll? (p : Plan) (turn : Nat) (id : String) (s : RunState) : Option RunState :=
  match s.jobs.find? (isJobOf id) with
  | none => none
  | some j =>
    if j.isReady s.now s.cancelled then
      let (log, polled) := j.poll p s.now turn s.cancelled
      let s := { s with log := s.log ++ log }
      match polled with
      | .waiting j' =>
        some { s with jobs := First.replace (isJobOf id) j' s.jobs }
      | .ended outcome =>
        some { s with
          jobs := First.remove (isJobOf id) s.jobs
          ended := s.ended ++ [⟨id, outcome⟩] }
    else none

def cancel (s : RunState) : RunState := { s with cancelled := true }

/-- Lets time pass. -/
def elapse (ms : Nat) (s : RunState) : RunState := { s with now := s.now + ms }

/-- The alarms that are set, with the steps whose jobs they wake. -/
def alarms (s : RunState) : List (Alarm × String) :=
  s.jobs.flatMap fun j => j.alarms.map fun a => (a, j.step.id)

def isOver (s : RunState) : Bool :=
  match s.control with
  | .over .. => true
  | _ => false

/-- The result of a run that is over. -/
def result (p : Plan) (start : Instant) (s : RunState) : Option RunResult :=
  match s.control with
  | .over status failureReason elapsedMs =>
    some {
      runId := s.context.runId
      programId := p.program.id
      version := p.program.version
      status, failureReason, start, elapsedMs
      steps := s.results
      retried := s.retried
      «variables» := s.context.variables }
  | _ => none

end RunState
end Playbook
