import Playbook.CommandLine.Arguments
import Playbook.Json.Printer
import Playbook.Trace.Event
import Playbook.Validation

/-!
What is shown of issues, events and results, as text or as JSON.
-/
namespace Playbook.CommandLine.Report

open Json (Value)
open Trace (Event EventKind)

/-! ### Events -/

/-- What a kind of event says beside its name. -/
def detail : EventKind → String
  | .runStarted programId version strategy => s!"{programId} v{version} ({strategy})"
  | .conditionEvaluated expression _ _ (some error) => s!"{expression} -> error: {error}"
  | .conditionEvaluated expression _ (some result) none => s!"{expression} -> {result}"
  | .conditionEvaluated expression _ none none => expression
  | .handlerInvoked handler => handler
  | .handlerReturned handler durationMs => s!"{handler} in {durationMs}ms"
  | .handlerError handler message => s!"{handler}: {message}"
  | .stepRetried error nextDelayMs =>
    s!"{error.message} ({error.kind.name}), retrying in {nextDelayMs}ms"
  | .stepCompleted branch durationMs => s!"branch={branch} in {durationMs}ms"
  | .stepSkipped branch (some reason) => s!"branch={branch}: {reason}"
  | .stepSkipped branch none => s!"branch={branch}"
  | .stepFailed branch error _ => s!"branch={branch} {error.kind.name}: {error.message}"
  | .runCompleted status (some reason) elapsedMs =>
    s!"{status.title} in {elapsedMs}ms: {reason.message}"
  | .runCompleted status none elapsedMs => s!"{status.title} in {elapsedMs}ms"
  | .stepStarted | .runCancelled => ""

/-- A number with blanks before it up to four places. -/
def sequenceText (n : Nat) : String :=
  let digits := toString n
  String.ofList (List.replicate (4 - digits.length) ' ') ++ digits

/-- The step and the attempt of an event. -/
def place (e : Event) : String :=
  match e.stepId, e.attempt with
  | none, _ => ""
  | some stepId, none => s!" {stepId}"
  | some stepId, some attempt => s!" {stepId}#{attempt}"

def eventLine (format : OutputFormat) (e : Event) : String :=
  match format with
  | .json => e.encode.print
  | .text =>
    Text.trimEnd s!"[{sequenceText e.sequence}] {e.kind.name}{place e} {detail e.kind}"

/-! ### Results -/

/-- The mark before the result of a step. -/
def marker : StepStatus → String
  | .completed => "ok"
  | .skipped => "--"
  | .failed | .retried => "!!"

def stepLine (r : StepResult) : String :=
  let fault := match r.error with
    | some error => s!" {error.kind.name}: {error.message}"
    | none => ""
  s!"  [{marker r.status}] {r.stepId} ({r.status.name}, branch={r.trigger.branch}, " ++
    s!"attempts={r.attempts})" ++ fault

def resultLines (format : OutputFormat) (r : RunResult) : List String :=
  match format with
  | .json => [r.encode.printWide 0]
  | .text =>
    s!"Run {r.runId} of {r.programId} v{r.version}: {r.status.title} in {r.elapsedMs}ms" ::
      (r.failureReason.toList.map fun reason => "  reason: " ++ reason.message) ++
      r.steps.map stepLine

/-! ### Issues -/

def severityTitle : Severity → String
  | .error => "Error"
  | .warning => "Warning"

/-- An issue with its entries in ascending order of key. -/
def issueEntry (i : Issue) : Value :=
  match i.encode with
  | .object entries => .table entries
  | v => v

def isBlocked (issues : List Issue) : Bool := issues.any Issue.blocksExecution

def issueLines (format : OutputFormat) (p : Program) (issues : List Issue) : List String :=
  match format with
  | .json => [(Value.table [
      ("program_id", .text p.id),
      ("version", .ofNat p.version),
      ("valid", .bool (!isBlocked issues)),
      ("issues", .list (issues.map issueEntry))]).print]
  | .text =>
    let verdict := if isBlocked issues then "INVALID" else "OK"
    s!"{p.id} v{p.version}: {verdict}" ::
      issues.map fun i => s!"  {severityTitle i.kind.severity} {i.text}"

end Playbook.CommandLine.Report
