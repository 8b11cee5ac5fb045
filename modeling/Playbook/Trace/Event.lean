import Playbook.Instant.Loose
import Playbook.Run.Result
import Playbook.Program.Codec

/-!
The events of a trace. Each says what happened in a run, and to which attempt of which step; a
recorder numbers the events of a run from one. An event is written as one object that holds the
fields of its kind beside its own, the kind's name under `type`.
-/
namespace Playbook.Trace

open Json (Value)

inductive EventKind where
  | runStarted (programId : String) (version : Nat) (strategy : String)
  | stepStarted
  | conditionEvaluated (expression : String) (inputs : List (String × Value))
      (result : Option Bool) (error : Option String)
  | handlerInvoked (handler : String)
  | handlerReturned (handler : String) (durationMs : Nat)
  | handlerError (handler message : String)
  | stepRetried (error : StepError) (nextDelayMs : Nat)
  | stepCompleted (branch : String) (durationMs : Nat)
  | stepSkipped (branch : String) (reason : Option String)
  | stepFailed (branch : String) (error : StepError) (durationMs : Nat)
  | runCompleted (status : RunStatus) (reason : Option FailureReason) (elapsedMs : Nat)
  | runCancelled

namespace EventKind

def name : EventKind → String
  | .runStarted .. => "run_started"
  | .stepStarted => "step_started"
  | .conditionEvaluated .. => "condition_evaluated"
  | .handlerInvoked .. => "handler_invoked"
  | .handlerReturned .. => "handler_returned"
  | .handlerError .. => "handler_error"
  | .stepRetried .. => "step_retried"
  | .stepCompleted .. => "step_completed"
  | .stepSkipped .. => "step_skipped"
  | .stepFailed .. => "step_failed"
  | .runCompleted .. => "run_completed"
  | .runCancelled => "run_cancelled"

/-- The fields of a kind. -/
def fields : EventKind → List (String × Value)
  | .runStarted programId version strategy =>
    [("program_id", .text programId), ("version", .ofNat version), ("strategy", .text strategy)]
  | .stepStarted | .runCancelled => []
  | .conditionEvaluated expression inputs result error =>
    [("expression", .text expression), ("inputs", .object inputs)] ++
      optionalEntry "result" .bool result ++ optionalEntry "error" .text error
  | .handlerInvoked handler => [("handler", .text handler)]
  | .handlerReturned handler durationMs =>
    [("handler", .text handler), ("duration_ms", .ofNat durationMs)]
  | .handlerError handler message => [("handler", .text handler), ("message", .text message)]
  | .stepRetried error nextDelayMs =>
    [("error", error.encode), ("next_delay_ms", .ofNat nextDelayMs)]
  | .stepCompleted branch durationMs =>
    [("branch", .text branch), ("duration_ms", .ofNat durationMs)]
  | .stepSkipped branch reason =>
    ("branch", .text branch) :: optionalEntry "reason" .text reason
  | .stepFailed branch error durationMs =>
    [("branch", .text branch), ("error", error.encode), ("duration_ms", .ofNat durationMs)]
  | .runCompleted status reason elapsedMs =>
    ("status", .text status.name) :: optionalEntry "failure_reason" FailureReason.encode reason ++
      [("elapsed_ms", .ofNat elapsedMs)]

def encode (k : EventKind) : Value := .object (("type", .text k.name) :: k.fields)

end EventKind

structure Event where
  runId : String
  sequence : Nat
  timestamp : Instant
  stepId : Option String
  attempt : Option Nat
  kind : EventKind

def Event.encode (e : Event) : Value := .object <|
  [("run_id", .text e.runId), ("sequence", .ofNat e.sequence),
    ("timestamp", .text e.timestamp.formatStamp)] ++
  optionalEntry "step_id" .text e.stepId ++
  optionalEntry "attempt" .ofNat e.attempt ++
  ("type", .text e.kind.name) :: e.kind.fields

/-! ### Reading events back -/

open Json (Record)
open Json.Value (nullable? count32? count64? choice? entries?)

/-- The fields of a record without defaults: a list holds all of them. -/
def exactRecord? (names : List String) (v : Value) : Option Record :=
  match v with
  | .list items => if items.length = names.length then v.record? names else none
  | v => v.record? names

def decodeError? (v : Value) : Option StepError := do
  let r ← exactRecord? ["kind", "message"] v
  some ⟨← r.required "kind" (choice? StepErrorKind.ofName?), ← r.required "message" Value.text?⟩

/-- The name of a variant, which is under a key of an object or at the front of a list, and the
fields that come with it. -/
def tagged? (key : String) (names : String → Option (List String)) (v : Value) :
    Option (String × Record) :=
  match v with
  | .object _ => do
    let tag ← (← v.get? key).text?
    some (tag, ← exactRecord? (← names tag) v)
  | .list (.text tag :: items) => do some (tag, ← exactRecord? (← names tag) (.list items))
  | _ => none

/-- The names of the fields of a reason. -/
def reasonFieldNames? : String → Option (List String)
  | "step_failed" => some ["step_id"]
  | "cancelled" | "deadline_exceeded" => some []
  | "engine_fault" => some ["message"]
  | _ => none

def decodeReason? (v : Value) : Option FailureReason := do
  let (tag, r) ← tagged? "kind" reasonFieldNames? v
  match tag with
  | "step_failed" => do some (.stepFailed (← r.required "step_id" Value.text?))
  | "cancelled" => some .cancelled
  | "deadline_exceeded" => some .deadlineExceeded
  | _ => do some (.engineFault (← r.required "message" Value.text?))

namespace EventKind

/-- The names of the fields of a kind. -/
def fieldNames? : String → Option (List String)
  | "run_started" => some ["program_id", "version", "strategy"]
  | "step_started" | "run_cancelled" => some []
  | "condition_evaluated" => some ["expression", "inputs", "result", "error"]
  | "handler_invoked" => some ["handler"]
  | "handler_returned" => some ["handler", "duration_ms"]
  | "handler_error" => some ["handler", "message"]
  | "step_retried" => some ["error", "next_delay_ms"]
  | "step_completed" => some ["branch", "duration_ms"]
  | "step_skipped" => some ["branch", "reason"]
  | "step_failed" => some ["branch", "error", "duration_ms"]
  | "run_completed" => some ["status", "failure_reason", "elapsed_ms"]
  | _ => none

def ofRecord? (tag : String) (r : Record) : Option EventKind :=
  match tag with
  | "run_started" => do
    some (.runStarted (← r.required "program_id" Value.text?) (← r.required "version" count32?)
      (← r.required "strategy" Value.text?))
  | "step_started" => some .stepStarted
  | "condition_evaluated" => do
    some (.conditionEvaluated (← r.required "expression" Value.text?)
      (← r.required "inputs" entries?) (← r.read "result" none (nullable? Value.bool?))
      (← r.read "error" none (nullable? Value.text?)))
  | "handler_invoked" => do some (.handlerInvoked (← r.required "handler" Value.text?))
  | "handler_returned" => do
    some (.handlerReturned (← r.required "handler" Value.text?)
      (← r.required "duration_ms" count64?))
  | "handler_error" => do
    some (.handlerError (← r.required "handler" Value.text?)
      (← r.required "message" Value.text?))
  | "step_retried" => do
    some (.stepRetried (← r.required "error" decodeError?)
      (← r.required "next_delay_ms" count64?))
  | "step_completed" => do
    some (.stepCompleted (← r.required "branch" Value.text?)
      (← r.required "duration_ms" count64?))
  | "step_skipped" => do
    some (.stepSkipped (← r.required "branch" Value.text?)
      (← r.read "reason" none (nullable? Value.text?)))
  | "step_failed" => do
    some (.stepFailed (← r.required "branch" Value.text?) (← r.required "error" decodeError?)
      (← r.required "duration_ms" count64?))
  | "run_completed" => do
    some (.runCompleted (← r.required "status" (choice? RunStatus.ofName?))
      (← r.read "failure_reason" none (nullable? decodeReason?))
      (← r.required "elapsed_ms" count64?))
  | "run_cancelled" => some .runCancelled
  | _ => none

def decode? (v : Value) : Option EventKind := do
  let (tag, r) ← tagged? "type" fieldNames? v
  ofRecord? tag r

end EventKind

/-- Reads an event; its kind is read out of the same object. -/
def Event.decode? (v : Value) : Option Event := do
  let r : Record := fun name => v.get? name
  some {
    runId := ← r.required "run_id" Value.text?
    sequence := ← r.required "sequence" count64?
    timestamp := ← r.required "timestamp" fun v => v.text?.bind Instant.parseLoose?
    stepId := ← r.read "step_id" none (nullable? Value.text?)
    attempt := ← r.read "attempt" none (nullable? count32?)
    kind := ← EventKind.decode? v }

end Playbook.Trace
