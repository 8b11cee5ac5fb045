import Playbook.Program.Basic
import Playbook.Json.Record

/-!
Programs as values of the data format. `encode` writes every field except the optional ones that
are missing; `decode?` reads objects and lists of fields, with defaults for what is not there.
-/
namespace Playbook

open Json (Value)
open Json.Value (ofNat? nullable? count32? count64? listOf? choice?)

/-- The entry of an optional field, or nothing when there is none. -/
def optionalEntry {α : Type} (name : String) (encode : α → Value) : Option α → List (String × Value)
  | none => []
  | some a => [(name, encode a)]

namespace ExecutionPolicy

def encode (e : ExecutionPolicy) : Value := .object [
  ("strategy", .text e.strategy.name),
  ("parallel_limit", .ofNat e.parallelLimit),
  ("timeout_seconds", .ofNat e.timeoutSeconds),
  ("retry_failed_steps", .bool e.retryFailedSteps),
  ("max_retries", .ofNat e.maxRetries),
  ("retry_backoff_ms", .ofNat e.retryBackoffMs),
  ("run_deadline_seconds", ofNat? e.runDeadlineSeconds)]

def fieldNames : List String :=
  ["strategy", "parallel_limit", "timeout_seconds", "retry_failed_steps", "max_retries",
    "retry_backoff_ms", "run_deadline_seconds"]

def decode? (v : Value) : Option ExecutionPolicy := do
  let r ← v.record? fieldNames
  some {
    strategy := ← r.read "strategy" .sequential (choice? Strategy.ofName?)
    parallelLimit := ← r.read "parallel_limit" 4 count64?
    timeoutSeconds := ← r.read "timeout_seconds" 300 count64?
    retryFailedSteps := ← r.read "retry_failed_steps" true Value.bool?
    maxRetries := ← r.read "max_retries" 3 count32?
    retryBackoffMs := ← r.read "retry_backoff_ms" 1000 count64?
    runDeadlineSeconds := ← r.read "run_deadline_seconds" none (nullable? count64?) }

end ExecutionPolicy

namespace TrackingPolicy

def encode (t : TrackingPolicy) : Value := .object [
  ("enable_tracking", .bool t.enableTracking),
  ("store_debug_info", .bool t.storeDebugInfo)]

def decode? (v : Value) : Option TrackingPolicy := do
  let r ← v.record? ["enable_tracking", "store_debug_info"]
  some {
    enableTracking := ← r.read "enable_tracking" true Value.bool?
    storeDebugInfo := ← r.read "store_debug_info" false Value.bool? }

end TrackingPolicy

namespace PersonalityPolicy

def encode (p : PersonalityPolicy) : Value := .object [
  ("enabled", .bool p.enabled),
  ("adaptation_level", .text p.adaptationLevel.name)]

def decode? (v : Value) : Option PersonalityPolicy := do
  let r ← v.record? ["enabled", "adaptation_level"]
  some {
    enabled := ← r.read "enabled" false Value.bool?
    adaptationLevel := ← r.read "adaptation_level" .medium (choice? AdaptationLevel.ofName?) }

end PersonalityPolicy

namespace Position

def encode (p : Position) : Value := .object [("x", .float p.x), ("y", .float p.y)]

/-- A position has no defaults: both numbers are there. -/
def decode? (v : Value) : Option Position := do
  let r ← v.record? ["x", "y"]
  some { x := ← r.required "x" Value.float?, y := ← r.required "y" Value.float? }

end Position

namespace Trigger

def encode (t : Trigger) : Value := .object <|
  ("type", .text t.type.id) ::
  optionalEntry "schedule" .text t.schedule ++
  optionalEntry "at" .text t.at? ++
  optionalEntry "condition" .text t.condition ++
  optionalEntry "delay_seconds" .ofNat t.delaySeconds ++
  optionalEntry "event" .text t.event ++
  optionalEntry "window_seconds" .ofNat t.windowSeconds

def fieldNames : List String :=
  ["type", "schedule", "at", "condition", "delay_seconds", "event", "window_seconds"]

def decode? (v : Value) : Option Trigger := do
  let r ← v.record? fieldNames
  some {
    type := ← r.read "type" .immediate fun v => v.text?.map TriggerType.ofId
    schedule := ← r.read "schedule" none (nullable? Value.text?)
    at? := ← r.read "at" none (nullable? Value.text?)
    condition := ← r.read "condition" none (nullable? Value.text?)
    delaySeconds := ← r.read "delay_seconds" none (nullable? count64?)
    event := ← r.read "event" none (nullable? Value.text?)
    windowSeconds := ← r.read "window_seconds" none (nullable? count64?) }

end Trigger

namespace Action

def encode (a : Action) : Value := .object [
  ("type", .text a.type.id),
  ("params", a.params),
  ("use_knowledge_context", .bool a.useKnowledgeContext),
  ("use_personality", .bool a.usePersonality),
  ("require_personality_consistency", .bool a.requirePersonalityConsistency)]

def fieldNames : List String :=
  ["type", "params", "use_knowledge_context", "use_personality",
    "require_personality_consistency"]

def decode? (v : Value) : Option Action := do
  let r ← v.record? fieldNames
  some {
    type := ← r.read "type" .sendMessage fun v => v.text?.map ActionType.ofId
    params := ← r.read "params" (.object []) some
    useKnowledgeContext := ← r.read "use_knowledge_context" false Value.bool?
    usePersonality := ← r.read "use_personality" false Value.bool?
    requirePersonalityConsistency :=
      ← r.read "require_personality_consistency" false Value.bool? }

end Action

namespace Step

def encode (s : Step) : Value := .object <|
  [("id", .text s.id),
    ("program_id", .text s.programId),
    ("name", .text s.name),
    ("step_type", .text s.type.id),
    ("trigger", s.trigger.encode),
    ("action", s.action.encode)] ++
  optionalEntry "position" Position.encode s.position ++
  [("next", Value.texts s.next)] ++
  optionalEntry "timeout_seconds" .ofNat s.timeoutSeconds ++
  [("continue_on_failure", .bool s.continueOnFailure)]

def fieldNames : List String :=
  ["id", "program_id", "name", "step_type", "trigger", "action", "position", "next",
    "timeout_seconds", "continue_on_failure"]

def decode? (v : Value) : Option Step := do
  let r ← v.record? fieldNames
  some {
    id := ← r.read "id" "" Value.text?
    programId := ← r.read "program_id" "" Value.text?
    name := ← r.read "name" "" Value.text?
    type := ← r.read "step_type" .message fun v => v.text?.map StepType.ofId
    trigger := ← r.read "trigger" {} Trigger.decode?
    action := ← r.read "action" {} Action.decode?
    position := ← r.read "position" none (nullable? Position.decode?)
    next := ← r.read "next" [] (listOf? Value.text?)
    timeoutSeconds := ← r.read "timeout_seconds" none (nullable? count64?)
    continueOnFailure := ← r.read "continue_on_failure" false Value.bool? }

end Step

namespace Program

def encode (p : Program) : Value := .object [
  ("id", .text p.id),
  ("creator_id", .text p.creatorId),
  ("version", .ofNat p.version),
  ("name", .text p.name),
  ("description", .text p.description),
  ("status", .text p.status.name),
  ("steps", .list (p.steps.map Step.encode)),
  ("execution", p.execution.encode),
  ("analytics", p.tracking.encode),
  ("personality", p.personality.encode)]

def fieldNames : List String :=
  ["id", "creator_id", "version", "name", "description", "status", "steps", "execution",
    "analytics", "personality"]

def decode? (v : Value) : Option Program := do
  let r ← v.record? fieldNames
  some {
    id := ← r.read "id" "" Value.text?
    creatorId := ← r.read "creator_id" "" Value.text?
    version := ← r.read "version" 1 count32?
    name := ← r.read "name" "" Value.text?
    description := ← r.read "description" "" Value.text?
    status := ← r.read "status" .draft (choice? ProgramStatus.ofName?)
    steps := ← r.read "steps" [] (listOf? Step.decode?)
    execution := ← r.read "execution" {} ExecutionPolicy.decode?
    tracking := ← r.read "analytics" {} TrackingPolicy.decode?
    personality := ← r.read "personality" {} PersonalityPolicy.decode? }

end Program
end Playbook
