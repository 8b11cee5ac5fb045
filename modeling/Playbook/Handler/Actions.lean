import Playbook.Handler.Basic
import Playbook.Instant.Stamp
import Playbook.Personality
import Playbook.Template

/-!
The built-in actions that need nothing outside the run: sending a message in the personality of
the tenant, assigning a task, sending a survey, and waiting. Each effect is named after its run and
its step, so another attempt means the same effect.
-/
namespace Playbook.ActionHandler

open Json (Value)

/-- What an execution ends with. -/
abbrev Ended := Activity Empty (Except ActionError Value)

def fail (e : ActionError) : Ended := .done (.error e)

def answer (entries : List (String × Value)) : Ended := .done (.ok (.table entries))

/-- Goes on unless the run is cancelled. -/
def unlessCancelled (i : Invocation) (go : Ended) : Ended :=
  if i.cancelled then fail .cancelled else go

/-- The name of an effect, the same for every attempt of the step. -/
def effectId (kind : String) (i : Invocation) : String := s!"{kind}-{i.runId}-{i.stepId}"

/-- A text that is not blank. -/
def present? (s : Option String) : Option String := s.filter fun s => !Text.allBlank s

/-- The value under the first of two keys that is there. -/
def either? (params : Value) (first second : String) : Option Value :=
  (params.get? first).or (params.get? second)

/-! ### Messages -/

def messageContent? (params : Value) : Option String :=
  present? ((either? params "message" "content").bind Value.text?)

/-- What the personality provider is told beside the content. -/
def enhanceContext (i : Invocation) : Value := .table [
  ("adaptation_level", .text i.personality.adaptationLevel.name),
  ("knowledge", .list (i.knowledge.map KnowledgeChunk.encode)),
  ("user_id", Value.ofText? i.userId)]

/-- The content in the personality of the tenant and the confidence in it. A provider that cannot
answer leaves the content as it is. -/
def enhanced (provider : PersonalityProvider) (i : Invocation) (base : String) :
    Activity Empty (String × Value) :=
  if i.usePersonality then do
    match ← provider.enhance base i.tenantId (enhanceContext i) with
    | .ok e => return (e.content, .ofSingle e.confidence)
    | .error _ => return (base, .null)
  else return (base, .null)

def sendMessage (provider : PersonalityProvider) : ActionHandler where
  execute i := unlessCancelled i <|
    match messageContent? i.params with
    | none => fail (.invalidParams "send_message needs 'message' or 'content'")
    | some base => do
      let (content, confidence) ← enhanced provider i base
      answer [
        ("message_id", .text (effectId "msg" i)),
        ("channel", .text ((textParam? i.params "channel").getD "in_app")),
        ("recipient", Value.ofText? i.userId),
        ("content", .text content),
        ("delivered", .bool true),
        ("knowledge_sources", Value.texts (i.knowledge.map KnowledgeChunk.source)),
        ("personality_confidence", confidence)]
  check s :=
    if (messageContent? s.action.params).isSome then []
    else ["send_message needs a non-empty 'message' or 'content' parameter"]

/-! ### Tasks -/

/-- A task is due ten years of days ahead at most. -/
def maxDueSeconds : Int := 3650 * 86400

/-- The instant some days ahead, to the nearest second. The clock is taken to stand ten years or more
before the last instant: nearer to it the sum may be no instant, and the execution, which would panic
there, is left out. -/
def dueAt? (now : Instant) (days : Float) : Option Instant :=
  if 0 ≤ days ∧ days.isFinite then
    let seconds := (Decimal.roundHalfAway? (days * 86400.0)).getD maxDueSeconds
    some (now.addSeconds (min seconds maxDueSeconds))
  else none

/-- When a task is due: never, unless the parameters say in how many days. -/
def dueText (i : Invocation) : Except ActionError Value :=
  match i.params.get? "due_in_days" with
  | none | some .null => .ok .null
  | some v =>
    match v.float?.bind (dueAt? i.now) with
    | some t => .ok (.text t.format)
    | none => .error (.invalidParams "'due_in_days' must be a non-negative number")

def assignTask : ActionHandler where
  execute i := unlessCancelled i <|
    match present? (textParam? i.params "title") with
    | none => fail (.invalidParams "missing string parameter 'title'")
    | some title =>
      match dueText i with
      | .error e => fail e
      | .ok due =>
        answer [
          ("task_id", .text (effectId "task" i)),
          ("title", .text title),
          ("description", .text ((textParam? i.params "description").getD "")),
          ("assignee", Value.ofText? ((textParam? i.params "assignee").or i.userId)),
          ("due_at", due),
          ("status", .text "assigned")]
  check s :=
    if (present? (textParam? s.action.params "title")).isSome then []
    else ["assign_task needs a non-empty 'title' parameter"]

/-! ### Surveys -/

def questions? (params : Value) : Option (List Value) :=
  match params.get? "questions" with
  | some (.list (q :: qs)) => some (q :: qs)
  | _ => none

def sendSurvey : ActionHandler where
  execute i := unlessCancelled i <|
    match questions? i.params with
    | none => fail (.invalidParams "send_survey needs a non-empty 'questions' list")
    | some questions =>
      answer [
        ("survey_id", .text ((textParam? i.params "survey_id").getD (effectId "survey" i))),
        ("question_count", .ofNat questions.length),
        ("recipient", Value.ofText? i.userId),
        ("status", .text "sent")]
  check s :=
    let templated := (textParam? s.action.params "questions").any Template.hasPlaceholders
    if (questions? s.action.params).isSome || templated then []
    else ["send_survey needs a non-empty 'questions' list"]

/-! ### Waiting -/

/-- The longest wait is a week. -/
def maxWaitSeconds : Float := 604800.0

def secondsParam? (params : Value) : Option Value := either? params "duration_seconds" "seconds"

/-- How long a wait takes, in nanoseconds. -/
def waitNanos (params : Value) : Except ActionError Nat :=
  let missing := ActionError.invalidParams "wait needs a non-negative 'duration_seconds' parameter"
  match (secondsParam? params).bind Value.float? with
  | none => .error missing
  | some seconds =>
    if ¬ (0 ≤ seconds) then .error missing
    else
      match Decimal.Binary.ofFloat seconds with
      | .finite _ m e =>
        if maxWaitSeconds < seconds then
          .error (.invalidParams (s!"wait of {Decimal.Style.message.format seconds}s exceeds the " ++
            s!"maximum of {Decimal.Style.message.format maxWaitSeconds}s"))
        else .ok (Decimal.unitsOf 1000000000 m e)
      | _ => .error missing

/-- Milliseconds that are over after some nanoseconds. -/
def wholeMillis (nanos : Nat) : Nat := nanos / 1000000

/-- Milliseconds that cover some nanoseconds. -/
def coveringMillis (nanos : Nat) : Nat := (nanos + 999999) / 1000000

def wait : ActionHandler where
  execute i :=
    match waitNanos i.params with
    | .error e => fail e
    | .ok nanos => unlessCancelled i <|
      .sleep (coveringMillis nanos) (answer [("waited_ms", .ofNat (wholeMillis nanos))])
  check s :=
    let templated :=
      ((secondsParam? s.action.params).bind Value.text?).any Template.hasPlaceholders
    if templated then []
    else match waitNanos s.action.params with
      | .ok _ => []
      | .error e => [e.message]

end Playbook.ActionHandler
