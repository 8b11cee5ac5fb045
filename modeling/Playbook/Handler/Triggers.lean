import Playbook.Cron.Schedule
import Playbook.Handler.Basic
import Playbook.Instant.Stamp

/-!
The built-in triggers: one that always fires, one on a condition over the variables, one on the
clock, one on an event that the caller reports, and one that waits first.
-/
namespace Playbook.TriggerHandler

open Json (Value)
open Expression (Evaluator Parsed conditionOf)

/-- Stops with an error of the step. -/
def fail {ε : Type} (e : StepError) : Activity ε (Except StepError Decision) := .done (.error e)

def decide {ε : Type} (d : Decision) : Activity ε (Except StepError Decision) := .done (.ok d)

def immediate : TriggerHandler where
  evaluate _ _ := decide .fire
  check _ _ := []

/-! ### Conditions -/

/-- A text that is there and not blank. -/
def present? (s : Option String) : Option String := s.filter fun s => !Text.allBlank s

/-- The variables that an expression names. -/
def inputsOf (p : Parsed) (vars : List (String × Value)) : List (String × Value) :=
  Keyed.ofList <| p.root.identifiers.filterMap fun name =>
    (Keyed.get? name vars).map fun v => (name, v)

/-- What a condition says about its step. -/
def conditionDecision (expression : String) : Except String Bool → Except StepError Decision
  | .ok true => .ok (.fireBecause s!"condition '{expression}' held")
  | .ok false => .ok (.hold s!"condition '{expression}' was false")
  | .error message => .error (.evaluation message)

/-- Evaluates a condition and keeps what is needed to do it again. -/
def conditionRecord (s : TriggerScope) (expression : String) : ConditionRecord :=
  match s.evaluator.parse expression with
  | .error e => ⟨expression, [], .error e.message⟩
  | .ok parsed =>
    let outcome := (s.evaluator.evaluateParsed parsed s.environment).bind conditionOf
    ⟨expression, inputsOf parsed s.variables, outcome.mapError fun e => e.message⟩

def condition : TriggerHandler where
  evaluate step s :=
    match present? step.trigger.condition with
    | none => fail (.evaluation "condition_based trigger has no condition")
    | some expression =>
      let r := conditionRecord s expression
      .record r (.done (conditionDecision expression r.outcome))
  check _ _ := []

/-! ### The clock -/

def defaultWindowSeconds : Nat := 60

/-- A window reaches back a leap year at most. -/
def maxWindowSeconds : Nat := 366 * 24 * 3600

def schedule? (expression : String) : Except String Cron.Schedule :=
  match Cron.Schedule.parse? (Text.trim expression) with
  | some schedule => .ok schedule
  | none =>
    .error (s!"invalid cron schedule '{expression}': " ++
      "Invalid expression: Invalid cron expression.")

def instant? (text : String) : Except String Instant :=
  (Instant.parse (Text.trim text)).mapError fun e => s!"invalid 'at' instant '{text}': {e.message}"

/-- Fires once a fixed instant has come. -/
def atInstant (t now : Instant) : Decision :=
  if t.le now then .fireBecause s!"scheduled instant {t.formatMessage} reached"
  else .hold s!"scheduled for {t.formatMessage}"

/-- A search for the next occurrence of a schedule after an instant. -/
abbrev Search := Cron.Schedule → Instant → Option Instant

/-- Fires when the schedule has an occurrence after the start of the window and up to now. The clock
is taken to stand a window or more behind the first instant: nearer to it the window has no start to
begin with, and the evaluation, which would panic there, is left out. -/
def atOccurrence (expression : String) (schedule : Cron.Schedule) (window : Nat) (now : Instant)
    (search : Search := Cron.Schedule.next?) : Decision :=
  let start := now.addSeconds (-(min window maxWindowSeconds : Nat))
  let missed := Decision.hold s!"no occurrence of '{expression}' within the last {window}s"
  match search schedule start with
  | some t =>
    if t.le now then .fireBecause s!"schedule '{expression}' matched at {t.formatMessage}" else missed
  | none => missed

/-- The decision of a trigger on the clock; a fixed instant wins over a schedule. -/
def timeDecision (t : Trigger) (now : Instant) (search : Search := Cron.Schedule.next?) :
    Except String Decision :=
  match t.at?, t.schedule with
  | some text, _ => do .ok (atInstant (← instant? text) now)
  | none, some expression => do
    let schedule ← schedule? expression
    .ok (atOccurrence expression schedule (t.windowSeconds.getD defaultWindowSeconds) now search)
  | none, none => .error "time_based trigger needs a 'schedule' or an 'at' instant"

/-- The messages of a check that went wrong. -/
def issueOf {α : Type} : Except String α → List String
  | .ok _ => []
  | .error message => [message]

def timeBased (search : Search := Cron.Schedule.next?) : TriggerHandler where
  evaluate step s := .done ((timeDecision step.trigger s.now search).mapError StepError.evaluation)
  check step _ :=
    match step.trigger.schedule, step.trigger.at? with
    | some expression, _ => issueOf (schedule? expression)
    | none, some text => issueOf (instant? text)
    | none, none => ["time_based trigger needs 'schedule' or 'at'"]

/-! ### Events and delays -/

def userAction : TriggerHandler where
  evaluate step s :=
    match present? step.trigger.event with
    | none => fail (.evaluation "user_action trigger has no event name")
    | some event =>
      if event ∈ s.events then decide (.fireBecause s!"event '{event}' received")
      else decide (.hold s!"event '{event}' not received")
  check step _ :=
    if (present? step.trigger.event).isSome then []
    else ["user_action trigger needs an 'event' name"]

def delayed : TriggerHandler where
  evaluate step s :=
    let delay := step.trigger.delaySeconds.getD 0
    let fired := Except.ok (Decision.fireBecause s!"delayed {delay}s")
    if delay = 0 then .done fired
    else if s.cancelled then fail .cancelled
    else .sleep (delay * 1000) (.done fired)
  check step _ :=
    if step.trigger.delaySeconds.isNone then ["delayed trigger needs 'delay_seconds'"] else []

end Playbook.TriggerHandler
