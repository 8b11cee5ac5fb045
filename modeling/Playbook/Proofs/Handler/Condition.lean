import Playbook.Handler.Triggers
import Playbook.Proofs.Expression.Reads
import Playbook.Run.Dispatch

/-!
The event of an evaluated condition is enough to audit it. The inputs that it names are all that the
condition reads of the variables, so evaluating the condition over them again gives what the event
reports, and conditions whose events name the same inputs decide alike.
-/
namespace Playbook.TriggerHandler

open Json (Value)
open Expression (Evaluator Environment ExpressionError Expr Parsed)

variable {s s' : TriggerScope} {step : Step} {text : String}

/-- What a condition records is what comes of it, with errors as their messages. -/
theorem outcome_conditionRecord (s : TriggerScope) (text : String) :
    (conditionRecord s text).outcome =
      (s.evaluator.evaluateCondition text s.environment).mapError ExpressionError.message := by
  unfold conditionRecord Expression.Evaluator.evaluateCondition Expression.Evaluator.evaluate
  cases s.evaluator.parse text with
  | error e => rfl
  | ok parsed => rfl

theorem expression_conditionRecord (s : TriggerScope) (text : String) :
    (conditionRecord s text).expression = text := by
  unfold conditionRecord
  cases s.evaluator.parse text <;> rfl

/-- A condition that is there is recorded once, and decides by its record. -/
theorem evaluate_condition (given : step.trigger.condition = some text)
    (visible : Text.allBlank text = false) : condition.evaluate step s =
      .record (conditionRecord s text)
        (.done (conditionDecision text (conditionRecord s text).outcome)) := by
  have present : present? step.trigger.condition = some text := by
    simp [present?, given, visible]
  simp only [condition, present]

/-- The inputs are bindings of the variables. -/
theorem get?_of_mem_inputsOf {p : Parsed} {vars : List (String × Value)} {name : String} {v : Value}
    (mem : (name, v) ∈ inputsOf p vars) : Keyed.get? name vars = some v := by
  obtain ⟨own, -, bound⟩ := List.mem_filterMap.1 (Keyed.mem_of_mem_ofList mem)
  obtain ⟨w, found, same⟩ := Option.map_eq_some_iff.1 bound
  cases same
  exact found

/-- The inputs bind every variable that an expression reads, as the variables do. -/
theorem get?_inputsOf {p : Parsed} {vars : List (String × Value)} {name : String}
    (read : name ∈ p.root.reads) :
    Keyed.get? name (inputsOf p vars) = Keyed.get? name vars := by
  cases bound : Keyed.get? name (inputsOf p vars) with
  | some v => exact (get?_of_mem_inputsOf (Keyed.mem_of_get? bound)).symm
  | none =>
    cases found : Keyed.get? name vars with
    | none => rfl
    | some v =>
      -- a variable that is there would be among the inputs
      have kept : name ∈ Keyed.keys (inputsOf p vars) := by
        refine Keyed.mem_keys_ofList.2 (List.mem_map.2 ⟨(name, v), ?_, rfl⟩)
        refine List.mem_filterMap.2 ⟨name, Expr.mem_identifiers.2 read, ?_⟩
        rw [found, Option.map_some]
      rw [Keyed.mem_keys_iff, Keyed.contains, bound] at kept
      cases kept

/-- Conditions come to the same when the variables that they read do not differ. -/
theorem evaluateParsed_congr {v : Evaluator} (blind : v.Blind) {p : Parsed}
    {vars vars' : List (String × Value)} {now : Instant}
    (agree : ∀ name ∈ p.root.reads, Keyed.get? name vars = Keyed.get? name vars') :
    v.evaluateParsed p ⟨vars, now⟩ = v.evaluateParsed p ⟨vars', now⟩ :=
  Expression.eval_congr blind p.root agree

/-- Evaluating a condition over the inputs of its record gives what evaluating it gave. -/
theorem evaluateCondition_inputs (blind : s.evaluator.Blind) :
    s.evaluator.evaluateCondition text ⟨(conditionRecord s text).inputs, s.now⟩ =
      s.evaluator.evaluateCondition text s.environment := by
  unfold Evaluator.evaluateCondition Evaluator.evaluate conditionRecord
  cases s.evaluator.parse text with
  | error e => rfl
  | ok p =>
    have same : s.evaluator.evaluateParsed p ⟨inputsOf p s.variables, s.now⟩ =
        s.evaluator.evaluateParsed p s.environment :=
      evaluateParsed_congr blind fun name read => get?_inputsOf read
    exact congrArg (· >>= _) same

/-- Records of one condition at one instant are the same when their inputs are. -/
theorem conditionRecord_congr (blind : s.evaluator.Blind) (evaluator : s'.evaluator = s.evaluator)
    (now : s'.now = s.now)
    (inputs : (conditionRecord s' text).inputs = (conditionRecord s text).inputs) :
    conditionRecord s' text = conditionRecord s text := by
  have outcome : (conditionRecord s' text).outcome = (conditionRecord s text).outcome := by
    rw [outcome_conditionRecord, outcome_conditionRecord, ← evaluateCondition_inputs blind,
      ← evaluateCondition_inputs (evaluator ▸ blind), inputs, evaluator, now]
  have expression : (conditionRecord s' text).expression = (conditionRecord s text).expression := by
    rw [expression_conditionRecord, expression_conditionRecord]
  cases found : conditionRecord s' text
  cases found' : conditionRecord s text
  rw [found, found'] at inputs outcome expression
  cases inputs
  cases outcome
  cases expression
  rfl

open Dispatcher (conditionEvent)

theorem conditionEvent_of_ok {r : ConditionRecord} {held : Bool} (h : r.outcome = .ok held) :
    conditionEvent r = .conditionEvaluated r.expression r.inputs (some held) none := by
  rw [conditionEvent, h]

theorem conditionEvent_of_error {r : ConditionRecord} {message : String}
    (h : r.outcome = .error message) :
    conditionEvent r = .conditionEvaluated r.expression r.inputs none (some message) := by
  rw [conditionEvent, h]

/-- The inputs of a record can be read off its event. -/
theorem inputs_of_conditionEvent {r : ConditionRecord} {expression : String}
    {inputs : List (String × Value)} {result : Option Bool} {error : Option String}
    (h : conditionEvent r = .conditionEvaluated expression inputs result error) :
    r.inputs = inputs := by
  unfold conditionEvent at h
  split at h <;>
  · cases h
    rfl

theorem exists_conditionEvent_eq (r : ConditionRecord) : ∃ result error,
    conditionEvent r = .conditionEvaluated r.expression r.inputs result error := by
  cases outcome : r.outcome with
  | ok held => exact ⟨_, _, conditionEvent_of_ok outcome⟩
  | error message => exact ⟨_, _, conditionEvent_of_error outcome⟩

theorem events_condition (given : step.trigger.condition = some text)
    (visible : Text.allBlank text = false) :
    ((condition.evaluate step s).relabel conditionEvent).events =
      [conditionEvent (conditionRecord s text)] := by
  rw [evaluate_condition given visible]
  rfl

theorem outcome_condition (given : step.trigger.condition = some text)
    (visible : Text.allBlank text = false) : (condition.evaluate step s).outcome =
      .ok (conditionDecision text (conditionRecord s text).outcome) := by
  rw [evaluate_condition given visible]
  rfl

theorem get?_of_mem_inputs {name : String} {v : Value}
    (mem : (name, v) ∈ (conditionRecord s text).inputs) :
    Keyed.get? name s.variables = some v := by
  unfold conditionRecord at mem
  split at mem
  · cases mem
  · exact get?_of_mem_inputsOf mem

/-- A condition records one event and decides by it. Over the inputs of the event alone, which are
bindings of the variables, the condition comes to what the event reports; and wherever its event has
the same inputs at the same instant, the condition does the same. -/
theorem condition_event_is_complete (given : step.trigger.condition = some text)
    (visible : Text.allBlank text = false) (blind : s.evaluator.Blind) :
    ∃ inputs result error,
      ((condition.evaluate step s).relabel conditionEvent).events =
        [.conditionEvaluated text inputs result error] ∧
      (∀ name v, (name, v) ∈ inputs → Keyed.get? name s.variables = some v) ∧
      (match s.evaluator.evaluateCondition text ⟨inputs, s.now⟩ with
        | .ok true => result = some true ∧ error = none ∧ ∃ reason,
            (condition.evaluate step s).outcome = .ok (.ok ⟨true, Branch.taken, some reason⟩)
        | .ok false => result = some false ∧ error = none ∧ ∃ reason,
            (condition.evaluate step s).outcome = .ok (.ok ⟨false, Branch.notTaken, some reason⟩)
        | .error e => result = none ∧ error = some e.message ∧
            (condition.evaluate step s).outcome = .ok (.error (.evaluation e.message))) ∧
      ∀ s' : TriggerScope, s'.evaluator = s.evaluator → s'.now = s.now →
        (∃ result' error', ((condition.evaluate step s').relabel conditionEvent).events =
          [.conditionEvaluated text inputs result' error']) →
        condition.evaluate step s' = condition.evaluate step s := by
  have again : ∀ s' : TriggerScope, s'.evaluator = s.evaluator → s'.now = s.now →
      (∃ result' error', ((condition.evaluate step s').relabel conditionEvent).events =
        [.conditionEvaluated text (conditionRecord s text).inputs result' error']) →
      condition.evaluate step s' = condition.evaluate step s := by
    rintro s' evaluator now ⟨result', error', event⟩
    rw [events_condition given visible] at event
    have inputs := inputs_of_conditionEvent (List.singleton_inj.1 event)
    have record := conditionRecord_congr blind evaluator now inputs
    rw [evaluate_condition given visible, evaluate_condition given visible, record]
  have expression := expression_conditionRecord s text
  have outcome := outcome_conditionRecord s text
  rw [← evaluateCondition_inputs blind] at outcome
  rw [events_condition given visible, outcome_condition given visible]
  refine ⟨(conditionRecord s text).inputs, ?_⟩
  cases answer : s.evaluator.evaluateCondition text ⟨(conditionRecord s text).inputs, s.now⟩ with
  | ok held =>
    rw [answer] at outcome
    refine ⟨some held, none, ?_, fun _ _ => get?_of_mem_inputs, ?_, again⟩
    · rw [conditionEvent_of_ok outcome, expression]
    · rw [outcome]
      cases held <;> exact ⟨rfl, rfl, _, rfl⟩
  | error e =>
    rw [answer] at outcome
    refine ⟨none, some e.message, ?_, fun _ _ => get?_of_mem_inputs, ⟨rfl, rfl, ?_⟩, again⟩
    · rw [conditionEvent_of_error outcome, expression]
    · rw [outcome]
      rfl

/-- A step that mails whoever has subscribed, unless blocked. -/
def mailing : Step where
  id := "mail"
  trigger := { type := .conditionBased, condition := some "subscribed AND NOT blocked" }

/-- A subscriber with a plan, of which the condition of `mailing` says nothing. -/
def subscriber (plan : String) : TriggerScope where
  runId := "run"
  tenantId := "tenant"
  attempt := 1
  «variables» := [("blocked", .bool false), ("plan", .text plan), ("subscribed", .bool true)]
  events := []
  now := ⟨0, 0⟩
  evaluator := .builtin {}
  cancelled := false

/-- What the event of `mailing` reports does not come from the plan. -/
theorem inputs_mailing (plan : String) :
    (conditionRecord (subscriber plan) "subscribed AND NOT blocked").inputs =
      [("blocked", .bool false), ("subscribed", .bool true)] := by
  have reads : ((Evaluator.builtin {}).parse "subscribed AND NOT blocked").toOption.map
      (fun p => p.root.identifiers) = some ["blocked", "subscribed"] := by decide +kernel
  obtain ⟨parsed, parse, names⟩ := Option.map_eq_some_iff.1 reads
  have parse : (subscriber plan).evaluator.parse "subscribed AND NOT blocked" = .ok parsed := by
    cases came : (Evaluator.builtin {}).parse "subscribed AND NOT blocked" with
    | error e =>
      rw [came] at parse
      cases parse
    | ok p =>
      rw [came] at parse
      exact came.trans (congrArg Except.ok (Option.some.inj parse))
  simp only [conditionRecord, parse]
  rw [inputsOf, names]
  rfl

theorem mailing_ignores_plan :
    mailing.trigger.condition = some "subscribed AND NOT blocked" ∧
    Text.allBlank "subscribed AND NOT blocked" = false ∧
    condition.evaluate mailing (subscriber "silver") =
      condition.evaluate mailing (subscriber "gold") := by
  have given : mailing.trigger.condition = some "subscribed AND NOT blocked" := rfl
  have visible : Text.allBlank "subscribed AND NOT blocked" = false := by decide +kernel
  refine ⟨given, visible, ?_⟩
  obtain ⟨inputs, result, error, event, -, -, again⟩ :=
    condition_event_is_complete (s := subscriber "gold") given visible (Evaluator.blind_builtin {})
  rw [events_condition given visible] at event
  have gold := inputs_of_conditionEvent (List.singleton_inj.1 event)
  obtain ⟨result', error', event'⟩ := exists_conditionEvent_eq
    (conditionRecord (subscriber "silver") "subscribed AND NOT blocked")
  rw [expression_conditionRecord, inputs_mailing, ← inputs_mailing "gold", gold] at event'
  refine again (subscriber "silver") rfl rfl ⟨result', error', ?_⟩
  rw [events_condition given visible, event']

end Playbook.TriggerHandler
