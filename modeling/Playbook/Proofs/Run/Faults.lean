import Playbook.Proofs.Handler.Condition
import Playbook.Proofs.Program.Rendering
import Playbook.Proofs.Run.Retries

/-!
Why attempts at the steps of programs without blocking issues fail. Their conditions parse and call
known functions only, and so do the placeholders of their parameters, but for blanks that make them
too long. Whatever else goes wrong is no matter of how an expression is written: a type without a
handler, another trigger, the action, or the personality of the tenant.
-/
namespace Playbook

open Json (Value)
open Expression (Environment ExpressionError FailsOnly)
open Trace (EventKind)

namespace TriggerHandler

/-- A condition that is there fails as its evaluation does. -/
theorem condition_yields {step : Step} {s : TriggerScope} {text : String}
    (present : present? step.trigger.condition = some text) :
    (condition.evaluate step s).Yields fun answer => ∀ x, answer = .error x →
      ∃ e, s.evaluator.evaluateCondition text s.environment = .error e ∧
        x = .evaluation e.message := by
  unfold condition
  dsimp only
  rw [present]
  change ∀ x, conditionDecision text (conditionRecord s text).outcome = .error x → _
  rw [outcome_conditionRecord]
  intro x failed
  cases evaluated : s.evaluator.evaluateCondition text s.environment with
  | error e =>
    rw [evaluated] at failed
    cases failed
    exact ⟨e, rfl, rfl⟩
  | ok held =>
    rw [evaluated] at failed
    cases held <;> cases failed

end TriggerHandler

namespace Dispatcher

/-- What the trigger of a step looks at in an attempt. -/
def triggerScope (d : Dispatcher) (scope : RunScope) (vars : List (String × Value))
    (cancelled : Bool) (attempt : Nat) : TriggerScope where
  attempt := attempt
  cancelled := cancelled
  «variables» := vars
  runId := scope.runId
  tenantId := scope.tenantId
  events := scope.events
  now := scope.now
  evaluator := d.evaluator

/-- Why an attempt at a step of a checked program fails. -/
inductive Fault (d : Dispatcher) (scope : RunScope) (vars : List (String × Value))
    (cancelled : Bool) (step : Step) (attempt : Nat) : StepError → Prop
  /-- a type has no handler -/
  | unregistered {e : RegistryError}
      (missing : d.registry.step step.type.id = .error e ∨
        d.registry.trigger step.trigger.type.id = .error e ∨
        d.registry.action step.action.type.id = .error e) :
      Fault d scope vars cancelled step attempt ⟨.unknownHandler, e.message⟩
  /-- the condition is evaluated, and the values it meets do not fit -/
  | condition {text : String} {e : ExpressionError}
      (type : step.trigger.type = .conditionBased)
      (present : TriggerHandler.present? step.trigger.condition = some text)
      (failed : d.evaluator.evaluateCondition text ⟨vars, scope.now⟩ = .error e)
      (cause : d.evaluator.MayFail e) :
      Fault d scope vars cancelled step attempt (.evaluation e.message)
  /-- another trigger fails -/
  | trigger {handler : TriggerHandler} {x : StepError}
      (found : d.registry.trigger step.trigger.type.id = .ok handler)
      (foreign : step.trigger.type = .conditionBased → handler ≠ .condition)
      (answer : (handler.evaluate step (d.triggerScope scope vars cancelled attempt)).outcome =
        .ok (.error x)) : Fault d scope vars cancelled step attempt x
  /-- the parameters are rendered, and the values of a placeholder do not fit or blanks around it
  make it too long -/
  | rendering {e : ExpressionError}
      (failed : Template.render d.evaluator ⟨vars, scope.now⟩ step.action.params = .error e)
      (cause : d.evaluator.MayFailToRender (Template.placeholdersIn step.action.params) e) :
      Fault d scope vars cancelled step attempt
        (.evaluation s!"failed rendering parameters: {e.message}")
  /-- the action fails -/
  | action {handler : ActionHandler} {i : Invocation} {e : ActionError}
      (found : d.registry.action step.action.type.id = .ok handler)
      (answer : (handler.execute i).outcome = .ok (.error e)) :
      Fault d scope vars cancelled step attempt e.toStepError
  /-- the content is not consistent with the personality of the tenant -/
  | personality (message : String) (used : step.action.usePersonality = true) :
      Fault d scope vars cancelled step attempt (.handler message)

variable {d : Dispatcher} {program : Program} {step : Step}

theorem invoke_yields_error (handler : ActionHandler) (type : String) (i : Invocation) :
    (invoke handler type i).Yields
      fun answer => ∀ e, answer = .error e → (handler.execute i).outcome = .ok (.error e) := by
  refine Activity.yields_bind _ fun _ => ?_
  have answers := ((handler.execute i).yields_outcome.relabel (δ := EventKind) Empty.elim).timed
  refine answers.bind fun (_, answer) own => ?_
  cases answer with
  | ok output => exact Activity.yields_bind _ fun _ e answered => nomatch answered
  | error e =>
    refine Activity.yields_bind _ fun _ e' answered => ?_
    cases answered
    exact own

theorem checkPersonality_yields (d : Dispatcher) (step : Step) (tenantId : String)
    (output : Value) : (d.checkPersonality step tenantId output).Yields fun checked =>
      ∀ x, checked.2 = some x →
        step.action.usePersonality = true ∧ ∃ message, x = .handler message := by
  unfold checkPersonality
  split
  · rename_i used
    unfold checkConsistency
    split
    · exact nofun
    · refine Activity.yields_bind _ fun answer => ?_
      cases answer with
      | error message =>
        intro x failed
        dsimp only at failed
        split at failed
        · cases failed
          exact ⟨used, _, rfl⟩
        · cases failed
      | ok answer =>
        intro x failed
        dsimp only at failed
        split at failed
        · cases failed
          exact ⟨used, _, rfl⟩
        · cases failed
  · exact nofun

theorem act_faults (clean : program.Clean d.registry d.evaluator) (declared : step ∈ program.steps)
    (scope : RunScope) (vars : List (String × Value)) (cancelled : Bool) (attempt : Nat)
    (decision : Decision) : (d.act scope vars cancelled step attempt decision).Yields
      fun r => ∀ x, r.error = some x → d.Fault scope vars cancelled step attempt x := by
  unfold act
  split
  · rename_i missing
    rintro x ⟨⟩
    exact .unregistered (.inr (.inr missing))
  · rename_i handler found
    split
    · rename_i e failed
      rintro x ⟨⟩
      exact .rendering failed (Template.failsOnly_render _ (clean.placeholders declared) e failed)
    · extract_lets _ continued
      have rest : ∀ knowledge, (continued knowledge).Yields
          fun r => ∀ x, r.error = some x → d.Fault scope vars cancelled step attempt x := by
        intro knowledge
        refine (invoke_yields_error ..).bind fun answer own => ?_
        split
        · rename_i e
          rintro x ⟨⟩
          exact .action found (own e rfl)
        · rename_i output
          refine (d.checkPersonality_yields step scope.tenantId output).bind fun checked fails => ?_
          split
          rename_i scores error
          split
          · rintro x ⟨⟩
            obtain ⟨used, message, rfl⟩ := fails _ rfl
            exact .personality message used
          · exact nofun
      split
      · exact Activity.yields_bind _ rest
      · exact Activity.yields_bind _ rest

/-- Why an attempt at a step of a program without blocking issues fails. -/
theorem dispatch_faults (clean : program.Clean d.registry d.evaluator)
    (declared : step ∈ program.steps) (scope : RunScope) (vars : List (String × Value))
    (cancelled : Bool) (attempt : Nat) : (d.dispatch scope vars cancelled step attempt).Yields
      fun r => ∀ x, r.error = some x → d.Fault scope vars cancelled step attempt x := by
  unfold dispatch
  split
  · rename_i missing
    rintro x ⟨⟩
    exact .unregistered (.inl missing)
  · rename_i missing
    rintro x ⟨⟩
    exact .unregistered (.inr (.inl missing))
  · rename_i handler _ found
    have answers : (handler.evaluate step (d.triggerScope scope vars cancelled attempt)).Yields
        fun answer => ∀ x, answer = .error x → d.Fault scope vars cancelled step attempt x := by
      by_cases builtin : step.trigger.type = .conditionBased ∧ handler = .condition
      · obtain ⟨type, rfl⟩ := builtin
        obtain ⟨text, present, accepted⟩ := clean.condition declared type
        refine (TriggerHandler.condition_yields present).mono fun answer fails x failed => ?_
        obtain ⟨e, evaluated, rfl⟩ := fails x failed
        exact .condition type present evaluated (accepted.evaluateCondition _ e evaluated)
      · refine (handler.evaluate step _).yields_outcome.mono fun answer own x failed => ?_
        exact .trigger found (fun type same => builtin ⟨type, same⟩) (failed ▸ own)
    refine (answers.relabel conditionEvent).bind fun answer fails => ?_
    split
    · rintro x ⟨⟩
      exact fails _ rfl
    · split
      · exact act_faults clean declared ..
      · exact nofun

end Dispatcher

open RunState in
/-- Of a program without blocking issues no attempt fails because a condition or a placeholder does
not parse or calls an unknown function, whatever the variables, but for a placeholder that is too
long only with the blanks around it: an evaluation fails because of the values that it meets, or a
function of the table answers an error. So a step of a run that ends with an error was cut off, or
it failed so. -/
theorem checked_expressions_fail_by_values {d : Dispatcher} {program : Program}
    (clean : program.Clean d.registry d.evaluator) :
    (∀ step ∈ program.steps, ∀ scope vars cancelled attempt r x,
      (d.dispatch scope vars cancelled step attempt).outcome = .ok r → r.error = some x →
      d.Fault scope vars cancelled step attempt x) ∧
    ∀ settings scope o context cancelled s begun result,
      Reaches o (Plan.make d settings program scope)
        (start (Plan.make d settings program scope) context cancelled) s →
      s.result (Plan.make d settings program scope) begun = some result →
      ∀ r ∈ result.steps, 1 ≤ r.attempts →
      ¬ StepPanicked o (Plan.make d settings program scope)
        (start (Plan.make d settings program scope) context cancelled) s r.stepId →
      ∀ x, r.error = some x → x.kind = .timeout ∨ x.kind = .cancelled ∨
        ∃ step ∈ program.steps, step.id = r.stepId ∧ ∃ vars,
          d.Fault scope vars false step r.attempts x := by
  have attempts : ∀ step ∈ program.steps, ∀ scope vars cancelled attempt r x,
      (d.dispatch scope vars cancelled step attempt).outcome = .ok r → r.error = some x →
      d.Fault scope vars cancelled step attempt x := by
    intro step declared scope vars cancelled attempt r x came
    exact (Dispatcher.dispatch_faults clean declared scope vars cancelled attempt).of_outcome came x
  refine ⟨attempts, ?_⟩
  intro settings scope o context cancelled s begun result reached hr r mem attempted calm x error
  have hp := Plan.sound_make clean settings scope
  obtain ⟨finished, steps⟩ := isOver_of_result hr
  obtain ⟨step, vars, own, tried⟩ := tried_of_result hp
    (Plan.discreet_make d settings program scope) rfl reached (steps ▸ mem) attempted calm
  cases tried.last with
  | own came same =>
    rw [← StepResult.error_timeless, same, StepResult.error_timeless] at error
    have declared := tried.dispatched.declared hp
    have fault := attempts step declared _ _ _ _ _ _ came error
    exact .inr (.inr ⟨step, declared, tried.same, vars, fault⟩)
  | cutOff kind same =>
    rw [← StepResult.error_timeless, same] at error
    cases error
    exact kind.imp_right .inl

/-- Messages that arrive at once, and expressions of eight bytes at most. -/
def Dispatcher.terse : Dispatcher where
  registry := {
    steps := [("message", ⟨fun _ => []⟩)]
    triggers := [("immediate", ⟨fun _ _ => return .ok .fire, fun _ _ => []⟩)]
    actions := [("send_message", ⟨fun i => return .ok (.text i.stepId), fun _ => []⟩)] }
  evaluator := ⟨[], { maxLength := 8 }⟩

def Step.greeting (message : String) : Step where
  id := "mail"
  action := { params := .object [("message", .text message)] }

/-- A program with one message. -/
def Program.greeting (message : String) : Program where
  id := "greeting"
  status := .published
  execution := { retryFailedSteps := false }
  steps := [.greeting message]

def RunScope.greeting : RunScope where
  runId := "run"
  tenantId := "tenant"
  userId := none
  events := []
  now := ⟨0, 0⟩
  personality := {}

def Plan.greeting (message : String) : Plan := .make .terse {} (.greeting message) .greeting

section greeting

variable {message : String}
  (clean : (Program.greeting message).Clean Dispatcher.terse.registry Dispatcher.terse.evaluator)

include clean

theorem unreachable_greeting : (Plan.greeting message).unreachable = [] := by
  have sound : (Plan.greeting message).Sound := Plan.sound_make clean ..
  refine sound.unreachable_eq_nil fun step declared _ => ?_
  cases List.mem_singleton.1 declared
  rfl

open RunState in
/-- A run of the greeting that is over after eight moves, with an error and without a panic. -/
theorem exists_greeting (error : StepError)
    (ended : ((Plan.greeting message).after 8).isOver = true ∧
      ((Plan.greeting message).after 8).fault = none ∧
      ((Plan.greeting message).after 8).results.map (fun r => (r.attempts, r.error)) =
        [(1, some error)]) :
    ∃ context s result r,
      Reaches .free (Plan.greeting message) (start (Plan.greeting message) context false) s ∧
      s.result (Plan.greeting message) ⟨0, 0⟩ = some result ∧ r ∈ result.steps ∧
      r.attempts = 1 ∧ r.error = some error ∧
      ¬ StepPanicked .free (Plan.greeting message) (start (Plan.greeting message) context false) s
        r.stepId := by
  obtain ⟨finished, calm, results⟩ := ended
  have reached := (Plan.greeting message).reaches_after 8
  obtain ⟨result, hr, steps⟩ := exists_result (p := .greeting message) finished ⟨0, 0⟩
  obtain ⟨r, one, told⟩ := List.map_eq_singleton_iff.1 results
  refine ⟨_, _, result, r, reached, hr, by simp [steps, one], congrArg Prod.fst told,
    congrArg Prod.snd told, fun panicked => ?_⟩
  have sound : (Plan.greeting message).Sound := Plan.sound_make clean ..
  have faulty := panicked.isSome_fault (.of_reaches sound reached) finished
  rw [calm] at faulty
  cases faulty

end greeting

theorem clean_greeting_padded : (Program.greeting "${   true   }").Clean
    Dispatcher.terse.registry Dispatcher.terse.evaluator :=
  .of_checks rfl (by decide +kernel) (by decide +kernel) (by decide +kernel)

open RunState in
/-- The placeholder is accepted as `true`, and with its blanks it is too long to be evaluated. -/
theorem padded_greeting_does_not_parse :
    (Program.greeting "${   true   }").Clean Dispatcher.terse.registry Dispatcher.terse.evaluator ∧
    Template.render Dispatcher.terse.evaluator ⟨[], ⟨0, 0⟩⟩
      (.object [("message", .text "${   true   }")]) = .error (.parse (.tooLong 8)) ∧
    ∃ context s result r, Reaches .free (Plan.greeting "${   true   }")
        (start (Plan.greeting "${   true   }") context false) s ∧
      s.result (Plan.greeting "${   true   }") ⟨0, 0⟩ = some result ∧ r ∈ result.steps ∧
      r.error = some (.evaluation ("failed rendering parameters: expression parse error: " ++
        "expression exceeds max length 8")) := by
  refine ⟨clean_greeting_padded, rfl, ?_⟩
  obtain ⟨context, s, result, r, reached, hr, mem, -, error, -⟩ :=
    exists_greeting clean_greeting_padded
      (.evaluation ("failed rendering parameters: expression parse error: " ++
        "expression exceeds max length 8")) (by
      simp only [Plan.after, start, unreachable_greeting clean_greeting_padded]
      decide +kernel)
  exact ⟨context, s, result, r, reached, hr, mem, error⟩

theorem clean_greeting_name : (Program.greeting "Hi ${ name }").Clean
    Dispatcher.terse.registry Dispatcher.terse.evaluator :=
  .of_checks rfl (by decide +kernel) (by decide +kernel) (by decide +kernel)

open RunState in
/-- A greeting of somebody who is not among the variables. -/
theorem nameless_greeting_fails :
    (∃ step ∈ (Program.greeting "Hi ${ name }").steps, ∃ r x,
      (Dispatcher.terse.dispatch .greeting [] false step 1).outcome = .ok r ∧
      r.error = some x ∧ Dispatcher.terse.Fault .greeting [] false step 1 x) ∧
    ∃ context s result r x, Reaches .free (Plan.greeting "Hi ${ name }")
        (start (Plan.greeting "Hi ${ name }") context false) s ∧
      s.result (Plan.greeting "Hi ${ name }") ⟨0, 0⟩ = some result ∧ r ∈ result.steps ∧
      r.error = some x ∧ ∃ step ∈ (Program.greeting "Hi ${ name }").steps, ∃ vars,
        Dispatcher.terse.Fault .greeting vars false step r.attempts x := by
  obtain ⟨attempts, runs⟩ := checked_expressions_fail_by_values clean_greeting_name
  let x := StepError.evaluation "failed rendering parameters: unknown identifier 'name'"
  constructor
  · have declared : Step.greeting "Hi ${ name }" ∈ (Program.greeting "Hi ${ name }").steps :=
      List.mem_singleton_self _
    have fails : (Dispatcher.terse.dispatch .greeting [] false
        (.greeting "Hi ${ name }") 1).outcome.toOption.map StepResult.error = some (some x) := by
      decide +kernel
    cases came : (Dispatcher.terse.dispatch .greeting [] false
        (.greeting "Hi ${ name }") 1).outcome with
    | error message =>
      rw [came] at fails
      cases fails
    | ok r =>
      rw [came] at fails
      have error : r.error = some x := Option.some.inj fails
      exact ⟨_, declared, r, x, came, error, attempts _ declared _ _ _ _ r x came error⟩
  · obtain ⟨context, s, result, r, reached, hr, mem, once, error, calm⟩ :=
      exists_greeting clean_greeting_name x (by
        simp only [Plan.after, start, unreachable_greeting clean_greeting_name]
        decide +kernel)
    refine ⟨context, s, result, r, x, reached, hr, mem, error, ?_⟩
    rcases runs {} .greeting .free context false s ⟨0, 0⟩ result reached hr r mem (by omega) calm x
      error with kind | kind | ⟨step, declared, -, vars, fault⟩
    · cases kind
    · cases kind
    · exact ⟨step, declared, vars, fault⟩

end Playbook
