import Playbook.Proofs.Activity
import Playbook.Run.Dispatch

/-!
What comes of an attempt at a step: whatever handlers and providers do, its result is one of the
step and of the attempt, and it is completed, skipped or failed; and what it records are events of
its trigger and its action.
-/
namespace Playbook

open Trace (EventKind)

namespace StepResult

/-- A result that can come of an attempt at a step. -/
structure OfAttempt (stepId : String) (number : Nat) (r : StepResult) : Prop where
  step : r.stepId = stepId
  attempts : r.attempts = number
  status : r.status ≠ .retried

/-- The output of the result is an object if the step is completed. -/
def Wrapped (r : StepResult) : Prop :=
  r.status = .completed → ∃ entries, r.output = .object entries

/-- The result without the moments of its start and its end. -/
def timeless (r : StepResult) : StepResult := r.between 0 0

@[simp] theorem stepId_timeless (r : StepResult) : r.timeless.stepId = r.stepId := rfl

@[simp] theorem status_timeless (r : StepResult) : r.timeless.status = r.status := rfl

@[simp] theorem attempts_timeless (r : StepResult) : r.timeless.attempts = r.attempts := rfl

@[simp] theorem trigger_timeless (r : StepResult) : r.timeless.trigger = r.trigger := rfl

@[simp] theorem error_timeless (r : StepResult) : r.timeless.error = r.error := rfl

@[simp] theorem output_timeless (r : StepResult) : r.timeless.output = r.output := rfl

end StepResult

/-- An event that a trigger or an action records while an attempt goes on. -/
def Trace.EventKind.ofHandler : EventKind → Bool
  | .conditionEvaluated .. | .handlerInvoked _ | .handlerReturned .. | .handlerError .. => true
  | _ => false

namespace Dispatcher

open Json (Value)

theorem ofAttempt_failed (id : String) (n : Nat) (e : StepError) (d : Decision) :
    (StepResult.failed id n e d).OfAttempt id n :=
  ⟨rfl, rfl, StepStatus.noConfusion⟩

theorem act_yields (d : Dispatcher) (scope : RunScope) (vars : List (String × Value))
    (cancelled : Bool) (step : Step) (attempt : Nat) (decision : Decision) :
    (d.act scope vars cancelled step attempt decision).Yields
      (StepResult.OfAttempt step.id attempt) := by
  unfold act
  split
  · exact ofAttempt_failed ..
  · split
    · exact ofAttempt_failed ..
    · extract_lets _ continued
      have rest : ∀ knowledge,
          (continued knowledge).Yields (StepResult.OfAttempt step.id attempt) := by
        intro knowledge
        refine Activity.yields_bind _ fun answer => ?_
        split
        · exact ofAttempt_failed ..
        · refine Activity.yields_bind _ fun checked => ?_
          split
          split
          · exact ⟨rfl, rfl, StepStatus.noConfusion⟩
          · exact ⟨rfl, rfl, StepStatus.noConfusion⟩
      split
      · exact Activity.yields_bind _ rest
      · exact Activity.yields_bind _ rest

theorem dispatch_yields (d : Dispatcher) (scope : RunScope) (vars : List (String × Value))
    (cancelled : Bool) (step : Step) (attempt : Nat) :
    (d.dispatch scope vars cancelled step attempt).Yields
      (StepResult.OfAttempt step.id attempt) := by
  unfold dispatch
  split
  · exact ofAttempt_failed ..
  · exact ofAttempt_failed ..
  · refine Activity.yields_bind _ fun answer => ?_
    split
    · exact ofAttempt_failed ..
    · split
      · exact d.act_yields ..
      · exact ⟨rfl, rfl, StepStatus.noConfusion⟩

theorem wrapped_failed (id : String) (n : Nat) (e : StepError) (d : Decision) :
    (StepResult.failed id n e d).Wrapped := fun completed => StepStatus.noConfusion completed

/-- What an action answers is put into an object. -/
theorem invoke_yields (handler : ActionHandler) (type : String) (i : Invocation) :
    (invoke handler type i).Yields
      fun answer => ∀ output, answer = .ok output → ∃ entries, output = .object entries := by
  refine Activity.yields_bind _ fun _ => Activity.yields_bind _ fun (_, answer) => ?_
  cases answer with
  | error e => exact Activity.yields_bind _ fun _ output answered => nomatch answered
  | ok value =>
    refine Activity.yields_bind _ fun _ output answered => ?_
    cases answered
    unfold asOutput
    split <;> exact ⟨_, rfl⟩

theorem act_yields_wrapped (d : Dispatcher) (scope : RunScope) (vars : List (String × Value))
    (cancelled : Bool) (step : Step) (attempt : Nat) (decision : Decision) :
    (d.act scope vars cancelled step attempt decision).Yields StepResult.Wrapped := by
  unfold act
  split
  · exact wrapped_failed _ _ _ _
  · split
    · exact wrapped_failed _ _ _ _
    · extract_lets _ continued
      have rest : ∀ knowledge, (continued knowledge).Yields StepResult.Wrapped := by
        intro knowledge
        refine (invoke_yields ..).bind fun answer object => ?_
        split
        · exact wrapped_failed _ _ _ _
        · refine Activity.yields_bind _ fun checked => ?_
          split
          split
          · exact fun completed => StepStatus.noConfusion completed
          · exact fun _ => object _ rfl
      split
      · exact Activity.yields_bind _ rest
      · exact Activity.yields_bind _ rest

/-- The output of a completed attempt is an object, whatever the action answers. -/
theorem dispatch_yields_wrapped (d : Dispatcher) (scope : RunScope) (vars : List (String × Value))
    (cancelled : Bool) (step : Step) (attempt : Nat) :
    (d.dispatch scope vars cancelled step attempt).Yields StepResult.Wrapped := by
  unfold dispatch
  split
  · exact wrapped_failed _ _ _ _
  · exact wrapped_failed _ _ _ _
  · refine Activity.yields_bind _ fun answer => ?_
    split
    · exact wrapped_failed _ _ _ _
    · split
      · exact d.act_yields_wrapped ..
      · exact fun completed => StepStatus.noConfusion completed

@[simp] theorem events_knowledgeFor (d : Dispatcher) (tenantId : String) (params : Value) :
    (d.knowledgeFor tenantId params).events = [] := by
  unfold knowledgeFor
  split
  · rfl
  · rw [Activity.events_bind, Activity.events_silent]
    split <;> rfl

theorem ofHandler_invoke {handler : ActionHandler} {type : String} {i : Invocation}
    {kind : EventKind}
    (h : kind ∈ (invoke handler type i).events) : kind.ofHandler = true := by
  unfold invoke at h
  rcases Activity.mem_events_bind h with h | ⟨_, h⟩
  · rw [List.mem_singleton.1 h]
    rfl
  · rcases Activity.mem_events_bind h with h | ⟨⟨elapsed, answer⟩, h⟩
    · simp at h
    · cases answer with
      | ok output | error e =>
        rw [List.mem_singleton.1 h]
        rfl

@[simp] theorem events_checkPersonality (d : Dispatcher) (step : Step) (tenantId : String)
    (output : Value) : (d.checkPersonality step tenantId output).events = [] := by
  unfold checkPersonality checkConsistency
  split
  · split
    · rfl
    · rw [Activity.events_bind, Activity.events_silent]
      split
      · next answer _ => cases answer <;> rfl
      · rfl
  · rfl

theorem ofHandler_act {d : Dispatcher} {scope : RunScope} {vars : List (String × Value)}
    {cancelled : Bool} {step : Step} {attempt : Nat} {decision : Decision} {kind : EventKind}
    (h : kind ∈ (d.act scope vars cancelled step attempt decision).events) :
    kind.ofHandler = true := by
  unfold act at h
  split at h
  · cases h
  · split at h
    · cases h
    · extract_lets _ continued at h
      have rest : ∀ knowledge, ∀ kind ∈ (continued knowledge).events, kind.ofHandler = true := by
        intro knowledge kind h
        rcases Activity.mem_events_bind h with h | ⟨answer, h⟩
        · exact ofHandler_invoke h
        · split at h
          · cases h
          · rcases Activity.mem_events_bind h with h | ⟨⟨scores, error⟩, h⟩
            · simp at h
            · cases error <;> cases h
      split at h
      · rcases Activity.mem_events_bind h with h | ⟨answer, h⟩
        · simp at h
        · exact rest _ _ h
      · exact rest _ _ h

/-- Only triggers and actions record something while an attempt goes on. -/
theorem ofHandler_dispatch {d : Dispatcher} {scope : RunScope} {vars : List (String × Value)}
    {cancelled : Bool} {step : Step} {attempt : Nat} {kind : EventKind}
    (h : kind ∈ (d.dispatch scope vars cancelled step attempt).events) : kind.ofHandler = true := by
  unfold dispatch at h
  split at h
  · cases h
  · cases h
  · rcases Activity.mem_events_bind h with h | ⟨answer, h⟩
    · simp only [Activity.events_relabel, List.mem_map] at h
      obtain ⟨r, -, rfl⟩ := h
      unfold conditionEvent
      split <;> rfl
    · split at h
      · cases h
      · split at h
        · exact ofHandler_act h
        · cases h

end Dispatcher
end Playbook
