import Playbook.Proofs.Run.Faults

/-!
How often an attempt at a step executes the action of the step, what it records of it, and what it
makes of the answer. Events tell only what is recorded, so how often an action is executed is read
off the way an attempt hangs on the handlers of actions: one that executes none is the same whatever
these do, and one that executes an action once is that action between two parts, of which the first
hangs on no handler and the second on no more than the answer.
-/
namespace Playbook

open Json (Value)
open Trace (EventKind)

namespace Dispatcher

variable {d : Dispatcher} {scope : RunScope} {vars : List (String × Value)} {cancelled : Bool}
  {step : Step} {attempt : Nat} {decision : Decision}

/-! ### The parts of an attempt -/

/-- The call of the action of a step. -/
def invocation (scope : RunScope) (vars : List (String × Value)) (cancelled : Bool) (step : Step)
    (attempt : Nat) (params : Value) (knowledge : List KnowledgeChunk) : Invocation where
  attempt := attempt
  params := params
  knowledge := knowledge
  cancelled := cancelled
  «variables» := vars
  runId := scope.runId
  tenantId := scope.tenantId
  userId := scope.userId
  stepId := step.id
  usePersonality := step.action.usePersonality
  personality := scope.personality
  now := scope.now

/-- The knowledge that an action is given. -/
def fetch (d : Dispatcher) (step : Step) (tenantId : String) (params : Value) :
    Activity EventKind (List KnowledgeChunk) :=
  if step.action.useKnowledgeContext then d.knowledgeFor tenantId params else pure []

/-- What the result of a step says of the knowledge that its action was given. -/
def chunkCount (step : Step) (knowledge : List KnowledgeChunk) : Metadata :=
  if step.action.useKnowledgeContext then [("knowledge_chunks", .ofNat knowledge.length)] else []

/-- What an attempt makes of the answer of its action. -/
def conclude (d : Dispatcher) (scope : RunScope) (step : Step) (attempt : Nat) (decision : Decision)
    (metadata : Metadata) : Except ActionError Value → Activity EventKind StepResult
  | .error e => return .failed step.id attempt e.toStepError decision
  | .ok output => do
    let (scores, error) ← d.checkPersonality step scope.tenantId output
    match error with
    | some e =>
      return { StepResult.failed step.id attempt e decision with metadata := metadata ++ scores }
    | none =>
      return { StepResult.completed step.id attempt output decision with
        metadata := metadata ++ scores }

theorem act_eq {handler : ActionHandler} {params : Value}
    (found : d.registry.action step.action.type.id = .ok handler)
    (rendered : Template.render d.evaluator ⟨vars, scope.now⟩ step.action.params = .ok params) :
    d.act scope vars cancelled step attempt decision =
      d.fetch step scope.tenantId params >>= fun knowledge =>
        invoke handler step.action.type.id
            (invocation scope vars cancelled step attempt params knowledge) >>=
          d.conclude scope step attempt decision (chunkCount step knowledge) := by
  unfold act fetch
  rw [found, rendered]
  dsimp only
  split
  · next used =>
    refine congrArg (d.knowledgeFor scope.tenantId params >>= ·) (funext fun knowledge => ?_)
    refine congrArg (invoke _ _ _ >>= ·) (funext fun answer => ?_)
    rw [chunkCount, if_pos used]
    cases answer <;> rfl
  · next unused =>
    refine congrArg (invoke _ _ _ >>= ·) (funext fun answer => ?_)
    rw [chunkCount, if_neg unused]
    cases answer <;> rfl

/-! ### The call of an action -/

/-- The event of the answer of an action. -/
def answerEvent (type : String) (elapsed : Nat) : Except ActionError Value → EventKind
  | .ok _ => .handlerReturned type elapsed
  | .error e => .handlerError type e.message

theorem invoke_eq (handler : ActionHandler) (type : String) (i : Invocation) :
    invoke handler type i = Activity.event (.handlerInvoked type) >>= fun _ =>
      (handler.execute i).silent.timed >>= fun x =>
        Activity.event (answerEvent type x.1 x.2) >>= fun _ => pure (x.2.map asOutput) := by
  unfold invoke
  refine congrArg (Activity.event _ >>= ·) (funext fun _ => ?_)
  refine congrArg ((handler.execute i).silent.timed >>= ·) (funext fun (elapsed, answer) => ?_)
  cases answer <;> rfl

theorem outcome_execution {handler : ActionHandler} {i : Invocation}
    {x : Nat × Except ActionError Value} :
    ((handler.execute i).silent.timed : Activity EventKind _).outcome = .ok x ↔
      (handler.execute i).outcome = .ok x.2 ∧ x.1 = (handler.execute i).duration := by
  rw [Activity.outcome_timed_eq_ok, Activity.outcome_silent, Activity.duration_silent]

theorem outcome_invoke_eq_ok {handler : ActionHandler} {type : String} {i : Invocation}
    {output : Except ActionError Value} :
    (invoke handler type i).outcome = .ok output ↔
      ∃ answer, (handler.execute i).outcome = .ok answer ∧ output = answer.map asOutput := by
  rw [invoke_eq]
  constructor
  · intro came
    obtain ⟨-, -, came⟩ := Activity.outcome_bind_eq_ok.1 came
    obtain ⟨⟨elapsed, answer⟩, executed, came⟩ := Activity.outcome_bind_eq_ok.1 came
    cases came
    exact ⟨answer, (outcome_execution.1 executed).1, rfl⟩
  · rintro ⟨answer, answered, rfl⟩
    refine Activity.outcome_bind_eq_ok.2 ⟨(), rfl, ?_⟩
    exact Activity.outcome_bind_eq_ok.2 ⟨(_, answer), outcome_execution.2 ⟨answered, rfl⟩, rfl⟩

theorem events_invoke {handler : ActionHandler} {type : String} {i : Invocation}
    {answer : Except ActionError Value} (answered : (handler.execute i).outcome = .ok answer) :
    (invoke handler type i).events =
      [.handlerInvoked type, answerEvent type (handler.execute i).duration answer] := by
  have executed : ((handler.execute i).silent.timed : Activity EventKind _).outcome =
      .ok ((handler.execute i).duration, answer) := outcome_execution.2 ⟨answered, rfl⟩
  refine (congrArg Activity.events (invoke_eq handler type i)).trans (congrArg (_ :: ·) ?_)
  change ((handler.execute i).silent.timed >>= _).events = _
  rw [Activity.events_bind, executed, Activity.events_timed, Activity.events_silent]
  rfl

/-! ### The check of the personality -/

/-- The content among the entries of an output is consistent with the personality of the tenant,
where that is required. -/
def Passes (d : Dispatcher) (step : Step) (tenantId : String) (entries : List (String × Value)) :
    Prop :=
  step.action.usePersonality = true → step.action.requirePersonalityConsistency = true →
    ∀ content, Keyed.get? "content" entries = some (.text content) →
      ∃ score, (d.personality.scoreConsistency content tenantId).outcome = .ok (.ok score) ∧
        score.isConsistent = true

theorem textParam?_object {entries : List (String × Value)} {key text : String} :
    textParam? (.object entries) key = some text ↔ Keyed.get? key entries = some (.text text) := by
  change (Keyed.get? key entries).bind Value.text? = some text ↔ _
  cases Keyed.get? key entries with
  | none => simp
  | some v => cases v <;> simp [Value.text?]

theorem passes_iff {tenantId : String} {entries : List (String × Value)} {scores : Metadata}
    {error : Option StepError}
    (checked : (d.checkPersonality step tenantId (.object entries)).outcome = .ok (scores, error)) :
    error = none ↔ d.Passes step tenantId entries := by
  unfold checkPersonality at checked
  unfold Passes
  simp only [← textParam?_object]
  split at checked
  · next used =>
    unfold checkConsistency at checked
    split at checked
    · next missing =>
      cases checked
      simp [missing]
    · next content given =>
      obtain ⟨answer, scored, came⟩ := Activity.outcome_bind_eq_ok.1 checked
      rw [Activity.outcome_silent] at scored
      cases answer with
      | error message =>
        cases came
        simp [used, given, scored]
      | ok score =>
        cases came
        cases consistent : score.isConsistent <;>
          cases required : step.action.requirePersonalityConsistency <;>
          simp [used, given, scored, consistent]
  · next unused =>
    cases checked
    simp [unused]

/-! ### The output of a step -/

/-- The entries of the output that a value makes: its own if it is an object, and else the value
itself under one key. -/
inductive Makes : Value → List (String × Value) → Prop
  | object (entries : List (String × Value)) : Makes (.object entries) entries
  | other {v : Value} (apart : v.kind ≠ .object) : Makes v [("value", v)]

theorem makes_iff {v : Value} {entries : List (String × Value)} :
    Makes v entries ↔ asOutput v = .object entries := by
  cases v with
  | object own =>
    constructor
    · rintro (_ | apart)
      · rfl
      · exact absurd rfl apart
    · intro same
      cases same
      exact .object _
  | null | bool | number | text | list =>
    constructor
    · rintro ⟨⟩
      rfl
    · intro same
      cases same
      exact .other nofun

/-- What the answer of its action makes of the result of a step. -/
structure Concludes (d : Dispatcher) (step : Step) (tenantId : String)
    (answer : Except ActionError Value) (r : StepResult) : Prop where
  status : r.status = .completed ∨ r.status = .failed
  /-- it is completed if the action answered with a value whose output passes -/
  completed : r.status = .completed ↔
    ∃ v entries, answer = .ok v ∧ Makes v entries ∧ d.Passes step tenantId entries
  /-- and then it has this output -/
  output : r.status = .completed → ∀ v entries, answer = .ok v → Makes v entries →
    r.output = .object entries

/-- What an attempt concludes from an answer records nothing, and it completes the step only from an
output that passes. -/
theorem concludes_of_outcome {metadata : Metadata} {answer : Except ActionError Value}
    {r : StepResult} (ended : (d.conclude scope step attempt decision metadata
      (answer.map asOutput)).outcome = .ok r) : d.Concludes step scope.tenantId answer r := by
  cases answer with
  | error e =>
    cases ended
    exact ⟨.inr rfl, by simp [StepResult.failed], nofun⟩
  | ok v =>
    obtain ⟨entries, made⟩ : ∃ entries, asOutput v = .object entries := by
      cases v <;> exact ⟨_, rfl⟩
    obtain ⟨⟨scores, error⟩, checked, came⟩ := Activity.outcome_bind_eq_ok.1 ended
    rw [made] at checked
    have passes := passes_iff checked
    have only : ∀ w own, Except.ok v = (.ok w : Except ActionError Value) → Makes w own →
        own = entries := by
      rintro w own same makes
      cases same
      exact Value.object.inj ((makes_iff.1 makes).symm.trans made)
    cases error with
    | none =>
      cases came
      refine ⟨.inl rfl, iff_of_true rfl ⟨v, entries, rfl, makes_iff.2 made, passes.1 rfl⟩, ?_⟩
      intro _ w own same makes
      rw [only w own same makes]
      exact made
    | some e =>
      cases came
      refine ⟨.inr rfl, iff_of_false nofun ?_, nofun⟩
      rintro ⟨w, own, same, makes, passed⟩
      rw [only w own same makes] at passed
      exact nomatch passes.2 passed

@[simp] theorem events_conclude (metadata : Metadata) (answer : Except ActionError Value) :
    (d.conclude scope step attempt decision metadata answer).events = [] := by
  cases answer with
  | error e => rfl
  | ok output =>
    unfold conclude
    rw [Activity.events_bind, events_checkPersonality]
    split
    · next x _ =>
      obtain ⟨scores, error⟩ := x
      cases error <;> rfl
    · rfl

end Dispatcher

/-! ### How often an action is executed -/

namespace HandlerTable

variable {α : Type} {table other : HandlerTable α} {kind : HandlerKind} {id : String}

/-- Tables that have handlers for the same types. -/
def SameTypes (table other : HandlerTable α) : Prop :=
  ∀ id, Keyed.contains id table = Keyed.contains id other

theorem SameTypes.exists_lookup (same : SameTypes table other) {handler : α}
    (found : other.lookup kind id = .ok handler) :
    ∃ handler, table.lookup kind id = .ok handler := by
  have there : Keyed.contains id table = true := by
    rw [same, Keyed.contains, lookup_eq_ok.1 found]
    rfl
  obtain ⟨own, there⟩ := Option.isSome_iff_exists.1 there
  exact ⟨own, lookup_eq_ok.2 there⟩

theorem SameTypes.lookup_eq_error (same : SameTypes table other) {e : RegistryError}
    (missing : other.lookup kind id = .error e) : table.lookup kind id = .error e := by
  unfold lookup at missing ⊢
  cases there : Keyed.get? id other with
  | some handler =>
    rw [there] at missing
    cases missing
  | none =>
    have absent : Keyed.get? id table = none := by
      simpa [Keyed.contains, there] using same id
    rw [there] at missing
    rw [absent]
    exact missing

end HandlerTable

open HandlerTable (SameTypes)

/-- An event that an action records. -/
def Trace.EventKind.ofAction : EventKind → Bool
  | .handlerInvoked _ | .handlerReturned .. | .handlerError .. => true
  | _ => false

/-- What is done, as it hangs on the handlers of actions. -/
abbrev Work := HandlerTable ActionHandler → Activity EventKind StepResult

namespace Work

variable {work next : Work} {known : HandlerTable ActionHandler} {type : String}
  {handler : ActionHandler} {i : Invocation} {answer : Except ActionError Value}

/-- Work that executes no action: it is the same whatever the actions do. -/
def ExecutesNone (work : Work) (known : HandlerTable ActionHandler) : Prop :=
  ∀ actions, SameTypes actions known → work actions = work known

/-- Work that executes the action of a type once, with one call, and no other action: what comes
before does not hang on the handlers, and what comes after on no more than the answer. -/
def ExecutesOnce (work : Work) (known : HandlerTable ActionHandler) (type : String)
    (i : Invocation) : Prop :=
  ∃ (before : Activity EventKind Unit)
    (after : Nat × Except ActionError Value → Activity EventKind StepResult),
    before.outcome = .ok () ∧ ∀ actions, SameTypes actions known →
      ∃ handler, Keyed.get? type actions = some handler ∧
        work actions = before >>= fun _ => (handler.execute i).silent.timed >>= after

/-- Nothing executes an action and executes none. -/
theorem ExecutesOnce.not_none (once : work.ExecutesOnce known type i) :
    ¬ work.ExecutesNone known := by
  obtain ⟨before, after, reached, executes⟩ := once
  intro none
  -- handlers that break off with different messages make a difference
  have breaks : ∀ message, (work known).outcome = .error message := by
    intro message
    let broken : ActionHandler := ⟨fun _ => .panic message, fun _ => []⟩
    let actions := Keyed.mapValues (fun _ => broken) known
    have same : SameTypes actions known := by
      intro id
      rw [Keyed.contains, Keyed.get?_mapValues, Option.isSome_map, Keyed.contains]
    obtain ⟨handler, found, came⟩ := executes actions same
    rw [Keyed.get?_mapValues] at found
    obtain ⟨own, -, rfl⟩ := Option.map_eq_some_iff.1 found
    rw [← none actions same, came, Activity.outcome_bind, reached]
    rfl
  have clash := (breaks "one").symm.trans (breaks "other")
  exact absurd (Except.error.inj clash) (by decide)

/-- Work that executes an action once and tells of it: the action was called, and this is what it
answered. -/
structure Executes (work : Work) (known : HandlerTable ActionHandler) (type : String)
    (handler : ActionHandler) (i : Invocation) (answer : Except ActionError Value) : Prop where
  once : work.ExecutesOnce known type i
  answered : (handler.execute i).outcome = .ok answer
  told : (work known).events.filter EventKind.ofAction =
    [.handlerInvoked type, Dispatcher.answerEvent type (handler.execute i).duration answer]

/-- Work that executes no action and tells of none. -/
structure Spares (work : Work) (known : HandlerTable ActionHandler) : Prop where
  none : work.ExecutesNone known
  told : (work known).events.filter EventKind.ofAction = []

/-- Work that comes to other work after acts that are no action's. -/
def LeadsTo (work next : Work) : Prop :=
  ∃ before : Activity EventKind Unit, before.outcome = .ok () ∧
    before.events.filter EventKind.ofAction = [] ∧
    ∀ actions, work actions = before >>= fun _ => next actions

namespace LeadsTo

theorem told (h : work.LeadsTo next) (actions : HandlerTable ActionHandler) :
    (work actions).events.filter EventKind.ofAction =
      (next actions).events.filter EventKind.ofAction := by
  obtain ⟨before, ended, silent, leads⟩ := h
  rw [leads, Activity.events_bind, ended, List.filter_append, silent]
  rfl

theorem executesOnce (h : work.LeadsTo next) (once : next.ExecutesOnce known type i) :
    work.ExecutesOnce known type i := by
  obtain ⟨first, ended, -, leads⟩ := h
  obtain ⟨before, after, reached, executes⟩ := once
  refine ⟨first >>= fun _ => before, after, ?_, fun actions same => ?_⟩
  · exact Activity.outcome_bind_eq_ok.2 ⟨(), ended, reached⟩
  · obtain ⟨handler, found, came⟩ := executes actions same
    exact ⟨handler, found, by rw [leads, came, bind_assoc]⟩

theorem executes (h : work.LeadsTo next) (executes : next.Executes known type handler i answer) :
    work.Executes known type handler i answer where
  once := h.executesOnce executes.once
  answered := executes.answered
  told := (h.told known).trans executes.told

theorem spares (h : work.LeadsTo next) (spares : next.Spares known) : work.Spares known where
  none := by
    obtain ⟨before, -, -, leads⟩ := h
    intro actions same
    rw [leads, leads, spares.none actions same]
  told := (h.told known).trans spares.told

end LeadsTo

/-- Work that comes to one result at once, whatever the actions are. -/
theorem spares_of_pure {r : StepResult}
    (comes : ∀ actions, SameTypes actions known → work actions = pure r) : work.Spares known := by
  have own := comes known fun _ => rfl
  refine ⟨fun actions same => (comes actions same).trans own.symm, ?_⟩
  rw [own]
  rfl

end Work

namespace Dispatcher

variable {d : Dispatcher} {scope : RunScope} {vars : List (String × Value)} {cancelled : Bool}
  {step : Step} {attempt : Nat} {decision : Decision}

/-- The dispatcher with other actions. -/
def withActions (d : Dispatcher) (actions : HandlerTable ActionHandler) : Dispatcher :=
  { d with registry := { d.registry with actions } }

/-- An attempt at a step, as it hangs on the actions; on the dispatcher's own actions it is the
attempt itself. -/
def attempting (d : Dispatcher) (scope : RunScope) (vars : List (String × Value))
    (cancelled : Bool) (step : Step) (attempt : Nat) : Work :=
  fun actions => (d.withActions actions).dispatch scope vars cancelled step attempt

/-- The action of a step whose trigger fired, as it hangs on the actions. -/
def acting (d : Dispatcher) (scope : RunScope) (vars : List (String × Value))
    (cancelled : Bool) (step : Step) (attempt : Nat) (decision : Decision) : Work :=
  fun actions => (d.withActions actions).act scope vars cancelled step attempt decision

/-! ### What is there for a step -/

/-- The trigger of a step decides: the type of the step and of its trigger are registered, and the
trigger comes to a decision. -/
def Decides (d : Dispatcher) (scope : RunScope) (vars : List (String × Value)) (cancelled : Bool)
    (step : Step) (attempt : Nat) (decision : Decision) : Prop :=
  (∃ rule, d.registry.step step.type.id = .ok rule) ∧
    ∃ handler, d.registry.trigger step.trigger.type.id = .ok handler ∧
      (handler.evaluate step (d.triggerScope scope vars cancelled attempt)).outcome =
        .ok (.ok decision)

/-- The action of a step has a handler and its parameters. -/
structure Equipped (d : Dispatcher) (scope : RunScope) (vars : List (String × Value)) (step : Step)
    (handler : ActionHandler) (params : Value) : Prop where
  found : d.registry.action step.action.type.id = .ok handler
  rendered : Template.render d.evaluator ⟨vars, scope.now⟩ step.action.params = .ok params

/-- All that the action of a step waits for is there. -/
structure Ready (d : Dispatcher) (scope : RunScope) (vars : List (String × Value))
    (cancelled : Bool) (step : Step) (attempt : Nat) (handler : ActionHandler) (params : Value) :
    Prop where
  fired : ∃ decision, d.Decides scope vars cancelled step attempt decision ∧ decision.fired = true
  equipped : d.Equipped scope vars step handler params

/-- The type of a step, or else that of its trigger, has no handler. -/
def Unregistered (d : Dispatcher) (step : Step) (e : RegistryError) : Prop :=
  d.registry.step step.type.id = .error e ∨
    (∃ rule, d.registry.step step.type.id = .ok rule) ∧
      d.registry.trigger step.trigger.type.id = .error e

theorem Unregistered.not_decides {e : RegistryError} (missing : d.Unregistered step e) :
    ¬ d.Decides scope vars cancelled step attempt decision := by
  rintro ⟨⟨rule, ruled⟩, handler, found, -⟩
  rcases missing with missing | ⟨-, missing⟩
  · cases missing.symm.trans ruled
  · cases missing.symm.trans found

theorem unregistered_or (d : Dispatcher) (step : Step) : (∃ e, d.Unregistered step e) ∨
    ∃ rule handler, d.registry.step step.type.id = .ok rule ∧
      d.registry.trigger step.trigger.type.id = .ok handler := by
  cases ruled : d.registry.step step.type.id with
  | error e => exact .inl ⟨e, .inl ruled⟩
  | ok rule =>
    cases found : d.registry.trigger step.trigger.type.id with
    | error e => exact .inl ⟨e, .inr ⟨⟨rule, ruled⟩, found⟩⟩
    | ok handler => exact .inr ⟨rule, handler, rfl, rfl⟩

/-- A trigger comes to one decision. -/
theorem Decides.unique {other : Decision} (h : d.Decides scope vars cancelled step attempt decision)
    (also : d.Decides scope vars cancelled step attempt other) : decision = other := by
  obtain ⟨-, handler, found, decided⟩ := h
  obtain ⟨-, own, same, decided'⟩ := also
  cases found.symm.trans same
  cases decided.symm.trans decided'
  rfl

theorem action_withActions (actions : HandlerTable ActionHandler) (id : String) :
    (d.withActions actions).registry.action id = actions.lookup .action id := rfl

/-! ### An attempt from its parts -/

/-- How an attempt goes on from the answer of its trigger. -/
def proceed (d : Dispatcher) (scope : RunScope) (vars : List (String × Value)) (cancelled : Bool)
    (step : Step) (attempt : Nat) : Except StepError Decision → Activity EventKind StepResult
  | .error e => return .failed step.id attempt e .unevaluated
  | .ok decision =>
    if decision.fired then d.act scope vars cancelled step attempt decision
    else return .skipped step.id attempt decision

theorem dispatch_eq {rule : StepRule} {handler : TriggerHandler}
    (ruled : d.registry.step step.type.id = .ok rule)
    (found : d.registry.trigger step.trigger.type.id = .ok handler) :
    d.dispatch scope vars cancelled step attempt =
      (handler.evaluate step (d.triggerScope scope vars cancelled attempt)).relabel conditionEvent
        >>= d.proceed scope vars cancelled step attempt := by
  unfold dispatch
  rw [ruled, found]
  refine congrArg (Activity.relabel conditionEvent _ >>= ·) (funext fun answer => ?_)
  cases answer <;> rfl

theorem dispatch_of_unregistered {e : RegistryError} (missing : d.Unregistered step e) :
    d.dispatch scope vars cancelled step attempt =
      pure (.failed step.id attempt ⟨.unknownHandler, e.message⟩ .unevaluated) := by
  unfold dispatch
  rcases missing with missing | ⟨⟨rule, ruled⟩, missing⟩
  · rw [missing]
  · rw [ruled, missing]

/-- The trigger of a step tells of no action. -/
theorem attempting_leadsTo {rule : StepRule} {handler : TriggerHandler}
    {answer : Except StepError Decision} (ruled : d.registry.step step.type.id = .ok rule)
    (found : d.registry.trigger step.trigger.type.id = .ok handler)
    (answered : (handler.evaluate step (d.triggerScope scope vars cancelled attempt)).outcome =
      .ok answer) :
    (d.attempting scope vars cancelled step attempt).LeadsTo
      fun actions => (d.withActions actions).proceed scope vars cancelled step attempt answer := by
  let trigger := (handler.evaluate step
    (d.triggerScope scope vars cancelled attempt)).relabel conditionEvent
  have ended : trigger.outcome = .ok answer := by rw [Activity.outcome_relabel, answered]
  refine ⟨trigger >>= fun _ => pure (), ?_, ?_, fun actions => ?_⟩
  · exact Activity.outcome_bind_eq_ok.2 ⟨answer, ended, rfl⟩
  · rw [List.filter_eq_nil_iff]
    intro kind told
    rcases Activity.mem_events_bind told with told | ⟨-, told⟩
    · rw [Activity.events_relabel] at told
      obtain ⟨r, -, rfl⟩ := List.mem_map.1 told
      unfold conditionEvent
      split <;> exact Bool.false_ne_true
    · cases told
  · rw [bind_assoc]
    exact (dispatch_eq (d := d.withActions actions) ruled found).trans
      (Activity.bind_eq_of_outcome ended _)

@[simp] theorem events_fetch (tenantId : String) (params : Value) :
    (d.fetch step tenantId params).events = [] := by
  unfold fetch
  split
  · exact events_knowledgeFor ..
  · rfl

/-- An action that has its parameters is executed once, and its answer makes the result. -/
theorem acting_executes {handler : ActionHandler} {params : Value} {r : StepResult}
    (equipped : d.Equipped scope vars step handler params)
    (ended : (d.act scope vars cancelled step attempt decision).outcome = .ok r) :
    ∃ knowledge answer, (d.fetch step scope.tenantId params).outcome = .ok knowledge ∧
      (d.acting scope vars cancelled step attempt decision).Executes d.registry.actions
        step.action.type.id handler
        (invocation scope vars cancelled step attempt params knowledge) answer ∧
      d.Concludes step scope.tenantId answer r := by
  have parts : d.act scope vars cancelled step attempt decision = _ :=
    act_eq equipped.found equipped.rendered
  rw [parts] at ended
  obtain ⟨knowledge, fetched, ended⟩ := Activity.outcome_bind_eq_ok.1 ended
  obtain ⟨output, came, concluded⟩ := Activity.outcome_bind_eq_ok.1 ended
  obtain ⟨answer, answered, rfl⟩ := outcome_invoke_eq_ok.1 came
  refine ⟨knowledge, answer, fetched, ⟨?once, answered, ?told⟩, concludes_of_outcome concluded⟩
  case once =>
    let type := step.action.type.id
    let i := invocation scope vars cancelled step attempt params knowledge
    refine ⟨d.fetch step scope.tenantId params >>= fun _ => Activity.event (.handlerInvoked type),
      fun x => Activity.event (answerEvent type x.1 x.2) >>= fun _ =>
        d.conclude scope step attempt decision (chunkCount step knowledge) (x.2.map asOutput),
      Activity.outcome_bind_eq_ok.2 ⟨knowledge, fetched, rfl⟩, fun actions same => ?_⟩
    obtain ⟨own, there⟩ := same.exists_lookup equipped.found
    refine ⟨own, HandlerTable.lookup_eq_ok.1 there, ?_⟩
    calc d.acting scope vars cancelled step attempt decision actions
      _ = d.fetch step scope.tenantId params >>= fun knowledge => _ :=
        act_eq (d := d.withActions actions) there equipped.rendered
      _ = d.fetch step scope.tenantId params >>= fun _ => invoke own type i >>=
          d.conclude scope step attempt decision (chunkCount step knowledge) :=
        Activity.bind_eq_of_outcome fetched _
      _ = _ := by simp only [invoke_eq, bind_assoc, pure_bind, i]
  case told =>
    change (d.act scope vars cancelled step attempt decision).events.filter _ = _
    rw [parts, Activity.events_bind, fetched, events_fetch]
    dsimp only
    rw [Activity.events_bind, came, events_invoke answered]
    dsimp only
    rw [events_conclude]
    cases answer <;> rfl

/-- An action without a handler, or one whose parameters cannot be rendered, is not executed. -/
theorem acting_spares (cancelled : Bool) (attempt : Nat) (decision : Decision)
    (lacking : ¬ ∃ handler params, d.Equipped scope vars step handler params) :
    (d.acting scope vars cancelled step attempt decision).Spares d.registry.actions ∧
      ∃ e, d.act scope vars cancelled step attempt decision =
        pure (.failed step.id attempt e decision) := by
  cases looked : d.registry.action step.action.type.id with
  | error e =>
    have fails : ∀ actions, SameTypes actions d.registry.actions →
        d.acting scope vars cancelled step attempt decision actions =
          pure (.failed step.id attempt ⟨.unknownHandler, e.message⟩ decision) := by
      intro actions same
      unfold acting act
      rw [action_withActions, same.lookup_eq_error looked]
    exact ⟨Work.spares_of_pure fails, _, fails d.registry.actions fun _ => rfl⟩
  | ok handler =>
    cases rendered : Template.render d.evaluator ⟨vars, scope.now⟩ step.action.params with
    | ok params => exact absurd ⟨handler, params, looked, rendered⟩ lacking
    | error e =>
      have fails : ∀ actions, SameTypes actions d.registry.actions →
          d.acting scope vars cancelled step attempt decision actions =
            pure (.failed step.id attempt
              (.evaluation s!"failed rendering parameters: {e.message}") decision) := by
        intro actions same
        obtain ⟨own, there⟩ := same.exists_lookup looked
        unfold acting act
        rw [action_withActions, there]
        have failed : Template.render (d.withActions actions).evaluator ⟨vars, scope.now⟩
            step.action.params = .error e := rendered
        dsimp only
        rw [failed]
      exact ⟨Work.spares_of_pure fails, _, fails d.registry.actions fun _ => rfl⟩

/-! ### The ways of an attempt -/

/-- The ways of an attempt that comes to an end. -/
inductive Way (d : Dispatcher) (scope : RunScope) (vars : List (String × Value)) (cancelled : Bool)
    (step : Step) (attempt : Nat) (r : StepResult) : Prop
  /-- a type has no handler, or the trigger fails -/
  | undecided (stuck : ∀ decision, ¬ d.Decides scope vars cancelled step attempt decision)
      (spares : (d.attempting scope vars cancelled step attempt).Spares d.registry.actions)
      (failed : r.status = .failed)
  /-- the trigger holds the step back -/
  | held {decision : Decision} (decides : d.Decides scope vars cancelled step attempt decision)
      (rests : decision.fired = false)
      (spares : (d.attempting scope vars cancelled step attempt).Spares d.registry.actions)
      (skipped : r.status = .skipped)
  /-- the action has no handler, or its parameters cannot be rendered -/
  | unequipped {decision : Decision}
      (decides : d.Decides scope vars cancelled step attempt decision)
      (fired : decision.fired = true)
      (lacking : ¬ ∃ handler params, d.Equipped scope vars step handler params)
      (spares : (d.attempting scope vars cancelled step attempt).Spares d.registry.actions)
      (failed : r.status = .failed)
  /-- the action answers -/
  | acted {decision : Decision} {handler : ActionHandler} {params : Value}
      {knowledge : List KnowledgeChunk} {answer : Except ActionError Value}
      (decides : d.Decides scope vars cancelled step attempt decision)
      (fired : decision.fired = true) (equipped : d.Equipped scope vars step handler params)
      (fetched : (d.fetch step scope.tenantId params).outcome = .ok knowledge)
      (executes : (d.attempting scope vars cancelled step attempt).Executes d.registry.actions
        step.action.type.id handler
        (invocation scope vars cancelled step attempt params knowledge) answer)
      (concludes : d.Concludes step scope.tenantId answer r)

theorem spares_of_unregistered {e : RegistryError} (missing : d.Unregistered step e) :
    (d.attempting scope vars cancelled step attempt).Spares d.registry.actions :=
  Work.spares_of_pure fun actions _ =>
    dispatch_of_unregistered (d := d.withActions actions) missing

/-- Every attempt that comes to an end goes one of the ways. -/
theorem way_of_outcome {r : StepResult}
    (ended : (d.dispatch scope vars cancelled step attempt).outcome = .ok r) :
    d.Way scope vars cancelled step attempt r := by
  rcases d.unregistered_or step with ⟨e, missing⟩ | ⟨rule, trigger, ruled, found⟩
  · rw [dispatch_of_unregistered missing] at ended
    cases ended
    exact .undecided (fun _ => missing.not_decides) (spares_of_unregistered missing) rfl
  · rw [dispatch_eq ruled found] at ended
    obtain ⟨answer, answered, ended⟩ := Activity.outcome_bind_eq_ok.1 ended
    rw [Activity.outcome_relabel] at answered
    have leads := attempting_leadsTo ruled found answered
    cases answer with
    | error e =>
      cases ended
      refine .undecided (fun decision decides => ?_)
        (leads.spares (Work.spares_of_pure fun _ _ => rfl)) rfl
      obtain ⟨-, own, registered, decided⟩ := decides
      cases found.symm.trans registered
      cases answered.symm.trans decided
    | ok decision =>
      have decides : d.Decides scope vars cancelled step attempt decision :=
        ⟨⟨rule, ruled⟩, trigger, found, answered⟩
      cases fired : decision.fired with
      | false =>
        simp only [proceed, fired, Bool.false_eq_true, if_false] at ended leads
        cases ended
        exact .held decides fired (leads.spares (Work.spares_of_pure fun _ _ => rfl)) rfl
      | true =>
        simp only [proceed, fired, if_true] at ended leads
        by_cases equipped : ∃ handler params, d.Equipped scope vars step handler params
        · obtain ⟨handler, params, equipped⟩ := equipped
          obtain ⟨knowledge, answer, fetched, executes, concludes⟩ :=
            acting_executes equipped ended
          exact .acted decides fired equipped fetched (leads.executes executes) concludes
        · obtain ⟨spares, e, fails⟩ := acting_spares cancelled attempt decision equipped
          rw [fails] at ended
          cases ended
          exact .unequipped decides fired equipped (leads.spares spares) rfl

namespace Way

variable {r : StepResult} {handler : ActionHandler} {params : Value}

theorem executes (way : d.Way scope vars cancelled step attempt r)
    (ready : d.Ready scope vars cancelled step attempt handler params) :
    ∃ knowledge answer, (d.fetch step scope.tenantId params).outcome = .ok knowledge ∧
      (d.attempting scope vars cancelled step attempt).Executes d.registry.actions
        step.action.type.id handler
        (invocation scope vars cancelled step attempt params knowledge) answer ∧
      d.Concludes step scope.tenantId answer r := by
  obtain ⟨⟨own, decided, fires⟩, equips⟩ := ready
  cases way with
  | undecided stuck => exact absurd decided (stuck own)
  | held decides rests =>
    cases decides.unique decided
    cases rests.symm.trans fires
  | unequipped _ _ lacking => exact absurd ⟨handler, params, equips⟩ lacking
  | acted _ _ equipped fetched executes concludes =>
    cases equips.found.symm.trans equipped.found
    cases equips.rendered.symm.trans equipped.rendered
    exact ⟨_, _, fetched, executes, concludes⟩

theorem spares (way : d.Way scope vars cancelled step attempt r)
    (unready : ¬ ∃ handler params, d.Ready scope vars cancelled step attempt handler params) :
    (d.attempting scope vars cancelled step attempt).Spares d.registry.actions ∧
      r.status ≠ .completed := by
  cases way with
  | undecided _ spares failed | unequipped _ _ _ spares failed =>
    exact ⟨spares, failed.symm ▸ StepStatus.noConfusion⟩
  | held _ _ spares skipped => exact ⟨spares, skipped.symm ▸ StepStatus.noConfusion⟩
  | acted decides fired equipped =>
    exact absurd ⟨_, _, ⟨_, decides, fired⟩, equipped⟩ unready

theorem executesOnce_iff (way : d.Way scope vars cancelled step attempt r) :
    (∃ i, (d.attempting scope vars cancelled step attempt).ExecutesOnce d.registry.actions
      step.action.type.id i) ↔
      ∃ handler params, d.Ready scope vars cancelled step attempt handler params := by
  constructor
  · rintro ⟨i, once⟩
    by_contra unready
    exact once.not_none (way.spares unready).1.none
  · rintro ⟨handler, params, ready⟩
    obtain ⟨knowledge, answer, -, executes, -⟩ := way.executes ready
    exact ⟨_, executes.once⟩

theorem skipped_iff (way : d.Way scope vars cancelled step attempt r) :
    r.status = .skipped ↔ ∃ decision, d.Decides scope vars cancelled step attempt decision ∧
      decision.fired = false := by
  have fires : ∀ {decision}, d.Decides scope vars cancelled step attempt decision →
      decision.fired = true → ¬ ∃ decision,
        d.Decides scope vars cancelled step attempt decision ∧ decision.fired = false := by
    rintro decision decides fired ⟨own, decided, rests⟩
    cases decides.unique decided
    cases fired.symm.trans rests
  cases way with
  | undecided stuck _ failed =>
    refine iff_of_false (failed.symm ▸ StepStatus.noConfusion) ?_
    rintro ⟨decision, decided, -⟩
    exact stuck decision decided
  | held decides rests _ skipped => exact iff_of_true skipped ⟨_, decides, rests⟩
  | unequipped decides fired _ _ failed =>
    exact iff_of_false (failed.symm ▸ StepStatus.noConfusion) (fires decides fired)
  | acted decides fired _ _ _ concludes =>
    refine iff_of_false ?_ (fires decides fired)
    rcases concludes.status with status | status <;> exact status.symm ▸ StepStatus.noConfusion

theorem status (way : d.Way scope vars cancelled step attempt r) :
    r.status = .completed ∨ r.status = .skipped ∨ r.status = .failed := by
  cases way with
  | undecided _ _ failed | unequipped _ _ _ _ failed => exact .inr (.inr failed)
  | held _ _ _ skipped => exact .inr (.inl skipped)
  | acted _ _ _ _ _ concludes => exact concludes.status.imp_right .inr

end Way

/-! ### Failing and panicking handlers and providers -/

end Dispatcher

/-- The provider that answers no chunks where another one fails. -/
def Knowledge.lenient (provider : KnowledgeProvider) : KnowledgeProvider := fun q => do
  return .ok ((← provider q).toOption.getD [])

namespace Dispatcher

variable {d : Dispatcher} {scope : RunScope} {vars : List (String × Value)} {cancelled : Bool}
  {step : Step} {attempt : Nat} {decision : Decision}

theorem knowledgeFor_lenient (tenantId : String) (params : Value) :
    { d with knowledge := Knowledge.lenient d.knowledge }.knowledgeFor tenantId params =
      d.knowledgeFor tenantId params := by
  unfold knowledgeFor
  cases knowledgeQuery? params with
  | none => rfl
  | some query =>
    dsimp only [Knowledge.lenient, Activity.silent]
    rw [Activity.relabel_bind, bind_assoc]
    rfl

theorem act_lenient :
    { d with knowledge := Knowledge.lenient d.knowledge }.act scope vars cancelled step attempt
      decision = d.act scope vars cancelled step attempt decision := by
  unfold act
  simp only [knowledgeFor_lenient]
  rfl

theorem dispatch_lenient :
    { d with knowledge := Knowledge.lenient d.knowledge }.dispatch scope vars cancelled step
      attempt = d.dispatch scope vars cancelled step attempt := by
  unfold dispatch
  simp only [act_lenient]

/-- No handler and no provider panics. -/
structure Calm (d : Dispatcher) : Prop where
  triggers : ∀ id handler, d.registry.trigger id = .ok handler →
    ∀ step s, (handler.evaluate step s).Ends
  actions : ∀ id handler, d.registry.action id = .ok handler → ∀ i, (handler.execute i).Ends
  knowledge : ∀ q, (d.knowledge q).Ends
  personality : ∀ content tenantId, (d.personality.scoreConsistency content tenantId).Ends

theorem Calm.fetch (calm : d.Calm) (tenantId : String) (params : Value) :
    (d.fetch step tenantId params).Ends := by
  unfold Dispatcher.fetch knowledgeFor
  split
  · cases knowledgeQuery? params with
    | none => exact .pure _
    | some query => exact (calm.knowledge _).silent.bind fun _ _ => .pure _
  · exact .pure _

theorem Calm.conclude (calm : d.Calm) (metadata : Metadata) (answer : Except ActionError Value) :
    (d.conclude scope step attempt decision metadata answer).Ends := by
  cases answer with
  | error e => exact .pure _
  | ok output =>
    have checked : (d.checkPersonality step scope.tenantId output).Ends := by
      unfold checkPersonality checkConsistency
      split
      · split
        · exact .pure _
        · refine (calm.personality _ _).silent.bind fun answer _ => ?_
          cases answer <;> exact .pure _
      · exact .pure _
    refine checked.bind fun (scores, error) _ => ?_
    cases error <;> exact .pure _

theorem Calm.act (calm : d.Calm) :
    (d.act scope vars cancelled step attempt decision).Ends := by
  by_cases equipped : ∃ handler params, d.Equipped scope vars step handler params
  · obtain ⟨handler, params, found, rendered⟩ := equipped
    rw [act_eq found rendered]
    refine (calm.fetch ..).bind fun knowledge _ => .bind ?_ fun answer _ => calm.conclude ..
    obtain ⟨answer, answered⟩ := calm.actions _ _ found
      (invocation scope vars cancelled step attempt params knowledge)
    exact ⟨_, outcome_invoke_eq_ok.2 ⟨answer, answered, rfl⟩⟩
  · obtain ⟨-, e, fails⟩ := acting_spares cancelled attempt decision equipped
    rw [fails]
    exact .pure _

theorem Calm.dispatch (calm : d.Calm) :
    (d.dispatch scope vars cancelled step attempt).Ends := by
  rcases d.unregistered_or step with ⟨e, missing⟩ | ⟨rule, handler, ruled, found⟩
  · rw [dispatch_of_unregistered missing]
    exact .pure _
  · rw [dispatch_eq ruled found]
    refine ((calm.triggers _ _ found _ _).relabel _).bind fun answer _ => ?_
    unfold proceed
    cases answer with
    | error e => exact .pure _
    | ok decision =>
      dsimp only
      split
      · exact calm.act
      · exact .pure _

end Dispatcher

open Dispatcher in
/-- An attempt ends if no handler and no provider panics, and a provider of knowledge that fails
makes no more difference than one that has no chunks. An attempt that ends executes the action of
its step once if the type of the step, of the trigger and of the action have handlers, the trigger
fired and the parameters are rendered, and otherwise it executes none; of an action that it executes
it records the call and the answer, and of others nothing. It is skipped if the trigger held the
step back, completed if the action answered with a value whose output passes the check of the
personality, and failed otherwise. A completed one has this output, which is the object that the
action answered with, or an object that holds any other answer. -/
theorem attempt_executes_action_once_when_ready (d : Dispatcher) (scope : RunScope)
    (vars : List (String × Value)) (cancelled : Bool) (step : Step) (attempt : Nat) :
    (d.Calm → (d.dispatch scope vars cancelled step attempt).Ends) ∧
    { d with knowledge := Knowledge.lenient d.knowledge }.dispatch scope vars cancelled step
      attempt = d.dispatch scope vars cancelled step attempt ∧
    ∀ r, (d.dispatch scope vars cancelled step attempt).outcome = .ok r →
      ((∃ i, (d.attempting scope vars cancelled step attempt).ExecutesOnce d.registry.actions
        step.action.type.id i) ↔
        ∃ handler params, d.Ready scope vars cancelled step attempt handler params) ∧
      (∀ handler params, d.Ready scope vars cancelled step attempt handler params →
        ∃ knowledge answer, (d.fetch step scope.tenantId params).outcome = .ok knowledge ∧
          (d.attempting scope vars cancelled step attempt).Executes d.registry.actions
            step.action.type.id handler
            (invocation scope vars cancelled step attempt params knowledge) answer ∧
          d.Concludes step scope.tenantId answer r) ∧
      ((¬ ∃ handler params, d.Ready scope vars cancelled step attempt handler params) →
        (d.attempting scope vars cancelled step attempt).Spares d.registry.actions ∧
          r.status ≠ .completed) ∧
      (r.status = .skipped ↔ ∃ decision, d.Decides scope vars cancelled step attempt decision ∧
        decision.fired = false) ∧
      (r.status = .completed ∨ r.status = .skipped ∨ r.status = .failed) ∧
      (r.status = .completed → ∃ entries, r.output = .object entries) := by
  refine ⟨fun calm => calm.dispatch, dispatch_lenient, fun r ended => ?_⟩
  have way := way_of_outcome ended
  have wrapped := (d.dispatch_yields_wrapped scope vars cancelled step attempt).of_outcome ended
  exact ⟨way.executesOnce_iff, fun _ _ ready => way.executes ready, way.spares, way.skipped_iff,
    way.status, wrapped⟩

theorem Dispatcher.calm_terse : Dispatcher.terse.Calm where
  triggers id handler found step s := by
    have found := Keyed.mem_of_get? (HandlerTable.lookup_eq_ok.1 found)
    cases List.mem_singleton.1 found
    exact .pure _
  actions id handler found i := by
    have found := Keyed.mem_of_get? (HandlerTable.lookup_eq_ok.1 found)
    cases List.mem_singleton.1 found
    exact .pure _
  knowledge _ := .pure _
  personality _ _ := .pure _

open Dispatcher in
/-- A greeting is sent once and its answer makes the output; one of somebody who is not among the
variables is not sent. -/
theorem greeting_is_sent_once :
    (∃ r i answer, (Dispatcher.terse.dispatch .greeting [] false (.greeting "Hi") 1).outcome =
        .ok r ∧ r.status = .completed ∧ r.output = .object [("value", .text "mail")] ∧
      (Dispatcher.terse.attempting .greeting [] false (.greeting "Hi") 1).Executes
        Dispatcher.terse.registry.actions "send_message"
        ⟨fun i => return .ok (.text i.stepId), fun _ => []⟩ i answer) ∧
    ∃ r, (Dispatcher.terse.dispatch .greeting [] false (.greeting "Hi ${ name }") 1).outcome =
        .ok r ∧ r.status ≠ .completed ∧
      (Dispatcher.terse.attempting .greeting [] false (.greeting "Hi ${ name }") 1).Spares
        Dispatcher.terse.registry.actions := by
  constructor
  · obtain ⟨ends, -, attempt⟩ := attempt_executes_action_once_when_ready .terse .greeting [] false
      (.greeting "Hi") 1
    obtain ⟨r, ended⟩ := ends Dispatcher.calm_terse
    obtain ⟨-, executes, -⟩ := attempt r ended
    have fits : (Template.render Dispatcher.terse.evaluator ⟨[], RunScope.greeting.now⟩
        (Step.greeting "Hi").action.params).isOk = true := by decide +kernel
    cases rendered : Template.render Dispatcher.terse.evaluator ⟨[], RunScope.greeting.now⟩
        (Step.greeting "Hi").action.params with
    | error e =>
      rw [rendered] at fits
      cases fits
    | ok params =>
      have ready : Dispatcher.terse.Ready .greeting [] false (.greeting "Hi") 1
          ⟨fun i => return .ok (.text i.stepId), fun _ => []⟩ params :=
        ⟨⟨.fire, ⟨⟨_, rfl⟩, _, rfl, rfl⟩, rfl⟩, rfl, rendered⟩
      obtain ⟨knowledge, answer, -, executes, concludes⟩ := executes _ _ ready
      have answered : Except.ok (.text "mail") = answer := Except.ok.inj executes.answered
      have makes : Makes (.text "mail") [("value", .text "mail")] := .other nofun
      have completed := concludes.completed.2 ⟨_, _, answered.symm, makes, nofun⟩
      exact ⟨r, _, answer, ended, completed,
        concludes.output completed _ _ answered.symm makes, executes⟩
  · obtain ⟨ends, -, attempt⟩ := attempt_executes_action_once_when_ready .terse .greeting [] false
      (.greeting "Hi ${ name }") 1
    obtain ⟨r, ended⟩ := ends Dispatcher.calm_terse
    obtain ⟨-, -, spares, -⟩ := attempt r ended
    have unready : ¬ ∃ handler params, Dispatcher.terse.Ready .greeting [] false
        (.greeting "Hi ${ name }") 1 handler params := by
      rintro ⟨handler, params, -, -, rendered⟩
      have failed : (Template.render Dispatcher.terse.evaluator ⟨[], RunScope.greeting.now⟩
          (Step.greeting "Hi ${ name }").action.params).isOk = false := by decide +kernel
      rw [rendered] at failed
      cases failed
    obtain ⟨spares, other⟩ := spares unready
    exact ⟨r, ended, other, spares⟩

end Playbook
