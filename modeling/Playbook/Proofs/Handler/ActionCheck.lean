import Playbook.Handler.Builtin
import Playbook.Proofs.Activity

/-!
What the checks of the built-in actions promise. An action whose parameters hold no placeholder and
pass its check is not refused for its parameters, but for two that no check reads: in how many days
a task is due, and the seconds that a call may take.
-/
namespace Playbook

open Json (Value)

/-! ### Parameters without placeholders -/

namespace Template

theorem hasPlaceholders_eq_false {s : String} (plain : placeholders s = []) :
    hasPlaceholders s = false := by
  simp only [placeholders, List.map_eq_nil_iff, List.filterMap_eq_nil_iff] at plain
  simp only [hasPlaceholders, List.any_eq_false]
  intro p mem
  rw [plain p mem]
  simp

theorem placeholdersIn_get? {params v : Value} {key : String} (plain : placeholdersIn params = [])
    (found : params.get? key = some v) : placeholdersIn v = [] := by
  cases params with
  | object entries =>
    rw [placeholdersIn] at plain
    change Keyed.get? key entries = some v at found
    induction entries with
    | nil => cases found
    | cons e rest ih =>
      obtain ⟨k, w⟩ := e
      rw [placeholdersInEntries, List.append_eq_nil_iff] at plain
      by_cases same : k = key
      · rw [Keyed.get?, if_pos same] at found
        cases found
        exact plain.1
      · rw [Keyed.get?, if_neg same] at found
        exact ih plain.2 found
  | _ => cases found

/-- No text among parameters without placeholders has one. -/
theorem any_hasPlaceholders {v : Option Value} (plain : ∀ w, v = some w → placeholdersIn w = []) :
    (v.bind Value.text?).any hasPlaceholders = false := by
  rcases v with _ | w
  · rfl
  · cases w with
    | text s =>
      have bare := plain _ rfl
      rw [placeholdersIn] at bare
      exact hasPlaceholders_eq_false bare
    | _ => rfl

end Template

namespace ActionHandler

/-- An action ends since its parameters are refused. -/
def Refuses (a : Ended) : Prop := ∃ message, a.outcome = .ok (.error (.invalidParams message))

variable {step : Step} {i : Invocation}

theorem refuses_unlessCancelled (live : i.cancelled = false) (go : Ended) :
    Refuses (unlessCancelled i go) ↔ Refuses go := by
  rw [unlessCancelled, live]
  rfl

theorem refuses_fail (e : ActionError) :
    Refuses (fail e) ↔ ∃ message, e = .invalidParams message := by
  constructor
  · rintro ⟨message, refused⟩
    cases refused
    exact ⟨message, rfl⟩
  · rintro ⟨message, rfl⟩
    exact ⟨message, rfl⟩

theorem not_refuses_of_yields {a : Ended}
    (h : a.Yields fun r => ∀ message, r ≠ .error (.invalidParams message)) : ¬ Refuses a := by
  rintro ⟨message, refused⟩
  exact h.of_outcome refused message rfl

theorem not_refuses_answer (entries : List (String × Value)) : ¬ Refuses (answer entries) := by
  rintro ⟨message, refused⟩
  cases refused

theorem isSome_of_check {α : Type} {x : Option α} {message : String}
    (checked : (if x.isSome then [] else [message]) = []) : ∃ a, x = some a := by
  cases x with
  | none => cases checked
  | some a => exact ⟨a, rfl⟩

/-! ### Messages, surveys and waiting -/

theorem sendMessage_not_refused {provider : PersonalityProvider}
    (checked : (sendMessage provider).check step = []) (own : i.params = step.action.params) :
    ¬ Refuses ((sendMessage provider).execute i) := by
  obtain ⟨base, content⟩ := isSome_of_check checked
  unfold sendMessage unlessCancelled
  dsimp only
  split
  · simp [refuses_fail]
  · rw [own, content]
    refine not_refuses_of_yields (Activity.yields_bind _ ?_)
    rintro ⟨content, confidence⟩
    exact fun _ => nofun

theorem sendSurvey_not_refused (checked : sendSurvey.check step = [])
    (own : i.params = step.action.params)
    (plain : Template.placeholdersIn step.action.params = []) :
    ¬ Refuses (sendSurvey.execute i) := by
  have bare : (textParam? step.action.params "questions").any Template.hasPlaceholders = false :=
    Template.any_hasPlaceholders fun _ => Template.placeholdersIn_get? plain
  unfold sendSurvey at checked
  dsimp only at checked
  rw [bare, Bool.or_false] at checked
  obtain ⟨questions, given⟩ := isSome_of_check checked
  unfold sendSurvey unlessCancelled
  dsimp only
  split
  · simp [refuses_fail]
  · rw [own, given]
    exact not_refuses_answer _

theorem wait_not_refused (checked : wait.check step = []) (own : i.params = step.action.params)
    (plain : Template.placeholdersIn step.action.params = []) : ¬ Refuses (wait.execute i) := by
  have bare : ((secondsParam? step.action.params).bind Value.text?).any
      Template.hasPlaceholders = false := by
    refine Template.any_hasPlaceholders fun w found => ?_
    rcases Option.or_eq_some_iff.1 found with found | ⟨-, found⟩ <;>
    exact Template.placeholdersIn_get? plain found
  unfold wait at checked ⊢
  dsimp only at checked ⊢
  rw [bare] at checked
  rw [own]
  cases nanos : waitNanos step.action.params with
  | error e => simp [nanos] at checked
  | ok n =>
    dsimp only
    unfold unlessCancelled
    split
    · simp [refuses_fail]
    · rintro ⟨message, refused⟩
      cases refused

/-! ### Tasks -/

/-- The days until a task is due are given, and are no number of days from now on. -/
def Undue (params : Value) : Prop :=
  ∃ v, params.get? "due_in_days" = some v ∧ v ≠ .null ∧
    ∀ days, v.float? = some days → ¬ (0 ≤ days ∧ days.isFinite)

theorem dueAt?_eq_none {now : Instant} {days : Float} :
    dueAt? now days = none ↔ ¬ (0 ≤ days ∧ days.isFinite) := by
  unfold dueAt?
  split
  · next fits => simp [fits]
  · next misfit => simpa using misfit

/-- A task is refused for the time until it is due, or that time can be told. -/
theorem dueText_cases (i : Invocation) :
    (Undue i.params ∧ ∃ message, dueText i = .error (.invalidParams message)) ∨
      (¬ Undue i.params ∧ ∃ due, dueText i = .ok due) := by
  unfold dueText Undue
  split
  · next absent => exact .inr ⟨by simp [absent], _, rfl⟩
  · next null => exact .inr ⟨by simp [null], _, rfl⟩
  · next v other given =>
    rw [given]
    cases due : v.float?.bind (dueAt? i.now) with
    | none =>
      refine .inl ⟨⟨v, rfl, other, fun days float => ?_⟩, _, rfl⟩
      rw [float, Option.bind_some] at due
      exact dueAt?_eq_none.1 due
    | some t =>
      refine .inr ⟨?_, _, rfl⟩
      rintro ⟨_, same, -, late⟩
      cases same
      obtain ⟨days, float, found⟩ := Option.bind_eq_some_iff.1 due
      rw [dueAt?_eq_none.2 (late days float)] at found
      cases found

/-- A task with a title is refused for the time until it is due only. -/
theorem assignTask_refused_iff (checked : assignTask.check step = [])
    (own : i.params = step.action.params) (live : i.cancelled = false) :
    Refuses (assignTask.execute i) ↔ Undue step.action.params := by
  obtain ⟨title, given⟩ := isSome_of_check checked
  unfold assignTask
  dsimp only
  rw [refuses_unlessCancelled live, own, given, ← own]
  rcases dueText_cases i with ⟨undue, message, due⟩ | ⟨timely, text, due⟩
  · rw [due]
    exact iff_of_true ⟨message, rfl⟩ undue
  · rw [due]
    exact iff_of_false (not_refuses_answer _) timely

end ActionHandler

/-! ### Calls -/

namespace CallExternal

open ActionHandler (Refuses fail not_refuses_of_yields refuses_unlessCancelled)

variable {step : Step} {i : Invocation} {settings : HttpSettings} {transport : Transport}

/-- A call has no time: it may take no second, or says nothing of it where the settings leave it
none. -/
def Timeless (settings : HttpSettings) (params : Value) : Prop :=
  params.get? "timeout_seconds" = some (.number (.int 0)) ∨
    settings.timeoutSeconds = 0 ∧
      ∀ n : Nat, params.get? "timeout_seconds" ≠ some (.number (.int n))

theorem timeoutSeconds_cases (settings : HttpSettings) (params : Value) :
    (Timeless settings params ∧
        ∃ message, timeoutSeconds settings params = .error (.invalidParams message)) ∨
      (¬ Timeless settings params ∧ ∃ n, timeoutSeconds settings params = .ok n) := by
  unfold timeoutSeconds Timeless
  split
  · next n given =>
    rw [given]
    by_cases zero : n = 0
    · exact .inl ⟨.inl (by simp [zero]), _, if_pos zero⟩
    · refine .inr ⟨?_, n, if_neg zero⟩
      rintro (none | ⟨-, absent⟩)
      · exact zero (by simpa using none)
      · exact absent n rfl
  · next absent =>
    have given : ∀ n : Nat, params.get? "timeout_seconds" ≠ some (.number (.int n)) := absent
    by_cases zero : settings.timeoutSeconds = 0
    · exact .inl ⟨.inr ⟨zero, given⟩, _, if_pos zero⟩
    · refine .inr ⟨?_, settings.timeoutSeconds, if_neg zero⟩
      rintro (none | ⟨zero', -⟩)
      · exact given 0 none
      · exact zero zero'

/-- The messages of the checks are those of the parts of a call that cannot be read. -/
theorem parts_of_check (checked : (handler transport settings).check step = []) :
    ∃ m u hs, method step.action.params = .ok m ∧ url step.action.params = .ok u ∧
      headers step.action.params = .ok hs := by
  unfold handler at checked
  dsimp only at checked
  cases u : url step.action.params <;> cases m : method step.action.params <;>
    cases hs : headers step.action.params <;> simp [u, m, hs] at checked
  exact ⟨_, _, _, rfl, rfl, rfl⟩

/-- What is read of a body is all of its pieces in their order, no more than the limit allows; or
the call fails, but not for its parameters. -/
theorem readBody_spec {before : String} (within : before.utf8ByteSize ≤ settings.maxResponseBytes)
    (body : Activity String (Except String Unit)) : (readBody settings before body).Yields fun
      | .ok text => text = before ++ String.join body.events ∧
          text.utf8ByteSize ≤ settings.maxResponseBytes
      | .error e => ∃ message, e = .failed message := by
  induction body generalizing before with
  | done last =>
    cases last with
    | ok _ => exact ⟨by simp [Activity.events, String.join], within⟩
    | error message => exact ⟨_, rfl⟩
  | panic message => trivial
  | record piece rest ih =>
    unfold readBody
    split
    · exact ⟨_, rfl⟩
    · next fits =>
      simpa [Activity.events, String.append_assoc] using ih (Nat.not_lt.1 fits)
  | sleep ms rest ih => exact ih within

theorem outcome_not_refused {allow : Bool} {q : Http.Request} {r : Http.Response}
    {body message : String} : outcome allow q r body ≠ .error (.invalidParams message) := by
  unfold outcome
  split
  · nofun
  · nofun

/-- A call whose parts can be read is refused for its time only. -/
theorem call_refused_iff (checked : (handler transport settings).check step = [])
    (own : i.params = step.action.params) (live : i.cancelled = false) :
    Refuses ((handler transport settings).execute i) ↔ Timeless settings step.action.params := by
  obtain ⟨m, u, hs, method, url, headers⟩ := parts_of_check checked
  unfold handler
  dsimp only
  rw [refuses_unlessCancelled live, own]
  unfold request
  rw [method, url, headers]
  rcases timeoutSeconds_cases settings step.action.params with
    ⟨timeless, message, refused⟩ | ⟨timed, n, seconds⟩
  · rw [refused]
    exact iff_of_true ⟨message, rfl⟩ timeless
  · rw [seconds]
    refine iff_of_false (not_refuses_of_yields (Activity.yields_bind _ fun answer => ?_)) timed
    rcases answer with _ | _ | r
    · exact fun _ => nofun
    · exact fun _ => nofun
    · refine (readBody_spec (Nat.zero_le _) r.body).bind fun text read => ?_
      cases text with
      | error e =>
        obtain ⟨message, rfl⟩ := read
        exact fun _ => nofun
      | ok body => exact fun _ => outcome_not_refused

end CallExternal

namespace ActionHandler

/-- An action that passes its check and whose parameters hold no placeholder is refused for its
parameters only where a task is due in what is no number of days, or a call has no time. -/
theorem checked_action_refused_iff {services : Services} {step : Step} {i : Invocation}
    (builtin : step.action.type ∈ ActionType.builtin)
    (checked : (Registry.builtinAction services step.action.type).check step = [])
    (plain : Template.placeholdersIn step.action.params = [])
    (own : i.params = step.action.params) (live : i.cancelled = false) :
    Refuses ((Registry.builtinAction services step.action.type).execute i) ↔
      (step.action.type = .assignTask ∧ Undue step.action.params) ∨
        (step.action.type = .callExternal ∧
          CallExternal.Timeless services.http step.action.params) := by
  cases type : step.action.type <;> rw [type] at checked builtin
  case sendMessage => exact iff_of_false (sendMessage_not_refused checked own) (by simp)
  case assignTask => exact (assignTask_refused_iff checked own live).trans (by simp)
  case sendSurvey => exact iff_of_false (sendSurvey_not_refused checked own plain) (by simp)
  case wait => exact iff_of_false (wait_not_refused checked own plain) (by simp)
  case callExternal =>
    have handler : Registry.builtinAction services .callExternal =
        CallExternal.handler services.transport services.http := rfl
    rw [handler] at checked ⊢
    exact (CallExternal.call_refused_iff checked own live).trans (by simp)
  case custom => simp [ActionType.builtin] at builtin

/-- The services of a place without a network. -/
def offline : Services := { transport := CallExternal.unreachable }

/-- A call of the action of a step with its parameters as they are, in a run that is not
cancelled. -/
def plainCall (step : Step) : Invocation where
  runId := "run"
  tenantId := "tenant"
  userId := none
  stepId := step.id
  attempt := 1
  params := step.action.params
  «variables» := []
  knowledge := []
  usePersonality := false
  personality := {}
  now := ⟨0, 0⟩
  cancelled := false

/-- A call of a server that may take some seconds. -/
def ringing (seconds : Nat) : Step where
  id := "ring"
  action := {
    type := .callExternal
    params := .object [("timeout_seconds", .ofNat seconds), ("url", .text "http://server/bell")] }

theorem ringing_is_not_refused :
    (Registry.builtinAction offline .callExternal).check (ringing 30) = [] ∧
    Template.placeholdersIn (ringing 30).action.params = [] ∧
    ¬ Refuses ((Registry.builtinAction offline .callExternal).execute
      (plainCall (ringing 30))) := by
  have checked : (Registry.builtinAction offline .callExternal).check (ringing 30) = [] := by
    decide +kernel
  have plain : Template.placeholdersIn (ringing 30).action.params = [] := by decide +kernel
  have refused := @checked_action_refused_iff offline (ringing 30) (plainCall (ringing 30))
    (by decide) checked plain rfl rfl
  refine ⟨checked, plain, fun h => ?_⟩
  rcases refused.1 h with ⟨type, -⟩ | ⟨-, none | ⟨-, absent⟩⟩
  · cases type
  · cases none
  · exact absent 30 rfl

/-- A task that is due in what is no number of days. -/
def chore : Step where
  id := "chore"
  action := {
    type := .assignTask
    params := .object [("due_in_days", .text "soon"), ("title", .text "Call back")] }

/-- A task passes its check and is refused for the time until it is due, and so is a call that may
take no second. -/
theorem chore_is_refused :
    (Registry.builtinAction offline .assignTask).check chore = [] ∧
    Template.placeholdersIn chore.action.params = [] ∧
    Refuses ((Registry.builtinAction offline .assignTask).execute (plainCall chore)) ∧
    (Registry.builtinAction offline .callExternal).check (ringing 0) = [] ∧
    Template.placeholdersIn (ringing 0).action.params = [] ∧
    Refuses ((Registry.builtinAction offline .callExternal).execute (plainCall (ringing 0))) := by
  refine ⟨by decide +kernel, by decide +kernel, ⟨_, rfl⟩, by decide +kernel, by decide +kernel, ?_⟩
  exact ⟨_, rfl⟩

end ActionHandler
end Playbook
