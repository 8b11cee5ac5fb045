import Playbook.Proofs.Run.Cancellation
import Playbook.Proofs.Run.Tale

/-!
How often the attempts at a step are repeated. An attempt is followed by another one only if it has
failed with an error of a kind that another attempt may do better at, and no more often than the plan
allows; what was followed by another attempt is kept, in order, as a superseded result. A step is
left with such a failure before all attempts are used up only because the run was cancelled.
-/
namespace Playbook

open Json (Value)
open Trace (EventKind)

theorem Activity.Suffix.mem_events {ε α : Type} {rest a : Activity ε α} (h : rest.Suffix a) {e : ε}
    (mem : e ∈ rest.events) : e ∈ a.events := by
  induction h with
  | refl => exact mem
  | record _ ih => exact List.mem_cons_of_mem _ ih
  | sleep _ ih => exact ih

/-- The entries of an attempt that has begun: its start, and then what its trigger and its action
record. -/
def Trial.Begun (t : Trial) (moment : Nat) (log : List LogEntry) : Prop :=
  ∃ inner, log = ⟨moment, some t.step.id, some t.number, .stepStarted⟩ :: inner ∧
    ∀ e ∈ inner, e.stepId = some t.step.id ∧ e.attempt = some t.number ∧ e.kind.ofHandler = true

theorem Trial.Begun.append {t : Trial} {moment : Nat} {log : List LogEntry} (h : t.Begun moment log)
    {j : Job} (own : j.trial = t) {events : List EventKind}
    (told : ∀ kind ∈ events, kind.ofHandler = true) (now : Nat) :
    t.Begun moment (log ++ events.map (j.entry now)) := by
  obtain ⟨inner, rfl, others⟩ := h
  refine ⟨inner ++ events.map (j.entry now), rfl, fun e mem => ?_⟩
  rcases List.mem_append.1 mem with mem | mem
  · exact others e mem
  · obtain ⟨kind, among, rfl⟩ := List.mem_map.1 mem
    exact own ▸ ⟨rfl, rfl, told kind among⟩

/-- The entries of an attempt, none if it was refused. -/
def Trial.Entries (t : Trial) (log : List LogEntry) : Prop := log = [] ∨ ∃ moment, t.Begun moment log

namespace Plan

/-- While an attempt goes on, only its trigger and its action record something. -/
def Discreet (p : Plan) : Prop := ∀ t, ∀ kind ∈ (p.trial t).events, kind.ofHandler = true

theorem discreet_make (d : Dispatcher) (settings : ExecutionSettings) (program : Program)
    (scope : RunScope) : (make d settings program scope).Discreet :=
  fun _ _ mem => Dispatcher.ofHandler_dispatch mem

/-- An attempt goes on with what is left of it. -/
def Making (p : Plan) (_ : Nat) (t : Trial) (log : List LogEntry) (w : Working) : Prop :=
  t.Begun w.startedAt log ∧ w.rest.Suffix (p.trial t)

/-- What an attempt has come to, at whatever moment. -/
def Makes (p : Plan) (_ : Bool) (t : Trial) (log : List LogEntry) :
    Except String StepResult → Prop
  | .ok r => t.Entries log ∧ p.Attempted t.step t.variables t.number r
  | .error message => t.Entries log ∧ (p.trial t).outcome = .error message

end Plan

/-- The result is a failure of a kind that another attempt may do better at. -/
def StepResult.Retryable (r : StepResult) : Prop :=
  r.status = .failed ∧ ∃ kind ∈ [.evaluation, .handler, .timeout], r.errorKind = some kind

theorem StepResult.retryable_iff {r : StepResult} :
    r.Retryable ↔ r.status = .failed ∧ ∃ e, r.error = some e ∧ e.kind.isRetryable = true := by
  unfold Retryable errorKind
  refine and_congr_right fun _ => ⟨?_, ?_⟩
  · rintro ⟨kind, mem, found⟩
    obtain ⟨e, he, rfl⟩ := Option.map_eq_some_iff.1 found
    refine ⟨e, he, ?_⟩
    cases kind : e.kind <;> simp_all [StepErrorKind.isRetryable]
  · rintro ⟨e, he, retryable⟩
    refine ⟨e.kind, ?_, by rw [he]; rfl⟩
    cases kind : e.kind <;> simp_all [StepErrorKind.isRetryable]

theorem StepResult.mayRetry_iff {r : StepResult} : Job.mayRetry false r = true ↔ r.Retryable := by
  rw [retryable_iff]
  simp [Job.mayRetry, isFailed, errorKind, Option.any_map, Option.any_eq_true]

theorem RetryPolicy.room_iff {settings : ExecutionSettings} {policy : ExecutionPolicy} {n : Nat} :
    n + 1 ≤ (ofSettings settings policy).retries ↔
      policy.retryFailedSteps = true ∧ n + 1 ≤ policy.maxRetries := by
  unfold ofSettings
  cases policy.retryFailedSteps <;> simp

namespace Job

variable {p : Plan} {now : Nat} {j : Job} {log : List LogEntry} {w : Working}

/-- What an attempt records when it goes on are entries of it. -/
theorem begun_of_advance (discreet : p.Discreet) (h : p.Making now j.trial log w)
    {events : List EventKind} {halt : Activity.Halt EventKind StepResult}
    (ahead : w.rest.advance = (events, halt)) :
    j.trial.Begun w.startedAt (log ++ events.map (j.entry now)) := by
  refine h.1.append rfl (fun kind mem => discreet j.trial kind (h.2.mem_events ?_)) now
  exact Activity.mem_events_of_mem_advance (by rw [ahead]; exact mem)

theorem trials_makes (o : Surroundings) (discreet : p.Discreet) :
    Trials o p p.Making p.Makes where
  refuse _ _ _ _ := ⟨.inl rfl, .cutOff (.inl rfl) rfl⟩
  halt now _ _ := ⟨.inr ⟨now, [], rfl, by simp⟩, .cutOff (.inr rfl) rfl⟩
  opens _ _ _ _ := ⟨⟨[], rfl, by simp⟩, .refl⟩
  ends := by
    intro now j log w events r going _ ahead
    have ended := w.rest.advance_cases
    rw [ahead] at ended
    have own : (p.trial j.trial).outcome = .ok r := going.2.outcome ▸ ended.1
    exact ⟨.inr ⟨_, begun_of_advance discreet going ahead⟩, .own own rfl⟩
  breaks := by
    intro now j log w events message going _ ahead
    have broken := w.rest.advance_cases
    rw [ahead] at broken
    exact ⟨.inr ⟨_, begun_of_advance discreet going ahead⟩, going.2.outcome ▸ broken.1⟩
  expires := by
    intro now j log w events ms rest going _ ahead _
    exact ⟨.inr ⟨_, begun_of_advance discreet going ahead⟩,
      .cutOff (.inl (j.kind_cutError p w)) rfl⟩
  sleeps := by
    intro now turn j log w events ms rest going _ ahead _
    have left : rest.Suffix w.rest := Activity.suffix_of_advance (by rw [ahead])
    exact ⟨begun_of_advance discreet going ahead, left.trans going.2⟩
  interrupt going := ⟨.inr ⟨_, going.1⟩, .cutOff (.inr rfl) rfl⟩
  cut going _ _ := ⟨.inr ⟨_, going.1⟩, .cutOff (.inl (kind_cutError ..)) rfl⟩
  elapses _ _ _ _ _ _ going := going

end Job

/-! ### What there is of a step -/

namespace Trial.Entries

variable {t : Trial} {log : List LogEntry}

theorem of_mem (h : t.Entries log) {e : LogEntry} (mem : e ∈ log) :
    e.stepId = some t.step.id ∧ e.attempt = some t.number ∧
      (e.kind = .stepStarted ∨ e.kind.ofHandler = true) := by
  rcases h with rfl | ⟨moment, inner, rfl, others⟩
  · cases mem
  · rcases List.mem_cons.1 mem with rfl | mem
    · exact ⟨rfl, rfl, .inl rfl⟩
    · obtain ⟨step, attempt, told⟩ := others e mem
      exact ⟨step, attempt, .inr told⟩

theorem isRetry_eq_false (h : t.Entries log) : ∀ e ∈ log, e.isRetry = false := by
  intro e mem
  unfold LogEntry.isRetry
  rcases (h.of_mem mem).2.2 with started | told
  · rw [started]
  · cases kind : e.kind <;> simp_all [EventKind.ofHandler]

theorem filter_isRetry (h : t.Entries log) : log.filter LogEntry.isRetry = [] :=
  List.filter_eq_nil_iff.2 fun e mem => by simp [h.isRetry_eq_false e mem]

theorem starts_le (h : t.Entries log) : (log.filter LogEntry.isStart).length ≤ 1 := by
  rcases h with rfl | ⟨moment, inner, rfl, others⟩
  · exact Nat.zero_le 1
  · have none : inner.filter LogEntry.isStart = [] := by
      refine List.filter_eq_nil_iff.2 fun e mem => ?_
      have told := (others e mem).2.2
      unfold LogEntry.isStart
      cases kind : e.kind <;> simp_all [EventKind.ofHandler]
    change (_ :: inner.filter LogEntry.isStart).length ≤ 1
    rw [none]
    exact Nat.le_refl 1

end Trial.Entries

namespace Plan

variable {p : Plan} {step : Step} {vars : List (String × Value)} {log : List LogEntry}
  {past : List StepResult}

/-- What a run has recorded about a step that was started and has no result yet: what the attempts
have recorded that were followed by another one, and what the last one has. -/
inductive Recount (p : Plan) (step : Step) (vars : List (String × Value)) :
    List LogEntry → List StepResult → Prop
  | intro {before entries tail : List LogEntry} {past : List StepResult}
      (tale : Job.Tale p.Makes p step vars before past)
      (made : Trial.Entries ⟨step, vars, past.length + 1⟩ entries)
      (closed : tail = [] ∨ ∃ r e, tail = [e] ∧ Job.Renewed p step.id (past.length + 1) r e) :
      Recount p step vars (before ++ (entries ++ tail)) past

theorem Makes.entries {cancelled : Bool} {t : Trial} {outcome : Except String StepResult}
    (h : p.Makes cancelled t log outcome) :
    t.Entries log := by
  cases outcome with
  | ok r => exact h.1
  | error message => exact h.1

namespace Recount

/-- An entry about the step is one of an attempt, or tells of an attempt that follows it. -/
theorem of_mem (h : p.Recount step vars log past) {x : LogEntry} (mem : x ∈ log) :
    ∃ n, x.attempt = some n ∧ 1 ≤ n ∧ n ≤ past.length + 1 ∧
      (x.kind = .stepStarted ∨ x.kind.ofHandler = true ∨ ∃ r, Job.Renewed p step.id n r x) := by
  cases h with
  | intro tale made closed =>
    rcases List.mem_append.1 mem with mem | mem
    · obtain ⟨k, r, entries, e, hk, made, renewed, -, hx⟩ := tale.mem mem
      have place := (List.getElem?_eq_some_iff.1 hk).1
      rcases hx with hx | rfl
      · obtain ⟨-, attempt, kind⟩ := made.entries.of_mem hx
        exact ⟨k + 1, attempt, by omega, by omega, kind.imp_right .inl⟩
      · exact ⟨k + 1, renewed.attempt, by omega, by omega, .inr (.inr ⟨r, renewed⟩)⟩
    · rcases List.mem_append.1 mem with mem | mem
      · obtain ⟨-, attempt, kind⟩ := made.of_mem mem
        exact ⟨past.length + 1, attempt, by omega, Nat.le_refl _, kind.imp_right .inl⟩
      · rcases closed with rfl | ⟨r, e, rfl, renewed⟩
        · cases mem
        · cases List.mem_singleton.1 mem
          exact ⟨_, renewed.attempt, by omega, Nat.le_refl _, .inr (.inr ⟨r, renewed⟩)⟩

/-- No more attempts are started than the superseded ones and one. -/
theorem starts_le (h : p.Recount step vars log past) :
    (log.filter LogEntry.isStart).length ≤ past.length + 1 := by
  cases h with
  | intro tale made closed =>
    have before := tale.starts_le fun t entries r made => made.1.starts_le
    have last := made.starts_le
    rcases closed with rfl | ⟨r, e, rfl, renewed⟩
    · simp only [List.filter_append, List.length_append, List.filter_nil, List.length_nil]
      omega
    · have after : e.isStart = false := renewed.isStart
      simp only [List.filter_append, List.length_append, List.filter_cons, after,
        List.filter_nil, Bool.false_eq_true, if_false, List.length_nil]
      omega

end Recount
end Plan

namespace Job

variable {p : Plan} {now : Nat} {step : Step} {vars : List (String × Value)} {log : List LogEntry}

theorem Closes.recount {cancelled : Bool} {outcome : JobOutcome}
    (h : Closes p.Makes p cancelled step vars log outcome) :
    ∃ past, p.Recount step vars log past ∧ ∀ r own, outcome = .finished r own → own = past := by
  obtain ⟨before, entries, tail, past, c, came, tale, made, -, rfl, rfl, closed⟩ := h.last
  have tail : _ = [] ∨ ∃ r e, _ = [e] ∧ Renewed p step.id (past.length + 1) r e :=
    closed.imp_right fun ⟨r, e, one, _, _, renewed⟩ => ⟨r, e, one, renewed⟩
  refine ⟨past, .intro tale made.entries tail, fun r own finished => ?_⟩
  cases came with
  | ok r =>
    cases finished
    rfl
  | error message => cases finished

/-- The superseded results are those of attempts that failed in a way that allows another one. -/
theorem Tale.retryable {before : List LogEntry} {past : List StepResult}
    (h : Tale p.Makes p step vars before past) :
    ∃ own : List StepResult, past = own.map (fun x => { x with status := .retried }) ∧
      ∀ k x, own[k]? = some x →
        p.Attempted step vars (k + 1) x ∧ x.Retryable ∧ k + 1 ≤ p.retry.retries := by
  obtain ⟨own, rfl, results⟩ := h.own
  refine ⟨own, rfl, fun k x hx => ?_⟩
  obtain ⟨entries, e, made, renewed, -⟩ := results k x hx
  obtain ⟨error, delay, he, retryable, -, -⟩ := renewed.kind
  exact ⟨made.2, StepResult.retryable_iff.2 ⟨renewed.failed, error, he, retryable⟩, renewed.room⟩

/-- What a job ends with that does not panic: the result of its last attempt, and those of the others
as superseded. -/
theorem Closes.finished {cancelled : Bool} {r : StepResult} {past : List StepResult}
    (h : Closes p.Makes p cancelled step vars log (.finished r past)) :
    ∃ own : List StepResult, past = own.map (fun x => { x with status := .retried }) ∧
      p.Attempted step vars (own.length + 1) r ∧
      (∀ k x, own[k]? = some x →
        p.Attempted step vars (k + 1) x ∧ x.Retryable ∧ k + 1 ≤ p.retry.retries) ∧
      (r.Retryable → own.length + 1 ≤ p.retry.retries → cancelled = true) := by
  cases h with
  | settled tale made final =>
    obtain ⟨own, rfl, followed⟩ := tale.retryable
    simp only [List.length_map] at made final
    refine ⟨own, rfl, made.2, followed, fun retryable room => ?_⟩
    have never := final.resolve_left (by omega)
    cases cancelled with
    | true => rfl
    | false => simp [StepResult.mayRetry_iff.2 retryable] at never
  | abandoned tale made renewed cut =>
    obtain ⟨own, rfl, followed⟩ := tale.retryable
    simp only [List.length_map] at made
    exact ⟨own, rfl, made.2, followed, fun _ _ => cut⟩

end Job

namespace RunState

/-- What the attempts at a step have come to that has its result `r`; `own` are the results of those
that were followed by another one. -/
structure Tried (o : Surroundings) (p : Plan) (origin s : RunState) (step : Step)
    (vars : List (String × Value)) (own : List StepResult) (r : StepResult) : Prop where
  dispatched : Dispatched o p origin s step vars
  same : step.id = r.stepId
  attempts : r.attempts = own.length + 1
  last : p.Attempted step vars r.attempts r
  followed : ∀ k x, own[k]? = some x → p.Attempted step vars (k + 1) x ∧ x.Retryable ∧
    p.program.execution.retryFailedSteps = true ∧ k + 1 ≤ p.program.execution.maxRetries
  retried : retriedOf r.stepId s = own.map fun x => { x with status := .retried }
  /-- every entry is one of these attempts, each of which starts at most once -/
  entries : ∀ e ∈ s.log, e.stepId = some r.stepId → ∃ n, e.attempt = some n ∧ 1 ≤ n ∧ n ≤ r.attempts
  starts : ((entriesOf r.stepId s.log).filter LogEntry.isStart).length ≤ r.attempts
  /-- attempts are left only because something else than the step has cancelled the run -/
  final : r.Retryable → p.program.execution.retryFailedSteps = true →
    r.attempts ≤ p.program.execution.maxRetries → ∃ u j, Reaches o p origin u ∧ Reaches o p u s ∧
      u.cancelled = true ∧ (j ∈ u.jobs ∧ j.step.id = r.stepId) ∧ Cause o p origin u r.stepId

section reached

variable {o : Surroundings} {p : Plan} {context : RunContext} {cancelled : Bool} {s : RunState}

theorem chronicled_makes (hp : p.Sound) (discreet : p.Discreet) {settings : ExecutionSettings}
    (policy : p.retry = .ofSettings settings p.program.execution)
    (reached : Reaches o p (start p context cancelled) s) :
    Chronicled (Dispatched o p (start p context cancelled) s)
      (Concluded (Job.Closes p.Makes p) o p (start p context cancelled) s)
      (Job.Tells p.Making p.Makes p false) s :=
  .of_reaches (Job.logLaw_tells (Job.trials_makes o discreet) (policy ▸ Nat.le_max_right ..)) hp
    reached

variable (hp : p.Sound) (discreet : p.Discreet) {settings : ExecutionSettings}
  (policy : p.retry = .ofSettings settings p.program.execution)
  (reached : Reaches o p (start p context cancelled) s)

include hp discreet policy reached

/-- What there is of a step with a result, unless its job has panicked. -/
theorem tried_of_result {r : StepResult} (mem : r ∈ s.results) (attempted : 1 ≤ r.attempts)
    (calm : ¬ StepPanicked o p (start p context cancelled) s r.stepId) :
    ∃ step vars own, Tried o p (start p context cancelled) s step vars own r := by
  obtain ⟨past, log, moment, closed, hlog, hretried⟩ :=
    (chronicled_makes hp discreet policy reached).finished_of_result mem attempted calm
  obtain ⟨before, job, same, dispatched, polls, -, -, lawful, later⟩ := closed
  obtain ⟨past', recount, superseded⟩ := lawful.recount
  obtain rfl := superseded r past rfl
  obtain ⟨own, rfl, last, followed, final⟩ := lawful.finished
  have count : r.attempts = own.length + 1 := last.attempts hp
  have same : _ = r.stepId := same
  refine ⟨_, _, own, dispatched.later (.head (.poll polls) later), same, count, count ▸ last,
    fun k x hx => ?_, hretried, fun x mem about => ?_, ?_, fun retryable enabled room => ?_⟩
  · obtain ⟨made, retryable, room⟩ := followed k x hx
    exact ⟨made, retryable, RetryPolicy.room_iff.1 (policy ▸ room)⟩
  · have among : x ∈ entriesOf r.stepId s.log := mem_entriesOf.2 ⟨mem, about⟩
    rw [hlog] at among
    rcases List.mem_append.1 among with mem | mem
    · obtain ⟨n, attempt, low, high, -⟩ := recount.of_mem mem
      rw [List.length_map, ← count] at high
      exact ⟨n, attempt, low, high⟩
    · rw [List.mem_singleton.1 mem]
      exact ⟨r.attempts, if_neg (by omega), attempted, Nat.le_refl _⟩
  · have last : [finishEntry moment r].filter LogEntry.isStart = [] :=
      List.filter_eq_nil_iff.2 (by simp [(plain_finishEntry moment r).1])
    have started := recount.starts_le
    rw [List.length_map, ← count] at started
    rw [hlog]
    change ((_ ++ [finishEntry moment r]).filter LogEntry.isStart).length ≤ _
    rwa [List.filter_append, last, List.append_nil]
  · have cut := final retryable (policy ▸ RetryPolicy.room_iff.2 ⟨enabled, count ▸ room⟩)
    refine ⟨_, _, before, .head (.poll polls) later, cut, ⟨job, same⟩, ?_⟩
    exact same ▸ cause_of_job hp before cut job

/-- No pause between two attempts is longer than the plan allows. -/
theorem delay_le_maxBackoffMs {e : LogEntry} (mem : e ∈ s.log) {error : StepError} {delay : Nat}
    (kind : e.kind = .stepRetried error delay) : delay ≤ p.retry.maxBackoffMs := by
  have retry : e.isRetry = true := by simp [LogEntry.isRetry, kind]
  have silent : ∀ {t entries}, Trial.Entries t entries → e ∈ entries → False := fun made mem => by
    simp [made.isRetry_eq_false e mem] at retry
  have bounded : ∀ {step vars log}, Job.Followed p.Makes p step vars log e →
      delay ≤ p.retry.maxBackoffMs := by
    rintro step vars log ⟨number, r, entries, e', made, renewed, -, mem | rfl⟩
    · exact (silent made.1 mem).elim
    · obtain ⟨error', delay', -, -, bounded, same⟩ := renewed.kind
      rw [kind] at same
      cases same
      exact bounded
  obtain ⟨step, vars, -, explained⟩ :=
    explained (chronicled_makes hp discreet policy reached) (plain_of_run reached) mem
      fun plain => by simp [plain.2.1] at retry
  cases explained with
  | going _ _ going _ mem => exact (silent (.inr ⟨_, going.1⟩) mem).elim
  | followed followed => exact bounded followed
  | last made _ _ _ mem => exact (silent made.entries mem).elim

end reached

theorem retried_of_result {p : Plan} {s : RunState} {begun : Instant} {result : RunResult}
    (h : s.result p begun = some result) : result.retried = s.retried := by
  unfold RunState.result at h
  split at h
  · cases h
    rfl
  · cases h

/-- A panic of a step leaves a fault in the end. -/
theorem StepPanicked.isSome_fault {o : Surroundings} {p : Plan} {origin s : RunState} {id : String}
    (h : StepPanicked o p origin s id) (ho : Orderly p s) (finished : s.isOver = true) :
    s.fault.isSome = true := by
  obtain ⟨u, message, -, later, ended⟩ := h
  exact (noted_of_reaches ho later finished ended).fault rfl

end RunState

open RunState in
/-- How often the steps of a run are tried. Every step that was started has a result in the end. If
none of its attempts panics, there are at most as many as the policy of the program allows, exactly
one if it does not let steps be tried again; each but the last one failed in a way that another one
may do better at, and the superseded results are those of these attempts in order, as retried. Where
the last one failed so as well before all were used up, the run was cancelled, from outside or by a
panic of another step. And no pause is longer than both the bound of the settings and the first pause
of the program. -/
theorem attempts_follow_retry_policy {d : Dispatcher} {program : Program}
    (clean : program.Clean d.registry d.evaluator) {settings : ExecutionSettings} {scope : RunScope}
    {p : Plan} (plan : p = Plan.make d settings program scope) {o : Surroundings}
    {context : RunContext} {cancelled : Bool} {s : RunState}
    (reached : Reaches o p (start p context cancelled) s) {begun : Instant} {result : RunResult}
    (hr : s.result p begun = some result) :
    (∀ e ∈ s.log, ∀ error delay, e.kind = .stepRetried error delay →
      delay ≤ max settings.retryBackoffMaxMs program.execution.retryBackoffMs) ∧
    (∀ step vars, Dispatched o p (start p context cancelled) s step vars →
      ∃ r ∈ result.steps, r.stepId = step.id ∧ 1 ≤ r.attempts) ∧
    ∀ r ∈ result.steps, 1 ≤ r.attempts →
      ¬ StepPanicked o p (start p context cancelled) s r.stepId →
      (program.execution.retryFailedSteps = true →
        r.attempts ≤ 1 + program.execution.maxRetries) ∧
      (program.execution.retryFailedSteps = false → r.attempts = 1) ∧
      ∃ step vars own, Tried o p (start p context cancelled) s step vars own r ∧
        result.retried.filter (fun x => x.stepId == r.stepId) =
          own.map fun x => { x with status := .retried } := by
  have hp : p.Sound := plan ▸ Plan.sound_make clean settings scope
  have discreet : p.Discreet := plan ▸ Plan.discreet_make d settings program scope
  have program_eq : p.program = program := by rw [plan]; rfl
  have policy : p.retry = .ofSettings settings p.program.execution := by rw [program_eq, plan]; rfl
  have longest : p.retry.maxBackoffMs =
      max settings.retryBackoffMaxMs program.execution.retryBackoffMs := by rw [plan]; rfl
  obtain ⟨finished, steps⟩ := isOver_of_result hr
  refine ⟨fun e mem error delay kind => ?_, fun step vars dispatched => ?_,
    fun r mem attempted calm => ?_⟩
  · exact longest ▸ delay_le_maxBackoffMs hp discreet policy reached mem kind
  · exact steps ▸ dispatched.exists_result hp reached finished
  · obtain ⟨step, vars, own, tried⟩ :=
      tried_of_result hp discreet policy reached (steps ▸ mem) attempted calm
    have count := tried.attempts
    -- the last of the attempts that were followed by another one tells what the policy allows
    have room : own = [] ∨ program.execution.retryFailedSteps = true ∧
        own.length ≤ program.execution.maxRetries := by
      rcases List.eq_nil_or_concat own with none | ⟨before, x, rfl⟩
      · exact .inl none
      · obtain ⟨-, -, enabled, room⟩ := tried.followed before.length x (by simp)
        rw [program_eq] at enabled room
        exact .inr ⟨enabled, by simpa using room⟩
    refine ⟨fun _ => ?_, fun disabled => ?_, step, vars, own, tried, ?_⟩
    · rcases room with rfl | ⟨-, room⟩
      · simp [count]
      · omega
    · rcases room with rfl | ⟨enabled, -⟩
      · simp [count]
      · simp [disabled] at enabled
    · exact retried_of_result hr ▸ tried.retried

/-- Handlers for calls that nobody answers. -/
def Dispatcher.unanswered : Dispatcher where
  registry := {
    steps := [("message", ⟨fun _ => []⟩)]
    triggers := [("immediate", ⟨fun _ _ => return .ok .fire, fun _ _ => []⟩)]
    actions := [("send_message",
      ⟨fun _ => return .error (.failed "nobody answers"), fun _ => []⟩)] }
  evaluator := ⟨[], {}⟩

/-- A program with one call, which may be tried twice again, without a pause. -/
def Program.call : Program where
  id := "call"
  status := .published
  execution := { maxRetries := 2, retryBackoffMs := 0 }
  steps := [{ id := "call" }]

theorem clean_call :
    Program.call.Clean Dispatcher.unanswered.registry Dispatcher.unanswered.evaluator :=
  .of_checks rfl (by decide +kernel) (by decide +kernel) (by decide +kernel)

def Plan.call : Plan :=
  .make .unanswered {} .call
    { runId := "run", tenantId := "tenant", userId := none, events := [], now := ⟨0, 0⟩
      personality := Program.call.personality }

theorem sound_call : Plan.call.Sound := Plan.sound_make clean_call ..

theorem unreachable_call : Plan.call.unreachable = [] := by
  have capable : ∀ step ∈ Program.call.steps, step.trigger.type.isEntryCapable = true := by decide
  exact sound_call.unreachable_eq_nil fun step declared _ => capable step declared

/-- The call is never answered, so it is made three times. -/
theorem call_is_made_thrice : ∃ context s result r,
    Reaches .free .call (RunState.start .call context false) s ∧
    s.result .call ⟨0, 0⟩ = some result ∧ r ∈ result.steps ∧ r.attempts = 3 ∧
    ∃ step vars own,
      RunState.Tried .free .call (RunState.start .call context false) s step vars own r ∧
      own.length = 2 := by
  let s := Plan.call.after 12
  have ends : s.fault = none ∧ s.results.map StepResult.attempts = [3] ∧ s.isOver = true := by
    simp only [s, Plan.after, RunState.start, unreachable_call]
    decide +kernel
  obtain ⟨calm, attempts, finished⟩ := ends
  obtain ⟨r, results⟩ := List.length_eq_one_iff.1 (by simpa using congrArg List.length attempts)
  have reached := Plan.call.reaches_after 12
  obtain ⟨result, hr, steps⟩ := RunState.exists_result (p := .call) finished ⟨0, 0⟩
  have mem : r ∈ result.steps := by simp [steps, results]
  have thrice : r.attempts = 3 := by simpa [results] using attempts
  have ho : RunState.Orderly .call s := .of_reaches sound_call reached
  obtain ⟨-, -, step, vars, own, tried, -⟩ :=
    (attempts_follow_retry_policy clean_call rfl reached hr).2.2 r mem (by omega) fun panicked =>
      absurd (panicked.isSome_fault ho finished) (by rw [calm]; exact Bool.false_ne_true)
  have count := tried.attempts
  exact ⟨_, s, result, r, reached, hr, mem, thrice, step, vars, own, tried, by omega⟩

end Playbook
