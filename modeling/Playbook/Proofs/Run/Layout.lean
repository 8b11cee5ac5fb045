import Playbook.Proofs.Run.Retries

/-!
How the log of a run is laid out. It opens with the start of the run; when the run is over it closes
with the end; neither is noted anywhere else. What is noted about a step comes from its attempts,
until its result is noted, with one entry, the last one about the step.
-/
namespace Playbook

open Json (Value)
open Trace (EventKind)

namespace Trace.EventKind

/-- What an event tells of a step that has got its result: how it came out, and its branch. -/
def verdict? : EventKind → Option (StepStatus × String)
  | .stepCompleted branch _ => some (.completed, branch)
  | .stepSkipped branch _ => some (.skipped, branch)
  | .stepFailed branch _ _ => some (.failed, branch)
  | _ => none

/-- Whether the event is the start or the end of a run. -/
def isFrame : EventKind → Bool
  | .runStarted .. | .runCompleted .. => true
  | _ => false

/-- Whether the event is one that the attempts at a step record, or that tells of another one. -/
def ofAttempt : EventKind → Bool
  | .stepStarted | .stepRetried .. => true
  | kind => kind.ofHandler

theorem verdict?_of_ofAttempt {kind : EventKind} (h : kind.ofAttempt = true) :
    kind.verdict? = none := by
  cases kind <;> first | rfl | cases h

theorem isFrame_of_ofAttempt {kind : EventKind} (h : kind.ofAttempt = true) :
    kind.isFrame = false := by
  cases kind <;> first | rfl | cases h

end Trace.EventKind

/-- The verdict of a result. -/
def StepResult.verdict (r : StepResult) : StepStatus × String := (r.status, r.trigger.branch)

theorem RunState.verdict?_terminalKind {r : StepResult} (final : r.status ≠ .retried) :
    (terminalKind r).verdict? = some r.verdict := by
  unfold terminalKind StepResult.verdict
  cases status : r.status with
  | retried => exact absurd status final
  | completed | skipped | failed => rfl

theorem RunState.isFrame_terminalKind (r : StepResult) : (terminalKind r).isFrame = false := by
  unfold terminalKind
  cases r.status <;> rfl

/-! ### What is noted about a step -/

namespace Plan

variable {p : Plan} {step : Step} {vars : List (String × Value)} {log : List LogEntry}

theorem ofAttempt_of_entries {t : Trial} (h : t.Entries log) :
    ∀ e ∈ log, e.kind.ofAttempt = true := by
  intro e mem
  rcases (h.of_mem mem).2.2 with started | told
  · rw [started]
    rfl
  · cases kind : e.kind <;> simp_all [EventKind.ofAttempt, EventKind.ofHandler]

theorem ofAttempt_of_followed {e : LogEntry} (h : Job.Followed p.Makes p step vars log e) :
    e.kind.ofAttempt = true := by
  obtain ⟨number, r, entries, last, made, renewed, -, mem | rfl⟩ := h
  · exact ofAttempt_of_entries made.entries e mem
  · obtain ⟨error, delay, -, -, -, kind⟩ := renewed.kind
    rw [kind]
    rfl

end Plan

namespace RunState

variable {o : Surroundings} {p : Plan} {origin s t : RunState} {context : RunContext}
  {cancelled : Bool}

theorem ofAttempt_of_concluded {e : EndedJob} {log : List LogEntry}
    (h : Concluded (Job.Closes p.Makes p) o p origin s e log) :
    ∀ x ∈ log, x.kind.ofAttempt = true := by
  obtain ⟨-, -, -, -, -, -, -, lawful, -⟩ := h
  intro x mem
  rcases lawful.mem mem with ⟨number, past, c, entries, came, made, -, -, -, mem⟩ | followed
  · exact Plan.ofAttempt_of_entries made.entries x mem
  · exact Plan.ofAttempt_of_followed followed

/-- What there is of each step comes from its attempts. -/
abbrev ByAttempts (o : Surroundings) (p : Plan) (origin s : RunState) : Prop :=
  Chronicled (Dispatched o p origin s) (Concluded (Job.Closes p.Makes p) o p origin s)
    (Job.Tells p.Making p.Makes p false) s

/-- Of a step with a result the last entry is that of the result; those before it come from its
attempts. -/
theorem entriesOf_result (h : ByAttempts o p origin s) {r : StepResult} (mem : r ∈ s.results) :
    ∃ inner moment, entriesOf r.stepId s.log = inner ++ [finishEntry moment r] ∧
      ∀ e ∈ inner, e.kind.ofAttempt = true := by
  have entered := h.results r mem
  generalize entriesOf r.stepId s.log = log, retriedOf r.stepId s = retried at entered
  cases entered with
  | @unattempted moment none => exact ⟨[], moment, rfl, by simp⟩
  | @attempted e moment log closed => exact ⟨log, moment, rfl, ofAttempt_of_concluded closed⟩

/-- An entry about a step comes from an attempt, or is that of its result. -/
theorem ofAttempt_or_finishEntry (h : ByAttempts o p origin s) {e : LogEntry} (mem : e ∈ s.log)
    {id : String} (about : e.stepId = some id) :
    e.kind.ofAttempt = true ∨
      ∃ r ∈ s.results, ∃ moment, r.stepId = id ∧ e = finishEntry moment r := by
  have among : e ∈ entriesOf id s.log := mem_entriesOf.2 ⟨mem, about⟩
  rcases h.located id with none | ⟨j, job, rfl⟩ | ⟨ended, among', rfl⟩ | ⟨r, result, rfl⟩
  · simp [none] at among
  · refine .inl ?_
    rcases (h.jobs j job).2.mem among with ⟨w, entries, -, going, -, mem⟩ | followed
    · exact Plan.ofAttempt_of_entries (.inr ⟨_, going.1⟩) e mem
    · exact Plan.ofAttempt_of_followed followed
  · exact .inl (ofAttempt_of_concluded (h.ended _ among') e among)
  · obtain ⟨inner, moment, log, attempts⟩ := entriesOf_result h result
    rw [log] at among
    rcases List.mem_append.1 among with mem | mem
    · exact .inl (attempts e mem)
    · exact .inr ⟨r, result, moment, rfl, List.mem_singleton.1 mem⟩

/-! ### The start and the end of a run -/

def startEntry (p : Plan) : LogEntry :=
  ⟨0, none, none, .runStarted p.program.id p.program.version p.program.execution.strategy.name⟩

/-- The entry with which the log closes, once the run is over. -/
def endEntries : Control → List LogEntry
  | .over status reason elapsedMs =>
    [⟨elapsedMs, none, none, .runCompleted status reason elapsedMs⟩]
  | _ => []

/-- An entry between the start and the end of a run; what is not about a step tells that the run is
cancelled. -/
def Inner (e : LogEntry) : Prop :=
  e.kind.isFrame = false ∧ (e.stepId = none → e.kind = .runCancelled)

/-- The log opens with the start of the run and closes with its end, if it is over. -/
def Framed (p : Plan) (s : RunState) : Prop :=
  ∃ inner, s.log = startEntry p :: (inner ++ endEntries s.control) ∧ ∀ e ∈ inner, Inner e

theorem OfResult.inner {e : LogEntry} (h : OfResult e) : Inner e := by
  obtain ⟨moment, r, rfl⟩ := h
  exact ⟨isFrame_terminalKind r, nofun⟩

/-- A run that is not over goes on between its start and its end. -/
theorem Framed.goesOn (h : Framed p s) (going : endEntries s.control = []) (adds : Adds Inner s t)
    (still : endEntries t.control = []) : Framed p t := by
  obtain ⟨inner, log, within⟩ := h
  obtain ⟨new, more, added⟩ := adds
  refine ⟨inner ++ new, ?_, List.forall_mem_append.2 ⟨within, added⟩⟩
  rw [more, log, going, still]
  simp

theorem Framed.close (h : Framed p s) (going : endEntries s.control = []) (interrupted : Bool) :
    Framed p (s.close p interrupted) := by
  obtain ⟨inner, log, within⟩ := h
  refine ⟨inner, ?_, within⟩
  change s.log ++ _ = _
  rw [log, going]
  simp [RunState.close, endEntries, runEntry]

theorem Framed.leave (h : Framed p s) (going : endEntries s.control = []) :
    Framed p (s.leave p) := by
  unfold RunState.leave
  split
  · refine h.goesOn going ?_ rfl
    cases s.fault with
    | none => exact ⟨_, rfl, List.forall_mem_singleton.2 ⟨rfl, fun _ => rfl⟩⟩
    | some message => exact .refl rfl
  · exact h.close going false

theorem Framed.act (h : Framed p s) (m : Act p s t) : Framed p t := by
  have noted : ∀ {t u : RunState}, Adds OfResult t u → Adds Inner t u := fun added =>
    added.mono fun _ => OfResult.inner
  cases m with
  | look control =>
    refine h.goesOn (by rw [control]; rfl) (.refl rfl) ?_
    unfold rescan
    cases s.cancelled <;> rfl
  | scanned control | pass control | launch control | again control =>
    exact h.goesOn (by rw [control]; rfl) (.refl rfl) rfl
  | skip control | expire control =>
    exact h.goesOn (by rw [control]; rfl) ((noted (adds_decide s _)).trans (.refl rfl)) rfl
  | leave control => exact h.leave (by rw [control]; rfl)
  | @takeIn _ e rest control =>
    exact h.goesOn (by rw [control]; rfl) ((noted (adds_takeIn s e rest)).trans (.refl rfl)) rfl
  | @drain e rest control =>
    have same : (s.takeIn e rest).control = .draining := (control_takeIn e rest s).trans control
    exact h.goesOn (by rw [control]; rfl) (noted (adds_takeIn s e rest)) (by rw [same]; rfl)
  | finish control =>
    have going : endEntries s.control = [] := by rw [control]; rfl
    have skipped := adds_skips s.pending Branch.cancelled
      (if s.fault.isSome then "run aborted after engine fault" else "run cancelled") s
    have still := congrArg endEntries (sameFrame_skips s.pending Branch.cancelled
      (if s.fault.isSome then "run aborted after engine fault" else "run cancelled") s).control
    exact (h.goesOn going (noted skipped) (still.trans going)).close (still.trans going) true

theorem Framed.poll (ho : Orderly p s) (h : Framed p s) (told : ByAttempts o p origin t)
    {turn : Nat} {id : String} (m : Poll p turn id s t) : Framed p t := by
  have going : endEntries s.control = [] := by
    -- a job is left to poll, so the run is not over
    have busy : s.isOver = false := by
      refine Bool.eq_false_iff.2 fun finished => ?_
      obtain ⟨jobs, -⟩ := ho.idle_jobs finished
      cases m with
      | waits found | ends found => simp [jobs] at found
    unfold isOver at busy
    cases control : s.control <;> simp_all [endEntries]
  obtain ⟨new, log, about⟩ := adds_of_poll m
  refine h.goesOn going ⟨new, log, fun e mem => ?_⟩ (by rw [m.frame.control, going])
  obtain ⟨x, -, own⟩ := about e mem
  refine ⟨?_, fun none => by simp [own] at none⟩
  rcases ofAttempt_or_finishEntry told (log ▸ List.mem_append_right _ mem) own with
    attempt | ⟨r, -, moment, -, rfl⟩
  · exact EventKind.isFrame_of_ofAttempt attempt
  · exact isFrame_terminalKind r

theorem framed_start (p : Plan) (context : RunContext) (cancelled : Bool) :
    Framed p (start p context cancelled) := by
  have begun : Framed p {
      control := .looking, cancelled, context, pending := p.graph.nodes, log := [startEntry p] } :=
    ⟨[], rfl, by simp⟩
  refine begun.goesOn rfl ((adds_skips ..).mono fun _ => OfResult.inner) ?_
  exact congrArg endEntries (sameFrame_skips ..).control

section reached

variable (hp : p.Sound) (discreet : p.Discreet) {settings : ExecutionSettings}
  (policy : p.retry = .ofSettings settings p.program.execution)
  (reached : Reaches o p (start p context cancelled) s)

include hp discreet policy reached

theorem framed_of_reaches : Framed p s := by
  induction reached with
  | refl => exact framed_start p context cancelled
  | @tail s t reached m ih =>
    cases m with
    | act acts => exact ih.act (act_of_act? acts)
    | poll polls =>
      exact ih.poll (.of_reaches hp reached)
        (chronicled_makes hp discreet policy (reached.tail (.poll polls))) (poll_of_poll? polls)
    | cancel | elapse => exact ih

/-- The entries that tell of a verdict are those of the results. -/
theorem exists_result_of_verdict {e : LogEntry} (mem : e ∈ s.log)
    (verdict : e.kind.verdict?.isSome = true) :
    ∃ r ∈ s.results, ∃ moment, e = finishEntry moment r := by
  have silent : e.kind.verdict? ≠ none := Option.isSome_iff_ne_none.1 verdict
  cases about : e.stepId with
  | some id =>
    rcases ofAttempt_or_finishEntry (chronicled_makes hp discreet policy reached) mem about with
      attempt | ⟨r, result, moment, -, own⟩
    · exact absurd (EventKind.verdict?_of_ofAttempt attempt) silent
    · exact ⟨r, result, moment, own⟩
  | none =>
    obtain ⟨inner, log, within⟩ := framed_of_reaches hp discreet policy reached
    rw [log] at mem
    rcases List.mem_cons.1 mem with rfl | mem
    · exact absurd rfl silent
    · rcases List.mem_append.1 mem with mem | mem
      · rw [(within e mem).2 about] at silent
        exact absurd rfl silent
      · cases control : s.control with
        | «over» status reason elapsedMs =>
          rw [control] at mem
          rw [List.mem_singleton.1 mem] at silent
          exact absurd rfl silent
        | _ =>
          rw [control] at mem
          cases mem

/-- As many entries tell of a verdict of some kind as there are results of that kind. -/
theorem length_filter_verdict (P : StepStatus × String → Bool) :
    (s.log.filter fun e => e.kind.verdict?.any P).length =
      (s.results.filter fun r => P r.verdict).length := by
  have ho := Orderly.of_reaches hp reached
  have told := chronicled_makes hp discreet policy reached
  have known : ∀ e ∈ s.log.filter (fun e => e.kind.verdict?.any P),
      e.stepId ∈ s.resultIds.map some := by
    intro e mem
    obtain ⟨mem, verdict⟩ := List.mem_filter.1 mem
    obtain ⟨r, result, moment, rfl⟩ :=
      exists_result_of_verdict hp discreet policy reached mem
        (by cases v : e.kind.verdict? <;> simp_all)
    exact List.mem_map_of_mem (List.mem_map_of_mem result)
  have one : ∀ r ∈ s.results,
      ((s.log.filter fun e => e.kind.verdict?.any P).filter fun e => e.stepId == some r.stepId).length
        = if P r.verdict then 1 else 0 := by
    intro r mem
    obtain ⟨inner, moment, log, attempts⟩ := entriesOf_result told mem
    have silent : inner.filter (fun e => e.kind.verdict?.any P) = [] := by
      refine List.filter_eq_nil_iff.2 fun e mem => ?_
      simp [EventKind.verdict?_of_ofAttempt (attempts e mem)]
    have last : (finishEntry moment r).kind.verdict? = some r.verdict :=
      verdict?_terminalKind (ho.accounted.unretried r mem)
    have commuted : (s.log.filter fun e => e.kind.verdict?.any P).filter
        (fun e => e.stepId == some r.stepId) =
          (entriesOf r.stepId s.log).filter fun e => e.kind.verdict?.any P := by
      unfold entriesOf
      rw [List.filter_filter, List.filter_filter]
      exact List.filter_congr fun e _ => Bool.and_comm ..
    rw [commuted, log, List.filter_append, silent, List.nil_append, List.filter_singleton, last,
      Option.any_some]
    cases P r.verdict <;> rfl
  have parts := sumOf_length_filter LogEntry.stepId
    ((ho.nodup_resultIds hp).map (Option.some_injective _)) known
  rw [← parts, sumOf_map, resultIds, sumOf_map, sumOf_congr one, sumOf_ite]

end reached

end RunState
end Playbook
