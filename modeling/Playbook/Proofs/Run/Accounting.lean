import Playbook.Proofs.Run.Recording
import Playbook.Proofs.Run.Retries

/-!
How attempts are counted. The number of a result's attempts is one more than that of the superseded
results of its step. An event tells of each superseded result before the pause that follows it; when
the run is cancelled in this pause the event stays, but the result is not superseded any more. And
of a step that panics the superseded results are lost, not the events. Else they agree.
-/
namespace Playbook

open Json (Value)

namespace Job

variable {p : Plan} {now : Nat} {step : Step} {vars : List (String × Value)} {log : List LogEntry}

/-- While a job does not pause, one entry tells of another attempt for each superseded result. -/
theorem Tells.retries {j : Job} (h : Tells p.Making p.Makes p false now step vars log j j.point)
    (busy : ∀ wake last, j.phase ≠ .backingOff wake last) :
    (log.filter LogEntry.isRetry).length = j.superseded.length := by
  obtain ⟨-, -, -, -, past, entries, tale, hq⟩ := h
  have count := tale.count fun t entries r made => made.1.filter_isRetry
  unfold point at hq
  cases phase : j.phase with
  | starting =>
    rw [phase] at hq
    obtain ⟨-, rfl⟩ := hq
    exact count
  | working w =>
    rw [phase] at hq
    obtain ⟨-, rfl, going⟩ := hq
    have silent := Trial.Entries.filter_isRetry (.inr ⟨_, going.1⟩)
    rw [List.filter_append, silent, List.append_nil]
    exact count
  | backingOff wake last => exact absurd phase (busy wake last)

/-- When a job has ended, at most one entry more tells of another attempt than there are superseded
results, and this only in a cancelled run. -/
theorem Closes.retries {cancelled : Bool} {r : StepResult} {past : List StepResult}
    (h : Closes p.Makes p cancelled step vars log (.finished r past)) :
    (log.filter LogEntry.isRetry).length = past.length ∨
      (log.filter LogEntry.isRetry).length = past.length + 1 ∧ cancelled = true := by
  cases h with
  | settled tale made =>
    have count := tale.count fun t entries r made => made.1.filter_isRetry
    rw [List.filter_append, made.1.filter_isRetry, List.append_nil]
    exact .inl count
  | abandoned tale made renewed cut =>
    have count := tale.count fun t entries r made => made.1.filter_isRetry
    refine .inr ⟨?_, cut⟩
    simp [List.filter_append, made.1.filter_isRetry, renewed.isRetry, count]

theorem filter_isRetry_lastEntries (p : Plan) (now : Nat) (j : Job) :
    (j.lastEntries p now).filter LogEntry.isRetry = [] := by
  unfold lastEntries
  split
  · split <;> rfl
  · rfl

end Job

namespace RunState

/-- The run was cancelled while the step paused between two attempts. -/
def PauseCut (o : Surroundings) (p : Plan) (origin s : RunState) (id : String) : Prop :=
  ∃ u j wake last, Reaches o p origin u ∧ Reaches o p u s ∧ u.cancelled = true ∧ j ∈ u.jobs ∧
    j.step.id = id ∧ j.phase = .backingOff wake last

/-- The number of events that tell of another attempt at a step. -/
def retriesOf (id : String) (s : RunState) : Nat :=
  ((entriesOf id s.log).filter LogEntry.isRetry).length

/-- How what is counted of a step with a result compares: its attempts, the superseded results, and
the events that tell of another attempt. -/
structure Tallied (o : Surroundings) (p : Plan) (origin s : RunState) (r : StepResult) : Prop where
  attempts : 1 ≤ r.attempts → r.attempts = (retriedOf r.stepId s).length + 1
  kept : (retriedOf r.stepId s).length ≤ retriesOf r.stepId s
  agree : ¬ PauseCut o p origin s r.stepId → ¬ StepPanicked o p origin s r.stepId →
    retriesOf r.stepId s = (retriedOf r.stepId s).length
  excess : ¬ StepPanicked o p origin s r.stepId →
    retriesOf r.stepId s ≤ (retriedOf r.stepId s).length + 1

section reached

variable {o : Surroundings} {p : Plan} {context : RunContext} {cancelled : Bool} {s : RunState}
  (hp : p.Sound) (discreet : p.Discreet) {settings : ExecutionSettings}
  (policy : p.retry = .ofSettings settings p.program.execution)

include hp discreet policy

/-- Where an entry tells of an attempt that was not made, the run was cancelled before it. -/
theorem pauseCut_of_concluded {e : EndedJob} {log : List LogEntry}
    (closed : Concluded (Job.Closes p.Makes p) o p (start p context cancelled) s e log)
    {r : StepResult} {past : List StepResult} (finished : e.outcome = .finished r past) :
    (log.filter LogEntry.isRetry).length = past.length ∨
      (log.filter LogEntry.isRetry).length = past.length + 1 ∧
        PauseCut o p (start p context cancelled) s e.stepId := by
  obtain ⟨reached, job, own, -, polls, ended, told, lawful, later⟩ := closed
  obtain ⟨id, outcome⟩ := e
  obtain rfl : outcome = .finished r past := finished
  refine lawful.retries.imp_right fun ⟨excess, cut⟩ => ⟨excess, ?_⟩
  by_contra uncut
  -- the job did not pause when it was polled for the last time, so that all was counted before
  have busy : ∀ wake last, _ ≠ JobPhase.backingOff wake last := fun wake last paused =>
    uncut ⟨_, _, wake, last, reached, .head (.poll polls) later, cut, job, own, paused⟩
  have count := ((chronicled_makes hp discreet policy reached).jobs _ job).2.retries busy
  have found := (Orderly.of_reaches hp reached).find?_job hp job
  rw [own] at found count
  cases poll_of_poll? polls with
  | waits => simp at ended
  | ends found' _ polled =>
    obtain rfl := Option.some.inj (found.symm.trans found')
    have entries := (Chronicled.entriesOf_polled found polled).1
    rw [cut, Job.poll_cancelled] at polled
    cases polled
    have same := List.append_cancel_left ended
    cases same
    simp only at told
    rw [told, entries, List.filter_append, Job.filter_isRetry_lastEntries, List.append_nil,
      count] at excess
    omega

variable (reached : Reaches o p (start p context cancelled) s)

include reached

theorem tallied_of_result {r : StepResult} (mem : r ∈ s.results) :
    Tallied o p (start p context cancelled) s r := by
  have entered := (chronicled_makes hp discreet policy reached).results r mem
  have last : ∀ moment, [finishEntry moment r].filter LogEntry.isRetry = [] := fun moment =>
    List.filter_eq_nil_iff.2 (by simp [(plain_finishEntry moment r).2.1])
  generalize hlog : entriesOf r.stepId s.log = log, hretried : retriedOf r.stepId s = retried
    at entered
  have retries : retriesOf r.stepId s = (log.filter LogEntry.isRetry).length := by
    unfold retriesOf
    rw [hlog]
  cases entered with
  | @unattempted moment none =>
    rw [last moment] at retries
    refine ⟨fun made => by omega, ?_, fun _ _ => ?_, fun _ => ?_⟩ <;> simp [retries, hretried]
  | @attempted e moment log closed own result =>
    rw [List.filter_append, last moment, List.append_nil] at retries
    have tally : ∀ r past, e.outcome = .finished r past → _ := fun r past =>
      pauseCut_of_concluded hp discreet policy closed
    obtain ⟨before, job, same, -, polls, ended, -, lawful, later⟩ := closed
    obtain ⟨id, outcome⟩ := e
    obtain rfl : r.stepId = id := own
    cases outcome with
    | panicked message =>
      have panicked : StepPanicked o p (start p context cancelled) s r.stepId :=
        ⟨_, message, before.tail (.poll polls), later, by simp [ended]⟩
      have none : retriedOf r.stepId s = [] := hretried
      have once : r.attempts = 1 := by rw [result]; rfl
      refine ⟨fun _ => by simp [once, none], by simp [none], fun _ calm => ?_, fun calm => ?_⟩
      · exact absurd panicked calm
      · exact absurd panicked calm
    | finished r' past =>
      obtain rfl : r = r' := result
      obtain ⟨own, rfl, final, -⟩ := lawful.finished
      have count : r.attempts = own.length + 1 := final.attempts hp
      have kept : (retriedOf r.stepId s).length = own.length := by
        rw [hretried]
        exact List.length_map ..
      have tally := tally r _ rfl
      rw [← retries, List.length_map, ← kept] at tally
      refine ⟨fun _ => by omega, by omega, fun uncut _ => ?_, fun _ => by omega⟩
      exact tally.resolve_right fun excess => uncut excess.2

/-- Of each superseded result, and of each event that tells of another attempt, the step has its
result when the run is over. -/
theorem sums_of_over (finished : s.isOver = true) :
    sumOf (fun r => retriesOf r.stepId s) s.results = (s.log.filter LogEntry.isRetry).length ∧
      sumOf (fun r => (retriedOf r.stepId s).length) s.results = s.retried.length := by
  have ho := Orderly.of_reaches hp reached
  have chronicled := chronicled_makes hp discreet policy reached
  have nodup := ho.nodup_resultIds hp
  constructor
  · have known : ∀ e ∈ s.log.filter LogEntry.isRetry, e.stepId ∈ s.resultIds.map some := by
      intro e mem
      obtain ⟨mem, retry⟩ := List.mem_filter.1 mem
      cases step : e.stepId with
      | none => simp [(plain_of_run reached e mem step).2.1] at retry
      | some id => exact List.mem_map_of_mem (chronicled.mem_resultIds (ho.idle_jobs finished) mem step)
    have parts := sumOf_length_filter LogEntry.stepId (nodup.map (Option.some_injective _)) known
    rw [← parts, sumOf_map, resultIds, sumOf_map]
    refine sumOf_congr fun r _ => ?_
    unfold retriesOf entriesOf
    rw [List.filter_filter, List.filter_filter]
    refine congrArg List.length (List.filter_congr fun e _ => ?_)
    exact Bool.and_comm ..
  · have known : ∀ x ∈ s.retried, x.stepId ∈ s.resultIds := by
      intro x mem
      by_contra fresh
      have none := chronicled.unabsorbed x.stepId
        (Bool.eq_false_iff.2 fun terminal => fresh (isTerminal_iff.1 terminal))
      have among : x ∈ retriedOf x.stepId s := List.mem_filter.2 ⟨mem, beq_self_eq_true _⟩
      rw [none] at among
      cases among
    have parts := sumOf_length_filter StepResult.stepId nodup known
    rw [← parts, resultIds, sumOf_map]
    rfl

end reached
end RunState

namespace Scheduler

/-- A run with a result is in a state in which it is over. -/
theorem exists_active_of_result? {w : Scheduler} {id : String} {result : RunResult}
    (h : w.result? id = some result) : ∃ r p s, w.run? id = some r ∧ r.stage = .active p s ∧
      s.result p (w.epoch.addMillis r.startedAt) = some result := by
  unfold result? at h
  obtain ⟨r, found, h⟩ := Option.bind_eq_some_iff.1 h
  split at h
  · next p s active => exact ⟨r, p, s, found, active, h⟩
  · cases h

/-- The state in which it is over is one that the plan of a program reaches that may run. -/
theorem exists_plan_of_result? {w w' : Scheduler} (empty : w.runs = [])
    (h : Relation.ReflTransGen Happens w w') {id : String} {result : RunResult}
    (hr : w'.result? id = some result) : ∃ r p s context cancelled, w'.run? id = some r ∧
      r.stage = .active p s ∧ s.result p (w'.epoch.addMillis r.startedAt) = some result ∧
      Reaches .free p (RunState.start p context cancelled) s ∧
      ∃ program scope, program.Clean w.executor.dispatcher.registry w.executor.dispatcher.evaluator ∧
        p = .make w.executor.dispatcher w.executor.settings program scope := by
  obtain ⟨r, p, s, found, active, ends⟩ := exists_active_of_result? hr
  have genuine := (genuine_of_happens empty h).runs r (List.mem_of_find?_eq_some found)
  rw [active] at genuine
  obtain ⟨program, context, scope, cancelled, ⟨-, clean⟩, plan, reached⟩ := genuine
  exact ⟨r, p, s, context, cancelled, found, active, ends, reached, program, scope, clean, plan⟩

/-- What is known of a run that has begun is what its log tells. -/
theorem AllRecorded.exists_replay {w : Scheduler} (h : AllRecorded w) {id : String} {r : ScheduledRun}
    {p : Plan} {s : RunState} (found : w.run? id = some r) (active : r.stage = .active p s)
    {record : Trace.RunRecord} (recorded : Keyed.get? id w.recorder.runs = some record) :
    ∃ debug, record = r.replay w.epoch s.log
      { programId := p.program.id, version := p.program.version, debug } := by
  have known := h.runs id r found
  unfold ScheduledRun.Recorded at known
  rw [active] at known
  exact known.2 record recorded

/-- The events of a debugged run are the entries of its log, and its retries are counted of them. -/
theorem AllRecorded.trace_of_active {w : Scheduler} (h : AllRecorded w) {id : String}
    {r : ScheduledRun} {p : Plan} {s : RunState} (found : w.run? id = some r)
    (active : r.stage = .active p s) {summary : Trace.Summary}
    (summarized : w.recorder.summarize id = some summary) {events : List Trace.Event}
    (traced : w.recorder.trace id = some events) :
    summary.record.totals.retries = (s.log.filter LogEntry.isRetry).length ∧
      (summary.record.debug = true → ∀ P : Option String × Option Nat × Trace.EventKind → Bool,
        (events.filter fun e => P (e.stepId, e.attempt, e.kind)).length =
          (s.log.filter fun e => P (e.stepId, e.attempt, e.kind)).length) := by
  obtain ⟨record, recorded, rfl⟩ := Option.map_eq_some_iff.1 summarized
  obtain ⟨record', recorded', rfl⟩ := Option.map_eq_some_iff.1 traced
  obtain rfl := Option.some.inj (recorded.symm.trans recorded')
  obtain ⟨debug, rfl⟩ := h.exists_replay found active recorded
  refine ⟨ScheduledRun.retries_replay.trans (Nat.zero_add _), fun kept P => ?_⟩
  have told := ScheduledRun.events_replay w.epoch r s.log (ScheduledRun.debug_replay.symm.trans kept)
  have count := congrArg (fun es => (es.filter P).length) told
  simp only [List.map_nil, List.nil_append, List.filter_map, List.length_map] at count
  exact count

end Scheduler

open RunState in
/-- Whatever happens to a scheduler, when a debugged run is over, its summary counts the events of its
trace that tell of another attempt. The number of a result's attempts is one more than that of the
superseded results of its step. These and the events of the step are equally many, unless it panicked
or the run was cancelled in a pause between its attempts; then there is an event more. So where
neither happened to a step, the retries of the summary are as many as the superseded results of the
run. -/
theorem retries_agree_unless_cut_short {w w' : Scheduler} (empty : w.runs = [])
    (unknown : w.recorder.runs = []) (h : Relation.ReflTransGen Scheduler.Happens w w') {id : String}
    {result : RunResult} (hr : w'.result? id = some result) {summary : Trace.Summary}
    (summarized : w'.recorder.summarize id = some summary) (debug : summary.record.debug = true)
    {events : List Trace.Event} (traced : w'.recorder.trace id = some events) :
    ∃ p context cancelled s, (w'.run? id).map ScheduledRun.stage = some (.active p s) ∧
      Reaches .free p (start p context cancelled) s ∧
      summary.record.totals.retries = (events.filter Trace.Event.isRetry).length ∧
      result.retried.length ≤ summary.record.totals.retries ∧
      ((∀ r ∈ result.steps, ¬ PauseCut .free p (start p context cancelled) s r.stepId ∧
          ¬ StepPanicked .free p (start p context cancelled) s r.stepId) →
        summary.record.totals.retries = result.retried.length) ∧
      ∀ r ∈ result.steps,
        (1 ≤ r.attempts →
          r.attempts = (result.retried.filter fun x => x.stepId == r.stepId).length + 1) ∧
        (¬ StepPanicked .free p (start p context cancelled) s r.stepId →
          (events.filter fun e => e.stepId == some r.stepId && e.isRetry).length =
              (result.retried.filter fun x => x.stepId == r.stepId).length ∨
            (events.filter fun e => e.stepId == some r.stepId && e.isRetry).length =
                (result.retried.filter fun x => x.stepId == r.stepId).length + 1 ∧
              PauseCut .free p (start p context cancelled) s r.stepId) := by
  obtain ⟨r, p, s, found, active, ends⟩ := Scheduler.exists_active_of_result? hr
  have genuine := (Scheduler.genuine_of_happens empty h).runs r (List.mem_of_find?_eq_some found)
  rw [active] at genuine
  obtain ⟨program, context, scope, cancelled, ⟨-, clean⟩, plan, reached⟩ := genuine
  have hp : p.Sound := plan ▸ Plan.sound_make clean _ scope
  have discreet : p.Discreet := plan ▸ Plan.discreet_make _ _ program scope
  have policy : p.retry = .ofSettings w.executor.settings p.program.execution := by rw [plan]; rfl
  obtain ⟨finished, steps⟩ := isOver_of_result ends
  have retried := retried_of_result ends
  obtain ⟨counted, told⟩ :=
    (Scheduler.recorded_of_happens empty unknown h).trace_of_active found active summarized traced
  obtain ⟨events_sum, retried_sum⟩ := sums_of_over hp discreet policy reached finished
  have tallied := fun r mem =>
    tallied_of_result hp discreet policy reached (steps ▸ mem : r ∈ s.results)
  refine ⟨p, context, cancelled, s, by rw [found, Option.map_some, active], reached, ?_, ?_,
    fun undisturbed => ?_, fun x mem => ⟨fun made => ?_, fun calm => ?_⟩⟩
  · exact counted.trans (told debug fun e => LogEntry.isRetry ⟨0, e.1, e.2.1, e.2.2⟩).symm
  · rw [counted, ← events_sum, retried, ← retried_sum]
    exact sumOf_le_sumOf fun x mem => (tallied x (steps ▸ mem)).kept
  · rw [counted, ← events_sum, retried, ← retried_sum]
    refine sumOf_congr fun x mem => ?_
    obtain ⟨uncut, calm⟩ := undisturbed x (steps ▸ mem)
    exact (tallied x (steps ▸ mem)).agree uncut calm
  · rw [retried]
    exact (tallied x mem).attempts made
  · have same : (events.filter fun e => e.stepId == some x.stepId && e.isRetry).length =
        retriesOf x.stepId s := by
      unfold retriesOf entriesOf
      rw [List.filter_filter]
      refine (told debug fun e =>
        e.1 == some x.stepId && LogEntry.isRetry ⟨0, e.1, e.2.1, e.2.2⟩).trans ?_
      refine congrArg List.length (List.filter_congr fun e _ => Bool.and_comm ..)
    have kept := (tallied x mem).kept
    have excess := (tallied x mem).excess calm
    rw [same, retried]
    by_cases cut : PauseCut .free p (start p context cancelled) s x.stepId
    · unfold retriedOf at kept excess
      rcases Nat.lt_or_eq_of_le kept with more | same
      · exact .inr ⟨by omega, cut⟩
      · exact .inl same.symm
    · exact .inl ((tallied x mem).agree cut calm)

/-- A program with one call, which is tried again after a second; all its events are kept. -/
def Program.redial : Program where
  id := "redial"
  status := .published
  execution := { maxRetries := 1, retryBackoffMs := 1000 }
  tracking := { storeDebugInfo := true }
  steps := [{ id := "call" }]

theorem clean_redial :
    Program.redial.Clean Dispatcher.unanswered.registry Dispatcher.unanswered.evaluator :=
  .of_checks rfl (by decide +kernel) (by decide +kernel) (by decide +kernel)

namespace Scheduler

/-- What is awake goes on, while no time passes. -/
def drive (w : Scheduler) : Scheduler := (w.step? fun _ => false).getD w

theorem happens_drive (w : Scheduler) (n : ℕ) : Relation.ReflTransGen Happens w (drive^[n] w) := by
  have next : ∀ w : Scheduler, Relation.ReflTransGen Happens w w.drive := by
    intro w
    unfold drive
    cases step : w.step? fun _ => false with
    | none => exact .refl
    | some w' => exact .single (.step step)
  induction n generalizing w with
  | zero => exact .refl
  | succ n ih => exact (next w).trans (ih w.drive)

/-- A scheduler for calls that nobody answers. -/
def switchboard : Scheduler where
  executor := ⟨.unanswered, {}⟩
  epoch := ⟨0, 0⟩
  recorder := { maxRetained := 10 }

def caller : RunContext := { runId := "run", tenantId := "tenant", now := ⟨0, 0⟩ }

/-- The run is cancelled in the pause after the first call. -/
def hungUp : Scheduler :=
  drive^[12] ((drive^[12] (switchboard.submit "run" .redial caller)).cancel "run")

theorem happens_hungUp : Relation.ReflTransGen Happens switchboard hungUp :=
  (((Relation.ReflTransGen.single (.submit ..)).trans (happens_drive ..)).tail (.cancel _)).trans
    (happens_drive ..)

/-- The scheduler in which the run has begun. -/
def dialing : Scheduler :=
  let w := switchboard.submit "run" .redial caller
  let r : ScheduledRun := { id := "run", startedAt := 0, stage := .submitted .redial caller }
  let p := w.planOf r .redial caller
  let s : RunState := {
    control := .looking
    cancelled := false
    context := caller
    pending := p.graph.nodes
    log := [⟨0, none, none, .runStarted p.program.id p.program.version
      p.program.execution.strategy.name⟩] }
  (record { w with recorder := w.recorder.beginRun r.id "redial" 1 true true } r s.log).put
    { r with stage := .active p s, recorded := s.log.length }

theorem drive_submit : (switchboard.submit "run" .redial caller).drive = dialing := by
  let w := switchboard.submit "run" .redial caller
  let r : ScheduledRun := { id := "run", startedAt := 0, stage := .submitted .redial caller }
  have noDeadline : ∀ seconds ∈ Program.redial.execution.runDeadlineSeconds,
      w.clock.tells r.startedAt seconds = true := fun _ h => nomatch h
  have capable : ∀ step ∈ Program.redial.steps, step.trigger.type.isEntryCapable = true := by decide
  have sound : (w.planOf r .redial caller).Sound := Plan.sound_make clean_redial ..
  have unreachable := sound.unreachable_eq_nil fun step declared _ => capable step declared
  have begins : w.drive = w.beginRun r .redial caller := rfl
  rw [beginRun_eq (w := w) (by decide) clean_redial noDeadline, RunState.start,
    unreachable] at begins
  exact begins

theorem hungUp_eq : hungUp = drive^[12] ((drive^[11] dialing).cancel "run") := by
  have begun := Function.iterate_succ_apply drive 11 (switchboard.submit "run" .redial caller)
  rw [drive_submit] at begun
  exact congrArg (fun w => drive^[12] (Scheduler.cancel "run" w)) begun

/-- The call is made once and is not superseded, but it is counted as tried again. -/
theorem counts_of_hungUp :
    (hungUp.result? "run").map (fun r => (r.steps.map StepResult.attempts, r.retried.length)) =
        some ([1], 0) ∧
      (hungUp.recorder.summarize "run").map (fun x => (x.record.debug, x.record.totals.retries)) =
        some (true, 1) ∧
      (hungUp.recorder.trace "run").map (fun events =>
        (events.filter fun e => e.stepId == some "call" && e.isRetry).length) = some 1 := by
  rw [hungUp_eq]
  decide +kernel

/-- The run ends as a cancelled one. -/
theorem reason_of_hungUp :
    (hungUp.result? "run").map RunResult.failureReason = some (some .cancelled) := by
  rw [hungUp_eq]
  decide +kernel

end Scheduler

/-- The event tells of another attempt that is not made: neither is the first one superseded, nor is
there a second one. -/
theorem redial_is_counted_but_not_made : ∃ w w' result summary events,
    w.runs = [] ∧ w.recorder.runs = [] ∧ Relation.ReflTransGen Scheduler.Happens w w' ∧
    w'.result? "run" = some result ∧ w'.recorder.summarize "run" = some summary ∧
    summary.record.debug = true ∧ w'.recorder.trace "run" = some events ∧
    result.steps.map StepResult.attempts = [1] ∧ result.retried = [] ∧
    summary.record.totals.retries = 1 ∧
    (events.filter fun e => e.stepId == some "call" && e.isRetry).length = 1 := by
  obtain ⟨ends, counted, told⟩ := Scheduler.counts_of_hungUp
  obtain ⟨result, hr, results⟩ := Option.map_eq_some_iff.1 ends
  obtain ⟨summary, summarized, counts⟩ := Option.map_eq_some_iff.1 counted
  obtain ⟨events, traced, one⟩ := Option.map_eq_some_iff.1 told
  simp only [Prod.mk.injEq, List.length_eq_zero_iff] at results counts
  exact ⟨_, _, result, summary, events, rfl, rfl, Scheduler.happens_hungUp, hr, summarized, counts.1,
    traced, results.1, results.2, counts.2, one⟩

/-- The summary of the run in which the call is cut short counts the events of its trace. -/
theorem redial_summary_counts_trace : ∃ w w' result summary events,
    w.runs = [] ∧ w.recorder.runs = [] ∧ Relation.ReflTransGen Scheduler.Happens w w' ∧
    w'.result? "run" = some result ∧ w'.recorder.summarize "run" = some summary ∧
    summary.record.debug = true ∧ w'.recorder.trace "run" = some events ∧
    summary.record.totals.retries = (events.filter Trace.Event.isRetry).length ∧
    result.retried.length ≤ summary.record.totals.retries := by
  obtain ⟨ends, counted, told⟩ := Scheduler.counts_of_hungUp
  obtain ⟨result, hr, -⟩ := Option.map_eq_some_iff.1 ends
  obtain ⟨summary, summarized, counts⟩ := Option.map_eq_some_iff.1 counted
  obtain ⟨events, traced, -⟩ := Option.map_eq_some_iff.1 told
  have debug : summary.record.debug = true := congrArg Prod.fst counts
  obtain ⟨-, -, -, -, -, -, counted, kept, -⟩ :=
    retries_agree_unless_cut_short rfl rfl Scheduler.happens_hungUp hr summarized debug traced
  exact ⟨_, _, result, summary, events, rfl, rfl, Scheduler.happens_hungUp, hr, summarized, debug,
    traced, counted, kept⟩

end Playbook
