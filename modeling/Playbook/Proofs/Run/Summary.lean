import Playbook.Proofs.Run.Accounting
import Playbook.Proofs.Run.Layout
import Playbook.Proofs.Run.Variables

/-!
What is counted of a run agrees with what comes of it. The recorder counts the events one by one; the
run notes the results of its steps. Each result has one event that tells of its verdict, and no other
event does, so the totals are those of the results, whichever way the run has ended.
-/
namespace Playbook

open Trace (EventKind)

/-- How often each of some labels stands: under each label the number of times, in ascending order of
the labels. -/
structure Histogram (labels : List String) (counts : List (String × Nat)) : Prop where
  ascending : Keyed.Ascending counts
  entry : ∀ label n, (label, n) ∈ counts ↔ n = labels.count label ∧ 0 < n

namespace Histogram

variable {labels : List String} {counts : List (String × Nat)}

theorem nil : Histogram [] [] :=
  ⟨.nil, fun label n => by simp⟩

theorem get? (h : Histogram labels counts) (label : String) :
    (Keyed.get? label counts).getD 0 = labels.count label := by
  cases found : Keyed.get? label counts with
  | some n => exact ((h.entry label n).1 ((Keyed.mem_iff_get? h.ascending).2 found)).1
  | none =>
    by_contra some
    have mem := (h.entry label _).2 ⟨rfl, Nat.pos_of_ne_zero (Ne.symm some)⟩
    rw [Keyed.mem_iff_get? h.ascending, found] at mem
    cases mem

/-- One label more is counted. -/
theorem concat (h : Histogram labels counts) (label : String) :
    Histogram (labels ++ [label]) (Trace.count label 1 counts) := by
  have ascending : Keyed.Ascending (Trace.count label 1 counts) := h.ascending.put
  refine ⟨ascending, fun other n => ?_⟩
  rw [Keyed.mem_iff_get? ascending, List.count_append]
  unfold Trace.count
  by_cases same : other = label
  · subst same
    rw [Keyed.get?_put_self, h.get?, List.count_singleton_self, Option.some.injEq]
    omega
  · have absent : [label].count other = 0 := List.count_eq_zero.2 (by simpa using same)
    rw [Keyed.get?_put_of_ne same, absent, ← Keyed.mem_iff_get? h.ascending, h.entry, Nat.add_zero]

theorem perm (h : Histogram labels counts) {others : List String} (same : labels.Perm others) :
    Histogram others counts :=
  ⟨h.ascending, fun label n => by rw [h.entry, same.count_eq]⟩

end Histogram

/-- The totals are those of some verdicts. -/
structure Trace.Totals.Counts (t : Totals) (verdicts : List (StepStatus × String)) : Prop where
  completed : t.completed = verdicts.countP fun v => v.1 == .completed
  skipped : t.skipped = verdicts.countP fun v => v.1 == .skipped
  failed : t.failed = verdicts.countP fun v => v.1 == .failed
  branches : Histogram (verdicts.map Prod.snd) t.branches

namespace Trace.Totals.Counts

variable {t : Totals} {verdicts : List (StepStatus × String)}

theorem nil : Counts {} [] := ⟨rfl, rfl, rfl, .nil⟩

/-- An event counts for the verdict that it tells of. -/
theorem observe (h : t.Counts verdicts) (stepId : Option String) (kind : EventKind) :
    (t.observe stepId kind).Counts (verdicts ++ kind.verdict?.toList) := by
  obtain ⟨completed, skipped, failed, branches⟩ := h
  have counted := branches.concat
  cases kind <;> constructor <;>
    simp_all [Totals.observe, EventKind.verdict?, List.countP_append]

theorem perm (h : t.Counts verdicts) {others : List (StepStatus × String)}
    (same : verdicts.Perm others) : t.Counts others where
  completed := h.completed.trans (same.countP_eq _)
  skipped := h.skipped.trans (same.countP_eq _)
  failed := h.failed.trans (same.countP_eq _)
  branches := h.branches.perm (same.map _)

end Trace.Totals.Counts

namespace ScheduledRun

theorem totals_observe (record : Trace.RunRecord) (e : Trace.Event) :
    (record.observe e).totals = record.totals.observe e.stepId e.kind := by
  unfold Trace.RunRecord.observe
  cases e.kind <;> rfl

/-- The totals of a record are those of the verdicts that its log tells of. -/
theorem counts_replay (epoch : Instant) (r : ScheduledRun) (log : List LogEntry)
    {record : Trace.RunRecord} {verdicts : List (StepStatus × String)}
    (h : record.totals.Counts verdicts) : (r.replay epoch log record).totals.Counts
      (verdicts ++ log.filterMap fun e => e.kind.verdict?) := by
  induction log generalizing record verdicts with
  | nil => simpa [replay] using h
  | cons e rest ih =>
    have observed : (record.observe (r.event epoch record.nextSequence e)).totals.Counts
        (verdicts ++ e.kind.verdict?.toList) := by
      rw [totals_observe]
      exact h.observe e.stepId e.kind
    have told : verdicts ++ (e :: rest).filterMap (fun e => e.kind.verdict?) =
        verdicts ++ e.kind.verdict?.toList ++ rest.filterMap fun e => e.kind.verdict? := by
      cases verdict : e.kind.verdict? <;> simp [verdict]
    rw [told]
    exact ih observed

/-- A record tells how the run has ended whose log closes with its end. -/
theorem outcome_replay (epoch : Instant) (r : ScheduledRun) (record : Trace.RunRecord)
    (log : List LogEntry) (status : RunStatus) (reason : Option FailureReason) (elapsedMs : Nat) :
    let closed := r.replay epoch
      (log ++ RunState.endEntries (.over status reason elapsedMs)) record
    closed.status = some status ∧ closed.failureReason = reason ∧
      closed.elapsedMs = some elapsedMs := by
  rw [replay_append]
  exact ⟨rfl, rfl, rfl⟩

end ScheduledRun

namespace RunState

theorem result_eq {p : Plan} {s : RunState} {begun : Instant} {result : RunResult}
    (h : s.result p begun = some result) :
    s.control = .over result.status result.failureReason result.elapsedMs := by
  unfold RunState.result at h
  split at h
  · next control =>
    cases h
    exact control
  · cases h

section reached

variable {o : Surroundings} {p : Plan} {context : RunContext} {cancelled : Bool} {s : RunState}
  (hp : p.Sound) (discreet : p.Discreet) {settings : ExecutionSettings}
  (policy : p.retry = .ofSettings settings p.program.execution)
  (reached : Reaches o p (start p context cancelled) s)

include hp reached in
/-- Every step has a result in the end, and each is completed, skipped or failed. -/
theorem countP_status_of_over (finished : s.isOver = true) :
    (s.results.countP fun r => r.status == .completed) +
        (s.results.countP fun r => r.status == .skipped) +
        (s.results.countP fun r => r.status == .failed) = p.program.steps.length := by
  have ho := Orderly.of_reaches hp reached
  have sum : ∀ rs : List StepResult, (∀ r ∈ rs, r.status ≠ .retried) →
      (rs.countP fun r => r.status == .completed) + (rs.countP fun r => r.status == .skipped) +
        (rs.countP fun r => r.status == .failed) = rs.length := by
    intro rs final
    induction rs with
    | nil => rfl
    | cons r rest ih =>
      have others := ih fun r mem => final r (List.mem_cons_of_mem _ mem)
      have own := final r List.mem_cons_self
      simp only [List.countP_cons, List.length_cons]
      cases status : r.status with
      | retried => exact absurd status own
      | completed | skipped | failed => simp +arith [← others]
  have ids := ((ho.resultIds_perm finished).trans hp.nodes_perm).length_eq
  rw [resultIds, List.length_map, List.length_map] at ids
  exact (sum s.results ho.accounted.unretried).trans ids

include hp discreet policy reached in
/-- The log tells of the verdict of each result once, and of no other. -/
theorem verdicts_perm :
    (s.log.filterMap fun e => e.kind.verdict?).Perm (s.results.map StepResult.verdict) := by
  refine List.perm_iff_count.2 fun v => ?_
  have same := length_filter_verdict hp discreet policy reached (· == v)
  rw [← List.countP_eq_length_filter, ← List.countP_eq_length_filter] at same
  rw [List.count_eq_countP, List.count_eq_countP, List.countP_filterMap, List.countP_map]
  refine (List.countP_congr fun e _ => ?_).trans same
  cases e.kind.verdict? <;> simp

end reached
end RunState

open RunState in
/-- Whatever happens to a scheduler, the summary of a run that is over, if its record is still kept,
agrees with its result: so many steps are completed, skipped and failed as there are results of that
status, and together they are the steps of the program; under each branch stands the number of
results whose trigger took it; and the status, the reason and the duration are those of the result,
whether the run went through, was cancelled or broke off with a fault. -/
theorem summary_agrees_with_result {w w' : Scheduler} (empty : w.runs = [])
    (unknown : w.recorder.runs = []) (h : Relation.ReflTransGen Scheduler.Happens w w') {id : String}
    {result : RunResult} (hr : w'.result? id = some result) {summary : Trace.Summary}
    (summarized : w'.recorder.summarize id = some summary) :
    ∃ p s, (w'.run? id).map ScheduledRun.stage = some (.active p s) ∧
      summary.stepCount = p.program.steps.length ∧
      summary.record.totals.completed =
        (result.steps.filter fun r => r.status == .completed).length ∧
      summary.record.totals.skipped =
        (result.steps.filter fun r => r.status == .skipped).length ∧
      summary.record.totals.failed = (result.steps.filter fun r => r.status == .failed).length ∧
      Histogram (result.steps.map fun r => r.trigger.branch) summary.record.totals.branches ∧
      summary.record.status = some result.status ∧
      summary.record.failureReason = result.failureReason ∧
      summary.record.elapsedMs = some result.elapsedMs := by
  obtain ⟨r, p, s, context, cancelled, found, active, ends, reached, program, scope, clean, plan⟩ :=
    Scheduler.exists_plan_of_result? empty h hr
  have hp : p.Sound := plan ▸ Plan.sound_make clean _ scope
  have discreet : p.Discreet := plan ▸ Plan.discreet_make _ _ program scope
  have policy : p.retry = .ofSettings w.executor.settings p.program.execution := by rw [plan]; rfl
  obtain ⟨finished, steps⟩ := isOver_of_result ends
  obtain ⟨record, recorded, rfl⟩ := Option.map_eq_some_iff.1 summarized
  obtain ⟨debug, rfl⟩ :=
    (Scheduler.recorded_of_happens empty unknown h).exists_replay found active recorded
  have fresh : ({ programId := p.program.id, version := p.program.version, debug } :
      Trace.RunRecord).totals.Counts [] := .nil
  have counts := (ScheduledRun.counts_replay w'.epoch r s.log fresh).perm
    (verdicts_perm hp discreet policy reached)
  obtain ⟨inner, log, -⟩ := framed_of_reaches hp discreet policy reached
  rw [result_eq ends, ← List.cons_append] at log
  have outcome := ScheduledRun.outcome_replay w'.epoch r
    { programId := p.program.id, version := p.program.version, debug } (startEntry p :: inner)
    result.status result.failureReason result.elapsedMs
  rw [← log] at outcome
  have counted : ∀ status : StepStatus,
      (s.results.map StepResult.verdict).countP (fun v => v.1 == status) =
        s.results.countP fun r => r.status == status := fun status => List.countP_map ..
  have completed := counts.completed.trans (counted _)
  have skipped := counts.skipped.trans (counted _)
  have failed := counts.failed.trans (counted _)
  refine ⟨p, s, by rw [found, Option.map_some, active], ?_, ?_, ?_, ?_, ?_, outcome⟩
  · have all := countP_status_of_over hp reached finished
    rw [← completed, ← skipped, ← failed] at all
    exact all
  · rw [completed, steps, List.countP_eq_length_filter]
  · rw [skipped, steps, List.countP_eq_length_filter]
  · rw [failed, steps, List.countP_eq_length_filter]
  · have branches := counts.branches
    rw [List.map_map] at branches
    exact steps ▸ branches

/-- The summary of a run that is cancelled in the pause between two calls tells so, and counts the one
call. -/
theorem redial_summary_agrees_with_result : ∃ w w' result summary,
    w.runs = [] ∧ w.recorder.runs = [] ∧ Relation.ReflTransGen Scheduler.Happens w w' ∧
    w'.result? "run" = some result ∧ w'.recorder.summarize "run" = some summary ∧
    result.steps.length = 1 ∧ summary.record.failureReason = some .cancelled ∧
    summary.record.totals.failed = (result.steps.filter fun r => r.status == .failed).length := by
  obtain ⟨ends, counted, -⟩ := Scheduler.counts_of_hungUp
  obtain ⟨result, hr, results⟩ := Option.map_eq_some_iff.1 ends
  obtain ⟨summary, summarized, -⟩ := Option.map_eq_some_iff.1 counted
  have reason := Scheduler.reason_of_hungUp
  rw [hr, Option.map_some, Option.some.injEq] at reason
  have once : result.steps.length = 1 := by
    simpa using congrArg (fun x => x.1.length) results
  obtain ⟨-, -, -, -, -, -, failed, -, -, same, -⟩ :=
    summary_agrees_with_result rfl rfl Scheduler.happens_hungUp hr summarized
  exact ⟨_, _, result, summary, rfl, rfl, Scheduler.happens_hungUp, hr, summarized, once,
    same.trans reason, failed⟩

end Playbook
