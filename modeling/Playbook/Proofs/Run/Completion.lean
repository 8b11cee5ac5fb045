import Playbook.Proofs.Run.Termination
import Playbook.Run.Scheduler

/-!
A run that is begun for a program that may run comes to its result.
-/
namespace Playbook

namespace Scheduler

theorem stage_put {w : Scheduler} {r r' : ScheduledRun} (found : w.run? r.id = some r)
    (same : r'.id = r.id) : ((w.put r').run? r.id).map ScheduledRun.stage = some r'.stage := by
  rw [← same] at found ⊢
  unfold run? put
  rw [First.find?_replace found (by simp [isRun]), Option.map_some]

/-- The plan of a run that is begun. -/
def planOf (w : Scheduler) (r : ScheduledRun) (program : Program) (context : RunContext) : Plan :=
  Plan.make w.executor.dispatcher w.executor.settings program {
    runId := r.id
    tenantId := context.tenantId
    userId := context.userId
    events := context.events
    now := context.now
    personality := program.personality }

/-- What becomes of the scheduler when a run begins that may do so. -/
theorem beginRun_eq {w : Scheduler} {program : Program} (live : program.status ≠ .archived)
    (clean : program.Clean w.executor.dispatcher.registry w.executor.dispatcher.evaluator)
    {r : ScheduledRun} (deadline : ∀ seconds ∈ program.execution.runDeadlineSeconds,
      w.clock.tells r.startedAt seconds = true) (context : RunContext) :
    w.beginRun r program context =
      let s := RunState.start (w.planOf r program context) context r.cancelled
      (record { w with
        recorder := w.recorder.beginRun r.id program.id program.version
          program.tracking.enableTracking (program.tracking.storeDebugInfo || context.debugMode) }
        r s.log).put
          { r with stage := .active (w.planOf r program context) s, recorded := s.log.length } := by
  have inTime :
      program.execution.runDeadlineSeconds.any (!w.clock.tells r.startedAt ·) = false := by
    cases hd : program.execution.runDeadlineSeconds with
    | none => rfl
    | some seconds => simpa using deadline seconds (by simp [hd])
  unfold beginRun
  simp only [permit_eq_ok.2 ⟨live, clean⟩, inTime, Bool.false_eq_true, if_false]
  rfl

/-- A run that may begin goes on from the start of its plan. -/
theorem stage_beginRun {w : Scheduler} {r : ScheduledRun} {program : Program} {context : RunContext}
    (found : w.run? r.id = some r) (live : program.status ≠ .archived)
    (clean : program.Clean w.executor.dispatcher.registry w.executor.dispatcher.evaluator)
    (deadline : ∀ seconds ∈ program.execution.runDeadlineSeconds,
      w.clock.tells r.startedAt seconds = true) :
    ((w.beginRun r program context).run? r.id).map ScheduledRun.stage =
      some (.active (w.planOf r program context)
        (RunState.start (w.planOf r program context) context r.cancelled)) := by
  rw [beginRun_eq live clean deadline]
  exact stage_put found rfl

/-- A run of a program that is not archived and has no blocking issue begins, and wherever it has
come to, undisturbed or cancelled at any moments, it is executed to its end: there is an execution
from there, and every execution comes to a result for good, with one entry for each step of the
program, which is completed, skipped or failed. -/
theorem beginRun_ends_with_each_step_once {w : Scheduler} {r : ScheduledRun} {program : Program}
    {context : RunContext} (found : w.run? r.id = some r) (live : program.status ≠ .archived)
    (clean : program.Clean w.executor.dispatcher.registry w.executor.dispatcher.evaluator)
    (deadline : ∀ seconds ∈ program.execution.runDeadlineSeconds,
      w.clock.tells r.startedAt seconds = true) :
    ∃ p s₀,
      ((w.beginRun r program context).run? r.id).map ScheduledRun.stage = some (.active p s₀) ∧
      ∀ s, Reaches .free p s₀ s → (∃ σ, Execution p σ ∧ σ 0 = s) ∧
        ∀ σ, Execution p σ → σ 0 = s → ∀ start, ∃ result n,
          (∀ m, n ≤ m → (σ m).result p start = some result) ∧
          (result.steps.map StepResult.stepId).Perm (program.steps.map Step.id) ∧
          ∀ x ∈ result.steps, x.status = .completed ∨ x.status = .skipped ∨ x.status = .failed := by
  refine ⟨_, _, stage_beginRun found live clean deadline, fun s reached => ⟨?_, ?_⟩⟩
  · exact ⟨_, execution_drive _ s, rfl⟩
  · exact fun σ execution first start =>
      (Plan.sound_make clean _ _).execution_ends reached execution first start

/-- A scheduler to which a run of the forked program was submitted. -/
def forked (context : RunContext) : Scheduler :=
  let w : Scheduler := {
    executor := ⟨.plain, {}⟩, epoch := ⟨0, 0⟩, recorder := { maxRetained := 10 } }
  w.submit "run" .fork context

theorem forked_ends : ∃ context r p s₀, (forked context).run? r.id = some r ∧
    (((forked context).beginRun r .fork context).run? r.id).map ScheduledRun.stage =
      some (.active p s₀) ∧
    ∃ σ, Execution p σ ∧ σ 0 = s₀ ∧ ∃ result n, (σ n).result p ⟨0, 0⟩ = some result ∧
      (result.steps.map StepResult.stepId).Perm ["ask", "mail", "call", "stray"] := by
  let context : RunContext := { runId := "run", tenantId := "tenant", now := ⟨0, 0⟩ }
  obtain ⟨r, found⟩ : ∃ r, (forked context).run? "run" = some r := ⟨_, rfl⟩
  have noDeadline : ∀ seconds ∈ Program.fork.execution.runDeadlineSeconds,
      (forked context).clock.tells r.startedAt seconds = true := fun _ h => nomatch h
  rw [← run?_id found] at found
  obtain ⟨p, s₀, active, ends⟩ := beginRun_ends_with_each_step_once found (by decide) clean_fork
    noDeadline
  obtain ⟨⟨σ, execution, first⟩, comes⟩ := ends s₀ .refl
  obtain ⟨result, n, stays, steps, -⟩ := comes σ execution first ⟨0, 0⟩
  exact ⟨context, r, p, s₀, found, active, σ, execution, first, result, n, stays n (Nat.le_refl n),
    steps⟩

end Scheduler
end Playbook
