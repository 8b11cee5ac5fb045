import Playbook.Engine
import Playbook.Proofs.Run.Punctuality
import Playbook.Proofs.Run.Settling

/-!
What an engine shows of its runs. Whatever is done with an engine, its scheduler does no more than a
scheduler can, and it gives no id to a second run; so its table shows where the runs stand. A run that
has ended is shown as running where it broke off, and only there.
-/
namespace Playbook

namespace Scheduler

theorem evolves_runUntil (awaited : Scheduler → Bool) (early : Nat → Bool) (w : Scheduler) :
    Relation.ReflTransGen Evolves w (w.runUntil awaited early) :=
  reflTransGen_runUntil (fun _ _ => .step) awaited w

end Scheduler

namespace Engine

open Scheduler (Evolves)

/-- A run of a program starts under an id that is new. The program is given, or taken from the
catalog. -/
inductive Starts (e : Engine) (runId : String) (p : Program) (e' : Engine) : Prop
  | start (new : e.scheduler.run? runId = none) {q : RunRequest}
      (started : e.start runId p q = .ok e')
  | execute (new : e.scheduler.run? runId = none) {id : String} {version : Option Nat}
      {q : RunRequest} (resolved : e.resolve id version = .ok p)
      (started : e.execute runId id version q = .ok e')

/-- What can be done with an engine. -/
inductive Does (e : Engine) : Engine → Prop
  | register (p : Program) : Does e (e.register p).1
  | load (path : String) (entry : Option Entry) : Does e (e.load path entry).1
  | publish (id : String) (version : Nat) : Does e (e.publish id version).1
  | archive (id : String) (version : Nat) : Does e (e.archive id version).1
  | start {runId : String} {p : Program} {e' : Engine} (starts : e.Starts runId p e') : Does e e'
  | advance (ms : Nat) : Does e (e.advance ms)
  | join (runId : String) : Does e (e.join runId).1
  | joinFollowing (runId : String) (s : Trace.Subscription) : Does e (e.joinFollowing runId s).1
  | cancelHandle (runId : String) : Does e (e.cancelHandle runId)
  | cancel (runId : String) : Does e (e.cancel runId).1

variable {settings : Settings} {services : EngineServices} {epoch : Instant}
  {e e' e₀ e₁ e₂ : Engine} {runId : String} {p : Program}

theorem scheduler_registerAll (e : Engine) (programs : List Program) :
    (e.registerAll programs).1.scheduler = e.scheduler := by
  induction programs generalizing e with
  | nil => rfl
  | cons p rest ih =>
    have same : (e.register p).1.scheduler = e.scheduler := rfl
    unfold registerAll
    split
    · next registered =>
      rw [registered] at same
      exact (ih _).trans same
    · next registered =>
      rw [registered] at same
      exact same

theorem scheduler_load (e : Engine) (path : String) (entry : Option Entry) :
    (e.load path entry).1.scheduler = e.scheduler := by
  unfold load
  split
  · rfl
  · exact scheduler_registerAll e _

theorem scheduler_start {q : RunRequest} (h : e.start runId p q = .ok e') :
    ∃ context, e'.scheduler = e.scheduler.submit runId p context := by
  unfold start at h
  cases made : (RunContext.ofRequest runId q e.now).mapError Failure.ofRequest with
  | error f => simp [made, Bind.bind, Except.bind] at h
  | ok context =>
    simp only [made, Bind.bind, Except.bind, Except.ok.injEq] at h
    exact ⟨context, h ▸ rfl⟩

theorem Starts.submits (h : e.Starts runId p e') : e.scheduler.run? runId = none ∧
    ∃ context, e'.scheduler = e.scheduler.submit runId p context := by
  cases h with
  | start new started => exact ⟨new, scheduler_start started⟩
  | @execute new id version q resolved started =>
    have given : e.execute runId id version q = e.start runId p q := by
      unfold Engine.execute
      rw [resolved]
      rfl
    exact ⟨new, scheduler_start (given ▸ started)⟩

theorem evolves_of_does (h : e.Does e') :
    Relation.ReflTransGen Evolves e.scheduler e'.scheduler := by
  cases h with
  | register | publish | archive => exact .refl
  | load path entry => exact scheduler_load e path entry ▸ .refl
  | start starts =>
    obtain ⟨new, context, submitted⟩ := starts.submits
    exact submitted ▸ .single (.submit new _ context)
  | advance ms =>
    unfold advance
    split
    · exact .refl
    · exact (Scheduler.evolves_runUntil _ _ _).tail (.elapse _)
  | join runId => exact Scheduler.evolves_runUntil _ _ _
  | joinFollowing runId s =>
    exact Scheduler.reflTransGen_joinFollowing (fun _ _ => .step) runId s [] e.scheduler
  | cancelHandle runId => exact .single (.cancel runId)
  | cancel runId =>
    unfold cancel
    split
    · exact .single (.cancel runId)
    · exact .refl

theorem evolves_of_history (h : Relation.ReflTransGen Does e e') :
    Relation.ReflTransGen Evolves e.scheduler e'.scheduler := by
  induction h with
  | refl => exact .refl
  | tail _ does ih => exact ih.trans (evolves_of_does does)

theorem create_empty (h : create settings services epoch = .ok e) :
    e.scheduler.runs = [] ∧ e.scheduler.table = {} := by
  unfold create at h
  cases checked : settings.check.mapError Failure.ofSettings with
  | error f => simp [checked, Bind.bind, Except.bind] at h
  | ok =>
    simp only [checked, Bind.bind, Except.bind, Except.ok.injEq] at h
    subst h
    exact ⟨rfl, rfl⟩

/-- The table of an engine shows where its runs stand. -/
theorem tabled_of_history (created : create settings services epoch = .ok e₀)
    (history : Relation.ReflTransGen Does e₀ e) : e.scheduler.Tabled := by
  obtain ⟨runs, table⟩ := create_empty created
  exact Scheduler.tabled_of_evolves runs table (evolves_of_history history)

/-- A run that was started is one of the program that it was started for. -/
theorem Starts.runs (starts : e₁.Starts runId p e₂) (later : Relation.ReflTransGen Does e₂ e) :
    e₁.scheduler.Runs p runId e.scheduler := by
  obtain ⟨new, context, submitted⟩ := starts.submits
  refine Scheduler.runs_of_evolves ?_ (evolves_of_history later)
  rw [submitted]
  exact Scheduler.runs_submit new p context

theorem cancel_of_running (running : e.phase? runId = some .running) :
    e.cancel runId = (e.cancelHandle runId, true) := by
  unfold cancel
  rw [running]

theorem cancel_of_not_running (settled : e.phase? runId ≠ some .running) :
    e.cancel runId = (e, false) := by
  unfold cancel
  split
  · next running => exact absurd running settled
  · rfl

/-- Once a run that was started has ended, it is shown as running only where it broke off, since its
program may run and the clock cannot tell its deadline; and only then it can be cancelled. Any other
run is finished, rejected or no longer shown, and to cancel it does nothing. -/
theorem running_at_end_iff_breaks_off (created : create settings services epoch = .ok e₀)
    (past : Relation.ReflTransGen Does e₀ e₁) (starts : e₁.Starts runId p e₂)
    (later : Relation.ReflTransGen Does e₂ e) (ended : e.scheduler.hasEnded runId = true) :
    (e.phase? runId = some .running ↔ e₁.scheduler.BreaksOff p) ∧
    ((e.cancel runId).2 = true ↔ e₁.scheduler.BreaksOff p) ∧
    (¬ e₁.scheduler.BreaksOff p → e.cancel runId = (e, false) ∧
      (e.phase? runId = none ∨ (∃ result, e.phase? runId = some (.finished result)) ∨
        ∃ message, e.phase? runId = some (.rejected message))) := by
  have tabled := tabled_of_history created (past.trans (.head (.start starts) later))
  have shown : e.phase? runId = some .running ↔ e₁.scheduler.BreaksOff p :=
    tabled.shown_running_iff (starts.runs later) ended
  refine ⟨shown, ?_, fun whole => ⟨?_, ?_⟩⟩
  · rw [← shown]
    by_cases running : e.phase? runId = some .running
    · simp [cancel_of_running running, running]
    · simp [cancel_of_not_running running, running]
  · exact cancel_of_not_running fun running => whole (shown.1 running)
  · cases phase : e.phase? runId with
    | none => exact .inl rfl
    | some stands =>
      cases stands with
      | running => exact absurd (shown.1 phase) whole
      | finished result => exact .inr (.inl ⟨result, rfl⟩)
      | rejected message => exact .inr (.inr ⟨message, rfl⟩)

/-- Services with the handlers for messages. -/
def plainServices : EngineServices := { registry := some Dispatcher.plain.registry }

theorem hasEnded_join (created : create settings services epoch = .ok e₀)
    (starts : e₀.Starts runId p e₂) :
    (e₂.join runId).1.scheduler.hasEnded runId = true := by
  obtain ⟨-, context, submitted⟩ := starts.submits
  have passes : Relation.ReflTransGen Scheduler.Passes e₀.scheduler e₂.scheduler :=
    submitted ▸ .single (.submit runId p context)
  exact Scheduler.hasEnded_join (create_empty created).1 passes runId

theorem fork_is_settled : ∃ e₀ e₂, create {} plainServices ⟨0, 0⟩ = .ok e₀ ∧
    e₀.Starts "run" .fork e₂ ∧
    let e := (e₂.join "run").1
    e.scheduler.hasEnded "run" = true ∧ e.phase? "run" ≠ some .running ∧
      e.cancel "run" = (e, false) := by
  obtain ⟨e₀, e₂, created, starts⟩ : ∃ e₀ e₂, create {} plainServices ⟨0, 0⟩ = .ok e₀ ∧
      e₀.Starts "run" .fork e₂ :=
    ⟨_, _, rfl, .start (q := { tenantId := "tenant" }) rfl rfl⟩
  have ended := hasEnded_join created starts
  obtain ⟨shown, -, settled⟩ :=
    running_at_end_iff_breaks_off created .refl starts (.single (.join "run")) ended
  have whole : ¬ e₀.scheduler.BreaksOff .fork := by
    rintro ⟨-, seconds, deadline, -⟩
    cases deadline
  exact ⟨e₀, e₂, created, starts, ended, fun running => whole (shown.1 running), (settled whole).1⟩

/-- A program with one step, and all the time in the world. -/
def unhurried : Program where
  id := "letters"
  steps := [{ id := "call" }]
  execution := { runDeadlineSeconds := some (2 ^ 64 - 1) }

/-- The run of a program that may run ends at once, since the clock cannot tell its deadline. It is
shown as running for good, and can be cancelled. -/
theorem unhurried_is_running_at_end : ∃ e₀ e₂, create {} plainServices ⟨0, 0⟩ = .ok e₀ ∧
    e₀.Starts "run" unhurried e₂ ∧
    (unhurried.execution.runDeadlineSeconds = some (2 ^ 64 - 1) ∧
      (e₀.validate unhurried).filter Issue.blocksExecution = []) ∧
    let e := (e₂.join "run").1
    e.scheduler.hasEnded "run" = true ∧ e.phase? "run" = some .running ∧
      (e.cancel "run").2 = true := by
  have facts : ∃ e₀ e₂, create {} plainServices ⟨0, 0⟩ = .ok e₀ ∧
      e₀.Starts "run" unhurried e₂ ∧ e₀.scheduler.clock.tells e₀.scheduler.now (2 ^ 64 - 1) = false ∧
      unhurried.Clean
        e₀.scheduler.executor.dispatcher.registry e₀.scheduler.executor.dispatcher.evaluator := by
    refine ⟨_, _, rfl, .start (q := { tenantId := "tenant" }) rfl rfl, by decide, ?_⟩
    exact .of_checks rfl (by decide +kernel) (by decide +kernel) (by decide +kernel)
  obtain ⟨e₀, e₂, created, starts, beyond, clean⟩ := facts
  have ended := hasEnded_join created starts
  have breaks : e₀.scheduler.BreaksOff unhurried :=
    ⟨permit_eq_ok.2 ⟨by decide, clean⟩, _, rfl, beyond⟩
  have tabled := tabled_of_history created (.head (.start starts) (.single (.join "run")))
  have running : (e₂.join "run").1.phase? "run" = some .running :=
    (tabled.shown_running_iff (starts.runs (.single (.join "run"))) ended).2 breaks
  refine ⟨e₀, e₂, created, starts, ⟨rfl, ?_⟩, ended, running, ?_⟩
  · exact List.filter_eq_nil_iff.2 fun i issue => by simpa using clean i issue
  · rw [cancel_of_running running]

end Engine
end Playbook
