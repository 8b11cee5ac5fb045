import Mathlib.Data.Nat.Order.Lemmas
import Playbook.Proofs.Run.Cancellation
import Playbook.Proofs.Run.Provenance
import Playbook.Proofs.Run.Status

/-!
Why a run fails. A panic of a job goes before everything else, then comes a cancellation that some
step was not done at, and then the first failure that the run does not go on after. Whether that
failure counts as the deadline's is told when the run ends, by the clock and by the kind of the
failure, and not by the moment at which the step failed.
-/
namespace Playbook

/-- The result is a failure that the run does not go on after. -/
def Program.Blocking (program : Program) (r : StepResult) : Prop :=
  r.status = .failed ∧ ¬ ∃ step ∈ program.steps, step.id = r.stepId ∧ step.continueOnFailure = true

/-- The first failure among the results, in the order in which they came, that the run does not go
on after. -/
def Program.FirstBlocking (program : Program) (results : List StepResult) (r : StepResult) : Prop :=
  program.Blocking r ∧ ∃ before after, results = before ++ r :: after ∧
    ∀ x ∈ before, ¬ program.Blocking x

theorem Program.FirstBlocking.mem {program : Program} {results : List StepResult} {r : StepResult}
    (h : program.FirstBlocking results r) : r ∈ results := by
  obtain ⟨-, before, after, rfl, -⟩ := h
  exact List.mem_append_right _ List.mem_cons_self

namespace RunState

variable {p : Plan} {s t : RunState}

theorem blocking_iff {r : StepResult} :
    (r.isFailed && !p.tolerates r.stepId) = true ↔ p.program.Blocking r := by
  simp [StepResult.isFailed, Plan.tolerates, Program.Blocking]

theorem firstBlockingFailure_eq_some_iff {r : StepResult} :
    s.firstBlockingFailure p = some r ↔ p.program.FirstBlocking s.results r := by
  unfold firstBlockingFailure Program.FirstBlocking
  simp only [List.find?_eq_some_iff_append, Bool.not_eq_true', Bool.eq_false_iff, ne_eq,
    blocking_iff]

theorem firstBlockingFailure_eq_none_iff :
    s.firstBlockingFailure p = none ↔ ∀ r ∈ s.results, ¬ p.program.Blocking r := by
  unfold firstBlockingFailure
  simp only [List.find?_eq_none, blocking_iff]

/-- What the reason of a run that is over comes from. -/
inductive Because (p : Plan) (s : RunState) (result : RunResult) : Prop
  | fault {text : String} (fault : s.fault = some text)
      (reason : result.failureReason = some (.engineFault text))
  | cancelled (calm : s.fault = none) (reason : result.failureReason = some .cancelled)
  | completed (calm : s.fault = none) (unblocked : ∀ r ∈ result.steps, ¬ p.program.Blocking r)
      (reason : result.failureReason = none)
  | blocked {r : StepResult} (calm : s.fault = none)
      (first : p.program.FirstBlocking result.steps r)
      (reason : result.failureReason =
        some (if p.isPastDeadline result.elapsedMs && r.errorKind == some .timeout
          then .deadlineExceeded else .stepFailed r.stepId))

theorem Told.because (h : Told p s) {begun : Instant} {result : RunResult}
    (hr : s.result p begun = some result) :
    Because p s result ∧ (result.status = .completed ↔ result.failureReason = none) := by
  unfold RunState.result at hr
  split at hr
  · next status reason elapsed control =>
    cases hr
    obtain ⟨interrupted, -, told, hstatus⟩ := h.status status reason elapsed control
    refine ⟨?_, by cases reason <;> simp [hstatus]⟩
    unfold failureReason at told
    cases fault : s.fault with
    | some text =>
      rw [fault] at told
      exact .fault fault told
    | none =>
      simp only [fault] at told
      cases interrupted with
      | true => exact .cancelled fault told
      | false =>
        simp only [Bool.false_eq_true, if_false] at told
        cases first : s.firstBlockingFailure p with
        | none =>
          have unblocked := firstBlockingFailure_eq_none_iff.1 first
          refine .completed fault unblocked (told.trans ?_)
          exact congrArg (Option.map _) first
        | some r =>
          refine .blocked fault (firstBlockingFailure_eq_some_iff.1 first) (told.trans ?_)
          exact congrArg (Option.map _) first
  · cases hr

/-- The loop is about to end the run because it was cancelled, or has done so. -/
def Interrupted (s : RunState) : Prop :=
  match s.control with
  | .draining => True
  | .over _ reason _ => reason = some .cancelled
  | _ => False

theorem not_interrupted_close (p : Plan) (s : RunState) : ¬ (s.close p false).Interrupted := by
  change s.failureReason p false ≠ some .cancelled
  unfold failureReason
  cases s.fault with
  | some text => simp
  | none =>
    cases s.firstBlockingFailure p with
    | none => simp
    | some r =>
      simp only [Bool.false_eq_true, if_false, Option.map_some]
      split <;> simp

/-- The loop is left for a cancellation only while some step has no result and no scan goes on. -/
theorem interrupted_of_act (hp : p.Sound) (ho : Orderly p s) (m : Act p s t)
    (h : t.Interrupted) : s.Interrupted ∨
      s.cancelled = true ∧ s.ahead = [] ∧ ∃ id ∈ p.graph.nodes, s.isTerminal id = false := by
  cases m with
  | look =>
    unfold rescan Interrupted at h
    cases hc : s.cancelled <;> simp [hc] at h
  | scanned | pass | skip | expire | launch | again | takeIn => exact h.elim
  | leave control =>
    unfold RunState.leave at h
    split at h
    · next early =>
      simp only [Bool.and_eq_true, Bool.not_eq_true', Bool.and_eq_false_iff] at early
      obtain ⟨cut, unfinished⟩ := early
      refine .inr ⟨cut, by simp [ahead, control], ?_⟩
      rcases unfinished with pending | flight
      · obtain ⟨id, rest, hid⟩ := List.exists_cons_of_ne_nil (by simpa using pending)
        have mem : id ∈ s.pending := by simp [hid]
        exact ⟨id, ho.places.subset (List.mem_append_left _ mem), ho.isTerminal_of_pending hp mem⟩
      · have busy : s.flightIds ≠ [] := by
          rw [ne_eq, flightIds_eq_nil_iff]
          simpa using flight
        obtain ⟨id, rest, hid⟩ := List.exists_cons_of_ne_nil busy
        have mem : id ∈ s.flightIds := by simp [hid]
        exact ⟨id, ho.places.subset (List.mem_append_right _ (List.mem_append_left _ mem)),
          ho.isTerminal_of_flight hp mem⟩
    · exact absurd h (not_interrupted_close p s)
  | drain control | finish control => exact .inl (by simp [Interrupted, control])

theorem interrupted_of_move {o : Surroundings} (hp : p.Sound) (ho : Orderly p s) (m : Move o p s t)
    (h : t.Interrupted) : s.Interrupted ∨
      s.cancelled = true ∧ s.ahead = [] ∧ ∃ id ∈ p.graph.nodes, s.isTerminal id = false := by
  cases m with
  | act m => exact interrupted_of_act hp ho (act_of_act? m) h
  | poll m =>
    have same := (poll_of_poll? m).frame.control
    unfold Interrupted at h ⊢
    exact .inl (same ▸ h)
  | cancel | elapse => exact .inl h

theorem interrupted_of_result {begun : Instant} {result : RunResult}
    (hr : s.result p begun = some result) (reason : result.failureReason = some .cancelled) :
    s.Interrupted := by
  unfold RunState.result at hr
  unfold Interrupted
  split at hr
  · next control =>
    cases hr
    rw [control]
    exact reason
  · cases hr

theorem isSome_fault? {e : EndedJob} :
    e.fault?.isSome = true ↔ ∃ message, e.outcome = .panicked message := by
  unfold EndedJob.fault?
  split <;> simp_all

/-- A run comes to a fault by taking in a job that has panicked. -/
theorem exists_panicked_of_move {o : Surroundings} (m : Move o p s t) (calm : s.fault = none)
    (fault : t.fault.isSome) : ∃ e ∈ s.ended, ∃ message, e.outcome = .panicked message := by
  have kept : t.fault = s.fault → False := fun same => by simp [same, calm] at fault
  cases m with
  | act m =>
    rcases taken_of_act (act_of_act? m) with ⟨-, same⟩ | ⟨e, rest, ended, -, -, added⟩
    · exact (kept same).elim
    · rw [added, calm, Option.none_or] at fault
      exact ⟨e, by simp [ended], isSome_fault?.1 fault⟩
  | poll m => exact (kept (poll_of_poll? m).frame.fault).elim
  | cancel | elapse => exact (kept rfl).elim

end RunState

/-- In an execution of a run some job ends in a panic. -/
def Panics (σ : ℕ → RunState) : Prop :=
  ∃ k, ∃ e ∈ (σ k).ended, ∃ message, e.outcome = .panicked message

namespace Execution

variable {p : Plan} {σ : ℕ → RunState}

theorem later (h : Execution p σ) {k m : ℕ} (hkm : k ≤ m) : Reaches .free p (σ k) (σ m) := by
  obtain ⟨d, rfl⟩ := Nat.exists_eq_add_of_le hkm
  exact (h.drop k).reaches d

theorem panics_of_fault (h : Execution p σ) (calm : (σ 0).fault = none) {m : ℕ}
    (fault : (σ m).fault.isSome) : Panics σ := by
  obtain ⟨k, before, after⟩ := Nat.exists_not_and_succ_of_not_zero_of_exists
    (p := fun j => (σ j).fault.isSome = true) (by simp [calm]) ⟨m, fault⟩
  exact ⟨k, RunState.exists_panicked_of_move (h.move k) (by simpa using before) after⟩

/-- A run that was interrupted was cancelled while some step had no result, at a moment at which no
scan went on. -/
theorem exists_cut (h : Execution p σ) (hp : p.Sound) (orderly : ∀ n, (σ n).Orderly p)
    (going : ¬ (σ 0).Interrupted) {m : ℕ} (interrupted : (σ m).Interrupted) :
    ∃ k, (σ k).cancelled = true ∧ (σ k).ahead = [] ∧
      ∃ id ∈ p.graph.nodes, (σ k).isTerminal id = false := by
  obtain ⟨k, before, after⟩ := Nat.exists_not_and_succ_of_not_zero_of_exists
    (p := fun j => (σ j).Interrupted) going ⟨m, interrupted⟩
  exact ⟨k, (RunState.interrupted_of_move hp (orderly k) (h.move k) after).resolve_left before⟩

/-- A cancelled run has been so from its start, or was cancelled at some moment since. -/
theorem exists_cancellation (h : Execution p σ) {k : ℕ} (cut : (σ k).cancelled = true) :
    (σ 0).cancelled = true ∨
      ∃ j < k, (σ j).cancelled = false ∧ (σ (j + 1)).cancelled = true := by
  cases first : (σ 0).cancelled with
  | true => exact .inl rfl
  | false =>
    obtain ⟨j, before, after⟩ := Nat.exists_not_and_succ_of_not_zero_of_exists
      (p := fun j => (σ j).cancelled = true) (by simp [first]) ⟨k, cut⟩
    refine .inr ⟨j, Nat.lt_of_not_le fun hkj => ?_, by simpa using before, after⟩
    exact before ((h.later hkj).onward.cancelled cut)

section concluded

open RunState

variable {p : Plan} {context : RunContext} {cancelled : Bool} {σ : ℕ → RunState} {begun : Instant}
  {result : RunResult} {n : ℕ} (hp : p.Sound) (execution : Execution p σ)
  (first : σ 0 = start p context cancelled) (stays : ∀ m, n ≤ m → (σ m).result p begun = some result)

include hp execution first

theorem orderly_at (m : ℕ) : (σ m).Orderly p := .of_reaches hp (first ▸ execution.reaches m)

include stays

theorem because_at {m : ℕ} (hm : n ≤ m) : Because p (σ m) result :=
  ((Told.of_reaches hp (first ▸ execution.reaches m)).because (stays m hm)).1

theorem fault_iff_panics :
    (∃ text, result.failureReason = some (.engineFault text)) ↔ Panics σ := by
  constructor
  · rintro ⟨text, reason⟩
    cases because_at hp execution first stays (Nat.le_refl n) with
    | fault fault => exact execution.panics_of_fault (by simp [first]) (by rw [fault]; rfl)
    | cancelled _ other | completed _ _ other => simp [reason] at other
    | blocked _ _ other =>
      rw [reason] at other
      split at other <;> cases other
  · rintro ⟨k, e, ended, message, outcome⟩
    have finished := (isOver_of_result (stays _ (Nat.le_max_left n k))).1
    have noted := noted_of_reaches (orderly_at hp execution first _)
      (execution.later (Nat.le_max_right n k)) finished ended
    have fault := noted.fault (isSome_fault?.2 ⟨message, outcome⟩)
    cases because_at hp execution first stays (Nat.le_max_left n k) with
    | fault _ reason => exact ⟨_, reason⟩
    | cancelled calm | completed calm | blocked calm => simp [calm] at fault

/-- A run that is cancelled while some step has no result that the scan in progress does not come to
fails for it, unless a job panics. -/
theorem cancelled_of_cut (quiet : ¬ Panics σ) {k : ℕ} (cut : (σ k).cancelled = true) {id : String}
    (node : id ∈ p.graph.nodes) (fresh : (σ k).isTerminal id = false) (away : id ∉ (σ k).ahead) :
    result.failureReason = some .cancelled := by
  have stopping := stopping_of_fresh (orderly_at hp execution first k) node fresh away
  have stopped := stopping.reaches hp (first ▸ execution.reaches k) cut
    (execution.later (Nat.le_max_right n k))
  have reason := (stopped.result (stays _ (Nat.le_max_left n k))).2
  have calm : (σ (max n k)).fault = none := Option.not_isSome_iff_eq_none.1 fun fault =>
    quiet (execution.panics_of_fault (by simp [first]) fault)
  rwa [calm] at reason

theorem exists_cut_of_cancelled (reason : result.failureReason = some .cancelled) :
    ∃ k, (σ k).cancelled = true ∧ (σ k).ahead = [] ∧
      ∃ id ∈ p.graph.nodes, (σ k).isTerminal id = false :=
  execution.exists_cut hp (orderly_at hp execution first)
    (by simp [Interrupted, first])
    (interrupted_of_result (stays n (Nat.le_refl n)) reason)

/-- Where no cancellation falls into a scan, any step without a result counts. -/
theorem cancelled_of_apart (quiet : ¬ Panics σ)
    (apart : ∀ k, (σ k).cancelled = false → (σ (k + 1)).cancelled = true →
      (σ (k + 1)).ahead = []) {k : ℕ} (cut : (σ k).cancelled = true) {id : String}
    (node : id ∈ p.graph.nodes) (fresh : (σ k).isTerminal id = false) :
    result.failureReason = some .cancelled := by
  have earlier : ∀ j, j ≤ k → (σ j).isTerminal id = false := fun j hj =>
    Bool.eq_false_iff.2 fun terminal => by
      simp [isTerminal_of_isPrefix (execution.later hj).onward.results terminal] at fresh
  have stopped := fun {j : ℕ} => cancelled_of_cut hp execution first stays quiet (k := j)
  rcases execution.exists_cancellation cut with atOnce | ⟨j, hj, before, after⟩
  · exact stopped atOnce node (earlier 0 (Nat.zero_le k)) (by simp [ahead, first])
  · exact stopped after node (earlier (j + 1) hj) (by simp [apart j before after])

/-- What is left where no job panics and the run was not cancelled in time. -/
theorem completed_or_blocked (quiet : ¬ Panics σ)
    (uncut : result.failureReason ≠ some .cancelled) :
    (result.failureReason = none ↔ ∀ r ∈ result.steps, ¬ p.program.Blocking r) ∧
      ∀ id, result.failureReason = some (.stepFailed id) →
        ∃ r, p.program.FirstBlocking result.steps r ∧ r.stepId = id := by
  cases because_at hp execution first stays (Nat.le_refl n) with
  | fault _ reason =>
    exact absurd ((fault_iff_panics hp execution first stays).1 ⟨_, reason⟩) quiet
  | cancelled _ reason => exact absurd reason uncut
  | completed _ unblocked reason => exact ⟨iff_of_true reason unblocked, by simp [reason]⟩
  | @blocked r _ blocked reason =>
    refine ⟨iff_of_false (by simp [reason]) fun unblocked => ?_, fun id named => ?_⟩
    · exact unblocked r blocked.mem blocked.1
    · refine ⟨r, blocked, ?_⟩
      rw [reason] at named
      split at named <;> cases named
      rfl

end concluded

end Execution

open RunState in
/-- What a run comes to. It is completed when it has no reason to have failed. It has failed for a
fault of the engine exactly when a job has panicked. Otherwise it has failed because it was
cancelled, exactly when it was cancelled while some step had no result, other than a step that a scan which
was going on had yet to come to. And otherwise it is completed exactly when every failure is of a step
that it goes on after, and a reason that names a step names the first one that failed and is not of
this kind.

That every step without a result counts is stated for runs that are cancelled only where the loop
awaits, and a scan awaits nothing. The schedules that this leaves out are those in which the
cancellation falls into a scan: the scan still comes to the steps that are ahead of it and may give
each of them a result, so that such a run can have been cancelled while a step had no result and yet
not have failed for it. -/
theorem run_is_classified {d : Dispatcher} {program : Program}
    (clean : program.Clean d.registry d.evaluator) {settings : ExecutionSettings} {scope : RunScope}
    {p : Plan} (plan : p = Plan.make d settings program scope) {context : RunContext}
    {cancelled : Bool} {σ : ℕ → RunState} (execution : Execution p σ)
    (first : σ 0 = start p context cancelled) (begun : Instant) :
    ∃ result n, (∀ m, n ≤ m → (σ m).result p begun = some result) ∧
      (result.status = .completed ↔ result.failureReason = none) ∧
      ((∃ text, result.failureReason = some (.engineFault text)) ↔ Panics σ) ∧
      (¬ Panics σ →
        (result.failureReason = some .cancelled ↔
          ∃ k, (σ k).cancelled = true ∧ ∃ id ∈ program.steps.map Step.id,
            (σ k).isTerminal id = false ∧ id ∉ (σ k).ahead) ∧
        ((∀ k, (σ k).cancelled = false → (σ (k + 1)).cancelled = true →
            (σ (k + 1)).ahead = []) →
          (result.failureReason = some .cancelled ↔
            ∃ k, (σ k).cancelled = true ∧
              ∃ id ∈ program.steps.map Step.id, (σ k).isTerminal id = false)) ∧
        (result.failureReason ≠ some .cancelled →
          (result.status = .completed ↔ ∀ r ∈ result.steps, ¬ program.Blocking r) ∧
          ∀ id, result.failureReason = some (.stepFailed id) →
            ∃ r, program.FirstBlocking result.steps r ∧ r.stepId = id)) := by
  have hp : p.Sound := plan ▸ Plan.sound_make clean settings scope
  have program_eq : p.program = program := by rw [plan]; rfl
  subst program_eq
  obtain ⟨result, n, stays, -⟩ := hp.execution_ends .refl execution first begun
  have status := ((Told.of_reaches hp (first ▸ execution.reaches n)).because
    (stays n (Nat.le_refl n))).2
  refine ⟨result, n, stays, status, execution.fault_iff_panics hp first stays, fun quiet =>
    ⟨⟨fun reason => ?_, ?_⟩, fun apart => ⟨fun reason => ?_, ?_⟩, fun uncut => ?_⟩⟩
  · obtain ⟨k, cut, none, id, node, fresh⟩ := execution.exists_cut_of_cancelled hp first stays reason
    exact ⟨k, cut, id, hp.mem_nodes.1 node, fresh, by simp [none]⟩
  · rintro ⟨k, cut, id, hid, fresh, away⟩
    exact execution.cancelled_of_cut hp first stays quiet cut (hp.mem_nodes.2 hid) fresh away
  · obtain ⟨k, cut, -, id, node, fresh⟩ := execution.exists_cut_of_cancelled hp first stays reason
    exact ⟨k, cut, id, hp.mem_nodes.1 node, fresh⟩
  · rintro ⟨k, cut, id, hid, fresh⟩
    exact execution.cancelled_of_apart hp first stays quiet apart cut (hp.mem_nodes.2 hid) fresh
  · rw [status]
    exact execution.completed_or_blocked hp first stays quiet uncut

/-- The run whose task nobody does has failed for a fault of the engine. -/
theorem errand_is_faulted : ∃ context σ result n,
    Execution .errand σ ∧ σ 0 = RunState.start .errand context false ∧ Panics σ ∧
    (∀ m, n ≤ m → (σ m).result .errand ⟨0, 0⟩ = some result) ∧ result.status ≠ .completed ∧
    ∃ text, result.failureReason = some (.engineFault text) := by
  have facts : (Plan.errand.after 11).ended.any (fun e => e.fault?.isSome) = true := by
    simp only [Plan.after, RunState.start, unreachable_errand]
    decide +kernel
  obtain ⟨e, ended, fault⟩ := List.any_eq_true.1 facts
  have panics : Panics Plan.errand.after := ⟨11, e, ended, RunState.isSome_fault?.1 fault⟩
  have execution : Execution .errand Plan.errand.after := execution_drive .errand _
  have clean := clean_errand.withLimit .parallel (by decide : 0 < 2)
  obtain ⟨result, n, stays, status, faulted, -⟩ :=
    run_is_classified clean rfl execution rfl ⟨0, 0⟩
  obtain ⟨text, reason⟩ := faulted.2 panics
  exact ⟨_, _, result, n, execution, rfl, panics, stays, by simp [status, reason], text, reason⟩

end Playbook
