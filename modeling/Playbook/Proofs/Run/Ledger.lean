import Mathlib.Data.List.Nodup
import Playbook.Proofs.Run.Attempts
import Playbook.Proofs.Run.Move
import Playbook.Proofs.Run.Readiness
import Playbook.Run.Weight

/-!
Where the steps of a run stand. Each step is in exactly one place: it is pending, in flight, or has
its result; and each result came about in one of five ways, which the results before it tell. Every
move keeps both.
-/
namespace Playbook

open Json (Value)

/-- The result that is noted for a job that has ended. -/
def EndedJob.result (now : Nat) (e : EndedJob) : StepResult :=
  match e.outcome with
  | .finished r _ => r
  | .panicked message =>
    (StepResult.failed e.stepId 1 (.handler s!"step '{e.stepId}' panicked: {message}")
      .unevaluated).between now now

/-- The results of the attempts of a job that were followed by another one. -/
def EndedJob.superseded (e : EndedJob) : List StepResult :=
  match e.outcome with
  | .finished _ superseded => superseded
  | .panicked _ => []

theorem EndedJob.ofStep_result {e : EndedJob} (now : Nat)
    (h : Job.EndsWith (Job.OfStep e.stepId) e.outcome) :
    (e.result now).stepId = e.stepId ∧ 1 ≤ (e.result now).attempts ∧
      (e.result now).status ≠ .retried := by
  unfold EndedJob.result
  split
  · next ho =>
    rw [ho] at h
    obtain ⟨n, hn, hr⟩ := h
    exact ⟨hr.step, hr.attempts ▸ hn, hr.status⟩
  · exact ⟨rfl, Nat.le_refl 1, StepStatus.noConfusion⟩

namespace RunState

theorem results_takeIn (e : EndedJob) (rest : List EndedJob) (s : RunState) :
    (s.takeIn e rest).results = s.results ++ [e.result s.now] := by
  obtain ⟨stepId, outcome⟩ := e
  cases outcome <;> rfl

theorem retried_takeIn (e : EndedJob) (rest : List EndedJob) (s : RunState) :
    (s.takeIn e rest).retried = s.retried ++ e.superseded := by
  obtain ⟨stepId, outcome⟩ := e
  cases outcome with
  | finished r superseded => rfl
  | panicked message => exact (List.append_nil _).symm

theorem isTerminal_concat {s t : RunState} {r : StepResult} (results : t.results = s.results ++ [r])
    {id : String} : t.isTerminal id = false ↔ s.isTerminal id = false ∧ id ≠ r.stepId := by
  have ids : t.resultIds = s.resultIds ++ [r.stepId] := by simp [resultIds, results]
  rw [← Bool.not_eq_true, ← Bool.not_eq_true, isTerminal_iff, isTerminal_iff, ids]
  simp

/-- The steps in flight: those of the jobs, and those of the jobs that are not taken in yet. -/
def flightIds (s : RunState) : List String :=
  s.jobs.map (fun j => j.step.id) ++ s.ended.map EndedJob.stepId

theorem flightIds_eq_nil_iff {s : RunState} : s.flightIds = [] ↔ s.inFlight = 0 := by
  simp [flightIds, inFlight]

/-- A job that ends stays in flight. -/
theorem flight_moves {s : RunState} {id : String} {j : Job}
    (found : s.jobs.find? (isJobOf id) = some j) (outcome : JobOutcome) :
    s.flightIds.Perm ((First.remove (isJobOf id) s.jobs).map (fun j => j.step.id) ++
      (s.ended ++ [EndedJob.mk id outcome]).map EndedJob.stepId) := by
  refine (((First.perm_remove found).map _).append_right _).trans ?_
  rw [List.map_cons, id_of_find?_job found, List.map_append, ← List.append_assoc]
  exact (List.perm_append_singleton ..).symm

/-- How a step came to its result; the state is the one in which it did. -/
inductive Origin (p : Plan) (s : RunState) (r : StepResult) : Prop
  | unreachable (unreachable : r.stepId ∈ p.unreachable)
      (result : r.timeless = .skipped r.stepId 0
        (.skip Branch.unreachable "not reachable from any entry point"))
  | bypassed {branch reason : String} (reachable : r.stepId ∉ p.unreachable)
      (skips : s.readiness p r.stepId = .skip branch reason)
      (result : r.timeless = .skipped r.stepId 0 (.skip branch reason))
  | late (reachable : r.stepId ∉ p.unreachable) (ready : s.readiness p r.stepId = .ready)
      (late : p.isPastDeadline r.startedAt = true)
      (result : r.timeless = .failed r.stepId 0 .deadline .unevaluated)
  | dispatched (reachable : r.stepId ∉ p.unreachable) (ready : s.readiness p r.stepId = .ready)
      (attempts : 1 ≤ r.attempts) (status : r.status ≠ .retried)
  | abandoned {reason : String} (reachable : r.stepId ∉ p.unreachable)
      (cancelled : s.cancelled = true)
      (result : r.timeless = .skipped r.stepId 0 (.skip Branch.cancelled reason))

theorem readiness_of_results {p : Plan} {s t : RunState} (h : t.results = s.results) (id : String) :
    t.readiness p id = s.readiness p id :=
  readiness_congr rfl rfl fun q _ => by unfold result?; rw [h]

/-- What a result came from stays so while results are added. -/
theorem Origin.mono {p : Plan} {s t : RunState} {r : StepResult} (h : Origin p s r)
    (results : s.results <+: t.results)
    (cancelled : s.cancelled = true → t.cancelled = true) : Origin p t r := by
  cases h with
  | unreachable hr result => exact .unreachable hr result
  | bypassed hr skips result =>
    exact .bypassed hr ((readiness_of_isPrefix results (by simp [skips])).trans skips) result
  | late hr ready late result =>
    exact .late hr ((readiness_of_isPrefix results (by simp [ready])).trans ready) late result
  | dispatched hr ready attempts status =>
    exact .dispatched hr ((readiness_of_isPrefix results (by simp [ready])).trans ready) attempts
      status
  | abandoned hr hc result => exact .abandoned hr (cancelled hc) result

theorem Origin.status {p : Plan} {s : RunState} {r : StepResult} (h : Origin p s r) :
    r.status ≠ .retried := by
  cases h with
  | dispatched _ _ _ status => exact status
  | unreachable _ result | bypassed _ _ result | late _ _ _ result | abandoned _ _ result =>
    rw [← r.status_timeless, result]
    exact StepStatus.noConfusion

/-- Every result came about as the results before it have it. -/
def Accounted (p : Plan) (s : RunState) : Prop :=
  ∀ before r after, s.results = before ++ r :: after → Origin p { s with results := before } r

theorem Accounted.mono {p : Plan} {s t : RunState} (h : Accounted p s)
    (results : t.results = s.results)
    (cancelled : s.cancelled = true → t.cancelled = true) : Accounted p t := by
  intro before r after heq
  exact (h before r after (results ▸ heq)).mono (List.prefix_refl before) cancelled

/-- One more result is accounted for when it came about in the state in which it was added. -/
theorem Accounted.concat {p : Plan} {s t : RunState} {r : StepResult} (h : Accounted p s)
    (origin : Origin p s r) (results : t.results = s.results ++ [r])
    (cancelled : s.cancelled = true → t.cancelled = true) : Accounted p t := by
  intro before r' after heq
  rw [results] at heq
  rcases List.eq_nil_or_concat after with rfl | ⟨after', last, rfl⟩
  · obtain ⟨rfl, hr⟩ := List.append_inj' heq rfl
    cases hr
    exact origin.mono (List.prefix_refl _) cancelled
  · rw [List.concat_eq_append, ← List.cons_append, ← List.append_assoc] at heq
    obtain ⟨hs, -⟩ := List.append_inj' heq rfl
    exact (h before r' after' hs).mono (List.prefix_refl _) cancelled

/-- Each result came about as the results of the state have it. -/
theorem Accounted.origin {p : Plan} {s : RunState} (h : Accounted p s) {r : StepResult}
    (mem : r ∈ s.results) : Origin p s r := by
  obtain ⟨before, after, heq⟩ := List.append_of_mem mem
  refine (h before r after heq).mono ?_ id
  exact ⟨r :: after, heq.symm⟩

theorem Accounted.unretried {p : Plan} {s : RunState} (h : Accounted p s) :
    ∀ r ∈ s.results, r.status ≠ .retried := fun _ mem => (h.origin mem).status

/-- What holds of a plan's steps in a state of its run. -/
structure Coherent (p : Plan) (s : RunState) : Prop where
  /-- each step is in exactly one place -/
  places : (s.pending ++ (s.flightIds ++ s.resultIds)).Perm p.graph.nodes
  /-- what is in flight was allowed to start -/
  cleared : ∀ id ∈ s.flightIds, id ∉ p.unreachable ∧ s.readiness p id = .ready
  jobs : ∀ j ∈ s.jobs, j.step ∈ p.program.steps ∧ Job.Faithful j.step j.variables j j.point
  ended : ∀ e ∈ s.ended, Job.EndsWith (Job.OfStep e.stepId) e.outcome
  accounted : Accounted p s

namespace Coherent

variable {p : Plan} {s t : RunState}

theorem nodup_resultIds (hp : p.Sound) (h : Coherent p s) : s.resultIds.Nodup :=
  (List.nodup_append.1 (List.nodup_append.1 (h.places.nodup_iff.2 hp.nodup_nodes)).2.1).2.1

theorem nodup_flightIds (hp : p.Sound) (h : Coherent p s) : s.flightIds.Nodup :=
  (List.nodup_append.1 (List.nodup_append.1 (h.places.nodup_iff.2 hp.nodup_nodes)).2.1).1

/-- Each job is the one that is polled for its step. -/
theorem find?_job (hp : p.Sound) (h : Coherent p s) {j : Job} (mem : j ∈ s.jobs) :
    s.jobs.find? (isJobOf j.step.id) = some j :=
  First.find?_key (List.nodup_append.1 (h.nodup_flightIds hp)).1 mem

theorem nodup_pending (hp : p.Sound) (h : Coherent p s) : s.pending.Nodup :=
  (List.nodup_append.1 (h.places.nodup_iff.2 hp.nodup_nodes)).1

/-- A step without a result is pending unless it is in flight. -/
theorem mem_pending (h : Coherent p s) {id : String} (node : id ∈ p.graph.nodes)
    (idle : id ∉ s.flightIds) (fresh : s.isTerminal id = false) : id ∈ s.pending := by
  have place := h.places.mem_iff.2 node
  rw [List.mem_append, List.mem_append, ← isTerminal_iff, fresh] at place
  exact place.resolve_right (by simp [idle])

/-- A pending step has no result. -/
theorem isTerminal_of_pending (hp : p.Sound) (h : Coherent p s) {id : String}
    (pending : id ∈ s.pending) : s.isTerminal id = false := by
  have nodup := h.places.nodup_iff.2 hp.nodup_nodes
  refine Bool.eq_false_iff.2 fun terminal => ?_
  exact (List.nodup_append.1 nodup).2.2 id pending id
    (List.mem_append_right _ (isTerminal_iff.1 terminal)) rfl

/-- What is in flight has no result. -/
theorem isTerminal_of_flight (hp : p.Sound) (h : Coherent p s) {id : String}
    (flight : id ∈ s.flightIds) : s.isTerminal id = false := by
  have nodup := (List.nodup_append.1 (h.places.nodup_iff.2 hp.nodup_nodes)).2.1
  refine Bool.eq_false_iff.2 fun terminal => ?_
  exact (List.nodup_append.1 nodup).2.2 id flight id (isTerminal_iff.1 terminal) rfl

/-- A pending step is not in flight. -/
theorem idle_of_pending (hp : p.Sound) (h : Coherent p s) {id : String} (pending : id ∈ s.pending) :
    id ∉ s.flightIds := fun flight =>
  (List.nodup_append.1 (h.places.nodup_iff.2 hp.nodup_nodes)).2.2 id pending id
    (List.mem_append_left _ flight) rfl

/-- Moves that leave steps and results where they are. -/
theorem of_same (h : Coherent p s) (pending : t.pending = s.pending) (jobs : t.jobs = s.jobs)
    (ended : t.ended = s.ended) (results : t.results = s.results)
    (cancelled : s.cancelled = true → t.cancelled = true) : Coherent p t where
  places := by
    unfold flightIds resultIds
    rw [pending, jobs, ended, results]
    exact h.places
  cleared id hid := by
    rw [readiness_of_results results]
    unfold flightIds at hid
    rw [jobs, ended] at hid
    exact h.cleared id hid
  jobs := jobs ▸ h.jobs
  ended := ended ▸ h.ended
  accounted := h.accounted.mono results cancelled

theorem decide (h : Coherent p s) {r : StepResult} (pending : r.stepId ∈ s.pending)
    (origin : Origin p s r) : Coherent p (s.decide r) where
  places := by
    have moved : (s.pending ++ (s.flightIds ++ s.resultIds)).Perm
        (s.pending.erase r.stepId ++ (s.flightIds ++ (s.resultIds ++ [r.stepId]))) := by
      refine ((List.perm_cons_erase pending).append_right _).trans ?_
      rw [← List.append_assoc s.flightIds, ← List.append_assoc (s.pending.erase r.stepId)]
      exact (List.perm_append_singleton ..).symm
    have hr : (s.decide r).resultIds = s.resultIds ++ [r.stepId] := by
      simp [resultIds, RunState.decide, finish]
    exact hr ▸ moved.symm.trans h.places
  cleared id hid := by
    obtain ⟨reachable, ready⟩ := h.cleared id hid
    refine ⟨reachable, ?_⟩
    have grown : s.results <+: (s.decide r).results := List.prefix_append ..
    exact (readiness_of_isPrefix grown (by simp [ready])).trans ready
  jobs := h.jobs
  ended := h.ended
  accounted := h.accounted.concat origin rfl id

theorem skip (h : Coherent p s) {id branch reason : String} (pending : id ∈ s.pending)
    (origin : ∀ r : StepResult, r.stepId = id →
      r.timeless = .skipped id 0 (.skip branch reason) → Origin p s r) :
    Coherent p (s.skip id branch reason) :=
  h.decide pending (origin _ rfl rfl)

theorem skip_unreachable (h : Coherent p s) {id : String} (stray : id ∈ p.unreachable)
    (pending : id ∈ s.pending) :
    Coherent p (s.skip id Branch.unreachable "not reachable from any entry point") :=
  h.skip pending fun _ hr result => .unreachable (hr ▸ stray) (hr ▸ result)

theorem skip_cancelled (h : Coherent p s) {id reason : String} (reachable : id ∉ p.unreachable)
    (cancelled : s.cancelled = true) (pending : id ∈ s.pending) :
    Coherent p (s.skip id Branch.cancelled reason) :=
  h.skip pending fun _ hr result => .abandoned (hr ▸ reachable) cancelled (hr ▸ result)

/-- Before anything has come about all steps are pending. -/
theorem fresh (pending : s.pending = p.graph.nodes) (jobs : s.jobs = []) (ended : s.ended = [])
    (results : s.results = []) : Coherent p s where
  places := by simp [flightIds, resultIds, pending, jobs, ended, results]
  cleared := by simp [flightIds, jobs, ended]
  jobs := by simp [jobs]
  ended := by simp [ended]
  accounted before r after heq := by simp [results] at heq

theorem launch (h : Coherent p s) {step : Step} (mem : step ∈ p.program.steps)
    (pending : step.id ∈ s.pending) (reachable : step.id ∉ p.unreachable)
    (ready : s.readiness p step.id = .ready) : Coherent p (s.launch p step) where
  places := by
    have moved : (s.pending ++ (s.flightIds ++ s.resultIds)).Perm
        (s.pending.erase step.id ++ ((s.launch p step).flightIds ++ s.resultIds)) := by
      refine ((List.perm_cons_erase pending).append_right _).trans ?_
      refine List.perm_middle.symm.trans ?_
      refine List.Perm.append_left _
        (List.Perm.append_right _ ?_ : (step.id :: s.flightIds ++ _).Perm _)
      simp [flightIds, RunState.launch, Job.ofStep]
      exact List.perm_middle.symm
    exact moved.symm.trans h.places
  cleared id hid := by
    have : id = step.id ∨ id ∈ s.flightIds := by
      simp only [flightIds, RunState.launch, Job.ofStep, List.map_append, List.mem_append] at hid ⊢
      simpa [or_assoc, or_comm, or_left_comm] using hid
    rcases this with rfl | hid
    · exact ⟨reachable, ready⟩
    · exact h.cleared id hid
  jobs j hj := by
    rcases List.mem_append.1 hj with hj | hj
    · exact h.jobs j hj
    · cases List.mem_singleton.1 hj
      exact ⟨mem, rfl, rfl, Nat.le_refl 1, trivial⟩
  ended := h.ended
  accounted := h.accounted.mono rfl id

theorem takeIn (h : Coherent p s) {e : EndedJob} {rest : List EndedJob}
    (ended : s.ended = e :: rest) : Coherent p (s.takeIn e rest) := by
  have mem : e.stepId ∈ s.flightIds := by simp [flightIds, ended]
  obtain ⟨reachable, ready⟩ := h.cleared _ mem
  have he : Job.EndsWith (Job.OfStep e.stepId) e.outcome := h.ended e (by simp [ended])
  obtain ⟨step, attempts, status⟩ := e.ofStep_result s.now he
  have results := results_takeIn e rest s
  have grown : s.results <+: (s.takeIn e rest).results := results ▸ List.prefix_append ..
  refine ⟨?_, fun id hid => ?_, ?_, ?_, ?_⟩
  · have moved : (s.pending ++ (s.flightIds ++ s.resultIds)).Perm ((s.takeIn e rest).pending ++
        ((s.takeIn e rest).flightIds ++ (s.takeIn e rest).resultIds)) := by
      simp only [flightIds, resultIds, pending_takeIn, jobs_takeIn, ended_takeIn, results, ended,
        List.map_append, List.map_cons, List.map_nil, step, List.append_assoc]
      refine List.Perm.append_left _ (List.Perm.append_left _ ?_)
      rw [← List.append_assoc]
      exact (List.perm_append_singleton ..).symm
    exact moved.symm.trans h.places
  · have hid : id ∈ s.flightIds := by
      simp only [flightIds, jobs_takeIn, ended_takeIn, ended, List.map_cons, List.mem_append,
        List.mem_cons] at hid ⊢
      exact hid.imp_right .inr
    obtain ⟨reachable, ready⟩ := h.cleared id hid
    exact ⟨reachable, (readiness_of_isPrefix grown (by simp [ready])).trans ready⟩
  · rw [jobs_takeIn]
    exact h.jobs
  · rw [ended_takeIn]
    exact fun e' he' => h.ended e' (ended ▸ List.mem_cons_of_mem e he')
  · refine h.accounted.concat ?_ results (cancelled_takeIn e rest s)
    exact .dispatched (step ▸ reachable) (step ▸ ready) attempts status

theorem poll (hp : p.Sound) (h : Coherent p s) {turn : Nat} {id : String}
    (m : Poll p turn id s t) : Coherent p t := by
  cases m with
  | @waits j j' log found ready polled =>
    have mem := List.mem_of_find?_eq_some found
    obtain ⟨declared, faithful⟩ := h.jobs j mem
    have after := (Job.kept_faithful hp s.now turn s.cancelled j.step j.variables).poll faithful
    rw [polled] at after
    have step : j'.step = j.step := after.1
    have ids : (First.replace (isJobOf id) j' s.jobs).map (fun j => j.step.id) =
        s.jobs.map fun j => j.step.id := First.map_replace _ found (by rw [step])
    refine ⟨?_, fun id hid => ?_, fun i hi => ?_, h.ended,
      h.accounted.mono rfl (fun hc => hc)⟩
    · simp only [flightIds, resultIds, ids]
      exact h.places
    · simp only [flightIds, ids] at hid
      exact h.cleared id hid
    · rcases First.mem_of_mem_replace hi with rfl | hi
      · refine ⟨step ▸ declared, ?_⟩
        rw [step, after.2.1]
        exact after
      · exact h.jobs i hi
  | @ends j outcome log found ready polled =>
    have mem := List.mem_of_find?_eq_some found
    have hid := id_of_find?_job found
    obtain ⟨-, faithful⟩ := h.jobs j mem
    have after := (Job.kept_faithful hp s.now turn s.cancelled j.step j.variables).poll faithful
    rw [polled, hid] at after
    have moved := flight_moves found outcome
    refine ⟨?_, fun x hx => h.cleared x (moved.mem_iff.2 hx),
      fun i hi => h.jobs i (First.mem_of_mem_remove hi), fun e he => ?_,
      h.accounted.mono rfl (fun hc => hc)⟩
    · exact ((moved.append_right _).append_left _).symm.trans h.places
    · rcases List.mem_append.1 he with he | he
      · exact h.ended e he
      · cases List.mem_singleton.1 he
        exact after

end Coherent
end RunState
end Playbook
