import Playbook.Proofs.Run.Course

/-!
Where results come from. A law of jobs says what holds of a job where it stands and of what it ends
with. If every small step of a poll keeps it, and so does time as it passes, it holds of all jobs of a
run; and each result is one of a step that was started in the run, from a job that ended by the law,
unless there was no attempt.
-/
namespace Playbook

open Json (Value)

namespace Job

/-- What holds of a job where it stands, at a moment and for the step and the variables with which it
was started, and of its outcome. -/
structure Law (o : Surroundings) (p : Plan)
    (I : Nat → Step → List (String × Value) → Job → Point → Prop)
    (F : Nat → Step → List (String × Value) → JobOutcome → Prop) : Prop where
  own : ∀ {now step vars j q}, I now step vars j q → j.step = step ∧ j.variables = vars
  begins : ∀ {now step}, step ∈ p.program.steps → p.isPastDeadline now = false →
    ∀ vars, I now step vars (ofStep p step vars) .starting
  kept : ∀ now turn cancelled step vars,
    Kept p now turn cancelled (I now step vars) (F now step vars)
  elapses : ∀ {s ms}, o.elapses s ms → ∀ j ∈ s.jobs, I s.now j.step j.variables j j.point →
    I (s.now + ms) j.step j.variables j j.point
  lasts : ∀ {now step vars outcome}, F now step vars outcome →
    ∀ ms, F (now + ms) step vars outcome

end Job

namespace RunState

/-- The step was started in a state that the run came to before, with the variables of that state. -/
def Dispatched (o : Surroundings) (p : Plan) (origin s : RunState) (step : Step)
    (vars : List (String × Value)) : Prop :=
  ∃ u v, Reaches o p origin u ∧ u.act? p = some v ∧
    v.jobs = u.jobs ++ [Job.ofStep p step u.context.variables] ∧ vars = u.context.variables ∧
    Reaches o p v s

section tracked

variable {o : Surroundings} {p : Plan}
  {I : Nat → Step → List (String × Value) → Job → Job.Point → Prop}
  {F : Nat → Step → List (String × Value) → JobOutcome → Prop} {origin s t : RunState}

theorem Dispatched.later {step : Step} {vars : List (String × Value)}
    (h : Dispatched o p origin s step vars) (further : Reaches o p s t) :
    Dispatched o p origin t step vars := by
  obtain ⟨u, v, reached, acts, starts, seen, later⟩ := h
  exact ⟨u, v, reached, acts, starts, seen, later.trans further⟩

theorem Dispatched.tail {step : Step} {vars : List (String × Value)}
    (h : Dispatched o p origin s step vars) (m : Move o p s t) :
    Dispatched o p origin t step vars := h.later (.single m)

/-- The job of a step that was started has ended by the law. -/
def Lawful (F : Nat → Step → List (String × Value) → JobOutcome → Prop) (o : Surroundings) (p : Plan)
    (origin s : RunState) (e : EndedJob) : Prop :=
  ∃ step vars, Dispatched o p origin s step vars ∧ step.id = e.stepId ∧ F s.now step vars e.outcome

/-- The result comes from a job that ended by the law, unless there was no attempt. -/
def Sourced (F : Nat → Step → List (String × Value) → JobOutcome → Prop) (o : Surroundings)
    (p : Plan) (origin s : RunState) (r : StepResult) : Prop :=
  r.attempts = 0 ∧ r.finishedAt ≤ s.now ∨
    ∃ e moment, moment ≤ s.now ∧ r = e.result moment ∧ Lawful F o p origin s e

/-- All jobs of a run keep to the law, and what they ended with came about by it. -/
structure Tracked (I : Nat → Step → List (String × Value) → Job → Job.Point → Prop)
    (F : Nat → Step → List (String × Value) → JobOutcome → Prop) (o : Surroundings) (p : Plan)
    (origin s : RunState) : Prop where
  jobs : ∀ j ∈ s.jobs, Dispatched o p origin s j.step j.variables ∧
    I s.now j.step j.variables j j.point
  ended : ∀ e ∈ s.ended, Lawful F o p origin s e
  results : ∀ r ∈ s.results, Sourced F o p origin s r
  retried : ∀ r ∈ s.retried, ∃ e, r ∈ e.superseded ∧ Lawful F o p origin s e

theorem Lawful.tail {e : EndedJob} (law : Job.Law o p I F) (h : Lawful F o p origin s e)
    (m : Move o p s t) : Lawful F o p origin t e := by
  obtain ⟨step, vars, dispatched, own, outcome⟩ := h
  obtain ⟨ms, later⟩ := Nat.exists_eq_add_of_le m.onward.now
  exact ⟨step, vars, dispatched.tail m, own, later ▸ law.lasts outcome ms⟩

theorem Sourced.tail {r : StepResult} (law : Job.Law o p I F) (h : Sourced F o p origin s r)
    (m : Move o p s t) : Sourced F o p origin t r := by
  rcases h with ⟨none, past⟩ | ⟨e, moment, past, result, lawful⟩
  · exact .inl ⟨none, past.trans m.onward.now⟩
  · exact .inr ⟨e, moment, past.trans m.onward.now, result, lawful.tail law m⟩

namespace Tracked

/-- A move keeps the law when the jobs after it do, and when whatever is new came about by it. -/
theorem of_move (law : Job.Law o p I F) (h : Tracked I F o p origin s) (m : Move o p s t)
    (jobs : ∀ j ∈ t.jobs, Dispatched o p origin t j.step j.variables ∧
      I t.now j.step j.variables j j.point)
    (ended : ∀ e ∈ t.ended, e ∈ s.ended ∨ Lawful F o p origin t e)
    (results : ∀ r ∈ t.results, r ∈ s.results ∨ Sourced F o p origin t r)
    (retried : ∀ r ∈ t.retried, r ∈ s.retried ∨ ∃ e, r ∈ e.superseded ∧ Lawful F o p origin t e) :
    Tracked I F o p origin t where
  jobs := jobs
  ended e mem := (ended e mem).elim (fun mem => (h.ended e mem).tail law m) id
  results r mem := (results r mem).elim (fun mem => (h.results r mem).tail law m) id
  retried r mem := by
    rcases retried r mem with mem | new
    · obtain ⟨e, superseded, lawful⟩ := h.retried r mem
      exact ⟨e, superseded, lawful.tail law m⟩
    · exact new

/-- A job that a move leaves as it is, in the moment in which it is, keeps to the law. -/
theorem job_tail (h : Tracked I F o p origin s) (m : Move o p s t) (now : t.now = s.now) {j : Job}
    (mem : j ∈ s.jobs) : Dispatched o p origin t j.step j.variables ∧
      I t.now j.step j.variables j j.point := by
  obtain ⟨dispatched, lawful⟩ := h.jobs j mem
  exact ⟨dispatched.tail m, now ▸ lawful⟩

theorem launch (law : Job.Law o p I F) (h : Tracked I F o p origin s)
    (reached : Reaches o p origin s) (acts : s.act? p = some t) {step : Step}
    (declared : step ∈ p.program.steps) (early : p.isPastDeadline s.now = false)
    (same : t = { s.launch p step with control := t.control }) : Tracked I F o p origin t := by
  have m : Move o p s t := .act acts
  have jobs : t.jobs = s.jobs ++ [Job.ofStep p step s.context.variables] := by rw [same]; rfl
  have now : t.now = s.now := by rw [same]; rfl
  refine h.of_move law m (fun j hj => ?_) (fun e mem => ?_) (fun r mem => ?_) fun r mem => ?_
  · rcases List.mem_append.1 (jobs ▸ hj) with hj | hj
    · exact h.job_tail m now hj
    · cases List.mem_singleton.1 hj
      refine ⟨⟨s, t, reached, acts, jobs, rfl, .refl⟩, ?_⟩
      rw [now]
      exact law.begins declared early s.context.variables
  · exact .inl (by rw [same] at mem; exact mem)
  · exact .inl (by rw [same] at mem; exact mem)
  · exact .inl (by rw [same] at mem; exact mem)

theorem takeIn (law : Job.Law o p I F) (h : Tracked I F o p origin s) (m : Move o p s t)
    {e : EndedJob} {rest : List EndedJob} (ended : s.ended = e :: rest)
    (same : t = { s.takeIn e rest with control := t.control }) : Tracked I F o p origin t := by
  have jobs : t.jobs = s.jobs := by rw [same]; exact jobs_takeIn ..
  have now : t.now = s.now := by rw [same]; exact now_takeIn ..
  have left : t.ended = rest := by rw [same]; exact ended_takeIn ..
  have results : t.results = s.results ++ [e.result s.now] := by rw [same]; exact results_takeIn ..
  have retried : t.retried = s.retried ++ e.superseded := by rw [same]; exact retried_takeIn ..
  have lawful : Lawful F o p origin t e := (h.ended e (by simp [ended])).tail law m
  refine h.of_move law m (fun j hj => h.job_tail m now (jobs ▸ hj)) (fun x hx => ?_)
    (fun r mem => ?_) fun r mem => ?_
  · exact .inl (ended ▸ List.mem_cons_of_mem e (left ▸ hx))
  · refine (List.mem_append.1 (results ▸ mem)).imp_right fun mem => .inr ?_
    exact ⟨e, s.now, Nat.le_of_eq now.symm, List.mem_singleton.1 mem, lawful⟩
  · exact (List.mem_append.1 (retried ▸ mem)).imp_right fun mem => ⟨e, mem, lawful⟩

/-- Acts that leave the jobs as they are, and add no result of an attempt. -/
theorem of_same (law : Job.Law o p I F) (h : Tracked I F o p origin s) (m : Move o p s t)
    (jobs : t.jobs = s.jobs) (ended : t.ended = s.ended) (now : t.now = s.now)
    (retried : t.retried = s.retried)
    (results : ∀ r ∈ t.results, r ∈ s.results ∨ r.attempts = 0 ∧ r.finishedAt = s.now) :
    Tracked I F o p origin t := by
  refine h.of_move law m (fun j hj => h.job_tail m now (jobs ▸ hj)) (fun e mem => .inl (ended ▸ mem))
    (fun r mem => ?_) fun r mem => .inl (retried ▸ mem)
  refine (results r mem).imp_right fun ⟨unmade, stamp⟩ => .inl ⟨unmade, ?_⟩
  exact Nat.le_of_eq (stamp.trans now.symm)

theorem act (law : Job.Law o p I F) (h : Tracked I F o p origin s) (reached : Reaches o p origin s)
    (acts : s.act? p = some t) : Tracked I F o p origin t := by
  have m : Move o p s t := .act acts
  have decided : ∀ r : StepResult, r.attempts = 0 → r.finishedAt = s.now →
      ∀ x ∈ (s.decide r).results, x ∈ s.results ∨ x.attempts = 0 ∧ x.finishedAt = s.now := by
    intro r none stamp x mem
    refine (List.mem_append.1 mem).imp_right fun mem => ?_
    rw [List.mem_singleton.1 mem]
    exact ⟨none, stamp⟩
  cases act_of_act? acts with
  | look | scanned | pass | again => exact h.of_same law m rfl rfl rfl rfl fun r mem => .inl mem
  | skip | expire => exact h.of_same law m rfl rfl rfl rfl (decided _ rfl rfl)
  | launch control pending ready place early found =>
    exact h.launch law reached acts (List.mem_of_find?_eq_some found) early rfl
  | leave =>
    have same : (s.leave p).jobs = s.jobs ∧ (s.leave p).ended = s.ended ∧ (s.leave p).now = s.now ∧
        (s.leave p).retried = s.retried ∧ (s.leave p).results = s.results := by
      unfold RunState.leave
      split <;> exact ⟨rfl, rfl, rfl, rfl, rfl⟩
    obtain ⟨jobs, ended, now, retried, results⟩ := same
    exact h.of_same law m jobs ended now retried fun r mem => .inl (results ▸ mem)
  | takeIn control goesOn ended => exact h.takeIn law m ended rfl
  | drain control ended => exact h.takeIn law m ended rfl
  | finish =>
    have frame := sameFrame_skips s.pending Branch.cancelled
      (if s.fault.isSome then "run aborted after engine fault" else "run cancelled") s
    exact h.of_same law m frame.jobs frame.ended frame.now frame.retried fun r mem =>
      mem_results_skips mem

theorem poll (law : Job.Law o p I F) (h : Tracked I F o p origin s) {turn : Nat} {id : String}
    (polls : s.poll? p turn id = some t) : Tracked I F o p origin t := by
  have m : Move o p s t := .poll polls
  cases poll_of_poll? polls with
  | @waits j j' log found ready polled =>
    obtain ⟨dispatched, lawful⟩ := h.jobs j (List.mem_of_find?_eq_some found)
    have after := (law.kept s.now turn s.cancelled j.step j.variables).poll lawful
    rw [polled] at after
    obtain ⟨step, vars⟩ := law.own after
    refine h.of_move law m (fun i hi => ?_) (fun e mem => .inl mem) (fun r mem => .inl mem)
      fun r mem => .inl mem
    rcases First.mem_of_mem_replace hi with rfl | hi
    · rw [step, vars]
      exact ⟨dispatched.tail m, after⟩
    · exact h.job_tail m rfl hi
  | @ends j outcome log found ready polled =>
    obtain ⟨dispatched, lawful⟩ := h.jobs j (List.mem_of_find?_eq_some found)
    have after := (law.kept s.now turn s.cancelled j.step j.variables).poll lawful
    rw [polled] at after
    refine h.of_move law m (fun i hi => h.job_tail m rfl (First.mem_of_mem_remove hi))
      (fun e mem => ?_) (fun r mem => .inl mem) fun r mem => .inl mem
    refine (List.mem_append.1 mem).imp_right fun mem => ?_
    cases List.mem_singleton.1 mem
    exact ⟨j.step, j.variables, dispatched.tail m, id_of_find?_job found, after⟩

theorem move (law : Job.Law o p I F) (h : Tracked I F o p origin s) (reached : Reaches o p origin s)
    (m : Move o p s t) : Tracked I F o p origin t := by
  cases m with
  | act m => exact h.act law reached m
  | poll m => exact h.poll law m
  | cancel hc =>
    exact h.of_same law (.cancel hc) rfl rfl rfl rfl fun r mem => .inl mem
  | elapse allowed =>
    refine h.of_move law (.elapse allowed) (fun j hj => ?_) (fun e mem => .inl mem)
      (fun r mem => .inl mem) fun r mem => .inl mem
    obtain ⟨dispatched, lawful⟩ := h.jobs j hj
    exact ⟨dispatched.tail (.elapse allowed), law.elapses allowed j hj lawful⟩

end Tracked

/-- What is a law of jobs holds in every state that a run reaches. -/
theorem Tracked.of_reaches (law : Job.Law o p I F) {context : RunContext} {cancelled : Bool}
    (h : Reaches o p (start p context cancelled) s) :
    Tracked I F o p (start p context cancelled) s := by
  induction h with
  | refl =>
    refine ⟨by simp, by simp, fun r mem => .inl ?_, by simp⟩
    obtain ⟨none, stamp⟩ := of_mem_results_start _ _ _ mem
    exact ⟨none, stamp ▸ Nat.zero_le _⟩
  | tail reached m ih => exact ih.move law reached m

end tracked

/-! ### Steps that have been started -/

/-- A step that has left the pending ones for its attempts: what result it has is that of one. -/
structure Departed (id : String) (s : RunState) : Prop where
  left : id ∉ s.pending
  attempted : ∀ r ∈ s.results, r.stepId = id → 1 ≤ r.attempts

section departed

variable {o : Surroundings} {p : Plan} {s t : RunState} {id : String}

theorem Departed.decide (h : s.Departed id) {r : StepResult} (pending : r.stepId ∈ s.pending) :
    (s.decide r).Departed id where
  left mem := h.left (List.mem_of_mem_erase mem)
  attempted x mem own := by
    rcases List.mem_append.1 mem with mem | mem
    · exact h.attempted x mem own
    · cases List.mem_singleton.1 mem
      exact absurd (own ▸ pending) h.left

theorem Departed.takeIn (ho : Coherent p s) (h : s.Departed id) {e : EndedJob}
    {rest : List EndedJob} (ended : s.ended = e :: rest) : (s.takeIn e rest).Departed id where
  left := by rw [pending_takeIn]; exact h.left
  attempted x mem own := by
    rw [results_takeIn] at mem
    rcases List.mem_append.1 mem with mem | mem
    · exact h.attempted x mem own
    · rw [List.mem_singleton.1 mem]
      exact (e.ofStep_result s.now (ho.ended e (by simp [ended]))).2.1

theorem Departed.act (hp : p.Sound) (ho : Coherent p s) (h : s.Departed id) (m : Act p s t) :
    t.Departed id := by
  cases m with
  | look | scanned | pass | again => exact ⟨h.left, h.attempted⟩
  | launch => exact ⟨fun mem => h.left (List.mem_of_mem_erase mem), h.attempted⟩
  | skip _ pending =>
    obtain ⟨left, attempted⟩ := h.decide
      (r := (StepResult.skipped _ 0 (.skip _ _)).between s.now s.now) pending
    exact ⟨left, attempted⟩
  | expire _ pending =>
    obtain ⟨left, attempted⟩ := h.decide
      (r := (StepResult.failed _ 0 .deadline .unevaluated).between s.now s.now) pending
    exact ⟨left, attempted⟩
  | leave =>
    unfold RunState.leave
    split <;> exact ⟨h.left, h.attempted⟩
  | takeIn _ _ ended =>
    obtain ⟨left, attempted⟩ := h.takeIn ho ended
    exact ⟨left, attempted⟩
  | drain _ ended => exact h.takeIn ho ended
  | finish =>
    have skipped : ∀ reason, Departed id
        (s.pending.foldl (fun s x => s.skip x Branch.cancelled reason) s) := fun reason =>
      skips_keep (fun t x _ pending still => still.decide pending) (ho.nodup_pending hp)
        (fun _ mem => mem) h
    exact ⟨(skipped _).left, (skipped _).attempted⟩

theorem Departed.move (hp : p.Sound) (ho : Coherent p s) (h : s.Departed id) (m : Move o p s t) :
    t.Departed id := by
  cases m with
  | act m => exact h.act hp ho (act_of_act? m)
  | poll m =>
    have frame := (poll_of_poll? m).frame
    exact ⟨frame.pending ▸ h.left, frame.results ▸ h.attempted⟩
  | cancel | elapse => exact ⟨h.left, h.attempted⟩

theorem Dispatched.departed (hp : p.Sound) {context : RunContext} {cancelled : Bool} {step : Step}
    {vars : List (String × Value)}
    (h : Dispatched o p (RunState.start p context cancelled) s step vars) :
    s.Departed step.id := by
  obtain ⟨u, v, reached, acts, starts, -, later⟩ := h
  have atStart := (Orderly.of_reaches hp (reached.tail (.act acts))).toCoherent
  have flight : step.id ∈ v.flightIds := by simp [flightIds, starts, Job.ofStep]
  have fresh := atStart.isTerminal_of_flight hp flight
  induction later with
  | refl =>
    refine ⟨fun pending => atStart.idle_of_pending hp pending flight, fun r mem own => ?_⟩
    rw [isTerminal_iff.2 (List.mem_map.2 ⟨r, mem, own⟩)] at fresh
    cases fresh
  | tail later m ih =>
    have ho := Orderly.of_reaches hp ((reached.tail (.act acts)).trans later)
    exact ih.move hp ho.toCoherent m

theorem Dispatched.mem_nodes (hp : p.Sound) {context : RunContext} {cancelled : Bool} {step : Step}
    {vars : List (String × Value)}
    (h : Dispatched o p (RunState.start p context cancelled) s step vars) :
    step.id ∈ p.graph.nodes := by
  obtain ⟨u, v, first, acts, starts, -, -⟩ := h
  have atStart := Orderly.of_reaches hp (first.tail (.act acts))
  refine atStart.places.mem_iff.1 (List.mem_append_right _ (List.mem_append_left _ ?_))
  simp [flightIds, starts, Job.ofStep]

theorem Dispatched.declared (hp : p.Sound) {context : RunContext} {cancelled : Bool} {step : Step}
    {vars : List (String × Value)}
    (h : Dispatched o p (RunState.start p context cancelled) s step vars) :
    step ∈ p.program.steps := by
  obtain ⟨u, v, first, acts, starts, -, -⟩ := h
  have atStart := (Orderly.of_reaches hp (first.tail (.act acts))).toCoherent
  exact (atStart.jobs (Job.ofStep p step u.context.variables) (by simp [starts])).1

/-- Once a run is over, a step that was started has its result, of an attempt. -/
theorem Dispatched.exists_result (hp : p.Sound) {context : RunContext} {cancelled : Bool}
    {step : Step} {vars : List (String × Value)}
    (reached : Reaches o p (RunState.start p context cancelled) s) (finished : s.isOver = true)
    (h : Dispatched o p (RunState.start p context cancelled) s step vars) :
    ∃ r ∈ s.results, r.stepId = step.id ∧ 1 ≤ r.attempts := by
  have ho := Orderly.of_reaches hp reached
  obtain ⟨r, mem, own⟩ :=
    List.mem_map.1 ((ho.resultIds_perm finished).mem_iff.2 (h.mem_nodes hp))
  exact ⟨r, mem, own, (h.departed hp).attempted r mem own⟩

end departed
end RunState
end Playbook
