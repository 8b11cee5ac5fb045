import Playbook.Proofs.Run.Outputs
import Playbook.Proofs.Run.Termination
import Playbook.Proofs.Run.Verdict

/-!
What becomes of the steps of a run whose clock passes no alarm unnoticed. Before a step starts all
its ancestors have their results, and these stay. So in a run that is not cancelled a step comes to
what its attempts come to with the variables that it saw when it started, and among the outputs in
them those of its ancestors are the ones that the run ends with.
-/
namespace Playbook

open Json (Value)

namespace RunState

variable {p : Plan} {c : RunContext} {s t : RunState}

/-! ### Ancestors -/

/-- The predecessors of a step that has its result have theirs, unless the run was cancelled. -/
theorem Orderly.terminal_of_edge (hp : p.Sound) (h : Orderly p s) (calm : s.cancelled = false)
    {a b : String} (edge : p.graph.Edge a b) (terminal : s.isTerminal b = true) :
    s.isTerminal a = true := by
  obtain ⟨r, hr⟩ := Option.isSome_iff_exists.1 terminal
  obtain ⟨rfl, mem⟩ := stepId_of_result? hr
  have settled : s.readiness p r.stepId ≠ .waiting → s.isTerminal a = true := fun settled =>
    readiness_ne_waiting_iff.1 settled a (StepGraph.mem_predecessors.2 edge)
  cases h.accounted.origin mem with
  | unreachable unreachable =>
    -- what leads to an unreachable step is unreachable too, and has its result from the start
    have node := (hp.bounded a _ edge).1
    have apart : a ∈ p.unreachable := by
      refine hp.mem_unreachable.2 ⟨node, fun ⟨entry, hentry, path⟩ => ?_⟩
      exact (hp.mem_unreachable.1 unreachable).2 ⟨entry, hentry, path.tail edge⟩
    rcases List.mem_append.1 (h.places.mem_iff.2 node) with pending | place
    · exact absurd apart (h.connected a pending)
    · rcases List.mem_append.1 place with flight | place
      · exact absurd apart (h.cleared a flight).1
      · exact isTerminal_iff.2 place
  | bypassed _ skips => exact settled (by simp [skips])
  | late _ ready | dispatched _ ready => exact settled (by simp [ready])
  | abandoned _ cancelled => simp [calm] at cancelled

/-- All ancestors of a ready step have their results. -/
theorem Orderly.terminal_of_precedes (hp : p.Sound) (h : Orderly p s) (calm : s.cancelled = false)
    {id : String} (ready : s.readiness p id = .ready) {a : String} (path : p.graph.Precedes a id) :
    s.isTerminal a = true := by
  induction path using Relation.TransGen.head_induction_on with
  | single edge =>
    exact ((readiness_eq_ready_iff.1 ready).1 _ (StepGraph.mem_predecessors.2 edge)).1
  | head edge _ ih => exact h.terminal_of_edge hp calm edge ih

/-! ### Variables and verdicts -/

/-- The variables of a step whose ancestors have left their outputs in them, for good. -/
def Sees (p : Plan) (c : RunContext) (s : RunState) (id : String) (vars : List (String × Value)) :
    Prop :=
  ∃ outputs, vars = RunContext.variables { c with outputs } ∧
    ∀ a, p.graph.Precedes a id →
      s.isTerminal a = true ∧ Keyed.get? a outputs = Keyed.get? a s.context.outputs

/-- The outputs of steps that have their results stay. -/
theorem Sees.mono {id : String} {vars : List (String × Value)} (h : Sees p c s id vars)
    (before : Remembers c s) (after : Remembers c t) (nodup : t.resultIds.Nodup)
    (grown : s.results <+: t.results) : Sees p c t id vars := by
  obtain ⟨outputs, rfl, known⟩ := h
  refine ⟨outputs, rfl, fun a path => ?_⟩
  obtain ⟨terminal, same⟩ := known a path
  refine ⟨isTerminal_of_isPrefix grown terminal, same.trans ?_⟩
  have once : s.resultIds.Nodup := nodup.sublist (grown.sublist.map _)
  rw [before.get?_outputs once, after.get?_outputs nodup, result?_of_isPrefix grown terminal]

/-- What the attempts at a step come to with the variables that it sees. -/
structure Foretells (p : Plan) (c : RunContext) (s : RunState) (step : Step)
    (vars : List (String × Value)) (e : Except String StepResult) : Prop where
  declared : step ∈ p.program.steps
  sees : Sees p c s step.id vars
  verdict : p.verdict vars step p.retry.retries 1 = e

/-- Every step in flight comes to what is told of it, and every step that was has come to it. -/
structure Foretold (tells : Step → List (String × Value) → Except String StepResult → Prop)
    (p : Plan) (s : RunState) : Prop where
  jobs : ∀ j ∈ s.jobs, ∃ e, tells j.step j.variables e ∧
    Job.Foreseen p j.step j.variables e s.now j j.point
  ended : ∀ x ∈ s.ended, ∃ step vars e, tells step vars e ∧ step.id = x.stepId ∧
    Job.Meets e x.outcome
  results : ∀ r ∈ s.results, r.attempts ≠ 0 →
    ∃ step vars, tells step vars (.ok r.timeless) ∧ step.id = r.stepId

namespace Foretold

variable {tells tells' : Step → List (String × Value) → Except String StepResult → Prop}

theorem mono (h : Foretold tells p s)
    (more : ∀ step vars e, tells step vars e → tells' step vars e) : Foretold tells' p s where
  jobs j hj := by
    obtain ⟨e, told, foreseen⟩ := h.jobs j hj
    exact ⟨e, more _ _ _ told, foreseen⟩
  ended x hx := by
    obtain ⟨step, vars, e, told, meets⟩ := h.ended x hx
    exact ⟨step, vars, e, more _ _ _ told, meets⟩
  results r mem attempts := by
    obtain ⟨step, vars, told, hid⟩ := h.results r mem attempts
    exact ⟨step, vars, more _ _ _ told, hid⟩

/-- Moves that leave the steps in flight as they are, and add no result of an attempt. -/
theorem of_same (h : Foretold tells p s) (jobs : t.jobs = s.jobs) (ended : t.ended = s.ended)
    (now : t.now = s.now) (results : ∀ r ∈ t.results, r ∈ s.results ∨ r.attempts = 0) :
    Foretold tells p t where
  jobs := by
    rw [jobs, now]
    exact h.jobs
  ended := ended ▸ h.ended
  results r mem attempts := h.results r ((results r mem).resolve_right attempts) attempts

theorem launch (h : Foretold tells p s) {step : Step}
    (told : tells step s.context.variables (p.verdict s.context.variables step p.retry.retries 1)) :
    Foretold tells p (s.launch p step) where
  jobs j hj := by
    rcases List.mem_append.1 hj with hj | hj
    · exact h.jobs j hj
    · cases List.mem_singleton.1 hj
      exact ⟨_, told, rfl, rfl, rfl⟩
  ended := h.ended
  results := h.results

/-- The first job that has ended is taken in. Had it panicked, the run would be cancelled. -/
theorem takeIn {x : EndedJob} {rest : List EndedJob} (h : Foretold tells p s)
    (ended : s.ended = x :: rest) (ofStep : Job.EndsWith (Job.OfStep x.stepId) x.outcome)
    (calm : (s.takeIn x rest).cancelled = false) : Foretold tells p (s.takeIn x rest) where
  jobs := by
    rw [jobs_takeIn, now_takeIn]
    exact h.jobs
  ended y hy := by
    rw [ended_takeIn] at hy
    exact h.ended y (ended ▸ List.mem_cons_of_mem x hy)
  results r mem attempts := by
    rw [results_takeIn] at mem
    rcases List.mem_append.1 mem with mem | mem
    · exact h.results r mem attempts
    · obtain ⟨step, vars, e, told, hid, meets⟩ := h.ended x (by simp [ended])
      have hr : r.stepId = x.stepId := List.mem_singleton.1 mem ▸ (x.ofStep_result s.now ofStep).1
      refine ⟨step, vars, ?_, hid.trans hr.symm⟩
      obtain ⟨id, outcome⟩ := x
      cases outcome with
      | finished result superseded =>
        have comes : e = .ok result.timeless := meets
        cases List.mem_singleton.1 mem
        exact comes ▸ told
      | panicked message => cases calm

theorem poll (endless : p.deadline = none) (h : Foretold tells p s) (calm : s.cancelled = false)
    {turn : Nat} {id : String} (m : Poll p turn id s t) : Foretold tells p t := by
  cases m with
  | @waits j j' log found ready polled =>
    obtain ⟨e, told, foreseen⟩ := h.jobs j (List.mem_of_find?_eq_some found)
    have after := (Job.kept_foreseen endless s.now turn j.step j.variables e).poll foreseen
    rw [← calm, polled] at after
    refine ⟨fun i hi => ?_, h.ended, h.results⟩
    rcases First.mem_of_mem_replace hi with rfl | hi
    · have step : i.step = j.step := after.1
      have vars : i.variables = j.variables := after.2.1
      rw [step, vars]
      exact ⟨e, told, after⟩
    · exact h.jobs i hi
  | @ends j outcome log found ready polled =>
    obtain ⟨e, told, foreseen⟩ := h.jobs j (List.mem_of_find?_eq_some found)
    have after := (Job.kept_foreseen endless s.now turn j.step j.variables e).poll foreseen
    rw [← calm, polled] at after
    refine ⟨fun i hi => h.jobs i (First.mem_of_mem_remove hi), fun x hx => ?_, h.results⟩
    rcases List.mem_append.1 hx with hx | hx
    · exact h.ended x hx
    · cases List.mem_singleton.1 hx
      have hid := id_of_find?_job found
      exact ⟨j.step, j.variables, e, told, hid, after⟩

theorem elapse (h : Foretold tells p s) {ms : Nat}
    (punctual : ∀ a ∈ s.alarms, s.now + ms ≤ a.1.due) : Foretold tells p (s.elapse ms) where
  jobs j hj := by
    obtain ⟨e, told, foreseen⟩ := h.jobs j hj
    refine ⟨e, told, foreseen.elapse fun a ha => punctual (a, j.step.id) ?_⟩
    exact List.mem_flatMap.2 ⟨j, hj, List.mem_map_of_mem ha⟩
  ended := h.ended
  results := h.results

/-- What the loop does keeps what is told, as long as it is told of the step that it starts. -/
theorem act (ho : Orderly p s) (h : Foretold tells p s) (m : Act p s t) (calm : t.cancelled = false)
    (starts : ∀ step ∈ p.program.steps, s.readiness p step.id = .ready →
      tells step s.context.variables (p.verdict s.context.variables step p.retry.retries 1)) :
    Foretold tells p t := by
  have stays := (onward_of_act m).cancelled
  cases m with
  | look | scanned | pass | again => exact h.of_same rfl rfl rfl fun r mem => .inl mem
  | skip | expire =>
    refine h.of_same rfl rfl rfl fun r mem => ?_
    rcases List.mem_append.1 mem with mem | mem
    · exact .inl mem
    · rw [List.mem_singleton.1 mem]
      exact .inr rfl
  | @launch id rest progressed step control pending ready place early found =>
    have hid := Program.id_of_step? found
    have launched := h.launch (starts step (List.mem_of_find?_eq_some found) (hid ▸ ready))
    exact launched.of_same rfl rfl rfl fun r mem => .inl mem
  | leave =>
    unfold RunState.leave
    split <;> exact h.of_same rfl rfl rfl fun r mem => .inl mem
  | @takeIn _ x rest _ _ ended =>
    have taken := h.takeIn ended (ho.ended x (by simp [ended])) calm
    exact taken.of_same rfl rfl rfl fun r mem => .inl mem
  | @drain x rest control ended => exact h.takeIn ended (ho.ended x (by simp [ended])) calm
  | finish control =>
    rw [stays (ho.cancelled_of_draining control)] at calm
    cases calm

/-- In a run that is not cancelled each step comes to what its attempts come to with the variables
that it sees. -/
theorem of_reaches (hp : p.Sound) (endless : p.deadline = none) {cancelled : Bool}
    (h : Reaches .punctual p (RunState.start p c cancelled) s) (calm : s.cancelled = false) :
    Foretold (Foretells p c s) p s := by
  induction h with
  | refl =>
    refine ⟨by simp, by simp, fun r mem attempts => ?_⟩
    exact absurd (of_mem_results_start _ _ _ mem).1 attempts
  | @tail s t h m ih =>
    have onward := m.onward
    have before : s.cancelled = false := by
      by_contra cancelled
      simp [onward.cancelled (by simpa using cancelled)] at calm
    have told := ih before
    have orderly := Orderly.of_reaches hp h
    have remembers := Remembers.of_reaches h
    have after : Foretold (Foretells p c s) p t := by
      cases m with
      | act m =>
        refine told.act orderly (act_of_act? m) calm fun step declared ready => ?_
        refine ⟨declared, ⟨s.context.outputs, ?_, fun a path => ⟨?_, rfl⟩⟩, rfl⟩
        · rw [← remembers.context]
        · exact orderly.terminal_of_precedes hp before ready path
      | poll m => exact told.poll endless before (poll_of_poll? m)
      | elapse punctual => exact told.elapse punctual
      | cancel => cases calm
    refine after.mono fun step vars e foretells => ⟨foretells.declared, ?_, foretells.verdict⟩
    exact foretells.sees.mono remembers (remembers.move m)
      ((orderly.move hp m).nodup_resultIds hp) onward.results

end Foretold

end RunState
end Playbook
