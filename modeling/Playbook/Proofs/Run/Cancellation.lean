import Playbook.Proofs.Run.Interruption
import Playbook.Proofs.Run.Outcome

/-!
How a cancelled run ends. Jobs that had ended are still taken in, so their results are kept like
those that were noted before. What had not been started is skipped, and unless every step had its
result the run fails: for the fault that the first panic of a job has left, or else because it was
cancelled.
-/
namespace Playbook

/-- The fault that a job leaves which has ended in a panic. -/
def EndedJob.fault? (e : EndedJob) : Option String :=
  match e.outcome with
  | .finished .. => none
  | .panicked message => some s!"step '{e.stepId}' panicked: {message}"

namespace RunState

variable {p : Plan} {s t : RunState}

/-! ### Jobs that have ended -/

theorem fault_takeIn (e : EndedJob) (rest : List EndedJob) (s : RunState) :
    (s.takeIn e rest).fault = s.fault.or e.fault? := by
  obtain ⟨id, outcome⟩ := e
  cases outcome with
  | finished r superseded => exact (Option.or_none).symm
  | panicked message => rfl

/-- The loop takes in the first of the jobs that have ended, or leaves them all and notes no
fault. -/
theorem taken_of_act (m : Act p s t) :
    (t.ended = s.ended ∧ t.fault = s.fault) ∨
      ∃ e rest, s.ended = e :: rest ∧ t.ended = rest ∧ t.results = s.results ++ [e.result s.now] ∧
        t.fault = s.fault.or e.fault? := by
  cases m with
  | look | scanned | pass | skip | expire | launch | again => exact .inl ⟨rfl, rfl⟩
  | leave =>
    unfold RunState.leave
    split <;> exact .inl ⟨rfl, rfl⟩
  | @takeIn _ e rest _ _ ended | @drain e rest _ ended =>
    exact .inr ⟨e, rest, ended, ended_takeIn e rest s, results_takeIn e rest s,
      fault_takeIn e rest s⟩
  | finish =>
    have frame := sameFrame_skips s.pending Branch.cancelled
      (if s.fault.isSome then "run aborted after engine fault" else "run cancelled") s
    exact .inl ⟨frame.ended, frame.fault⟩

/-- A fault of the run stays. -/
theorem fault_of_move {o : Surroundings} (m : Move o p s t) {text : String}
    (fault : s.fault = some text) : t.fault = some text := by
  cases m with
  | act m =>
    rcases taken_of_act (act_of_act? m) with ⟨-, same⟩ | ⟨e, rest, -, -, -, added⟩
    · rw [same, fault]
    · rw [added, fault]
      rfl
  | poll m => rw [(poll_of_poll? m).frame.fault, fault]
  | cancel | elapse => exact fault

/-- A job has been taken in: its result is noted, and if it has panicked the run has a fault. -/
structure Noted (s : RunState) (e : EndedJob) : Prop where
  result : ∃ moment, e.result moment ∈ s.results
  fault : e.fault?.isSome → s.fault.isSome

/-- A job that has ended waits to be taken in, or it has been. -/
theorem ended_or_noted_of_move {o : Surroundings} {e : EndedJob} (m : Move o p s t)
    (h : e ∈ s.ended ∨ s.Noted e) : e ∈ t.ended ∨ t.Noted e := by
  rcases h with ended | noted
  · have same : t.ended = s.ended → e ∈ t.ended ∨ t.Noted e := fun same => .inl (same ▸ ended)
    cases m with
    | act m =>
      rcases taken_of_act (act_of_act? m) with ⟨kept, -⟩ | ⟨x, rest, split, left, results, fault⟩
      · exact same kept
      · rw [split] at ended
        rcases List.mem_cons.1 ended with rfl | ended
        · refine .inr ⟨⟨s.now, by simp [results]⟩, fun panicked => ?_⟩
          rw [fault, Option.isSome_or, panicked, Bool.or_true]
        · exact .inl (left ▸ ended)
    | poll m =>
      cases poll_of_poll? m with
      | waits => exact .inl ended
      | ends => exact .inl (List.mem_append_left _ ended)
    | cancel | elapse => exact .inl ended
  · obtain ⟨⟨moment, result⟩, fault⟩ := noted
    refine .inr ⟨⟨moment, m.onward.results.subset result⟩, fun panicked => ?_⟩
    obtain ⟨text, htext⟩ := Option.isSome_iff_exists.1 (fault panicked)
    rw [fault_of_move m htext]
    rfl

/-- When the run is over every job that has ever ended has been taken in. -/
theorem noted_of_reaches {o : Surroundings} (ht : Orderly p t) (h : Reaches o p s t)
    (finished : t.isOver = true) {e : EndedJob} (ended : e ∈ s.ended) : t.Noted e := by
  have kept : e ∈ t.ended ∨ t.Noted e :=
    h.keeps (P := fun u => e ∈ u.ended ∨ u.Noted e)
      (fun _ _ hu hm => ended_or_noted_of_move hm hu) (.inl ended)
  have none : t.ended = [] := (ht.idle_jobs finished).2
  simpa [none] using kept

/-- Between two states of a run a job ended in a panic that leaves this fault. -/
def Panicked (o : Surroundings) (p : Plan) (s t : RunState) (text : String) : Prop :=
  ∃ u e, Reaches o p s u ∧ Reaches o p u t ∧ e ∈ u.ended ∧ e.fault? = some text

/-- The fault of a run is that of a panic. -/
theorem panicked_of_fault {o : Surroundings} (calm : s.fault = none) (h : Reaches o p s t)
    {text : String} (fault : t.fault = some text) : Panicked o p s t text := by
  induction h with
  | refl => simp [calm] at fault
  | @tail t u h m ih =>
    have before : t.fault = some text → Panicked o p s u text := by
      intro fault
      obtain ⟨v, e, hv, ht, panicked⟩ := ih fault
      exact ⟨v, e, hv, ht.tail m, panicked⟩
    cases m with
    | act hm =>
      rcases taken_of_act (act_of_act? hm) with ⟨-, same⟩ | ⟨e, rest, ended, -, -, added⟩
      · exact before (same ▸ fault)
      · rw [added, Option.or_eq_some_iff] at fault
        rcases fault with fault | ⟨-, panicked⟩
        · exact before fault
        · exact ⟨t, e, h, .single (.act hm), by simp [ended], panicked⟩
    | poll hm => exact before ((poll_of_poll? hm).frame.fault ▸ fault)
    | cancel | elapse => exact before fault

/-! ### What cancels a run -/

/-- A move that cancels a run comes from outside, or takes in a job that has panicked. -/
theorem cancelled_of_move {o : Surroundings} (m : Move o p s t) (cut : t.cancelled = true) :
    s.cancelled = true ∨ o.cancels s ∧ t = s.cancel ∨
      ∃ e ∈ s.ended, ∃ message, e.outcome = .panicked message := by
  have taken : ∀ {e rest}, s.ended = e :: rest → (s.takeIn e rest).cancelled = true →
      s.cancelled = true ∨ ∃ e ∈ s.ended, ∃ message, e.outcome = .panicked message := by
    rintro ⟨id, outcome⟩ rest ended cut
    cases outcome with
    | finished r superseded => exact .inl cut
    | panicked message => exact .inr ⟨_, by rw [ended]; exact List.mem_cons_self, message, rfl⟩
  cases m with
  | act m =>
    cases act_of_act? m with
    | look | scanned | pass | skip | expire | launch | again => exact .inl cut
    | leave =>
      unfold RunState.leave at cut
      split at cut <;> exact .inl cut
    | takeIn _ _ ended | drain _ ended => exact (taken ended cut).imp_right .inr
    | finish => exact .inl ((sameFrame_skips ..).cancelled.symm.trans cut)
  | poll m => exact .inl ((poll_of_poll? m).frame.cancelled ▸ cut)
  | cancel allowed => exact .inr (.inl ⟨allowed, rfl⟩)
  | elapse => exact .inl cut

/-- What has cancelled a run, whatever the step `id` does: it was cancelled before it began, it was
cancelled from outside, or the job of another step has panicked. -/
inductive Cause (o : Surroundings) (p : Plan) (origin s : RunState) (id : String) : Prop
  | begun (cut : origin.cancelled = true)
  | outside {u : RunState} (reached : Reaches o p origin u) (allowed : o.cancels u)
      (later : Reaches o p u.cancel s)
  | panic {u : RunState} {other message : String} (ne : other ≠ id) (reached : Reaches o p origin u)
      (ended : ⟨other, .panicked message⟩ ∈ u.ended) (later : Reaches o p u s)

theorem exists_cancellation_or_panic {o : Surroundings} {origin : RunState}
    (reached : Reaches o p origin s) (cut : s.cancelled = true) :
    origin.cancelled = true ∨
      (∃ u, Reaches o p origin u ∧ o.cancels u ∧ Reaches o p u.cancel s) ∨
      ∃ u id message, Reaches o p origin u ∧ ⟨id, .panicked message⟩ ∈ u.ended ∧
        Reaches o p u s := by
  induction reached with
  | refl => exact .inl cut
  | @tail s t reached m ih =>
    rcases cancelled_of_move m cut with before | ⟨allowed, rfl⟩ | ⟨⟨id, _⟩, ended, message, rfl⟩
    · rcases ih before with begun | ⟨u, first, allowed, later⟩ | ⟨u, id, message, first, ended, later⟩
      · exact .inl begun
      · exact .inr (.inl ⟨u, first, allowed, later.tail m⟩)
      · exact .inr (.inr ⟨u, id, message, first, ended, later.tail m⟩)
    · exact .inr (.inl ⟨s, reached, allowed, .refl⟩)
    · exact .inr (.inr ⟨s, id, message, reached, ended, .single m⟩)

/-- While the job of a step goes on, it is something else that has cancelled the run. -/
theorem cause_of_job {o : Surroundings} (hp : p.Sound) {context : RunContext} {cancelled : Bool}
    (reached : Reaches o p (start p context cancelled) s) (cut : s.cancelled = true) {j : Job}
    (job : j ∈ s.jobs) : Cause o p (start p context cancelled) s j.step.id := by
  rcases exists_cancellation_or_panic reached cut with
    begun | ⟨u, first, allowed, later⟩ | ⟨u, id, message, first, ended, later⟩
  · exact .begun begun
  · exact .outside first allowed later
  · refine .panic (fun same => ?_) first ended later
    have ho := Orderly.of_reaches hp reached
    have flight : id ∈ s.jobs.map fun j => j.step.id := List.mem_map.2 ⟨j, job, same.symm⟩
    have kept : ⟨id, .panicked message⟩ ∈ s.ended ∨ s.Noted ⟨id, .panicked message⟩ :=
      later.keeps (P := fun u => _ ∈ u.ended ∨ u.Noted _)
        (fun _ _ hu hm => ended_or_noted_of_move hm hu) (.inl ended)
    rcases kept with waits | ⟨⟨moment, noted⟩, -⟩
    · exact (List.nodup_append.1 (ho.nodup_flightIds hp)).2.2 id flight id
        (List.mem_map.2 ⟨_, waits, rfl⟩) rfl
    · have terminal : s.isTerminal id = true :=
        isTerminal_iff.2 (List.mem_map.2 ⟨_, noted, rfl⟩)
      simp [ho.isTerminal_of_flight hp (List.mem_append_left _ flight)] at terminal

/-! ### Steps that had not been started -/

theorem isTerminal_decide {r : StepResult} {id : String} (fresh : s.isTerminal id = false)
    (other : id ≠ r.stepId) : (s.decide r).isTerminal id = false :=
  (isTerminal_concat (s := s) rfl).2 ⟨fresh, other⟩

/-- Each of some skipped steps is noted as skipped. -/
theorem skippedAs_of_skips {ids : List String} {branch reason : String} {id : String}
    (mem : id ∈ ids) (s : RunState) :
    ∃ r ∈ (ids.foldl (fun s id => s.skip id branch reason) s).results,
      r.stepId = id ∧ r.SkippedAs branch := by
  induction ids generalizing s with
  | nil => cases mem
  | cons x rest ih =>
    rcases List.mem_cons.1 mem with rfl | mem
    · refine ⟨(StepResult.skipped id 0 (.skip branch reason)).between s.now s.now, ?_, rfl, rfl, rfl,
        rfl⟩
      exact (onward_skips rest branch reason _).results.subset (by simp [skip, decide, finish])
    · exact ih mem (s.skip x branch reason)

/-- A step that the cancelled run does not come to any more: it is pending, and no scan will visit
it, or it was skipped as cancelled. -/
def Dropped (s : RunState) (id : String) : Prop :=
  (id ∈ s.pending ∧ id ∉ s.ahead) ∨ ∃ r ∈ s.results, r.stepId = id ∧ r.SkippedAs Branch.cancelled

theorem Dropped.act (cut : s.cancelled = true) {id : String} (h : s.Dropped id) (m : Act p s t) :
    t.Dropped id := by
  have still := ahead_of_act cut m
  have kept := (onward_of_act m).results
  rcases h with ⟨pending, away⟩ | ⟨r, mem, skipped⟩
  · have stays : id ∈ t.pending → t.Dropped id := fun pending =>
      .inl ⟨pending, fun mem => away (still mem)⟩
    -- whatever a scan in progress does, it does to a step that is ahead of it
    have passes : ∀ {x rest progressed}, s.control = .scanning (x :: rest) progressed →
        id ∈ s.pending.erase x := by
      intro x rest progressed control
      rw [ahead_of_scanning control] at away
      exact (List.mem_erase_of_ne (List.ne_of_not_mem_cons away)).2 pending
    cases m with
    | look | scanned | pass | again => exact stays pending
    | skip control | expire control => exact stays (passes control)
    | @launch x rest progressed step control _ _ _ _ found =>
      obtain rfl := Program.id_of_step? found
      exact stays (passes control)
    | leave =>
      unfold RunState.leave
      split <;> exact .inl ⟨pending, List.not_mem_nil⟩
    | @takeIn _ e rest | @drain e rest => exact stays (by rwa [pending_takeIn])
    | finish => exact .inr (skippedAs_of_skips pending s)
  · exact .inr ⟨r, kept.subset mem, skipped⟩

theorem Dropped.move {o : Surroundings} (cut : s.cancelled = true) {id : String}
    (h : s.Dropped id) (m : Move o p s t) : t.Dropped id := by
  cases m with
  | act m => exact h.act cut (act_of_act? m)
  | poll m =>
    have frame := (poll_of_poll? m).frame
    unfold Dropped ahead at *
    rwa [frame.pending, frame.control, frame.results]
  | cancel | elapse => exact h

theorem Dropped.reaches {o : Surroundings} (cut : s.cancelled = true) {id : String}
    (h : s.Dropped id) (later : Reaches o p s t) : t.Dropped id := by
  induction later with
  | refl => exact h
  | tail later m ih => exact ih.move (Reaches.onward later |>.cancelled cut) m

/-! ### The end of a cancelled run -/

/-- What makes a cancelled run fail: some step that no scan will visit any more has no result; later
it is drained, and over in the end. -/
def Stopping (p : Plan) (s : RunState) : Prop :=
  match s.control with
  | .draining => True
  | .over status reason _ =>
    status = .failed ∧ reason = some (s.fault.elim .cancelled .engineFault)
  | _ => ∃ id ∈ p.graph.nodes, s.isTerminal id = false ∧ id ∉ s.ahead

theorem failureReason_interrupted (p : Plan) (s : RunState) :
    s.failureReason p true = some (s.fault.elim .cancelled .engineFault) := by
  unfold failureReason
  cases s.fault <;> rfl

theorem Stopping.close (p : Plan) (s : RunState) : Stopping p (s.close p true) := by
  unfold Stopping RunState.close
  simp only [failureReason_interrupted]
  exact ⟨rfl, trivial⟩

theorem Stopping.act (ho : Orderly p s) (cut : s.cancelled = true) (h : Stopping p s)
    (m : Act p s t) : Stopping p t := by
  have still := ahead_of_act cut m
  unfold Stopping at h
  cases m with
  | look control =>
    rw [control] at h
    obtain ⟨id, node, fresh, -⟩ := h
    unfold Stopping rescan
    simp only [cut, if_true]
    exact ⟨id, node, fresh, List.not_mem_nil⟩
  | scanned control =>
    rw [control] at h
    obtain ⟨id, node, fresh, -⟩ := h
    exact ⟨id, node, fresh, List.not_mem_nil⟩
  | pass control | launch control =>
    rw [control] at h
    obtain ⟨id, node, fresh, away⟩ := h
    exact ⟨id, node, fresh, fun mem => away (still mem)⟩
  | @skip x rest progressed branch reason control | @expire x rest progressed control =>
    rw [control] at h
    obtain ⟨id, node, fresh, away⟩ := h
    have other : id ≠ x := List.ne_of_not_mem_cons (ahead_of_scanning control ▸ away)
    exact ⟨id, node, isTerminal_decide fresh other, fun mem => away (still mem)⟩
  | again _ _ goesOn | takeIn _ goesOn => simp [cut] at goesOn
  | leave control =>
    rw [control] at h
    obtain ⟨id, node, fresh, -⟩ := h
    -- a step without a result is pending or in flight, so the loop is left too early
    have unfinished : ¬ (s.pending = [] ∧ s.inFlight = 0) := by
      rintro ⟨none, idle⟩
      have pending := ho.mem_pending node (by simp [flightIds_eq_nil_iff.2 idle]) fresh
      simp [none] at pending
    unfold RunState.leave
    split
    · trivial
    · next finished => exact absurd (by simpa [cut] using finished) unfinished
  | drain control =>
    unfold Stopping
    rw [control_takeIn, control]
    trivial
  | finish => exact .close p _

theorem Stopping.move {o : Surroundings} (ho : Orderly p s) (cut : s.cancelled = true)
    (h : Stopping p s) (m : Move o p s t) : Stopping p t := by
  cases m with
  | act m => exact h.act ho cut (act_of_act? m)
  | poll m =>
    have frame := (poll_of_poll? m).frame
    unfold Stopping ahead isTerminal result? at *
    rwa [frame.control, frame.results, frame.fault]
  | cancel | elapse => exact h

/-- A run that is cancelled before each step has its result fails. -/
theorem Stopping.result {start : Instant} {result : RunResult} (h : Stopping p s)
    (hr : s.result p start = some result) :
    result.status = .failed ∧
      result.failureReason = some (s.fault.elim .cancelled .engineFault) := by
  unfold RunState.result at hr
  unfold Stopping at h
  split at hr
  · next control =>
    rw [control] at h
    cases hr
    exact h
  · cases hr

theorem stopping_of_fresh (ho : Orderly p s) {id : String} (node : id ∈ p.graph.nodes)
    (fresh : s.isTerminal id = false) (away : id ∉ s.ahead) : Stopping p s := by
  have going : s.isOver = false := by
    refine Bool.eq_false_iff.2 fun finished => ?_
    have terminal := isTerminal_iff.2 ((ho.resultIds_perm finished).mem_iff.2 node)
    simp [fresh] at terminal
  unfold Stopping
  split
  · trivial
  · next control => simp [isOver, control] at going
  · exact ⟨id, node, fresh, away⟩

theorem Stopping.reaches {o : Surroundings} (hp : p.Sound) {context : RunContext} {cancelled : Bool}
    (reached : Reaches o p (start p context cancelled) s) (cut : s.cancelled = true)
    (h : Stopping p s) (later : Reaches o p s t) : Stopping p t := by
  induction later with
  | refl => exact h
  | tail later m ih =>
    have ho := Orderly.of_reaches hp (reached.trans later)
    exact ih.move ho (Reaches.onward later |>.cancelled cut) m

/-- A cancelled run that is over has failed for the fault of a panic, if there was one, and else
because it was cancelled. -/
theorem Stopping.cause {o : Surroundings} (ht : Orderly p t) (h : Stopping p t)
    (calm : s.fault = none) (reached : Reaches o p s t) {start : Instant} {result : RunResult}
    (hr : t.result p start = some result) :
    result.status = .failed ∧
      ((result.failureReason = some .cancelled ∧ ∀ text, ¬ Panicked o p s t text) ∨
        ∃ text, result.failureReason = some (.engineFault text) ∧ Panicked o p s t text) := by
  obtain ⟨status, reason⟩ := h.result hr
  refine ⟨status, ?_⟩
  cases fault : t.fault with
  | none =>
    rw [fault] at reason
    refine .inl ⟨reason, ?_⟩
    rintro text ⟨u, e, -, later, ended, panicked⟩
    have noted := noted_of_reaches ht later (isOver_of_result hr).1 ended
    have isSome := noted.fault (by simp [panicked])
    simp [fault] at isSome
  | some text =>
    rw [fault] at reason
    exact .inr ⟨text, reason, panicked_of_fault calm reached fault⟩

/-- The result of a run that was cancelled in a state `s` and was over in a state `t`. Unless the
loop is in the midst of a scan, which does not wait for anything, no step is ahead of it. -/
structure CutShort (p : Plan) (origin s t : RunState) (result : RunResult) : Prop where
  once : (result.steps.map StepResult.stepId).Perm (p.program.steps.map Step.id)
  noted : s.results <+: result.steps
  ended : ∀ e ∈ s.ended, ∃ moment, e.result moment ∈ result.steps
  unreachable : ∀ id ∈ p.program.steps.map Step.id,
    ¬ p.graph.Connected (p.graph.entryPoints p.program) id →
    ∃ r ∈ result.steps, r.stepId = id ∧ r.SkippedAs Branch.unreachable
  dropped : ∀ id ∈ p.program.steps.map Step.id, s.isTerminal id = false → id ∉ s.flightIds →
    id ∉ s.ahead → ∃ r ∈ result.steps, r.stepId = id ∧ r.SkippedAs Branch.cancelled
  failed : (∃ id ∈ p.program.steps.map Step.id, s.isTerminal id = false ∧ id ∉ s.ahead) →
    result.status = .failed ∧
      ((result.failureReason = some .cancelled ∧ ∀ text, ¬ Panicked .free p origin t text) ∨
        ∃ text, result.failureReason = some (.engineFault text) ∧
          Panicked .free p origin t text)

theorem cutShort_of_reaches (hp : p.Sound) {context : RunContext} {cancelled : Bool}
    (reached : Reaches .free p (start p context cancelled) s) (cut : s.cancelled = true)
    (later : Reaches .free p s t) {begun : Instant} {result : RunResult}
    (hr : t.result p begun = some result) :
    CutShort p (start p context cancelled) s t result := by
  have hs := Orderly.of_reaches hp reached
  have ht := Orderly.of_reaches hp (reached.trans later)
  obtain ⟨finished, steps⟩ := isOver_of_result hr
  have calm : (start p context cancelled).fault = none := fault_start ..
  refine ⟨?_, ?_, fun e ended => ?_, fun id hid unconnected => ?_,
    fun id hid fresh idle away => ?_, ?_⟩
  · rw [steps]
    exact (ht.resultIds_perm finished).trans hp.nodes_perm
  · rw [steps]
    exact (Reaches.onward later).results
  · rw [steps]
    exact (noted_of_reaches ht later finished ended).result
  · have node := hp.mem_nodes.2 hid
    have mem : id ∈ t.resultIds := (ht.resultIds_perm finished).mem_iff.2 node
    obtain ⟨r, noted, rfl⟩ := List.mem_map.1 mem
    refine ⟨r, steps ▸ noted, rfl, ?_⟩
    have stray := hp.mem_unreachable.2 ⟨node, unconnected⟩
    cases ht.accounted.origin noted with
    | unreachable _ result => exact StepResult.skippedAs_of_timeless result
    | bypassed reachable | late reachable | dispatched reachable | abandoned reachable =>
      exact absurd stray reachable
  · have pending := hs.mem_pending (hp.mem_nodes.2 hid) idle fresh
    have dropped : t.Dropped id := Dropped.reaches cut (.inl ⟨pending, away⟩) later
    rcases dropped with ⟨pending, -⟩ | skipped
    · simp [(ht.idle finished).1] at pending
    · exact steps ▸ skipped
  · rintro ⟨id, hid, fresh, away⟩
    have stopping := stopping_of_fresh hs (hp.mem_nodes.2 hid) fresh away
    exact (stopping.reaches hp reached cut later).cause ht calm (reached.trans later) hr

end RunState

open RunState in
/-- From the moment on at which a run is cancelled, whether before it starts, from outside or by a
panic, its course does not depend on what handlers would do, and none of their events is recorded.
It is executed to its end, where each step is reported once: with the result that it had, or that
its job had ended with; as unreachable; as cancelled if it had not been started; and where some step
had no result yet the run has failed. -/
theorem cancelled_run_is_cut_short {d : Dispatcher} {program : Program}
    (clean : program.Clean d.registry d.evaluator) {settings : ExecutionSettings} {scope : RunScope}
    {p : Plan} (plan : p = Plan.make d settings program scope) {context : RunContext}
    {cancelled : Bool} {s : RunState} (reached : Reaches .free p (start p context cancelled) s)
    (cut : s.cancelled = true) :
    (∀ t, Reaches .free p s t →
      (∀ c : Conduct, Reaches .free (c.plan p) (c.state s) (c.state t)) ∧
      ∃ new, t.log = s.log ++ new ∧ ∀ e ∈ new, Subdued e) ∧
    (∃ σ, Execution p σ ∧ σ 0 = s) ∧
    ∀ σ, Execution p σ → σ 0 = s → ∀ begun, ∃ result n,
      (∀ m, n ≤ m → (σ m).result p begun = some result) ∧
      CutShort p (start p context cancelled) s (σ n) result := by
  have hp : p.Sound := plan ▸ Plan.sound_make clean settings scope
  refine ⟨fun t later => ⟨fun c => c.reaches cut later, ?_⟩, ⟨_, execution_drive p s, rfl⟩, ?_⟩
  · obtain ⟨new, log, -, subdued⟩ := starts_of_reaches cut later
    exact ⟨new, log, subdued⟩
  · intro σ execution first begun
    obtain ⟨result, n, stays, -⟩ := hp.execution_ends reached execution first begun
    have later : Reaches .free p s (σ n) := first ▸ execution.reaches n
    exact ⟨result, n, stays, cutShort_of_reaches hp reached cut later (stays n (Nat.le_refl n))⟩

/-- The call is not made when the run is cancelled while the mail is sent. -/
theorem call_is_dropped : ∃ context s σ result n,
    Reaches .free .fork (RunState.start .fork context false) s ∧ s.cancelled = true ∧
    "mail" ∈ s.flightIds ∧ Execution .fork σ ∧ σ 0 = s ∧
    (∀ m, n ≤ m → (σ m).result .fork ⟨0, 0⟩ = some result) ∧ result.status = .failed ∧
    ∃ r ∈ result.steps, r.stepId = "call" ∧ r.SkippedAs Branch.cancelled := by
  let s := (Plan.fork.after 20).cancel
  have facts : s.isTerminal "call" = false ∧ "call" ∉ s.flightIds ∧ "call" ∉ s.ahead ∧
      "mail" ∈ s.flightIds := by
    simp only [s, Plan.after, RunState.start, unreachable_fork]
    decide +kernel
  obtain ⟨fresh, idle, away, flight⟩ := facts
  have reached : Reaches .free .fork _ s := (Plan.fork.reaches_after 20).tail (.cancel trivial)
  obtain ⟨-, ⟨σ, execution, first⟩, ends⟩ := cancelled_run_is_cut_short clean_fork rfl reached rfl
  obtain ⟨result, n, stays, short⟩ := ends σ execution first ⟨0, 0⟩
  have declared : "call" ∈ Program.fork.steps.map Step.id := by decide +kernel
  have dropped := short.dropped "call" declared fresh idle away
  have failed := (short.failed ⟨"call", declared, fresh, away⟩).1
  exact ⟨_, s, σ, result, n, reached, rfl, flight, execution, first, stays, failed, dropped⟩

end Playbook
