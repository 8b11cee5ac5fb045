import Playbook.Proofs.Run.Termination

/-!
The status of a run. It is told by the results when the run is over: where no engine fault and no
cancellation came in between, the run is completed when every failure is tolerated.
-/
namespace Playbook
namespace RunState

variable {p : Plan}

/-- What a run that is over says of itself, and that every fault has cancelled it. -/
structure Told (p : Plan) (s : RunState) : Prop where
  fault : s.fault ≠ none → s.cancelled = true
  status : ∀ status reason elapsed, s.control = .over status reason elapsed →
    ∃ interrupted, (interrupted = true → s.cancelled = true) ∧
      reason = failureReason p { s with now := elapsed } interrupted ∧
      status = if reason.isSome then .failed else .completed

theorem Told.of_going {s : RunState} (fault : s.fault ≠ none → s.cancelled = true)
    (going : s.isOver = false) : Told p s where
  fault := fault
  status status reason elapsed hc := by
    unfold isOver at going
    rw [hc] at going
    cases going

theorem Told.close {s : RunState} (fault : s.fault ≠ none → s.cancelled = true) {interrupted : Bool}
    (cancelled : interrupted = true → s.cancelled = true) : Told p (s.close p interrupted) where
  fault := fault
  status status reason elapsed hc := by
    cases hc
    exact ⟨interrupted, cancelled, rfl, rfl⟩

theorem cancelled_of_fault_takeIn {s : RunState} {e : EndedJob} {rest : List EndedJob}
    (h : s.fault ≠ none → s.cancelled = true) :
    (s.takeIn e rest).fault ≠ none → (s.takeIn e rest).cancelled = true := by
  unfold takeIn absorb
  split
  · exact h
  · exact fun _ => rfl

theorem Told.act {s t : RunState} (ho : Orderly p s) (h : Told p s) (m : Act p s t) : Told p t := by
  cases m with
  | look control =>
    refine .of_going h.fault ?_
    unfold rescan isOver
    cases s.cancelled <;> rfl
  | scanned | pass | skip | expire | launch | again => exact .of_going h.fault rfl
  | leave =>
    unfold RunState.leave
    split
    · exact .of_going h.fault rfl
    · exact .close h.fault Bool.noConfusion
  | takeIn => exact .of_going (cancelled_of_fault_takeIn h.fault) rfl
  | drain control =>
    refine .of_going (cancelled_of_fault_takeIn h.fault) ?_
    unfold isOver
    rw [control_takeIn, control]
  | finish control =>
    have cancelled := ho.cancelled_of_draining control
    have same := sameFrame_skips s.pending Branch.cancelled
      (if s.fault.isSome then "run aborted after engine fault" else "run cancelled") s
    refine .close (fun _ => ?_) fun _ => ?_
    · rw [same.cancelled, cancelled]
    · rw [same.cancelled, cancelled]

theorem Told.move {o : Surroundings} {s t : RunState} (ho : Orderly p s) (h : Told p s)
    (m : Move o p s t) : Told p t := by
  cases m with
  | act m => exact h.act ho (act_of_act? m)
  | poll m => cases poll_of_poll? m <;> exact ⟨h.fault, h.status⟩
  | elapse => exact ⟨h.fault, h.status⟩
  | cancel =>
    refine ⟨fun _ => rfl, fun status reason elapsed hc => ?_⟩
    obtain ⟨interrupted, -, hr⟩ := h.status status reason elapsed hc
    exact ⟨interrupted, fun _ => rfl, hr⟩

theorem Told.of_reaches {o : Surroundings} (hp : p.Sound) {context : RunContext} {cancelled : Bool}
    {s : RunState} (h : Reaches o p (RunState.start p context cancelled) s) : Told p s := by
  induction h with
  | refl =>
    refine .of_going (fun fault => absurd (fault_start ..) fault) ?_
    unfold isOver
    rw [control_start]
  | tail h m ih => exact ih.move (.of_reaches hp h) m

/-- A run that was not cancelled is completed when it goes on after every failure. -/
theorem Told.status_eq_completed_iff {s : RunState} (h : Told p s) (calm : s.cancelled = false)
    {start : Instant} {result : RunResult} (hr : s.result p start = some result) :
    result.status = .completed ↔
      ∀ r ∈ s.results, r.status = .failed → p.tolerates r.stepId = true := by
  have faultless : s.fault = none := by
    by_contra fault
    simp [h.fault fault] at calm
  unfold RunState.result at hr
  split at hr
  · next status reason elapsed hc =>
    cases hr
    obtain ⟨interrupted, cut, hreason, hstatus⟩ := h.status status reason elapsed hc
    have uncut : interrupted = false := by
      cases interrupted with
      | false => rfl
      | true => simp [cut rfl] at calm
    have none_iff : reason = none ↔ s.firstBlockingFailure p = none := by
      rw [hreason]
      unfold failureReason
      simp only [faultless, uncut, Bool.false_eq_true, if_false, Option.map_eq_none_iff]
      rfl
    have completed : status = .completed ↔ reason = none := by
      rw [hstatus]
      cases reason <;> simp
    rw [completed, none_iff]
    simp [firstBlockingFailure, StepResult.isFailed]
  · cases hr

end RunState
end Playbook
