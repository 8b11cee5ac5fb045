import Mathlib.Order.WellFounded
import Playbook.Proofs.Run.Course

/-!
Every fair execution of a run comes to its end. Whatever the loop or a poll does makes the state
lighter, and so does a cancellation; so only time may pass for ever. But a run that is not over can
go on, or has a job that can once its alarm rings.
-/
namespace Playbook
namespace RunState

/-- The loop acts, or a job is polled. -/
def GoesOn (p : Plan) (s t : RunState) : Prop :=
  s.act? p = some t ∨ ∃ turn id, s.poll? p turn id = some t

theorem wellFounded_lighter : WellFounded Lighter := by
  have wf :
      WellFounded (Prod.Lex (· < ·) (Prod.Lex (· < ·) (· < ·)) : Nat × Nat × Nat → _ → Prop) :=
    WellFoundedRelation.wf
  refine Subrelation.wf (fun {s t} h => ?_)
    (InvImage.wf (fun s : RunState => (s.undecided, s.promised, s.effort)) wf)
  rcases h with hu | ⟨hu, hp | ⟨hp, he⟩⟩
  · exact .left _ _ hu
  · exact Prod.lex_def.2 (.inr ⟨hu, .left _ _ hp⟩)
  · exact Prod.lex_def.2 (.inr ⟨hu, Prod.lex_def.2 (.inr ⟨hp, he⟩)⟩)

theorem GoesOn.lighter {p : Plan} {s t : RunState} (h : GoesOn p s t) : Lighter t s := by
  rcases h with h | ⟨turn, id, h⟩
  · exact act_lighter h
  · exact poll_lighter h

/-- What is lighter than a state was lighter before time passed. -/
theorem lighter_of_elapse {s t : RunState} {ms : Nat} (h : Lighter t (s.elapse ms)) :
    Lighter t s := by
  have le := effort_elapse_le ms s
  rcases h with hu | ⟨hu, hp | ⟨hp, he⟩⟩
  · exact .inl hu
  · exact .inr ⟨hu, .inl hp⟩
  · exact .inr ⟨hu, .inr ⟨hp, Nat.lt_of_lt_of_le he le⟩⟩

/-- A move makes the state lighter, or nothing but time passes. -/
theorem lighter_or_elapses {o : Surroundings} {p : Plan} {s t : RunState} (h : Move o p s t) :
    Lighter t s ∨ ∃ ms, t = s.elapse ms := by
  cases h with
  | act h => exact .inl (act_lighter h)
  | poll h => exact .inl (poll_lighter h)
  | elapse => exact .inr ⟨_, rfl⟩
  | cancel =>
    cases hc : s.cancelled with
    | false => exact .inl (cancel_lighter hc)
    | true => exact .inr ⟨0, by simp [cancel, elapse, ← hc]⟩

theorem isReady_of_rings {j : Job} {a : Alarm} (ha : a ∈ j.alarms) {now : Nat}
    (rings : a.due ≤ now) (cancelled : Bool) : j.isReady now cancelled = true := by
  have any : j.alarms.any (Alarm.rings · now) = true :=
    List.any_eq_true.2 ⟨a, ha, by simpa [Alarm.rings] using rings⟩
  unfold Job.isReady
  cases j.phase <;> simp [any]

/-- A job can be polled from some moment on. -/
theorem exists_isReady (now : Nat) (cancelled : Bool) (j : Job) :
    ∃ ms, ∀ later, ms ≤ later → j.isReady (now + later) cancelled = true := by
  cases hp : j.phase with
  | starting => exact ⟨0, fun _ _ => by simp [Job.isReady, hp]⟩
  | working w =>
    have set : w.wake ∈ j.alarms := by simp [Job.alarms, hp]
    exact ⟨w.wake.due, fun later hl => isReady_of_rings set (by omega) cancelled⟩
  | backingOff wake last =>
    have set : wake ∈ j.alarms := by simp [Job.alarms, hp]
    exact ⟨wake.due, fun later hl => isReady_of_rings set (by omega) cancelled⟩

theorem exists_polled {p : Plan} {s : RunState} {id : String} {j : Job}
    (found : s.jobs.find? (isJobOf id) = some j) (ready : j.isReady s.now s.cancelled = true)
    (turn : Nat) : ∃ t, s.poll? p turn id = some t := by
  unfold poll?
  simp only [found, ready, if_true]
  split <;> exact ⟨_, rfl⟩

/-- Whether the loop waits for jobs when there are some and none has ended. -/
def awaits (s : RunState) : Bool :=
  match s.control with
  | .choosing _ => !s.cancelled
  | .draining => true
  | _ => false

/-- The loop stands still when the run is over or when it waits for jobs. -/
theorem act?_eq_none_iff {p : Plan} {s : RunState} :
    s.act? p = none ↔ s.isOver = true ∨ s.awaits = true ∧ s.ended = [] ∧ s.jobs ≠ [] := by
  unfold act? isOver awaits inFlight
  cases s.control with
  | looking => simp
  | scanning rest progressed => cases rest <;> simp
  | choosing progressed =>
    cases he : s.ended <;> cases hj : s.jobs <;> cases hc : s.cancelled <;> cases progressed <;>
      simp
  | draining => cases he : s.ended <;> cases hj : s.jobs <;> simp
  | _ => simp

/-- A run that is not over can go on, or can when enough time has passed. -/
theorem exists_goesOn {p : Plan} {s : RunState} (h : s.isOver = false) :
    ∃ ms, ∀ later, ms ≤ later → ∃ t, GoesOn p (s.elapse later) t := by
  by_cases acts : s.act? p = none
  · obtain ⟨-, -, hne⟩ := (act?_eq_none_iff.1 acts).resolve_left (by simp [h])
    obtain ⟨j, rest, hj⟩ := List.exists_cons_of_ne_nil hne
    obtain ⟨ms, ready⟩ := exists_isReady s.now s.cancelled j
    refine ⟨ms, fun later hl => ?_⟩
    have found : (s.elapse later).jobs.find? (isJobOf j.step.id) = some j := by
      change s.jobs.find? (isJobOf j.step.id) = some j
      rw [hj, List.find?_cons_of_pos (by simp [isJobOf])]
    obtain ⟨t, ht⟩ := exists_polled (p := p) found (ready later hl) 0
    exact ⟨t, .inr ⟨0, j.step.id, ht⟩⟩
  · refine ⟨0, fun later _ => ?_⟩
    have acts : (s.elapse later).act? p ≠ none := by
      rw [act?_eq_none_iff] at acts
      rw [ne_eq, act?_eq_none_iff]
      exact acts
    obtain ⟨t, ht⟩ := Option.ne_none_iff_exists'.1 acts
    exact ⟨t, .inl ht⟩

end RunState

/-- An execution of a run, move by move. It is fair: when something can go on, something does some
day, and the clock does not stand still. -/
structure Execution (p : Plan) (σ : ℕ → RunState) : Prop where
  move : ∀ n, Move .free p (σ n) (σ (n + 1))
  busy : ∀ n t, (σ n).GoesOn p t → ∃ m, n ≤ m ∧ (σ m).GoesOn p (σ (m + 1))
  clock : ∀ n moment, ∃ m, n ≤ m ∧ moment ≤ (σ m).now

namespace Execution

variable {p : Plan} {σ : ℕ → RunState}

theorem reaches (h : Execution p σ) (n : ℕ) : Reaches .free p (σ 0) (σ n) := .of_moves h.move n

theorem drop (h : Execution p σ) (k : ℕ) : Execution p fun n => σ (k + n) where
  move n := h.move (k + n)
  busy n t ht := by
    obtain ⟨m, hm, hgo⟩ := h.busy (k + n) t ht
    obtain ⟨d, rfl⟩ := Nat.exists_eq_add_of_le hm
    exact ⟨n + d, Nat.le_add_right n d, by simpa only [Nat.add_assoc] using hgo⟩
  clock n moment := by
    obtain ⟨m, hm, hc⟩ := h.clock (k + n) moment
    obtain ⟨d, rfl⟩ := Nat.exists_eq_add_of_le hm
    exact ⟨n + d, Nat.le_add_right n d, by simpa only [Nat.add_assoc] using hc⟩

/-- After some moves the state is lighter, or nothing but time has passed. -/
theorem lighter_or_elapsed (h : Execution p σ) (n : ℕ) :
    (∃ m, (σ m).Lighter (σ 0)) ∨ ∃ ms, σ n = (σ 0).elapse ms := by
  induction n with
  | zero => exact .inr ⟨0, rfl⟩
  | succ n ih =>
    rcases ih with lighter | ⟨ms, hn⟩
    · exact .inl lighter
    · rcases RunState.lighter_or_elapses (h.move n) with hl | ⟨more, he⟩
      · exact .inl ⟨n + 1, RunState.lighter_of_elapse (hn ▸ hl)⟩
      · refine .inr ⟨ms + more, ?_⟩
        rw [he, hn]
        simp [RunState.elapse, Nat.add_assoc]

/-- As long as the run is not over the state gets lighter some day. -/
theorem exists_lighter (h : Execution p σ) (going : (σ 0).isOver = false) :
    ∃ m, (σ m).Lighter (σ 0) := by
  obtain ⟨ms, ready⟩ := RunState.exists_goesOn (p := p) going
  obtain ⟨n, -, late⟩ := h.clock 0 ((σ 0).now + ms)
  rcases h.lighter_or_elapsed n with lighter | ⟨later, hn⟩
  · exact lighter
  · have enough : ms ≤ later := by
      rw [hn] at late
      simp only [RunState.elapse] at late
      omega
    obtain ⟨t, ht⟩ := ready later enough
    obtain ⟨m, -, goesOn⟩ := h.busy n t (hn ▸ ht)
    rcases h.lighter_or_elapsed m with lighter | ⟨passed, hm⟩
    · exact lighter
    · exact ⟨m + 1, RunState.lighter_of_elapse (hm ▸ goesOn.lighter)⟩

/-- Every execution comes to the end of the run. -/
theorem exists_isOver (h : Execution p σ) : ∃ n, (σ n).isOver = true := by
  induction hs : σ 0 using RunState.wellFounded_lighter.induction generalizing σ with
  | _ s ih =>
    cases finished : (σ 0).isOver with
    | true => exact ⟨0, finished⟩
    | false =>
      obtain ⟨m, lighter⟩ := h.exists_lighter finished
      obtain ⟨n, hn⟩ := ih (σ m) (hs ▸ lighter) (h.drop m) rfl
      exact ⟨m + n, hn⟩

end Execution

/-! ### There are executions -/

namespace RunState

/-- The next move of a run that nothing disturbs: the loop acts, or else a job is polled, or else
some time passes. -/
def drive (p : Plan) (s : RunState) : RunState :=
  match s.act? p with
  | some t => t
  | none => (s.jobs.findSome? fun j => s.poll? p 0 j.step.id).getD (s.elapse 1)

/-- Whether a job can be polled does not depend on how many polls there have been. -/
theorem exists_poll? {p : Plan} {turn : Nat} {id : String} {s t : RunState}
    (h : s.poll? p turn id = some t) :
    ∃ j ∈ s.jobs, j.step.id = id ∧ s.poll? p 0 j.step.id ≠ none := by
  cases poll_of_poll? h with
  | @waits j j' log found ready polled | @ends j outcome log found ready polled =>
    have hid := id_of_find?_job found
    refine ⟨j, List.mem_of_find?_eq_some found, hid, ?_⟩
    obtain ⟨t, ht⟩ := exists_polled (p := p) found ready 0
    simp [hid, ht]

theorem drive_cases (p : Plan) (s : RunState) :
    GoesOn p s (s.drive p) ∨ s.drive p = s.elapse 1 ∧ ∀ t, ¬ GoesOn p s t := by
  unfold drive
  split
  · next ht => exact .inl (.inl ht)
  · next hn =>
    cases hp : s.jobs.findSome? fun j => s.poll? p 0 j.step.id with
    | some t =>
      obtain ⟨j, -, hj⟩ := List.exists_of_findSome?_eq_some hp
      exact .inl (.inr ⟨0, j.step.id, hj⟩)
    | none =>
      refine .inr ⟨rfl, ?_⟩
      rintro t (ht | ⟨turn, id, ht⟩)
      · simp [hn] at ht
      · obtain ⟨j, hj, -, polls⟩ := exists_poll? ht
        exact polls (List.findSome?_eq_none_iff.1 hp j hj)

theorem move_drive (p : Plan) (s : RunState) : Move .free p s (s.drive p) := by
  rcases drive_cases p s with (h | ⟨turn, id, h⟩) | ⟨h, -⟩
  · exact .act h
  · exact .poll h
  · exact h ▸ .elapse trivial

/-- Driven on, a run comes to a later moment. -/
theorem exists_later (p : Plan) (s : RunState) : ∃ k, s.now < ((drive p)^[k] s).now := by
  induction s using wellFounded_lighter.induction with
  | _ s ih =>
    rcases drive_cases p s with goesOn | ⟨h, -⟩
    · obtain ⟨k, hk⟩ := ih _ goesOn.lighter
      exact ⟨k + 1, Nat.lt_of_le_of_lt (move_drive p s).onward.now hk⟩
    · refine ⟨1, ?_⟩
      rw [Function.iterate_one, h]
      exact Nat.lt_succ_self _

end RunState

open RunState in
/-- Every state has an execution. -/
theorem execution_drive (p : Plan) (s : RunState) : Execution p fun n => (drive p)^[n] s where
  move n := by
    rw [Function.iterate_succ_apply']
    exact move_drive p _
  busy n t ht := by
    refine ⟨n, Nat.le_refl n, ?_⟩
    rw [Function.iterate_succ_apply']
    exact (drive_cases p _).resolve_right fun h => h.2 t ht
  clock n moment := by
    induction moment with
    | zero => exact ⟨n, Nat.le_refl n, Nat.zero_le _⟩
    | succ moment ih =>
      obtain ⟨m, hm, late⟩ := ih
      obtain ⟨k, hk⟩ := exists_later p ((drive p)^[m] s)
      refine ⟨k + m, Nat.le_trans hm (Nat.le_add_left m k), ?_⟩
      rw [Function.iterate_add_apply]
      omega

/-- Where the run of a plan stands after some moves that nothing disturbs. -/
def Plan.after (p : Plan) (moves : ℕ) : RunState :=
  (RunState.drive p)^[moves]
    (RunState.start p { runId := "run", tenantId := "tenant", now := ⟨0, 0⟩ } false)

theorem Plan.reaches_after (p : Plan) (moves : ℕ) : Reaches .free p (RunState.start p
    { runId := "run", tenantId := "tenant", now := ⟨0, 0⟩ } false) (p.after moves) :=
  (execution_drive p _).reaches moves

/-! ### The end -/

namespace RunState

/-- What a run ends with stays. -/
theorem Orderly.result_of_move {o : Surroundings} {p : Plan} {s t : RunState} (h : Orderly p s)
    (finished : s.isOver = true) (m : Move o p s t) :
    t.isOver = true ∧ ∀ start, t.result p start = s.result p start := by
  cases m with
  | act m => simp [act?_eq_none_iff.2 (.inl finished)] at m
  | poll m => simp [poll?, (h.idle_jobs finished).1] at m
  | cancel | elapse => exact ⟨finished, fun _ => rfl⟩

/-- A run that is over has a result, which lists the results of the steps. -/
theorem exists_result {p : Plan} {s : RunState} (finished : s.isOver = true) (start : Instant) :
    ∃ result, s.result p start = some result ∧ result.steps = s.results := by
  unfold isOver at finished
  unfold result
  split at finished
  · exact ⟨_, rfl, rfl⟩
  · cases finished

theorem isOver_of_result {p : Plan} {s : RunState} {start : Instant} {result : RunResult}
    (h : s.result p start = some result) : s.isOver = true ∧ result.steps = s.results := by
  unfold RunState.result at h
  unfold isOver
  split at h
  · cases h
    exact ⟨rfl, rfl⟩
  · cases h

theorem variables_of_result {p : Plan} {s : RunState} {start : Instant} {result : RunResult}
    (h : s.result p start = some result) : result.variables = s.context.variables := by
  unfold RunState.result at h
  split at h
  · cases h
    rfl
  · cases h

theorem Orderly.status {p : Plan} {s : RunState} (h : Orderly p s) {r : StepResult}
    (mem : r ∈ s.results) : r.status = .completed ∨ r.status = .skipped ∨ r.status = .failed := by
  have := (h.accounted.origin mem).status
  cases hr : r.status <;> simp_all

end RunState

/-- A run is executed to its end: from every state that it reaches there is an execution, and every
execution comes to a result for good. It lists each step of the program once. -/
theorem Plan.Sound.execution_ends {p : Plan} (hp : p.Sound) {context : RunContext}
    {cancelled : Bool} {s : RunState}
    (h : Reaches .free p (RunState.start p context cancelled) s) {σ : ℕ → RunState}
    (execution : Execution p σ) (first : σ 0 = s) (start : Instant) :
    ∃ result n, (∀ m, n ≤ m → (σ m).result p start = some result) ∧
      (result.steps.map StepResult.stepId).Perm (p.program.steps.map Step.id) ∧
      ∀ r ∈ result.steps, r.status = .completed ∨ r.status = .skipped ∨ r.status = .failed := by
  have orderly : ∀ n, (σ n).Orderly p := fun n =>
    RunState.Orderly.of_reaches hp (h.trans (first ▸ execution.reaches n))
  obtain ⟨n, finished⟩ := execution.exists_isOver
  obtain ⟨result, hresult, steps⟩ := RunState.exists_result (p := p) finished start
  refine ⟨result, n, fun m hm => ?_, ?_, ?_⟩
  · have stays : ∀ d, (σ (n + d)).isOver = true ∧ (σ (n + d)).result p start = some result := by
      intro d
      induction d with
      | zero => exact ⟨finished, hresult⟩
      | succ d ih =>
        obtain ⟨finished, same⟩ := (orderly (n + d)).result_of_move ih.1 (execution.move (n + d))
        exact ⟨finished, (same start).trans ih.2⟩
    obtain ⟨d, rfl⟩ := Nat.exists_eq_add_of_le hm
    exact (stays d).2
  · rw [steps]
    exact ((orderly n).resultIds_perm finished).trans hp.nodes_perm
  · rw [steps]
    exact fun r mem => (orderly n).status mem

end Playbook
