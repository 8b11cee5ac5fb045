import Playbook.Proofs.Run.Termination

/-!
A virtual clock. Time passes only while everything waits, and never past an alarm; so whatever a run
waits for, it goes on in the very moment for which the alarm was set. Driven runs are of this kind.
-/
namespace Playbook
namespace RunState

/-- Whether everything waits for some milliseconds: the loop stands still, no job is ready, and no
alarm rings earlier. -/
def rests (p : Plan) (ms : Nat) (s : RunState) : Bool :=
  (s.act? p).isNone && s.jobs.all (fun j => !j.isReady s.now s.cancelled) &&
    s.alarms.all fun a => s.now + ms ≤ a.1.due

/-- What it means that everything waits. -/
structure Rests (p : Plan) (ms : Nat) (s : RunState) : Prop where
  still : s.act? p = none
  idle : ∀ j ∈ s.jobs, j.isReady s.now s.cancelled = false
  early : ∀ a ∈ s.alarms, s.now + ms ≤ a.1.due

theorem rests_iff {p : Plan} {ms : Nat} {s : RunState} : s.rests p ms = true ↔ s.Rests p ms := by
  simp only [rests, Bool.and_eq_true, Option.isNone_iff_eq_none, List.all_eq_true,
    Bool.not_eq_true', decide_eq_true_eq]
  exact ⟨fun ⟨⟨still, idle⟩, early⟩ => ⟨still, idle, early⟩, fun h => ⟨⟨h.1, h.2⟩, h.3⟩⟩

theorem mem_alarms {s : RunState} {j : Job} (hj : j ∈ s.jobs) {a : Alarm} (set : a ∈ j.alarms) :
    (a, j.step.id) ∈ s.alarms :=
  List.mem_flatMap.2 ⟨j, hj, List.mem_map.2 ⟨a, set, rfl⟩⟩

end RunState

/-- The run may be cancelled at any moment, but time passes only while everything waits. -/
def Surroundings.patient (p : Plan) : Surroundings := ⟨fun _ => True, fun s ms => s.rests p ms = true⟩

theorem Move.punctual {p : Plan} {s t : RunState} (m : Move (.patient p) p s t) :
    Move .punctual p s t := by
  cases m with
  | act h => exact .act h
  | poll h => exact .poll h
  | cancel => exact .cancel trivial
  | elapse rests => exact .elapse (RunState.rests_iff.1 rests).early

theorem Reaches.punctual {p : Plan} {s t : RunState} (h : Reaches (.patient p) p s t) :
    Reaches .punctual p s t :=
  Relation.ReflTransGen.mono (fun _ _ => Move.punctual) s t h

namespace RunState

variable {p : Plan} {s : RunState} {context : RunContext} {cancelled : Bool}

/-- Where nothing can go on, everything waits for a millisecond at least. -/
theorem Orderly.rests_of_stuck (hp : p.Sound) (ho : Orderly p s) (stuck : ∀ t, ¬ GoesOn p s t) :
    s.rests p 1 = true := by
  have still : s.act? p = none :=
    Option.eq_none_iff_forall_ne_some.2 fun t acts => stuck t (.inl acts)
  have idle : ∀ j ∈ s.jobs, j.isReady s.now s.cancelled = false := by
    refine fun j hj => Bool.eq_false_iff.2 fun ready => ?_
    obtain ⟨t, polls⟩ := exists_polled (p := p) (ho.find?_job hp hj) ready 0
    exact stuck t (.inr ⟨0, j.step.id, polls⟩)
  refine rests_iff.2 ⟨still, idle, fun a ha => ?_⟩
  obtain ⟨j, hj, woken⟩ := List.mem_flatMap.1 ha
  obtain ⟨alarm, set, rfl⟩ := List.mem_map.1 woken
  by_contra passed
  change ¬ s.now + 1 ≤ alarm.due at passed
  have ready := isReady_of_rings set (by omega : alarm.due ≤ s.now) s.cancelled
  simp [idle j hj] at ready

/-- A driven run lets time pass on a virtual clock only. -/
theorem Orderly.move_drive (hp : p.Sound) (ho : Orderly p s) :
    Move (.patient p) p s (s.drive p) := by
  rcases drive_cases p s with (h | ⟨turn, id, h⟩) | ⟨h, stuck⟩
  · exact .act h
  · exact .poll h
  · exact h ▸ .elapse (ho.rests_of_stuck hp stuck)

/-- A run on a virtual clock can be driven on. -/
theorem reaches_driven (hp : p.Sound)
    (reached : Reaches (.patient p) p (start p context cancelled) s) (n : ℕ) :
    Reaches (.patient p) p (start p context cancelled) ((drive p)^[n] s) := by
  induction n with
  | zero => exact reached
  | succ n ih =>
    rw [Function.iterate_succ_apply']
    exact ih.tail ((Orderly.of_reaches hp ih).move_drive hp)

/-- A run in which everything waits is driven on when the time has passed. -/
theorem reaches_rested (hp : p.Sound)
    (reached : Reaches (.patient p) p (start p context cancelled) s) {ms : Nat}
    (rests : s.rests p ms = true) (n : ℕ) :
    Reaches (.patient p) p (start p context cancelled) ((drive p)^[n] (s.elapse ms)) :=
  reaches_driven hp (reached.tail (.elapse rests)) n

/-- The clock of a driven run passes no alarm. -/
theorem reaches_drive (hp : p.Sound) (context : RunContext) (cancelled : Bool) (n : ℕ) :
    Reaches .punctual p (start p context cancelled) ((drive p)^[n] (start p context cancelled)) :=
  (reaches_driven hp .refl n).punctual

end RunState

theorem Plan.Sound.reaches_after {p : Plan} (hp : p.Sound) (moves : ℕ) :
    Reaches (.patient p) p (RunState.start p
      { runId := "run", tenantId := "tenant", now := ⟨0, 0⟩ } false) (p.after moves) :=
  RunState.reaches_driven hp .refl moves

end Playbook
