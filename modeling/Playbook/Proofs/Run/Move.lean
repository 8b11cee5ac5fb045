import Mathlib.Logic.Relation
import Playbook.Run.State

/-!
The moves of a run: the loop acts, a job is polled, and from outside the run is cancelled or time
passes. Any order of moves is an interleaving of the loop and the jobs. What the loop and a poll do
is spelt out once, case by case, so that a property that every case keeps holds in every state that
a run reaches.
-/
namespace Playbook

open Trace (EventKind)

namespace RunState

/-- The acts of the loop, each with what it finds. -/
inductive Act (p : Plan) (s : RunState) : RunState → Prop
  | look (control : s.control = .looking) : Act p s s.rescan
  | scanned {progressed : Bool} (control : s.control = .scanning [] progressed) :
      Act p s { s with control := .choosing progressed }
  /-- nothing comes of the visit: the step is not pending, has to wait, or finds no place -/
  | pass {id : String} {rest : List String} {progressed : Bool}
      (control : s.control = .scanning (id :: rest) progressed)
      (idle : id ∈ s.pending → s.readiness p id = .waiting ∨
        s.readiness p id = .ready ∧ (p.limit ≤ s.inFlight ∨ p.program.step? id = none)) :
      Act p s { s with control := .scanning rest progressed }
  | skip {id : String} {rest : List String} {progressed : Bool} {branch reason : String}
      (control : s.control = .scanning (id :: rest) progressed) (pending : id ∈ s.pending)
      (skips : s.readiness p id = .skip branch reason) :
      Act p s { s.skip id branch reason with control := .scanning rest true }
  /-- the deadline has passed before the step could start -/
  | expire {id : String} {rest : List String} {progressed : Bool}
      (control : s.control = .scanning (id :: rest) progressed) (pending : id ∈ s.pending)
      (ready : s.readiness p id = .ready) (place : s.inFlight < p.limit)
      (late : p.isPastDeadline s.now = true) :
      Act p s { s.decide ((StepResult.failed id 0 .deadline .unevaluated).between s.now s.now) with
        control := .scanning rest true }
  | launch {id : String} {rest : List String} {progressed : Bool} {step : Step}
      (control : s.control = .scanning (id :: rest) progressed) (pending : id ∈ s.pending)
      (ready : s.readiness p id = .ready) (place : s.inFlight < p.limit)
      (early : p.isPastDeadline s.now = false) (found : p.program.step? id = some step) :
      Act p s { s.launch p step with control := .scanning rest progressed }
  | again (control : s.control = .choosing true) (idle : s.inFlight = 0)
      (goesOn : s.cancelled = false) : Act p s { s with control := .looking }
  | leave {progressed : Bool} (control : s.control = .choosing progressed)
      (ends : s.cancelled = true ∨ s.inFlight = 0 ∧ progressed = false) : Act p s (s.leave p)
  | takeIn {progressed : Bool} {e : EndedJob} {rest : List EndedJob}
      (control : s.control = .choosing progressed) (goesOn : s.cancelled = false)
      (ended : s.ended = e :: rest) : Act p s { s.takeIn e rest with control := .looking }
  | drain {e : EndedJob} {rest : List EndedJob} (control : s.control = .draining)
      (ended : s.ended = e :: rest) : Act p s (s.takeIn e rest)
  | finish (control : s.control = .draining) (ended : s.ended = []) (jobs : s.jobs = []) :
      Act p s (s.finishDraining p)

theorem act_of_visit {p : Plan} {s : RunState} {id : String} {rest : List String}
    {progressed : Bool} (control : s.control = .scanning (id :: rest) progressed) :
    Act p s { (s.visit p id).1 with
      control := .scanning rest (progressed || (s.visit p id).2) } := by
  unfold visit
  split
  · next absent =>
    rw [Bool.or_false]
    exact .pass control fun mem => absurd mem absent
  · next present =>
    have mem : id ∈ s.pending := Decidable.of_not_not present
    split
    · next waits =>
      rw [Bool.or_false]
      exact .pass control fun _ => .inl waits
    · next skips =>
      rw [Bool.or_true]
      exact .skip control mem skips
    · next ready =>
      split
      · next full =>
        rw [Bool.or_false]
        exact .pass control fun _ => .inr ⟨ready, .inl full⟩
      · next place =>
        split
        · next late =>
          rw [Bool.or_true]
          exact .expire control mem ready (Nat.lt_of_not_le place) late
        · next early =>
          rw [Bool.not_eq_true] at early
          split
          · next found =>
            rw [Bool.or_false]
            exact .launch control mem ready (Nat.lt_of_not_le place) early found
          · next missing =>
            rw [Bool.or_false]
            exact .pass control fun _ => .inr ⟨ready, .inr missing⟩

/-- The loop does nothing but its acts. -/
theorem act_of_act? {p : Plan} {s s' : RunState} (h : s.act? p = some s') : Act p s s' := by
  unfold act? at h
  cases control : s.control with
  | looking =>
    rw [control] at h
    cases h
    exact .look control
  | scanning rest progressed =>
    rw [control] at h
    cases rest with
    | nil =>
      cases h
      exact .scanned control
    | cons id rest =>
      cases h
      exact act_of_visit control
  | choosing progressed =>
    rw [control] at h
    simp only at h
    split at h
    · next idle =>
      split at h
      · next goesOn =>
        cases h
        simp only [Bool.and_eq_true, Bool.not_eq_true'] at goesOn
        exact .again (goesOn.1 ▸ control) idle goesOn.2
      · next ends =>
        cases h
        refine .leave control ?_
        cases hc : s.cancelled
        · exact .inr ⟨idle, by simpa [hc] using ends⟩
        · exact .inl rfl
    · split at h
      · next cancelled =>
        cases h
        exact .leave control (.inl cancelled)
      · next goesOn =>
        split at h
        · cases h
        · next ended =>
          cases h
          exact .takeIn control (by simpa using goesOn) ended
  | draining =>
    rw [control] at h
    simp only at h
    split at h
    · next ended =>
      cases h
      exact .drain control ended
    · next ended =>
      split at h
      · next jobs =>
        cases h
        exact .finish control ended (by simpa using jobs)
      · cases h
  | _ => simp [control] at h

theorem id_of_find?_job {jobs : List Job} {id : String} {j : Job}
    (found : jobs.find? (isJobOf id) = some j) : j.step.id = id := by
  simpa [isJobOf] using List.find?_some found

/-- What a poll of the job of a step comes to: the job waits again, or it has ended. -/
inductive Poll (p : Plan) (turn : Nat) (id : String) (s : RunState) : RunState → Prop
  | waits {j j' : Job} {log : List LogEntry} (found : s.jobs.find? (isJobOf id) = some j)
      (ready : j.isReady s.now s.cancelled = true)
      (polled : j.poll p s.now turn s.cancelled = (log, .waiting j')) :
      Poll p turn id s { s with
        log := s.log ++ log, jobs := First.replace (isJobOf id) j' s.jobs }
  | ends {j : Job} {outcome : JobOutcome} {log : List LogEntry}
      (found : s.jobs.find? (isJobOf id) = some j) (ready : j.isReady s.now s.cancelled = true)
      (polled : j.poll p s.now turn s.cancelled = (log, .ended outcome)) :
      Poll p turn id s { s with
        log := s.log ++ log, jobs := First.remove (isJobOf id) s.jobs
        ended := s.ended ++ [⟨id, outcome⟩] }

theorem poll_of_poll? {p : Plan} {turn : Nat} {id : String} {s s' : RunState}
    (h : s.poll? p turn id = some s') : Poll p turn id s s' := by
  unfold poll? at h
  split at h
  · cases h
  · next found =>
    split at h
    · next ready =>
      simp only at h
      split at h
      · next polled =>
        cases h
        exact .waits found ready (Prod.ext rfl polled)
      · next polled =>
        cases h
        exact .ends found ready (Prod.ext rfl polled)
    · cases h

/-- What a poll leaves as it is. -/
structure PollFrame (s t : RunState) : Prop where
  control : t.control = s.control
  cancelled : t.cancelled = s.cancelled
  pending : t.pending = s.pending
  results : t.results = s.results
  fault : t.fault = s.fault
  /-- a job that has ended is in flight until it is taken in -/
  inFlight : t.inFlight = s.inFlight

theorem Poll.frame {p : Plan} {turn : Nat} {id : String} {s t : RunState} (h : Poll p turn id s t) :
    PollFrame s t := by
  cases h with
  | @waits j j' log found ready polled =>
    refine ⟨rfl, rfl, rfl, rfl, rfl, ?_⟩
    have length := congrArg List.length (First.map_replace (fun _ => ()) (a := j') found rfl)
    simp only [List.length_map] at length
    simp only [inFlight, length]
  | @ends j outcome log found ready polled =>
    refine ⟨rfl, rfl, rfl, rfl, rfl, ?_⟩
    have length := (First.perm_remove found).length_eq
    simp only [inFlight, length, List.length_cons, List.length_append, List.length_nil]
    omega

end RunState

/-- What may come from outside a run: whether it is cancelled in a state, and how many milliseconds
pass in one. -/
structure Surroundings where
  cancels : RunState → Prop
  elapses : RunState → Nat → Prop

/-- Anything may come from outside at any moment. -/
def Surroundings.free : Surroundings := ⟨fun _ => True, fun _ _ => True⟩

/-- The run may be cancelled at any moment, but the clock does not pass an alarm before the job that
it wakes is polled. -/
def Surroundings.punctual : Surroundings :=
  ⟨fun _ => True, fun s ms => ∀ a ∈ s.alarms, s.now + ms ≤ a.1.due⟩

/-- One move of a run. -/
inductive Move (o : Surroundings) (p : Plan) (s : RunState) : RunState → Prop
  | act {s' : RunState} (h : s.act? p = some s') : Move o p s s'
  | poll {turn : Nat} {id : String} {s' : RunState} (h : s.poll? p turn id = some s') :
      Move o p s s'
  | cancel (h : o.cancels s) : Move o p s s.cancel
  | elapse {ms : Nat} (h : o.elapses s ms) : Move o p s (s.elapse ms)

/-- Any number of moves. -/
def Reaches (o : Surroundings) (p : Plan) : RunState → RunState → Prop :=
  Relation.ReflTransGen (Move o p)

theorem Move.free {o : Surroundings} {p : Plan} {s s' : RunState} (h : Move o p s s') :
    Move .free p s s' := by
  cases h with
  | act h => exact .act h
  | poll h => exact .poll h
  | cancel h => exact .cancel trivial
  | elapse h => exact .elapse trivial

theorem Reaches.free {o : Surroundings} {p : Plan} {s s' : RunState} (h : Reaches o p s s') :
    Reaches .free p s s' :=
  Relation.ReflTransGen.mono (fun _ _ => Move.free) s s' h

/-- A sequence of moves reaches all its states. -/
theorem Reaches.of_moves {o : Surroundings} {p : Plan} {σ : Nat → RunState}
    (moves : ∀ n, Move o p (σ n) (σ (n + 1))) (n : Nat) : Reaches o p (σ 0) (σ n) := by
  induction n with
  | zero => exact .refl
  | succ n ih => exact ih.tail (moves n)

/-- A property that every move keeps holds of every state that a run reaches. -/
theorem Reaches.keeps {o : Surroundings} {p : Plan} {P : RunState → Prop}
    (move : ∀ s s', P s → Move o p s s' → P s') {s s' : RunState} (h : Reaches o p s s')
    (start : P s) : P s' := by
  induction h with
  | refl => exact start
  | tail _ hm ih => exact move _ _ ih hm

end Playbook
