import Playbook.Proofs.Run.Ledger
import Playbook.Proofs.Run.Onward

/-!
The course of a run. In every state that a run reaches its steps are coherent, no unreachable step
is left, and where the loop stands tells what it knows: when it has scanned all pending steps in
vain and nothing is in flight, all of them wait. In an acyclic graph that cannot be unless none is
pending, so when the run is over every step has its result.
-/
namespace Playbook
namespace RunState

/-- What the loop knows where it stands. -/
def Steady (p : Plan) (s : RunState) : Prop :=
  match s.control with
  | .looking => True
  | .scanning rest progressed => progressed = false → s.inFlight = 0 →
      ∀ id ∈ s.pending, id ∉ rest → s.readiness p id = .waiting
  | .choosing progressed => progressed = false → s.cancelled = false → s.inFlight = 0 →
      ∀ id ∈ s.pending, s.readiness p id = .waiting
  | .draining => s.cancelled = true
  | _ => s.pending = [] ∧ s.inFlight = 0

structure Orderly (p : Plan) (s : RunState) : Prop extends Coherent p s where
  connected : ∀ id ∈ s.pending, id ∉ p.unreachable
  steady : Steady p s

/-- Only a cancelled run is drained. -/
theorem Orderly.cancelled_of_draining {p : Plan} {s : RunState} (h : Orderly p s)
    (control : s.control = .draining) : s.cancelled = true := by
  have steady := h.steady
  unfold Steady at steady
  rw [control] at steady
  exact steady

/-- Steps that are pending while nothing is in flight do not all wait: one without pending
predecessors does not. -/
theorem Coherent.pending_eq_nil {p : Plan} {s : RunState} (hp : p.Sound) (h : Coherent p s)
    (idle : s.inFlight = 0) (waits : ∀ id ∈ s.pending, s.readiness p id = .waiting) :
    s.pending = [] := by
  by_contra hne
  obtain ⟨id, hid, first⟩ := (hp.acyclic.wellFounded hp.bounded).has_min {id | id ∈ s.pending}
    (List.exists_mem_of_ne_nil _ hne)
  obtain ⟨q, hq, fresh⟩ := readiness_eq_waiting_iff.1 (waits id hid)
  have edge : p.graph.Edge q id := StepGraph.mem_predecessors.1 hq
  have place := h.places.mem_iff.2 (hp.bounded q id edge).1
  rw [flightIds_eq_nil_iff.2 idle, List.nil_append] at place
  rcases List.mem_append.1 place with place | place
  · exact first q place (.single edge)
  · simp [isTerminal_iff.2 place] at fresh

/-- When a run is over nothing is left to do. -/
theorem Orderly.idle {p : Plan} {s : RunState} (h : Orderly p s) (finished : s.isOver = true) :
    s.pending = [] ∧ s.inFlight = 0 := by
  have steady := h.steady
  unfold isOver at finished
  unfold Steady at steady
  split at finished
  · next hc =>
    rw [hc] at steady
    exact steady
  · cases finished

theorem Orderly.idle_jobs {p : Plan} {s : RunState} (h : Orderly p s) (finished : s.isOver = true) :
    s.jobs = [] ∧ s.ended = [] := by
  have idle := (h.idle finished).2
  unfold inFlight at idle
  exact ⟨List.eq_nil_of_length_eq_zero (by omega), List.eq_nil_of_length_eq_zero (by omega)⟩

/-- When a run is over every step has its result. -/
theorem Orderly.resultIds_perm {p : Plan} {s : RunState} (h : Orderly p s)
    (finished : s.isOver = true) : s.resultIds.Perm p.graph.nodes := by
  have places := h.places
  rw [(h.idle finished).1, flightIds_eq_nil_iff.2 (h.idle finished).2] at places
  exact places

section moves

variable {p : Plan} {s t : RunState}

theorem Orderly.close (h : Coherent p s) (pending : s.pending = [])
    (idle : s.inFlight = 0) (interrupted : Bool) : Orderly p (s.close p interrupted) where
  toCoherent := h.of_same rfl rfl rfl rfl id
  connected := by
    change ∀ id ∈ s.pending, id ∉ p.unreachable
    simp [pending]
  steady := ⟨pending, idle⟩

theorem Orderly.leave (hp : p.Sound) (h : Orderly p s) {progressed : Bool}
    (control : s.control = .choosing progressed)
    (ends : s.cancelled = true ∨ s.inFlight = 0 ∧ progressed = false) : Orderly p (s.leave p) := by
  unfold RunState.leave
  split
  · next early =>
    simp only [Bool.and_eq_true] at early
    exact ⟨h.toCoherent.of_same rfl rfl rfl rfl id, h.connected, early.1⟩
  · next finished =>
    have idle : s.pending = [] ∧ s.inFlight = 0 := by
      cases hc : s.cancelled with
      | true => simpa [hc] using finished
      | false =>
        obtain ⟨idle, hn⟩ : s.inFlight = 0 ∧ progressed = false := by simpa [hc] using ends
        have steady := h.steady
        simp only [Steady, control] at steady
        exact ⟨h.pending_eq_nil hp idle (steady hn hc idle), idle⟩
    exact .close h.toCoherent idle.1 idle.2 false

theorem Orderly.finishDraining (hp : p.Sound) (h : Orderly p s) (control : s.control = .draining)
    (ended : s.ended = []) (jobs : s.jobs = []) : Orderly p (s.finishDraining p) := by
  have cancelled := h.cancelled_of_draining control
  unfold RunState.finishDraining
  generalize (if s.fault.isSome then "run aborted after engine fault" else "run cancelled") = reason
  have nodup := h.nodup_pending hp
  have same := sameFrame_skips s.pending Branch.cancelled reason s
  refine .close ?_ ?_ ?_ true
  · have skip : ∀ t, ∀ id ∈ s.pending, id ∈ t.pending → Coherent p t ∧ t.cancelled = true →
        Coherent p (t.skip id Branch.cancelled reason) ∧
          (t.skip id Branch.cancelled reason).cancelled = true := by
      rintro t id hid pending ⟨coherent, cancelled⟩
      exact ⟨coherent.skip_cancelled (h.connected id hid) cancelled pending, cancelled⟩
    exact (skips_keep skip nodup (fun _ hid => hid) ⟨h.toCoherent, cancelled⟩).1
  · exact List.eq_nil_iff_forall_not_mem.2 fun id hid =>
      ((mem_pending_skips nodup).1 hid).2 ((mem_pending_skips nodup).1 hid).1
  · unfold inFlight
    rw [same.jobs, same.ended, ended, jobs]
    rfl

theorem Orderly.act (hp : p.Sound) (h : Orderly p s) (m : Act p s t) : Orderly p t := by
  have steady := h.steady
  unfold Steady at steady
  cases m with
  | look control =>
    refine ⟨h.toCoherent.of_same rfl rfl rfl rfl id, h.connected, ?_⟩
    unfold rescan Steady
    cases hc : s.cancelled with
    | true => exact fun _ hn => by simp at hn
    | false => exact fun _ _ id hid hn => absurd hid hn
  | scanned control =>
    rw [control] at steady
    refine ⟨h.toCoherent.of_same rfl rfl rfl rfl id, h.connected, ?_⟩
    exact fun hn _ idle id hid => steady hn idle id hid (by simp)
  | @pass id rest progressed control idle =>
    rw [control] at steady
    refine ⟨h.toCoherent.of_same rfl rfl rfl rfl fun hc => hc, h.connected, ?_⟩
    intro hn hidle x hx hrest
    by_cases hxid : x = id
    · subst hxid
      rcases idle hx with waits | ⟨-, full | missing⟩
      · exact waits
      · have := hp.slots
        have hidle : s.inFlight = 0 := hidle
        omega
      · have := hp.step?_isSome (h.places.subset (List.mem_append_left _ hx))
        simp [missing] at this
    · exact steady hn hidle x hx (by simp [hxid, hrest])
  | @skip id rest progressed branch reason control pending skips =>
    have coherent := h.toCoherent.skip pending fun r hr result =>
      .bypassed (hr ▸ h.connected id pending) (hr ▸ skips) (hr ▸ result)
    refine ⟨coherent.of_same rfl rfl rfl rfl fun hc => hc,
      fun x hx => h.connected x (List.mem_of_mem_erase hx), ?_⟩
    exact fun hn => Bool.noConfusion hn
  | @expire id rest progressed control pending ready place late =>
    have coherent := h.toCoherent.decide
      (r := (StepResult.failed id 0 .deadline .unevaluated).between s.now s.now) pending
      (.late (h.connected id pending) ready late rfl)
    refine ⟨coherent.of_same rfl rfl rfl rfl fun hc => hc,
      fun x hx => h.connected x (List.mem_of_mem_erase hx), ?_⟩
    exact fun hn => Bool.noConfusion hn
  | @launch id rest progressed step control pending ready place early found =>
    obtain rfl := Program.id_of_step? found
    have coherent := h.toCoherent.launch (List.mem_of_find?_eq_some found) pending
      (h.connected _ pending) ready
    refine ⟨coherent.of_same rfl rfl rfl rfl fun hc => hc,
      fun x hx => h.connected x (List.mem_of_mem_erase hx), ?_⟩
    intro _ idle
    simp [inFlight, RunState.launch] at idle
  | again control =>
    exact ⟨h.toCoherent.of_same rfl rfl rfl rfl id, h.connected, trivial⟩
  | leave control ends => exact h.leave hp control ends
  | takeIn control goesOn ended =>
    refine ⟨(h.toCoherent.takeIn ended).of_same rfl rfl rfl rfl fun hc => hc, ?_,
      trivial⟩
    rw [pending_takeIn]
    exact h.connected
  | drain control ended =>
    rw [control] at steady
    refine ⟨h.toCoherent.takeIn ended, ?_, ?_⟩
    · rw [pending_takeIn]
      exact h.connected
    · unfold Steady
      rw [control_takeIn, control]
      exact cancelled_takeIn _ _ _ steady
  | finish control ended jobs => exact h.finishDraining hp control ended jobs

theorem Orderly.poll (hp : p.Sound) (h : Orderly p s) {turn : Nat} {id : String}
    (m : Poll p turn id s t) : Orderly p t := by
  have frame := m.frame
  have ready := fun x => readiness_of_results (p := p) frame.results x
  refine ⟨h.toCoherent.poll hp m, frame.pending ▸ h.connected, ?_⟩
  have steady := h.steady
  unfold Steady at *
  simpa only [frame.control, frame.cancelled, frame.inFlight, frame.pending, ready] using steady

theorem Orderly.move {o : Surroundings} (hp : p.Sound) (h : Orderly p s) (m : Move o p s t) :
    Orderly p t := by
  cases m with
  | act m => exact h.act hp (act_of_act? m)
  | poll m => exact h.poll hp (poll_of_poll? m)
  | elapse =>
    exact ⟨h.toCoherent.of_same rfl rfl rfl rfl id, h.connected, h.steady⟩
  | cancel =>
    refine ⟨h.toCoherent.of_same rfl rfl rfl rfl fun _ => rfl, h.connected, ?_⟩
    have steady := h.steady
    unfold Steady RunState.cancel at *
    cases hc : s.control with
    | choosing progressed => exact fun _ hn => Bool.noConfusion hn
    | draining => rfl
    | _ =>
      rw [hc] at steady
      exact steady

theorem Orderly.start (hp : p.Sound) (context : RunContext) (cancelled : Bool) :
    Orderly p (start p context cancelled) := by
  have nodup : p.unreachable.Nodup := hp.nodup_nodes.filter _
  have pending : ∀ id ∈ p.unreachable, id ∈ p.graph.nodes := fun id hid =>
    (hp.mem_unreachable.1 hid).1
  have skip : ∀ t, ∀ id ∈ p.unreachable, id ∈ t.pending → Coherent p t →
      Coherent p (t.skip id Branch.unreachable "not reachable from any entry point") :=
    fun t id stray pending coherent => coherent.skip_unreachable stray pending
  unfold RunState.start
  refine ⟨skips_keep skip nodup pending (.fresh rfl rfl rfl rfl), fun id hid => ?_, ?_⟩
  · exact ((mem_pending_skips hp.nodup_nodes).1 hid).2
  · unfold Steady
    rw [(sameFrame_skips ..).control]
    trivial

/-- Every state that a run reaches is orderly. -/
theorem Orderly.of_reaches {o : Surroundings} (hp : p.Sound) {context : RunContext}
    {cancelled : Bool} (h : Reaches o p (RunState.start p context cancelled) s) : Orderly p s :=
  h.keeps (fun _ _ ho hm => ho.move hp hm) (.start hp context cancelled)

end moves

end RunState
end Playbook
