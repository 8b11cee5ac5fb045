import Playbook.Proofs.Run.Termination

/-!
The order of a run. An attempt at a step starts only when all predecessors of the step have their
results and these let it start; and since results stay where they are, the result of a step that
was in flight stands behind those of its predecessors.
-/
namespace Playbook

open Trace (EventKind)

/-- Whether the entry tells that an attempt is followed by another one. -/
def LogEntry.isRetry (e : LogEntry) : Bool := e.kind matches .stepRetried ..

/-- Whether the entry is the start of an attempt. -/
def LogEntry.isStart (e : LogEntry) : Bool := e.kind matches .stepStarted

namespace Job

/-- Everything that a poll records is about the step of the job. -/
def Concerns (j : Job) (log : List LogEntry) : Prop := ∀ e ∈ log, e.stepId = some j.step.id

theorem concerns_goOn {p : Plan} {now turn : Nat} {j : Job} {w : Working} :
    j.Concerns (j.goOn p now turn w).1 := by
  have entries : ∀ events : List EventKind, j.Concerns (events.map (j.entry now)) := by
    intro events e he
    obtain ⟨kind, -, rfl⟩ := List.mem_map.1 he
    rfl
  unfold goOn
  split
  next events halt heq =>
    cases halt with
    | done | panic => exact entries events
    | asleep ms rest =>
      simp only
      split <;> exact entries events

theorem concerns_start {p : Plan} {now turn : Nat} {cancelled : Bool} {j : Job} :
    j.Concerns (j.start p now turn cancelled).1 := by
  unfold start
  simp only
  split
  · exact List.forall_mem_nil _
  · split
    · exact List.forall_mem_singleton.2 rfl
    · exact List.forall_mem_cons.2 ⟨rfl, concerns_goOn⟩

theorem concerns_conclude {p : Plan} {now turn : Nat} {cancelled : Bool} {left : Nat} {j : Job}
    {r : StepResult} : j.Concerns (conclude p now turn cancelled left j r).1 := by
  induction left generalizing j r with
  | zero => exact List.forall_mem_nil _
  | succ left ih =>
    rw [conclude]
    split
    · simp only
      split
      · exact List.forall_mem_singleton.2 rfl
      · have started : j.Concerns (({ j with retriesLeft := left }.next p r).start p now turn
            cancelled).1 := concerns_start
        split
        · next heq =>
          rw [heq] at started
          exact List.forall_mem_cons.2 ⟨rfl, started⟩
        · next heq =>
          rw [heq] at started
          exact List.forall_mem_cons.2 ⟨rfl, started⟩
        · next heq =>
          rw [heq] at started
          exact List.forall_mem_append.2 ⟨List.forall_mem_cons.2 ⟨rfl, started⟩, ih⟩
    · exact List.forall_mem_nil _

theorem concerns_settle {p : Plan} {now turn : Nat} {cancelled : Bool} {j : Job}
    {stretch : List LogEntry × Stretch} (h : j.Concerns stretch.1) :
    j.Concerns (j.settle p now turn cancelled stretch).1 := by
  obtain ⟨log, stretch⟩ := stretch
  cases stretch with
  | panicked | asleep => exact h
  | result r => exact List.forall_mem_append.2 ⟨h, concerns_conclude⟩

theorem concerns_poll {p : Plan} {now turn : Nat} {cancelled : Bool} {j : Job} :
    j.Concerns (j.poll p now turn cancelled).1 := by
  have nothing : j.Concerns [] := List.forall_mem_nil _
  unfold poll
  split
  · exact concerns_settle (concerns_start)
  · split
    · exact concerns_settle nothing
    · split
      · exact concerns_settle (concerns_goOn)
      · split
        · exact concerns_settle nothing
        · exact nothing
  · split
    · exact nothing
    · split
      · next last _ _ _ => exact concerns_settle (j := j.next p last) concerns_start
      · exact nothing

end Job

namespace RunState

/-- The events that a move adds, of each of which something holds. -/
def Adds (P : LogEntry → Prop) (s t : RunState) : Prop :=
  ∃ new, t.log = s.log ++ new ∧ ∀ e ∈ new, P e

theorem Adds.refl {P : LogEntry → Prop} {s t : RunState} (h : t.log = s.log) : Adds P s t :=
  ⟨[], by rw [h, List.append_nil], List.forall_mem_nil _⟩

theorem Adds.trans {P : LogEntry → Prop} {s t u : RunState} (h : Adds P s t) (h' : Adds P t u) :
    Adds P s u := by
  obtain ⟨new, ht, hnew⟩ := h
  obtain ⟨more, hu, hmore⟩ := h'
  exact ⟨new ++ more, by rw [hu, ht, List.append_assoc], List.forall_mem_append.2 ⟨hnew, hmore⟩⟩

theorem Adds.mono {P Q : LogEntry → Prop} {s t : RunState} (h : Adds P s t)
    (weaker : ∀ e, P e → Q e) : Adds Q s t := by
  obtain ⟨new, ht, hnew⟩ := h
  exact ⟨new, ht, fun e he => weaker e (hnew e he)⟩

/-- An event that the loop itself records: a step has got its result, or the run ends. -/
def OfLoop (e : LogEntry) : Prop :=
  match e.kind with
  | .stepCompleted .. | .stepSkipped .. | .stepFailed .. | .runCompleted .. | .runCancelled => True
  | _ => False

/-- An event that is not the start of an attempt. -/
def NoStart (e : LogEntry) : Prop := e.kind ≠ .stepStarted

theorem OfLoop.noStart {e : LogEntry} (h : OfLoop e) : NoStart e := by
  intro started
  unfold OfLoop at h
  rw [started] at h
  exact h

/-- The entry of a result that is noted. -/
def finishEntry (moment : Nat) (r : StepResult) : LogEntry :=
  ⟨moment, some r.stepId, if r.attempts = 0 then none else some r.attempts, terminalKind r⟩

/-- An event that tells of a result that is noted. -/
def OfResult (e : LogEntry) : Prop := ∃ moment r, e = finishEntry moment r

theorem OfResult.ofLoop {e : LogEntry} (h : OfResult e) : OfLoop e := by
  obtain ⟨moment, r, rfl⟩ := h
  unfold OfLoop finishEntry terminalKind
  cases r.status <;> trivial

theorem adds_decide (s : RunState) (r : StepResult) : Adds OfResult s (s.decide r) :=
  ⟨_, rfl, List.forall_mem_singleton.2 ⟨s.now, r, rfl⟩⟩

theorem adds_takeIn (s : RunState) (e : EndedJob) (rest : List EndedJob) :
    Adds OfResult s (s.takeIn e rest) := by
  obtain ⟨id, outcome⟩ := e
  cases outcome with
  | finished r superseded => exact adds_decide s r
  | panicked message => exact adds_decide s _

theorem adds_skips (ids : List String) (branch reason : String) (s : RunState) :
    Adds OfResult s (ids.foldl (fun s id => s.skip id branch reason) s) := by
  induction ids generalizing s with
  | nil => exact .refl rfl
  | cons id rest ih => exact (adds_decide s _).trans (ih _)

theorem adds_close (p : Plan) (s : RunState) (interrupted : Bool) :
    Adds OfLoop s (s.close p interrupted) :=
  ⟨_, rfl, List.forall_mem_singleton.2 trivial⟩

theorem adds_leave (p : Plan) (s : RunState) : Adds OfLoop s (s.leave p) := by
  unfold leave
  split
  · by_cases hf : s.fault.isNone
    · simp only [hf, if_true]
      exact ⟨_, rfl, List.forall_mem_singleton.2 trivial⟩
    · simp only [hf]
      exact .refl rfl
  · exact adds_close p s false

theorem adds_ofLoop_of_act {p : Plan} {s t : RunState} (h : Act p s t) : Adds OfLoop s t := by
  have noted : ∀ {t u : RunState}, Adds OfResult t u → Adds OfLoop t u := fun added =>
    added.mono fun _ => OfResult.ofLoop
  cases h with
  | look | scanned | pass | again | launch => exact .refl rfl
  | skip | expire => exact (noted (adds_decide s _)).trans (.refl rfl)
  | leave => exact adds_leave p s
  | @takeIn _ e rest => exact (noted (adds_takeIn s e rest)).trans (.refl rfl)
  | @drain e rest => exact noted (adds_takeIn s e rest)
  | finish => exact (noted (adds_skips _ _ _ s)).trans (adds_close p _ true)

/-- The loop itself starts no attempt. -/
theorem adds_of_act {p : Plan} {s t : RunState} (h : Act p s t) : Adds NoStart s t :=
  (adds_ofLoop_of_act h).mono fun _ => OfLoop.noStart

/-- What a poll records is about a step in flight. -/
theorem adds_of_poll {p : Plan} {turn : Nat} {id : String} {s t : RunState}
    (h : Poll p turn id s t) :
    Adds (fun e => ∃ id ∈ s.flightIds, e.stepId = some id) s t := by
  cases h with
  | @waits j _ log found ready polled | @ends j _ log found ready polled =>
    refine ⟨log, rfl, fun e he => ⟨j.step.id, ?_, ?_⟩⟩
    · exact List.mem_append_left _ (List.mem_map.2 ⟨j, List.mem_of_find?_eq_some found, rfl⟩)
    · have concerns : j.Concerns (j.poll p s.now turn s.cancelled).1 := Job.concerns_poll
      rw [polled] at concerns
      exact concerns e he

/-- A step that may start: an entry point leads to it, its predecessors have their results, none
of them failed without being tolerated, and it is a root or some of them was not skipped. -/
structure Cleared (p : Plan) (s : RunState) (id : String) : Prop where
  connected : p.graph.Connected (p.graph.entryPoints p.program) id
  settled : ∀ q, p.graph.Edge q id →
    ∃ r, s.result? q = some r ∧ (r.status = .failed → p.tolerates q = true)
  taken : (∀ q, ¬ p.graph.Edge q id) ∨
    ∃ q r, p.graph.Edge q id ∧ s.result? q = some r ∧ r.status ≠ .skipped

theorem cleared_of_ready {p : Plan} (hp : p.Sound) {s : RunState} {id : String}
    (node : id ∈ p.graph.nodes) (reachable : id ∉ p.unreachable)
    (ready : s.readiness p id = .ready) : Cleared p s id := by
  obtain ⟨settled, taken⟩ := readiness_eq_ready_iff.1 ready
  have results : ∀ q, p.graph.Edge q id → ∃ r, s.result? q = some r := fun q hq =>
    Option.isSome_iff_exists.1 (settled q (StepGraph.mem_predecessors.2 hq)).1
  refine ⟨?_, fun q hq => ?_, ?_⟩
  · by_contra unconnected
    exact reachable (hp.mem_unreachable.2 ⟨node, unconnected⟩)
  · obtain ⟨r, hr⟩ := results q hq
    have free := (settled q (StepGraph.mem_predecessors.2 hq)).2
    refine ⟨r, hr, fun failed => ?_⟩
    simpa [blocks, hr, failed] using free
  · rcases taken with root | ⟨q, hq, taken⟩
    · exact .inl fun q hq => by simpa [root] using StepGraph.mem_predecessors.2 hq
    · have edge := StepGraph.mem_predecessors.1 hq
      obtain ⟨r, hr⟩ := results q edge
      exact .inr ⟨q, r, edge, hr, by simpa [isSkipped, hr] using taken⟩

theorem Coherent.cleared_of_mem {p : Plan} (hp : p.Sound) {s : RunState} (h : Coherent p s)
    {id : String} (hid : id ∈ s.flightIds) : Cleared p s id := by
  obtain ⟨reachable, ready⟩ := h.cleared id hid
  have node := h.places.subset (List.mem_append_right _ (List.mem_append_left _ hid))
  exact cleared_of_ready hp node reachable ready

/-- The result of a step that was in flight comes after those of its predecessors. -/
theorem Orderly.result_after_predecessors {o : Surroundings} {p : Plan} (hp : p.Sound)
    {s t : RunState} (hs : Orderly p s) (ht : Orderly p t) (h : Reaches o p s t)
    (finished : t.isOver = true) {id : String} (hid : id ∈ s.flightIds) :
    ∃ before r after, t.results = before ++ r :: after ∧ r.stepId = id ∧
      ∀ q, p.graph.Edge q id → q ∈ before.map StepResult.stepId := by
  obtain ⟨more, hm⟩ := h.onward.results
  have node := hs.places.subset (List.mem_append_right _ (List.mem_append_left _ hid))
  have fresh : id ∉ s.resultIds := by
    have nodup := (List.nodup_append.1 (hs.places.nodup_iff.2 hp.nodup_nodes)).2.1
    exact fun mem => (List.nodup_append.1 nodup).2.2 id hid id mem rfl
  have mem : id ∈ t.resultIds := (ht.resultIds_perm finished).mem_iff.2 node
  unfold resultIds at mem fresh
  rw [← hm, List.map_append, List.mem_append] at mem
  obtain ⟨r, hr, rfl⟩ := List.mem_map.1 (mem.resolve_left fresh)
  obtain ⟨between, after, rfl⟩ := List.append_of_mem hr
  refine ⟨s.results ++ between, r, after, by rw [← hm, List.append_assoc], rfl, fun q hq => ?_⟩
  obtain ⟨rq, found, -⟩ := (hs.cleared_of_mem hp hid).settled q hq
  obtain ⟨rfl, mem⟩ := stepId_of_result? found
  exact List.mem_map_of_mem (List.mem_append_left _ mem)

end RunState

/-- In every run of a program without blocking issues, in whatever order its jobs go on: an attempt
at a step starts only when the step is cleared, so with all predecessors at their results; these
results are final; and the result of every step that was in flight stands behind those of its
predecessors. -/
theorem starts_after_predecessors {d : Dispatcher} {program : Program}
    (clean : program.Clean d.registry d.evaluator) {settings : ExecutionSettings} {scope : RunScope}
    {p : Plan} (plan : p = Plan.make d settings program scope) {context : RunContext}
    {cancelled : Bool} {s : RunState}
    (reached : Reaches .free p (RunState.start p context cancelled) s) :
    (∀ t, Move .free p s t → ∃ new, t.log = s.log ++ new ∧ ∀ e ∈ new, e.kind = .stepStarted →
      ∃ id, e.stepId = some id ∧ s.Cleared p id) ∧
    (∀ t, Reaches .free p s t → ∀ q r, s.result? q = some r → t.result? q = some r) ∧
    ∀ t start result, Reaches .free p s t → t.result p start = some result →
      ∀ id ∈ s.flightIds, ∃ before r after, result.steps = before ++ r :: after ∧ r.stepId = id ∧
        ∀ q, p.graph.Edge q id → q ∈ before.map StepResult.stepId := by
  have hp : p.Sound := plan ▸ Plan.sound_make clean settings scope
  have orderly := RunState.Orderly.of_reaches hp reached
  refine ⟨fun t move => ?_, fun t later q r hr => ?_, fun t start result later hr id hid => ?_⟩
  · have quiet : s.log = t.log → ∃ new, t.log = s.log ++ new ∧ ∀ e ∈ new, e.kind = .stepStarted →
        ∃ id, e.stepId = some id ∧ s.Cleared p id :=
      fun same => ⟨[], by rw [same, List.append_nil], List.forall_mem_nil _⟩
    cases move with
    | act h =>
      obtain ⟨new, hn, none⟩ := RunState.adds_of_act (RunState.act_of_act? h)
      exact ⟨new, hn, fun e he started => absurd started (none e he)⟩
    | poll h =>
      obtain ⟨new, hn, concerns⟩ := RunState.adds_of_poll (RunState.poll_of_poll? h)
      refine ⟨new, hn, fun e he _ => ?_⟩
      obtain ⟨id, hid, step⟩ := concerns e he
      exact ⟨id, step, orderly.cleared_of_mem hp hid⟩
    | cancel | elapse => exact quiet rfl
  · have terminal : s.isTerminal q = true := by
      unfold RunState.isTerminal
      rw [hr]
      rfl
    exact (RunState.result?_of_isPrefix later.onward.results terminal).trans hr
  · obtain ⟨finished, steps⟩ := RunState.isOver_of_result hr
    rw [steps]
    exact orderly.result_after_predecessors hp (.of_reaches hp (reached.trans later)) later finished
      hid

/-- The mail is sent only after the question was asked. -/
theorem mail_after_ask : ∃ context s t result,
    Reaches .free .fork (RunState.start .fork context false) s ∧ "mail" ∈ s.flightIds ∧
    Reaches .free .fork s t ∧ t.result .fork ⟨0, 0⟩ = some result ∧
    ∃ before r after, result.steps = before ++ r :: after ∧ r.stepId = "mail" ∧
      "ask" ∈ before.map StepResult.stepId := by
  let context : RunContext := { runId := "run", tenantId := "tenant", now := ⟨0, 0⟩ }
  let s := (RunState.drive .fork)^[20] (RunState.start .fork context false)
  let t := (RunState.drive .fork)^[40] s
  have flight : "mail" ∈ s.flightIds ∧ t.isOver = true := by
    simp only [s, t, RunState.start, unreachable_fork]
    decide +kernel
  have reached : Reaches .free .fork (RunState.start .fork context false) s :=
    (execution_drive .fork _).reaches 20
  have later : Reaches .free .fork s t := (execution_drive .fork s).reaches 40
  obtain ⟨result, hr, -⟩ := RunState.exists_result (p := .fork) flight.2 ⟨0, 0⟩
  obtain ⟨before, r, after, steps, hid, first⟩ :=
    (starts_after_predecessors clean_fork rfl reached).2.2 t ⟨0, 0⟩ result later hr "mail" flight.1
  refine ⟨context, s, t, result, reached, flight.1, later, hr, before, r, after, steps, hid, ?_⟩
  exact first "ask" (by decide +kernel)

end Playbook
