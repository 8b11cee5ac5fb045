import Playbook.Proofs.Run.Outcome

/-!
The order in which a run starts its steps. A scan goes once through the pending steps, in the order
in which they are declared. A step that it has passed and left pending waits for a predecessor, or
there was no place for it, or it is overtaken: a predecessor that is declared after it got its
result later in the same scan. So a step that could start is passed over only where the declaration
puts it before one of its predecessors.
-/
namespace Playbook

/-- A step is declared before another one. -/
def StepGraph.Before (g : StepGraph) (a b : String) : Prop := [a, b].Sublist g.nodes

namespace RunState

variable {p : Plan} {s t : RunState}

/-- A predecessor that is declared after the step, so that a scan comes to it later, got its result
in the last scan: no result since then is that of an attempt. -/
def Overtaken (p : Plan) (s : RunState) (id : String) : Prop :=
  ∃ before r after, s.results = before ++ r :: after ∧ (∀ x ∈ r :: after, x.attempts = 0) ∧
    r.stepId ∉ p.unreachable ∧ p.graph.Edge r.stepId id ∧ p.graph.Before id r.stepId

/-- Why a step is still pending that a scan has passed. -/
inductive Passed (p : Plan) (s : RunState) (id : String) : Prop
  | waits (waits : s.readiness p id = .waiting)
  | full (full : p.limit ≤ s.inFlight)
  | overtaken (overtaken : s.Overtaken p id)

theorem Passed.of_same {id : String} (h : Passed p s id) (results : t.results = s.results)
    (inFlight : s.inFlight ≤ t.inFlight) : Passed p t id := by
  cases h with
  | waits waits => exact .waits ((readiness_of_results results id).trans waits)
  | full full => exact .full (Nat.le_trans full inFlight)
  | overtaken overtaken =>
    refine .overtaken ?_
    unfold Overtaken
    rw [results]
    exact overtaken

/-- A result that comes without an attempt either leaves a passed step as it is or overtakes it. -/
theorem Passed.decide {id : String} (h : Passed p s id) {r : StepResult} (attempts : r.attempts = 0)
    (reachable : r.stepId ∉ p.unreachable) (before : p.graph.Before id r.stepId) :
    Passed p (s.decide r) id := by
  have results : (s.decide r).results = s.results ++ [r] := rfl
  cases h with
  | waits waits =>
    by_cases still : (s.decide r).readiness p id = .waiting
    · exact .waits still
    · obtain ⟨q, hq, fresh⟩ := readiness_eq_waiting_iff.1 waits
      have edge := StepGraph.mem_predecessors.1 hq
      have settled := isTerminal_iff.1 (readiness_ne_waiting_iff.1 still q hq)
      have unknown : q ∉ s.resultIds := by
        rw [← isTerminal_iff]
        simp [fresh]
      unfold resultIds at settled unknown
      rw [results, List.map_append, List.mem_append] at settled
      obtain rfl := List.mem_singleton.1 (settled.resolve_left unknown)
      exact .overtaken ⟨s.results, r, [], results, by simpa using attempts, reachable, edge, before⟩
  | full full => exact .full full
  | overtaken overtaken =>
    obtain ⟨first, r', after, split, none, others⟩ := overtaken
    refine .overtaken ⟨first, r', after ++ [r], by simp [results, split], ?_, others⟩
    rw [← List.cons_append]
    exact List.forall_mem_append.2 ⟨none, by simpa using attempts⟩

/-- What a scan knows of the steps that it has passed: those before the place where it stands, and
all when it is over. A run that was cancelled before has not scanned. -/
def Scanned (p : Plan) (s : RunState) : Prop :=
  match s.control with
  | .scanning rest _ => ∃ passed, (passed ++ rest).Sublist p.graph.nodes ∧
      ∀ id ∈ s.pending, id ∈ rest ∨ id ∈ passed ∧ Passed p s id
  | .choosing _ => s.cancelled = false → ∀ id ∈ s.pending, Passed p s id
  | _ => True

structure InOrder (p : Plan) (s : RunState) : Prop where
  declared : s.pending.Sublist p.graph.nodes
  scanned : Scanned p s

namespace InOrder

theorem of_same (h : InOrder p s) (control : t.control = s.control) (pending : t.pending = s.pending)
    (results : t.results = s.results) (inFlight : t.inFlight = s.inFlight)
    (cancelled : t.cancelled = false → s.cancelled = false) : InOrder p t where
  declared := pending ▸ h.declared
  scanned := by
    have scanned := h.scanned
    have same : ∀ {id}, Passed p s id → Passed p t id := fun hid =>
      hid.of_same results (Nat.le_of_eq inFlight.symm)
    unfold Scanned at *
    rw [control, pending]
    split at scanned
    · obtain ⟨passed, order, left⟩ := scanned
      exact ⟨passed, order, fun id hid => (left id hid).imp_right (And.imp_right same)⟩
    · exact fun calm id hid => same (scanned (cancelled calm) id hid)
    · trivial

/-- The scan goes on after a result that came without an attempt. -/
theorem scanned_decide (hp : p.Sound) (ho : Orderly p s) (h : InOrder p s) {id : String}
    {rest : List String} {progressed : Bool}
    (control : s.control = .scanning (id :: rest) progressed) (pending : id ∈ s.pending)
    {r : StepResult} (own : r.stepId = id) (attempts : r.attempts = 0) :
    Scanned p { s.decide r with control := .scanning rest true } := by
  have scanned := h.scanned
  unfold Scanned at scanned
  rw [control] at scanned
  obtain ⟨passed, order, left⟩ := scanned
  refine ⟨passed ++ [id], by simpa using order, fun x hx => ?_⟩
  obtain ⟨ne, hx⟩ := (ho.nodup_pending hp).mem_erase_iff.1 hx
  rw [own] at ne
  rcases left x hx with hx | ⟨hx, reason⟩
  · exact .inl ((List.mem_cons.1 hx).resolve_left ne)
  · have before : p.graph.Before x r.stepId := by
      refine .trans ?_ order
      rw [own]
      exact (List.singleton_sublist.2 hx).append (List.singleton_sublist.2 List.mem_cons_self)
    have reachable : r.stepId ∉ p.unreachable := own ▸ ho.connected id pending
    refine .inr ⟨List.mem_append_left _ hx, ?_⟩
    exact (reason.decide attempts reachable before).of_same rfl (Nat.le_refl _)

theorem scanned_act (hp : p.Sound) (ho : Orderly p s) (h : InOrder p s) (m : Act p s t) :
    Scanned p t := by
  have scanned := h.scanned
  unfold Scanned at scanned
  cases m with
  | look control =>
    unfold rescan Scanned
    cases hc : s.cancelled with
    | true => exact fun calm => Bool.noConfusion calm
    | false => exact ⟨[], h.declared, fun id hid => .inl hid⟩
  | scanned control =>
    rw [control] at scanned
    obtain ⟨passed, -, left⟩ := scanned
    intro _ id hid
    exact ((left id hid).resolve_left List.not_mem_nil).2.of_same rfl (Nat.le_refl _)
  | @pass id rest progressed control idle =>
    rw [control] at scanned
    obtain ⟨passed, order, left⟩ := scanned
    refine ⟨passed ++ [id], by simpa using order, fun x hx => ?_⟩
    rcases left x hx with hx' | ⟨hx', reason⟩
    · rcases List.mem_cons.1 hx' with rfl | hx'
      · refine .inr ⟨List.mem_append_right _ (List.mem_singleton.2 rfl), ?_⟩
        rcases idle hx with waits | ⟨-, full | missing⟩
        · exact .waits waits
        · exact .full full
        · have := hp.step?_isSome (h.declared.mem hx)
          simp [missing] at this
      · exact .inl hx'
    · exact .inr ⟨List.mem_append_left _ hx', reason.of_same rfl (Nat.le_refl _)⟩
  | skip control pending => exact h.scanned_decide hp ho control pending rfl rfl
  | expire control pending => exact h.scanned_decide hp ho control pending rfl rfl
  | @launch id rest progressed step control pending ready place early found =>
    have own := Program.id_of_step? found
    rw [control] at scanned
    obtain ⟨passed, order, left⟩ := scanned
    refine ⟨passed ++ [id], by simpa using order, fun x hx => ?_⟩
    obtain ⟨ne, hx⟩ := (ho.nodup_pending hp).mem_erase_iff.1 hx
    rw [own] at ne
    rcases left x hx with hx | ⟨hx, reason⟩
    · exact .inl ((List.mem_cons.1 hx).resolve_left ne)
    · refine .inr ⟨List.mem_append_left _ hx, reason.of_same rfl ?_⟩
      simp only [inFlight, RunState.launch, List.length_append]
      omega
  | again | takeIn | finish => trivial
  | leave =>
    unfold RunState.leave
    split <;> trivial
  | drain control =>
    unfold Scanned
    rw [control_takeIn, control]
    trivial

theorem move {o : Surroundings} (hp : p.Sound) (ho : Orderly p s) (h : InOrder p s)
    (m : Move o p s t) : InOrder p t := by
  cases m with
  | act m =>
    have act := act_of_act? m
    exact ⟨(pending_sublist_of_act act).trans h.declared, h.scanned_act hp ho act⟩
  | poll m =>
    have frame := (poll_of_poll? m).frame
    exact h.of_same frame.control frame.pending frame.results frame.inFlight
      fun calm => frame.cancelled ▸ calm
  | cancel => exact h.of_same rfl rfl rfl rfl fun calm => Bool.noConfusion calm
  | elapse => exact h.of_same rfl rfl rfl rfl id

/-- In every state that a run reaches, its scans keep to the order of declaration. -/
theorem of_reaches {o : Surroundings} (hp : p.Sound) {context : RunContext} {cancelled : Bool}
    (h : Reaches o p (RunState.start p context cancelled) s) : InOrder p s := by
  induction h with
  | refl =>
    refine ⟨?_, ?_⟩
    · rw [show (RunState.start p context cancelled).pending = _ from pending_skips ..]
      exact List.diff_sublist ..
    · unfold Scanned
      rw [control_start]
      trivial
  | tail h m ih => exact ih.move hp (.of_reaches hp h) m

end InOrder

/-- A pending step that neither a predecessor nor the limit keeps from being started is overtaken,
when the scan is over. -/
theorem InOrder.overtaken_of_chosen (h : InOrder p s) {progressed : Bool}
    (control : s.control = .choosing progressed) (calm : s.cancelled = false)
    (place : s.inFlight < p.limit) {id : String} (pending : id ∈ s.pending) :
    s.readiness p id = .waiting ∨ s.Overtaken p id := by
  have scanned := h.scanned
  unfold Scanned at scanned
  rw [control] at scanned
  cases scanned calm id pending with
  | waits waits => exact .inl waits
  | full full => omega
  | overtaken overtaken => exact .inr overtaken

/-- When the loop starts a job, its step is pending and ready, and there is a place for it. -/
structure Launches (p : Plan) (s : RunState) (id : String) : Prop where
  scanning : ∃ rest progressed, s.control = .scanning (id :: rest) progressed
  pending : id ∈ s.pending
  ready : s.readiness p id = .ready
  place : s.inFlight < p.limit

theorem launches_of_act {j : Job} (m : Act p s t) (starts : t.jobs = s.jobs ++ [j]) :
    Launches p s j.step.id := by
  have quiet : s.jobs ≠ s.jobs ++ [j] := by simp
  cases m with
  | launch control pending ready place _ found =>
    have new : _ ++ [Job.ofStep ..] = s.jobs ++ [j] := starts
    obtain ⟨-, hj⟩ := List.append_inj' new rfl
    cases hj
    obtain rfl := Program.id_of_step? found
    exact ⟨⟨_, _, control⟩, pending, ready, place⟩
  | look | scanned | pass | skip | expire | again => exact absurd starts quiet
  | leave =>
    unfold RunState.leave at starts
    split at starts <;> exact absurd starts quiet
  | takeIn | drain =>
    rw [jobs_takeIn] at starts
    exact absurd starts quiet
  | finish =>
    rw [show (s.finishDraining p).jobs = _ from (sameFrame_skips ..).jobs] at starts
    exact absurd starts quiet

/-- A ready step that is pending while another one is started is declared after it, or overtaken. -/
theorem InOrder.after_or_overtaken (h : InOrder p s) {id : String} (launches : Launches p s id)
    {x : String} (pending : x ∈ s.pending) (ready : s.readiness p x = .ready) :
    x = id ∨ p.graph.Before id x ∨ s.Overtaken p x := by
  have scanned := h.scanned
  obtain ⟨rest, progressed, control⟩ := launches.scanning
  unfold Scanned at scanned
  rw [control] at scanned
  obtain ⟨passed, order, left⟩ := scanned
  rcases left x pending with ahead | ⟨-, reason⟩
  · rcases List.mem_cons.1 ahead with same | ahead
    · exact .inl same
    · refine .inr (.inl (.trans ?_ order))
      exact ((List.singleton_sublist.2 ahead).cons_cons id).trans (List.sublist_append_right ..)
  · cases reason with
    | waits waits => simp [ready] at waits
    | full full => have := launches.place; omega
    | overtaken overtaken => exact .inr (.inr overtaken)

/-! ### Steps that may be started -/

/-- A step that may be started: its predecessors have their results, none of these blocks it, and it
is a root or one of them was not skipped. -/
structure Startable (p : Plan) (s : RunState) (id : String) : Prop where
  node : id ∈ p.graph.nodes
  fresh : s.isTerminal id = false
  settled : ∀ q, p.graph.Edge q id → s.isTerminal q = true
  free : ¬ s.Blocked p id
  taken : ¬ s.Bypassed p id

theorem Startable.ready (ho : Orderly p s) {id : String} (h : s.Startable p id) :
    s.readiness p id = .ready := by
  have settled : s.readiness p id ≠ .waiting := readiness_ne_waiting_iff.2 fun q hq =>
    h.settled q (StepGraph.mem_predecessors.1 hq)
  rcases readiness_of_terminal ho.accounted.unretried settled with
    ⟨blocked, -⟩ | ⟨-, bypassed, -⟩ | ⟨-, -, ready⟩
  · exact absurd blocked h.free
  · exact absurd bypassed h.taken
  · exact ready

theorem startable_of_ready (hp : p.Sound) (ho : Orderly p s) {id : String} (pending : id ∈ s.pending)
    (ready : s.readiness p id = .ready) : s.Startable p id := by
  have settled : s.readiness p id ≠ .waiting := by simp [ready]
  have decided := readiness_of_terminal ho.accounted.unretried settled
  rw [ready] at decided
  rcases decided with ⟨-, _, skips⟩ | ⟨-, -, _, skips⟩ | ⟨free, taken, -⟩
  · cases skips
  · cases skips
  · exact {
      node := ho.places.subset (List.mem_append_left _ pending)
      fresh := ho.isTerminal_of_pending hp pending
      settled := fun q edge =>
        readiness_ne_waiting_iff.1 settled q (StepGraph.mem_predecessors.2 edge)
      free, taken }

end RunState

/-- A program with a step, `mail`, that is declared before one of its predecessors. -/
def Program.letters : Program where
  id := "letters"
  status := .published
  steps := [{ id := "ask", next := ["mail"] },
    { id := "approve", trigger := { type := .userAction }, next := ["print"] }, { id := "mail" },
    { id := "print", next := ["mail"] }, { id := "call" }]

theorem clean_letters :
    Program.letters.Clean Dispatcher.abrupt.registry Dispatcher.abrupt.evaluator :=
  .of_checks rfl (by decide +kernel) (by decide +kernel) (by decide +kernel)

theorem graph_letters : StepGraph.ofProgram .letters =
    ⟨["ask", "approve", "mail", "print", "call"],
      [("ask", "mail"), ("approve", "print"), ("print", "mail")]⟩ := by
  decide +kernel

/-- A plan for the letters, in which users do not act, so `print` is skipped. -/
def Plan.letters (strategy : Strategy) (limit : Nat) : Plan :=
  .abrupt (Program.letters.withLimit strategy limit)

theorem sound_letters (strategy : Strategy) {limit : Nat} (positive : 0 < limit) :
    (Plan.letters strategy limit).Sound :=
  Plan.sound_make (clean_letters.withLimit strategy positive) ..

theorem unreachable_letters (strategy : Strategy) {limit : Nat} (positive : 0 < limit) :
    (Plan.letters strategy limit).unreachable = [] := by
  have capable : ∀ step ∈ Program.letters.steps, step.trigger.type.isEntryCapable = true := by
    decide
  exact (sound_letters strategy positive).unreachable_eq_nil fun step declared _ =>
    capable step declared

open RunState in
/-- When the loop of a run that is not cancelled waits for a step in flight while there is a place
for another one, every other step without a result waits for a predecessor, or is overtaken. -/
theorem idle_steps_wait_or_are_overtaken {d : Dispatcher} {program : Program}
    (clean : program.Clean d.registry d.evaluator) {settings : ExecutionSettings} {scope : RunScope}
    {p : Plan} (plan : p = Plan.make d settings program scope) {context : RunContext}
    {cancelled : Bool} {s : RunState} (reached : Reaches .free p (start p context cancelled) s)
    (still : s.act? p = none) (going : s.isOver = false) (calm : s.cancelled = false)
    (place : s.inFlight < p.limit) {id : String} (hid : id ∈ program.steps.map Step.id)
    (idle : id ∉ s.flightIds) (fresh : s.isTerminal id = false) :
    (∃ q, p.graph.Edge q id ∧ s.isTerminal q = false) ∨ s.Overtaken p id := by
  have hp : p.Sound := plan ▸ Plan.sound_make clean settings scope
  have orderly := Orderly.of_reaches hp reached
  have node : id ∈ p.graph.nodes := by
    rw [hp.mem_nodes, plan]
    exact hid
  have pending := orderly.mem_pending node idle fresh
  obtain ⟨progressed, control⟩ : ∃ progressed, s.control = .choosing progressed := by
    obtain ⟨awaits, -⟩ := (act?_eq_none_iff.1 still).resolve_left (by simp [going])
    unfold RunState.awaits at awaits
    split at awaits
    · next control => exact ⟨_, control⟩
    · next control => simp [orderly.cancelled_of_draining control] at calm
    · cases awaits
  have inOrder := InOrder.of_reaches hp reached
  refine (inOrder.overtaken_of_chosen control calm place pending).imp_left fun waits => ?_
  obtain ⟨q, hq, waits⟩ := readiness_eq_waiting_iff.1 waits
  exact ⟨q, StepGraph.mem_predecessors.1 hq, waits⟩

/-- The loop waits for `call`, with a place to spare, while nothing keeps `mail` from being sent. -/
theorem mail_is_left : ∃ context s,
    Reaches .free (.letters .parallel 2) (RunState.start (.letters .parallel 2) context false) s ∧
    s.act? (.letters .parallel 2) = none ∧ s.isOver = false ∧ s.cancelled = false ∧
    s.inFlight < (Plan.letters .parallel 2).limit ∧ "mail" ∉ s.flightIds ∧
    s.isTerminal "mail" = false ∧
    ¬ ∃ q, (Plan.letters .parallel 2).graph.Edge q "mail" ∧ s.isTerminal q = false := by
  let s := (Plan.letters .parallel 2).after 20
  have facts : (s.act? (.letters .parallel 2)).isNone = true ∧ s.isOver = false ∧
      s.cancelled = false ∧ s.inFlight < (Plan.letters .parallel 2).limit ∧ "mail" ∉ s.flightIds ∧
      s.isTerminal "mail" = false ∧
      ∀ q ∈ (Plan.letters .parallel 2).graph.predecessors "mail", s.isTerminal q = true := by
    simp only [s, Plan.after, RunState.start, unreachable_letters .parallel Nat.zero_lt_two]
    decide +kernel
  obtain ⟨still, going, calm, place, idle, fresh, settled⟩ := facts
  refine ⟨_, s, Plan.reaches_after _ 20, Option.isNone_iff_eq_none.1 still, going, calm, place, idle,
    fresh, ?_⟩
  rintro ⟨q, edge, waits⟩
  simp [settled q (StepGraph.mem_predecessors.2 edge)] at waits

theorem mail_is_overtaken : ∃ context s,
    Reaches .free (.letters .parallel 2) (RunState.start (.letters .parallel 2) context false) s ∧
    s.act? (.letters .parallel 2) = none ∧ s.isOver = false ∧ s.cancelled = false ∧
    s.inFlight < (Plan.letters .parallel 2).limit ∧ "mail" ∉ s.flightIds ∧
    s.isTerminal "mail" = false ∧ s.Overtaken (.letters .parallel 2) "mail" := by
  obtain ⟨context, s, reached, still, going, calm, place, idle, fresh, settled⟩ := mail_is_left
  have clean := clean_letters.withLimit .parallel (by decide : 0 < 2)
  have cases := idle_steps_wait_or_are_overtaken clean rfl reached still going calm place
    (by decide +kernel) idle fresh
  exact ⟨context, s, reached, still, going, calm, place, idle, fresh, cases.resolve_left settled⟩

/-- A run can wait for a step in flight while another one could start. -/
theorem mail_waits_behind_call :
    (Program.letters.withLimit .parallel 2).Clean Dispatcher.abrupt.registry
      Dispatcher.abrupt.evaluator ∧
    "mail" ∈ (Program.letters.withLimit .parallel 2).steps.map Step.id ∧
    ∃ context s,
      Reaches .free (.letters .parallel 2) (RunState.start (.letters .parallel 2) context false) s ∧
      s.act? (.letters .parallel 2) = none ∧ s.isOver = false ∧ s.cancelled = false ∧
      s.inFlight < (Plan.letters .parallel 2).limit ∧ "mail" ∉ s.flightIds ∧
      s.isTerminal "mail" = false ∧
      ¬ ∃ q, (Plan.letters .parallel 2).graph.Edge q "mail" ∧ s.isTerminal q = false :=
  ⟨clean_letters.withLimit .parallel (by decide), by decide +kernel, mail_is_left⟩

open RunState in
/-- Where a run has one place only, each step that it starts is the first of those that may be
started, but for steps that are overtaken. -/
theorem starts_first_unless_overtaken {d : Dispatcher} {program : Program}
    (clean : program.Clean d.registry d.evaluator) {settings : ExecutionSettings} {scope : RunScope}
    {p : Plan} (plan : p = Plan.make d settings program scope)
    (single : program.execution.strategy ≠ .parallel) {context : RunContext} {cancelled : Bool}
    {s t : RunState} (reached : Reaches .free p (start p context cancelled) s)
    (acts : s.act? p = some t) {j : Job} (starts : t.jobs = s.jobs ++ [j]) :
    s.flightIds = [] ∧ s.Startable p j.step.id ∧
      ∀ id, s.Startable p id →
        id = j.step.id ∨ p.graph.Before j.step.id id ∨ s.Overtaken p id := by
  have hp : p.Sound := plan ▸ Plan.sound_make clean settings scope
  have orderly := Orderly.of_reaches hp reached
  have launches := launches_of_act (act_of_act? acts) starts
  have one : p.limit = 1 := by
    rw [plan]
    change program.execution.limit _ = 1
    unfold ExecutionPolicy.limit
    cases strategy : program.execution.strategy with
    | parallel => exact absurd strategy single
    | sequential | conditional => rfl
  have alone : s.flightIds = [] := by
    have place := launches.place
    rw [flightIds_eq_nil_iff]
    omega
  refine ⟨alone, startable_of_ready hp orderly launches.pending launches.ready, ?_⟩
  intro id startable
  have pending := orderly.mem_pending startable.node (by simp [alone]) startable.fresh
  exact (InOrder.of_reaches hp reached).after_or_overtaken launches pending
    (startable.ready orderly)

/-- The loop starts `call`, while `mail` could be started too. -/
theorem call_is_started : ∃ context s t j,
    Reaches .free (.letters .sequential 1)
      (RunState.start (.letters .sequential 1) context false) s ∧
    s.act? (.letters .sequential 1) = some t ∧ t.jobs = s.jobs ++ [j] ∧ j.step.id = "call" ∧
    s.Startable (.letters .sequential 1) "mail" := by
  let s := (Plan.letters .sequential 1).after 20
  have facts : (s.act? (.letters .sequential 1)).map (fun t => t.jobs.map fun j => j.step.id) =
        some ["call"] ∧
      s.jobs.map (fun j => j.step.id) = [] ∧ "mail" ∈ s.pending ∧
      s.readiness (.letters .sequential 1) "mail" = .ready := by
    simp only [s, Plan.after, RunState.start, unreachable_letters .sequential Nat.zero_lt_one]
    decide +kernel
  obtain ⟨starts, idle, pending, ready⟩ := facts
  obtain ⟨t, acts, jobs⟩ := Option.map_eq_some_iff.1 starts
  obtain ⟨j, hj, own⟩ := List.map_eq_singleton_iff.1 jobs
  have added : t.jobs = s.jobs ++ [j] := by rw [List.map_eq_nil_iff.1 idle, hj, List.nil_append]
  have reached := (Plan.letters .sequential 1).reaches_after 20
  have hp : (Plan.letters .sequential 1).Sound := sound_letters .sequential (by decide)
  exact ⟨_, s, t, j, reached, acts, added, own,
    RunState.startable_of_ready hp (.of_reaches hp reached) pending ready⟩

theorem before_letters : (Plan.letters .sequential 1).graph.Before "mail" "call" ∧
    ¬ (Plan.letters .sequential 1).graph.Before "call" "mail" := by
  have graph : (Plan.letters .sequential 1).graph = _ := graph_letters
  unfold StepGraph.Before
  rw [graph]
  decide

theorem call_overtakes_mail : ∃ context s t j,
    Reaches .free (.letters .sequential 1)
      (RunState.start (.letters .sequential 1) context false) s ∧
    s.act? (.letters .sequential 1) = some t ∧ t.jobs = s.jobs ++ [j] ∧ j.step.id = "call" ∧
    s.Startable (.letters .sequential 1) "call" ∧ s.Overtaken (.letters .sequential 1) "mail" := by
  obtain ⟨context, s, t, j, reached, acts, starts, own, startable⟩ := call_is_started
  have clean := clean_letters.withLimit .sequential (by decide : 0 < 1)
  obtain ⟨-, first, others⟩ :=
    starts_first_unless_overtaken clean rfl (by decide +kernel) reached acts starts
  rw [own] at first others
  have overtaken := ((others "mail" startable).resolve_left (by decide)).resolve_left
    before_letters.2
  exact ⟨context, s, t, j, reached, acts, starts, own, first, overtaken⟩

/-- A run with one place can start a step while one that is declared before it could start. -/
theorem call_starts_before_mail :
    (Program.letters.withLimit .sequential 1).Clean Dispatcher.abrupt.registry
      Dispatcher.abrupt.evaluator ∧
    (Program.letters.withLimit .sequential 1).execution.strategy = .sequential ∧
    (Plan.letters .sequential 1).graph.Before "mail" "call" ∧
    ∃ context s t j,
      Reaches .free (.letters .sequential 1)
        (RunState.start (.letters .sequential 1) context false) s ∧
      s.act? (.letters .sequential 1) = some t ∧ t.jobs = s.jobs ++ [j] ∧ j.step.id = "call" ∧
      s.Startable (.letters .sequential 1) "mail" :=
  ⟨clean_letters.withLimit .sequential (by decide), rfl, before_letters.1, call_is_started⟩

end Playbook
