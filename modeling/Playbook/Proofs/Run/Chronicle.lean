import Playbook.Proofs.Run.Precedence
import Playbook.Proofs.Run.Snapshot

/-!
The chronicle of a run, step by step. What a run has recorded about a step and the superseded
results that it has noted come from the one job of the step, whatever other jobs do meanwhile:
nothing before the job starts; what its polls recorded while it goes on; and when its result is
noted, one entry more.
-/
namespace Playbook

open Json (Value)

namespace Job

/-- What holds of a job where it stands and of what it has recorded, at a moment and for the step and
the variables with which it was started; and of its outcome, in a run that is cancelled by then or
not. -/
structure LogLaw (o : Surroundings) (p : Plan)
    (I : Nat → Step → List (String × Value) → List LogEntry → Job → Point → Prop)
    (F : Bool → Step → List (String × Value) → List LogEntry → JobOutcome → Prop) : Prop where
  own : ∀ {now step vars log j q}, I now step vars log j q → j.step = step ∧ j.variables = vars
  begins : ∀ {now step}, step ∈ p.program.steps → p.isPastDeadline now = false →
    ∀ vars, I now step vars [] (ofStep p step vars) .starting
  polls : ∀ {now step vars log j}, I now step vars log j j.point → ∀ turn cancelled,
    Settles (I now step vars (log ++ (j.poll p now turn cancelled).1))
      (F cancelled step vars (log ++ (j.poll p now turn cancelled).1))
      (j.poll p now turn cancelled).2
  elapses : ∀ {s ms}, o.elapses s ms → ∀ j ∈ s.jobs, ∀ log,
    I s.now j.step j.variables log j j.point → I (s.now + ms) j.step j.variables log j j.point

end Job

/-- The entries about a step. -/
def entriesOf (id : String) (log : List LogEntry) : List LogEntry :=
  log.filter fun e => e.stepId == some id

theorem entriesOf_append (id : String) (log more : List LogEntry) :
    entriesOf id (log ++ more) = entriesOf id log ++ entriesOf id more :=
  List.filter_append ..

theorem mem_entriesOf {id : String} {log : List LogEntry} {e : LogEntry} :
    e ∈ entriesOf id log ↔ e ∈ log ∧ e.stepId = some id := by
  simp [entriesOf]

theorem entriesOf_subset (id : String) (log : List LogEntry) : entriesOf id log ⊆ log :=
  fun _ mem => (mem_entriesOf.1 mem).1

theorem entriesOf_own {id : String} {log : List LogEntry} (h : ∀ e ∈ log, e.stepId = some id) :
    entriesOf id log = log :=
  List.filter_eq_self.2 fun e he => by simp [h e he]

theorem entriesOf_other {id : String} {log : List LogEntry} (h : ∀ e ∈ log, e.stepId ≠ some id) :
    entriesOf id log = [] :=
  List.filter_eq_nil_iff.2 fun e he => by simp [h e he]

namespace RunState

/-- The superseded results of a step. -/
def retriedOf (id : String) (s : RunState) : List StepResult :=
  s.retried.filter fun r => r.stepId == id

/-- What there is of a step with a result: there was no attempt, or its job has ended. -/
inductive Entered (C : EndedJob → List LogEntry → Prop) (r : StepResult) :
    List LogEntry → List StepResult → Prop
  | unattempted {moment : Nat} (none : r.attempts = 0) : Entered C r [finishEntry moment r] []
  | attempted {e : EndedJob} {moment : Nat} {log : List LogEntry} (closed : C e log)
      (own : r.stepId = e.stepId) (result : r = e.result moment) :
      Entered C r (log ++ [finishEntry moment r]) e.superseded

theorem Entered.mono {C C' : EndedJob → List LogEntry → Prop} (closed : ∀ e log, C e log → C' e log)
    {r : StepResult} {log : List LogEntry} {past : List StepResult} (h : Entered C r log past) :
    Entered C' r log past := by
  cases h with
  | unattempted none => exact .unattempted none
  | attempted made own result => exact .attempted (closed _ _ made) own result

/-- What there is of each step comes from its job. `D` says with what a step was started, and `C`
what a job has ended with after what it has recorded. -/
structure Chronicled (D : Step → List (String × Value) → Prop)
    (C : EndedJob → List LogEntry → Prop)
    (I : Nat → Step → List (String × Value) → List LogEntry → Job → Job.Point → Prop)
    (s : RunState) : Prop where
  fresh : ∀ id, id ∉ s.flightIds → s.isTerminal id = false → entriesOf id s.log = []
  unabsorbed : ∀ id, s.isTerminal id = false → retriedOf id s = []
  jobs : ∀ j ∈ s.jobs, D j.step j.variables ∧
    I s.now j.step j.variables (entriesOf j.step.id s.log) j j.point
  ended : ∀ e ∈ s.ended, C e (entriesOf e.stepId s.log)
  results : ∀ r ∈ s.results, Entered C r (entriesOf r.stepId s.log) (retriedOf r.stepId s)

namespace Chronicled

variable {D : Step → List (String × Value) → Prop} {C : EndedJob → List LogEntry → Prop}
  {I : Nat → Step → List (String × Value) → List LogEntry → Job → Job.Point → Prop} {p : Plan}
  {s t : RunState}

theorem mono (h : Chronicled D C I s) {D' : Step → List (String × Value) → Prop}
    {C' : EndedJob → List LogEntry → Prop} (dispatched : ∀ step vars, D step vars → D' step vars)
    (closed : ∀ e log, C e log → C' e log) : Chronicled D' C' I s where
  fresh := h.fresh
  unabsorbed := h.unabsorbed
  jobs j mem := ⟨dispatched _ _ (h.jobs j mem).1, (h.jobs j mem).2⟩
  ended e mem := closed _ _ (h.ended e mem)
  results r mem := (h.results r mem).mono closed

/-- Nothing is recorded about a step without a job or a result. -/
theorem located (h : Chronicled D C I s) (id : String) :
    entriesOf id s.log = [] ∨ (∃ j ∈ s.jobs, j.step.id = id) ∨ (∃ e ∈ s.ended, e.stepId = id) ∨
      ∃ r ∈ s.results, r.stepId = id := by
  by_cases flight : id ∈ s.flightIds
  · rcases List.mem_append.1 flight with mem | mem
    · exact .inr (.inl (List.mem_map.1 mem))
    · exact .inr (.inr (.inl (List.mem_map.1 mem)))
  · cases terminal : s.isTerminal id with
    | true => exact .inr (.inr (.inr (List.mem_map.1 (isTerminal_iff.1 terminal))))
    | false => exact .inl (h.fresh id flight terminal)

/-- While nothing is in flight, entries are about steps with results. -/
theorem mem_resultIds (h : Chronicled D C I s) (idle : s.jobs = [] ∧ s.ended = []) {e : LogEntry}
    (mem : e ∈ s.log) {id : String} (about : e.stepId = some id) : id ∈ s.resultIds := by
  rcases h.located id with none | ⟨j, job, -⟩ | ⟨x, ended, -⟩ | ⟨r, result, rfl⟩
  · exact absurd (mem_entriesOf.2 ⟨mem, about⟩) (by simp [none])
  · simp [idle.1] at job
  · simp [idle.2] at ended
  · exact List.mem_map_of_mem result

/-- Moves that leave jobs and results as they are, and record nothing about a step. -/
theorem of_same (h : Chronicled D C I s) (jobs : t.jobs = s.jobs) (ended : t.ended = s.ended)
    (results : t.results = s.results) (retried : t.retried = s.retried) (now : t.now = s.now)
    (log : ∀ id, entriesOf id t.log = entriesOf id s.log) : Chronicled D C I t where
  fresh id idle fresh := by
    unfold flightIds at idle
    unfold isTerminal result? at fresh
    rw [jobs, ended] at idle
    rw [results] at fresh
    exact (log id).trans (h.fresh id idle fresh)
  unabsorbed id fresh := by
    unfold isTerminal result? at fresh
    unfold retriedOf
    rw [results] at fresh
    rw [retried]
    exact h.unabsorbed id fresh
  jobs j mem := by
    rw [now, log]
    exact h.jobs j (jobs ▸ mem)
  ended e mem := by
    rw [log]
    exact h.ended e (ended ▸ mem)
  results r mem := by
    unfold retriedOf
    rw [log, retried]
    exact h.results r (results ▸ mem)

/-- One more result is noted, of a step that is not in flight any more. -/
theorem finish (h : Chronicled D C I s) {r : StepResult} {more : List StepResult}
    (log : t.log = s.log ++ [finishEntry s.now r]) (results : t.results = s.results ++ [r])
    (retried : t.retried = s.retried ++ more) (own : ∀ x ∈ more, x.stepId = r.stepId)
    (jobs : t.jobs = s.jobs) (ended : ∀ e ∈ t.ended, e ∈ s.ended) (now : t.now = s.now)
    (flight : ∀ id, id ∈ s.flightIds ↔ id ∈ t.flightIds ∨ id ∈ s.flightIds ∧ id = r.stepId)
    (left : r.stepId ∉ t.flightIds) (fresh : s.isTerminal r.stepId = false)
    (noted : Entered C r (entriesOf r.stepId s.log ++ [finishEntry s.now r]) more) :
    Chronicled D C I t := by
  have others : ∀ id, id ≠ r.stepId → entriesOf id t.log = entriesOf id s.log := by
    intro id ne
    have none : entriesOf id [finishEntry s.now r] = [] :=
      entriesOf_other (by simpa [finishEntry] using Ne.symm ne)
    rw [log, entriesOf_append, none, List.append_nil]
  have same : ∀ id, id ≠ r.stepId → retriedOf id t = retriedOf id s := by
    intro id ne
    have none : more.filter (fun x => x.stepId == id) = [] :=
      List.filter_eq_nil_iff.2 fun x hx => by simpa [own x hx] using Ne.symm ne
    unfold retriedOf
    rw [retried, List.filter_append, none, List.append_nil]
  refine ⟨fun id idle unknown => ?_, fun id unknown => ?_, fun j mem => ?_, fun e mem => ?_,
    fun r' mem => ?_⟩
  · obtain ⟨unknown, ne⟩ := (isTerminal_concat results).1 unknown
    rw [others id ne]
    exact h.fresh id (fun mem => ((flight id).1 mem).elim idle fun both => ne both.2) unknown
  · obtain ⟨unknown, ne⟩ := (isTerminal_concat results).1 unknown
    rw [same id ne]
    exact h.unabsorbed id unknown
  · have ne : j.step.id ≠ r.stepId := fun he =>
      left (he ▸ List.mem_append_left _ (List.mem_map.2 ⟨j, mem, rfl⟩))
    rw [others _ ne, now]
    exact h.jobs j (jobs ▸ mem)
  · have ne : e.stepId ≠ r.stepId := fun he =>
      left (he ▸ List.mem_append_right _ (List.mem_map_of_mem mem))
    rw [others _ ne]
    exact h.ended e (ended e mem)
  · rcases List.mem_append.1 (results ▸ mem) with mem | mem
    · have ne : r'.stepId ≠ r.stepId := by
        intro he
        have known : s.isTerminal r'.stepId = true :=
          isTerminal_iff.2 (List.mem_map_of_mem mem)
        rw [he, fresh] at known
        cases known
      rw [others _ ne, same _ ne]
      exact h.results r' mem
    · cases List.mem_singleton.1 mem
      have entry : entriesOf r.stepId [finishEntry s.now r] = [finishEntry s.now r] :=
        entriesOf_own (by simp [finishEntry])
      have all : more.filter (fun x => x.stepId == r.stepId) = more :=
        List.filter_eq_self.2 fun x hx => by simp [own x hx]
      have none := h.unabsorbed r.stepId fresh
      unfold retriedOf at none ⊢
      rw [log, entriesOf_append, entry, retried, List.filter_append, none, all, List.nil_append]
      exact noted

theorem decide (hp : p.Sound) (ho : Coherent p s) (h : Chronicled D C I s) {r : StepResult}
    (pending : r.stepId ∈ s.pending) (none : r.attempts = 0) : Chronicled D C I (s.decide r) := by
  have idle := ho.idle_of_pending hp pending
  have fresh := ho.isTerminal_of_pending hp pending
  have nothing := h.fresh r.stepId idle fresh
  refine h.finish rfl rfl (List.append_nil _).symm (by simp) rfl (fun _ mem => mem) rfl
    (fun id => (or_iff_left_of_imp And.left).symm) idle fresh ?_
  rw [nothing]
  exact .unattempted none

theorem takeIn (hp : p.Sound) (ho : Coherent p s) (h : Chronicled D C I s) {e : EndedJob}
    {rest : List EndedJob} (ended : s.ended = e :: rest)
    (own : ∀ x ∈ e.superseded, x.stepId = e.stepId) : Chronicled D C I (s.takeIn e rest) := by
  have mem : e ∈ s.ended := by simp [ended]
  have result := (e.ofStep_result s.now (ho.ended e mem)).1
  have closed := h.ended e mem
  rw [← result] at closed own
  have flight : s.flightIds.Perm (e.stepId :: (s.takeIn e rest).flightIds) := by
    simp only [flightIds, jobs_takeIn, ended_takeIn, ended, List.map_cons]
    exact List.perm_middle
  obtain ⟨left, -⟩ := List.nodup_cons.1 (flight.nodup_iff.1 (ho.nodup_flightIds hp))
  have fresh := ho.isTerminal_of_flight hp (flight.mem_iff.2 List.mem_cons_self)
  refine h.finish ?_ (results_takeIn e rest s) (retried_takeIn e rest s) own (jobs_takeIn ..)
    (fun x hx => ?_) (now_takeIn ..) (fun id => ?_) (result ▸ left) (result ▸ fresh)
    (.attempted closed result rfl)
  · obtain ⟨id, outcome⟩ := e
    cases outcome <;> rfl
  · rw [ended_takeIn] at hx
    exact ended ▸ List.mem_cons_of_mem e hx
  · rw [flight.mem_iff, List.mem_cons, result]
    tauto

theorem launch (hp : p.Sound) (ho : Coherent p s) (h : Chronicled D C I s) {step : Step}
    (pending : step.id ∈ s.pending) (starts : D step s.context.variables)
    (begins : I s.now step s.context.variables [] (Job.ofStep p step s.context.variables)
      .starting) : Chronicled D C I (s.launch p step) := by
  have nothing :=
    h.fresh step.id (ho.idle_of_pending hp pending) (ho.isTerminal_of_pending hp pending)
  refine ⟨fun id idle fresh => h.fresh id (fun mem => idle ?_) fresh, h.unabsorbed, fun j mem => ?_,
    h.ended, h.results⟩
  · simp only [flightIds, RunState.launch, List.map_append, List.mem_append] at mem ⊢
    exact mem.imp_left .inl
  · rcases List.mem_append.1 mem with mem | mem
    · exact h.jobs j mem
    · cases List.mem_singleton.1 mem
      refine ⟨starts, ?_⟩
      change I s.now step s.context.variables (entriesOf step.id s.log) _ _
      rw [nothing]
      exact begins

theorem skips (hp : p.Sound) (h : Chronicled D C I s) {ids : List String} {branch reason : String}
    {P : RunState → Prop} (coherent : ∀ t, P t → Coherent p t)
    (skip : ∀ t, ∀ id ∈ ids, id ∈ t.pending → P t → P (t.skip id branch reason))
    (nodup : ids.Nodup) (pending : ∀ id ∈ ids, id ∈ s.pending) (start : P s) :
    Chronicled D C I (ids.foldl (fun s id => s.skip id branch reason) s) :=
  (skips_keep (P := fun t => P t ∧ Chronicled D C I t) (fun t id mem pending hP =>
    ⟨skip t id mem pending hP.1, hP.2.decide hp (coherent t hP.1) pending rfl⟩) nodup pending
    ⟨start, h⟩).2

theorem entriesOf_runEntry (id : String) (s t : RunState) (kind : Trace.EventKind) :
    entriesOf id (s.log ++ [t.runEntry kind]) = entriesOf id s.log := by
  have none : entriesOf id [t.runEntry kind] = [] := entriesOf_other (by simp [runEntry])
  rw [entriesOf_append, none, List.append_nil]

theorem close (h : Chronicled D C I s) (interrupted : Bool) :
    Chronicled D C I (s.close p interrupted) :=
  h.of_same rfl rfl rfl rfl rfl fun id => entriesOf_runEntry id s s _

theorem leave (h : Chronicled D C I s) : Chronicled D C I (s.leave p) := by
  unfold RunState.leave
  split
  · refine h.of_same rfl rfl rfl rfl rfl fun id => ?_
    change entriesOf id (if s.fault.isNone then s.log ++ [s.runEntry .runCancelled] else s.log) = _
    split
    · exact entriesOf_runEntry id s s _
    · rfl
  · exact h.close false

theorem act (hp : p.Sound) (ho : Orderly p s) (h : Chronicled D C I s) (m : Act p s t)
    (own : ∀ e ∈ s.ended, ∀ x ∈ e.superseded, x.stepId = e.stepId)
    (starts : ∀ step ∈ p.program.steps, p.isPastDeadline s.now = false →
      t.jobs = s.jobs ++ [Job.ofStep p step s.context.variables] → D step s.context.variables ∧
        I s.now step s.context.variables [] (Job.ofStep p step s.context.variables) .starting) :
    Chronicled D C I t := by
  cases m with
  | look | scanned | pass | again => exact h.of_same rfl rfl rfl rfl rfl fun _ => rfl
  | skip _ pending =>
    exact (h.decide hp ho.toCoherent pending rfl).of_same rfl rfl rfl rfl rfl fun _ => rfl
  | @expire id _ _ _ pending =>
    have decided : Chronicled D C I
        (s.decide ((StepResult.failed id 0 .deadline .unevaluated).between s.now s.now)) :=
      h.decide hp ho.toCoherent pending rfl
    exact decided.of_same rfl rfl rfl rfl rfl fun _ => rfl
  | launch _ pending _ _ early found =>
    obtain rfl := Program.id_of_step? found
    obtain ⟨dispatched, begins⟩ := starts _ (List.mem_of_find?_eq_some found) early rfl
    have launched := h.launch hp ho.toCoherent pending dispatched begins
    exact launched.of_same rfl rfl rfl rfl rfl fun _ => rfl
  | leave => exact h.leave
  | takeIn _ _ ended =>
    have taken := h.takeIn hp ho.toCoherent ended (own _ (by simp [ended]))
    exact taken.of_same rfl rfl rfl rfl rfl fun _ => rfl
  | drain _ ended => exact h.takeIn hp ho.toCoherent ended (own _ (by simp [ended]))
  | finish control =>
    have cut := ho.cancelled_of_draining control
    refine (h.skips hp (P := fun t => Coherent p t ∧ t.cancelled = true) (fun _ => And.left) ?_
      (ho.nodup_pending hp) (fun _ mem => mem) ⟨ho.toCoherent, cut⟩).close true
    rintro t id mem pending ⟨coherent, cut⟩
    exact ⟨coherent.skip_cancelled (ho.connected id mem) cut pending, cut⟩

/-- Moves that only add to what there is of a step in flight. -/
theorem of_flight (h : Chronicled D C I s) {id : String} (flying : id ∈ s.flightIds)
    (unsettled : ∀ r ∈ s.results, r.stepId ≠ id) (flight : ∀ x ∈ s.flightIds, x ∈ t.flightIds)
    (results : t.results = s.results) (retried : t.retried = s.retried) (now : t.now = s.now)
    (log : ∀ x, x ≠ id → entriesOf x t.log = entriesOf x s.log)
    (jobs : ∀ j ∈ t.jobs, j ∈ s.jobs ∧ j.step.id ≠ id ∨ D j.step j.variables ∧
      I t.now j.step j.variables (entriesOf j.step.id t.log) j j.point)
    (ended : ∀ e ∈ t.ended, e ∈ s.ended ∧ e.stepId ≠ id ∨ C e (entriesOf e.stepId t.log)) :
    Chronicled D C I t where
  fresh x idle fresh := by
    unfold isTerminal result? at fresh
    rw [results] at fresh
    have idle : x ∉ s.flightIds := fun mem => idle (flight x mem)
    rw [log x fun same => idle (by rwa [same])]
    exact h.fresh x idle fresh
  unabsorbed x fresh := by
    unfold isTerminal result? at fresh
    unfold retriedOf
    rw [results] at fresh
    rw [retried]
    exact h.unabsorbed x fresh
  jobs j mem := by
    rcases jobs j mem with ⟨mem, other⟩ | new
    · rw [log _ other, now]
      exact h.jobs j mem
    · exact new
  ended e mem := by
    rcases ended e mem with ⟨mem, other⟩ | new
    · rw [log _ other]
      exact h.ended e mem
    · exact new
  results r mem := by
    rw [results] at mem
    unfold retriedOf
    rw [log _ (unsettled r mem), retried]
    exact h.results r mem

/-- What a poll records is about the step of its job. -/
theorem entriesOf_polled {turn : Nat} {id : String} {j : Job} {log : List LogEntry} {polled : Polled}
    (found : s.jobs.find? (isJobOf id) = some j)
    (h : j.poll p s.now turn s.cancelled = (log, polled)) :
    entriesOf id (s.log ++ log) = entriesOf id s.log ++ log ∧
      ∀ x, x ≠ id → entriesOf x (s.log ++ log) = entriesOf x s.log := by
  have concerns : ∀ e ∈ (j.poll p s.now turn s.cancelled).1, e.stepId = some j.step.id :=
    Job.concerns_poll
  rw [h, id_of_find?_job found] at concerns
  refine ⟨by rw [entriesOf_append, entriesOf_own concerns], fun x ne => ?_⟩
  have none : entriesOf x log = [] :=
    entriesOf_other fun e he => by simpa [concerns e he] using ne.symm
  rw [entriesOf_append, none, List.append_nil]

/-- Where a step has a job, it has nothing else. -/
structure Alone (s : RunState) (id : String) : Prop where
  flying : id ∈ s.flightIds
  results : ∀ r ∈ s.results, r.stepId ≠ id
  ended : ∀ e ∈ s.ended, e.stepId ≠ id
  jobs : ∀ j ∈ First.remove (isJobOf id) s.jobs, j ∈ s.jobs ∧ j.step.id ≠ id

theorem alone_of_job (hp : p.Sound) (ho : Coherent p s) {id : String} {j : Job}
    (found : s.jobs.find? (isJobOf id) = some j) : Alone s id := by
  have own := id_of_find?_job found
  have flight := List.nodup_append.1 (ho.nodup_flightIds hp)
  have places := List.nodup_append.1
    (List.nodup_append.1 (ho.places.nodup_iff.2 hp.nodup_nodes)).2.1
  have job : id ∈ s.jobs.map fun j => j.step.id :=
    List.mem_map.2 ⟨j, List.mem_of_find?_eq_some found, own⟩
  have flying : id ∈ s.flightIds := List.mem_append_left _ job
  refine ⟨flying, fun r mem same => ?_, fun e mem same => ?_, fun i mem => ?_⟩
  · exact places.2.2 id flying id (List.mem_map.2 ⟨r, mem, same⟩) rfl
  · exact flight.2.2 id job id (List.mem_map.2 ⟨e, mem, same⟩) rfl
  · refine ⟨First.mem_of_mem_remove mem, fun same => ?_⟩
    have nodup := ((First.perm_remove found).map fun j => j.step.id).nodup_iff.1 flight.1
    rw [List.map_cons, own] at nodup
    exact (List.nodup_cons.1 nodup).1 (List.mem_map.2 ⟨i, mem, same⟩)

/-- A poll adds to what its own job has recorded. -/
theorem poll {F : Bool → Step → List (String × Value) → List LogEntry → JobOutcome → Prop}
    {o : Surroundings} (law : Job.LogLaw o p I F) (hp : p.Sound) (ho : Coherent p s)
    (h : Chronicled D C I s) {turn : Nat} {id : String} (m : Poll p turn id s t)
    (closes : ∀ j ∈ s.jobs, j.step.id = id → ∀ outcome, t.ended = s.ended ++ [⟨id, outcome⟩] →
      F s.cancelled j.step j.variables (entriesOf id t.log) outcome →
      C ⟨id, outcome⟩ (entriesOf id t.log)) : Chronicled D C I t := by
  have polls : ∀ {j log polled}, s.jobs.find? (isJobOf id) = some j →
      j.poll p s.now turn s.cancelled = (log, polled) → D j.step j.variables ∧
        Job.Settles (I s.now j.step j.variables (entriesOf id (s.log ++ log)))
          (F s.cancelled j.step j.variables (entriesOf id (s.log ++ log))) polled := by
    intro j log polled found hpoll
    obtain ⟨dispatched, lawful⟩ := h.jobs j (List.mem_of_find?_eq_some found)
    have after := law.polls lawful turn s.cancelled
    rw [hpoll, id_of_find?_job found] at after
    rw [(entriesOf_polled found hpoll).1]
    exact ⟨dispatched, after⟩
  cases m with
  | @waits j j' log found ready polled =>
    have alone := alone_of_job hp ho found
    obtain ⟨dispatched, after⟩ := polls found polled
    obtain ⟨step, vars⟩ := law.own after
    have ids := First.map_replace (fun j => j.step.id) (a := j') found (by rw [step])
    refine h.of_flight alone.flying alone.results (fun x hx => ?_) rfl rfl rfl
      (entriesOf_polled found polled).2 (fun i mem => ?_) fun e mem => .inl ⟨mem, alone.ended e mem⟩
    · unfold flightIds at hx ⊢
      rwa [ids]
    · rcases First.mem_remove_of_mem_replace mem with rfl | mem
      · rw [step, vars, id_of_find?_job found]
        exact .inr ⟨dispatched, after⟩
      · exact .inl (alone.jobs i mem)
  | @ends j outcome log found ready polled =>
    have alone := alone_of_job hp ho found
    obtain ⟨-, after⟩ := polls found polled
    refine h.of_flight alone.flying alone.results (fun x => (flight_moves found outcome).mem_iff.1)
      rfl rfl rfl (entriesOf_polled found polled).2 (fun i mem => .inl (alone.jobs i mem))
      fun e mem => ?_
    rcases List.mem_append.1 mem with mem | mem
    · exact .inl ⟨mem, alone.ended e mem⟩
    · cases List.mem_singleton.1 mem
      exact .inr (closes j (List.mem_of_find?_eq_some found) (id_of_find?_job found) outcome rfl
        after)

theorem start (hp : p.Sound) (context : RunContext) (cancelled : Bool) :
    Chronicled D C I (RunState.start p context cancelled) := by
  have nodup : p.unreachable.Nodup := hp.nodup_nodes.filter _
  have pending : ∀ id ∈ p.unreachable, id ∈ p.graph.nodes := fun id hid =>
    (hp.mem_unreachable.1 hid).1
  unfold RunState.start
  refine skips hp ⟨fun id _ _ => ?_, by simp [retriedOf], by simp, by simp, by simp⟩
    (P := Coherent p) (fun _ => id) (fun t id stray pending coherent =>
      coherent.skip_unreachable stray pending) nodup pending (.fresh rfl rfl rfl rfl)
  exact entriesOf_other (by simp)

end Chronicled

/-- A job of the run has come to its end, by the law and after what it has recorded. -/
inductive Concluded (F : Bool → Step → List (String × Value) → List LogEntry → JobOutcome → Prop)
    (o : Surroundings) (p : Plan) (origin s : RunState) (e : EndedJob) (log : List LogEntry) : Prop
  | intro {u v : RunState} {turn : Nat} {j : Job} (reached : Reaches o p origin u)
      (job : j ∈ u.jobs) (own : j.step.id = e.stepId)
      (dispatched : Dispatched o p origin u j.step j.variables)
      (polls : u.poll? p turn e.stepId = some v) (ended : v.ended = u.ended ++ [e])
      (told : log = entriesOf e.stepId v.log)
      (lawful : F u.cancelled j.step j.variables log e.outcome) (later : Reaches o p v s)

section chronicled

variable {F : Bool → Step → List (String × Value) → List LogEntry → JobOutcome → Prop}
  {I : Nat → Step → List (String × Value) → List LogEntry → Job → Job.Point → Prop}
  {o : Surroundings} {p : Plan} {origin s t : RunState}

theorem Concluded.tail {e : EndedJob} {log : List LogEntry} (h : Concluded F o p origin s e log)
    (m : Move o p s t) : Concluded F o p origin t e log := by
  obtain ⟨reached, job, own, dispatched, polls, ended, told, lawful, later⟩ := h
  exact ⟨reached, job, own, dispatched, polls, ended, told, lawful, later.tail m⟩

/-- What a job has superseded are results of its step. -/
theorem stepId_of_superseded (hp : p.Sound) {context : RunContext} {cancelled : Bool}
    (reached : Reaches o p (RunState.start p context cancelled) s) {e : EndedJob}
    (mem : e ∈ s.ended) : ∀ x ∈ e.superseded, x.stepId = e.stepId := by
  intro x hx
  obtain ⟨step, vars, -, own, comes⟩ :=
    (Tracked.of_reaches (Job.law_views o p) reached).ended e mem
  obtain ⟨number, result, attempted, rfl⟩ := (e.reported own comes 0).2 x hx
  exact (attempted.stepId hp).trans own

/-- Whatever the law of jobs, what there is of each step comes from its job. -/
theorem Chronicled.of_reaches (law : Job.LogLaw o p I F) (hp : p.Sound) {context : RunContext}
    {cancelled : Bool} (reached : Reaches o p (RunState.start p context cancelled) s) :
    Chronicled (Dispatched o p (RunState.start p context cancelled) s)
      (Concluded F o p (RunState.start p context cancelled) s) I s := by
  induction reached with
  | refl => exact .start hp context cancelled
  | @tail s t reached m ih =>
    have ho := Orderly.of_reaches hp reached
    have h := ih.mono (fun _ _ dispatched => dispatched.tail m) fun _ _ closed => closed.tail m
    cases m with
    | act acts =>
      refine h.act hp ho (act_of_act? acts) (fun e => stepId_of_superseded hp reached)
        fun step declared early starts => ⟨?_, law.begins declared early _⟩
      exact ⟨s, t, reached, acts, starts, rfl, .refl⟩
    | @poll turn id _ polls =>
      refine h.poll law hp ho.toCoherent (poll_of_poll? polls)
        fun j job own outcome ended lawful => ?_
      exact ⟨reached, job, own, (ih.jobs j job).1, polls, ended, rfl, lawful, .refl⟩
    | cancel => exact h.of_same rfl rfl rfl rfl rfl fun _ => rfl
    | elapse allowed =>
      refine ⟨h.fresh, h.unabsorbed, fun j mem => ?_, h.ended, h.results⟩
      obtain ⟨dispatched, lawful⟩ := h.jobs j mem
      exact ⟨dispatched, law.elapses allowed j mem _ lawful⟩

/-- In some state up to `s` the job of the step had ended in a panic. -/
def StepPanicked (o : Surroundings) (p : Plan) (origin s : RunState) (id : String) : Prop :=
  ∃ u message, Reaches o p origin u ∧ Reaches o p u s ∧
    (⟨id, .panicked message⟩ : EndedJob) ∈ u.ended

/-- A step with a result was not attempted, or has a job that ended with it, unless that has
panicked. -/
theorem Chronicled.finished_or_unattempted {D : Step → List (String × Value) → Prop}
    (h : Chronicled D (Concluded F o p origin s) I s) {r : StepResult} (mem : r ∈ s.results)
    (calm : ¬ StepPanicked o p origin s r.stepId) :
    (∃ past log moment, Concluded F o p origin s ⟨r.stepId, .finished r past⟩ log ∧
      entriesOf r.stepId s.log = log ++ [finishEntry moment r] ∧ retriedOf r.stepId s = past) ∨
    r.attempts = 0 ∧ ∃ moment, entriesOf r.stepId s.log = [finishEntry moment r] := by
  have entered := h.results r mem
  generalize entriesOf r.stepId s.log = log, retriedOf r.stepId s = retried at entered
  cases entered with
  | @unattempted moment none => exact .inr ⟨none, moment, rfl⟩
  | @attempted e moment log closed own result =>
    obtain ⟨id, outcome⟩ := e
    obtain rfl : r.stepId = id := own
    cases outcome with
    | panicked message =>
      obtain ⟨before, -, -, -, polls, ended, -, -, later⟩ := closed
      exact absurd ⟨_, message, before.tail (.poll polls), later, by simp [ended]⟩ calm
    | finished r' past =>
      obtain rfl : r = r' := result
      exact .inl ⟨past, log, moment, closed, rfl, rfl⟩

/-- A step with the result of an attempt has a job that ended with it, unless that has panicked. -/
theorem Chronicled.finished_of_result {D : Step → List (String × Value) → Prop}
    (h : Chronicled D (Concluded F o p origin s) I s) {r : StepResult} (mem : r ∈ s.results)
    (attempted : 1 ≤ r.attempts) (calm : ¬ StepPanicked o p origin s r.stepId) :
    ∃ past log moment, Concluded F o p origin s ⟨r.stepId, .finished r past⟩ log ∧
      entriesOf r.stepId s.log = log ++ [finishEntry moment r] ∧ retriedOf r.stepId s = past :=
  (h.finished_or_unattempted mem calm).resolve_right fun unattempted => by omega

end chronicled
end RunState
end Playbook
