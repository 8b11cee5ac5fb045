import Playbook.Proofs.Run.Completion
import Playbook.Proofs.Run.Precedence
import Playbook.Proofs.Run.Scheduling
import Playbook.Proofs.Trace.Recorder

/-!
What the recorder knows of a run. Whatever happens to a scheduler, the record of a run, where one is
kept, is what comes of the log of the run when its entries are recorded one after the other, each of
them once. So what is counted of a run is counted of its log.
-/
namespace Playbook

open Trace (Event EventKind Recorder RunRecord)

/-- Whether the event tells that an attempt is followed by another one. -/
def Trace.Event.isRetry (e : Event) : Bool := e.kind matches .stepRetried ..

/-! ### One run -/

namespace ScheduledRun

/-- The event that an entry of the run becomes. -/
def event (epoch : Instant) (r : ScheduledRun) (sequence : Nat) (e : LogEntry) : Event :=
  ⟨r.id, sequence, epoch.addMillis (r.startedAt + e.moment), e.stepId, e.attempt, e.kind⟩

/-- The record of the run after some more of its entries. -/
def replay (epoch : Instant) (r : ScheduledRun) (log : List LogEntry) (record : RunRecord) :
    RunRecord :=
  log.foldl (fun record e => record.observe (r.event epoch record.nextSequence e)) record

variable {epoch : Instant} {r : ScheduledRun} {log : List LogEntry} {record : RunRecord}

theorem replay_append (log more : List LogEntry) :
    r.replay epoch (log ++ more) record = r.replay epoch more (r.replay epoch log record) :=
  List.foldl_append ..

theorem retries_observe (record : RunRecord) (e : Event) :
    (record.observe e).totals.retries = record.totals.retries + if e.isRetry then 1 else 0 := by
  unfold RunRecord.observe Trace.Totals.observe Trace.Event.isRetry
  cases e.kind <;> rfl

/-- What an entry of the run notes. -/
def note (epoch : Instant) (r : ScheduledRun) (e : LogEntry) : Trace.Note :=
  ⟨epoch.addMillis (r.startedAt + e.moment), e.stepId, e.attempt, e.kind⟩

theorem replay_eq (epoch : Instant) (r : ScheduledRun) (log : List LogEntry) (record : RunRecord) :
    r.replay epoch log record = record.replay r.id (log.map (r.note epoch)) := by
  unfold RunRecord.replay
  rw [List.foldl_map]
  rfl

theorem debug_replay : (r.replay epoch log record).debug = record.debug := by
  rw [replay_eq, RunRecord.debug_replay]

/-- In debug mode all events are kept, in the order of the log. -/
theorem events_replay (epoch : Instant) (r : ScheduledRun) (log : List LogEntry) {record : RunRecord}
    (debug : record.debug = true) :
    (r.replay epoch log record).events.map (fun e => (e.stepId, e.attempt, e.kind)) =
      record.events.map (fun e => (e.stepId, e.attempt, e.kind)) ++
        log.map fun e => (e.stepId, e.attempt, e.kind) := by
  rw [replay_eq, RunRecord.events_replay, if_pos debug, List.map_append,
    Trace.map_numbered (fun n : Trace.Note => (n.stepId, n.attempt, n.kind)) fun _ _ => rfl,
    List.map_map]
  rfl

theorem retries_replay :
    (r.replay epoch log record).totals.retries =
      record.totals.retries + (log.filter LogEntry.isRetry).length := by
  induction log generalizing record with
  | nil => rfl
  | cons e rest ih =>
    refine ih.trans ?_
    have same : (r.event epoch record.nextSequence e).isRetry = e.isRetry := rfl
    rw [retries_observe, same]
    cases retry : e.isRetry
    · simp [retry]
    · simp [retry]
      omega

/-- What the recorder may know of a run: nothing before it begins, and then what its log tells. -/
def Recorded (epoch : Instant) (r : ScheduledRun) (known : Option RunRecord) : Prop :=
  match r.stage with
  | .submitted .. => r.recorded = 0 ∧ known = none
  | .active p s => r.recorded = s.log.length ∧ ∀ record ∈ known, ∃ debug,
      record = r.replay epoch s.log { programId := p.program.id, version := p.program.version, debug }
  | _ => True

/-- Records may get lost. -/
theorem Recorded.lost {known : Option RunRecord} (h : r.Recorded epoch known) :
    r.Recorded epoch none := by
  unfold Recorded at *
  split at h
  · exact ⟨h.1, rfl⟩
  · exact ⟨h.1, by simp⟩
  · trivial

theorem Recorded.elapseTo {known : Option RunRecord} (h : r.Recorded epoch known) (moment : Nat) :
    (r.elapseTo moment).Recorded epoch known := by
  unfold ScheduledRun.elapseTo
  split
  · next active =>
    unfold Recorded at *
    rw [active] at h
    exact h
  · exact h

end ScheduledRun

/-! ### Runs side by side -/

namespace Scheduler

variable {w w' : Scheduler}

theorem get?_record (w : Scheduler) (r : ScheduledRun) (log : List LogEntry) (id : String) :
    Keyed.get? id (w.record r log).recorder.runs =
      if id = r.id then (Keyed.get? id w.recorder.runs).map (r.replay w.epoch (log.drop r.recorded))
      else Keyed.get? id w.recorder.runs := by
  unfold record ScheduledRun.replay
  generalize log.drop r.recorded = entries, w.recorder = recorder
  induction entries generalizing recorder with
  | nil => simp
  | cons e rest ih =>
    rw [List.foldl_cons, ih, Recorder.get?_record]
    split
    · cases Keyed.get? id recorder.runs <;> rfl
    · rfl

/-- The recorder knows of each run what the log of the run tells. -/
structure AllRecorded (w : Scheduler) : Prop where
  unknown : ∀ id, w.run? id = none → Keyed.get? id w.recorder.runs = none
  runs : ∀ id r, w.run? id = some r → r.Recorded w.epoch (Keyed.get? id w.recorder.runs)

namespace AllRecorded

/-- A change of one run, while of the others at most records get lost. -/
theorem of_replace (h : AllRecorded w) {r r' : ScheduledRun} (found : w.run? r.id = some r)
    (runs : w'.runs = First.replace (isRun r.id) r' w.runs) (same : r'.id = r.id)
    (epoch : w'.epoch = w.epoch)
    (others : ∀ id, id ≠ r.id →
      Keyed.get? id w'.recorder.runs = Keyed.get? id w.recorder.runs ∨
        Keyed.get? id w'.recorder.runs = none)
    (own : r'.Recorded w.epoch (Keyed.get? r.id w'.recorder.runs)) : AllRecorded w' := by
  obtain ⟨replaced, kept⟩ := run?_of_replace found runs same
  refine ⟨fun id none => ?_, fun id x hx => ?_⟩
  · have other : id ≠ r.id := by
      rintro rfl
      simp [replaced] at none
    rcases others id other with same | lost
    · exact same.trans (h.unknown id (kept id other ▸ none))
    · exact lost
  · by_cases other : id = r.id
    · subst other
      rw [replaced] at hx
      cases hx
      exact epoch ▸ own
    · rw [kept id other] at hx
      rw [epoch]
      rcases others id other with same | lost
      · exact same ▸ h.runs id x hx
      · exact lost ▸ (h.runs id x hx).lost

/-- A run that goes on records what its log has got in addition. -/
theorem advanceRun (h : AllRecorded w) {r : ScheduledRun} (found : w.run? r.id = some r) {p : Plan}
    {s t : RunState} (active : r.stage = .active p s) (m : Move .free p s t) (cancelled : Bool) :
    AllRecorded (w.advanceRun { r with cancelled } p s t) := by
  have recorder : (w.advanceRun { r with cancelled } p s t).recorder =
      (w.record { r with cancelled } t.log).recorder := by
    unfold Scheduler.advanceRun
    simp only
    split <;> rfl
  have epoch : (w.advanceRun { r with cancelled } p s t).epoch = w.epoch := by
    unfold Scheduler.advanceRun
    simp only
    split <;> rfl
  have known := h.runs r.id r found
  unfold ScheduledRun.Recorded at known
  rw [active] at known
  obtain ⟨counted, told⟩ := known
  refine h.of_replace found (runs_advanceRun ..) rfl epoch (fun id other => .inl ?_) ?_
  · rw [recorder, get?_record, if_neg other]
  · rw [recorder, get?_record, if_pos rfl]
    refine ⟨rfl, fun record mem => ?_⟩
    obtain ⟨before, was, rfl⟩ := Option.mem_map.1 mem
    obtain ⟨debug, rfl⟩ := told before was
    obtain ⟨new, log⟩ := m.onward.log
    refine ⟨debug, ?_⟩
    rw [← log]
    change ScheduledRun.replay _ _ ((s.log ++ new).drop r.recorded) _ = _
    rw [counted, List.drop_left]
    exact (ScheduledRun.replay_append ..).symm

theorem beginRun (h : AllRecorded w) {r : ScheduledRun} (found : w.run? r.id = some r)
    {program : Program} {context : RunContext} (submitted : r.stage = .submitted program context) :
    AllRecorded (w.beginRun r program context) := by
  have known := h.runs r.id r found
  unfold ScheduledRun.Recorded at known
  rw [submitted] at known
  obtain ⟨counted, unknown⟩ := known
  unfold Scheduler.beginRun
  simp only
  split
  · exact h.of_replace found rfl rfl rfl (fun _ _ => .inl rfl) trivial
  · generalize hrecorder : Recorder.beginRun _ _ _ _ _ _ = recorder
    have others : ∀ id, id ≠ r.id → ∀ log,
        Keyed.get? id (Scheduler.record { w with recorder } r log).recorder.runs =
            Keyed.get? id w.recorder.runs ∨
          Keyed.get? id (Scheduler.record { w with recorder } r log).recorder.runs = none := by
      intro id other log
      rw [get?_record, if_neg other, ← hrecorder]
      exact w.recorder.get?_beginRun_of_ne other ..
    split
    · exact h.of_replace found rfl rfl rfl (fun id other => others id other _) trivial
    · refine h.of_replace found rfl rfl rfl (fun id other => others id other _)
        ⟨rfl, fun record mem => ?_⟩
      change record ∈ Keyed.get? r.id (Scheduler.record { w with recorder } r _).recorder.runs at mem
      rw [get?_record, if_pos rfl] at mem
      obtain ⟨fresh, began, rfl⟩ := Option.mem_map.1 mem
      rw [← hrecorder] at began
      obtain rfl := w.recorder.get?_beginRun_self unknown _ _ _ _ fresh began
      rw [counted, List.drop_zero]
      exact ⟨_, rfl⟩

theorem act (h : AllRecorded w) {t : Task} (acts : Acts w t w') : AllRecorded w' := by
  cases acts with
  | begins found submitted => exact h.beginRun found submitted
  | @loop r p s t found active acts => exact h.advanceRun found active (.act acts) r.cancelled
  | @job r p s t _ found active polls => exact h.advanceRun found active (.poll polls) r.cancelled

theorem elapseTo (h : AllRecorded w) (moment : Nat) : AllRecorded (w.elapseTo moment) := by
  refine ⟨fun id none => h.unknown id ?_, fun id r hr => ?_⟩
  · simpa [run?_elapseTo] using none
  · rw [run?_elapseTo] at hr
    obtain ⟨before, found, rfl⟩ := Option.map_eq_some_iff.1 hr
    exact (h.runs id before found).elapseTo moment

theorem submit (h : AllRecorded w) (id : String) (program : Program) (context : RunContext) :
    AllRecorded (w.submit id program context) := by
  refine ⟨fun x none => ?_, fun x r hr => ?_⟩
  · rw [run?_submit, Option.or_eq_none_iff] at none
    exact h.unknown x none.1
  · rw [run?_submit, Option.or_eq_some_iff] at hr
    rcases hr with found | ⟨none, new⟩
    · exact h.runs x r found
    · split at new
      · cases new
        exact ⟨rfl, h.unknown x none⟩
      · cases new

theorem cancel (h : AllRecorded w) (id : String) : AllRecorded (w.cancel id) := by
  unfold Scheduler.cancel
  split
  · exact h
  · next r found =>
    obtain rfl := run?_id found
    split
    · next active => exact h.advanceRun found active (.cancel trivial) true
    · next inactive =>
      refine h.of_replace found rfl rfl rfl (fun _ _ => .inl rfl) ?_
      have known := h.runs r.id r found
      unfold ScheduledRun.Recorded at *
      exact known

theorem happens (h : AllRecorded w) (m : Happens w w') : AllRecorded w' := by
  cases m with
  | submit id program context => exact h.submit id program context
  | cancel id => exact h.cancel id
  | elapse moment => exact h.elapseTo moment
  | step m =>
    cases steps_of_step? m with
    | goes _ acts => exact h.act acts
    | waits => exact ⟨h.unknown, h.runs⟩
    | elapses => exact h.elapseTo _

end AllRecorded

/-- Whatever happens to a scheduler, its recorder knows of each run what the log of the run tells. -/
theorem recorded_of_happens (empty : w.runs = []) (unknown : w.recorder.runs = [])
    (h : Relation.ReflTransGen Happens w w') : AllRecorded w' := by
  induction h with
  | refl => exact ⟨fun id _ => by simp [unknown], fun id r hr => by simp [run?, empty] at hr⟩
  | tail _ m ih => exact ih.happens m

end Scheduler
end Playbook
