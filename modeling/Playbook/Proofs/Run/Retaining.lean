import Playbook.Proofs.Run.Capacity
import Playbook.Proofs.Run.Recording
import Playbook.Proofs.Run.Settling
import Playbook.Proofs.Trace.Capacity

/-!
What a scheduler retains. Its table comes of insertions and settlements of its runs, and what its
recorder knows of calls about them; no run is inserted twice, and none begins twice. So whatever
happens, table and recorder list what they retain in order, and keep to their limits.
-/
namespace Playbook
namespace Scheduler

open Trace (Recorder)
open Trace.Recorder (Call begun)

/-- The table of a scheduler comes of some changes and its recorder of some calls. Each run has been
inserted once, as it was submitted; none that has not begun is begun to be recorded, and none twice. -/
structure ComesOf (start : Recorder) (changes : List RunTable.Change) (calls : List Call)
    (w : Scheduler) : Prop where
  table : w.table = RunTable.after w.maxRetained changes
  inserted : RunTable.inserted changes = w.runs.map ScheduledRun.id
  apart : (w.runs.map ScheduledRun.id).Nodup
  recorder : w.recorder = start.after calls
  begins : ∀ id ∈ begun calls, ∃ r, w.run? id = some r ∧ r.stage.unbegun = 0
  once : (begun calls).Nodup

variable {start : Recorder} {changes : List RunTable.Change} {calls : List Call}
  {w w' : Scheduler} {r r' : ScheduledRun}

/-- The calls that record the events of a run. -/
def recordings (epoch : Instant) (r : ScheduledRun) (log : List LogEntry) : List Call :=
  (log.drop r.recorded).map fun e => .record r.id (r.note epoch e)

theorem recorder_record (w : Scheduler) (r : ScheduledRun) (log : List LogEntry) :
    (w.record r log).recorder = w.recorder.after (recordings w.epoch r log) := by
  unfold record recordings Recorder.after
  rw [List.foldl_map]
  rfl

theorem begun_recordings (epoch : Instant) (r : ScheduledRun) (log : List LogEntry) :
    begun (recordings epoch r log) = [] := by
  unfold begun recordings
  rw [List.filterMap_map]
  exact List.filterMap_eq_nil_iff.2 fun _ _ => rfl

theorem begun_append (calls more : List Call) : begun (calls ++ more) = begun calls ++ begun more :=
  List.filterMap_append

theorem run?_of_mem_runs {id : String} (listed : id ∈ w.runs.map ScheduledRun.id) :
    w.run? id ≠ none := by
  obtain ⟨r, mem, rfl⟩ := List.mem_map.1 listed
  intro none
  have other := List.find?_eq_none.1 none r mem
  simp [isRun] at other

namespace ComesOf

/-- One run changes, and begins if it has not begun before. -/
theorem of_replace (h : ComesOf start changes calls w) (found : w.run? r.id = some r)
    (w' : Scheduler) (more : List RunTable.Change) (further : List Call)
    (runs : w'.runs = First.replace (isRun r.id) r' w.runs) (same : r'.id = r.id)
    (limit : w'.maxRetained = w.maxRetained)
    (table : w'.table = more.foldl (fun t c => t.change w.maxRetained c) w.table)
    (recorder : w'.recorder = w.recorder.after further) (settles : RunTable.inserted more = [])
    (onward : r.stage.unbegun = 0 → r'.stage.unbegun = 0)
    (new : begun further = [] ∨
      begun further = [r.id] ∧ r.stage.unbegun ≠ 0 ∧ r'.stage.unbegun = 0) :
    ComesOf start (changes ++ more) (calls ++ further) w' := by
  obtain ⟨replaced, kept⟩ := run?_of_replace found runs same
  have ids : w'.runs.map ScheduledRun.id = w.runs.map ScheduledRun.id := by
    rw [runs]
    exact First.map_replace _ found same
  constructor
  case table =>
    rw [table, h.table, limit]
    exact (List.foldl_append ..).symm
  case inserted =>
    rw [ids, ← h.inserted, RunTable.inserted, List.filterMap_append]
    exact (congrArg _ settles).trans (List.append_nil _)
  case apart =>
    rw [ids]
    exact h.apart
  case recorder =>
    rw [recorder, h.recorder]
    exact (List.foldl_append ..).symm
  case begins =>
    intro id among
    rw [begun_append, List.mem_append] at among
    by_cases own : id = r.id
    · subst own
      refine ⟨r', replaced, ?_⟩
      rcases among with before | now
      · obtain ⟨x, hx, begins⟩ := h.begins r.id before
        obtain rfl := Option.some.inj (found.symm.trans hx)
        exact onward begins
      · rcases new with none | ⟨-, -, begins⟩
        · simp [none] at now
        · exact begins
    · rw [kept id own]
      refine h.begins id (among.resolve_right fun now => ?_)
      rcases new with none | ⟨one, -⟩
      · simp [none] at now
      · exact own (by simpa [one] using now)
  case once =>
    rw [begun_append]
    rcases new with none | ⟨one, late, -⟩
    · rw [none, List.append_nil]
      exact h.once
    · rw [one, ← List.concat_eq_append]
      refine h.once.concat fun before => ?_
      obtain ⟨x, hx, begins⟩ := h.begins r.id before
      obtain rfl := Option.some.inj (found.symm.trans hx)
      exact late begins

theorem advanceRun (h : ComesOf start changes calls w) (found : w.run? r.id = some r) (p : Plan)
    (s t : RunState) (cancelled : Bool) :
    ∃ more further, ComesOf start (changes ++ more) (calls ++ further)
      (w.advanceRun { r with cancelled } p s t) := by
  have runs := runs_advanceRun w { r with cancelled } p s t
  obtain ⟨-, table⟩ := table_advanceRun w { r with cancelled } p s t
  have limit : (w.advanceRun { r with cancelled } p s t).maxRetained = w.maxRetained := by
    unfold Scheduler.advanceRun
    simp only
    split <;> rfl
  have recorder : (w.advanceRun { r with cancelled } p s t).recorder =
      (w.record { r with cancelled } t.log).recorder := by
    unfold Scheduler.advanceRun
    simp only
    split <;> rfl
  rw [recorder_record] at recorder
  have silent := begun_recordings w.epoch { r with cancelled } t.log
  cases result : t.result p (w.epoch.addMillis r.startedAt) with
  | some outcome =>
    rw [result] at table
    exact ⟨[.settle r.id (.finished outcome)], _, h.of_replace found _ _ _ runs rfl limit table
      recorder rfl (fun _ => rfl) (.inl silent)⟩
  | none =>
    rw [result] at table
    exact ⟨[], _, h.of_replace found _ _ _ runs rfl limit table recorder rfl (fun _ => rfl)
      (.inl silent)⟩

/-- A submitted run begins to be recorded as it begins, unless it is rejected. -/
theorem beginRun (h : ComesOf start changes calls w) (found : w.run? r.id = some r)
    {program : Program} {context : RunContext} (submitted : r.stage = .submitted program context) :
    ∃ more further, ComesOf start (changes ++ more) (calls ++ further)
      (w.beginRun r program context) := by
  have late : r.stage.unbegun ≠ 0 := by simp [submitted, Stage.unbegun]
  unfold Scheduler.beginRun
  simp only
  split
  · next cause refused =>
    exact ⟨[.settle r.id (.rejected cause.message)], [],
      h.of_replace found _ _ _ rfl rfl rfl rfl rfl rfl (fun _ => rfl) (.inl rfl)⟩
  · generalize program.tracking.enableTracking = tracking
    generalize (program.tracking.storeDebugInfo || context.debugMode) = debug
    let begins : Call := .beginRun r.id program.id program.version tracking debug
    have recorder : ∀ log, (Scheduler.record { w with
        recorder := w.recorder.beginRun r.id program.id program.version tracking debug }
          r log).recorder = w.recorder.after (begins :: recordings w.epoch r log) :=
      fun log => recorder_record ..
    have new : ∀ log, begun (begins :: recordings w.epoch r log) = [] ∨
        begun (begins :: recordings w.epoch r log) = [r.id] := by
      intro log
      have silent := begun_recordings w.epoch r log
      unfold begun at silent ⊢
      rw [List.filterMap_cons, silent]
      cases enabled : tracking || debug <;> simp [begins, Call.begun?, enabled]
    split
    · exact ⟨[], _, h.of_replace found _ _ _ rfl rfl rfl rfl (recorder _) rfl (fun _ => rfl)
        ((new _).imp_right fun one => ⟨one, late, rfl⟩)⟩
    · exact ⟨[], _, h.of_replace found _ _ _ rfl rfl rfl rfl (recorder _) rfl (fun _ => rfl)
        ((new _).imp_right fun one => ⟨one, late, rfl⟩)⟩

theorem cancel (h : ComesOf start changes calls w) (id : String) : ∃ more further,
    ComesOf start (changes ++ more) (calls ++ further) (w.cancel id) := by
  unfold Scheduler.cancel
  split
  · exact ⟨[], [], by simpa using h⟩
  · next r found =>
    obtain rfl := run?_id found
    split
    · next p s active => exact h.advanceRun found p s s.cancel true
    · exact ⟨[], [], h.of_replace found _ _ _ rfl rfl rfl rfl rfl rfl (fun same => same) (.inl rfl)⟩

theorem elapseTo (h : ComesOf start changes calls w) (moment : Nat) :
    ComesOf start changes calls (w.elapseTo moment) := by
  have ids : (w.elapseTo moment).runs.map ScheduledRun.id = w.runs.map ScheduledRun.id := by
    unfold Scheduler.elapseTo
    rw [List.map_map]
    apply List.map_congr_left
    intro r _
    unfold Function.comp ScheduledRun.elapseTo
    split <;> rfl
  refine ⟨h.table, ids ▸ h.inserted, ids ▸ h.apart, h.recorder, fun id among => ?_, h.once⟩
  obtain ⟨r, found, begins⟩ := h.begins id among
  refine ⟨r.elapseTo moment, ?_, ?_⟩
  · rw [run?_elapseTo, found, Option.map_some]
  · rw [ScheduledRun.unbegun_elapseTo, begins]

theorem submit (h : ComesOf start changes calls w) {id : String} (new : w.run? id = none)
    (program : Program) (context : RunContext) :
    ComesOf start (changes ++ [.insert id]) calls (w.submit id program context) := by
  have ids : (w.submit id program context).runs.map ScheduledRun.id =
      w.runs.map ScheduledRun.id ++ [id] := by
    simp [Scheduler.submit]
  constructor
  case table =>
    change w.table.insert id w.maxRetained = _
    rw [RunTable.after_concat, ← RunTable.change_eq, h.table]
    rfl
  case inserted =>
    rw [ids, ← h.inserted, RunTable.inserted_concat]
    rfl
  case apart =>
    rw [ids, ← List.concat_eq_append]
    exact h.apart.concat fun listed => run?_of_mem_runs listed new
  case recorder =>
    exact h.recorder
  case begins =>
    intro x among
    obtain ⟨r, found, begins⟩ := h.begins x among
    exact ⟨r, by rw [run?_submit, found, Option.some_or], begins⟩
  case once =>
    exact h.once

theorem evolves (h : ComesOf start changes calls w) (m : Evolves w w') : ∃ more further,
    ComesOf start (changes ++ more) (calls ++ further) w' := by
  cases m with
  | submit new program context =>
    exact ⟨[.insert _], [], by simpa using h.submit new program context⟩
  | cancel id => exact h.cancel id
  | elapse moment => exact ⟨[], [], by simpa using h.elapseTo moment⟩
  | step m =>
    cases steps_of_step? m with
    | waits =>
      refine ⟨[], [], ?_⟩
      rw [List.append_nil, List.append_nil]
      exact ⟨h.table, h.inserted, h.apart, h.recorder, h.begins, h.once⟩
    | elapses => exact ⟨[], [], by simpa using h.elapseTo _⟩
    | goes _ acts =>
      cases acts with
      | begins found submitted => exact h.beginRun found submitted
      | @loop r _ _ _ found active acts => exact h.advanceRun found _ _ _ r.cancelled
      | @job r _ _ _ _ found active polls => exact h.advanceRun found _ _ _ r.cancelled

end ComesOf

theorem comesOf_of_evolves (runs : w.runs = []) (table : w.table = {})
    (h : Relation.ReflTransGen Evolves w w') :
    ∃ changes calls, ComesOf w.recorder changes calls w' := by
  induction h with
  | refl =>
    exact ⟨[], [], table, by simp [RunTable.inserted, runs], by simp [runs], rfl,
      by simp [begun], List.nodup_nil⟩
  | tail _ m ih =>
    obtain ⟨changes, calls, known⟩ := ih
    obtain ⟨more, further, known⟩ := known.evolves m
    exact ⟨_, _, known⟩

/-- Whatever happens to a scheduler that starts with nothing, its table shows each run at most once,
in the order in which the runs were submitted, and shows more runs than it may only if all of them are
running. What its recorder retains it retains by the calls about runs that have begun: each run at most
once, in the order in which they began, and every run that has begun and is not finished. -/
theorem retains_of_evolves (runs : w.runs = []) (table : w.table = {})
    (records : w.recorder.runs = []) (order : w.recorder.order = [])
    (h : Relation.ReflTransGen Evolves w w') :
    (w'.table.Listed ∧ w'.table.order.Sublist (w'.runs.map ScheduledRun.id) ∧
      w'.table.phases.length ≤ max (max w'.maxRetained 1) w'.table.running.length) ∧
    ∃ calls, w'.recorder = w.recorder.after calls ∧ Recorder.Retains w.recorder calls ∧
      ∀ id ∈ begun calls, ∃ r, w'.run? id = some r ∧ r.stage.unbegun = 0 := by
  obtain ⟨changes, calls, known⟩ := comesOf_of_evolves runs table h
  have fresh : (RunTable.inserted changes).Nodup := known.inserted ▸ known.apart
  obtain ⟨listed, sub⟩ := RunTable.listed_after w'.maxRetained changes fresh
  have size := RunTable.length_after_le w'.maxRetained changes fresh
  rw [← known.table] at listed sub size
  rw [known.inserted] at sub
  exact ⟨⟨listed, sub, size⟩, calls, known.recorder,
    .after w.recorder records order calls known.once, known.begins⟩

end Scheduler
end Playbook
