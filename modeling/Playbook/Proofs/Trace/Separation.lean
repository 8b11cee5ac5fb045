import Playbook.Proofs.Trace.Recorder

/-!
Records apart from each other. As long as a run is retained its record is what comes of the calls
about it alone: whatever else a recorder is called for, and wherever it writes, the calls about the
run are answered with the numbers from one on. Calls about a run that is not recorded do nothing.
-/
namespace Playbook.Trace

/-! ### Times aside -/

/-- The note without its time. -/
def Note.timeless (n : Note) : Note := { n with timestamp := default }

/-- The event without its time. -/
def Event.timeless (e : Event) : Event := { e with timestamp := default }

/-- The record without the times of its events. -/
def RunRecord.timeless (r : RunRecord) : RunRecord :=
  { r with events := r.events.map Event.timeless }

namespace RunRecord

theorem timeless_observe (r : RunRecord) (n : Note) (runId : String) (sequence : Nat) :
    (r.observe (n.event runId sequence)).timeless =
      r.timeless.observe (n.timeless.event runId sequence) := by
  unfold observe timeless Note.event Note.timeless
  cases n.kind <;> cases r.debug <;> simp [Event.timeless]

/-- What comes of notes depends on their times only by the times of the events. -/
theorem timeless_replay (r : RunRecord) (runId : String) (notes : List Note) :
    (r.replay runId notes).timeless = r.timeless.replay runId (notes.map Note.timeless) := by
  induction notes generalizing r with
  | nil => rfl
  | cons n rest ih =>
    rw [replay_cons, ih, timeless_observe, List.map_cons, replay_cons]
    rfl

/-- Times play no part in a summary. -/
theorem encode_timeless (runId : String) (r : RunRecord) :
    Summary.encode ⟨runId, r.timeless⟩ = Summary.encode ⟨runId, r⟩ :=
  rfl

end RunRecord

namespace Recorder

/-! ### The calls about a run -/

/-- What a call tells of a run. -/
def Call.told? (id : String) : Call → Option Note
  | .beginRun .. => none
  | .record runId n => if runId = id then some n else none

/-- What some calls tell of a run. -/
def told (id : String) (calls : List Call) : List Note := calls.filterMap (Call.told? id)

/-- The answers to the calls about a run. -/
def answers (id : String) (r : Recorder) : List Call → List (Option Nat)
  | [] => []
  | c :: rest =>
    match c.told? id with
    | some _ => (r.call c).2 :: answers id (r.call c).1 rest
    | none => answers id (r.call c).1 rest

variable {r : Recorder} {calls : List Call} {c : Call} {id runId : String} {n : Note}

theorem told?_eq_some : c.told? id = some n ↔ c = .record id n := by
  cases c with
  | beginRun runId programId version tracking debug => simp [Call.told?]
  | record runId m =>
    simp only [Call.told?, Option.ite_none_right_eq_some, Option.some.injEq, Call.record.injEq]

/-- A call that is not about a run leaves its record as it is, or makes the recorder forget it. -/
theorem get?_call_of_untold (r : Recorder) (untold : c.told? id = none) (old : c.begun? ≠ some id) :
    Keyed.get? id (r.call c).1.runs = Keyed.get? id r.runs ∨
      Keyed.get? id (r.call c).1.runs = none := by
  cases c with
  | beginRun runId programId version tracking debug =>
    cases enabled : tracking || debug with
    | true =>
      have other : id ≠ runId := by
        rintro rfl
        exact old (if_pos enabled)
      exact r.get?_beginRun_of_ne other ..
    | false => exact .inl (congrArg _ (congrArg runs (r.beginRun_disabled enabled ..)))
  | record runId m =>
    have other : id ≠ runId := by
      rintro rfl
      simp [Call.told?] at untold
    rw [r.get?_call_record, if_neg other]
    exact .inl rfl

theorem told_cons_of_told (h : c.told? id = some n) (calls : List Call) :
    told id (c :: calls) = n :: told id calls :=
  List.filterMap_cons_some h

theorem told_cons_of_untold (h : c.told? id = none) (calls : List Call) :
    told id (c :: calls) = told id calls :=
  List.filterMap_cons_none h

theorem answers_cons_of_told (h : c.told? id = some n) (r : Recorder) (calls : List Call) :
    answers id r (c :: calls) = (r.call c).2 :: answers id (r.call c).1 calls := by
  simp only [answers, h]

theorem answers_cons_of_untold (h : c.told? id = none) (r : Recorder) (calls : List Call) :
    answers id r (c :: calls) = answers id (r.call c).1 calls := by
  simp only [answers, h]

theorem not_mem_begun_cons :
    id ∉ begun (c :: calls) ↔ c.begun? ≠ some id ∧ id ∉ begun calls := by
  simp [begun, List.mem_filterMap]

/-- The record of a run that is retained is what comes of the calls about it, which are answered with
one number after the other. -/
theorem replay_of_retained {last : RunRecord} (once : id ∉ begun calls)
    (retained : Keyed.get? id (r.after calls).runs = some last) :
    ∃ run, Keyed.get? id r.runs = some run ∧ last = run.replay id (told id calls) ∧
      answers id r calls =
        (List.range' run.nextSequence (told id calls).length).map some := by
  induction calls generalizing r with
  | nil => exact ⟨last, retained, rfl, rfl⟩
  | cons c rest ih =>
    obtain ⟨old, once⟩ := not_mem_begun_cons.1 once
    obtain ⟨run, found, replayed, answered⟩ := ih once retained
    cases about : c.told? id with
    | none =>
      rw [told_cons_of_untold about, answers_cons_of_untold about]
      refine ⟨run, ?_, replayed, answered⟩
      -- a run that is forgotten does not come back
      rcases r.get?_call_of_untold about old with same | gone
      · rw [← same, found]
      · rw [gone] at found
        cases found
    | some n =>
      obtain rfl := told?_eq_some.1 about
      rw [told_cons_of_told about, answers_cons_of_told about]
      rw [r.get?_call_record, if_pos rfl] at found
      obtain ⟨before, known, rfl⟩ := Option.map_eq_some_iff.1 found
      refine ⟨before, known, replayed, ?_⟩
      rw [answered, call_record_of_known known, RunRecord.nextSequence_observe, List.length_cons,
        List.range'_succ, List.map_cons]

/-! ### Runs that are not recorded -/

/-- Calls about a run that is not recorded, and does not begin, do nothing and are not answered. -/
theorem unrecorded_after (calls : List Call) (once : id ∉ begun calls)
    (unknown : Keyed.get? id r.runs = none) :
    r.after calls = r.after (calls.filter fun c => (c.told? id).isNone) ∧
      Keyed.get? id (r.after calls).runs = none ∧
      answers id r calls = List.replicate (told id calls).length none := by
  induction calls generalizing r with
  | nil => exact ⟨rfl, unknown, rfl⟩
  | cons c rest ih =>
    obtain ⟨old, once⟩ := not_mem_begun_cons.1 once
    cases about : c.told? id with
    | none =>
      have still : Keyed.get? id (r.call c).1.runs = none := by
        rcases r.get?_call_of_untold about old with same | gone
        · rw [same, unknown]
        · exact gone
      rw [told_cons_of_untold about, answers_cons_of_untold about,
        List.filter_cons_of_pos (by rw [about]; rfl)]
      exact ih once still
    | some n =>
      obtain rfl := told?_eq_some.1 about
      have nothing := call_record_of_unknown unknown n
      obtain ⟨same, still, unanswered⟩ := ih once unknown
      rw [told_cons_of_told about, answers_cons_of_told about,
        List.filter_cons_of_neg (by simp [about]), after_cons, nothing, unanswered]
      exact ⟨same, still, rfl⟩

/-! ### Runs that are -/

/-- A run whose calls are the only ones is retained. -/
theorem get?_after_alone {run : RunRecord} (found : Keyed.get? id r.runs = some run)
    (notes : List Note) :
    Keyed.get? id (r.after (notes.map (.record id))).runs = some (run.replay id notes) := by
  induction notes generalizing r run with
  | nil => exact found
  | cons n rest ih =>
    rw [List.map_cons, after_cons]
    refine ih ?_
    rw [r.get?_call_record, if_pos rfl, found]
    rfl

theorem trace_eq_none : r.trace id = none ↔ Keyed.get? id r.runs = none := Option.map_eq_none_iff

/-- What is called of a run between its beginning and its end as a record is answered with the numbers
from one on. The trace is these calls in their order when the run is debugged, and else empty. Trace
and summary are those that the calls of the run alone would have led to in a new recorder, times
aside. All this is so whatever else the recorder was and is called for, and wherever it writes. Calls
about a run that is not recorded are not answered; the recorder is the same without them. -/
theorem records_are_apart (r : Recorder) (id programId : String) (version : Nat)
    (tracking debug : Bool) (enabled : (tracking || debug) = true) (calls : List Call)
    (once : id ∉ begun calls) {events : List Event}
    (retained : ((r.beginRun id programId version tracking debug).after calls).trace id =
      some events) :
    let first := r.beginRun id programId version tracking debug
    answers id first calls = (List.range' 1 (told id calls).length).map some ∧
    events = (if debug then numbered id 1 (told id calls) else []) ∧
    (∀ (limit : Nat) (bus : Bus) (sink : Sink) (again : List Note),
      again.map Note.timeless = (told id calls).map Note.timeless →
      let fresh : Recorder := { maxRetained := limit, bus, sink }
      let alone := fresh.after
        (.beginRun id programId version tracking debug :: again.map (.record id))
      (alone.trace id).map (List.map Event.timeless) = some (events.map Event.timeless) ∧
      (alone.summarize id).map Summary.encode =
        ((first.after calls).summarize id).map Summary.encode) ∧
    ∀ (s : Recorder) (other : String) (more : List Call),
      s.trace other = none → other ∉ begun more →
      answers other s more = List.replicate (told other more).length none ∧
      (s.after more).trace other = none ∧
      s.after more = s.after (more.filter fun c => (c.told? other).isNone) := by
  intro first
  obtain ⟨last, found, rfl⟩ := Option.map_eq_some_iff.1 retained
  obtain ⟨run, new, rfl, answered⟩ := replay_of_retained once found
  rw [r.get?_beginRun enabled, Option.some.injEq] at new
  subst new
  refine ⟨answered, ?_, ?_, ?_⟩
  · rw [RunRecord.events_replay]
    simp
  · intro limit bus sink again same fresh alone
    have own := get?_after_alone (fresh.get?_beginRun enabled id programId version) again
    have recorded : Keyed.get? id alone.runs = _ := own
    have alike := RunRecord.timeless_replay { programId, version, debug } id again
    rw [same, ← RunRecord.timeless_replay] at alike
    constructor
    · rw [trace, recorded]
      exact congrArg (fun r => some r.events) alike
    · have encoded := congrArg (fun r => Summary.encode ⟨id, r⟩) alike
      have there : Keyed.get? id (first.after calls).runs = _ := found
      rw [summarize, summarize, recorded, there]
      simp only [RunRecord.encode_timeless] at encoded
      exact congrArg some encoded
  · intro s other more unknown once
    obtain ⟨same, still, unanswered⟩ := unrecorded_after more once (trace_eq_none.1 unknown)
    exact ⟨unanswered, trace_eq_none.2 still, same⟩

/-- A call and a letter of two runs, and what is called of them in turn. The call is over when a third
run begins, and is told of once more. -/
def inTurn : List Call :=
  let started : Note := ⟨default, some "step", some 1, .stepStarted⟩
  let ended : Note := ⟨default, none, none, .runCompleted .completed none 7⟩
  [.record "mail" started, .record "call" ended, .beginRun "post" "errand" 1 true false,
    .record "call" started, .record "post" started, .record "mail" ended]

/-- A recorder for one run that fails to write, and in which the call has begun. -/
def forOne : Recorder :=
  ({ maxRetained := 1, bus := { capacity := 2 }, sink := .failing } : Recorder).beginRun
    "call" "errand" 1 false true

/-- The letter is recorded as if there were nothing else; the call is forgotten meanwhile. -/
theorem mail_is_apart :
    let first := forOne.beginRun "mail" "errand" 2 false true
    let started : Note := ⟨default, some "step", some 1, .stepStarted⟩
    let ended : Note := ⟨⟨7, 0⟩, none, none, .runCompleted .completed none 7⟩
    let alone := ({ maxRetained := 5 } : Recorder).after
      [.beginRun "mail" "errand" 2 false true, .record "mail" started, .record "mail" ended]
    "mail" ∉ begun inTurn ∧ (first.trace "call").isSome = true ∧
    (first.after inTurn).trace "call" = none ∧
    answers "mail" first inTurn = [some 1, some 2] ∧
    (alone.summarize "mail").map Summary.encode =
      ((first.after inTurn).summarize "mail").map Summary.encode ∧
    answers "call" (first.after inTurn) inTurn = [none, none] := by
  intro first started ended alone
  have once : "mail" ∉ begun inTurn := by decide
  have call : "call" ∉ begun inTurn := by decide
  have before : (first.trace "call").isSome = true := by decide
  have unknown : (first.after inTurn).trace "call" = none := by
    rw [trace_eq_none]
    exact Option.isNone_iff_eq_none.1 (by decide)
  have retained : ((first.after inTurn).trace "mail").isSome = true := by decide
  obtain ⟨events, retained⟩ := Option.isSome_iff_exists.1 retained
  obtain ⟨answered, -, unmoved, forgotten⟩ :=
    records_are_apart forOne "mail" "errand" 2 false true rfl inTurn once retained
  obtain ⟨-, summary⟩ := unmoved 5 (Bus.ofSize 256) .absent [started, ended] rfl
  obtain ⟨unanswered, -⟩ := forgotten (first.after inTurn) "call" inTurn unknown call
  exact ⟨once, before, unknown, answered, summary, unanswered⟩

end Recorder
end Playbook.Trace
