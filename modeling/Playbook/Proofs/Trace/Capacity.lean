import Playbook.Proofs.Retention
import Playbook.Proofs.Trace.Recorder

/-!
How many runs a recorder retains. Its order lists every retained run once, in the order in which the
runs began. Only where a run begins others make room for it: the oldest finished ones go, and no more
of them than have to. A recorder that retains more runs than its limit retains unfinished ones only.
-/
namespace Playbook.Trace.Recorder

open Retention (Older)

/-- The end of a run is recorded: a call that tells of it was answered with a number. -/
def Finished (start : Recorder) (calls : List Call) (id : String) : Prop :=
  ∃ earlier n later, calls = earlier ++ .record id n :: later ∧ n.isEnd = true ∧
    ((start.after earlier).call (.record id n)).2.isSome = true

/-- The retained runs that are not finished. -/
def unfinished (r : Recorder) : List String := r.order.filter fun id => !r.isSettled id

variable {start r : Recorder} {calls : List Call} {c : Call} {id runId programId : String}
  {version : Nat} {tracking debug : Bool}

/-- The order of a recorder lists what it retains. -/
abbrev Listed (r : Recorder) : Prop := Keyed.Lists r.order r.runs

theorem finished_concat : Finished start (calls ++ [c]) id ↔ Finished start calls id ∨
    ∃ n, c = .record id n ∧ n.isEnd = true ∧ ((start.after calls).call c).2.isSome = true := by
  constructor
  · rintro ⟨earlier, n, later, split, ends, answered⟩
    rcases List.eq_nil_or_concat later with rfl | ⟨later, last, rfl⟩
    · obtain ⟨rfl, same⟩ := List.append_inj' split rfl
      obtain rfl : c = .record id n := List.singleton_inj.1 same
      exact .inr ⟨n, rfl, ends, answered⟩
    · rw [List.concat_eq_append, ← List.cons_append, ← List.append_assoc] at split
      obtain ⟨rfl, -⟩ := List.append_inj' split rfl
      exact .inl ⟨earlier, n, later, rfl, ends, answered⟩
  · rintro (⟨earlier, n, later, rfl, ends, answered⟩ | ⟨n, rfl, ends, answered⟩)
    · exact ⟨earlier, n, later ++ [c], by simp, ends, answered⟩
    · exact ⟨calls, n, [], rfl, ends, answered⟩

theorem finished_concat_of_ne (other : ∀ n, c ≠ .record id n) :
    Finished start (calls ++ [c]) id ↔ Finished start calls id := by
  rw [finished_concat]
  constructor
  · rintro (finished | ⟨n, same, -⟩)
    · exact finished
    · exact absurd same (other n)
  · exact .inl

theorem isSettled_congr {r' : Recorder} (same : Keyed.get? id r'.runs = Keyed.get? id r.runs) :
    r'.isSettled id = r.isSettled id := by
  unfold isSettled
  rw [same]

/-- A retained run is settled by a record of its end, and by nothing else that is recorded. -/
theorem isSettled_call_record {run : RunRecord} (found : Keyed.get? runId r.runs = some run)
    (n : Note) (id : String) : (r.call (.record runId n)).1.isSettled id =
      (r.isSettled id || (id == runId && n.isEnd)) := by
  have runs := r.get?_call_record runId n id
  by_cases own : id = runId
  · subst own
    rw [if_pos rfl, found] at runs
    simp [isSettled, runs, found, RunRecord.isFinished_observe]
  · rw [if_neg own] at runs
    simp [isSettled_congr runs, own]

/-! ### Making room -/

theorem Listed.evict (h : r.Listed) (keep : Nat) : (r.evict keep).Listed :=
  Keyed.Lists.drop h _ _

/-- What begins is retained behind what stays. -/
theorem order_beginRun (enabled : (tracking || debug) = true) :
    (r.beginRun runId programId version tracking debug).order =
      (r.evict (max r.maxRetained 1 - 1)).order ++ [runId] := by
  unfold beginRun
  rw [if_pos enabled]

theorem Listed.beginRun (h : r.Listed) (new : runId ∉ r.order)
    (enabled : (tracking || debug) = true) :
    (r.beginRun runId programId version tracking debug).Listed := by
  have gone : runId ∉ (r.evict (max r.maxRetained 1 - 1)).order := fun stays =>
    new ((Retention.drop_sublist ..).subset stays)
  unfold Recorder.beginRun
  rw [if_pos enabled]
  exact (h.evict _).put_new gone _

/-- A run that stays is as settled as it was. -/
theorem Listed.isSettled_evict (h : r.Listed) {keep : Nat} (stays : id ∈ (r.evict keep).order) :
    (r.evict keep).isSettled id = r.isSettled id := by
  apply isSettled_congr
  rcases r.get?_evict keep id with same | gone
  · exact same
  · obtain ⟨run, found⟩ := (h.evict keep).exists_get? stays
    rw [gone] at found
    cases found

theorem isSettled_beginRun_of_ne (enabled : (tracking || debug) = true) (other : id ≠ runId) :
    (r.beginRun runId programId version tracking debug).isSettled id =
      (r.evict (max r.maxRetained 1 - 1)).isSettled id := by
  apply isSettled_congr
  unfold beginRun
  rw [if_pos enabled]
  exact Keyed.get?_put_of_ne other ..

theorem isSettled_beginRun_self (enabled : (tracking || debug) = true) :
    (r.beginRun runId programId version tracking debug).isSettled runId = false := by
  unfold isSettled
  rw [r.get?_beginRun enabled]
  rfl

/-- What is unfinished where a run has begun: what was unfinished and stays, and the run. -/
theorem unfinished_beginRun (h : r.Listed) (new : runId ∉ r.order)
    (enabled : (tracking || debug) = true) :
    (r.beginRun runId programId version tracking debug).unfinished =
      (r.evict (max r.maxRetained 1 - 1)).order.filter (fun id => !r.isSettled id) ++ [runId] := by
  unfold unfinished
  rw [order_beginRun enabled, List.filter_append]
  congr 1
  · apply List.filter_congr
    intro id stays
    have other : id ≠ runId := by
      rintro rfl
      exact new ((Retention.drop_sublist ..).subset stays)
    rw [isSettled_beginRun_of_ne enabled other, h.isSettled_evict stays]
  · simp [isSettled_beginRun_self enabled]

/-- Where a run begins no more runs are retained than may be, unless all of them are unfinished. -/
theorem retained_beginRun_le (h : r.Listed) (new : runId ∉ r.order)
    (enabled : (tracking || debug) = true) :
    (r.beginRun runId programId version tracking debug).retained ≤ max (max r.maxRetained 1)
      (r.beginRun runId programId version tracking debug).unfinished.length := by
  have bound := Retention.length_drop_le r.isSettled
    (r.order.length - (max r.maxRetained 1 - 1)) r.order
  have stays : (r.evict (max r.maxRetained 1 - 1)).order =
    Retention.drop r.isSettled (r.order.length - (max r.maxRetained 1 - 1)) r.order := rfl
  unfold retained
  rw [unfinished_beginRun h new enabled, order_beginRun enabled, List.length_append,
    List.length_append, stays]
  simp only [List.length_singleton]
  omega

/-- Where a run goes, it is settled and came before every settled one that stays, and as many runs are
retained as may be. -/
theorem goes_beginRun (h : r.Listed) (enabled : (tracking || debug) = true) (there : id ∈ r.order)
    (gone : id ∉ (r.beginRun runId programId version tracking debug).order) :
    r.isSettled id = true ∧
    max r.maxRetained 1 ≤ (r.beginRun runId programId version tracking debug).retained ∧
    ∀ other ∈ (r.evict (max r.maxRetained 1 - 1)).order, r.isSettled other = true →
      Older r.order id other := by
  rw [order_beginRun enabled] at gone
  have goes : id ∈ Retention.dropped r.isSettled
      (r.order.length - (max r.maxRetained 1 - 1)) r.order := by
    by_contra stays
    exact gone (List.mem_append_left _ ((Retention.mem_drop h.nodup).2 ⟨there, stays⟩))
  refine ⟨Retention.settled_of_mem_dropped goes, ?_, fun other stays settled =>
    Retention.older_of_mem_dropped goes stays settled⟩
  have least := Retention.le_length_drop r.isSettled
    (r.order.length - (max r.maxRetained 1 - 1)) r.order
  have few := Retention.length_dropped_le r.isSettled
    (r.order.length - (max r.maxRetained 1 - 1)) r.order
  have some := List.length_pos_of_mem goes
  have stays : (r.evict (max r.maxRetained 1 - 1)).order =
    Retention.drop r.isSettled (r.order.length - (max r.maxRetained 1 - 1)) r.order := rfl
  unfold retained
  rw [order_beginRun enabled, List.length_append, stays, List.length_singleton]
  omega

/-! ### Many calls -/

theorem begun?_eq_some (begins : c.begun? = some id) : ∃ programId version tracking debug,
    c = .beginRun id programId version tracking debug ∧ (tracking || debug) = true := by
  cases c with
  | beginRun runId programId version tracking debug =>
    simp only [Call.begun?, Option.ite_none_right_eq_some, Option.some.injEq] at begins
    obtain ⟨enabled, rfl⟩ := begins
    exact ⟨programId, version, tracking, debug, rfl, enabled⟩
  | record runId n => cases begins

/-- A call that does not begin to record a run leaves what is retained. -/
theorem order_call (r : Recorder) (idle : c.begun? = none) : (r.call c).1.order = r.order := by
  cases c with
  | beginRun runId programId version tracking debug =>
    cases enabled : tracking || debug with
    | true => simp [Call.begun?, enabled] at idle
    | false =>
      change (r.beginRun runId programId version tracking debug).order = r.order
      rw [r.beginRun_disabled enabled]
  | record runId n =>
    cases found : Keyed.get? runId r.runs with
    | none => rw [call_record_of_unknown found]
    | some run => rw [call_record_of_known found]

/-- A run begins under an id that is new. -/
theorem new_of_fresh (fresh : (begun (calls ++ [c])).Nodup) (begins : c.begun? = some id) :
    id ∉ begun calls := by
  rw [begun_concat, begins] at fresh
  intro among
  exact List.disjoint_of_nodup_append fresh among (List.mem_singleton_self id)

theorem nodup_of_concat (fresh : (begun (calls ++ [c])).Nodup) : (begun calls).Nodup := by
  rw [begun_concat] at fresh
  exact fresh.of_append_left

/-- What a recorder retains after some calls: some of the runs that have begun, among them all that are
not finished. -/
structure Retains (start : Recorder) (calls : List Call) : Prop where
  listed : (start.after calls).Listed
  sub : (start.after calls).order.Sublist (begun calls)
  settled : ∀ id ∈ (start.after calls).order,
    ((start.after calls).isSettled id = true ↔ Finished start calls id)
  kept : ∀ id ∈ begun calls, ¬ Finished start calls id → id ∈ (start.after calls).order
  begins : ∀ id, Finished start calls id → id ∈ begun calls
  limit : (start.after calls).maxRetained = start.maxRetained

namespace Retains

/-- A call that does nothing and is not answered. -/
theorem of_idle (h : Retains start calls) (same : ((start.after calls).call c).1 = start.after calls)
    (unanswered : ((start.after calls).call c).2 = none) (idle : c.begun? = none) :
    Retains start (calls ++ [c]) := by
  have finished : ∀ id, Finished start (calls ++ [c]) id ↔ Finished start calls id := by
    intro id
    rw [finished_concat, unanswered]
    simp
  have recorder : start.after (calls ++ [c]) = start.after calls := by rw [after_concat, same]
  have begins : begun (calls ++ [c]) = begun calls := by rw [begun_concat, idle]; simp
  constructor
  case listed =>
    rw [recorder]
    exact h.listed
  case sub =>
    rw [recorder, begins]
    exact h.sub
  case settled =>
    intro id there
    rw [recorder] at there ⊢
    rw [finished]
    exact h.settled id there
  case kept =>
    intro id among unfinished
    rw [begins] at among
    rw [finished] at unfinished
    rw [recorder]
    exact h.kept id among unfinished
  case begins =>
    intro id done
    rw [begins]
    exact h.begins id ((finished id).1 done)
  case limit =>
    rw [recorder]
    exact h.limit

/-- An event of a retained run is recorded; the run is finished if it was, or if the event says so. -/
theorem record (h : Retains start calls) {run : RunRecord}
    (found : Keyed.get? runId (start.after calls).runs = some run) (n : Note) :
    Retains start (calls ++ [.record runId n]) := by
  have recorder : start.after (calls ++ [.record runId n]) =
      ((start.after calls).call (.record runId n)).1 := after_concat ..
  have order : (start.after (calls ++ [.record runId n])).order = (start.after calls).order := by
    rw [recorder]
    exact order_call _ rfl
  have begins : begun (calls ++ [.record runId n]) = begun calls := by
    rw [begun_concat]
    simp [Call.begun?]
  have answered : ((start.after calls).call (.record runId n)).2.isSome = true := by
    rw [call_record_of_known found]
    rfl
  have listed : (start.after (calls ++ [.record runId n])).Listed := by
    rw [recorder, call_record_of_known found]
    exact h.listed.put_known (h.listed.mem_of_get? found) _
  constructor
  case listed =>
    exact listed
  case sub =>
    rw [order, begins]
    exact h.sub
  case settled =>
    intro id there
    rw [order] at there
    rw [recorder, isSettled_call_record found, Bool.or_eq_true, h.settled id there,
      finished_concat, Bool.and_eq_true, beq_iff_eq]
    refine or_congr_right ⟨?_, ?_⟩
    · rintro ⟨rfl, ends⟩
      exact ⟨n, rfl, ends, answered⟩
    · rintro ⟨m, same, ends, -⟩
      cases same
      exact ⟨rfl, ends⟩
  case kept =>
    intro id among unfinished
    rw [begins] at among
    rw [order]
    exact h.kept id among fun done => unfinished (finished_concat.2 (.inl done))
  case begins =>
    intro id done
    rw [begins]
    rcases finished_concat.1 done with done | ⟨m, same, -⟩
    · exact h.begins id done
    · cases same
      exact h.sub.subset (h.listed.mem_of_get? found)
  case limit =>
    rw [recorder, call_record_of_known found]
    exact h.limit

/-- A run begins under a new id; others may go, but none that is unfinished. -/
theorem beginRun (h : Retains start calls) (new : runId ∉ begun calls)
    (enabled : (tracking || debug) = true) :
    Retains start (calls ++ [.beginRun runId programId version tracking debug]) := by
  have recorder : start.after (calls ++ [.beginRun runId programId version tracking debug]) =
      (start.after calls).beginRun runId programId version tracking debug := after_concat ..
  have begins : begun (calls ++ [.beginRun runId programId version tracking debug]) =
      begun calls ++ [runId] := by
    rw [begun_concat, Call.begun?, if_pos enabled, Option.toList_some]
  have finished : ∀ id, Finished start
      (calls ++ [.beginRun runId programId version tracking debug]) id ↔ Finished start calls id :=
    fun id => finished_concat_of_ne fun n same => by cases same
  have absent : runId ∉ (start.after calls).order := fun there => new (h.sub.subset there)
  constructor
  case listed =>
    rw [recorder]
    exact h.listed.beginRun absent enabled
  case sub =>
    rw [recorder, begins, order_beginRun enabled]
    exact ((Retention.drop_sublist ..).trans h.sub).append_right _
  case settled =>
    intro id there
    rw [recorder] at there ⊢
    rw [order_beginRun enabled, List.mem_append, List.mem_singleton] at there
    rw [finished]
    by_cases own : id = runId
    · subst own
      -- an end is recorded only of a run that has begun
      have unfinished : ¬ Finished start calls id := fun done => new (h.begins id done)
      simp [isSettled_beginRun_self enabled, unfinished]
    · have stays := there.resolve_right own
      rw [isSettled_beginRun_of_ne enabled own, h.listed.isSettled_evict stays]
      exact h.settled id ((Retention.drop_sublist ..).subset stays)
  case kept =>
    intro id among unfinished
    rw [finished] at unfinished
    rw [begins, List.mem_append, List.mem_singleton] at among
    rw [recorder, order_beginRun enabled, List.mem_append, List.mem_singleton]
    refine among.imp_left fun before => ?_
    -- what is not finished is not settled, and so is not among those that go
    have there := h.kept id before unfinished
    refine Retention.mem_drop_of_unsettled there (Bool.eq_false_iff.2 fun settled => ?_)
    exact unfinished ((h.settled id there).1 settled)
  case begins =>
    intro id done
    rw [begins]
    exact List.mem_append_left _ (h.begins id ((finished id).1 done))
  case limit =>
    rw [recorder, ← h.limit]
    unfold Recorder.beginRun
    rw [if_pos enabled]
    rfl

/-- What one call preserves. -/
theorem call (h : Retains start calls) (fresh : (begun (calls ++ [c])).Nodup) :
    Retains start (calls ++ [c]) := by
  cases c with
  | beginRun runId programId version tracking debug =>
    cases enabled : tracking || debug with
    | true => exact h.beginRun (new_of_fresh fresh (if_pos enabled)) enabled
    | false =>
      refine h.of_idle ((start.after calls).beginRun_disabled enabled ..) rfl ?_
      simp [Call.begun?, enabled]
  | record runId n =>
    cases found : Keyed.get? runId (start.after calls).runs with
    | none =>
      have nothing := call_record_of_unknown found n
      exact h.of_idle (by rw [nothing]) (by rw [nothing]) rfl
    | some run => exact h.record found n

theorem retained_le (h : Retains start calls) (fresh : (begun (calls ++ [c])).Nodup)
    (begins : c.begun? = some id) : (start.after (calls ++ [c])).retained ≤
      max (max start.maxRetained 1) (start.after (calls ++ [c])).unfinished.length := by
  have absent : id ∉ (start.after calls).order := fun there =>
    new_of_fresh fresh begins (h.sub.subset there)
  obtain ⟨programId, version, tracking, debug, rfl, enabled⟩ := begun?_eq_some begins
  rw [after_concat, ← h.limit]
  exact retained_beginRun_le h.listed absent enabled

theorem of_gone (h : Retains start calls) (fresh : (begun (calls ++ [c])).Nodup)
    (there : id ∈ (start.after calls).order) (gone : id ∉ (start.after (calls ++ [c])).order) :
    Finished start calls id ∧ max start.maxRetained 1 ≤ (start.after (calls ++ [c])).retained ∧
      ∀ other ∈ (start.after (calls ++ [c])).order, Finished start (calls ++ [c]) other →
        Older (begun (calls ++ [c])) id other := by
  rw [after_concat] at gone ⊢
  cases begins : c.begun? with
  | none =>
    rw [order_call _ begins] at gone
    exact absurd there gone
  | some runId =>
    have new := new_of_fresh fresh begins
    have longer : (begun calls).Sublist (begun (calls ++ [c])) := by
      rw [begun_concat]
      exact List.sublist_append_left ..
    obtain ⟨programId, version, tracking, debug, rfl, enabled⟩ := begun?_eq_some begins
    obtain ⟨settled, full, older⟩ := goes_beginRun h.listed enabled there gone
    refine ⟨(h.settled id there).1 settled, h.limit ▸ full, fun other stays done => ?_⟩
    rw [finished_concat_of_ne fun n same => by cases same] at done
    change other ∈ (Recorder.beginRun ..).order at stays
    rw [order_beginRun enabled, List.mem_append, List.mem_singleton] at stays
    rcases stays with stays | rfl
    · have before := (Retention.drop_sublist ..).subset stays
      exact ((older other stays ((h.settled other before).2 done)).mono h.sub).mono longer
    · exact absurd (h.begins other done) new

/-- What a recorder that starts empty retains after any calls. -/
theorem after (start : Recorder) (empty : start.runs = []) (order : start.order = [])
    (calls : List Call) (fresh : (begun calls).Nodup) : Retains start calls := by
  induction calls using List.reverseRecOn with
  | nil =>
    constructor
    case listed =>
      rw [after_nil, Listed, empty, order]
      exact .nil
    case sub =>
      rw [after_nil, order]
      exact .slnil
    case settled =>
      simp [order]
    case kept =>
      simp [begun]
    case begins =>
      rintro id ⟨earlier, n, later, split, -⟩
      simp at split
    case limit =>
      rfl
  | append_singleton calls c ih =>
    exact (ih (nodup_of_concat fresh)).call fresh

end Retains

/-- After every call of a recorder its order lists what it retains, each run once and as the runs
began. Every run that has begun and whose end is not recorded is retained, and of the retained ones
those are settled whose end is recorded. Where a run begins no more runs are retained than the limit
says, unless all of them are unfinished; at other times none goes. A run that goes is finished, goes
because there would be too many, and began before every finished run that stays. -/
theorem keeps_unfinished_and_newest (limit : Nat) (bus : Bus) (sink : Sink) (calls : List Call)
    (c : Call) (fresh : (begun (calls ++ [c])).Nodup) :
    let start : Recorder := { maxRetained := limit, bus, sink }
    let before := start.after calls
    let r := start.after (calls ++ [c])
    (r.order.Nodup ∧ r.order.Perm (Keyed.keys r.runs) ∧
      r.order.Sublist (begun (calls ++ [c]))) ∧
    (∀ id ∈ begun (calls ++ [c]), ¬ Finished start (calls ++ [c]) id → id ∈ r.order) ∧
    (∀ id ∈ r.order, (r.isSettled id = true ↔ Finished start (calls ++ [c]) id)) ∧
    (∀ id, c.begun? = some id → r.retained ≤ max (max limit 1) r.unfinished.length) ∧
    (c.begun? = none → r.order = before.order) ∧
    ∀ id ∈ before.order, id ∉ r.order →
      Finished start calls id ∧ max limit 1 ≤ r.retained ∧
      ∀ other ∈ r.order, Finished start (calls ++ [c]) other →
        Older (begun (calls ++ [c])) id other := by
  intro start before r
  have known : Retains start calls := .after start rfl rfl calls (nodup_of_concat fresh)
  have now : Retains start (calls ++ [c]) := known.call fresh
  have idle : c.begun? = none → r.order = before.order := by
    intro idle
    change (start.after (calls ++ [c])).order = _
    rw [after_concat]
    exact order_call _ idle
  exact ⟨⟨now.listed.nodup, now.listed.perm, now.sub⟩, now.kept, now.settled,
    fun id begins => known.retained_le fresh begins, idle,
    fun id there gone => known.of_gone fresh there gone⟩

/-- Three runs, of which the last two are over, the third one first. -/
def threeRuns : List Call :=
  let ended : Note := ⟨default, none, none, .runCompleted .completed none 7⟩
  [.beginRun "first" "errand" 1 true false, .beginRun "second" "errand" 1 true false,
    .beginRun "third" "errand" 2 false true, .record "third" ended, .record "second" ended]

/-- A recorder for three runs that fails to write. -/
def forThree : Recorder := { maxRetained := 3, bus := { capacity := 2 }, sink := .failing }

/-- A fourth run takes the place of the second. -/
theorem fourth_run_replaces_second :
    let fourth : Call := .beginRun "fourth" "errand" 2 true true
    let r := forThree.after (threeRuns ++ [fourth])
    (begun (threeRuns ++ [fourth])).Nodup ∧
    (forThree.after threeRuns).order = ["first", "second", "third"] ∧
    r.order = ["first", "third", "fourth"] ∧ Finished forThree threeRuns "second" ∧
    Finished forThree (threeRuns ++ [fourth]) "third" ∧
    r.retained ≤ max (max 3 1) r.unfinished.length ∧
    Older (begun (threeRuns ++ [fourth])) "second" "third" := by
  intro fourth r
  have fresh : (begun (threeRuns ++ [fourth])).Nodup := by decide
  have before : (forThree.after threeRuns).order = ["first", "second", "third"] := by decide
  have order : r.order = ["first", "third", "fourth"] := by decide
  have done : r.isSettled "third" = true := by decide
  obtain ⟨-, -, settled, size, -, goes⟩ :=
    keeps_unfinished_and_newest 3 { capacity := 2 } .failing threeRuns fourth fresh
  have there : "second" ∈ (forThree.after threeRuns).order := by simp [before]
  have gone : "second" ∉ r.order := by simp [order]
  have stays : "third" ∈ r.order := by simp [order]
  have third := (settled "third" stays).1 done
  obtain ⟨second, -, older⟩ := goes "second" there gone
  exact ⟨fresh, before, order, second, third, size "fourth" rfl, older "third" stays third⟩

end Playbook.Trace.Recorder
