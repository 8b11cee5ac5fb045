import Playbook.Proofs.Retention
import Playbook.Proofs.Run.Table

/-!
How much the table of runs shows. Its order lists every run that is shown once, in the order in which
the runs were inserted; when a change makes the table too large the oldest settled runs go, and no
more of them than have to. A table that is larger than its limit shows running runs only.
-/
namespace Playbook
namespace RunTable

open Retention (Older)

/-- What changes a table: a run is inserted, or one is settled. -/
inductive Change where
  | insert (id : String)
  | settle (id : String) (phase : RunPhase)

/-- The run that a change inserts. -/
def Change.inserted? : Change → Option String
  | .insert id => some id
  | .settle .. => none

/-- The runs that some changes insert, one after the other. -/
def inserted (changes : List Change) : List String := changes.filterMap Change.inserted?

/-- The table in which a change is noted, before settled runs make room. -/
def note (t : RunTable) : Change → RunTable
  | .insert id => ⟨Keyed.put id .running t.phases, t.order ++ [id]⟩
  | .settle id phase => t.settle id phase

/-- The table after a change. -/
def change (t : RunTable) (limit : Nat) : Change → RunTable
  | .insert id => t.insert id limit
  | .settle id phase => (t.settle id phase).evict limit

/-- The table after some changes. -/
def after (limit : Nat) (changes : List Change) : RunTable :=
  changes.foldl (fun t c => t.change limit c) {}

/-- The runs that are shown as running. -/
def running (t : RunTable) : List String := t.order.filter t.isRunning

variable {t : RunTable} {limit : Nat} {changes : List Change} {c : Change} {id : String}
  {phase : RunPhase}

theorem change_eq (t : RunTable) (limit : Nat) (c : Change) :
    t.change limit c = (t.note c).evict limit := by
  cases c <;> rfl

theorem after_concat (limit : Nat) (changes : List Change) (c : Change) :
    after limit (changes ++ [c]) = ((after limit changes).note c).evict limit := by
  simp [after, change_eq]

theorem inserted_concat (changes : List Change) (c : Change) :
    inserted (changes ++ [c]) = inserted changes ++ c.inserted?.toList := by
  cases c <;> simp [inserted, Change.inserted?]

theorem nodup_of_concat (fresh : (inserted (changes ++ [c])).Nodup) : (inserted changes).Nodup := by
  rw [inserted_concat] at fresh
  exact fresh.of_append_left

/-! ### Making room -/

/-- The order of a table lists what it shows. -/
abbrev Listed (t : RunTable) : Prop := Keyed.Lists t.order t.phases

theorem Listed.evict (h : t.Listed) (limit : Nat) : (t.evict limit).Listed :=
  Keyed.Lists.drop h _ _

theorem phase?_of_evict (shown : (t.evict limit).phase? id = some phase) :
    t.phase? id = some phase := by
  rcases t.phase?_evict limit id with same | ⟨gone, -⟩
  · rw [← same, shown]
  · rw [gone] at shown
    cases shown

/-- What is running stays. -/
theorem running_evict (shown : t.phase? id = some .running) :
    (t.evict limit).phase? id = some .running := by
  rcases t.phase?_evict limit id with same | ⟨-, settled⟩
  · rw [same, shown]
  · simp [isRunning, shown, RunPhase.isRunning] at settled

/-- Of what stays the same is running as before. -/
theorem running_evict_eq (h : t.Listed) (limit : Nat) :
    (t.evict limit).running = (t.evict limit).order.filter t.isRunning := by
  apply List.filter_congr
  intro id listed
  obtain ⟨phase, shown⟩ := (h.evict limit).exists_get? listed
  have now : (t.evict limit).phase? id = some phase := shown
  have before := phase?_of_evict now
  simp [isRunning, before, now]

/-- The table is no larger than its limit, unless everything in it is running. -/
theorem length_evict_le (h : t.Listed) (limit : Nat) :
    (t.evict limit).phases.length ≤ max (max limit 1) (t.evict limit).running.length := by
  have bound := Retention.length_drop_le (fun id => !t.isRunning id)
    (t.phases.length - max limit 1) t.order
  simp only [Bool.not_not] at bound
  rw [← (h.evict limit).length, running_evict_eq h]
  have size := h.length
  have most : t.order.length - (t.phases.length - max limit 1) ≤ max limit 1 := by omega
  exact bound.trans (max_le_max most le_rfl)

/-- Where a run goes the table is as large as it may be. -/
theorem le_length_evict (h : t.Listed) (shown : t.phase? id = some phase)
    (gone : (t.evict limit).phase? id = none) :
    max limit 1 ≤ (t.evict limit).phases.length := by
  have least := Retention.le_length_drop (fun id => !t.isRunning id)
    (t.phases.length - max limit 1) t.order
  have size := h.length
  have left : (t.evict limit).phases.length =
      (Retention.drop (fun id => !t.isRunning id) (t.phases.length - max limit 1) t.order).length :=
    (h.evict limit).length.symm
  by_cases full : max limit 1 ≤ t.phases.length
  · omega
  · -- with room to spare nothing goes
    have none : t.phases.length - max limit 1 = 0 := by omega
    have same : (t.evict limit).phase? id = t.phase? id := by
      unfold RunTable.evict phase?
      simp [none, Retention.dropped]
    rw [same, shown] at gone
    cases gone

/-- What goes is settled, and came before everything settled that stays. -/
theorem older_of_evict (h : t.Listed) (shown : t.phase? id = some phase)
    (gone : (t.evict limit).phase? id = none) : phase.isRunning = false ∧
      ∀ other later, (t.evict limit).phase? other = some later → later.isRunning = false →
        Older t.order id other := by
  have listed : id ∈ t.order := h.mem_of_get? shown
  have goes : id ∈ Retention.dropped (fun id => !t.isRunning id)
      (t.phases.length - max limit 1) t.order := by
    by_contra stays
    obtain ⟨_, found⟩ := (h.evict limit).exists_get? ((Retention.mem_drop h.nodup).2 ⟨listed, stays⟩)
    cases gone.symm.trans found
  constructor
  · have settled := Retention.settled_of_mem_dropped goes
    simpa [isRunning, shown] using settled
  · intro other later stays settled
    have kept : other ∈ (t.evict limit).order := (h.evict limit).mem_of_get? stays
    exact Retention.older_of_mem_dropped goes kept
      (by simp [isRunning, phase?_of_evict stays, settled])

/-! ### Many changes -/

theorem order_settle (t : RunTable) (id : String) (phase : RunPhase) :
    (t.settle id phase).order = t.order := by
  unfold settle
  split <;> rfl

theorem Listed.settle (h : t.Listed) (id : String) (phase : RunPhase) :
    (t.settle id phase).Listed := by
  unfold RunTable.settle
  split
  · next known => exact Keyed.Lists.put_known h ((h.mem id).2 known) phase
  · exact h

theorem Listed.note (h : t.Listed) (fresh : ∀ id, c.inserted? = some id → id ∉ t.order) :
    (t.note c).Listed := by
  cases c with
  | insert id => exact Keyed.Lists.put_new h (fresh id rfl) .running
  | settle id phase => exact h.settle id phase

theorem order_note (t : RunTable) (c : Change) :
    (t.note c).order = t.order ++ c.inserted?.toList := by
  cases c with
  | insert id => rfl
  | settle id phase => simp [note, order_settle, Change.inserted?]

/-- A run is inserted under an id that is new. -/
theorem fresh_of_nodup (sub : t.order.Sublist (inserted changes))
    (fresh : (inserted (changes ++ [c])).Nodup) : ∀ id, c.inserted? = some id → id ∉ t.order := by
  intro id inserts listed
  rw [inserted_concat, inserts] at fresh
  have apart := List.disjoint_of_nodup_append fresh
  exact apart (sub.subset listed) (by simp)

/-- The order lists what is shown, as it was inserted. -/
theorem listed_after (limit : Nat) (changes : List Change) (fresh : (inserted changes).Nodup) :
    (after limit changes).Listed ∧ (after limit changes).order.Sublist (inserted changes) := by
  induction changes using List.reverseRecOn with
  | nil => exact ⟨.nil, .slnil⟩
  | append_singleton changes c ih =>
    obtain ⟨listed, sub⟩ := ih (nodup_of_concat fresh)
    have noted := listed.note (fresh_of_nodup sub fresh)
    rw [after_concat]
    refine ⟨noted.evict limit, (Retention.drop_sublist ..).trans ?_⟩
    rw [order_note, inserted_concat]
    exact sub.append_right _

/-- However many runs are shown, they are no more than may be, or all of them are running. -/
theorem length_after_le (limit : Nat) (changes : List Change) (fresh : (inserted changes).Nodup) :
    (after limit changes).phases.length ≤
      max (max limit 1) (after limit changes).running.length := by
  rcases List.eq_nil_or_concat changes with rfl | ⟨changes, c, rfl⟩
  · exact Nat.zero_le _
  · rw [List.concat_eq_append] at fresh ⊢
    obtain ⟨listed, sub⟩ := listed_after limit changes (nodup_of_concat fresh)
    rw [after_concat]
    exact length_evict_le (listed.note (fresh_of_nodup sub fresh)) limit

/-- After every change of a table its order lists what it shows, each run once and as the runs were
inserted. What was running when the change was noted is running still; the table is no larger than
its limit, or one, unless it shows running runs only; and a run that goes is settled, goes because the
table would be too large, and was inserted before every settled run that stays. -/
theorem keeps_running_and_newest (limit : Nat) (changes : List Change) (c : Change)
    (fresh : (inserted (changes ++ [c])).Nodup) :
    let noted := (after limit changes).note c
    let t := after limit (changes ++ [c])
    (t.order.Nodup ∧ t.order.Perm (Keyed.keys t.phases) ∧
      t.order.Sublist (inserted (changes ++ [c]))) ∧
    (∀ id, noted.phase? id = some .running → t.phase? id = some .running) ∧
    t.phases.length ≤ max (max limit 1) t.running.length ∧
    ∀ id phase, noted.phase? id = some phase → t.phase? id = none →
      phase.isRunning = false ∧ max limit 1 ≤ t.phases.length ∧
      ∀ other later, t.phase? other = some later → later.isRunning = false →
        Older (inserted (changes ++ [c])) id other := by
  intro noted t
  have room : t = noted.evict limit := after_concat ..
  obtain ⟨before, sub⟩ := listed_after limit changes (nodup_of_concat fresh)
  have listed : noted.Listed := before.note (fresh_of_nodup sub fresh)
  obtain ⟨here, inOrder⟩ := listed_after limit (changes ++ [c]) fresh
  refine ⟨⟨here.nodup, here.perm, inOrder⟩, ?_, ?_, ?_⟩
  · intro id shown
    exact room ▸ running_evict shown
  · exact length_after_le limit (changes ++ [c]) fresh
  · intro id phase shown gone
    rw [room] at gone ⊢
    obtain ⟨settled, older⟩ := older_of_evict listed shown gone
    refine ⟨settled, le_length_evict listed shown gone, fun other later stays done => ?_⟩
    have noted : noted.order.Sublist (inserted (changes ++ [c])) := by
      rw [order_note, inserted_concat]
      exact sub.append_right _
    exact (older other later stays done).mono noted

/-- Two calls are settled, the second one first; a third call takes the place of the first. -/
theorem third_call_replaces_first :
    let calls : List Change := [.insert "first", .insert "second",
      .settle "second" (.rejected "engaged"), .settle "first" (.rejected "engaged")]
    let noted := (after 2 calls).note (.insert "third")
    let t := after 2 (calls ++ [.insert "third"])
    (inserted (calls ++ [.insert "third"])).Nodup ∧
    (noted.phase? "third" = some .running ∧ t.phase? "third" = some .running) ∧
    (noted.phase? "first" = some (.rejected "engaged") ∧ t.phase? "first" = none) ∧
    t.phase? "second" = some (.rejected "engaged") ∧
    t.order = ["second", "third"] ∧ t.phases.length ≤ max (max 2 1) t.running.length ∧
    Older (inserted (calls ++ [.insert "third"])) "first" "second" := by
  intro calls noted t
  have fresh : (inserted (calls ++ [.insert "third"])).Nodup := by decide
  obtain ⟨-, stays, size, goes⟩ := keeps_running_and_newest 2 calls (.insert "third") fresh
  have gone := goes "first" (.rejected "engaged") rfl rfl
  exact ⟨fresh, ⟨rfl, stays "third" rfl⟩, ⟨rfl, rfl⟩, rfl, rfl, size,
    gone.2.2 "second" (.rejected "engaged") rfl rfl⟩

end RunTable
end Playbook
