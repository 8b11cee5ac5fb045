import Playbook.Run.Table

/-!
What the table of runs shows. It agrees with the runs when it shows nothing that is not so and every
run that is running; this is kept when a run is inserted, when one is settled, and when settled runs
go to make room.
-/
namespace Playbook
namespace RunTable

/-- What the table shows is so, and what is running is shown. -/
structure Agrees (t : RunTable) (phases : String → Option RunPhase) : Prop where
  shown : ∀ id phase, t.phase? id = some phase → phases id = some phase
  running : ∀ id, phases id = some .running → t.phase? id = some .running

variable {t : RunTable} {phases next : String → Option RunPhase} {id : String}

theorem agrees_empty : Agrees {} fun _ => none where
  shown _ _ h := by cases h
  running _ h := by cases h

/-- A run that goes was not running. -/
theorem phase?_evict (t : RunTable) (limit : Nat) (id : String) :
    (t.evict limit).phase? id = t.phase? id ∨
      (t.evict limit).phase? id = none ∧ t.isRunning id = false := by
  unfold evict
  simp only [phase?]
  generalize t.phases.length - max limit 1 = surplus
  rw [Keyed.get?_filter fun key =>
    !(Retention.dropped (fun runId => !t.isRunning runId) surplus t.order).contains key]
  split
  · exact .inl rfl
  · next gone =>
    have settled := Retention.settled_of_mem_dropped (by simpa using gone)
    exact .inr ⟨rfl, by simpa using settled⟩

theorem Agrees.evict (h : t.Agrees phases) (limit : Nat) : (t.evict limit).Agrees phases where
  shown id phase shows := by
    rcases t.phase?_evict limit id with kept | ⟨gone, -⟩
    · exact h.shown id phase (kept ▸ shows)
    · cases gone.symm.trans shows
  running id goes := by
    have shows := h.running id goes
    rcases t.phase?_evict limit id with kept | ⟨-, settled⟩
    · rw [kept, shows]
    · simp [isRunning, shows, RunPhase.isRunning] at settled

/-- Only one run changes, in the table and in what it stands for. -/
theorem Agrees.of_change (h : t.Agrees phases) {t' : RunTable}
    (rest : ∀ other, other ≠ id → t'.phase? other = t.phase? other)
    (others : ∀ other, other ≠ id → next other = phases other)
    (shown : ∀ phase, t'.phase? id = some phase → next id = some phase)
    (running : next id = some .running → t'.phase? id = some .running) : t'.Agrees next where
  shown other phase shows := by
    by_cases same : other = id
    · exact same ▸ shown phase (same ▸ shows)
    · rw [others other same]
      exact h.shown other phase (rest other same ▸ shows)
  running other goes := by
    by_cases same : other = id
    · exact same ▸ running (same ▸ goes)
    · rw [rest other same]
      exact h.running other (others other same ▸ goes)

theorem Agrees.insert (h : t.Agrees phases) (here : next id = some .running)
    (others : ∀ other, other ≠ id → next other = phases other) (limit : Nat) :
    (t.insert id limit).Agrees next := by
  refine (h.of_change (fun other apart => ?_) others (fun phase shows => ?_) fun _ => ?_).evict limit
  · exact Keyed.get?_put_of_ne apart ..
  · have own : some RunPhase.running = some phase := (Keyed.get?_put_self ..).symm.trans shows
    exact here.trans own
  · exact Keyed.get?_put_self ..

theorem Agrees.settle (h : t.Agrees phases) {phase : RunPhase} (here : next id = some phase)
    (settled : phase.isRunning = false)
    (others : ∀ other, other ≠ id → next other = phases other) :
    (t.settle id phase).Agrees next := by
  refine h.of_change (fun other apart => ?_) others (fun shown shows => ?_) fun goes => ?_
  · unfold RunTable.settle phase?
    split
    · exact Keyed.get?_put_of_ne apart ..
    · rfl
  · unfold RunTable.settle phase? Keyed.contains at shows
    split at shows
    · exact here.trans ((Keyed.get?_put_self ..).symm.trans shows)
    · next absent => simp [shows] at absent
  · cases here.symm.trans goes
    cases settled

end RunTable
end Playbook
