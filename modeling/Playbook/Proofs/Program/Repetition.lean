import Playbook.Proofs.Program.Loading

/-!
Programs of one id and version that are loaded together. They are registered in the order in which
they are read, so the catalog holds the last one of each place afterwards, and those before it are
lost. The number that loading answers counts them all the same. A program that is published is lost
only to its own definition, since another one would be refused.
-/
namespace Playbook

/-- The last of some programs that has an id and a version number. -/
def Program.last? (programs : List Program) (id : String) (version : Nat) : Option Program :=
  programs.reverse.find? fun p => p.id = id ∧ p.version = version

namespace Program

variable {p : Program} {programs : List Program} {id : String} {version : Nat}

theorem last?_cons : last? (p :: programs) id version =
    (last? programs id version).or (if id = p.id ∧ version = p.version then some p else none) := by
  unfold last?
  rw [List.reverse_cons, List.find?_append]
  congr 1
  by_cases own : id = p.id ∧ version = p.version
  · obtain ⟨rfl, rfl⟩ := own
    simp
  · have other : ¬ (p.id = id ∧ p.version = version) := fun h => own ⟨h.1.symm, h.2.symm⟩
    simp [own, other]

theorem mem_of_last? (h : last? programs id version = some p) :
    p ∈ programs ∧ p.id = id ∧ p.version = version := by
  have own := List.find?_some h
  exact ⟨List.mem_reverse.1 (List.mem_of_find?_eq_some h), by simpa using own⟩

/-- Where every place is taken once, each program is the last of its own. -/
theorem last?_of_nodup (distinct : (programs.map fun p => (p.id, p.version)).Nodup)
    (mem : p ∈ programs) : last? programs p.id p.version = some p := by
  cases found : last? programs p.id p.version with
  | none =>
    have never := List.find?_eq_none.1 found p (List.mem_reverse.2 mem)
    simp at never
  | some q =>
    obtain ⟨known, id, version⟩ := mem_of_last? found
    rw [List.inj_on_of_nodup_map distinct known mem (Prod.ext id version)]

end Program

namespace Catalog

variable {c : Catalog} {p : Program} {programs : List Program} {id : String} {version : Nat}

/-- A registration that succeeds puts the program into its place, which no other definition had
published. -/
theorem register_accepted (accepted : (c.register p).2 = .ok ()) :
    c.isTaken p = false ∧ (c.register p).1 = c.set p.id p.version p := by
  rw [register_eq] at accepted ⊢
  cases named : Text.allBlank p.id with
  | true => simp [named] at accepted
  | false =>
    cases taken : c.isTaken p with
    | true => simp [named, taken] at accepted
    | false => simp

/-- After programs are registered, the last one of each place stands there. -/
theorem get?_after_register (accepts : c.Accepts (programs.map .register)) :
    (c.after (programs.map .register)).get? id version =
      (Program.last? programs id version).or (c.get? id version) := by
  induction programs generalizing c with
  | nil => rfl
  | cons p rest ih =>
    cases accepts with
    | cons succeeds tail =>
      have placed : (c.perform (.register p)).1 = c.set p.id p.version p :=
        (register_accepted succeeds).2
      refine (ih tail).trans ?_
      rw [placed, get?_set, Program.last?_cons, Option.or_assoc]
      split <;> rfl

/-- What is published makes room only for its own definition. -/
theorem published_after_register (stands : c.get? id version = some p)
    (published : p.status = .published) (accepts : c.Accepts (programs.map .register)) :
    ∃ q, (c.after (programs.map .register)).get? id version = some q ∧
      (q = p ∨ p.same q = true) := by
  induction programs generalizing c p with
  | nil => exact ⟨p, stands, .inl rfl⟩
  | cons r rest ih =>
    cases accepts with
    | cons succeeds tail =>
      obtain ⟨free, placed⟩ := register_accepted succeeds
      have now : (c.perform (.register r)).1.get? id version = _ :=
        (congrArg (fun c => c.get? id version) placed).trans (get?_set ..)
      by_cases own : id = r.id ∧ version = r.version
      · obtain ⟨rfl, rfl⟩ := own
        have same := same_of_free free stands published
        rw [if_pos ⟨rfl, rfl⟩] at now
        have status := (Program.status_of_same same).symm.trans published
        obtain ⟨q, held, rfl | later⟩ := ih now status tail
        · exact ⟨q, held, .inr same⟩
        · exact ⟨q, held, .inr (Program.same_trans same later)⟩
      · rw [if_neg own] at now
        exact ih (now.trans stands) published tail

/-- What is published among programs that are registered is lost only to its own definition. -/
theorem published_among_registered {before after : List Program} (published : p.status = .published)
    (accepts : c.Accepts ((before ++ p :: after).map .register)) :
    ∃ q, (c.after ((before ++ p :: after).map .register)).get? p.id p.version = some q ∧
      (q = p ∨ p.same q = true) := by
  induction before generalizing c with
  | nil =>
    cases accepts with
    | cons succeeds tail =>
      have now : (c.perform (.register p)).1.get? p.id p.version = some p := by
        rw [show (c.perform (.register p)).1 = c.set p.id p.version p from
          (register_accepted succeeds).2, get?_set, if_pos ⟨rfl, rfl⟩]
      exact published_after_register (c := (c.perform (.register p)).1) now published tail
  | cons r rest ih =>
    cases accepts with
    | cons succeeds tail => exact ih tail

end Catalog

namespace Engine

open Catalog (Operation)

variable {e : Engine}

theorem registerAll_ok {programs : List Program} (accepted : (e.registerAll programs).2 = .ok ()) :
    e.catalog.Accepts (programs.map .register) ∧ (e.registerAll programs).1 =
      { e with catalog := e.catalog.after (programs.map .register) } := by
  induction programs generalizing e with
  | nil => exact ⟨.nil, rfl⟩
  | cons p rest ih =>
    cases result : (e.catalog.register p).2 with
    | error cause =>
      rw [registerAll, register_error result] at accepted
      cases accepted
    | ok =>
      have goes : e.registerAll (p :: rest) = registerAll
          { e with catalog := (e.catalog.perform (.register p)).1 } rest := by
        rw [registerAll, register_ok result]
      rw [goes] at accepted ⊢
      obtain ⟨accepts, after⟩ := ih accepted
      exact ⟨.cons result accepts, after⟩

/-- Loading that succeeds has read all programs and registered them, and answers their number. -/
theorem load_ok {path : String} {entry : Option Entry} {n : Nat}
    (loaded : (e.load path entry).2 = .ok n) :
    ∃ programs, Entry.programs path entry = .ok programs ∧ n = programs.length ∧
      e.catalog.Accepts (programs.map .register) ∧
      (e.load path entry).1.catalog = e.catalog.after (programs.map .register) := by
  unfold load at loaded ⊢
  cases read : Entry.programs path entry with
  | error fault =>
    rw [read] at loaded
    cases loaded
  | ok programs =>
    rw [read] at loaded
    cases result : (e.registerAll programs).2 with
    | error f => simp [result, Except.map] at loaded
    | ok =>
      have count : programs.length = n := by simpa [result, Except.map] using loaded
      obtain ⟨accepts, after⟩ := registerAll_ok result
      exact ⟨programs, rfl, count.symm, accepts, congrArg Engine.catalog after⟩

/-- After programs are loaded, the catalog holds the last one of each id and version, and what it
held before where none was loaded. So nothing is lost of programs that share no place, and of those
that do only what was not published; all of them are counted. -/
theorem load_keeps_last_of_each_place {path : String} {entry : Option Entry} {n : Nat}
    (loaded : (e.load path entry).2 = .ok n) :
    ∃ programs, Entry.programs path entry = .ok programs ∧ n = programs.length ∧
      (∀ id version, (e.load path entry).1.catalog.get? id version =
        (Program.last? programs id version).or (e.catalog.get? id version)) ∧
      ((programs.map fun p => (p.id, p.version)).Nodup → ∀ p ∈ programs,
        (e.load path entry).1.catalog.get? p.id p.version = some p) ∧
      ∀ p ∈ programs, p.status = .published →
        ∃ q, (e.load path entry).1.catalog.get? p.id p.version = some q ∧
          (q = p ∨ p.same q = true) := by
  obtain ⟨programs, read, count, accepts, catalog⟩ := load_ok loaded
  rw [catalog]
  refine ⟨programs, read, count, fun _ _ => Catalog.get?_after_register accepts, ?_, ?_⟩
  · intro distinct p mem
    rw [Catalog.get?_after_register accepts, Program.last?_of_nodup distinct mem, Option.some_or]
  · intro p mem published
    obtain ⟨before, after, rfl⟩ := List.append_of_mem mem
    exact Catalog.published_among_registered published accepts

/-- Three files, of which two define the same version of the letters. -/
def drafts : List (String × Entry) :=
  [("calls.json", .file "\x7b\"id\":\"calls\"\x7d"),
   ("letters.json", .file "\x7b\"id\":\"letters\",\"name\":\"Letters\"\x7d"),
   ("parcels.json", .file "\x7b\"id\":\"letters\",\"name\":\"Parcels\"\x7d")]

theorem programs_drafts : Entry.programs "programs" (some (.folder drafts)) =
    (Entry.Waiting.files ⟨[], 0, drafts⟩).mapM (FoundFile.program "programs") := by
  have sorted : (Entry.Waiting.files ⟨[], 0, drafts⟩).Pairwise fun f g => f.path.le g.path := by
    decide +kernel
  rw [Entry.programs, Entry.programFiles, Entry.discover_of_folders_eq_nil rfl,
    List.mergeSort_of_pairwise sorted]

/-- What tells the programs of `drafts` apart. -/
def label (p : Program) : String × Nat × String := (p.id, p.version, p.name)

theorem load_drafts : ∃ e programs, Engine.create {} {} ⟨0, 0⟩ = .ok e ∧
    Entry.programs "programs" (some (.folder drafts)) = .ok programs ∧
    programs.map label = [("calls", 1, ""), ("letters", 1, "Letters"), ("letters", 1, "Parcels")] ∧
    (e.load "programs" (some (.folder drafts))).2 = .ok 3 ∧
    ((e.load "programs" (some (.folder drafts))).1.catalog.get? "letters" 1).map label =
      some ("letters", 1, "Parcels") := by
  have facts : ∃ e, Engine.create {} {} ⟨0, 0⟩ = .ok e ∧
      (Entry.programs "programs" (some (.folder drafts))).toOption.map (fun ps => ps.map label) =
        some [("calls", 1, ""), ("letters", 1, "Letters"), ("letters", 1, "Parcels")] ∧
      (e.load "programs" (some (.folder drafts))).2.toOption = some 3 ∧
      ((e.load "programs" (some (.folder drafts))).1.catalog.get? "letters" 1).map label =
        some ("letters", 1, "Parcels") := by
    refine ⟨_, rfl, ?_⟩
    rw [load, programs_drafts]
    decide +kernel
  obtain ⟨e, made, read, loaded, held⟩ := facts
  cases programs : Entry.programs "programs" (some (.folder drafts)) with
  | error fault => simp [programs, Except.toOption] at read
  | ok ps =>
    cases result : (e.load "programs" (some (.folder drafts))).2 with
    | error f => simp [result, Except.toOption] at loaded
    | ok n =>
      rw [programs] at read
      rw [result] at loaded
      obtain rfl : n = 3 := Option.some.inj loaded
      exact ⟨e, ps, made, rfl, Option.some.inj read, result, held⟩

theorem drafts_leave_last_of_each_place : ∃ e n, Engine.create {} {} ⟨0, 0⟩ = .ok e ∧
    (e.load "programs" (some (.folder drafts))).2 = .ok n ∧
    ∃ programs, Entry.programs "programs" (some (.folder drafts)) = .ok programs ∧
      n = programs.length ∧ ∀ id version,
        (e.load "programs" (some (.folder drafts))).1.catalog.get? id version =
          (Program.last? programs id version).or (e.catalog.get? id version) := by
  obtain ⟨e, -, made, -, -, loaded, -⟩ := load_drafts
  obtain ⟨programs, read, count, last, -⟩ := load_keeps_last_of_each_place loaded
  exact ⟨e, 3, made, loaded, programs, read, count, last⟩

/-- Loading reports three programs, of which two share a place; the catalog holds one of these, and
the other is lost. -/
theorem letters_are_lost_to_parcels : ∃ e programs, Engine.create {} {} ⟨0, 0⟩ = .ok e ∧
    Entry.programs "programs" (some (.folder drafts)) = .ok programs ∧
    (e.load "programs" (some (.folder drafts))).2 = .ok programs.length ∧
    ¬ (programs.map fun p => (p.id, p.version)).Nodup ∧
    ∃ p ∈ programs, (e.load "programs" (some (.folder drafts))).1.catalog.get? p.id p.version ≠
      some p := by
  obtain ⟨e, programs, made, read, labels, loaded, held⟩ := load_drafts
  have count : programs.length = 3 := by simpa using congrArg List.length labels
  have places : programs.map (fun p => (p.id, p.version)) =
      [("calls", 1), ("letters", 1), ("letters", 1)] := by
    have forgotten := congrArg (List.map fun l : String × Nat × String => (l.1, l.2.1)) labels
    rwa [List.map_map] at forgotten
  have letters : ("letters", 1, "Letters") ∈ programs.map label := by
    rw [labels]
    decide
  obtain ⟨p, mem, own⟩ := List.mem_map.1 letters
  refine ⟨e, programs, made, read, count ▸ loaded, by rw [places]; decide, p, mem, fun found => ?_⟩
  have id : p.id = "letters" := congrArg Prod.fst own
  have version : p.version = 1 := congrArg (fun l => l.2.1) own
  rw [id, version] at found
  rw [found, Option.map_some, own] at held
  exact absurd held (by decide)

end Engine
end Playbook
