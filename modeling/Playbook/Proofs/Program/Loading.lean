import Playbook.Engine
import Playbook.Proofs.Program.Publication
import Playbook.Proofs.Program.RoundTrip

/-!
Programs that are loaded from files. All of them are read before the first one is registered, so what
cannot be read leaves the engine as it is. They are registered one by one: a program that is refused
leaves behind the ones before it.
-/
namespace Playbook

/-! ### Reading -/

/-- A program that is read from a text has an id. -/
theorem Program.named_of_parse {format : ProgramFormat} {text : String} {p : Program}
    (h : Program.parse format text = .ok p) : Text.allBlank p.id = false := by
  obtain ⟨-, q, -, -, named, rfl⟩ := parse_eq_ok h
  exact named

theorem FoundFile.named_of_program {directory : String} {f : FoundFile} {p : Program}
    (h : f.program directory = .ok p) : Text.allBlank p.id = false := by
  unfold FoundFile.program at h
  cases parsed : Program.parse (f.path.format?.getD .json) f.text with
  | error fault => simp [parsed, Except.mapError] at h
  | ok q =>
    have same : q = p := by simpa [parsed, Except.mapError] using h
    exact same ▸ Program.named_of_parse parsed

theorem exists_of_mem_mapM {α β ε : Type} {f : α → Except ε β} {xs : List α} {ys : List β} {y : β}
    (h : xs.mapM f = .ok ys) (mem : y ∈ ys) : ∃ x ∈ xs, f x = .ok y := by
  induction xs generalizing ys with
  | nil =>
    cases h
    cases mem
  | cons x xs ih =>
    rw [List.mapM_cons] at h
    cases head : f x with
    | error e => simp [head, Bind.bind, Except.bind] at h
    | ok z =>
      cases tail : xs.mapM f with
      | error e => simp [head, tail, Bind.bind, Except.bind] at h
      | ok zs =>
        have same : z :: zs = ys := by
          simpa [head, tail, Bind.bind, Except.bind, Pure.pure, Except.pure] using h
        subst same
        rcases List.mem_cons.1 mem with rfl | mem
        · exact ⟨x, List.mem_cons_self .., head⟩
        · obtain ⟨x', known, made⟩ := ih tail mem
          exact ⟨x', List.mem_cons_of_mem _ known, made⟩

/-- All programs at a place have an id. -/
theorem Entry.named_of_programs {path : String} {entry : Option Entry} {programs : List Program}
    (h : Entry.programs path entry = .ok programs) :
    ∀ p ∈ programs, Text.allBlank p.id = false := by
  intro p mem
  cases entry with
  | none => cases h
  | some entry =>
    cases entry with
    | file text =>
      cases parsed : Program.parse ((Path.ofText path).format?.getD .json) text with
      | error fault => simp [Entry.programs, parsed, Except.mapError, Bind.bind, Except.bind] at h
      | ok q =>
        have same : [q] = programs := by
          simpa [Entry.programs, parsed, Except.mapError, Bind.bind, Except.bind] using h
        obtain rfl : p = q := by simpa [← same] using mem
        exact Program.named_of_parse parsed
    | folder entries =>
      obtain ⟨file, -, made⟩ := exists_of_mem_mapM h mem
      exact FoundFile.named_of_program made

/-! ### Registering -/

namespace Catalog

/-- The operations succeed one after the other. -/
inductive Accepts : Catalog → List Operation → Prop
  | nil {c : Catalog} : Accepts c []
  | cons {c : Catalog} {o : Operation} {rest : List Operation}
      (succeeds : (c.perform o).2 = .ok ()) (tail : Accepts (c.perform o).1 rest) :
      Accepts c (o :: rest)

/-- A program with an id is refused only where another definition is published. -/
theorem refused_of_named {c : Catalog} {p : Program} {e : CatalogError}
    (named : Text.allBlank p.id = false) (refused : (c.register p).2 = .error e) :
    e = .alreadyPublished p.id p.version ∧ ∃ old, c.get? p.id p.version = some old ∧
      old.status = .published ∧ old.same p = false := by
  rw [register_eq, named] at refused
  cases taken : c.isTaken p with
  | true =>
    simp only [taken, if_true, Bool.false_eq_true, if_false] at refused
    cases refused
    exact ⟨rfl, isTaken_iff.1 taken⟩
  | false =>
    simp only [taken, Bool.false_eq_true, if_false] at refused
    cases refused

end Catalog

namespace Engine

open Catalog (Operation)

variable {e : Engine}

theorem register_ok {p : Program} (accepted : (e.catalog.register p).2 = .ok ()) :
    e.register p = ({ e with catalog := (e.catalog.perform (.register p)).1 }, .ok ()) := by
  unfold register withCatalog
  rw [accepted]
  rfl

theorem register_error {p : Program} {cause : CatalogError}
    (refused : (e.catalog.register p).2 = .error cause) :
    e.register p = (e, .error (.ofCatalog cause)) := by
  have same : (e.catalog.register p).1 = e.catalog :=
    Catalog.perform_of_error (o := .register p) refused
  unfold register withCatalog
  rw [refused, same]
  rfl

/-- Programs are registered up to one that is refused, since another definition is published in its
place. Those before it stay, and nothing else has changed. -/
def StopsAt (e : Engine) (programs : List Program) (f : Failure) (after : Engine) : Prop :=
  ∃ before p rest old, programs = before ++ p :: rest ∧
    e.catalog.Accepts (before.map .register) ∧
    (e.catalog.after (before.map .register)).get? p.id p.version = some old ∧
    old.status = .published ∧ old.same p = false ∧
    f = .ofCatalog (.alreadyPublished p.id p.version) ∧
    after = { e with catalog := e.catalog.after (before.map .register) }

theorem registerAll_error {programs : List Program} {f : Failure}
    (named : ∀ p ∈ programs, Text.allBlank p.id = false)
    (failed : (e.registerAll programs).2 = .error f) :
    e.StopsAt programs f (e.registerAll programs).1 := by
  induction programs generalizing e with
  | nil => cases failed
  | cons p rest ih =>
    cases result : (e.catalog.register p).2 with
    | error cause =>
      have stops : e.registerAll (p :: rest) = (e, .error (.ofCatalog cause)) := by
        rw [registerAll, register_error result]
      rw [stops] at failed ⊢
      cases failed
      obtain ⟨rfl, old, stands, published, other⟩ :=
        Catalog.refused_of_named (named p (List.mem_cons_self ..)) result
      exact ⟨[], p, rest, old, rfl, .nil, stands, published, other, rfl, rfl⟩
    | ok =>
      have goes : e.registerAll (p :: rest) = registerAll
          { e with catalog := (e.catalog.perform (.register p)).1 } rest := by
        rw [registerAll, register_ok result]
      rw [goes] at failed ⊢
      obtain ⟨before, q, later, old, rfl, accepts, stops⟩ :=
        ih (fun q mem => named q (List.mem_cons_of_mem _ mem)) failed
      exact ⟨p :: before, q, later, old, rfl, .cons result accepts, stops⟩

/-- Where loading fails, either the programs could not be read and nothing has changed, or one of
them is refused and the ones before it stay registered. -/
theorem load_error_keeps_accepted {path : String} {entry : Option Entry} {f : Failure}
    (failed : (e.load path entry).2 = .error f) :
    (∃ fault, Entry.programs path entry = .error fault ∧ f = .ofLoad fault ∧
      (e.load path entry).1 = e) ∨
    ∃ programs, Entry.programs path entry = .ok programs ∧
      e.StopsAt programs f (e.load path entry).1 := by
  unfold load at failed ⊢
  cases read : Entry.programs path entry with
  | error fault =>
    rw [read] at failed
    cases failed
    exact .inl ⟨fault, rfl, rfl, rfl⟩
  | ok programs =>
    have stopped : (e.registerAll programs).2 = .error f := by
      rw [read] at failed
      cases result : (e.registerAll programs).2 with
      | ok => simp [result, Except.map] at failed
      | error g => simpa [result, Except.map] using failed
    exact .inr ⟨programs, rfl, registerAll_error (Entry.named_of_programs read) stopped⟩

/-- Two files, of which the second gives the letters another name. -/
def post : List (String × Entry) :=
  [("calls.json", .file "\x7b\"id\":\"calls\"\x7d"),
   ("letters.json", .file "\x7b\"id\":\"letters\",\"name\":\"Parcels\"\x7d")]

theorem programs_post : Entry.programs "programs" (some (.folder post)) =
    [FoundFile.mk ["calls.json"] "\x7b\"id\":\"calls\"\x7d",
     ⟨["letters.json"], "\x7b\"id\":\"letters\",\"name\":\"Parcels\"\x7d"⟩].mapM
      (FoundFile.program "programs") := by
  have sorted : (Entry.Waiting.files ⟨[], 0, post⟩).Pairwise fun f g => f.path.le g.path := by
    decide +kernel
  have files : Entry.programFiles post = Entry.Waiting.files ⟨[], 0, post⟩ := by
    rw [Entry.programFiles, Entry.discover_of_folders_eq_nil rfl]
    exact List.mergeSort_of_pairwise sorted
  rw [Entry.programs, files]
  rfl

/-- The engine with the letters published. -/
def withLetters (e : Engine) : Engine :=
  (e.register { Catalog.letters with status := .published }).1

theorem load_post : ∃ e f, Engine.create {} {} ⟨0, 0⟩ = .ok e ∧
    (e.withLetters.load "programs" (some (.folder post))).2 = .error f ∧
    e.withLetters.programs = ["letters"] ∧
    (e.withLetters.load "programs" (some (.folder post))).1.programs = ["calls", "letters"] := by
  have facts : ∃ e, Engine.create {} {} ⟨0, 0⟩ = .ok e ∧
      (e.withLetters.load "programs" (some (.folder post))).2.toOption = none ∧
      e.withLetters.programs = ["letters"] ∧
      (e.withLetters.load "programs" (some (.folder post))).1.programs = ["calls", "letters"] := by
    refine ⟨_, rfl, ?_⟩
    rw [load, programs_post]
    decide +kernel
  obtain ⟨e, made, failed, before, after⟩ := facts
  cases result : (e.withLetters.load "programs" (some (.folder post))).2 with
  | ok => simp [result, Except.toOption] at failed
  | error f => exact ⟨e, f, made, result, before, after⟩

theorem post_stops_at_letters : ∃ e f, Engine.create {} {} ⟨0, 0⟩ = .ok e ∧
    (e.withLetters.load "programs" (some (.folder post))).2 = .error f ∧
    ((∃ fault, Entry.programs "programs" (some (.folder post)) = .error fault ∧
        f = .ofLoad fault ∧
        (e.withLetters.load "programs" (some (.folder post))).1 = e.withLetters) ∨
      ∃ programs, Entry.programs "programs" (some (.folder post)) = .ok programs ∧
        e.withLetters.StopsAt programs f
          (e.withLetters.load "programs" (some (.folder post))).1) := by
  obtain ⟨e, f, made, failed, -⟩ := load_post
  exact ⟨e, f, made, failed, load_error_keeps_accepted failed⟩

/-- The letters are refused, and the calls stay behind in the catalog. -/
theorem refused_letters_leave_calls : ∃ e f, Engine.create {} {} ⟨0, 0⟩ = .ok e ∧
    (e.withLetters.load "programs" (some (.folder post))).2 = .error f ∧
    (e.withLetters.load "programs" (some (.folder post))).1.catalog ≠ e.withLetters.catalog := by
  obtain ⟨e, f, made, failed, before, after⟩ := load_post
  refine ⟨e, f, made, failed, fun same => ?_⟩
  have ids : (e.withLetters.load "programs" (some (.folder post))).1.programs =
      e.withLetters.programs := congrArg Catalog.ids same
  rw [before, after] at ids
  exact absurd ids (by decide)

end Engine
end Playbook
