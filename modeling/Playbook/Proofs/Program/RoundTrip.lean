import Playbook.Program.Document
import Playbook.Proofs.Json.Reading
import Playbook.Proofs.Program.Codec

/-!
Programs that are written and read back. What a text holds was decoded from a value in order, and
its steps belong to it; so the text that it is printed to holds the same program, as long as that
text is read as the value that was printed.
-/
namespace Playbook

open Json (Value)
open Json.Value (maxCount32 maxCount64)

/-! ### Programs of texts -/

/-- The value of a document in either format has its objects in order. -/
theorem ProgramFormat.inOrder_of_read {format : ProgramFormat} {text : String} {v : Value}
    (h : format.read text = .ok v) : v.InOrder := by
  cases format with
  | json =>
    rw [ProgramFormat.read] at h
    cases parsed : Json.parse? text with
    | none => simp [parsed] at h
    | some w =>
      obtain rfl : w = v := by simpa [parsed] using h
      exact Json.inOrder_of_parse? parsed
  | yaml =>
    rw [ProgramFormat.read] at h
    cases parsed : Yaml.parse? text with
    | none => simp [parsed] at h
    | some document =>
      cases written : document.toJson? with
      | none => simp [parsed, written] at h
      | some w =>
        obtain rfl : w = v := by simpa [parsed, written] using h
        exact Yaml.Value.inOrder_of_toJson? document written

theorem hereditary_id : Hereditary fun v => id v = v :=
  ⟨fun _ _ _ => rfl, fun _ _ _ => rfl, rfl⟩

theorem hereditary_inOrder : Hereditary Value.InOrder where
  item h := by
    cases h with
    | list each => exact each
  entry h := by
    cases h with
    | object _ each => exact each
  empty := .object .nil (by simp)

section
variable {Q R : Value → Prop} {s : Step} {p : Program}

theorem Step.Fits.mono (weaker : ∀ v, Q v → R v) (h : s.Fits Q) : s.Fits R :=
  { h with action := { h.action with params := weaker _ h.action.params } }

theorem Program.Fits.mono (weaker : ∀ v, Q v → R v) (h : p.Fits Q) : p.Fits R :=
  { h with steps := fun s mem => (h.steps s mem).mono weaker }

/-- A step that belongs to a program and has a name keeps both. -/
theorem Step.adopt_adopt (id : String) (s : Step) : (s.adopt id).adopt id = s.adopt id := by
  by_cases owned : s.programId = "" <;> by_cases named : s.name = "" <;> simp [adopt, owned, named]

/-- The program of a text is decoded from its value, and the steps are made to belong to it. -/
theorem Program.parse_eq_ok {format : ProgramFormat} {text : String} (h : parse format text = .ok p) :
    ∃ v q, format.read text = .ok v ∧ decode? v = some q ∧ Text.allBlank q.id = false ∧
      p = { q with steps := q.steps.map (Step.adopt q.id) } := by
  unfold parse at h
  cases read : format.read text with
  | error fault => simp [read, Bind.bind, Except.bind] at h
  | ok v =>
    have value : ofValue v = .ok p := by simpa [read, Bind.bind, Except.bind] using h
    unfold ofValue at value
    split at value
    · cases value
    · rename_i q decoded
      split at value
      · cases value
      · rename_i named
        cases value
        exact ⟨v, q, rfl, decoded, by simpa using named, rfl⟩

theorem Program.fits_of_parse {format : ProgramFormat} {text : String}
    (h : parse format text = .ok p) : p.Fits Value.InOrder := by
  obtain ⟨v, q, read, decoded, -, rfl⟩ := parse_eq_ok h
  have fits := fits_of_decode? hereditary_inOrder (ProgramFormat.inOrder_of_read read) decoded
  refine { fits with steps := fun s mem => ?_ }
  obtain ⟨s, listed, rfl⟩ := List.mem_map.1 mem
  exact { fits.steps s listed with }

end

/-! ### Texts of programs -/

theorem legible_optionalEntry {α : Type} {room : Nat} {name : String} {encode : α → Value}
    {o : Option α} :
    (∀ e ∈ optionalEntry name encode o, e.2.Legible room) ↔ ∀ x ∈ o, (encode x).Legible room := by
  cases o <;> simp [optionalEntry]

section
variable {room : Nat}

theorem ExecutionPolicy.Fits.legible {e : ExecutionPolicy} (h : e.Fits) :
    e.encode.Legible (room + 1) := by
  have maxRetries : e.maxRetries ≤ maxCount64 := h.maxRetries.trans (by decide)
  simp [encode, Value.legible_ofNat, h.parallelLimit, h.timeoutSeconds, maxRetries,
    h.retryBackoffMs, Value.legible_ofNat? h.runDeadlineSeconds]

theorem Trigger.Fits.legible {t : Trigger} (h : t.Fits) : t.encode.Legible (room + 1) := by
  rw [encode, Value.legible_object]
  simp only [List.forall_mem_append, List.forall_mem_cons, legible_optionalEntry, Value.legible_text,
    implies_true, and_true, true_and]
  exact ⟨fun n mem => Value.legible_ofNat (h.delaySeconds n mem),
    fun n mem => Value.legible_ofNat (h.windowSeconds n mem)⟩

theorem Action.Fits.legible {a : Action} (h : a.Fits (Value.Legible room)) :
    a.encode.Legible (room + 1) := by
  simp [encode, h.params]

theorem Position.legible {p : Position} (x : (Json.Number.float p.x).Legible)
    (y : (Json.Number.float p.y).Legible) : p.encode.Legible (room + 1) := by
  simp [encode, Value.float, x, y]

theorem Step.Fits.legible {s : Step} (h : s.Fits (Value.Legible room))
    (drawn : ∀ q ∈ s.position, (Json.Number.float q.x).Legible ∧ (Json.Number.float q.y).Legible) :
    s.encode.Legible (room + 2) := by
  rw [encode, Value.legible_object]
  simp only [List.forall_mem_append, List.forall_mem_cons, legible_optionalEntry, Value.legible_text,
    Value.legible_bool, List.not_mem_nil, false_implies, implies_true, and_true, true_and]
  exact ⟨⟨⟨⟨h.trigger.legible, h.action.legible⟩,
    fun q mem => Position.legible (drawn q mem).1 (drawn q mem).2⟩, Value.legible_texts s.next⟩,
    fun n mem => Value.legible_ofNat (h.timeoutSeconds n mem)⟩

/-- The encoding of a program is legible when its parameters and its positions are. -/
theorem Program.Fits.legible {p : Program} (h : p.Fits (Value.Legible room))
    (drawn : ∀ s ∈ p.steps, ∀ q ∈ s.position,
      (Json.Number.float q.x).Legible ∧ (Json.Number.float q.y).Legible) :
    p.encode.Legible (room + 4) := by
  have version : p.version ≤ maxCount64 := h.version.trans (by decide)
  have steps := fun s mem => (h.steps s mem).legible (drawn s mem)
  simpa [encode, Value.legible_ofNat version, TrackingPolicy.encode, PersonalityPolicy.encode,
    h.execution.legible] using steps

end

/-- What was decoded is decoded again from its encoding, and what a text holds is held by its own
text, as long as that text is read as the value that it was printed from. -/
theorem Program.held_by_own_text :
    (∀ (v : Value) (p : Program), decode? v = some p → decode? p.encode = some p) ∧
    ∀ format text p, parse format text = .ok p →
      Json.parse? p.encode.print = some p.encode.ordered → parse .json p.encode.print = .ok p := by
  constructor
  · intro v p decoded
    exact (fits_of_decode? hereditary_id rfl decoded).decode?_encode Json.transparent_id
  · intro format text p parsed printed
    have fits := (fits_of_parse parsed).mono fun _ => Value.InOrder.ordered_eq
    have decoded : decode? p.encode.ordered = some p := fits.decode?_encode Json.transparent_ordered
    have read : ProgramFormat.json.read p.encode.print = .ok p.encode.ordered := by
      rw [ProgramFormat.read, printed]
      rfl
    obtain ⟨-, q, -, -, named, rfl⟩ := parse_eq_ok parsed
    simp [parse, read, Bind.bind, Except.bind, ofValue, decoded, named, Step.adopt_adopt]

/-- A value with a step of a type of its own, a trigger that is a list of its fields, and parameters
out of order. -/
def greeting : Value := .object [
  ("id", .text "welcome"),
  ("steps", .list [.object [
    ("id", .text "greet"),
    ("step_type", .text "party"),
    ("trigger", .list [.text "delayed"]),
    ("action", .object [("params", .object [("b", .list [.null, .int (-3)]), ("a", .int 1)])])]])]

def welcome : Program := {
  id := "welcome"
  steps := [{
    id := "greet"
    programId := "welcome"
    name := "greet"
    type := .custom "party"
    trigger := { type := .delayed }
    action := { params := .object [("a", .int 1), ("b", .list [.null, .int (-3)])] } }] }

theorem legible_small {room : Nat} {n : Int} (low : -9 ≤ n) (high : n ≤ 9) :
    (Value.int n).Legible room :=
  .number (Json.Number.legible_int (by omega) (by omega))

theorem parse_greeting : Program.parse .json greeting.print = .ok welcome := by
  have legible : greeting.Legible Json.maxNesting := by
    simp [greeting, Json.maxNesting, legible_small]
  have decoded : Program.ofValue greeting.ordered = .ok welcome := rfl
  simp [Program.parse, ProgramFormat.read, Json.parse?_print legible, decoded, Bind.bind,
    Except.bind]

theorem fits_welcome : welcome.Fits (Value.Legible 123) where
  version := by decide
  steps := by
    refine List.forall_mem_singleton.2 ⟨rfl, ⟨rfl, by simp, by simp⟩, ⟨rfl, ?_⟩, by simp⟩
    simp [legible_small]
  execution := by constructor <;> simp [welcome, maxCount64, maxCount32]

theorem welcome_held_by_own_text :
    (∃ p, Program.decode? greeting = some p ∧ Program.decode? p.encode = some p) ∧
    Program.parse .json greeting.print = .ok welcome ∧
    Program.parse .json welcome.encode.print = .ok welcome := by
  have decoded : ∃ p, Program.decode? greeting = some p := ⟨_, rfl⟩
  have read := Json.parse?_print (fits_welcome.legible (by simp [welcome]))
  obtain ⟨p, decoded⟩ := decoded
  exact ⟨⟨p, decoded, Program.held_by_own_text.1 greeting p decoded⟩, parse_greeting,
    Program.held_by_own_text.2 .json greeting.print welcome parse_greeting read⟩

end Playbook
