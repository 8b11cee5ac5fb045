import Playbook.Program.Codec
import Playbook.Proofs.Json.Record

/-!
Programs that are encoded and decoded. A program that was decoded has counts that fit, types that
are built in where their ids are, and parameters that were parts of the value; so its encoding is
decoded to it again.
-/
namespace Playbook

open Json (Value Transparent Record)
open Json.Value (count32? count64? natUpTo?_ofNat le_of_natUpTo? nullable?
  nullable?_ofNat? forall_of_nullable? listOf? listOf?_map forall_of_listOf? choice? maxCount32
  maxCount64)

section
variable {α : Type} {name : String} {encode : α → Value} {o : Option α}

theorem keys_optionalEntry : (Keyed.keys (optionalEntry name encode o)).Sublist [name] := by
  cases o with
  | none => exact List.nil_sublist _
  | some a => exact List.Sublist.refl _

theorem get?_optionalEntry (key : String) :
    Keyed.get? key (optionalEntry name encode o) = if name = key then o.map encode else none := by
  cases o <;> simp [optionalEntry, Keyed.get?]

end

/-! ### What was decoded -/

theorem StepType.id_ofId (s : String) : (ofId s).id = s := by
  unfold ofId
  cases found : builtin.find? fun t => t.id == s with
  | none => rfl
  | some t => simpa using List.find?_some found

theorem TriggerType.id_ofId (s : String) : (ofId s).id = s := by
  unfold ofId
  cases found : builtin.find? fun t => t.id == s with
  | none => rfl
  | some t => simpa using List.find?_some found

theorem ActionType.id_ofId (s : String) : (ofId s).id = s := by
  unfold ofId
  cases found : builtin.find? fun t => t.id == s with
  | none => rfl
  | some t => simpa using List.find?_some found

structure ExecutionPolicy.Fits (e : ExecutionPolicy) : Prop where
  parallelLimit : e.parallelLimit ≤ maxCount64
  timeoutSeconds : e.timeoutSeconds ≤ maxCount64
  maxRetries : e.maxRetries ≤ maxCount32
  retryBackoffMs : e.retryBackoffMs ≤ maxCount64
  runDeadlineSeconds : ∀ n ∈ e.runDeadlineSeconds, n ≤ maxCount64

structure Trigger.Fits (t : Trigger) : Prop where
  type : TriggerType.ofId t.type.id = t.type
  delaySeconds : ∀ n ∈ t.delaySeconds, n ≤ maxCount64
  windowSeconds : ∀ n ∈ t.windowSeconds, n ≤ maxCount64

structure Action.Fits (Q : Value → Prop) (a : Action) : Prop where
  type : ActionType.ofId a.type.id = a.type
  params : Q a.params

structure Step.Fits (Q : Value → Prop) (s : Step) : Prop where
  type : StepType.ofId s.type.id = s.type
  trigger : s.trigger.Fits
  action : s.action.Fits Q
  timeoutSeconds : ∀ n ∈ s.timeoutSeconds, n ≤ maxCount64

/-- What holds of a program that was decoded, with a property of its parameters. -/
structure Program.Fits (Q : Value → Prop) (p : Program) : Prop where
  version : p.version ≤ maxCount32
  steps : ∀ s ∈ p.steps, s.Fits Q
  execution : p.execution.Fits

/-! ### Encoded and decoded -/

section
variable {f : Value → Value} {s : Step} {p : Program}

theorem ExecutionPolicy.Fits.decode?_encode (hf : Transparent f) {e : ExecutionPolicy} (h : e.Fits) :
    decode? (f e.encode) = some e := by
  obtain ⟨r, fields, there⟩ :=
    hf.record? (rfl : e.encode = _) (List.Sublist.refl fieldNames) (by decide)
  have strategy : choice? Strategy.ofName? (.text e.strategy.name) = some e.strategy := by
    cases e.strategy <;> rfl
  simp [decode?, fields, Record.read, there, Keyed.get?, hf.text, hf.ofNat, hf.bool, hf.ofNat?,
    Value.bool?, count64?, count32?, natUpTo?_ofNat, strategy, h.parallelLimit, h.timeoutSeconds,
    h.maxRetries, h.retryBackoffMs, nullable?_ofNat? h.runDeadlineSeconds]

theorem TrackingPolicy.decode?_encode (hf : Transparent f) (t : TrackingPolicy) :
    decode? (f t.encode) = some t := by
  obtain ⟨r, fields, there⟩ := hf.record? (rfl : t.encode = _)
    (List.Sublist.refl ["enable_tracking", "store_debug_info"]) (by decide)
  simp [decode?, fields, Record.read, there, Keyed.get?, hf.bool, Value.bool?]

theorem PersonalityPolicy.decode?_encode (hf : Transparent f) (p : PersonalityPolicy) :
    decode? (f p.encode) = some p := by
  obtain ⟨r, fields, there⟩ := hf.record? (rfl : p.encode = _)
    (List.Sublist.refl ["enabled", "adaptation_level"]) (by decide)
  have level : choice? AdaptationLevel.ofName? (.text p.adaptationLevel.name) =
      some p.adaptationLevel := by
    cases p.adaptationLevel <;> rfl
  simp [decode?, fields, Record.read, there, Keyed.get?, hf.bool, hf.text, Value.bool?, level]

theorem Position.decode?_encode (hf : Transparent f) (p : Position) :
    decode? (f p.encode) = some p := by
  obtain ⟨r, fields, there⟩ := hf.record? (rfl : p.encode = _) (List.Sublist.refl ["x", "y"])
    (by decide)
  simp [decode?, fields, Record.required, there, Keyed.get?, hf.number, Value.float?, Value.float,
    Json.Number.toFloat]

section
variable {r : Record} (name : String)

theorem read_text? (hf : Transparent f) {o : Option String}
    (there : r name = (o.map Value.text).map f) :
    r.read name none (nullable? Value.text?) = some o := by
  refine Record.read_optional there (fun s _ => ?_) rfl
  rw [hf.text]
  rfl

theorem read_count? (hf : Transparent f) {limit : Nat} {o : Option Nat} (fits : ∀ n ∈ o, n ≤ limit)
    (there : r name = (o.map Value.ofNat).map f) :
    r.read name none (nullable? (Value.natUpTo? limit)) = some o := by
  refine Record.read_optional there (fun n mem => ?_) rfl
  rw [hf.ofNat]
  exact natUpTo?_ofNat (fits n mem)

end

theorem Trigger.Fits.decode?_encode (hf : Transparent f) {t : Trigger} (h : t.Fits) :
    decode? (f t.encode) = some t := by
  obtain ⟨r, fields, there⟩ := hf.record? (rfl : t.encode = _)
    (show (Keyed.keys _).Sublist fieldNames by
      simp only [Keyed.keys, List.map_append, List.map_cons]
      exact (((((keys_optionalEntry.cons_cons "type").append keys_optionalEntry).append
        keys_optionalEntry).append keys_optionalEntry).append keys_optionalEntry).append
        keys_optionalEntry)
    (by decide)
  simp only [Keyed.get?_append, get?_optionalEntry, Keyed.get?] at there
  have schedule := read_text? (r := r) "schedule" hf (o := t.schedule) (by simp [there])
  have at? := read_text? (r := r) "at" hf (o := t.at?) (by simp [there])
  have condition := read_text? (r := r) "condition" hf (o := t.condition) (by simp [there])
  have delaySeconds := read_count? (r := r) "delay_seconds" hf h.delaySeconds (by simp [there])
  have event := read_text? (r := r) "event" hf (o := t.event) (by simp [there])
  have windowSeconds := read_count? (r := r) "window_seconds" hf h.windowSeconds (by simp [there])
  have type : r "type" = some (.text t.type.id) := by simp [there, hf.text]
  simp [decode?, fields, schedule, at?, condition, count64?, delaySeconds, event, windowSeconds,
    Record.read_of_there type, Value.text?, h.type]

theorem Action.Fits.decode?_encode (hf : Transparent f) {a : Action}
    (h : a.Fits fun v => f v = v) : decode? (f a.encode) = some a := by
  obtain ⟨r, fields, there⟩ :=
    hf.record? (rfl : a.encode = _) (List.Sublist.refl fieldNames) (by decide)
  simp [decode?, fields, Record.read, there, Keyed.get?, hf.text, hf.bool, Value.bool?,
    Value.text?, h.type, h.params]

theorem read_position? {r : Record} (hf : Transparent f) {o : Option Position}
    (there : r "position" = (o.map Position.encode).map f) :
    r.read "position" none (nullable? Position.decode?) = some o :=
  Record.read_optional there (fun p _ => p.decode?_encode hf) rfl

theorem Step.Fits.decode?_encode (hf : Transparent f) (h : s.Fits fun v => f v = v) :
    decode? (f s.encode) = some s := by
  obtain ⟨r, fields, there⟩ := hf.record? (rfl : s.encode = _)
    (show (Keyed.keys _).Sublist fieldNames by
      simp only [Keyed.keys, List.map_append, List.map_cons, List.map_nil]
      exact ((((List.Sublist.refl ["id", "program_id", "name", "step_type", "trigger",
        "action"]).append keys_optionalEntry).append (List.Sublist.refl ["next"])).append
        keys_optionalEntry).append (List.Sublist.refl ["continue_on_failure"]))
    (by decide)
  simp only [Keyed.get?_append, get?_optionalEntry, Keyed.get?] at there
  have position := read_position? (r := r) hf (o := s.position) (by simp [there])
  have timeoutSeconds := read_count? (r := r) "timeout_seconds" hf h.timeoutSeconds
    (by simp [there])
  have next : listOf? Value.text? (.texts s.next) = some s.next := listOf?_map fun _ _ => rfl
  have trigger := h.trigger.decode?_encode hf
  have action := h.action.decode?_encode hf
  simp only [decode?, fields, position, count64?, timeoutSeconds, Option.bind_eq_bind, Option.bind_some]
  simp [Record.read, there, hf.text, hf.bool, hf.texts, Value.text?, Value.bool?, h.type, trigger,
    action, next]

theorem Program.Fits.decode?_encode (hf : Transparent f) (h : p.Fits fun v => f v = v) :
    decode? (f p.encode) = some p := by
  obtain ⟨r, fields, there⟩ :=
    hf.record? (rfl : p.encode = _) (List.Sublist.refl fieldNames) (by decide)
  have status : choice? ProgramStatus.ofName? (.text p.status.name) = some p.status := by
    cases p.status <;> rfl
  have steps : listOf? Step.decode? (f (.list (p.steps.map Step.encode))) = some p.steps := by
    rw [hf.list, List.map_map]
    exact listOf?_map fun s mem => (h.steps s mem).decode?_encode hf
  simp [decode?, fields, Record.read, there, Keyed.get?, hf.text, hf.ofNat, Value.text?, count32?,
    natUpTo?_ofNat, status, steps, h.version, h.execution.decode?_encode hf,
    TrackingPolicy.decode?_encode hf, PersonalityPolicy.decode?_encode hf]

end

/-! ### Decoded -/

/-- A property that passes from a value to the values in it, and that an object without entries
has. -/
structure Hereditary (Q : Value → Prop) : Prop where
  item {items : List Value} (h : Q (.list items)) : ∀ v ∈ items, Q v
  entry {entries : List (String × Value)} (h : Q (.object entries)) : ∀ e ∈ entries, Q e.2
  empty : Q (.object [])

section
variable {Q : Value → Prop} {v : Value}

theorem Hereditary.field (hQ : Hereditary Q) (h : Q v) {names : List String} {r : Record}
    (fields : v.record? names = some r) {name : String} {w : Value} (there : r name = some w) :
    Q w := by
  cases v with
  | object entries =>
    cases fields
    exact hQ.entry h _ (Keyed.mem_of_get? there)
  | list items =>
    rw [Value.record?, Option.ite_none_right_eq_some] at fields
    obtain ⟨-, same⟩ := fields
    cases same
    exact hQ.item h w (List.of_mem_zip (Keyed.mem_of_get? there)).2
  | _ => cases fields

/-- The id of a type that was read stands for that type. -/
theorem ofId_id_of_read {τ : Type} {ofId : String → τ} {id : τ → String} {r : Record}
    {name : String} {default t : τ} (id_ofId : ∀ s, id (ofId s) = s)
    (missing : ofId (id default) = default)
    (h : r.read name default (fun v => v.text?.map ofId) = some t) : ofId (id t) = t := by
  refine Record.read_satisfies (fun t => ofId (id t) = t) h missing fun v _ read => ?_
  obtain ⟨s, -, rfl⟩ := Option.map_eq_some_iff.1 read
  exact congrArg ofId (id_ofId s)

theorem ExecutionPolicy.fits_of_decode? {e : ExecutionPolicy} (h : decode? v = some e) : e.Fits := by
  simp only [decode?, Option.bind_eq_bind, Option.bind_eq_some_iff] at h
  obtain ⟨r, -, _, -, _, parallelLimit, _, timeoutSeconds, _, -, _, maxRetries, _, retryBackoffMs, _,
    runDeadlineSeconds, same⟩ := h
  cases same
  exact {
    parallelLimit := Record.read_le parallelLimit (by decide)
    timeoutSeconds := Record.read_le timeoutSeconds (by decide)
    maxRetries := Record.read_le maxRetries (by decide)
    retryBackoffMs := Record.read_le retryBackoffMs (by decide)
    runDeadlineSeconds := Record.forall_read_le runDeadlineSeconds }

theorem Trigger.fits_of_decode? {t : Trigger} (h : decode? v = some t) : t.Fits := by
  simp only [decode?, Option.bind_eq_bind, Option.bind_eq_some_iff] at h
  obtain ⟨r, -, _, type, _, -, _, -, _, -, _, delaySeconds, _, -, _, windowSeconds, same⟩ := h
  cases same
  exact {
    type := ofId_id_of_read TriggerType.id_ofId rfl type
    delaySeconds := Record.forall_read_le delaySeconds
    windowSeconds := Record.forall_read_le windowSeconds }

theorem Action.fits_of_decode? (hQ : Hereditary Q) (hv : Q v) {a : Action}
    (h : decode? v = some a) : a.Fits Q := by
  simp only [decode?, Option.bind_eq_bind, Option.bind_eq_some_iff] at h
  obtain ⟨r, fields, _, type, _, params, _, -, _, -, _, -, same⟩ := h
  cases same
  exact {
    type := ofId_id_of_read ActionType.id_ofId rfl type
    params := by
      refine Record.read_satisfies Q params hQ.empty fun v there same => ?_
      cases same
      exact hQ.field hv fields there }

theorem Step.fits_of_decode? (hQ : Hereditary Q) (hv : Q v) {s : Step}
    (h : decode? v = some s) : s.Fits Q := by
  simp only [decode?, Option.bind_eq_bind, Option.bind_eq_some_iff] at h
  obtain ⟨r, fields, _, -, _, -, _, -, _, type, _, trigger, _, action, _, -, _, -, _, timeoutSeconds,
    _, -, same⟩ := h
  cases same
  exact {
    type := ofId_id_of_read StepType.id_ofId rfl type
    trigger := Record.read_satisfies Trigger.Fits trigger ⟨rfl, by simp, by simp⟩ fun _ _ =>
      Trigger.fits_of_decode?
    action := Record.read_satisfies (Action.Fits Q) action ⟨rfl, hQ.empty⟩ fun _ there =>
      Action.fits_of_decode? hQ (hQ.field hv fields there)
    timeoutSeconds := Record.forall_read_le timeoutSeconds }

theorem Program.fits_of_decode? (hQ : Hereditary Q) (hv : Q v) {p : Program}
    (h : decode? v = some p) : p.Fits Q := by
  simp only [decode?, Option.bind_eq_bind, Option.bind_eq_some_iff] at h
  obtain ⟨r, fields, _, -, _, -, _, version, _, -, _, -, _, -, _, steps, _, execution, _, -, _, -,
    same⟩ := h
  cases same
  exact {
    version := Record.read_le version (by decide)
    steps := by
      refine Record.read_satisfies (fun steps => ∀ s ∈ steps, s.Fits Q) steps (by simp) fun w there read => ?_
      refine forall_of_listOf? read fun items list w mem s => ?_
      have listed := hQ.field hv fields there
      rw [list] at listed
      exact Step.fits_of_decode? hQ (hQ.item listed w mem)
    execution := Record.read_satisfies ExecutionPolicy.Fits execution
      (by constructor <;> simp [maxCount64, maxCount32]) fun _ _ => ExecutionPolicy.fits_of_decode? }

end

end Playbook
