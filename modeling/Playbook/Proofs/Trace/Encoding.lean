import Playbook.Proofs.Instant.Stamp
import Playbook.Proofs.Program.Codec
import Playbook.Trace.Event

/-!
Events that are written and read back. The fields of an event's kind stand in one object with its
own, under other keys; so both are found there again.
-/
namespace Playbook.Trace

open Json (Value Transparent Record)
open Json.Value (count32? count64? natUpTo?_ofNat nullable? choice? maxCount32 maxCount64)

/-- The counts of a kind fit their widths; the inputs of a condition have a property. -/
def EventKind.Fits (Q : Value → Prop) : EventKind → Prop
  | .runStarted _ version _ => version ≤ maxCount32
  | .conditionEvaluated _ inputs _ _ => Q (.object inputs)
  | .handlerReturned _ durationMs => durationMs ≤ maxCount64
  | .stepRetried _ nextDelayMs => nextDelayMs ≤ maxCount64
  | .stepCompleted _ durationMs => durationMs ≤ maxCount64
  | .stepFailed _ _ durationMs => durationMs ≤ maxCount64
  | .runCompleted _ _ elapsedMs => elapsedMs ≤ maxCount64
  | _ => True

/-- An event as it can be recorded: its counts fit their widths, and its instant has a date. -/
structure Event.Fits (Q : Value → Prop) (e : Event) : Prop where
  sequence : e.sequence ≤ maxCount64
  timestamp : e.timestamp.Proper
  attempt : ∀ n ∈ e.attempt, n ≤ maxCount32
  kind : e.kind.Fits Q

section
variable {Q R : Value → Prop} {k : EventKind} {e : Event}

theorem EventKind.Fits.mono (weaker : ∀ v, Q v → R v) (h : k.Fits Q) : k.Fits R := by
  cases k with
  | conditionEvaluated => exact weaker _ h
  | _ => exact h

theorem Event.Fits.mono (weaker : ∀ v, Q v → R v) (h : e.Fits Q) : e.Fits R :=
  { h with kind := h.kind.mono weaker }

end

/-! ### Variants -/

section
variable {f : Value → Value} {entries : List (String × Value)} {tag : String}
  {names : List String}

/-- The fields of an object, without defaults. -/
theorem exactRecord?_object (hf : Transparent f) (names : List String)
    (distinct : (Keyed.keys entries).Nodup) :
    ∃ r, exactRecord? names (f (.object entries)) = some r ∧
      ∀ name, r name = (Keyed.get? name entries).map f := by
  obtain ⟨entries', eq, found⟩ := hf.object distinct
  exact ⟨_, by rw [eq]; rfl, found⟩

/-- The variant that an object names, and its fields, which stand in the same object. -/
theorem tagged?_object (hf : Transparent f) (key : String)
    {variants : String → Option (List String)} (distinct : (Keyed.keys entries).Nodup)
    (tagged : Keyed.get? key entries = some (.text tag)) (known : variants tag = some names) :
    ∃ r, tagged? key variants (f (.object entries)) = some (tag, r) ∧
      ∀ name, r name = (Keyed.get? name entries).map f := by
  obtain ⟨entries', eq, found⟩ := hf.object distinct
  have text : Keyed.get? key entries' = some (.text tag) := by
    rw [found, tagged, Option.map_some, hf.text]
  refine ⟨fun name => Keyed.get? name entries', ?_, found⟩
  rw [eq]
  simp [tagged?, Value.get?, text, Value.text?, known, exactRecord?, Value.record?]

theorem decodeError?_encode (hf : Transparent f) (e : StepError) :
    decodeError? (f e.encode) = some e := by
  have distinct :
      (Keyed.keys [("kind", .text e.kind.name), ("message", Value.text e.message)]).Nodup := by
    simp [Keyed.keys]
  obtain ⟨r, fields, there⟩ := exactRecord?_object hf ["kind", "message"] distinct
  have kind : choice? StepErrorKind.ofName? (.text e.kind.name) = some e.kind := by
    cases e.kind <;> rfl
  simp [decodeError?, StepError.encode, fields, Record.required, there, Keyed.get?, hf.text, kind,
    Value.text?]

theorem decodeReason?_encode (hf : Transparent f) (reason : FailureReason) :
    decodeReason? (f reason.encode) = some reason := by
  cases reason with
  | stepFailed stepId =>
    have known : reasonFieldNames? "step_failed" = some ["step_id"] := rfl
    obtain ⟨r, fields, there⟩ := tagged?_object hf "kind"
      (show (Keyed.keys [("kind", .text "step_failed"), ("step_id", Value.text stepId)]).Nodup by
        simp [Keyed.keys]) rfl known
    simp [decodeReason?, FailureReason.encode, fields, Record.required, there, Keyed.get?, hf.text,
      Value.text?]
  | cancelled =>
    have known : reasonFieldNames? "cancelled" = some [] := rfl
    obtain ⟨r, fields, -⟩ := tagged?_object hf "kind"
      (show (Keyed.keys [("kind", Value.text "cancelled")]).Nodup by simp [Keyed.keys]) rfl known
    simp [decodeReason?, FailureReason.encode, fields]
  | deadlineExceeded =>
    have known : reasonFieldNames? "deadline_exceeded" = some [] := rfl
    obtain ⟨r, fields, -⟩ := tagged?_object hf "kind"
      (show (Keyed.keys [("kind", Value.text "deadline_exceeded")]).Nodup by simp [Keyed.keys]) rfl
      known
    simp [decodeReason?, FailureReason.encode, fields]
  | engineFault message =>
    have known : reasonFieldNames? "engine_fault" = some ["message"] := rfl
    obtain ⟨r, fields, there⟩ := tagged?_object hf "kind"
      (show (Keyed.keys [("kind", .text "engine_fault"), ("message", Value.text message)]).Nodup by
        simp [Keyed.keys]) rfl known
    simp [decodeReason?, FailureReason.encode, fields, Record.required, there, Keyed.get?, hf.text,
      Value.text?]

end

/-! ### Kinds -/

/-- The fields of an event beside those of its kind. -/
def headerNames : List String := ["run_id", "sequence", "timestamp", "step_id", "attempt", "type"]

namespace EventKind

/-- The fields of a kind are known, and none is named as a field of the event is. -/
theorem fieldNames?_name (k : EventKind) :
    ∃ names, fieldNames? k.name = some names ∧ (Keyed.keys k.fields).Sublist names ∧
      (headerNames ++ names).Nodup := by
  cases k with
  | conditionEvaluated =>
    refine ⟨_, rfl, ?_, by decide⟩
    simp only [fields, Keyed.keys, List.map_append]
    exact ((List.Sublist.refl ["expression", "inputs"]).append keys_optionalEntry).append
      keys_optionalEntry
  | stepSkipped => exact ⟨_, rfl, keys_optionalEntry.cons_cons "branch", by decide⟩
  | runCompleted =>
    refine ⟨_, rfl, ?_, by decide⟩
    simp only [fields, Keyed.keys, List.map_append, List.map_cons]
    exact (keys_optionalEntry.cons_cons "status").append (List.Sublist.refl ["elapsed_ms"])
  | _ => exact ⟨_, rfl, List.Sublist.refl _, by decide⟩

theorem get?_fields_of_header (k : EventKind) {name : String} (header : name ∈ headerNames) :
    Keyed.get? name k.fields = none := by
  obtain ⟨names, -, written, distinct⟩ := k.fieldNames?_name
  exact Keyed.get?_eq_none fun mem =>
    (List.nodup_append.1 distinct).2.2 name header name (written.subset mem) rfl

section
variable {f : Value → Value} {k : EventKind} {r : Record}

/-- A kind is read from its fields, which may stand among those of an event. -/
theorem Fits.ofRecord?_fields (hf : Transparent f) (h : k.Fits fun v => f v = v)
    (there : ∀ name ∉ headerNames, r name = (Keyed.get? name k.fields).map f) :
    ofRecord? k.name r = some k := by
  have header : headerNames = ["run_id", "sequence", "timestamp", "step_id", "attempt", "type"] := rfl
  cases k with
  | stepStarted | runCancelled => rfl
  | handlerInvoked | handlerError =>
    simp [ofRecord?, name, Record.required, there, header, fields, Keyed.get?, hf.text, Value.text?]
  | runStarted programId version strategy =>
    have version : version ≤ maxCount32 := h
    simp [ofRecord?, name, Record.required, there, header, fields, Keyed.get?, hf.text, hf.ofNat,
      Value.text?, count32?, natUpTo?_ofNat, version]
  | handlerReturned | stepCompleted =>
    replace h : _ ≤ maxCount64 := h
    simp [ofRecord?, name, Record.required, there, header, fields, Keyed.get?, hf.text, hf.ofNat,
      Value.text?, count64?, natUpTo?_ofNat, h]
  | stepRetried | stepFailed =>
    replace h : _ ≤ maxCount64 := h
    simp [ofRecord?, name, Record.required, there, header, fields, Keyed.get?, hf.text, hf.ofNat,
      Value.text?, count64?, natUpTo?_ofNat, h, decodeError?_encode hf]
  | conditionEvaluated expression inputs result error =>
    have inputs : f (.object inputs) = .object inputs := h
    simp only [fields, Keyed.get?_append, get?_optionalEntry, Keyed.get?] at there
    have error := read_text? (r := r) "error" hf (o := error) (by simp [there, header])
    have result : r.read "result" none (nullable? Value.bool?) = some result :=
      Record.read_optional (show _ = (result.map Value.bool).map f by simp [there, header])
        (fun b _ => by simp [hf.bool, Value.bool?]) rfl
    simp [ofRecord?, name, Record.required, there, header, hf.text, Value.text?, inputs,
      Value.entries?, result, error]
  | stepSkipped branch reason =>
    simp only [fields, get?_optionalEntry, Keyed.get?] at there
    have reason := read_text? (r := r) "reason" hf (o := reason) (by simp [there, header])
    simp [ofRecord?, name, Record.required, there, header, hf.text, Value.text?, reason]
  | runCompleted status reason elapsedMs =>
    have elapsedMs : elapsedMs ≤ maxCount64 := h
    have status : choice? RunStatus.ofName? (.text status.name) = some status := by
      cases status <;> rfl
    simp only [fields, Keyed.get?_append, get?_optionalEntry, Keyed.get?] at there
    have reason : r.read "failure_reason" none (nullable? decodeReason?) = some reason :=
      Record.read_optional (show _ = (reason.map FailureReason.encode).map f by simp [there, header])
        (fun reason _ => decodeReason?_encode hf reason) rfl
    simp [ofRecord?, name, Record.required, there, header, hf.text, hf.ofNat, status, reason,
      count64?, natUpTo?_ofNat, elapsedMs]

end
end EventKind

/-! ### Events -/

namespace Event

/-- The fields of an event and of its kind. -/
def entries (e : Event) : List (String × Value) :=
  [("run_id", .text e.runId), ("sequence", .ofNat e.sequence),
    ("timestamp", .text e.timestamp.formatStamp)] ++
  optionalEntry "step_id" .text e.stepId ++
  optionalEntry "attempt" .ofNat e.attempt ++
  ("type", .text e.kind.name) :: e.kind.fields

variable {f : Value → Value} {e : Event}

theorem encode_eq (e : Event) : e.encode = .object e.entries := rfl

theorem distinct_entries (e : Event) : (Keyed.keys e.entries).Nodup := by
  obtain ⟨names, -, written, distinct⟩ := e.kind.fieldNames?_name
  refine distinct.sublist ?_
  simp only [entries, Keyed.keys, List.map_append, List.map_cons]
  exact (((List.Sublist.refl ["run_id", "sequence", "timestamp"]).append
    keys_optionalEntry).append keys_optionalEntry).append (written.cons_cons "type")

/-- Under a name that is no event's own stands what the kind has under it. -/
theorem get?_entries_of_kind {name : String} (other : name ∉ headerNames) :
    Keyed.get? name e.entries = Keyed.get? name e.kind.fields := by
  simp only [headerNames, List.mem_cons, List.not_mem_nil, or_false, not_or, eq_comm (a := name)]
    at other
  simp [entries, Keyed.get?_append, get?_optionalEntry, Keyed.get?, other]

theorem get?_entries_of_header (e : Event) :
    Keyed.get? "run_id" e.entries = some (.text e.runId) ∧
      Keyed.get? "sequence" e.entries = some (.ofNat e.sequence) ∧
      Keyed.get? "timestamp" e.entries = some (.text e.timestamp.formatStamp) ∧
      Keyed.get? "step_id" e.entries = e.stepId.map .text ∧
      Keyed.get? "attempt" e.entries = e.attempt.map .ofNat ∧
      Keyed.get? "type" e.entries = some (.text e.kind.name) := by
  have stepId := e.kind.get?_fields_of_header (show "step_id" ∈ headerNames by decide)
  have attempt := e.kind.get?_fields_of_header (show "attempt" ∈ headerNames by decide)
  simp [entries, Keyed.get?_append, get?_optionalEntry, Keyed.get?, stepId, attempt]

/-- What is encoded is decoded, also by a reader that sees its objects as tables. -/
theorem Fits.decode?_encode (hf : Transparent f) (h : e.Fits fun v => f v = v) :
    decode? (f e.encode) = some e := by
  obtain ⟨runId, sequence, timestamp, stepId, attempt, type⟩ := e.get?_entries_of_header
  obtain ⟨names, known, -, -⟩ := e.kind.fieldNames?_name
  obtain ⟨r, tagged, inside⟩ := tagged?_object hf "type" e.distinct_entries type known
  have kind : EventKind.ofRecord? e.kind.name r = some e.kind :=
    h.kind.ofRecord?_fields hf fun name other => by rw [inside, get?_entries_of_kind other]
  have kindBack : EventKind.decode? (f (.object e.entries)) = some e.kind := by
    simp [EventKind.decode?, tagged, kind]
  obtain ⟨entries', eq, found⟩ := hf.object e.distinct_entries
  have there (name : String) :
      (f (.object e.entries)).get? name = (Keyed.get? name e.entries).map f := by
    rw [eq]
    exact found name
  have stepIdBack := read_text? (r := (f (.object e.entries)).get?) "step_id" hf
    ((there _).trans (by rw [stepId]))
  have attempt := read_count? (r := fun name => (f (.object e.entries)).get? name) "attempt" hf
    h.attempt ((there _).trans (by rw [attempt]))
  have stamp := Instant.parseLoose?_formatStamp h.timestamp
  simp [encode_eq, Event.decode?, Record.required, there "run_id", runId, there "sequence", sequence,
    there "timestamp", timestamp, hf.text, hf.ofNat, Value.text?, count64?, count32?, natUpTo?_ofNat,
    h.sequence, stamp, stepIdBack, attempt, kindBack]

end Event
end Playbook.Trace
