import Playbook.Proofs.Json.Line
import Playbook.Proofs.Program.RoundTrip
import Playbook.Proofs.Trace.Encoding
import Playbook.Trace.Recorder

/-!
Trace files. Each event that is written is one more line, whatever its texts hold, and reading the
lines gives the events in the order in which they were written.
-/
namespace Playbook.Trace

open Json (Value)
open Json.Value (Legible legible_ofNat maxCount64)

/-! ### Texts of events -/

section
variable {room : Nat}

theorem legible_error (e : StepError) : e.encode.Legible (room + 1) := by
  simp [StepError.encode]

theorem legible_reason (reason : FailureReason) : reason.encode.Legible (room + 1) := by
  cases reason <;> simp [FailureReason.encode]

theorem EventKind.Fits.legible {k : EventKind} (h : k.Fits (Legible (room + 1))) :
    ∀ e ∈ k.fields, e.2.Legible (room + 1) := by
  cases k with
  | stepStarted | runCancelled | handlerInvoked | handlerError => simp [fields]
  | runStarted _ version =>
    have version : version ≤ maxCount64 := h.trans (by decide)
    simp [fields, legible_ofNat version]
  | handlerReturned | stepCompleted =>
    replace h : _ ≤ maxCount64 := h
    simp [fields, legible_ofNat h]
  | stepRetried | stepFailed =>
    replace h : _ ≤ maxCount64 := h
    simp [fields, legible_ofNat h, legible_error]
  | conditionEvaluated expression inputs =>
    have inputs : (Value.object inputs).Legible (room + 1) := h
    simp only [fields, List.forall_mem_append, List.forall_mem_cons, legible_optionalEntry]
    simp [inputs]
  | stepSkipped =>
    simp only [fields, List.forall_mem_cons, legible_optionalEntry]
    simp
  | runCompleted =>
    replace h : _ ≤ maxCount64 := h
    simp only [fields, List.forall_mem_append, List.forall_mem_cons, legible_optionalEntry]
    simp [legible_ofNat h, legible_reason]

theorem Event.Fits.legible {e : Event} (h : e.Fits (Legible (room + 1))) :
    e.encode.Legible (room + 2) := by
  have attempt : ∀ n ∈ e.attempt, (Value.ofNat n).Legible (room + 1) := fun n mem =>
    legible_ofNat ((h.attempt n mem).trans (by decide))
  rw [encode, Json.Value.legible_object]
  simp only [List.forall_mem_append, List.forall_mem_cons, legible_optionalEntry,
    Json.Value.legible_text, List.not_mem_nil, false_implies, implies_true, and_true, true_and]
  exact ⟨⟨legible_ofNat h.sequence, attempt⟩, h.kind.legible⟩

end

/-! ### Lines of a file -/

section
variable {text : String}

/-- An event that is written after whole lines is one more line. -/
theorem Sink.write_file (whole : Text.Whole text) (e : Event) :
    ∃ text', (Sink.file text).write e = .file text' ∧ Text.Whole text' ∧
      Text.lines text' = Text.lines text ++ [e.encode.print] := by
  refine ⟨_, rfl, .inr ⟨_, rfl⟩, ?_⟩
  rw [String.append_assoc, Text.lines_append whole]
  exact congrArg (Text.lines text ++ ·) (Text.lines_of_unbroken e.encode.unbroken_print)

theorem Sink.lines_writes (whole : Text.Whole text) (events : List Event) :
    (events.foldl Sink.write (.file text)).lines =
      Text.lines text ++ events.map fun e => e.encode.print := by
  induction events generalizing text with
  | nil => simp [Sink.lines]
  | cons e rest ih =>
    obtain ⟨text', written, whole', lines⟩ := Sink.write_file whole e
    rw [List.foldl_cons, written, ih whole', lines]
    simp

end

/-- The line of an event is read as the event, when the inputs in it can be. -/
theorem Event.Fits.decode?_parse {e : Event}
    (h : e.Fits fun v => v.InOrder ∧ v.Legible (Json.maxNesting - 1)) :
    (Json.parse? e.encode.print).bind decode? = some e := by
  have legible : e.encode.Legible Json.maxNesting := (h.mono fun _ => And.right).legible
  have ordered := (h.mono fun _ both => both.1.ordered_eq).decode?_encode Json.transparent_ordered
  rw [Json.parse?_print legible]
  exact ordered

/-- An event is decoded from what it is encoded to, also when its objects are made tables. Its text
is one line, so the lines of a file are those of the events written to it, one after the other; and
each is read as its event, as long as the inputs of conditions are read back from their texts. -/
theorem Event.kept_in_file :
    (∀ e : Event, e.Fits (fun _ => True) → decode? e.encode = some e) ∧
    (∀ e : Event, e.Fits Value.InOrder → decode? e.encode.ordered = some e) ∧
    (∀ e : Event, '\n' ∉ e.encode.print.toList ∧ '\r' ∉ e.encode.print.toList) ∧
    (∀ text (events : List Event), Text.Whole text → (events.foldl Sink.write (.file text)).lines =
      (Sink.file text).lines ++ events.map fun e => e.encode.print) ∧
    ∀ events : List Event,
      (∀ e ∈ events, e.Fits fun v => v.InOrder ∧ v.Legible (Json.maxNesting - 1)) →
      ((events.foldl Sink.write (.file "")).lines.map fun line =>
        (Json.parse? line).bind decode?) = events.map some := by
  refine ⟨fun e h => ?_, fun e h => ?_, fun e => e.encode.unbroken_print.not_mem,
    fun text events whole => Sink.lines_writes whole events, fun events h => ?_⟩
  · exact (h.mono fun _ _ => rfl).decode?_encode Json.transparent_id
  · exact (h.mono fun _ => Value.InOrder.ordered_eq).decode?_encode Json.transparent_ordered
  · have written := Sink.lines_writes (.inl rfl : Text.Whole "") events
    rw [written, show Text.lines "" = [] from rfl, List.nil_append, List.map_map]
    refine List.map_congr_left fun e mem => ?_
    rw [Function.comp_apply]
    exact (h e mem).decode?_parse

/-- Events whose texts hold line ends and quotes: a condition that is evaluated, the leap second of
a step that fails, and the end of the run. -/
def unruly : List Event := [
  ⟨"run\n\"1\"", 1, ⟨1700000000, 5000000⟩, some "a\r\nb", some 2, .conditionEvaluated "x\n> 1"
    [("n\n", .text "\r"), ("x", .int (-3))] (some true) none⟩,
  ⟨"run\n\"1\"", 2, ⟨1483228799, 1500000000⟩, none, none,
    .stepFailed "not\ntaken" (.handler "line 1\nline 2") 7⟩,
  ⟨"run\n\"1\"", 3, ⟨-62167219201, 0⟩, none, none,
    .runCompleted .failed (some (.stepFailed "a\r\nb")) 12⟩]

theorem fits_unruly : ∀ e ∈ unruly, e.Fits fun v => v.InOrder ∧ v.Legible (Json.maxNesting - 1) := by
  have inputs : Keyed.Ascending [("n\n", Value.text "\r"), ("x", .int (-3))] :=
    List.pairwise_pair.2 (by decide)
  have inOrder : (Value.object [("n\n", .text "\r"), ("x", .int (-3))]).InOrder :=
    .object inputs (by simp [Value.int, Value.InOrder.text, Value.InOrder.number])
  have legible : (Value.object [("n\n", .text "\r"), ("x", .int (-3))]).Legible
      (Json.maxNesting - 1) := .object (by simp [legible_small])
  simp only [unruly, List.forall_mem_cons, List.not_mem_nil, false_implies, implies_true, and_true]
  exact ⟨⟨by decide, ⟨by decide, by decide⟩, by decide, inOrder, legible⟩,
    ⟨by decide, ⟨by decide, by decide⟩, by decide, show 7 ≤ maxCount64 by decide⟩,
    ⟨by decide, ⟨by decide, by decide⟩, by decide, show 12 ≤ maxCount64 by decide⟩⟩

theorem unruly_kept_in_file :
    (unruly.map fun e => Event.decode? e.encode) = unruly.map some ∧
    (unruly.map fun e => Event.decode? e.encode.ordered) = unruly.map some ∧
    (unruly.foldl Sink.write (.file "[]\n")).lines = "[]" :: unruly.map (fun e => e.encode.print) ∧
    (unruly.foldl Sink.write (.file "")).lines.map (fun line =>
      (Json.parse? line).bind Event.decode?) = unruly.map some := by
  have whole : Text.Whole "[]\n" := .inr ⟨"[]", rfl⟩
  refine ⟨List.map_congr_left fun e mem => ?_, List.map_congr_left fun e mem => ?_, ?_, ?_⟩
  · exact Event.kept_in_file.1 e ((fits_unruly e mem).mono fun _ _ => trivial)
  · exact Event.kept_in_file.2.1 e ((fits_unruly e mem).mono fun _ => And.left)
  · exact (Event.kept_in_file.2.2.2.1 _ unruly whole).trans (by rfl)
  · exact Event.kept_in_file.2.2.2.2 unruly fits_unruly

end Playbook.Trace
