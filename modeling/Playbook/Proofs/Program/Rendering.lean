import Playbook.Handler.Triggers
import Playbook.Proofs.Expression.Failure
import Playbook.Proofs.Program.Clean

/-!
The expressions of programs without blocking issues. The check of a program accepts every condition
as it is written, and the placeholders of the parameters without the blanks at their ends. Rendering
evaluates placeholders as they are written; so a placeholder that is accepted fails to parse only
where the blanks make it too long.
-/
namespace Playbook

open Json (Value)
open Expression (Evaluator Environment ExpressionError FailsOnly failsOnly_ok)

namespace Expression.Evaluator

/-- The error of a placeholder, listed without the blanks at its ends, that is within the limit
without them and not with them. -/
structure Overfull (v : Evaluator) (listed : List String) (e : ExpressionError) : Prop where
  error : e = .parse (.tooLong v.limits.maxLength)
  padded : ∃ text, Text.trim text ∈ listed ∧
    (Text.trim text).utf8ByteSize ≤ v.limits.maxLength ∧ v.limits.maxLength < text.utf8ByteSize

/-- How the rendering of accepted placeholders fails. -/
def MayFailToRender (v : Evaluator) (listed : List String) (e : ExpressionError) : Prop :=
  v.MayFail e ∨ v.Overfull listed e

variable {v : Evaluator} {env : Environment} {listed more : List String}

theorem MayFailToRender.mono {e : ExpressionError} (h : v.MayFailToRender listed e)
    (within : listed ⊆ more) : v.MayFailToRender more e := by
  refine h.imp_right fun ⟨error, text, mem, fits, long⟩ => ⟨error, text, within mem, fits, long⟩

/-- A text that is accepted without the blanks at its ends, evaluated as it is written. -/
theorem Accepts.evaluate_written {text : String} (h : v.Accepts (Text.trim text))
    (mem : Text.trim text ∈ listed) (env : Environment) :
    FailsOnly (v.MayFailToRender listed) (v.evaluate text env) := by
  rcases h.of_trim with accepted | ⟨long, failed⟩
  · exact (accepted.evaluate env).mono fun _ => .inl
  · obtain ⟨p, parsed, -⟩ := h
    obtain ⟨-, fits, -⟩ := parse_eq_ok_iff.1 (parse_eq_ok.1 parsed)
    rw [Evaluator.evaluate, failed]
    rintro e ⟨⟩
    exact .inr ⟨rfl, text, mem, fits, long⟩

end Expression.Evaluator

namespace Template

variable {v : Evaluator} {env : Environment} {listed : List String}

/-- Every placeholder among the pieces is listed and accepted, without the blanks at its ends. -/
def Checked (v : Evaluator) (listed : List String) (pieces : List Piece) : Prop :=
  ∀ text ∈ pieces.filterMap Piece.expression?, Text.trim text ∈ listed ∧ v.Accepts (Text.trim text)

theorem Checked.renderPieces {pieces : List Piece} (h : Checked v listed pieces) :
    FailsOnly (v.MayFailToRender listed) (renderPieces v env pieces) := by
  induction pieces with
  | nil => exact failsOnly_ok
  | cons piece rest ih =>
    cases piece with
    | literal text => exact (ih h).bind fun _ => failsOnly_ok
    | placeholder e =>
      obtain ⟨mem, accepted⟩ := h (String.ofList e) (by simp [Piece.expression?])
      have others : Checked v listed rest := fun text mem => h text (by
        simp only [List.filterMap_cons, Piece.expression?]
        exact List.mem_cons_of_mem _ mem)
      exact (accepted.evaluate_written mem env).bind fun _ => (ih others).bind fun _ => failsOnly_ok

theorem checked_split {s : String} (accepted : ∀ text ∈ placeholders s, v.Accepts text) :
    Checked v (placeholders s) (Piece.split s) := by
  intro text mem
  have listed : Text.trim text ∈ placeholders s := List.mem_map.2 ⟨text, mem, rfl⟩
  exact ⟨listed, accepted _ listed⟩

theorem failsOnly_renderText {s : String} (accepted : ∀ text ∈ placeholders s, v.Accepts text) :
    FailsOnly (v.MayFailToRender (placeholders s)) (renderText v env s) := by
  have checked := checked_split accepted
  unfold renderText
  split
  · rename_i e whole
    rw [whole] at checked
    obtain ⟨mem, accepted⟩ := checked (String.ofList e) (by simp [Piece.expression?])
    exact accepted.evaluate_written mem env
  · exact checked.renderPieces.bind fun _ => failsOnly_ok

mutual

/-- The rendering of a value all of whose placeholders are accepted. -/
theorem failsOnly_render : ∀ value : Value, (∀ text ∈ placeholdersIn value, v.Accepts text) →
    FailsOnly (v.MayFailToRender (placeholdersIn value)) (render v env value)
  | .text _, accepted => failsOnly_renderText accepted
  | .list items, accepted => (failsOnly_renderItems items accepted).bind fun _ => failsOnly_ok
  | .object entries, accepted =>
    (failsOnly_renderEntries entries accepted).bind fun _ => failsOnly_ok
  | .null, _ => failsOnly_ok
  | .bool _, _ => failsOnly_ok
  | .number _, _ => failsOnly_ok

theorem failsOnly_renderItems : ∀ items : List Value,
    (∀ text ∈ placeholdersInItems items, v.Accepts text) →
    FailsOnly (v.MayFailToRender (placeholdersInItems items)) (renderItems v env items)
  | [], _ => failsOnly_ok
  | value :: items, accepted => by
    have first := failsOnly_render value fun text mem => accepted text (List.mem_append_left _ mem)
    have others := failsOnly_renderItems items fun text mem =>
      accepted text (List.mem_append_right _ mem)
    refine FailsOnly.bind (first.mono fun e h => h.mono (List.subset_append_left ..)) fun _ => ?_
    refine FailsOnly.bind (others.mono fun e h => h.mono (List.subset_append_right ..)) fun _ => ?_
    exact failsOnly_ok

theorem failsOnly_renderEntries : ∀ entries : List (String × Value),
    (∀ text ∈ placeholdersInEntries entries, v.Accepts text) →
    FailsOnly (v.MayFailToRender (placeholdersInEntries entries)) (renderEntries v env entries)
  | [], _ => failsOnly_ok
  | (_, value) :: entries, accepted => by
    have first := failsOnly_render value fun text mem => accepted text (List.mem_append_left _ mem)
    have others := failsOnly_renderEntries entries fun text mem =>
      accepted text (List.mem_append_right _ mem)
    refine FailsOnly.bind (first.mono fun e h => h.mono (List.subset_append_left ..)) fun _ => ?_
    refine FailsOnly.bind (others.mono fun e h => h.mono (List.subset_append_right ..)) fun _ => ?_
    exact failsOnly_ok

end

end Template

/-! ### What the check of a program accepts -/

namespace Validation

/-- An expression without blocking findings is accepted: all findings about expressions block. -/
theorem accepts_of_expressionIssues {v : Evaluator} {id label text : String}
    (h : ∀ i ∈ expressionIssues v id label text, i.blocksExecution = false) : v.Accepts text := by
  unfold expressionIssues at h
  split at h
  · rename_i parsed found
    refine ⟨parsed, found, fun f called => ?_⟩
    by_cases known : v.hasFunction f = true
    · exact known
    · have blocks := h _ (List.mem_map.2 ⟨f, List.mem_filter.2 ⟨called, by simpa using known⟩, rfl⟩)
      cases blocks
  · have blocks := h _ (List.mem_singleton_self _)
    cases blocks

end Validation

namespace Program.Clean

variable {registry : Registry} {evaluator : Evaluator} {p : Program} {step : Step}

theorem stepIssues (h : p.Clean registry evaluator) (declared : step ∈ p.steps) :
    ∀ i ∈ Validation.stepIssues registry evaluator p.id step, i.blocksExecution = false :=
  fun i mem => h i (List.mem_append_right _ (List.mem_flatMap.2 ⟨step, declared, mem⟩))

/-- A condition-based step has a condition, and it is accepted. -/
theorem condition (h : p.Clean registry evaluator) (declared : step ∈ p.steps)
    (type : step.trigger.type = .conditionBased) :
    ∃ text, TriggerHandler.present? step.trigger.condition = some text ∧ evaluator.Accepts text := by
  have issues : ∀ i ∈ Validation.conditionIssues evaluator step, i.blocksExecution = false :=
    fun i mem => h.stepIssues declared i (by simp [Validation.stepIssues, mem])
  unfold Validation.conditionIssues at issues
  rw [if_pos type] at issues
  split at issues
  · rename_i text present
    exact ⟨text, present, Validation.accepts_of_expressionIssues issues⟩
  · have blocks := issues _ (List.mem_singleton_self _)
    cases blocks

/-- The placeholders of the parameters are accepted, without the blanks at their ends. -/
theorem placeholders (h : p.Clean registry evaluator) (declared : step ∈ p.steps) :
    ∀ text ∈ Template.placeholdersIn step.action.params, evaluator.Accepts text := by
  intro text listed
  have issues : ∀ i ∈ Validation.expressionIssues evaluator step.id "placeholder" text,
      i.blocksExecution = false := by
    intro i mem
    refine h.stepIssues declared i ?_
    simp only [Validation.stepIssues, List.mem_append]
    exact .inl (.inl (.inl (.inr (List.mem_flatMap.2 ⟨text, listed, mem⟩))))
  exact Validation.accepts_of_expressionIssues issues

end Program.Clean
end Playbook
