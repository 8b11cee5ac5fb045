import Playbook.Expression.Builtin
import Playbook.Proofs.Keyed

/-!
What an evaluation depends on. A tree sees its variables only through the names that it reads, so
environments of one instant that agree on these names give it one value or one error, provided that
the functions it calls do not look at the variables themselves.
-/
namespace Playbook.Expression

open Json (Value)

/-- The function gives the same answer whatever the variables are. -/
def Function.Blind (f : Function) : Prop :=
  ∀ (args : List Value) (vars vars' : List (String × Value)) (now : Instant),
    f.call args ⟨vars, now⟩ = f.call args ⟨vars', now⟩

/-- No function of the table looks at the variables. -/
def Evaluator.Blind (v : Evaluator) : Prop := ∀ f ∈ v.functions, f.2.Blind

theorem Expr.mem_ascending {name : String} {names : List String} :
    name ∈ ascending names ↔ name ∈ names := by
  rw [ascending, Keyed.mem_keys_ofList]
  simp [Keyed.keys]

theorem Expr.mem_identifiers {name : String} {e : Expr} :
    name ∈ e.identifiers ↔ name ∈ e.reads := mem_ascending

variable {v : Evaluator} {vars vars' : List (String × Value)} {now : Instant}

mutual

/-- Only the variables that a tree reads matter to it. -/
theorem eval_congr (blind : v.Blind) : ∀ e : Expr,
    (∀ name ∈ e.reads, Keyed.get? name vars = Keyed.get? name vars') →
    eval v.functions ⟨vars, now⟩ e = eval v.functions ⟨vars', now⟩ e
  | .variable name, agree => by
    unfold eval
    rw [agree name (List.mem_singleton_self name)]
  | .literal _, _ => by
    unfold eval
    rfl
  | .unary op e, agree => by
    unfold eval
    rw [eval_congr blind e agree]
  | .binary l op r, agree => by
    have left := eval_congr blind l fun name mem => agree name (List.mem_append_left _ mem)
    have right := eval_congr blind r fun name mem => agree name (List.mem_append_right _ mem)
    cases op <;> (unfold eval; rw [left, right])
  | .access t segment, agree => by
    unfold eval
    rw [eval_congr blind t agree]
  | .index t i, agree => by
    unfold eval
    rw [eval_congr blind t fun name mem => agree name (List.mem_append_left _ mem),
      eval_congr blind i fun name mem => agree name (List.mem_append_right _ mem)]
  | .call name args, agree => by
    have given := evalAll_congr blind args agree
    unfold eval
    split
    · rfl
    · rename_i f found
      rw [given]
      have same : ∀ values, f.call values ⟨vars, now⟩ = f.call values ⟨vars', now⟩ :=
        fun values => blind (name, f) (Keyed.mem_of_get? found) values vars vars' now
      simp only [same]

theorem evalAll_congr (blind : v.Blind) : ∀ es : List Expr,
    (∀ name ∈ Expr.readsAll es, Keyed.get? name vars = Keyed.get? name vars') →
    evalAll v.functions ⟨vars, now⟩ es = evalAll v.functions ⟨vars', now⟩ es
  | [], _ => by
    unfold evalAll
    rfl
  | e :: es, agree => by
    unfold evalAll
    rw [eval_congr blind e fun name mem => agree name (List.mem_append_left _ mem),
      evalAll_congr blind es fun name mem => agree name (List.mem_append_right _ mem)]

end

namespace Builtin

/-- The built-in functions look at their arguments and at the clock. -/
theorem blind_table {f : String × Function} (mem : f ∈ table) : f.2.Blind := by
  have given := Keyed.mem_of_mem_ofList mem
  simp only [List.mem_cons, List.not_mem_nil, or_false] at given
  rcases given with rfl | rfl | rfl | rfl | rfl | rfl | rfl | rfl | rfl | rfl | rfl <;>
    exact fun _ _ _ _ => rfl

end Builtin

theorem Evaluator.blind_builtin (limits : Limits) : (Evaluator.builtin limits).Blind :=
  fun _ => Builtin.blind_table

end Playbook.Expression
