import Playbook.Proofs.Expression.Blanks
import Playbook.Proofs.Expression.Reads
import Playbook.Proofs.Expression.Soundness

/-!
How evaluations fail. An expression that parses and calls known functions only comes to a value, or
fails because of the values it meets: a name that is not there, a value of the wrong kind, a wrong
number of arguments, a division by zero, or whatever a function answers. The blanks around an
expression can make it too long, and nothing else.
-/
namespace Playbook

theorem Text.asciiUpper_asciiUpper (s : String) : asciiUpper (asciiUpper s) = asciiUpper s := by
  simp [asciiUpper, Function.comp_def]

namespace Expression

open Json (Value)

variable {α β : Type} {P Q : ExpressionError → Prop} {functions : List (String × Function)}
  {env : Environment}

/-! ### Called functions -/

theorem Expr.mem_callsAll {name : String} {es : List Expr} :
    name ∈ Expr.callsAll es ↔ ∃ e ∈ es, name ∈ e.calls := by
  induction es with
  | nil => simp [Expr.callsAll]
  | cons e es ih => simp [Expr.callsAll, ih]

theorem Expr.mem_functions {name : String} {e : Expr} : name ∈ e.functions ↔ name ∈ e.calls :=
  mem_ascending

/-- The names of called functions are in upper case. -/
theorem Derives.upper {l : Level} {ts : List Token} {e : Expr} {n : Nat} (h : Derives l ts e n) :
    ∀ name ∈ e.calls, Text.asciiUpper name = name := by
  induction h with
  | next _ _ ih | operand _ ih | target _ ih | parens _ ih => exact ih
  | not _ ih | negate _ ih | member _ _ ih => exact ih
  | binary _ _ _ _ first second | index _ _ first second =>
    intro name mem
    exact (List.mem_append.1 mem).elim (first name) (second name)
  | literal | «variable» => nofun
  | @call name args _ ih =>
    intro called mem
    rcases List.mem_cons.1 mem with rfl | mem
    · exact Text.asciiUpper_asciiUpper name
    · obtain ⟨e, mem, inner⟩ := Expr.mem_callsAll.1 mem
      obtain ⟨a, given, rfl⟩ := List.mem_map.1 mem
      exact ih a given called inner

/-! ### Failures -/

/-- The error comes from the values that an evaluation meets. -/
def ExpressionError.OfValues : ExpressionError → Prop
  | .unknownIdentifier _ | .typeMismatch _ | .divisionByZero | .arity .. => True
  | .parse _ | .unknownFunction _ => False

/-- Every error has a property. -/
def FailsOnly (P : ExpressionError → Prop) (x : Result α) : Prop := ∀ e, x = .error e → P e

theorem failsOnly_ok {a : α} : FailsOnly P (.ok a : Result α) := nofun

theorem FailsOnly.bind {x : Result α} {f : α → Result β} (h : FailsOnly P x)
    (next : ∀ a, FailsOnly P (f a)) : FailsOnly P (x >>= f) := by
  cases x with
  | error e =>
    rintro _ ⟨⟩
    exact h e rfl
  | ok a => exact next a

theorem FailsOnly.mono {x : Result α} (h : FailsOnly P x) (weaker : ∀ e, P e → Q e) :
    FailsOnly Q x := fun e failed => weaker e (h e failed)

theorem failsOnly_mismatch {m : Mismatch} :
    FailsOnly ExpressionError.OfValues (mismatch m : Result α) := by
  rintro e ⟨⟩
  trivial

theorem failsOnly_expectBool {op : String} {v : Value} :
    FailsOnly ExpressionError.OfValues (expectBool op v) := by
  unfold expectBool
  split
  · exact failsOnly_ok
  · exact failsOnly_mismatch

theorem failsOnly_equal {l r : Value} : FailsOnly ExpressionError.OfValues (equal l r) := by
  unfold equal
  split <;> first | exact failsOnly_ok | exact failsOnly_mismatch

theorem failsOnly_order {l r : Value} : FailsOnly ExpressionError.OfValues (order l r) := by
  unfold order
  split <;> first | exact failsOnly_ok | exact failsOnly_mismatch

theorem failsOnly_numbers {op : String} {l r : Value} :
    FailsOnly ExpressionError.OfValues (numbers op l r) := by
  unfold numbers
  split <;> first | exact failsOnly_ok | exact failsOnly_mismatch

theorem failsOnly_applyUnary {op : UnaryOp} {v : Value} :
    FailsOnly ExpressionError.OfValues (applyUnary op v) := by
  cases op with
  | not => exact failsOnly_expectBool.bind fun _ => failsOnly_ok
  | negate =>
    simp only [applyUnary]
    split <;> first | exact failsOnly_ok | exact failsOnly_mismatch

theorem failsOnly_applyBinary {op : BinaryOp} {l r : Value} :
    FailsOnly ExpressionError.OfValues (applyBinary op l r) := by
  have arithmetic {op : String} {f : Float → Float → Float} :
      FailsOnly ExpressionError.OfValues (arithmetic op f l r) :=
    failsOnly_numbers.bind fun _ => failsOnly_ok
  cases op with
  | eq | notEq => exact failsOnly_equal.bind fun _ => failsOnly_ok
  | gt | gte | lt | lte => exact failsOnly_order.bind fun _ => failsOnly_ok
  | and | or => exact failsOnly_expectBool.bind fun _ => failsOnly_ok
  | add =>
    simp only [applyBinary]
    split
    · exact failsOnly_ok
    · exact arithmetic
  | sub | mul => exact arithmetic
  | div =>
    refine failsOnly_numbers.bind fun (a, b) => ?_
    dsimp only
    split
    · rintro e ⟨⟩
      trivial
    · exact failsOnly_ok

theorem failsOnly_unknownIdentifier {name : String} :
    FailsOnly ExpressionError.OfValues (.error (.unknownIdentifier name) : Result α) := by
  rintro e ⟨⟩
  trivial

theorem failsOnly_member {place segment : String} {v : Value} :
    FailsOnly ExpressionError.OfValues (member place v segment) := by
  unfold member
  split
  · split <;> first | exact failsOnly_ok | exact failsOnly_unknownIdentifier
  · split <;> first | exact failsOnly_ok | exact failsOnly_unknownIdentifier
  · exact failsOnly_mismatch

theorem failsOnly_element {place text : String} {v i : Value} :
    FailsOnly ExpressionError.OfValues (element place v i text) := by
  unfold element
  split
  · split <;> first | exact failsOnly_ok | exact failsOnly_unknownIdentifier
  · split <;> first | exact failsOnly_ok | exact failsOnly_unknownIdentifier
  · exact failsOnly_mismatch

theorem failsOnly_conditionOf {v : Value} :
    FailsOnly ExpressionError.OfValues (conditionOf v) := by
  unfold conditionOf
  split <;> first | exact failsOnly_ok | exact failsOnly_mismatch

/-- The error comes from the values that an evaluation meets, or a function of the table answers
it. -/
def Evaluator.MayFail (v : Evaluator) (e : ExpressionError) : Prop :=
  e.OfValues ∨ ∃ f ∈ v.functions, ∃ args env, f.2.call args env = .error e

/-- The evaluator parses the text, and knows the functions that it calls. -/
def Evaluator.Accepts (v : Evaluator) (text : String) : Prop :=
  ∃ parsed, v.parse text = .ok parsed ∧ ∀ f ∈ parsed.root.functions, v.hasFunction f = true

variable {v : Evaluator}

theorem FailsOnly.mayFail {x : Result α} (h : FailsOnly ExpressionError.OfValues x) :
    FailsOnly v.MayFail x := h.mono fun _ => .inl

mutual

/-- The evaluation of a tree that calls known functions only. -/
theorem eval_failsOnly : ∀ e : Expr,
    (∀ name ∈ e.calls, Keyed.contains name v.functions = true) →
    FailsOnly v.MayFail (eval v.functions env e)
  | .variable name, _ => by
    unfold eval
    split
    · exact failsOnly_ok
    · exact failsOnly_unknownIdentifier.mayFail
  | .literal _, _ => by
    unfold eval
    exact failsOnly_ok
  | .unary op e, known => by
    unfold eval
    exact (eval_failsOnly e known).bind fun _ => failsOnly_applyUnary.mayFail
  | .binary l op r, known => by
    have left := eval_failsOnly l fun name mem => known name (List.mem_append_left _ mem)
    have right := eval_failsOnly r fun name mem => known name (List.mem_append_right _ mem)
    cases op
    case and =>
      unfold eval
      refine left.bind fun _ => failsOnly_expectBool.mayFail.bind fun answer => ?_
      cases answer with
      | true => exact right.bind fun _ => failsOnly_applyBinary.mayFail
      | false => exact failsOnly_ok
    case or =>
      unfold eval
      refine left.bind fun _ => failsOnly_expectBool.mayFail.bind fun answer => ?_
      cases answer with
      | true => exact failsOnly_ok
      | false => exact right.bind fun _ => failsOnly_applyBinary.mayFail
    all_goals
      unfold eval
      exact left.bind fun _ => right.bind fun _ => failsOnly_applyBinary.mayFail
  | .access t segment, known => by
    unfold eval
    exact (eval_failsOnly t known).bind fun _ => failsOnly_member.mayFail
  | .index t i, known => by
    have target := eval_failsOnly t fun name mem => known name (List.mem_append_left _ mem)
    have inner := eval_failsOnly i fun name mem => known name (List.mem_append_right _ mem)
    unfold eval
    exact target.bind fun _ => inner.bind fun _ => failsOnly_element.mayFail
  | .call name args, known => by
    have given := evalAll_failsOnly args fun name mem => known name (List.mem_cons_of_mem _ mem)
    have found := known name (List.mem_cons_self ..)
    unfold eval
    split
    · rename_i missing
      simp [Keyed.contains, missing] at found
    · rename_i f found
      split
      · rintro e ⟨⟩
        exact .inl trivial
      · exact given.bind fun values e failed =>
          .inr ⟨(name, f), Keyed.mem_of_get? found, values, env, failed⟩

theorem evalAll_failsOnly : ∀ es : List Expr,
    (∀ name ∈ Expr.callsAll es, Keyed.contains name v.functions = true) →
    FailsOnly v.MayFail (evalAll v.functions env es)
  | [], _ => by
    unfold evalAll
    exact failsOnly_ok
  | e :: es, known => by
    have first := eval_failsOnly e fun name mem => known name (List.mem_append_left _ mem)
    have others := evalAll_failsOnly es fun name mem => known name (List.mem_append_right _ mem)
    unfold evalAll
    exact first.bind fun _ => others.bind fun _ => failsOnly_ok

end

namespace Evaluator

variable {text : String} {p : Parsed}

theorem parse_eq_ok : v.parse text = .ok p ↔ Expression.parse v.limits text = .ok p := by
  rw [Evaluator.parse]
  cases Expression.parse v.limits text with
  | error cause => exact ⟨nofun, nofun⟩
  | ok parsed =>
    constructor <;> exact fun h => congrArg _ (Except.ok.inj h)

/-- A function is known under the name that a parsed tree has for it. -/
theorem contains_of_hasFunction (parsed : v.parse text = .ok p) {name : String}
    (called : name ∈ p.root.calls) (known : v.hasFunction name = true) :
    Keyed.contains name v.functions = true := by
  obtain ⟨-, -, -, ts, -, whole⟩ := parse_eq_ok_iff.1 (parse_eq_ok.1 parsed)
  obtain ⟨n, derives, -⟩ := exists_derives_of_parseTokens whole
  rwa [hasFunction, derives.upper name called] at known

/-- An accepted text evaluates, or fails because of the values that it meets. -/
theorem Accepts.evaluate (h : v.Accepts text) (env : Environment) :
    FailsOnly v.MayFail (v.evaluate text env) := by
  obtain ⟨p, parsed, known⟩ := h
  rw [Evaluator.evaluate, parsed]
  exact eval_failsOnly p.root fun name called =>
    contains_of_hasFunction parsed called (known name (Expr.mem_functions.2 called))

theorem Accepts.evaluateCondition (h : v.Accepts text) (env : Environment) :
    FailsOnly v.MayFail (v.evaluateCondition text env) :=
  (h.evaluate env).bind fun _ => failsOnly_conditionOf.mayFail

/-- A text that is accepted without the blanks at its ends is accepted with them, unless it is too
long with them. -/
theorem Accepts.of_trim (h : v.Accepts (Text.trim text)) : v.Accepts text ∨
    v.limits.maxLength < text.utf8ByteSize ∧
      v.parse text = .error (.parse (.tooLong v.limits.maxLength)) := by
  obtain ⟨p, parsed, known⟩ := h
  have padded := parse_of_trim (parse_eq_ok.1 parsed)
  by_cases long : v.limits.maxLength < text.utf8ByteSize
  · rw [if_pos long] at padded
    exact .inr ⟨long, by rw [Evaluator.parse, padded]; rfl⟩
  · rw [if_neg long] at padded
    exact .inl ⟨_, parse_eq_ok.2 padded, known⟩

end Evaluator

/-! ### The built-in functions -/

namespace Builtin

theorem failsOnly_stringArg {function : String} {v : Value} :
    FailsOnly ExpressionError.OfValues (stringArg function v) := by
  unfold stringArg
  split <;> first | exact failsOnly_ok | exact failsOnly_mismatch

theorem failsOnly_numericItems {function : String} {v : Value} :
    FailsOnly ExpressionError.OfValues (numericItems function v) := by
  unfold numericItems
  split
  · rename_i items
    induction items with
    | nil => exact failsOnly_ok
    | cons item items ih =>
      rw [List.mapM_cons]
      refine FailsOnly.bind ?_ fun _ => ih.bind fun _ => failsOnly_ok
      split <;> first | exact failsOnly_ok | exact failsOnly_mismatch
  · exact failsOnly_mismatch

theorem failsOnly_count {v : Value} : FailsOnly ExpressionError.OfValues (count v) := by
  unfold count
  split <;> first | exact failsOnly_ok | exact failsOnly_mismatch

theorem failsOnly_daysAgo {now : Instant} {v : Value} :
    FailsOnly ExpressionError.OfValues (daysAgo now v) := by
  unfold daysAgo
  split
  · exact failsOnly_mismatch
  · split <;> first | exact failsOnly_ok | exact failsOnly_mismatch

theorem failsOnly_containsValue {within wanted : Value} :
    FailsOnly ExpressionError.OfValues (containsValue within wanted) := by
  unfold containsValue
  split <;> first | exact failsOnly_ok | exact failsOnly_mismatch

theorem failsOnly_matchesPattern {s p : Value} :
    FailsOnly ExpressionError.OfValues (matchesPattern s p) := by
  refine failsOnly_stringArg.bind fun _ => failsOnly_stringArg.bind fun _ => ?_
  split <;> first | exact failsOnly_ok | exact failsOnly_mismatch

/-- The built-in functions fail because of their arguments only. -/
theorem failsOnly_call {f : String × Function} (mem : f ∈ table) (args : List Value)
    (env : Environment) : FailsOnly ExpressionError.OfValues (f.2.call args env) := by
  have given := Keyed.mem_of_mem_ofList mem
  simp only [List.mem_cons, List.not_mem_nil, or_false] at given
  rcases given with rfl | rfl | rfl | rfl | rfl | rfl | rfl | rfl | rfl | rfl | rfl
  · exact failsOnly_count
  · exact failsOnly_numericItems.bind fun _ => failsOnly_ok
  · exact failsOnly_numericItems.bind fun _ => failsOnly_ok
  · exact failsOnly_numericItems.bind fun _ => failsOnly_ok
  · exact failsOnly_numericItems.bind fun _ => failsOnly_ok
  · exact failsOnly_ok
  · exact failsOnly_daysAgo
  · exact failsOnly_stringArg.bind fun _ => failsOnly_ok
  · exact failsOnly_stringArg.bind fun _ => failsOnly_ok
  · exact failsOnly_containsValue
  · exact failsOnly_matchesPattern

end Builtin

theorem Evaluator.mayFail_builtin {limits : Limits} {e : ExpressionError} :
    (Evaluator.builtin limits).MayFail e ↔ e.OfValues := by
  refine ⟨fun h => h.elim id ?_, .inl⟩
  rintro ⟨f, mem, args, env, failed⟩
  exact Builtin.failsOnly_call mem args env e failed

end Expression
end Playbook
