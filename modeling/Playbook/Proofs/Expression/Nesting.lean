import Playbook.Proofs.Expression.Path

/-!
How deep the tree of a text is. The limit on nesting does not bound the height of a tree, since
operators of one level and members one after the other make it grow to the left. It bounds how often
a way down the tree leaves the left side, and the limit on the length bounds the height; so the two
together bound how deep the calls are nested that look at each part of a tree.
-/
namespace Playbook.Expression

open Json (Value)

namespace Expr

/-- The part of a tree that stands on its left: a left operand, or what is accessed. -/
def left? : Expr → Option Expr
  | .binary l _ _ => some l
  | .access target _ => some target
  | .index target _ => some target
  | _ => none

/-- The other parts of a tree. -/
def inner : Expr → List Expr
  | .unary _ e => [e]
  | .binary _ _ r => [r]
  | .index _ i => [i]
  | .call _ args => args
  | _ => []

/-- The trees right below a tree. -/
def parts (e : Expr) : List Expr := e.left?.toList ++ e.inner

/-- A way down a tree in some steps from part to part, some of which do not go to the left. -/
inductive Descent : Expr → (steps turns : Nat) → Expr → Prop
  | here {e : Expr} : Descent e 0 0 e
  | along {e d low : Expr} {steps turns : Nat} (part : e.left? = some d)
      (onward : Descent d steps turns low) : Descent e (steps + 1) turns low
  | aside {e d low : Expr} {steps turns : Nat} (part : d ∈ e.inner)
      (onward : Descent d steps turns low) : Descent e (steps + 1) (turns + 1) low

/-! ### Heights -/

variable {e d low : Expr} {steps turns : Nat}

theorem height_pos (e : Expr) : 0 < e.height := by
  cases e <;> simp [height]

theorem height_le_heightAll {es : List Expr} (mem : d ∈ es) : d.height ≤ heightAll es := by
  induction es with
  | nil => cases mem
  | cons e es ih =>
    rw [heightAll]
    rcases List.mem_cons.1 mem with rfl | mem
    · exact Nat.le_max_left ..
    · exact (ih mem).trans (Nat.le_max_right ..)

theorem heightAll_le {es : List Expr} {bound : Nat} (h : ∀ e ∈ es, e.height ≤ bound) :
    heightAll es ≤ bound := by
  induction es with
  | nil => exact Nat.zero_le _
  | cons e es ih =>
    obtain ⟨first, others⟩ := List.forall_mem_cons.1 h
    exact Nat.max_le.2 ⟨first, ih others⟩

/-- A part is less high than the whole. -/
theorem height_lt_of_mem_parts (mem : d ∈ e.parts) : d.height < e.height := by
  cases e with
  | «variable» | literal => simp [parts, left?, inner] at mem
  | unary op e => simp_all [parts, left?, inner, height]
  | access target segment => simp_all [parts, left?, inner, height]
  | binary l op r =>
    simp only [parts, left?, inner, Option.toList, List.mem_append, List.mem_singleton] at mem
    rcases mem with rfl | rfl <;> simp only [height] <;> omega
  | index target i =>
    simp only [parts, left?, inner, Option.toList, List.mem_append, List.mem_singleton] at mem
    rcases mem with rfl | rfl <;> simp only [height] <;> omega
  | call name args =>
    simp only [parts, left?, inner, Option.toList, List.nil_append] at mem
    exact Nat.lt_succ_of_le (height_le_heightAll mem)

theorem Descent.lt_height (h : Descent e steps turns low) : steps < e.height := by
  induction h with
  | here => exact height_pos _
  | along part _ ih =>
    exact Nat.lt_of_le_of_lt ih (height_lt_of_mem_parts (by simp [parts, part]))
  | aside part _ ih =>
    exact Nat.lt_of_le_of_lt ih (height_lt_of_mem_parts (by simp [parts, part]))

end Expr

/-! ### Nested calls -/

/-- The function needs no more than so many calls inside each other for a tree: what calls further
in would answer does not matter. A call makes its answer from the answers for parts of the tree. -/
def WithinCalls {α : Type} (call : (Expr → α) → Expr → α) (f : Expr → α) (depth : Nat) (e : Expr) :
    Prop :=
  ∀ further, call^[depth] further e = f e

/-- Where the answers for the parts of a tree are enough, so are as many nested calls as the tree
is high. -/
theorem withinCalls_of_height {α : Type} {call : (Expr → α) → Expr → α} {f : Expr → α}
    (one : ∀ answer e, (∀ d ∈ e.parts, answer d = f d) → call answer e = f e) {depth : Nat}
    {e : Expr} (high : e.height ≤ depth) : WithinCalls call f depth e := by
  intro further
  induction depth generalizing e with
  | zero => exact absurd high (Nat.not_le.2 e.height_pos)
  | succ depth ih =>
    rw [Function.iterate_succ_apply']
    refine one _ e fun d mem => ih ?_
    exact Nat.le_of_lt_succ ((Expr.height_lt_of_mem_parts mem).trans_le high)

/-- One call of the evaluation of a tree. -/
def evalCall (functions : List (String × Function)) (env : Environment)
    (answer : Expr → Result Value) : Expr → Result Value
  | .variable name =>
    match Keyed.get? name env.variables with
    | some v => .ok v
    | none => .error (.unknownIdentifier name)
  | .literal v => .ok v
  | .unary op e => do applyUnary op (← answer e)
  | .binary l .and r => do
    if ← expectBool "AND" (← answer l) then applyBinary .and .null (← answer r)
    else .ok (.bool Bool.false)
  | .binary l .or r => do
    if ← expectBool "OR" (← answer l) then .ok (.bool Bool.true)
    else applyBinary .or .null (← answer r)
  | .binary l op r => do
    let a ← answer l
    let b ← answer r
    applyBinary op a b
  | .access t segment => do member t.describe (← answer t) segment
  | .index t i => do
    let v ← answer t
    let i ← answer i
    element t.describe v i i.print
  | .call name args =>
    match Keyed.get? name functions with
    | none => .error (.unknownFunction name)
    | some f =>
      if args.length ≠ f.arity then .error (.arity name f.arity args.length)
      else do f.call (← args.mapM answer) env

/-- One call of a collection of names from a tree. -/
def collectCall (own : Expr → List String) (answer : Expr → List String) (e : Expr) : List String :=
  own e ++ e.parts.flatMap answer

section
variable {functions : List (String × Function)} {env : Environment} {e : Expr}

theorem evalAll_eq_mapM {answer : Expr → Result Value} {es : List Expr}
    (same : ∀ e ∈ es, answer e = eval functions env e) :
    evalAll functions env es = es.mapM answer := by
  induction es with
  | nil => rfl
  | cons e es ih =>
    obtain ⟨first, others⟩ := List.forall_mem_cons.1 same
    rw [evalAll, List.mapM_cons, ih others, first]
    rfl

theorem evalCall_eq (answer : Expr → Result Value) (e : Expr)
    (same : ∀ d ∈ e.parts, answer d = eval functions env d) :
    evalCall functions env answer e = eval functions env e := by
  cases e with
  | «variable» | literal => rfl
  | unary op e => rw [evalCall, eval, same e (by simp [Expr.parts, Expr.inner])]
  | binary l op r =>
    have left := same l (by simp [Expr.parts, Expr.left?])
    have right := same r (by simp [Expr.parts, Expr.inner])
    cases op <;> simp only [evalCall, eval, left, right]
  | access t segment => rw [evalCall, eval, same t (by simp [Expr.parts, Expr.left?])]
  | index t i =>
    rw [evalCall, eval, same t (by simp [Expr.parts, Expr.left?]),
      same i (by simp [Expr.parts, Expr.inner])]
  | call name args =>
    have each : evalAll functions env args = args.mapM answer :=
      evalAll_eq_mapM fun d mem => same d (by simp [Expr.parts, Expr.inner, mem])
    rw [eval, each]
    rfl

end

/-- The name of the function that is called at the top of a tree. -/
def Expr.called : Expr → List String
  | .call name _ => [name]
  | _ => []

/-- The name of the variable that a tree is. -/
def Expr.named : Expr → List String
  | .variable name => [name]
  | _ => []

theorem callsAll_eq_flatMap (es : List Expr) : Expr.callsAll es = es.flatMap Expr.calls := by
  induction es with
  | nil => rfl
  | cons e es ih => rw [Expr.callsAll, ih, List.flatMap_cons]

theorem readsAll_eq_flatMap (es : List Expr) : Expr.readsAll es = es.flatMap Expr.reads := by
  induction es with
  | nil => rfl
  | cons e es ih => rw [Expr.readsAll, ih, List.flatMap_cons]

theorem collectCall_calls (answer : Expr → List String) (e : Expr)
    (same : ∀ d ∈ e.parts, answer d = d.calls) : collectCall Expr.called answer e = e.calls := by
  rw [collectCall, List.flatMap_congr same]
  cases e <;>
    simp [Expr.parts, Expr.left?, Expr.inner, Expr.called, Expr.calls, callsAll_eq_flatMap]

theorem collectCall_reads (answer : Expr → List String) (e : Expr)
    (same : ∀ d ∈ e.parts, answer d = d.reads) : collectCall Expr.named answer e = e.reads := by
  rw [collectCall, List.flatMap_congr same]
  cases e <;> simp [Expr.parts, Expr.left?, Expr.inner, Expr.named, Expr.reads, readsAll_eq_flatMap]

/-! ### Trees of phrases -/

section
variable {a : Phrase} {args : List Phrase}

/-- A call is nested deeper than its arguments. -/
theorem nesting_lt_callNesting (mem : a ∈ args) : a.nesting < callNesting args := by
  induction args with
  | nil => cases mem
  | cons b more ih =>
    rw [callNesting_cons]
    rcases List.mem_cons.1 mem with rfl | mem
    · exact Nat.le_max_left ..
    · exact (ih mem).trans_le (Nat.le_max_right ..)

theorem tokens_sublist_separated (mem : a ∈ args) : a.tokens.Sublist (separated args) := by
  induction args with
  | nil => cases mem
  | cons b more ih =>
    cases more with
    | nil =>
      cases List.mem_singleton.1 mem
      exact List.Sublist.refl _
    | cons c more =>
      rw [separated_cons_cons]
      rcases List.mem_cons.1 mem with rfl | mem
      · exact List.sublist_append_left ..
      · exact ((ih mem).cons _).trans (List.sublist_append_right ..)

end

/-- How often a phrase of a level can leave the left side without being nested. -/
def Level.turns : Level → Nat
  | .or => 5
  | .and => 4
  | .comparison => 3
  | .sum => 2
  | .product => 1
  | .operand | .access | .primary => 0

theorem Level.turns_of_next? {l l' : Level} (h : l.next? = some l') : l.turns = l'.turns + 1 := by
  cases l <;> cases h <;> rfl

namespace Derives

variable {l : Level} {ts : List Token} {e : Expr} {n : Nat}

/-- A way down the tree of a phrase leaves the left side at most six times for each nesting, and no
more than five times for the last one. -/
theorem turns_le (h : Derives l ts e n) {steps turns : Nat} {low : Expr}
    (way : Expr.Descent e steps turns low) : turns + 6 ≤ l.turns + 6 * n := by
  induction h generalizing steps turns low with
  | next level _ ih =>
    have looser := Level.turns_of_next? level
    have bound := ih way
    omega
  | @binary l l' left right t a b op m n level _ first second ihFirst ihSecond =>
    have looser := Level.turns_of_next? level
    have most := Nat.le_max_left m n
    have most' := Nat.le_max_right m n
    cases way with
    | here => have := first.one_le; omega
    | along part onward =>
      cases part
      have bound := ihFirst onward
      omega
    | aside part onward =>
      cases List.mem_singleton.1 part
      have bound := ihSecond onward
      omega
  | not inner ih | negate inner ih =>
    cases way with
    | here => have := inner.one_le; omega
    | along part => cases part
    | aside part onward =>
      cases List.mem_singleton.1 part
      have bound := ih onward
      simp only [Level.turns] at bound ⊢
      omega
  | operand _ ih => exact ih way
  | target _ ih => exact ih way
  | member target _ ih =>
    cases way with
    | here => have := target.one_le; omega
    | along part onward =>
      cases part
      exact ih onward
    | aside part => cases part
  | @index ts is e i m n target inner ihTarget ihInner =>
    have most := Nat.le_max_left m (n + 1)
    have most' := Nat.le_max_right m (n + 1)
    cases way with
    | here => have := target.one_le; omega
    | along part onward =>
      cases part
      have bound := ihTarget onward
      omega
    | aside part onward =>
      cases List.mem_singleton.1 part
      have bound := ihInner onward
      simp only [Level.turns] at bound ⊢
      omega
  | literal =>
    cases way with
    | here => simp
    | along part => cases part
    | aside part => cases part
  | «variable» =>
    cases way with
    | here => simp
    | along part => cases part
    | aside part => cases part
  | parens _ ih =>
    have bound := ih way
    simp only [Level.turns] at bound ⊢
    omega
  | @call name args each ih =>
    cases way with
    | here =>
      have most : 1 ≤ callNesting args := (@Derives.call name args each).one_le
      omega
    | along part => cases part
    | aside part onward =>
      obtain ⟨a, mem, rfl⟩ := List.mem_map.1 part
      have bound := ih a mem onward
      have most := nesting_lt_callNesting mem
      simp only [Level.turns] at bound ⊢
      omega

/-- Every step down the tree of a phrase is spelled by a token. -/
theorem height_le (h : Derives l ts e n) : e.height ≤ ts.length := by
  induction h with
  | next _ _ ih | operand _ ih | target _ ih => exact ih
  | binary _ _ _ _ ihFirst ihSecond =>
    simp only [Expr.height, List.length_append, List.length_cons]
    omega
  | not _ ih | negate _ ih => exact Nat.succ_le_succ ih
  | member _ _ ih =>
    simp only [Expr.height, List.length_append, List.length_cons, List.length_nil]
    omega
  | index _ _ ihTarget ihInner =>
    simp only [Expr.height, List.length_append, List.length_cons, List.length_nil]
    omega
  | literal | «variable» => exact Nat.le_refl 1
  | parens _ ih =>
    simp only [List.length_append, List.length_cons, List.length_nil]
    omega
  | @call name args each ih =>
    have most : Expr.heightAll (args.map Phrase.tree) ≤ (separated args).length := by
      refine Expr.heightAll_le fun e part => ?_
      obtain ⟨a, mem, rfl⟩ := List.mem_map.1 part
      exact (ih a mem).trans (tokens_sublist_separated mem).length_le
    simp only [Expr.height, List.length_append, List.length_cons, List.length_nil]
    omega

end Derives

/-! ### Trees of texts -/

/-- Every token takes a character. -/
theorem length_le_of_scanFrom {total fuel : Nat} {cs : List Char} {ts : List Token}
    (h : scanFrom total fuel cs = .ok ts) : ts.length ≤ fuel := by
  induction fuel generalizing cs ts with
  | zero =>
    cases h
    exact Nat.le_refl 0
  | succ fuel ih =>
    cases cs with
    | nil =>
      cases h
      exact Nat.zero_le _
    | cons c rest =>
      cases blank : Text.isBlank c with
      | true =>
        rw [scanFrom, if_pos blank] at h
        exact (ih h).trans (Nat.le_succ fuel)
      | false =>
        obtain ⟨t, left, more, -, others, rfl⟩ := exists_of_scanFrom h blank
        exact Nat.succ_le_succ (ih others)

theorem length_le_of_tokenize {source : String} {ts : List Token} (h : tokenize source = .ok ts) :
    ts.length ≤ source.length := by
  rw [← String.length_toList]
  exact length_le_of_scanFrom h

/-- The limit on nesting bounds how often a way down a tree leaves the left side. The height of the
tree is bounded by the length of its text, and so by the limit on that; and with as many nested
calls a tree is evaluated and its names are collected. -/
theorem limits_bound_descent {limits : Limits} {source : String} {p : Parsed}
    (h : parse limits source = .ok p) :
    (∀ steps turns low, Expr.Descent p.root steps turns low →
      turns < 6 * limits.maxDepth ∧ steps < source.length) ∧
    p.root.height ≤ source.length ∧ source.length ≤ limits.maxLength ∧
    ∀ depth, source.length ≤ depth →
      (∀ functions env,
        WithinCalls (evalCall functions env) (eval functions env) depth p.root) ∧
      WithinCalls (collectCall Expr.called) Expr.calls depth p.root ∧
      WithinCalls (collectCall Expr.named) Expr.reads depth p.root := by
  obtain ⟨-, short, -, ts, scanned, parsed⟩ := parse_eq_ok_iff.1 h
  obtain ⟨n, whole, bound⟩ := exists_derives_of_parseTokens parsed
  have height : p.root.height ≤ source.length :=
    whole.height_le.trans (length_le_of_tokenize scanned)
  refine ⟨fun steps turns low way => ⟨?_, way.lt_height.trans_le height⟩, height,
    (Text.length_le_utf8ByteSize source).trans short, fun depth enough => ?_⟩
  · have most := whole.turns_le way
    simp only [Level.turns] at most
    omega
  · have high := height.trans enough
    exact ⟨fun functions env => withinCalls_of_height evalCall_eq high,
      withinCalls_of_height collectCall_calls high, withinCalls_of_height collectCall_reads high⟩

theorem call_after_member_is_bounded : ∃ p, parse {} "mail.parts + count(calls)" = .ok p ∧
    Expr.Descent p.root 2 2 (.variable "calls") ∧ p.root.height ≤ 25 := by
  have tokens : tokenize "mail.parts + count(calls)" = .ok [.identifier "mail", .dot,
      .identifier "parts", .plus, .identifier "count", .lparen, .identifier "calls", .rparen] := by
    cbv
  have parsed : parse {} "mail.parts + count(calls)" = .ok ⟨"mail.parts + count(calls)",
      .binary (.access (.variable "mail") "parts") .add (.call "COUNT" [.variable "calls"])⟩ :=
    parse_eq_ok_iff.2 ⟨rfl, by decide +kernel, by decide +kernel, _, tokens, rfl⟩
  obtain ⟨-, height, -⟩ := limits_bound_descent parsed
  refine ⟨_, parsed, ?_, height⟩
  exact .aside (List.mem_singleton.2 rfl) (.aside (List.mem_singleton.2 rfl) .here)

theorem Expr.accesses_lt_height (e : Expr) : e.accesses < e.height := by
  fun_induction Expr.accesses e with
  | case1 target segment ih => exact Nat.succ_lt_succ ih
  | case2 e => exact e.height_pos

/-- With one level of nesting a tree may be of any height: members follow one another. -/
theorem depth_does_not_bound_height : ¬∃ bound : Nat → Nat, ∀ limits source p,
    parse limits source = .ok p → p.root.height ≤ bound limits.maxDepth := by
  rintro ⟨bound, bounds⟩
  have name (c : Char) (starts : isWordStart c = true)
      (plain : Text.asciiLower (String.ofList [c]) ∉
        ["true", "false", "null", "and", "or", "not"]) : IsName (String.ofList [c]) :=
    ⟨⟨c, [], String.toList_ofList, starts, nofun⟩, plain⟩
  have a : IsName "a" := name 'a' rfl (by decide +kernel)
  have b : IsName "b" := name 'b' rfl (by decide +kernel)
  let members := List.replicate (bound 1) (Segment.name "b")
  have valid : ∀ s ∈ members, s.Valid := fun s mem => (List.mem_replicate.1 mem).2 ▸ b
  have named : ∀ s ∈ members.dropLast, s.IsNamed := fun s mem =>
    (List.mem_replicate.1 (List.mem_of_mem_dropLast mem)).2 ▸ trivial
  have parsed : parse ⟨(pathText "a" members).utf8ByteSize, 1⟩ (pathText "a" members) =
      .ok ⟨pathText "a" members, path "a" members⟩ :=
    parse_eq_ok_iff.2 ⟨rfl, Nat.le_refl _, allBlank_pathText a, pathTokens "a" members,
      tokenize_pathText a valid named, (derives_path valid).parseTokens_eq 1⟩
  have high := Expr.accesses_lt_height (path "a" members)
  rw [accesses_path, List.length_replicate] at high
  exact absurd (bounds _ _ _ parsed) (Nat.not_le.2 high)

end Playbook.Expression
