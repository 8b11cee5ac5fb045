import Playbook.Expression.Parser

/-!
The grammar of expressions. Its levels are, from the loosest to the tightest: `OR`, `AND`,
comparisons, sums, products, operands with prefix operators, member access, and primary phrases.
Binary operators group to the left. A phrase has a nesting: one more than the parentheses, index
brackets, argument lists and prefix operators around its deepest point.
-/
namespace Playbook.Expression

inductive Level where
  | or | and | comparison | sum | product | operand | access | primary
  deriving DecidableEq, Repr

namespace Level

/-- The level of the operands, for a level of binary operators. -/
def next? : Level → Option Level
  | .or => some .and
  | .and => some .comparison
  | .comparison => some .sum
  | .sum => some .product
  | .product => some .operand
  | .operand | .access | .primary => none

/-- The binary operators of a level. -/
def op? : Level → Token → Option BinaryOp
  | .or => orOp?
  | .and => andOp?
  | .comparison => comparisonOp?
  | .sum => sumOp?
  | .product => productOp?
  | .operand | .access | .primary => fun _ => none

end Level

/-- The value of a literal; a number has to be finite. -/
def literal? : Token → Option Json.Value
  | .true => some (.bool Bool.true)
  | .false => some (.bool Bool.false)
  | .null => some .null
  | .number x =>
    match Decimal.Binary.ofFloat x with
    | .finite .. => some (.float x)
    | _ => none
  | .string s => some (.text s)
  | _ => none

/-- Tokens that spell a tree, and how deep they are nested. -/
structure Phrase where
  tokens : List Token
  tree : Expr
  nesting : Nat

/-- Arguments with commas between them. -/
def separated : List Phrase → List Token
  | [] => []
  | [a] => a.tokens
  | a :: more => a.tokens ++ .comma :: separated more

/-- How deep a call is nested: one level, and one more than its arguments. -/
def callNesting (args : List Phrase) : Nat := args.foldr (fun a n => max (a.nesting + 1) n) 1

/-- The tokens that spell a tree at a level, with their nesting. -/
inductive Derives : Level → List Token → Expr → Nat → Prop
  | next {l l' : Level} {ts : List Token} {e : Expr} {n : Nat} (level : l.next? = some l')
      (whole : Derives l' ts e n) : Derives l ts e n
  | binary {l l' : Level} {left right : List Token} {t : Token} {a b : Expr} {op : BinaryOp}
      {m n : Nat} (level : l.next? = some l') (operator : l.op? t = some op)
      (first : Derives l left a m) (second : Derives l' right b n) :
      Derives l (left ++ t :: right) (.binary a op b) (max m n)
  | not {ts : List Token} {e : Expr} {n : Nat} (inner : Derives .operand ts e n) :
      Derives .operand (.not :: ts) (.unary .not e) (n + 1)
  | negate {ts : List Token} {e : Expr} {n : Nat} (inner : Derives .operand ts e n) :
      Derives .operand (.minus :: ts) (.unary .negate e) (n + 1)
  | operand {ts : List Token} {e : Expr} {n : Nat} (whole : Derives .access ts e n) :
      Derives .operand ts e n
  | member {ts : List Token} {e : Expr} {n : Nat} {t : Token} {segment : String}
      (target : Derives .access ts e n) (name : memberName? t = some segment) :
      Derives .access (ts ++ [.dot, t]) (.access e segment) n
  | index {ts is : List Token} {e i : Expr} {m n : Nat} (target : Derives .access ts e m)
      (inner : Derives .or is i n) :
      Derives .access (ts ++ .lbracket :: (is ++ [.rbracket])) (.index e i) (max m (n + 1))
  | target {ts : List Token} {e : Expr} {n : Nat} (whole : Derives .primary ts e n) :
      Derives .access ts e n
  | literal {t : Token} {v : Json.Value} (value : literal? t = some v) :
      Derives .primary [t] (.literal v) 1
  | variable {name : String} : Derives .primary [.identifier name] (.variable name) 1
  | parens {ts : List Token} {e : Expr} {n : Nat} (inner : Derives .or ts e n) :
      Derives .primary (.lparen :: (ts ++ [.rparen])) e (n + 1)
  | call {name : String} {args : List Phrase}
      (each : ∀ a ∈ args, Derives .or a.tokens a.tree a.nesting) :
      Derives .primary (.identifier name :: .lparen :: (separated args ++ [.rparen]))
        (.call (Text.asciiUpper name) (args.map Phrase.tree)) (callNesting args)

namespace Derives

variable {l : Level} {ts : List Token} {e : Expr} {n : Nat}

theorem one_le (h : Derives l ts e n) : 1 ≤ n := by
  induction h with
  | next _ _ ih | operand _ ih | member _ _ ih | target _ ih => exact ih
  | binary _ _ _ _ first _ | index _ _ first _ => exact Nat.le_trans first (Nat.le_max_left ..)
  | not | negate | parens => exact Nat.le_add_left ..
  | literal | «variable» => exact Nat.le_refl 1
  | @call name args each ih =>
    unfold callNesting
    cases args with
    | nil => exact Nat.le_refl 1
    | cons a more => exact Nat.le_trans (Nat.le_add_left ..) (Nat.le_max_left ..)

/-- No phrase is empty or begins with a closing parenthesis, and an access begins with no prefix
operator. -/
theorem starts (h : Derives l ts e n) : ∃ t rest, ts = t :: rest ∧ t ≠ .rparen ∧
    (l = .access ∨ l = .primary → t ≠ .not ∧ t ≠ .minus) := by
  induction h with
  | @next l l' ts e n level _ ih =>
    obtain ⟨t, rest, same, opens, -⟩ := ih
    refine ⟨t, rest, same, opens, ?_⟩
    rintro (rfl | rfl) <;> cases level
  | @binary l _ _ _ _ _ _ _ _ _ level _ _ _ first _ =>
    obtain ⟨t, rest, rfl, opens, -⟩ := first
    refine ⟨t, _, rfl, opens, ?_⟩
    rintro (rfl | rfl) <;> cases level
  | operand _ ih =>
    obtain ⟨t, rest, same, opens, -⟩ := ih
    exact ⟨t, rest, same, opens, nofun⟩
  | target _ ih =>
    obtain ⟨t, rest, same, opens, bare⟩ := ih
    exact ⟨t, rest, same, opens, fun _ => bare (.inr rfl)⟩
  | index _ _ ih _ | member _ _ ih =>
    obtain ⟨t, rest, rfl, opens, bare⟩ := ih
    exact ⟨t, _, rfl, opens, bare⟩
  | not | negate => exact ⟨_, _, rfl, nofun, nofun⟩
  | «variable» | parens | call => exact ⟨_, _, rfl, nofun, fun _ => ⟨nofun, nofun⟩⟩
  | @literal t v value =>
    refine ⟨t, [], rfl, ?_, fun _ => ⟨?_, ?_⟩⟩ <;> (rintro rfl; cases value)

end Derives

variable {a : Phrase} {args : List Phrase}

theorem separated_cons_cons {b : Phrase} {more : List Phrase} :
    separated (a :: b :: more) = a.tokens ++ .comma :: separated (b :: more) := rfl

/-- Arguments do not begin with a closing parenthesis. -/
theorem separated_starts (h : Derives .or a.tokens a.tree a.nesting) (more : List Phrase) :
    ∃ t rest, separated (a :: more) = t :: rest ∧ t ≠ .rparen := by
  obtain ⟨t, rest, starts, opens, -⟩ := h.starts
  cases more with
  | nil => exact ⟨t, rest, starts, opens⟩
  | cons b more => exact ⟨t, _, by rw [separated_cons_cons, starts]; rfl, opens⟩

theorem callNesting_cons : callNesting (a :: args) = max (a.nesting + 1) (callNesting args) := rfl

theorem callNesting_le {k : Nat} : callNesting args ≤ k + 1 ↔ ∀ a ∈ args, a.nesting ≤ k := by
  induction args with
  | nil => simp [callNesting]
  | cons a more ih =>
    rw [callNesting_cons, Nat.max_le, ih, List.forall_mem_cons, Nat.add_le_add_iff_right]

/-- Every argument takes a token. -/
theorem length_le_separated (each : ∀ a ∈ args, Derives .or a.tokens a.tree a.nesting) :
    args.length ≤ (separated args).length := by
  induction args with
  | nil => exact Nat.le_refl 0
  | cons a more ih =>
    obtain ⟨t, rest, starts, -⟩ := separated_starts (each a (List.mem_cons_self ..)) []
    have enough := ih fun b mem => each b (List.mem_cons_of_mem a mem)
    have taken : 1 ≤ a.tokens.length := by
      rw [show a.tokens = t :: rest from starts]
      exact Nat.le_add_left ..
    cases more with
    | nil => exact taken
    | cons b more =>
      rw [separated_cons_cons]
      simp only [List.length_append, List.length_cons] at enough ⊢
      omega

end Playbook.Expression
