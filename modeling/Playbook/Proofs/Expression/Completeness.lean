import Mathlib.Logic.Basic
import Playbook.Proofs.Expression.Soundness

/-!
The parsers accept every phrase of the grammar. What stands after a phrase decides whether the
parser of its level goes on: a token binds to the level whose loop would take it. Where it may follow
a phrase, the parser reads the phrase and resumes that loop, or it stops at a point nested too deep.
-/
namespace Playbook.Expression

/-- The place of a level, from the loosest to the tightest. -/
def Level.rank : Level → Nat
  | .or => 1
  | .and => 2
  | .comparison => 3
  | .sum => 4
  | .product => 5
  | .operand => 6
  | .access => 7
  | .primary => 8

/-- The rank of the level that a token would continue; a parenthesis continues a name. -/
def Token.binding : Token → Nat
  | .or => 1
  | .and => 2
  | .eq | .notEq | .gt | .gte | .lt | .lte => 3
  | .plus | .minus => 4
  | .star | .slash => 5
  | .dot | .lbracket => 7
  | .lparen => 9
  | _ => 0

/-- The tokens may stand after a phrase of a level, or go on with it. -/
def Follows (l : Level) (rest : List Token) : Prop := ∀ t ∈ rest.head?, t.binding ≤ l.rank

/-- The tokens may stand after a phrase of a level and do not go on with it. -/
def Stops (l : Level) (rest : List Token) : Prop := ∀ t ∈ rest.head?, t.binding < l.rank

variable {α β : Type} {l l' : Level} {t : Token} {ts rest : List Token} {e : Expr}
  {n limit room : Nat} {P sub : Parser Expr}

theorem Level.rank_next (level : l.next? = some l') : l'.rank = l.rank + 1 := by
  cases l <;> cases level <;> rfl

theorem Level.binding_op {op : BinaryOp} (operator : l.op? t = some op) : t.binding = l.rank := by
  cases l <;> cases t <;> first | rfl | cases operator

theorem Stops.follows (h : Stops l rest) : Follows l rest := fun t mem => Nat.le_of_lt (h t mem)

theorem Follows.stops (h : Follows l rest) (tighter : l.rank < l'.rank) : Stops l' rest :=
  fun t mem => Nat.lt_of_le_of_lt (h t mem) tighter

theorem Follows.stops_next (h : Follows l rest) (level : l.next? = some l') : Stops l' rest :=
  h.stops (by rw [l.rank_next level]; exact Nat.lt_succ_self _)

/-- No token goes on with an operand. -/
theorem Follows.stops_operand (h : Follows .operand rest) : Stops .operand rest := by
  intro t mem
  refine Nat.lt_of_le_of_ne (h t mem) ?_
  cases t <;> simp [Token.binding, Level.rank]

theorem stops_nil : Stops l [] := nofun

theorem stops_closing (closing : t.binding = 0) : Stops l (t :: rest) := by
  rintro _ ⟨⟩
  rw [closing]
  cases l <;> exact Nat.succ_pos _

/-- A parser that takes at least one token. -/
def Shortens (P : Parser Expr) : Prop :=
  ∀ ⦃ts : List Token⦄ ⦃e : Expr⦄ ⦃rest : List Token⦄, P ts = .ok (e, rest) →
    rest.length < ts.length

theorem Sound.shortens {k : Nat} (h : Sound P l k) : Shortens P :=
  fun _ _ _ taken => (h taken).length_lt

/-- The fuel of the loop over operators does not matter where it is enough. -/
theorem chainFrom_fuel {op? : Token → Option BinaryOp} (shortens : Shortens P) :
    ∀ {fuel fuel' : Nat} {left : Expr} {ts : List Token}, ts.length ≤ fuel → ts.length ≤ fuel' →
      chainFrom op? P fuel left ts = chainFrom op? P fuel' left ts
  | _, _, _, [], _, _ => by simp [chainFrom]
  | fuel + 1, fuel' + 1, left, t :: ts, enough, enough' => by
    unfold chainFrom
    cases op? t with
    | none => rfl
    | some op =>
      dsimp only
      cases taken : P ts with
      | error _ => rfl
      | ok a =>
        have shorter := shortens taken
        simp only [List.length_cons] at enough enough'
        exact chainFrom_fuel shortens (by omega) (by omega)

/-- The fuel of the loop over members and indices does not matter where it is enough. -/
theorem accessesFrom_fuel (shortens : Shortens sub) :
    ∀ {fuel fuel' : Nat} {target : Expr} {ts : List Token}, ts.length ≤ fuel → ts.length ≤ fuel' →
      accessesFrom sub fuel target ts = accessesFrom sub fuel' target ts
  | _, _, _, [], _, _ => by simp [accessesFrom]
  | fuel + 1, fuel' + 1, target, t :: ts, enough, enough' => by
    simp only [List.length_cons] at enough enough'
    cases t with
    | dot =>
      cases ts with
      | nil => rfl
      | cons t ts =>
        simp only [accessesFrom]
        cases memberName? t with
        | none => rfl
        | some segment =>
          simp only [List.length_cons] at enough enough'
          exact accessesFrom_fuel shortens (by omega) (by omega)
    | lbracket =>
      simp only [accessesFrom]
      cases taken : sub ts with
      | error _ => rfl
      | ok a =>
        have shorter := shortens taken
        simp only [bind, Except.bind]
        split
        · rename_i closed
          simp only [closed, List.length_cons] at shorter
          exact accessesFrom_fuel shortens (by omega) (by omega)
        · rfl
    | _ => rfl

theorem chainFrom_of_stops {fuel : Nat} (h : Stops l rest) :
    chainFrom l.op? P fuel e rest = .ok (e, rest) := by
  cases fuel with
  | zero => rfl
  | succ fuel =>
    cases rest with
    | nil => rfl
    | cons t rest =>
      have none : l.op? t = none := by
        refine Option.eq_none_iff_forall_ne_some.2 fun op operator => ?_
        exact absurd (Level.binding_op operator) (Nat.ne_of_lt (h t rfl))
      rw [chainFrom, none]

theorem accessesFrom_of_stops {fuel : Nat} (h : Stops .access rest) :
    accessesFrom sub fuel e rest = .ok (e, rest) := by
  rw [accessesFrom]
  · rintro _ after - rfl
    exact absurd (h .dot rfl) (Nat.lt_irrefl _)
  · rintro _ after - rfl
    exact absurd (h .lbracket rfl) (Nat.lt_irrefl _)

/-- How the parser of a level goes on after it has read a phrase. -/
def resume (limit room : Nat) : Level → Expr → Parser Expr
  | .access, e => fun rest => accessesFrom (nestedExpr limit room) rest.length e rest
  | l, e => fun rest =>
    match l.next? with
    | some tighter => chainFrom l.op? (levelParser limit room tighter) rest.length e rest
    | none => .ok (e, rest)

theorem resume_next (level : l.next? = some l') : resume limit room l e rest =
    chainFrom l.op? (levelParser limit room l') rest.length e rest := by
  cases l <;> cases level <;> rfl

theorem resume_of_stops (h : Stops l rest) : resume limit room l e rest = .ok (e, rest) := by
  cases l
  case access => exact accessesFrom_of_stops h
  case operand | primary => rfl
  all_goals exact chainFrom_of_stops h

/-- The parser of a level reads the tokens as a tree, and goes on, if it has room. -/
def Read (limit : Nat) (l : Level) (ts : List Token) (e : Expr) (n : Nat) : Prop :=
  ∀ (room : Nat) {rest : List Token}, Follows l rest → levelParser limit room l (ts ++ rest) =
    if n ≤ room + 1 then resume limit room l e rest else .error (.tooDeep limit)

theorem ite_bind {c : Prop} [Decidable c] {a : α} {cause : ParseError}
    {f : α → Except ParseError β} :
    ((if c then .ok a else .error cause : Except ParseError α) >>= f) =
      if c then f a else .error cause := by
  split <;> rfl

theorem ite_max_le {a b : α} {m k : Nat} :
    (if max m n ≤ k then a else b) = if m ≤ k then if n ≤ k then a else b else b := by
  simp only [Nat.max_le, ite_and]

namespace Read

theorem nestedExpr (h : Read limit .or ts e n) (some : 1 ≤ n) (stops : Stops .or rest) :
    nestedExpr limit room (ts ++ rest) =
      if n ≤ room then .ok (e, rest) else .error (.tooDeep limit) := by
  cases room with
  | zero => rw [if_neg (by omega)]; rfl
  | succ room => exact (h room stops.follows).trans (by rw [resume_of_stops stops])

theorem nestedOperand (h : Read limit .operand ts e n) (some : 1 ≤ n)
    (stops : Stops .operand rest) : nestedOperand limit room (ts ++ rest) =
      if n ≤ room then .ok (e, rest) else .error (.tooDeep limit) := by
  cases room with
  | zero => rw [if_neg (by omega)]; rfl
  | succ room => exact (h room stops.follows).trans (by rw [resume_of_stops stops])

theorem next (level : l.next? = some l') (h : Read limit l' ts e n) : Read limit l ts e n := by
  intro room rest follows
  have stops : Stops l' rest := follows.stops_next level
  rw [levelParser_next level, chain, h room stops.follows, resume_of_stops stops, ite_bind,
    resume_next level]

theorem binary {left right : List Token} {a b : Expr} {op : BinaryOp} {m : Nat}
    (level : l.next? = some l') (operator : l.op? t = some op) (first : Read limit l left a m)
    (second : Read limit l' right b n) :
    Read limit l (left ++ t :: right) (.binary a op b) (max m n) := by
  intro room rest follows
  have stops : Stops l' rest := follows.stops_next level
  have goesOn : Follows l (t :: (right ++ rest)) := by
    rintro _ ⟨⟩
    exact Nat.le_of_eq (Level.binding_op operator)
  have fuel : chainFrom l.op? (levelParser limit room l') (right ++ rest).length (.binary a op b)
      rest = resume limit room l (.binary a op b) rest := by
    rw [resume_next level]
    exact chainFrom_fuel (sound_levelParser limit room l').shortens (by simp) (Nat.le_refl _)
  rw [List.append_assoc, List.cons_append, first room goesOn, resume_next level, List.length_cons,
    chainFrom, operator]
  dsimp only
  rw [second room stops.follows, resume_of_stops stops, ite_bind, fuel, ite_max_le]

/-- An operand after one of the two prefix operators. -/
theorem unary {op : UnaryOp} (h : Read limit .operand ts e n) (some : 1 ≤ n)
    (operator : t = .not ∧ op = .not ∨ t = .minus ∧ op = .negate) :
    Read limit .operand (t :: ts) (.unary op e) (n + 1) := by
  intro room rest follows
  show unaryExpr limit room (t :: (ts ++ rest)) = _
  have read : Expression.nestedOperand limit room (ts ++ rest) = _ :=
    h.nestedOperand some follows.stops_operand
  rcases operator with ⟨rfl, rfl⟩ | ⟨rfl, rfl⟩
  all_goals
    rw [unaryExpr_eq, prefixExpr, read, ite_bind]
    simp only [Nat.add_le_add_iff_right]
    rfl

theorem operand (h : Read limit .access ts e n) {start : Token} {more : List Token}
    (starts : ts = start :: more) (bare : start ≠ .not ∧ start ≠ .minus) :
    Read limit .operand ts e n := by
  intro room rest follows
  have stops : Stops .access rest := follows.stops (Nat.lt_succ_self _)
  have read := h room stops.follows
  rw [resume_of_stops stops] at read
  subst starts
  show unaryExpr limit room (start :: (more ++ rest)) = _
  rw [unaryExpr_eq, prefixExpr]
  · exact read
  · rintro _ ⟨⟩
    exact bare.1 rfl
  · rintro _ ⟨⟩
    exact bare.2 rfl

theorem target (h : Read limit .primary ts e n) : Read limit .access ts e n := by
  intro room rest follows
  have stops : Stops .primary rest := follows.stops (Nat.lt_succ_self _)
  have read : primary (Expression.nestedExpr limit room) (ts ++ rest) = _ := h room stops.follows
  show postfixExpr (Expression.nestedExpr limit room) (ts ++ rest) = _
  rw [postfixExpr, read]
  exact ite_bind

theorem member {segment : String} (h : Read limit .access ts e n)
    (name : memberName? t = some segment) :
    Read limit .access (ts ++ [.dot, t]) (.access e segment) n := by
  intro room rest follows
  have goesOn : Follows .access (.dot :: t :: rest) := by
    rintro _ ⟨⟩
    exact Nat.le_refl _
  have fuel : accessesFrom (Expression.nestedExpr limit room) (rest.length + 1) (.access e segment)
      rest = resume limit room .access (.access e segment) rest :=
    accessesFrom_fuel (sound_nested limit room).2.shortens (by simp) (Nat.le_refl _)
  rw [List.append_assoc, List.cons_append, List.singleton_append, h room goesOn, ← fuel]
  simp only [resume, List.length_cons, accessesFrom, name]

theorem index {is : List Token} {i : Expr} {m : Nat} (target : Read limit .access ts e m)
    (inner : Read limit .or is i n) (some : 1 ≤ n) :
    Read limit .access (ts ++ .lbracket :: (is ++ [.rbracket])) (.index e i) (max m (n + 1)) := by
  intro room rest follows
  have goesOn : Follows .access (.lbracket :: (is ++ .rbracket :: rest)) := by
    rintro _ ⟨⟩
    exact Nat.le_refl _
  have closed : Stops .or (.rbracket :: rest) := stops_closing rfl
  have fuel : accessesFrom (Expression.nestedExpr limit room) (is ++ .rbracket :: rest).length
      (.index e i) rest = resume limit room .access (.index e i) rest :=
    accessesFrom_fuel (sound_nested limit room).2.shortens (by simp; omega) (Nat.le_refl _)
  rw [List.append_assoc, List.cons_append, List.append_assoc, List.singleton_append,
    target room goesOn, ite_max_le, ← fuel]
  simp only [resume, List.length_cons, accessesFrom, inner.nestedExpr some closed, ite_bind,
    Nat.add_le_add_iff_right]

theorem literal {v : Json.Value} (value : literal? t = some v) :
    Read limit .primary [t] (.literal v) 1 := by
  intro room rest _
  rw [if_pos (Nat.le_add_left ..)]
  show primary (Expression.nestedExpr limit room) (t :: rest) = .ok (.literal v, rest)
  cases t with
  | number x =>
    rw [primary]
    cases finite : Decimal.Binary.ofFloat x with
    | finite =>
      rw [literal?, finite] at value
      cases value
      rfl
    | infinite | notANumber =>
      rw [literal?, finite] at value
      cases value
  | true | false | null | string => cases value; rw [primary]
  | _ => cases value

theorem «variable» {name : String} : Read limit .primary [.identifier name] (.variable name) 1 := by
  intro room rest follows
  rw [if_pos (Nat.le_add_left ..)]
  show primary _ (.identifier name :: rest) = .ok (.variable name, rest)
  rw [primary]
  · rintro after rfl
    exact absurd (follows .lparen rfl) (by decide)
  · rintro after rfl
    exact absurd (follows .lparen rfl) (by decide)

theorem parens (h : Read limit .or ts e n) (some : 1 ≤ n) :
    Read limit .primary (.lparen :: (ts ++ [.rparen])) e (n + 1) := by
  intro room rest _
  have closed : Stops .or (.rparen :: rest) := stops_closing rfl
  rw [List.cons_append, List.append_assoc, List.singleton_append]
  show primary (Expression.nestedExpr limit room) (.lparen :: (ts ++ .rparen :: rest)) = _
  rw [primary, h.nestedExpr some closed, ite_bind]
  simp only [Nat.add_le_add_iff_right]
  rfl

/-- The loop over arguments reads all that stand up to the closing parenthesis. -/
theorem arguments : ∀ {args : List Phrase} {fuel : Nat} {acc : List Expr}, args ≠ [] →
    (∀ a ∈ args, 1 ≤ a.nesting ∧ Read limit .or a.tokens a.tree a.nesting) → args.length ≤ fuel →
    argumentsFrom (Expression.nestedExpr limit room) fuel acc (separated args ++ .rparen :: rest) =
      if callNesting args ≤ room + 1 then .ok (acc.reverse ++ args.map Phrase.tree, rest)
      else .error (.tooDeep limit)
  | [a], fuel + 1, acc, _, each, _ => by
    obtain ⟨some, read⟩ := each a (List.mem_singleton_self a)
    have closed : Stops .or (.rparen :: rest) := stops_closing rfl
    have nesting : callNesting [a] ≤ room + 1 ↔ a.nesting ≤ room := by simp [callNesting_le]
    simp only [separated, argumentsFrom, read.nestedExpr some closed, ite_bind, nesting]
    simp
  | a :: b :: more, fuel + 1, acc, _, each, enough => by
    obtain ⟨some, read⟩ := each a (List.mem_cons_self ..)
    have separator : Stops .or (.comma :: (separated (b :: more) ++ .rparen :: rest)) :=
      stops_closing rfl
    have nesting : callNesting (a :: b :: more) = max (a.nesting + 1) (callNesting (b :: more)) :=
      callNesting_cons
    rw [separated_cons_cons, List.append_assoc, List.cons_append, argumentsFrom,
      read.nestedExpr some separator, ite_bind]
    dsimp only
    rw [arguments (List.cons_ne_nil b more) (fun c mem => each c (List.mem_cons_of_mem a mem))
      (Nat.le_of_succ_le_succ enough), nesting, ite_max_le]
    simp

theorem call {name : String} {args : List Phrase}
    (each : ∀ a ∈ args, Derives .or a.tokens a.tree a.nesting)
    (read : ∀ a ∈ args, Read limit .or a.tokens a.tree a.nesting) :
    Read limit .primary (.identifier name :: .lparen :: (separated args ++ [.rparen]))
      (.call (Text.asciiUpper name) (args.map Phrase.tree)) (callNesting args) := by
  intro room rest _
  rw [List.cons_append, List.cons_append, List.append_assoc, List.singleton_append]
  show primary (Expression.nestedExpr limit room) _ = _
  cases args with
  | nil => rfl
  | cons a more =>
    obtain ⟨t, tokens, starts, opens⟩ := separated_starts (each a (List.mem_cons_self ..)) more
    have enough := length_le_separated each
    simp only [List.length_cons] at enough
    rw [primary]
    · rw [arguments (List.cons_ne_nil a more) (fun b mem => ⟨(each b mem).one_le, read b mem⟩)
        (by simp; omega), ite_bind]
      rfl
    · rintro after same
      rw [starts] at same
      exact opens (List.cons.inj same).1

end Read

/-- The parser of its level reads every phrase of the grammar. -/
theorem Derives.read (h : Derives l ts e n) : Read limit l ts e n := by
  induction h with
  | next level _ ih => exact ih.next level
  | binary level operator _ _ first second => exact first.binary level operator second
  | not inner ih => exact ih.unary inner.one_le (.inl ⟨rfl, rfl⟩)
  | negate inner ih => exact ih.unary inner.one_le (.inr ⟨rfl, rfl⟩)
  | operand whole ih =>
    obtain ⟨t, more, starts, -, bare⟩ := whole.starts
    exact ih.operand starts (bare (.inl rfl))
  | member _ name ih => exact ih.member name
  | index _ inner target index => exact target.index index inner.one_le
  | target _ ih => exact ih.target
  | literal value => exact .literal value
  | «variable» => exact .variable
  | parens inner ih => exact ih.parens inner.one_le
  | call each ih => exact .call each ih

/-- The tokens of a phrase parse as its tree, or the phrase is nested too deep. -/
theorem Derives.parseTokens_eq (h : Derives .or ts e n) (limit : Nat) :
    parseTokens limit ts = if n ≤ limit then .ok e else .error (.tooDeep limit) := by
  have read : nestedExpr limit limit (ts ++ []) = _ := h.read.nestedExpr h.one_le stops_nil
  rw [List.append_nil] at read
  rw [parseTokens, expression_eq, read, ite_bind]

theorem Derives.le_of_parseTokens {e' : Expr} (h : Derives .or ts e n)
    (parsed : parseTokens limit ts = .ok e') : n ≤ limit ∧ e = e' := by
  rw [h.parseTokens_eq] at parsed
  split at parsed
  · rename_i bound
    exact ⟨bound, Except.ok.inj parsed⟩
  · cases parsed

/-- The parser accepts exactly the phrases of the grammar that are not nested too deep, as the one
tree that they spell. -/
theorem parses_iff_derives :
    (∀ (limit : Nat) (ts : List Token) (e : Expr),
      parseTokens limit ts = .ok e ↔ ∃ n, Derives .or ts e n ∧ n ≤ limit) ∧
    ∀ (ts : List Token) (e e' : Expr) (n n' : Nat),
      Derives .or ts e n → Derives .or ts e' n' → e = e' ∧ n = n' := by
  refine ⟨fun limit ts e => ⟨exists_derives_of_parseTokens, fun ⟨n, whole, bound⟩ => ?_⟩,
    fun ts e e' n n' first second => ?_⟩
  · rw [whole.parseTokens_eq, if_pos bound]
  · have parsed : parseTokens n ts = .ok e := by rw [first.parseTokens_eq, if_pos (Nat.le_refl n)]
    have parsed' : parseTokens n' ts = .ok e' := by
      rw [second.parseTokens_eq, if_pos (Nat.le_refl n')]
    have shallow := first.le_of_parseTokens parsed'
    have shallow' := second.le_of_parseTokens parsed
    exact ⟨shallow.2, Nat.le_antisymm shallow.1 shallow'.1⟩

/-- `not f(true, x)` is nested three deep: the operator and the argument list go one level deeper
each. -/
theorem negated_call_parses : let ts := [.not, .identifier "f", .lparen, .true, .comma,
      .identifier "x", .rparen]
    let e := .unary .not (.call "F" [.literal (.bool true), .variable "x"])
    parseTokens 3 ts = .ok e ∧ parseTokens 2 ts ≠ .ok e := by
  intro ts e
  have whole {ts : List Token} {e : Expr} {n : Nat} (h : Derives .operand ts e n) :
      Derives .or ts e n :=
    .next rfl (.next rfl (.next rfl (.next rfl (.next rfl h))))
  have derives : Derives .or ts e 3 := by
    refine whole (.not (.operand (.target ?_)))
    have args : ∀ a ∈ [Phrase.mk [.true] (.literal (.bool true)) 1,
        Phrase.mk [.identifier "x"] (.variable "x") 1], Derives .or a.tokens a.tree a.nesting := by
      simpa using ⟨whole (.operand (.target (.literal rfl))), whole (.operand (.target .variable))⟩
    exact @Derives.call "f" _ args
  obtain ⟨parses, unique⟩ := parses_iff_derives
  refine ⟨(parses 3 ts e).2 ⟨3, derives, Nat.le_refl 3⟩, fun shallow => ?_⟩
  obtain ⟨n, derives', bound⟩ := (parses 2 ts e).1 shallow
  have same := (unique ts e e 3 n derives derives').2
  omega

end Playbook.Expression
