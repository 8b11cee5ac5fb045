import Playbook.Proofs.Expression.Grammar

/-!
What the parsers return is spelled by the tokens they take. The parsers recurse on the levels of
nesting that are left, and so does the proof: inside one level of nesting each parser is sound once
the parsers one level deeper are.
-/
namespace Playbook.Expression

/-- What one more enclosing parenthesis, bracket or argument list leaves room for. -/
def nestedExpr (limit : Nat) : (room : Nat) → Parser Expr
  | 0 => fun _ => .error (.tooDeep limit)
  | room + 1 => binaryLevels (unaryExpr limit room)

/-- What one more prefix operator leaves room for. -/
def nestedOperand (limit : Nat) : (room : Nat) → Parser Expr
  | 0 => fun _ => .error (.tooDeep limit)
  | room + 1 => unaryExpr limit room

theorem expression_eq (limit : Nat) : expression limit = nestedExpr limit limit := by
  cases limit <;> rfl

theorem unaryExpr_eq (limit room : Nat) :
    unaryExpr limit room = prefixExpr (nestedOperand limit room) (nestedExpr limit room) := by
  cases room <;> rfl

/-- The parser of a level. -/
def levelParser (limit room : Nat) : Level → Parser Expr
  | .or => binaryLevels (unaryExpr limit room)
  | .and => chain andOp? (chain comparisonOp? (chain sumOp? (chain productOp?
      (unaryExpr limit room))))
  | .comparison => chain comparisonOp? (chain sumOp? (chain productOp? (unaryExpr limit room)))
  | .sum => chain sumOp? (chain productOp? (unaryExpr limit room))
  | .product => chain productOp? (unaryExpr limit room)
  | .operand => unaryExpr limit room
  | .access => postfixExpr (nestedExpr limit room)
  | .primary => primary (nestedExpr limit room)

theorem levelParser_next {limit room : Nat} {l l' : Level} (level : l.next? = some l') :
    levelParser limit room l = chain l.op? (levelParser limit room l') := by
  cases l <;> cases level <;> rfl

variable {α β : Type} {l l' : Level} {k : Nat} {P sub nested : Parser Expr} {ts rest : List Token}
  {e : Expr}

theorem exists_of_bind {x : Except ParseError (α × List Token)}
    {f : α × List Token → Except ParseError β} {b : β} (h : x >>= f = .ok b) :
    ∃ a after, x = .ok (a, after) ∧ f (a, after) = .ok b := by
  cases x with
  | error _ => cases h
  | ok a => exact ⟨a.1, a.2, rfl, h⟩

/-- The tokens before `rest` spell a tree, nested at most `k` deep. -/
def Taken (l : Level) (k : Nat) (ts : List Token) (e : Expr) (rest : List Token) : Prop :=
  ∃ used n, ts = used ++ rest ∧ Derives l used e n ∧ n ≤ k

/-- What a parser returns is spelled by what it took. -/
def Sound (P : Parser Expr) (l : Level) (k : Nat) : Prop :=
  ∀ ⦃ts : List Token⦄ ⦃e : Expr⦄ ⦃rest : List Token⦄, P ts = .ok (e, rest) → Taken l k ts e rest

theorem Taken.length_lt (h : Taken l k ts e rest) : rest.length < ts.length := by
  obtain ⟨used, n, rfl, whole, -⟩ := h
  obtain ⟨t, more, rfl, -⟩ := whole.starts
  simp only [List.cons_append, List.length_cons, List.length_append]
  omega

/-- The loop over the operators of a level, after a left operand that was taken. -/
theorem sound_chainFrom (level : l.next? = some l') (operand : Sound P l' k) :
    ∀ {fuel : Nat} {left : Expr} {used ts : List Token} {n : Nat},
      chainFrom l.op? P fuel left ts = .ok (e, rest) → Derives l used left n → n ≤ k →
      Taken l k (used ++ ts) e rest := by
  intro fuel
  induction fuel with
  | zero =>
    intro left used ts n h first bound
    cases h
    exact ⟨used, n, rfl, first, bound⟩
  | succ fuel ih =>
    intro left used ts n h first bound
    cases ts with
    | nil =>
      cases h
      exact ⟨used, n, rfl, first, bound⟩
    | cons t ts =>
      unfold chainFrom at h
      cases operator : l.op? t with
      | none =>
        rw [operator] at h
        cases h
        exact ⟨used, n, rfl, first, bound⟩
      | some op =>
        rw [operator] at h
        obtain ⟨right, after, taken, onward⟩ := exists_of_bind h
        obtain ⟨more, m, rfl, second, bound'⟩ := operand taken
        have joined := ih onward (first.binary level operator second) (Nat.max_le.2 ⟨bound, bound'⟩)
        simpa only [List.append_assoc, List.cons_append] using joined

theorem sound_chain (level : l.next? = some l') (operand : Sound P l' k) :
    Sound (chain l.op? P) l k := by
  intro ts e rest h
  obtain ⟨left, after, taken, onward⟩ := exists_of_bind h
  obtain ⟨used, n, rfl, first, bound⟩ := operand taken
  exact sound_chainFrom level operand onward (.next level first) bound

/-- The loop over arguments; those that it has read already are in `acc`. -/
theorem sound_argumentsFrom (inner : Sound sub .or k) :
    ∀ {fuel : Nat} {acc es : List Expr} {ts : List Token},
      argumentsFrom sub fuel acc ts = .ok (es, rest) →
      ∃ args : List Phrase, args ≠ [] ∧ ts = separated args ++ .rparen :: rest ∧
        es = acc.reverse ++ args.map Phrase.tree ∧
        ∀ a ∈ args, Derives .or a.tokens a.tree a.nesting ∧ a.nesting ≤ k := by
  intro fuel
  induction fuel with
  | zero => intro acc es ts h; cases h
  | succ fuel ih =>
    intro acc es ts h
    obtain ⟨arg, after, taken, onward⟩ := exists_of_bind h
    obtain ⟨used, n, rfl, whole, bound⟩ := inner taken
    dsimp only at onward
    split at onward
    · cases onward
      refine ⟨[⟨used, arg, n⟩], by simp, rfl, by simp, ?_⟩
      simpa using ⟨whole, bound⟩
    · obtain ⟨args, some, rfl, rfl, each⟩ := ih onward
      refine ⟨⟨used, arg, n⟩ :: args, by simp, ?_, by simp, ?_⟩
      · cases args with
        | nil => exact absurd rfl some
        | cons => simp [separated]
      · exact List.forall_mem_cons.2 ⟨⟨whole, bound⟩, each⟩
    · cases onward

theorem sound_primary (inner : Sound sub .or k) : Sound (primary sub) .primary (k + 1) := by
  have one : 1 ≤ k + 1 := Nat.le_add_left ..
  intro ts e rest h
  unfold primary at h
  split at h
  · cases h
  · cases h
    exact ⟨[.true], 1, rfl, .literal rfl, one⟩
  · cases h
    exact ⟨[.false], 1, rfl, .literal rfl, one⟩
  · cases h
    exact ⟨[.null], 1, rfl, .literal rfl, one⟩
  · rename_i x after
    split at h
    · rename_i finite
      cases h
      exact ⟨[.number x], 1, rfl, .literal (by simp [literal?, finite]), one⟩
    · cases h
  · cases h
    exact ⟨[.string _], 1, rfl, .literal rfl, one⟩
  · cases h
    exact ⟨[.identifier _, .lparen, .rparen], 1, rfl, @Derives.call _ [] nofun, one⟩
  · obtain ⟨es, after, taken, onward⟩ := exists_of_bind h
    cases onward
    obtain ⟨args, -, rfl, rfl, each⟩ := sound_argumentsFrom inner taken
    exact ⟨_, _, by simp, .call fun a mem => (each a mem).1,
      callNesting_le.2 fun a mem => (each a mem).2⟩
  · cases h
    exact ⟨[.identifier _], 1, rfl, .variable, one⟩
  · obtain ⟨tree, after, taken, onward⟩ := exists_of_bind h
    obtain ⟨used, n, rfl, whole, bound⟩ := inner taken
    dsimp only at onward
    split at onward
    · cases onward
      exact ⟨_, _, by simp, .parens whole, Nat.succ_le_succ bound⟩
    · cases onward
  · cases h

/-- The loop over members and indices, after a target that was taken. -/
theorem sound_accessesFrom (inner : Sound sub .or k) :
    ∀ {fuel : Nat} {target : Expr} {used ts : List Token} {n : Nat},
      accessesFrom sub fuel target ts = .ok (e, rest) → Derives .access used target n →
      n ≤ k + 1 → Taken .access (k + 1) (used ++ ts) e rest := by
  intro fuel target used ts n h
  induction fuel, target, ts using accessesFrom.induct generalizing used n with
  | case1 fuel target t ts segment name ih =>
    intro first bound
    rw [accessesFrom, name] at h
    simpa using ih h (first.member name) bound
  | case2 fuel target t ts unnamed =>
    rw [accessesFrom, unnamed] at h
    cases h
  | case3 => cases h
  | case4 fuel target ts ih =>
    intro first bound
    obtain ⟨i, after, taken, onward⟩ := exists_of_bind h
    obtain ⟨is, m, rfl, index, bound'⟩ := inner taken
    dsimp only at onward
    split at onward
    · simpa using ih _ _ onward (first.index index)
        (Nat.max_le.2 ⟨bound, Nat.succ_le_succ bound'⟩)
    · cases onward
  | case5 fuel target ts notDot notBracket =>
    intro first bound
    rw [accessesFrom] at h
    · cases h
      exact ⟨used, n, rfl, first, bound⟩
    · exact notDot
    · exact notBracket

theorem sound_postfixExpr (inner : Sound sub .or k) : Sound (postfixExpr sub) .access (k + 1) := by
  intro ts e rest h
  obtain ⟨target, after, taken, onward⟩ := exists_of_bind h
  obtain ⟨used, n, rfl, first, bound⟩ := sound_primary inner taken
  exact sound_accessesFrom inner onward (.target first) bound

theorem sound_prefixExpr (operand : Sound nested .operand k) (inner : Sound sub .or k) :
    Sound (prefixExpr nested sub) .operand (k + 1) := by
  intro ts e rest h
  unfold prefixExpr at h
  split at h
  · obtain ⟨tree, after, taken, onward⟩ := exists_of_bind h
    cases onward
    obtain ⟨used, n, rfl, whole, bound⟩ := operand taken
    exact ⟨_, _, rfl, .not whole, Nat.succ_le_succ bound⟩
  · obtain ⟨tree, after, taken, onward⟩ := exists_of_bind h
    cases onward
    obtain ⟨used, n, rfl, whole, bound⟩ := operand taken
    exact ⟨_, _, rfl, .negate whole, Nat.succ_le_succ bound⟩
  · obtain ⟨used, n, rfl, whole, bound⟩ := sound_postfixExpr inner h
    exact ⟨used, n, rfl, .operand whole, bound⟩

/-- The parsers of all levels are sound if those one level of nesting deeper are. -/
theorem sound_levels {limit room : Nat} (operand : Sound (nestedOperand limit room) .operand room)
    (inner : Sound (nestedExpr limit room) .or room) :
    ∀ l, Sound (levelParser limit room l) l (room + 1) := by
  have prefixed : Sound (unaryExpr limit room) .operand (room + 1) :=
    unaryExpr_eq limit room ▸ sound_prefixExpr operand inner
  have product := sound_chain (l := .product) rfl prefixed
  have sum := sound_chain (l := .sum) rfl product
  have comparison := sound_chain (l := .comparison) rfl sum
  have and := sound_chain (l := .and) rfl comparison
  intro l
  cases l with
  | or => exact sound_chain (l := .or) rfl and
  | and => exact and
  | comparison => exact comparison
  | sum => exact sum
  | product => exact product
  | operand => exact prefixed
  | access => exact sound_postfixExpr inner
  | primary => exact sound_primary inner

theorem sound_nested (limit : Nat) : ∀ room,
    Sound (nestedOperand limit room) .operand room ∧ Sound (nestedExpr limit room) .or room
  | 0 => ⟨nofun, nofun⟩
  | room + 1 =>
    have levels := sound_levels (sound_nested limit room).1 (sound_nested limit room).2
    ⟨levels .operand, levels .or⟩

theorem sound_levelParser (limit room : Nat) (l : Level) :
    Sound (levelParser limit room l) l (room + 1) :=
  sound_levels (sound_nested limit room).1 (sound_nested limit room).2 l

/-- What parses as a whole is a phrase, which is not nested too deep. -/
theorem exists_derives_of_parseTokens {limit : Nat} (h : parseTokens limit ts = .ok e) :
    ∃ n, Derives .or ts e n ∧ n ≤ limit := by
  obtain ⟨tree, after, taken, onward⟩ := exists_of_bind h
  rw [expression_eq] at taken
  obtain ⟨used, n, rfl, whole, bound⟩ := (sound_nested limit limit).2 taken
  dsimp only at onward
  split at onward
  · cases onward
    exact ⟨n, by simpa using whole, bound⟩
  · cases onward

end Playbook.Expression
