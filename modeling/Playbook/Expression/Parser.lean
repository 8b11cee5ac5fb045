import Playbook.Expression.Token
import Playbook.Expression.Syntax

/-!
The parser of expressions. From the loosest to the tightest: `OR`, `AND`, comparisons, sums,
products, prefix operators, member access. Binary operators group to the left. Parentheses, index
brackets, call arguments and prefix operators each go one level deeper, and the number of levels is
bounded; what is left of it is the structure on which the parser recurses.
-/
namespace Playbook.Expression

/-- Why a text is no expression. -/
inductive ParseError where
  | tooLong (limit : Nat)
  | blank
  | scan (cause : ScanError)
  | tooDeep (limit : Nat)
  | memberExpected
  | indexNotClosed
  | argumentsNotSeparated
  | parenthesisNotClosed
  | infiniteNumber (x : Float)
  | unexpectedEnd
  | unexpectedToken (t : Token)
  | trailingToken (t : Token)

def ParseError.message : ParseError → String
  | .tooLong limit => s!"expression exceeds max length {limit}"
  | .blank => "expression is empty"
  | .scan cause => cause.message
  | .tooDeep limit => s!"expression nesting exceeds max depth {limit}"
  | .memberExpected => "expected member name after '.'"
  | .indexNotClosed => "expected ']' after index"
  | .argumentsNotSeparated => "expected ',' between function arguments"
  | .parenthesisNotClosed => "expected ')' after expression"
  | .infiniteNumber x => s!"invalid finite number literal '{Decimal.Style.message.format x}'"
  | .unexpectedEnd => "unexpected end of expression"
  | .unexpectedToken t => "unexpected token " ++ t.display
  | .trailingToken t => "unexpected trailing token " ++ t.display

/-- Bounds on the texts that are parsed: bytes and levels of nesting. -/
structure Limits where
  maxLength : Nat := 8192
  maxDepth : Nat := 64
  deriving DecidableEq, Repr

/-- Takes something from the front of the tokens. -/
abbrev Parser (α : Type) := List Token → Except ParseError (α × List Token)

def orOp? : Token → Option BinaryOp
  | .or => some .or
  | _ => none

def andOp? : Token → Option BinaryOp
  | .and => some .and
  | _ => none

def comparisonOp? : Token → Option BinaryOp
  | .eq => some .eq
  | .notEq => some .notEq
  | .gt => some .gt
  | .gte => some .gte
  | .lt => some .lt
  | .lte => some .lte
  | _ => none

def sumOp? : Token → Option BinaryOp
  | .plus => some .add
  | .minus => some .sub
  | _ => none

def productOp? : Token → Option BinaryOp
  | .star => some .mul
  | .slash => some .div
  | _ => none

/-- Operators of one level and their right operands, joined to what stands on their left. -/
def chainFrom (op? : Token → Option BinaryOp) (next : Parser Expr) :
    (fuel : Nat) → Expr → Parser Expr
  | fuel + 1, left, t :: rest =>
    match op? t with
    | some op => do
      let (right, rest) ← next rest
      chainFrom op? next fuel (.binary left op right) rest
    | none => .ok (left, t :: rest)
  | _, left, rest => .ok (left, rest)

/-- Operands of the next tighter level between operators of one level. -/
def chain (op? : Token → Option BinaryOp) (next : Parser Expr) : Parser Expr := fun ts => do
  let (left, rest) ← next ts
  chainFrom op? next rest.length left rest

/-- The five levels of binary operators over prefix expressions. -/
def binaryLevels (operand : Parser Expr) : Parser Expr :=
  chain orOp? (chain andOp? (chain comparisonOp? (chain sumOp? (chain productOp? operand))))

/-- The name of a member: a word, or a whole number without sign. -/
def memberName? : Token → Option String
  | .identifier name => some name
  | .number x =>
    if Decimal.isWhole x && (0.0 ≤ x) then some (toString (Decimal.toCount x)) else none
  | _ => none

/-- Arguments up to the closing parenthesis, at least one. -/
def argumentsFrom (sub : Parser Expr) : (fuel : Nat) → List Expr → Parser (List Expr)
  | 0, _, _ => .error .argumentsNotSeparated
  | fuel + 1, acc, ts => do
    let (arg, rest) ← sub ts
    match rest with
    | .rparen :: rest => .ok ((arg :: acc).reverse, rest)
    | .comma :: rest => argumentsFrom sub fuel (arg :: acc) rest
    | _ => .error .argumentsNotSeparated

/-- A literal, a variable, a call or an expression in parentheses. -/
def primary (sub : Parser Expr) : Parser Expr
  | [] => .error .unexpectedEnd
  | .true :: rest => .ok (.literal (.bool Bool.true), rest)
  | .false :: rest => .ok (.literal (.bool Bool.false), rest)
  | .null :: rest => .ok (.literal .null, rest)
  | .number x :: rest =>
    match Decimal.Binary.ofFloat x with
    | .finite .. => .ok (.literal (.float x), rest)
    | _ => .error (.infiniteNumber x)
  | .string s :: rest => .ok (.literal (.text s), rest)
  | .identifier name :: .lparen :: .rparen :: rest => .ok (.call (Text.asciiUpper name) [], rest)
  | .identifier name :: .lparen :: rest => do
    let (args, rest) ← argumentsFrom sub (rest.length + 1) [] rest
    .ok (.call (Text.asciiUpper name) args, rest)
  | .identifier name :: rest => .ok (.variable name, rest)
  | .lparen :: rest => do
    let (e, rest) ← sub rest
    match rest with
    | .rparen :: rest => .ok (e, rest)
    | _ => .error .parenthesisNotClosed
  | t :: _ => .error (.unexpectedToken t)

/-- Member accesses and indices after a target. -/
def accessesFrom (sub : Parser Expr) : (fuel : Nat) → Expr → Parser Expr
  | fuel + 1, target, .dot :: rest =>
    match rest with
    | t :: rest =>
      match memberName? t with
      | some segment => accessesFrom sub fuel (.access target segment) rest
      | none => .error .memberExpected
    | [] => .error .memberExpected
  | fuel + 1, target, .lbracket :: rest => do
    let (i, rest) ← sub rest
    match rest with
    | .rbracket :: rest => accessesFrom sub fuel (.index target i) rest
    | _ => .error .indexNotClosed
  | _, target, rest => .ok (target, rest)

def postfixExpr (sub : Parser Expr) : Parser Expr := fun ts => do
  let (target, rest) ← primary sub ts
  accessesFrom sub rest.length target rest

/-- A prefix operator over `nested`, or an operand without one. -/
def prefixExpr (nested sub : Parser Expr) : Parser Expr
  | .not :: rest => do
    let (e, rest) ← nested rest
    .ok (.unary .not e, rest)
  | .minus :: rest => do
    let (e, rest) ← nested rest
    .ok (.unary .negate e, rest)
  | ts => postfixExpr sub ts

/-- A prefix expression where `room` of `limit` levels are left. -/
def unaryExpr (limit : Nat) : (room : Nat) → Parser Expr
  | 0 => prefixExpr (fun _ => .error (.tooDeep limit)) (fun _ => .error (.tooDeep limit))
  | room + 1 => prefixExpr (unaryExpr limit room) (binaryLevels (unaryExpr limit room))

/-- A whole expression of at most `limit` levels. -/
def expression (limit : Nat) : Parser Expr :=
  match limit with
  | 0 => fun _ => .error (.tooDeep limit)
  | room + 1 => binaryLevels (unaryExpr limit room)

/-- The tree that a list of tokens spells as a whole. -/
def parseTokens (limit : Nat) (ts : List Token) : Except ParseError Expr := do
  let (e, rest) ← expression limit ts
  match rest with
  | [] => .ok e
  | t :: _ => .error (.trailingToken t)

/-- A text with its tree. -/
structure Parsed where
  source : String
  root : Expr

/-- Parses a text within limits. -/
def parse (limits : Limits) (source : String) : Except ParseError Parsed := do
  if limits.maxLength < source.utf8ByteSize then .error (.tooLong limits.maxLength)
  else if Text.allBlank source then .error .blank
  else
    let ts ← (tokenize source).mapError .scan
    let root ← parseTokens limits.maxDepth ts
    .ok ⟨source, root⟩

end Playbook.Expression
