import Playbook.Decimal.Style
import Playbook.Sum
import Playbook.Text.Blank
import Playbook.Text.Quoted

/-!
Tokens of the expression language and the scanner that cuts a text into them. A word is a keyword
in any letter case; `AND`, `OR` and `NOT` have symbols too, as have the two equalities. Offsets
count bytes.
-/
namespace Playbook.Expression

inductive Token where
  | lparen | rparen | lbracket | rbracket
  | dot | comma
  | not
  | plus | minus | star | slash
  | eq | notEq | gt | gte | lt | lte
  | and | or
  | identifier (name : String)
  | number (x : Float)
  | string (s : String)
  | true | false | null
  deriving Inhabited

namespace Token

/-- The name of a token in messages, with its content quoted. -/
def display : Token → String
  | .lparen => "LParen"
  | .rparen => "RParen"
  | .lbracket => "LBracket"
  | .rbracket => "RBracket"
  | .dot => "Dot"
  | .comma => "Comma"
  | .not => "Not"
  | .plus => "Plus"
  | .minus => "Minus"
  | .star => "Star"
  | .slash => "Slash"
  | .eq => "Eq"
  | .notEq => "NotEq"
  | .gt => "Gt"
  | .gte => "Gte"
  | .lt => "Lt"
  | .lte => "Lte"
  | .and => "And"
  | .or => "Or"
  | .identifier name => "Identifier(" ++ Text.Quoted.encode name ++ ")"
  | .number x => "Number(" ++ Decimal.Style.token.format x ++ ")"
  | .string s => "String(" ++ Text.Quoted.encode s ++ ")"
  | .true => "True"
  | .false => "False"
  | .null => "Null"

/-- A word as a token: a keyword, whatever its letter case, or an identifier. -/
def ofWord (word : String) : Token :=
  match Text.asciiLower word with
  | "true" => .true
  | "false" => .false
  | "null" => .null
  | "and" => .and
  | "or" => .or
  | "not" => .not
  | _ => .identifier word

end Token

/-- Why a text cannot be cut into tokens. -/
inductive ScanError where
  | invalidNumber (text : String)
  | unterminatedString
  | loneAmpersand
  | lonePipe
  | unexpectedCharacter (c : Char) (offset : Nat)
  deriving DecidableEq, Repr

def ScanError.message : ScanError → String
  | .invalidNumber text => s!"invalid number '{text}': invalid float literal"
  | .unterminatedString => "unterminated string literal"
  | .loneAmpersand => "unexpected '&'; use 'AND' or '&&'"
  | .lonePipe => "unexpected '|'; use 'OR' or '||'"
  | .unexpectedCharacter c offset => s!"unexpected character '{c}' at offset {offset}"

def isWordStart (c : Char) : Bool := c.isAlpha || c = '_'
def isWordPart (c : Char) : Bool := c.isAlphanum || c = '_'
def isNumberPart (c : Char) : Bool := c.isDigit || c = '.'

/-- The float of digits with at most one point among them. -/
def numberOf? (cs : List Char) : Option Float :=
  let whole := cs.takeWhile Char.isDigit
  let value (ds : List Char) : Nat := ds.foldl (fun n c => n * 10 + (c.toNat - '0'.toNat)) 0
  match cs.dropWhile Char.isDigit with
  | [] => some (Decimal.nearest (value whole) 0)
  | '.' :: fraction =>
    if fraction.all Char.isDigit then
      some (Decimal.nearest (value (whole ++ fraction)) (-(fraction.length : Int)))
    else none
  | _ => none

/-- The character that an escaped one stands for. -/
def unescape (c : Char) : Char :=
  if c = 'n' then '\n' else if c = 't' then '\t' else c

/-- The rest of a string up to its quote, with escapes resolved. -/
def scanString (quote : Char) : List Char → Option (List Char × List Char)
  | [] => none
  | c :: rest =>
    if c = '\\' then
      match rest with
      | [] => none
      | d :: rest => (scanString quote rest).map fun (s, rest) => (unescape d :: s, rest)
    else if c = quote then some ([], rest)
    else (scanString quote rest).map fun (s, rest) => (c :: s, rest)

/-- The bytes that a text takes. -/
def byteSize (cs : List Char) : Nat := sumOf Char.utf8Size cs

/-- A symbol at the front of what is left of a text of `total` bytes: the longest that fits. -/
def scanSymbol (total : Nat) (c : Char) (rest : List Char) :
    Except ScanError (Token × List Char) :=
  match c, rest with
  | '(', rest => .ok (.lparen, rest)
  | ')', rest => .ok (.rparen, rest)
  | '[', rest => .ok (.lbracket, rest)
  | ']', rest => .ok (.rbracket, rest)
  | '.', rest => .ok (.dot, rest)
  | ',', rest => .ok (.comma, rest)
  | '+', rest => .ok (.plus, rest)
  | '-', rest => .ok (.minus, rest)
  | '*', rest => .ok (.star, rest)
  | '/', rest => .ok (.slash, rest)
  | '=', '=' :: rest => .ok (.eq, rest)
  | '=', rest => .ok (.eq, rest)
  | '!', '=' :: rest => .ok (.notEq, rest)
  | '!', rest => .ok (.not, rest)
  | '>', '=' :: rest => .ok (.gte, rest)
  | '>', rest => .ok (.gt, rest)
  | '<', '=' :: rest => .ok (.lte, rest)
  | '<', '>' :: rest => .ok (.notEq, rest)
  | '<', rest => .ok (.lt, rest)
  | '&', '&' :: rest => .ok (.and, rest)
  | '&', _ => .error .loneAmpersand
  | '|', '|' :: rest => .ok (.or, rest)
  | '|', _ => .error .lonePipe
  | c, rest => .error (.unexpectedCharacter c (total - byteSize (c :: rest)))

/-- The token that starts with a character, which is no blank. -/
def scanToken (total : Nat) (c : Char) (rest : List Char) :
    Except ScanError (Token × List Char) :=
  if c.isDigit then
    let text := c :: rest.takeWhile isNumberPart
    match numberOf? text with
    | some x => .ok (.number x, rest.dropWhile isNumberPart)
    | none => .error (.invalidNumber (String.ofList text))
  else if c = '\'' ∨ c = '"' then
    match scanString c rest with
    | some (s, rest) => .ok (.string (String.ofList s), rest)
    | none => .error .unterminatedString
  else if isWordStart c then
    .ok (.ofWord (String.ofList (c :: rest.takeWhile isWordPart)), rest.dropWhile isWordPart)
  else scanSymbol total c rest

/-- Cuts the rest of a text of `total` bytes into tokens. -/
def scanFrom (total : Nat) : (fuel : Nat) → List Char → Except ScanError (List Token)
  | 0, _ => .ok []
  | _ + 1, [] => .ok []
  | fuel + 1, c :: rest =>
    if Text.isBlank c then scanFrom total fuel rest
    else do
      let (token, rest) ← scanToken total c rest
      let tokens ← scanFrom total fuel rest
      .ok (token :: tokens)

/-- The tokens of a text. -/
def tokenize (s : String) : Except ScanError (List Token) :=
  let cs := s.toList
  scanFrom (byteSize cs) cs.length cs

end Playbook.Expression
