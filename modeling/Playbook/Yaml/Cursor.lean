/-!
Reading through a text while keeping count of lines, columns and characters. Line breaks of several
spellings are made one before reading starts, so a break is one character.
-/
namespace Playbook.Yaml

def isBlank (c : Char) : Bool := c = ' ' || c = '\t'

/-- The line feed, and the line and paragraph separators. -/
def isBreak (c : Char) : Bool := c = '\n' || c = '\u2028' || c = '\u2029'

def isGap (c : Char) : Bool := isBlank c || isBreak c

/-- A gap or the end of the text. -/
def endsWord : Option Char → Bool
  | none => true
  | some c => isGap c

/-- A character of a name: a letter, a digit, an underscore or a dash. -/
def isNameChar (c : Char) : Bool := c.isAlphanum || c = '_' || c = '-'

/-- The characters that a text may hold. -/
def isPrintable (c : Char) : Bool :=
  c = '\t' || c = '\n' || c = '\r' || c = '\u0085' || (' ' ≤ c && c ≤ '~') ||
    ('\u00a0' ≤ c && c ≠ '\ufeff' && c ≠ '\ufffe' && c ≠ '\uffff')

/-- One line feed for a carriage return, for that and a line feed, and for a next line. -/
def unifyBreaks : List Char → List Char
  | [] => []
  | '\r' :: '\n' :: rest => '\n' :: unifyBreaks rest
  | c :: rest => (if c = '\r' || c = '\u0085' then '\n' else c) :: unifyBreaks rest

/-- What is left to read, and where it begins. -/
structure Cursor where
  rest : List Char
  line : Nat := 0
  column : Nat := 0
  index : Nat := 0

namespace Cursor

def char? (c : Cursor) : Option Char := c.rest.head?

/-- The character after the next `n` ones. -/
def peek? (c : Cursor) (n : Nat) : Option Char := c.rest[n]?

/-- Whether a certain character comes next. -/
def isAt (c : Cursor) (x : Char) : Bool := c.char? == some x

def atBreak (c : Cursor) : Bool := c.char?.any isBreak

def atGap (c : Cursor) : Bool := c.char?.any isGap

/-- The cursor behind a character. -/
def past (c : Cursor) (x : Char) (rest : List Char) : Cursor :=
  if isBreak x then ⟨rest, c.line + 1, 0, c.index + 1⟩
  else ⟨rest, c.line, c.column + 1, c.index + 1⟩

def next (c : Cursor) : Cursor :=
  match c.rest with
  | [] => c
  | x :: rest => c.past x rest

def skip : (n : Nat) → Cursor → Cursor
  | 0, c => c
  | n + 1, c => skip n c.next

/-- The characters up to the first one that does not satisfy a test, and the cursor there. -/
def span (p : Char → Bool) (c : Cursor) : List Char × Cursor :=
  let word := c.rest.takeWhile p
  (word, c.skip word.length)

def skipWhile (p : Char → Bool) (c : Cursor) : Cursor := (c.span p).2

/-- Whether a mark of three characters stands alone at the start of a line. -/
def atMark (mark : Char) (c : Cursor) : Bool :=
  c.column = 0 && c.rest.take 3 == [mark, mark, mark] && endsWord (c.peek? 3)

/-- Whether a document starts or ends here. -/
def atDocumentMark (c : Cursor) : Bool := c.atMark '-' || c.atMark '.'

/-- Skips a comment up to the end of its line. -/
def skipComment (c : Cursor) : Cursor :=
  if c.isAt '#' then c.skipWhile fun x => !isBreak x else c

end Cursor
end Playbook.Yaml
