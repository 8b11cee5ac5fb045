import Playbook.Yaml.Scalar

/-!
Tokens of a document, and how a text is cut into them. Indentation shows up as tokens that open and
close block collections. Whatever may turn out to be a key of a mapping is remembered; when a colon
follows on the same line, a key token is put in front of it.
-/
namespace Playbook.Yaml

inductive Token where
  | version (major minor : Nat)
  /-- a handle that stands for the beginning of tags -/
  | tagHandle (handle beginning : String)
  | documentStart
  | documentEnd
  | blockSequence
  | blockMapping
  | blockEnd
  | flowSequence
  | flowSequenceEnd
  | flowMapping
  | flowMappingEnd
  | blockEntry
  | flowEntry
  | key
  | value
  | alias (name : String)
  | anchor (name : String)
  | tag (handle suffix : String)
  | scalar (text : String) (plain : Bool)
  deriving DecidableEq, Repr

/-- A place where a key may have begun. -/
structure KeyStart where
  /-- the number of tokens before it -/
  position : Nat
  cursor : Cursor
  /-- whether nothing but a key can stand there -/
  required : Bool

structure Lexer where
  cursor : Cursor
  tokens : Array Token := #[]
  /-- the column of the block collection that is open, -1 for none -/
  indent : Int := -1
  /-- the columns of those around it -/
  outerIndents : List Int := []
  /-- whether a key may begin without an indicator -/
  keyAllowed : Bool := true
  keyStart : Option KeyStart := none
  /-- the places around the flow collections that are open -/
  outerKeys : List (Option KeyStart) := []

namespace Lexer

def inFlow (l : Lexer) : Bool := !l.outerKeys.isEmpty

def push (l : Lexer) (t : Token) : Lexer := { l with tokens := l.tokens.push t }

/-- Puts a token in front of the tokens from a position on. -/
def insert (l : Lexer) (position : Nat) (t : Token) : Lexer :=
  { l with tokens := l.tokens.insertIdxIfInBounds position t }

/-- Forgets the place where a key may have begun; where one is required it is missing. -/
def dropKey (l : Lexer) : Option Lexer :=
  if l.keyStart.any KeyStart.required then none else some { l with keyStart := none }

/-- Remembers that a key may begin here. -/
def markKey (l : Lexer) : Option Lexer :=
  if l.keyAllowed then do
    let l ← l.dropKey
    some { l with keyStart := some {
      position := l.tokens.size
      cursor := l.cursor
      required := !l.inFlow && l.indent == l.cursor.column } }
  else some l

/-- The most characters that a key without an indicator may have. -/
def maxKeyLength : Nat := 1024

def isStale (now : Cursor) (k : KeyStart) : Bool :=
  k.cursor.line < now.line || k.cursor.index + maxKeyLength < now.index

/-- Forgets the places from which a key cannot reach up to here. -/
def dropStaleKeys (l : Lexer) : Option Lexer :=
  let keys := l.keyStart :: l.outerKeys
  if keys.any (·.any fun k => isStale l.cursor k && k.required) then none
  else
    let keep (k : Option KeyStart) := k.filter fun k => !isStale l.cursor k
    some { l with keyStart := keep l.keyStart, outerKeys := l.outerKeys.map keep }

/-- Opens a block collection in front of a position when a column lies deeper than the open one. -/
def openBlock (l : Lexer) (column position : Nat) (t : Token) : Lexer :=
  if !l.inFlow && l.indent < column then
    { l with indent := column, outerIndents := l.indent :: l.outerIndents }.insert position t
  else l

/-- Closes block collections, innermost first. -/
def closeBlocksFrom (column : Int) : (indent : Int) → (outer : List Int) → Lexer → Lexer
  | indent, [], l => { l with indent, outerIndents := [] }
  | indent, parent :: outer, l =>
    if column < indent then closeBlocksFrom column parent outer (l.push .blockEnd)
    else { l with indent, outerIndents := parent :: outer }

/-- Closes the block collections that lie deeper than a column. -/
def closeBlocks (l : Lexer) (column : Int) : Lexer :=
  if l.inFlow then l else closeBlocksFrom column l.indent l.outerIndents l

/-! ### Between tokens -/

/-- Skips blanks, comments and line ends. In a block a new line lets a key begin, and a tab does not
count as a blank where a key may begin. -/
def skipGap : (fuel : Nat) → Lexer → Lexer
  | 0, l => l
  | fuel + 1, l =>
    let blank (x : Char) : Bool := x = ' ' || (x = '\t' && (l.inFlow || !l.keyAllowed))
    let c := (l.cursor.skipWhile blank).skipComment
    if c.atBreak then
      skipGap fuel { l with cursor := c.next, keyAllowed := l.keyAllowed || !l.inFlow }
    else { l with cursor := c }

/-! ### One token -/

/-- Moves past a number of characters and adds a token. -/
def take (l : Lexer) (n : Nat) (t : Token) : Lexer :=
  { l with cursor := l.cursor.skip n }.push t

def documentMark (l : Lexer) (t : Token) : Option Lexer := do
  let l ← (l.closeBlocks (-1)).dropKey
  some ({ l with keyAllowed := false }.take 3 t)

def flowStart (l : Lexer) (t : Token) : Option Lexer := do
  let l ← l.markKey
  some ({ l with
    outerKeys := l.keyStart :: l.outerKeys
    keyStart := none
    keyAllowed := true }.take 1 t)

def flowEnd (l : Lexer) (t : Token) : Option Lexer := do
  let l ← l.dropKey
  let l := match l.outerKeys with
    | [] => l
    | keyStart :: outer => { l with keyStart, outerKeys := outer }
  some ({ l with keyAllowed := false }.take 1 t)

def flowEntry (l : Lexer) : Option Lexer := do
  let l ← l.dropKey
  some ({ l with keyAllowed := true }.take 1 .flowEntry)

def blockEntry (l : Lexer) : Option Lexer :=
  if !l.inFlow && !l.keyAllowed then none
  else do
    let l ← (l.openBlock l.cursor.column l.tokens.size .blockSequence).dropKey
    some ({ l with keyAllowed := true }.take 1 .blockEntry)

def explicitKey (l : Lexer) : Option Lexer :=
  if !l.inFlow && !l.keyAllowed then none
  else do
    let l ← (l.openBlock l.cursor.column l.tokens.size .blockMapping).dropKey
    some ({ l with keyAllowed := !l.inFlow }.take 1 .key)

def value (l : Lexer) : Option Lexer :=
  match l.keyStart with
  | some k =>
    let l := (l.insert k.position .key).openBlock k.cursor.column k.position .blockMapping
    some ({ l with keyStart := none, keyAllowed := false }.take 1 .value)
  | none =>
    if !l.inFlow && !l.keyAllowed then none
    else
      let l := l.openBlock l.cursor.column l.tokens.size .blockMapping
      some ({ l with keyAllowed := !l.inFlow }.take 1 .value)

/-- The characters that may follow a name without a gap. -/
def endsName (c : Char) : Bool := "?:,]\x7d%@\x60".toList.contains c

/-- An anchor or an alias. -/
def name (l : Lexer) (t : String → Token) : Option Lexer := do
  let l ← l.markKey
  let (word, c) := l.cursor.next.span isNameChar
  if word.isEmpty || !(endsWord c.char? || c.char?.any endsName) then none
  else some ({ l with cursor := c, keyAllowed := false }.push (t (String.ofList word)))

/-- Adds a scalar that was read. -/
def addScalar (l : Lexer) (plain : Bool) (s : ReadScalar) : Lexer :=
  { l with cursor := s.after }.push (.scalar s.text plain)

def block (l : Lexer) (literal : Bool) : Option Lexer := do
  let l ← l.dropKey
  let s ← readBlock literal l.indent l.cursor
  some ({ l with keyAllowed := true }.addScalar false s)

def quoted (l : Lexer) (single : Bool) : Option Lexer := do
  let l ← l.markKey
  let s ← readQuoted single l.cursor
  some ({ l with keyAllowed := false }.addScalar false s)

def plain (l : Lexer) : Option Lexer := do
  let l ← l.markKey
  let s ← readPlain l.inFlow (l.indent + 1).toNat l.cursor
  some ({ l with keyAllowed := s.brokeLine }.addScalar true s)

/-! ### Tags and directives -/

/-- The characters of a tag; a verbatim one may hold flow indicators too. -/
def isTagChar (verbatim : Bool) (c : Char) : Bool :=
  isNameChar c || ";/?:@&=+$.%!~*'()".toList.contains c || (verbatim && ",[]".toList.contains c)

/-- Writes out the bytes that are escaped by a percent sign and two hexadecimal digits. -/
def unescapeTag : List Char → Option (List UInt8)
  | [] => some []
  | '%' :: a :: b :: rest => do
    let n ← hexNumber? [a, b]
    (unescapeTag rest).map (n.toUInt8 :: ·)
  | c :: rest => if c = '%' then none else (unescapeTag rest).map (c.toString.toUTF8.toList ++ ·)

def tagText (cs : List Char) : Option String := do
  String.fromUTF8? (ByteArray.mk (← unescapeTag cs).toArray)

/-- A handle: an exclamation mark, or a name between two of them. The rest of a word that turns out
to be no handle comes back too. -/
def readHandle (c : Cursor) : String × List Char × Cursor :=
  let (word, after) := c.next.span isNameChar
  if after.isAt '!' then (String.ofList ('!' :: word ++ ['!']), [], after.next) else ("!", word, after)

/-- A tag: a verbatim one between angle brackets, or a handle and a suffix. -/
def readTag (c : Cursor) : Option (Token × Cursor) := do
  if c.peek? 1 = some '<' then
    let (text, c) := (c.skip 2).span (isTagChar true)
    if text.isEmpty || !c.isAt '>' then none
    else some (.tag "" (← tagText text), c.next)
  else
    let (handle, word, c) := readHandle c
    let (text, c) := c.span (isTagChar false)
    let suffix ← tagText (word ++ text)
    if handle ≠ "!" then if text.isEmpty then none else some (.tag handle suffix, c)
    else if suffix.isEmpty then some (.tag "" "!", c)
    else some (.tag "!" suffix, c)

def tag (l : Lexer) : Option Lexer := do
  let l ← l.markKey
  let (t, c) ← readTag l.cursor
  if endsWord c.char? || (l.inFlow && c.isAt ',') then
    some ({ l with cursor := c, keyAllowed := false }.push t)
  else none

/-- The most digits that a part of a version may have. -/
def maxVersionDigits : Nat := 9

def readVersionPart (c : Cursor) : Option (Nat × Cursor) :=
  let (digits, c) := c.span Char.isDigit
  if digits.isEmpty || maxVersionDigits < digits.length then none
  else some (digits.foldl (fun n d => n * 10 + (d.toNat - '0'.toNat)) 0, c)

def readVersion (c : Cursor) : Option (Token × Cursor) := do
  let (major, c) ← readVersionPart (c.skipWhile isBlank)
  if !c.isAt '.' then none
  else do
    let (minor, c) ← readVersionPart c.next
    some (.version major minor, c)

def readTagDirective (c : Cursor) : Option (Token × Cursor) := do
  let c := c.skipWhile isBlank
  if !c.isAt '!' then none
  else
    let (handle, word, c) := readHandle c
    if !word.isEmpty || !c.char?.any isBlank then none
    else do
      let c := c.skipWhile isBlank
      let (text, c) := c.span (isTagChar true)
      if text.isEmpty || !endsWord c.char? then none
      else some (.tagHandle handle (← tagText text), c)

/-- A directive takes the whole line. -/
def directive (l : Lexer) : Option Lexer := do
  let l ← (l.closeBlocks (-1)).dropKey
  let (word, c) := l.cursor.next.span isNameChar
  let (t, c) ← match String.ofList word with
    | "YAML" => if endsWord c.char? then readVersion c else none
    | "TAG" => if endsWord c.char? then readTagDirective c else none
    | _ => none
  let c := (c.skipWhile isBlank).skipComment
  if c.rest.isEmpty || c.atBreak then
    some ({ l with cursor := c.next, keyAllowed := false }.push t)
  else none

/-! ### All tokens -/

/-- The characters that begin no plain scalar by themselves. -/
def isIndicator (c : Char) : Bool := "-?:,[]\x7b\x7d#&*!|>'\"%@\x60".toList.contains c

/-- Whether a plain scalar may begin with a character that another one follows. -/
def beginsPlain (inFlow : Bool) (x : Char) (follows : Option Char) : Bool :=
  !isIndicator x || (x = '-' && !follows.any isBlank) ||
    (!inFlow && (x = '?' || x = ':') && !endsWord follows)

/-- Adds the token that begins with a character. -/
def token (l : Lexer) (x : Char) : Option Lexer :=
  let follows := l.cursor.peek? 1
  if l.cursor.column = 0 && x = '%' then l.directive
  else if l.cursor.atMark '-' then l.documentMark .documentStart
  else if l.cursor.atMark '.' then l.documentMark .documentEnd
  else if x = '[' then l.flowStart .flowSequence
  else if x = '\x7b' then l.flowStart .flowMapping
  else if x = ']' then l.flowEnd .flowSequenceEnd
  else if x = '\x7d' then l.flowEnd .flowMappingEnd
  else if x = ',' then l.flowEntry
  else if x = '-' && endsWord follows then l.blockEntry
  else if x = '?' && (l.inFlow || endsWord follows) then l.explicitKey
  else if x = ':' && (l.inFlow || endsWord follows) then l.value
  else if x = '*' then l.name .alias
  else if x = '&' then l.name .anchor
  else if x = '!' then l.tag
  else if x = '|' && !l.inFlow then l.block true
  else if x = '>' && !l.inFlow then l.block false
  else if x = '\'' then l.quoted true
  else if x = '"' then l.quoted false
  else if !isGap x && beginsPlain l.inFlow x follows then l.plain
  else none

/-- Closes what is open at the end of the text. -/
def finish (l : Lexer) : Option (Array Token) := do
  let l ← (l.closeBlocks (-1)).dropKey
  some l.tokens

/-- Reads token by token up to the end of the text. -/
def run : (fuel : Nat) → Lexer → Option (Array Token)
  | 0, _ => none
  | fuel + 1, l => do
    let l ← (l.skipGap (l.cursor.rest.length + 1)).dropStaleKeys
    let l := l.closeBlocks l.cursor.column
    match l.cursor.char? with
    | none => l.finish
    | some x => run fuel (← l.token x)

end Lexer

/-- The tokens of a text, or none when it cannot be cut into tokens. A byte order mark at its start
is no part of it. -/
def Token.ofText? (text : String) : Option (List Token) :=
  let cs := match text.toList with
    | '\ufeff' :: rest => rest
    | cs => cs
  if cs.all isPrintable then
    let cs := unifyBreaks cs
    (Lexer.run (cs.length + 1) { cursor := ⟨cs, 0, 0, 0⟩ }).map Array.toList
  else none

end Playbook.Yaml
