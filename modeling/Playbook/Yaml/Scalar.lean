import Playbook.Yaml.Cursor

/-!
Scalars: plain ones, quoted ones, and blocks. Inside a plain or quoted scalar a gap of blanks stays
as it is; a gap with breaks becomes one blank, or the breaks after the first one. A block keeps its
breaks, or folds single ones between lines that do not start with a blank.
-/
namespace Playbook.Yaml

/-- A gap inside a scalar. -/
structure Gap where
  /-- the blanks as long as there is no break, last first -/
  blanks : List Char := []
  /-- the first break, once there is one; nothing of it is left when it is escaped -/
  lead : Option (List Char) := none
  /-- the breaks after the first one, last first -/
  more : List Char := []

namespace Gap

/-- What stands for the gap in the scalar, last first. -/
def folded (g : Gap) : List Char :=
  match g.lead with
  | none => g.blanks
  | some ['\n'] => if g.more.isEmpty then [' '] else g.more
  | some lead => g.more ++ lead

/-- Reads on through a gap. Behind a break no tab may stand before column `indent`. -/
def read (indent : Nat) : (fuel : Nat) → Cursor → Gap → Option (Gap × Cursor)
  | 0, c, g => some (g, c)
  | fuel + 1, c, g =>
    match c.char? with
    | none => some (g, c)
    | some x =>
      if isBlank x then
        if g.lead.isNone then read indent fuel c.next { g with blanks := x :: g.blanks }
        else if x = '\t' && c.column < indent then none
        else read indent fuel c.next g
      else if isBreak x then
        if g.lead.isNone then read indent fuel c.next { lead := some [x] }
        else read indent fuel c.next { g with more := x :: g.more }
      else some (g, c)

end Gap

/-- A scalar, the cursor behind it, and whether a line ended between the two. -/
structure ReadScalar where
  text : String
  after : Cursor
  brokeLine : Bool := false

def scalarText (reversed : List Char) : String := String.ofList reversed.reverse

/-! ### Plain scalars -/

/-- The characters that end a plain scalar in a flow collection. -/
def endsPlainInFlow (c : Char) : Bool := c = ',' || c = '[' || c = ']' || c = '{' || c = '}'

/-- Reads up to the end of a word of a plain scalar, last character first. In a flow collection a
colon must not stand before an indicator. -/
def readWord (flow : Bool) : (fuel : Nat) → Cursor → List Char → Option (List Char × Cursor)
  | 0, c, word => some (word, c)
  | fuel + 1, c, word =>
    match c.char? with
    | none => some (word, c)
    | some x =>
      let follows := c.peek? 1
      if isGap x then some (word, c)
      else if flow && x = ':' && follows.any (fun y => y = '?' || endsPlainInFlow y) then none
      else if x = ':' && endsWord follows || flow && endsPlainInFlow x then some (word, c)
      else readWord flow fuel c.next (x :: word)

/-- Goes on with a plain scalar whose lines are indented by at least `indent`. -/
def readPlainFrom (flow : Bool) (indent : Nat) :
    (fuel : Nat) → Cursor → List Char → Gap → Option ReadScalar
  | 0, c, text, g => some ⟨scalarText text, c, g.lead.isSome⟩
  | fuel + 1, c, text, g =>
    if c.atDocumentMark || c.isAt '#' then some ⟨scalarText text, c, g.lead.isSome⟩
    else do
      let (word, c) ← readWord flow c.rest.length c []
      let (text, g) := if word.isEmpty then (text, g) else (word ++ g.folded ++ text, {})
      if c.atGap then do
        let (g, c) ← Gap.read indent c.rest.length c g
        if !flow && c.column < indent then some ⟨scalarText text, c, g.lead.isSome⟩
        else readPlainFrom flow indent fuel c text g
      else some ⟨scalarText text, c, g.lead.isSome⟩

def readPlain (flow : Bool) (indent : Nat) (c : Cursor) : Option ReadScalar :=
  readPlainFrom flow indent (c.rest.length + 1) c [] {}

/-! ### Quoted scalars -/

/-- The characters with an escape of their own. -/
def escapes : List (Char × Char) :=
  [('0', '\x00'), ('a', '\x07'), ('b', '\x08'), ('t', '\t'), ('\t', '\t'), ('n', '\n'), ('v', '\x0b'),
    ('f', '\x0c'), ('r', '\r'), ('e', '\x1b'), (' ', ' '), ('"', '"'), ('/', '/'), ('\\', '\\'),
    ('N', '\u0085'), ('_', '\u00a0'), ('L', '\u2028'), ('P', '\u2029')]

/-- The number of hexadecimal digits after an escape of a code point. -/
def escapeWidth? : Char → Option Nat
  | 'x' => some 2
  | 'u' => some 4
  | 'U' => some 8
  | _ => none

def hexDigit? (c : Char) : Option Nat :=
  if c.isDigit then some (c.toNat - '0'.toNat)
  else if 'a' ≤ c && c ≤ 'f' then some (c.toNat - 'a'.toNat + 10)
  else if 'A' ≤ c && c ≤ 'F' then some (c.toNat - 'A'.toNat + 10)
  else none

/-- The number that some digits write. -/
def hexNumber? (digits : List Char) : Option Nat :=
  digits.foldlM (fun n c => (hexDigit? c).map (n * 16 + ·)) 0

/-- The character of an escape after its backslash, and the cursor behind it. -/
def readEscape (c : Cursor) : Option (Char × Cursor) := do
  let x ← c.char?
  match escapes.lookup x with
  | some y => some (y, c.next)
  | none =>
    let width ← escapeWidth? x
    let digits := c.next.rest.take width
    let n ← hexNumber? digits
    if digits.length = width && n.isValidChar then some (Char.ofNat n, c.next.skip width) else none

/-- How a stretch of a quoted scalar without a gap ends. -/
inductive StretchEnd where
  | quote
  | gap
  | escapedBreak

/-- Reads up to the next gap, escaped break or closing quote. -/
def readStretch (single : Bool) :
    (fuel : Nat) → Cursor → List Char → Option (List Char × Cursor × StretchEnd)
  | 0, _, _ => none
  | fuel + 1, c, text =>
    match c.char? with
    | none => none
    | some x =>
      let follows := c.peek? 1
      if isGap x then some (text, c, .gap)
      else if single then
        if x ≠ '\'' then readStretch single fuel c.next (x :: text)
        else if follows = some '\'' then readStretch single fuel (c.skip 2) (x :: text)
        else some (text, c, .quote)
      else if x = '"' then some (text, c, .quote)
      else if x = '\\' then
        if follows.any isBreak then some (text, c.skip 2, .escapedBreak)
        else do
          let (y, c) ← readEscape c.next
          readStretch single fuel c (y :: text)
      else readStretch single fuel c.next (x :: text)

/-- Goes on with a quoted scalar, which a document mark must not interrupt. -/
def readQuotedFrom (single : Bool) : (fuel : Nat) → Cursor → List Char → Option ReadScalar
  | 0, _, _ => none
  | fuel + 1, c, text =>
    if c.atDocumentMark then none
    else do
      let (text, c, stop) ← readStretch single (c.rest.length + 1) c text
      match stop with
      | .quote => some { text := scalarText text, after := c.next }
      | .gap => do
        let (g, c) ← Gap.read 0 c.rest.length c {}
        readQuotedFrom single fuel c (g.folded ++ text)
      | .escapedBreak =>
        if c.isAt '"' then some { text := scalarText text, after := c.next }
        else do
          let (g, c) ← Gap.read 0 c.rest.length c { lead := some [] }
          readQuotedFrom single fuel c (g.folded ++ text)

/-- Reads a scalar behind its opening quote. -/
def readQuoted (single : Bool) (c : Cursor) : Option ReadScalar :=
  readQuotedFrom single (c.rest.length + 1) c.next []

/-! ### Blocks -/

/-- What happens to the breaks at the end of a block. -/
inductive Chomping where
  | strip | clip | keep
  deriving DecidableEq, Repr

/-- The indentation indicator: a digit from one to nine. -/
def readIndicator (c : Cursor) : Option (Option Nat × Cursor) :=
  match c.char? with
  | some x =>
    if x = '0' then none
    else if x.isDigit then some (some (x.toNat - '0'.toNat), c.next)
    else some (none, c)
  | none => some (none, c)

def readChomping (c : Cursor) : Option Chomping × Cursor :=
  match c.char? with
  | some '+' => (some .keep, c.next)
  | some '-' => (some .strip, c.next)
  | _ => (none, c)

/-- The chomping and the indentation of a block in either order. -/
def readHeader (c : Cursor) : Option (Chomping × Option Nat × Cursor) :=
  match readChomping c with
  | (some chomping, c) => (readIndicator c).map fun (n, c) => (chomping, n, c)
  | (none, c) => do
    match ← readIndicator c with
    | (some n, c) =>
      let (chomping, c) := readChomping c
      some (chomping.getD .clip, some n, c)
    | (none, c) => some (.clip, none, c)

/-- Reads the empty lines before the next line of a block: their breaks, last first, the greatest
column reached, and the cursor at the line. A tab must not stand in for indentation. -/
def readEmptyLines (indent : Option Nat) :
    (fuel : Nat) → Cursor → (breaks : List Char) → (deepest : Nat) → Option (List Char × Nat × Cursor)
  | 0, c, breaks, deepest => some (breaks, deepest, c)
  | fuel + 1, c, breaks, deepest =>
    let indentation := c.rest.takeWhile (· = ' ')
    let width := match indent with
      | none => indentation.length
      | some n => min indentation.length (n - c.column)
    let c := c.skip width
    let deepest := max deepest c.column
    let within := match indent with
      | none => true
      | some n => decide (c.column < n)
    match c.char? with
    | some x =>
      if within && x = '\t' then none
      else if isBreak x then readEmptyLines indent fuel c.next (x :: breaks) deepest
      else some (breaks, deepest, c)
    | none => some (breaks, deepest, c)

/-- The lines of a block that are read so far, last character first, and what is open. -/
structure BlockLines where
  text : List Char := []
  /-- the break at the end of the last line -/
  lead : List Char := []
  /-- the breaks of the empty lines after it, last first -/
  more : List Char := []
  /-- whether the last line starts with a blank -/
  startsBlank : Bool := false

/-- Adds a line: its break folds into a blank where neither neighbour starts with a blank. -/
def BlockLines.add (literal : Bool) (b : BlockLines) (line : List Char) : BlockLines :=
  let startsBlank := line.head?.any isBlank
  let folds := !literal && b.lead = ['\n'] && !b.startsBlank && !startsBlank
  let joint := if folds then (if b.more.isEmpty then [' '] else b.more) else b.more ++ b.lead
  { text := line.reverse ++ joint ++ b.text, startsBlank }

/-- Reads the lines of a block. -/
def readBlockLines (literal : Bool) (indent : Nat) :
    (fuel : Nat) → Cursor → BlockLines → Option (BlockLines × Cursor)
  | 0, c, b => some (b, c)
  | fuel + 1, c, b =>
    if c.column = indent && !c.rest.isEmpty then do
      let (line, c) := c.span fun x => !isBreak x
      let b := b.add literal line
      let b := { b with lead := c.char?.toList }
      let (more, _, c) ← readEmptyLines (some indent) (c.rest.length + 1) c.next [] 0
      readBlockLines literal indent fuel c { b with more }
    else some (b, c)

/-- Reads a block behind its indicator; `parent` is the indentation of the node that holds it. -/
def readBlock (literal : Bool) (parent : Int) (c : Cursor) : Option ReadScalar := do
  let (chomping, indicator, c) ← readHeader c.next
  let c := (c.skipWhile isBlank).skipComment
  if !(c.rest.isEmpty || c.atBreak) then none
  else do
    let given := indicator.map fun n => if 0 ≤ parent then parent.toNat + n else n
    let c := c.next
    let (breaks, deepest, c) ← readEmptyLines given (c.rest.length + 1) c [] 0
    let indent := given.getD (max deepest (max (parent + 1).toNat 1))
    let (b, c) ← readBlockLines literal indent (c.rest.length + 1) c { more := breaks }
    let tail := match chomping with
      | .strip => []
      | .clip => b.lead
      | .keep => b.more ++ b.lead
    some { text := scalarText (tail ++ b.text), after := c }

end Playbook.Yaml
