import Playbook.Pattern.Basic

/-!
Reading a text pattern. Groups, classes, repetitions, assertions and flags are read; look-around and
references back are refused, as is every pattern that is not well formed. What is wrong is not told.
-/
namespace Playbook.Pattern

/-- The flags that hold for the rest of a group. -/
structure Flags where
  anyCase : Bool := false
  multiLine : Bool := false
  dotAll : Bool := false
  crlf : Bool := false
  unicode : Bool := true
  verbose : Bool := false

/-- A pattern whose program would be longer than this is refused. -/
def maxSize : Nat := 200000

def maxNesting : Nat := 250

/-- Skips blanks and comments where the verbose flag is set. -/
def skipVerbose (flags : Flags) : (fuel : Nat) → List Char → List Char
  | 0, cs => cs
  | fuel + 1, cs =>
    if !flags.verbose then cs
    else match cs with
      | c :: rest =>
        if Text.isBlank c then skipVerbose flags fuel rest
        else if c = '#' then
          skipVerbose flags fuel ((rest.dropWhile (· ≠ '\n')).drop 1)
        else cs
      | [] => []

def hexDigit? (c : Char) : Option Nat :=
  if '0' ≤ c ∧ c ≤ '9' then some (c.toNat - 48)
  else if 'a' ≤ c ∧ c ≤ 'f' then some (c.toNat - 87)
  else if 'A' ≤ c ∧ c ≤ 'F' then some (c.toNat - 55)
  else none

/-- The character of a code point in hexadecimal digits. -/
def hexChar? (ds : List Char) : Option Char := do
  let values ← ds.mapM hexDigit?
  let n := values.foldl (fun n d => if n > 0x10ffff then n else n * 16 + d) 0
  if values.isEmpty then none
  else if n.isValidChar then some (Char.ofNat n) else none

/-- The digits of a hexadecimal escape: `width` of them, or any number in braces. -/
def readHex? (width : Nat) (cs : List Char) : Option (Char × List Char) :=
  match cs with
  | c :: rest =>
    if c = '\x7b' then
      let ds := rest.takeWhile (· ≠ '\x7d')
      match rest.dropWhile (· ≠ '\x7d') with
      | _ :: rest => (hexChar? ds).map (·, rest)
      | [] => none
    else if (c :: rest).length < width then none
    else (hexChar? ((c :: rest).take width)).map (·, (c :: rest).drop width)
  | [] => none

/-- A set under the flags of its place; without the Unicode flag only ASCII letters have a case. -/
def underFlags (flags : Flags) (s : CharSet) : CharSet :=
  let ascii : CharSet := .range 0 0x7f
  if !flags.anyCase then s
  else if flags.unicode then .anyCase s
  else .union s (.inter ascii (.anyCase (.inter ascii s)))

/-- A single character, a class, or a question about a position. -/
inductive Escape where
  | char (c : Char)
  | set (s : CharSet)
  | assert (a : Assertion)

/-- A set and its complement under one letter; the complement needs the Unicode flag. -/
def classEscape (flags : Flags) (negated : Bool) (wide ascii : CharSet) : Option Escape :=
  if negated then (if flags.unicode then some (.set (.complement wide)) else none)
  else some (.set (if flags.unicode then wide else ascii))

/-- A property by its name, which may stand after the name of what it is a category of. -/
def property? (name : List Char) : Option CharSet :=
  match name.span fun c => c ≠ '=' && c ≠ ':' with
  | (name, []) => CharSet.property? (String.ofList name)
  | (kind, _ :: value) =>
    let differs := kind.getLast? = some '!'
    let kind := if differs then kind.dropLast else kind
    if ["gc", "generalcategory"].contains (CharSet.looseName (String.ofList kind)) then
      (CharSet.property? (String.ofList value)).map fun s => if differs then .complement s else s
    else none

/-- The name of a property: one letter, or a name in braces. -/
def readProperty? (flags : Flags) (negated : Bool) (cs : List Char) :
    Option (Escape × List Char) := do
  if !flags.unicode then none
  else match cs with
    | c :: rest =>
      if c = '\x7b' then
        let name := rest.takeWhile (· ≠ '\x7d')
        let rest ← match rest.dropWhile (· ≠ '\x7d') with
          | _ :: rest => some rest
          | [] => none
        let s ← property? name
        some (.set (if negated then .complement (underFlags flags s) else s), rest)
      else
        let s ← CharSet.property? (String.ofList [c])
        some (.set (if negated then .complement (underFlags flags s) else s), rest)
    | [] => none

/-- The special boundaries that `\b` names in braces. -/
def readBoundary (ascii : Bool) (cs : List Char) : Option (Assertion × List Char) :=
  match cs with
  | c :: rest =>
    if c = '\x7b' then
      let name := rest.takeWhile (· ≠ '\x7d')
      match rest.dropWhile (· ≠ '\x7d') with
      | _ :: rest =>
        match String.ofList name with
        | "start" => some (.wordStart ascii, rest)
        | "end" => some (.wordEnd ascii, rest)
        | "start-half" => some (.halfStart ascii, rest)
        | "end-half" => some (.halfEnd ascii, rest)
        | _ => none
      | [] => none
    else some (.boundary ascii, c :: rest)
  | [] => some (.boundary ascii, [])

/-- What follows a backslash. -/
def readEscape? (flags : Flags) (cs : List Char) : Option (Escape × List Char) :=
  let ascii := !flags.unicode
  match cs with
  | [] => none
  | c :: rest =>
    match c with
    | 'd' => (classEscape flags false .digit .asciiDigit).map (·, rest)
    | 'D' => (classEscape flags true .digit .asciiDigit).map (·, rest)
    | 's' => (classEscape flags false .blank .asciiBlank).map (·, rest)
    | 'S' => (classEscape flags true .blank .asciiBlank).map (·, rest)
    | 'w' => (classEscape flags false .word .asciiWord).map (·, rest)
    | 'W' => (classEscape flags true .word .asciiWord).map (·, rest)
    | 'p' => readProperty? flags false rest
    | 'P' => readProperty? flags true rest
    | 'a' => some (.char (Char.ofNat 7), rest)
    | 'f' => some (.char (Char.ofNat 12), rest)
    | 't' => some (.char '\t', rest)
    | 'n' => some (.char '\n', rest)
    | 'r' => some (.char '\r', rest)
    | 'v' => some (.char (Char.ofNat 11), rest)
    | 'x' => do
      let (x, after) ← readHex? 2 rest
      -- two digits mean a byte where the Unicode flag is off, and no byte above 127 is a character
      if ascii && rest.head? ≠ some '\x7b' && 0x7f < x.toNat then none else some (.char x, after)
    | 'u' => (readHex? 4 rest).map fun (c, rest) => (.char c, rest)
    | 'U' => (readHex? 8 rest).map fun (c, rest) => (.char c, rest)
    | 'A' => some (.assert .textStart, rest)
    | 'z' => some (.assert .textEnd, rest)
    | 'b' => (readBoundary ascii rest).map fun (a, rest) => (.assert a, rest)
    | 'B' => some (.assert (.notBoundary ascii), rest)
    | '<' => some (.assert (.wordStart ascii), rest)
    | '>' => some (.assert (.wordEnd ascii), rest)
    | c => if c.toNat < 0x80 && !c.isAlphanum then some (.char c, rest) else none

/-- A character as a member of a class; without the Unicode flag classes hold ASCII only. -/
def member? (flags : Flags) (c : Char) (rest : List Char) :
    Option ((Char ⊕ CharSet) × List Char) :=
  if flags.unicode || c.toNat < 0x80 then some (.inl c, rest) else none

/-- One member of a class: a character that may start a range, or a set. -/
def readMember? (flags : Flags) (cs : List Char) : Option ((Char ⊕ CharSet) × List Char) :=
  match cs with
  | '\\' :: rest =>
    match readEscape? flags rest with
    | some (.char c, rest) => member? flags c rest
    | some (.set s, rest) => some (.inr s, rest)
    | _ => none
  | c :: rest => member? flags c rest
  | [] => none

/-- A named ASCII class between `[:` and `:]`. -/
def readNamedClass? (flags : Flags) (cs : List Char) : Option (CharSet × List Char) :=
  match cs with
  | '[' :: ':' :: rest =>
    let (negated, rest) := match rest with
      | '^' :: rest => (true, rest)
      | _ => (false, rest)
    let name := rest.takeWhile Char.isAlpha
    match rest.dropWhile Char.isAlpha with
    | ':' :: ']' :: rest =>
      (CharSet.named? (String.ofList name)).map fun s =>
        (if negated then .complement (underFlags flags s) else s, rest)
    | _ => none
  | _ => none

/-- How the members read so far are joined with those that follow. -/
inductive SetOp where
  | union | inter | diff | symmetric

def SetOp.apply : SetOp → CharSet → CharSet → CharSet
  | .union, a, b => .union a b
  | .inter, a, b => .inter a b
  | .diff, a, b => .diff a b
  | .symmetric, a, b => a.symmetric b

/-- The members of a class up to its closing bracket. `left` and `op` hold what stands before the
last set operator, `acc` the members since. -/
def readMembers? (flags : Flags) : (fuel room : Nat) → List Char → (first : Bool) →
    (left : CharSet) → (op : SetOp) → (acc : CharSet) → Option (CharSet × List Char)
  | 0, _, _, _, _, _, _ => none
  | fuel + 1, room, cs, first, left, op, acc =>
    match skipVerbose flags cs.length cs with
    | [] => none
    | ']' :: rest =>
      if first then readRange? flags fuel room (']' :: rest) left op acc
      else some (op.apply left (underFlags flags acc), rest)
    | '&' :: '&' :: rest =>
      readMembers? flags fuel room rest false (op.apply left (underFlags flags acc)) .inter .none
    | '-' :: rest =>
      if first then
        readMembers? flags fuel room (rest.dropWhile (· = '-')) false left op
          (.union acc (.char '-'))
      else match rest with
        | '-' :: rest =>
          readMembers? flags fuel room rest false (op.apply left (underFlags flags acc)) .diff .none
        | rest => readRange? flags fuel room ('-' :: rest) left op acc
    | '~' :: '~' :: rest =>
      readMembers? flags fuel room rest false (op.apply left (underFlags flags acc)) .symmetric
        .none
    | '[' :: rest =>
      match readNamedClass? flags ('[' :: rest) with
      | some (s, rest) => readMembers? flags fuel room rest false left op (.union acc s)
      | none =>
        match room with
        | 0 => none
        | room + 1 =>
          let (negated, inner) := match skipVerbose flags rest.length rest with
            | '^' :: inner => (true, inner)
            | inner => (false, inner)
          match readMembers? flags fuel room inner true .none .union .none with
          | some (s, rest) =>
            if negated && !flags.unicode then none
            else
              let s := if negated then .complement s else s
              readMembers? flags fuel (room + 1) rest false left op (.union acc s)
          | none => none
    | cs => readRange? flags fuel room cs left op acc
where
  /-- A member and, after a dash, the end of its range. -/
  readRange? (flags : Flags) : (fuel room : Nat) → List Char → (left : CharSet) → (op : SetOp) →
      (acc : CharSet) → Option (CharSet × List Char)
    | 0, _, _, _, _, _ => none
    | fuel + 1, room, cs, left, op, acc =>
      match readMember? flags cs with
      | none => none
      | some (.inr s, rest) =>
        match skipVerbose flags rest.length rest with
        | '-' :: c :: rest' =>
          if c = ']' ∨ c = '-' then
            readMembers? flags fuel room ('-' :: c :: rest') false left op (.union acc s)
          else none
        | rest => readMembers? flags fuel room rest false left op (.union acc s)
      | some (.inl low, rest) =>
        match skipVerbose flags rest.length rest with
        | '-' :: rest' =>
          match skipVerbose flags rest'.length rest' with
          | c :: rest'' =>
            if c = ']' ∨ c = '-' then
              readMembers? flags fuel room ('-' :: c :: rest'') false left op
                (.union acc (.char low))
            else match readMember? flags (c :: rest'') with
              | some (.inl high, rest) =>
                if low.toNat ≤ high.toNat then
                  readMembers? flags fuel room rest false left op
                    (.union acc (.range low.toNat high.toNat))
                else none
              | _ => none
          | [] => none
        | rest => readMembers? flags fuel room rest false left op (.union acc (.char low))

/-- A class after its opening bracket. -/
def readClass? (flags : Flags) (cs : List Char) : Option (CharSet × List Char) :=
  let (negated, inner) := match skipVerbose flags cs.length cs with
    | '^' :: inner => (true, inner)
    | inner => (false, inner)
  match readMembers? flags (3 * cs.length + 3) maxNesting inner true .none .union .none with
  | some (s, rest) =>
    if negated then (if flags.unicode then some (.complement s, rest) else none)
    else some (s, rest)
  | none => none

/-- A decimal number between blanks. -/
def readCount? (cs : List Char) : Option (Nat × List Char) :=
  let cs := cs.dropWhile Text.isBlank
  match cs.takeWhile Char.isDigit with
  | [] => none
  | ds =>
    let n := ds.foldl (fun n c => if n > Nat.pow 2 32 then n else n * 10 + (c.toNat - 48)) 0
    if n < Nat.pow 2 32 then some (n, (cs.dropWhile Char.isDigit).dropWhile Text.isBlank) else none

/-- The bounds of a counted repetition, after its opening brace. -/
def readBounds? (cs : List Char) : Option (Nat × Option Nat × List Char) := do
  let (low, rest) ← readCount? cs
  let (high, rest) ← match rest with
    | ',' :: rest =>
      match rest.dropWhile Text.isBlank with
      | c :: rest' =>
        if c = '\x7d' then some (none, c :: rest')
        else (readCount? (c :: rest')).map fun (n, rest) => (some n, rest)
      | [] => none
    | _ => some (some low, rest)
  match rest with
  | c :: rest =>
    if c = '\x7d' then
      match high with
      | some high => if low ≤ high then some (low, some high, rest) else none
      | none => some (low, none, rest)
    else none
  | [] => none

/-- Sets the flag of a letter. -/
def Flags.set? (flags : Flags) (letter : Char) (value : Bool) : Option Flags :=
  match letter with
  | 'i' => some { flags with anyCase := value }
  | 'm' => some { flags with multiLine := value }
  | 's' => some { flags with dotAll := value }
  | 'R' => some { flags with crlf := value }
  | 'U' => some flags
  | 'u' => some { flags with unicode := value }
  | 'x' => some { flags with verbose := value }
  | _ => none

/-- The letters of a flag group, up to what ends it; those after a hyphen are switched off. No letter
stands twice, and a hyphen has letters after it. -/
def readFlags? : (fuel : Nat) → List Char → (value : Bool) → (seen : List Char) → Flags →
    Option (Flags × List Char)
  | 0, _, _, _, _ => none
  | fuel + 1, cs, value, seen, flags =>
    match cs with
    | ':' :: _ => if value || seen.head? ≠ some '-' then some (flags, cs) else none
    | ')' :: _ => if seen.isEmpty || seen.head? = some '-' then none else some (flags, cs)
    | c :: rest =>
      if seen.contains c then none
      else if c = '-' then readFlags? fuel rest false (c :: seen) flags
      else do readFlags? fuel rest value (c :: seen) (← flags.set? c value)
    | [] => none

/-- The name of a group, up to its closing bracket. -/
def readGroupName? (cs : List Char) : Option (String × List Char) :=
  let name := cs.takeWhile (· ≠ '>')
  match name, cs.dropWhile (· ≠ '>') with
  | c :: more, _ :: rest =>
    let starts (c : Char) : Bool := c = '_' || (Text.isAlphanumeric c && !Text.isDecimalDigit c)
    let goesOn (c : Char) : Bool :=
      starts c || Text.isAlphanumeric c || c = '.' || c = '[' || c = ']'
    if starts c && more.all goesOn then some (String.ofList name, rest) else none
  | _, _ => none

def dot (flags : Flags) : Option CharSet :=
  if !flags.unicode then none
  else if flags.dotAll then some (.range 0 0x10ffff)
  else if flags.crlf then some (.complement (.ranges [(10, 10), (13, 13)]))
  else some (.complement (.char '\n'))

def caret (flags : Flags) : Assertion :=
  if flags.multiLine then (if flags.crlf then .lineStartCrlf else .lineStart) else .textStart

def dollar (flags : Flags) : Assertion :=
  if flags.multiLine then (if flags.crlf then .lineEndCrlf else .lineEnd) else .textEnd

/-- What has been read of a group: the branches before the current one, the items of the current
one (last first), and whether the last item can be repeated. -/
structure Open where
  flags : Flags
  names : List String
  branches : List Tree
  items : List Tree
  repeatable : Bool

def Open.push (o : Open) (p : Tree) : Open :=
  { o with items := p :: o.items, repeatable := true }

def Open.close (o : Open) : Tree :=
  o.branches.foldl (fun p b => .alt b p) (Tree.sequence o.items.reverse)

/-- Repeats the last item. -/
def Open.repeatLast (o : Open) (low : Nat) (high : Option Nat) : Option Open :=
  match o.repeatable, o.items with
  | true, p :: items =>
    let copies := max low (high.getD (low + 1))
    if (p.size + 2) * copies ≤ maxSize then
      some { o with items := p.repeated low high :: items }
    else none
  | _, _ => none

/-- A quantifier may be followed by a question mark. -/
def skipLazy (flags : Flags) (cs : List Char) : List Char :=
  match skipVerbose flags cs.length cs with
  | '?' :: rest => rest
  | rest => rest

/-- Reads a group up to its end; the closing parenthesis is left. -/
def readGroup? : (fuel room : Nat) → Open → List Char → Option (Open × List Char)
  | 0, _, _, _ => none
  | fuel + 1, room, o, cs =>
    match skipVerbose o.flags cs.length cs with
    | [] => some (o, [])
    | ')' :: rest => some (o, ')' :: rest)
    | '|' :: rest =>
      let branch := Tree.sequence o.items.reverse
      readGroup? fuel room
        { o with branches := branch :: o.branches, items := [], repeatable := false } rest
    | '*' :: rest => do readGroup? fuel room (← o.repeatLast 0 none) (skipLazy o.flags rest)
    | '+' :: rest => do readGroup? fuel room (← o.repeatLast 1 none) (skipLazy o.flags rest)
    | '?' :: rest => do readGroup? fuel room (← o.repeatLast 0 (some 1)) (skipLazy o.flags rest)
    | '.' :: rest => do readGroup? fuel room (o.push (.set (← dot o.flags))) rest
    | '^' :: rest => readGroup? fuel room (o.push (.assert (caret o.flags))) rest
    | '$' :: rest => readGroup? fuel room (o.push (.assert (dollar o.flags))) rest
    | '[' :: rest => do
      let (s, rest) ← readClass? o.flags rest
      readGroup? fuel room (o.push (.set s)) rest
    | '\\' :: rest => do
      let (escape, rest) ← readEscape? o.flags rest
      let p : Tree := match escape with
        | .char c => .set (underFlags o.flags (.char c))
        | .set s => .set (underFlags o.flags s)
        | .assert a => .assert a
      readGroup? fuel room (o.push p) rest
    | '(' :: rest =>
      match room with
      | 0 => none
      | room + 1 =>
        let enter (inner : Open) (rest : List Char) : Option (Open × List Char) :=
          match readGroup? fuel room inner rest with
          | some (inner, ')' :: rest) =>
            readGroup? fuel (room + 1) ({ o with names := inner.names }.push inner.close) rest
          | _ => none
        match skipVerbose o.flags rest.length rest with
        | '?' :: 'P' :: '<' :: rest => do
          let (name, rest) ← readGroupName? rest
          if o.names.contains name then none
          else enter ⟨o.flags, name :: o.names, [], [], false⟩ rest
        | '?' :: '<' :: rest => do
          let (name, rest) ← readGroupName? rest
          if o.names.contains name then none
          else enter ⟨o.flags, name :: o.names, [], [], false⟩ rest
        | '?' :: rest => do
          let (flags, rest) ← readFlags? (rest.length + 1) rest true [] o.flags
          match rest with
          | ':' :: rest => enter ⟨flags, o.names, [], [], false⟩ rest
          | ')' :: rest =>
            readGroup? fuel (room + 1) { o with flags := flags, repeatable := false } rest
          | _ => none
        | rest => enter ⟨o.flags, o.names, [], [], false⟩ rest
    | c :: rest =>
      if c = '\x7b' then do
        let (low, high, rest) ← readBounds? rest
        readGroup? fuel room (← o.repeatLast low high) (skipLazy o.flags rest)
      else readGroup? fuel room (o.push (.set (underFlags o.flags (.char c)))) rest

/-- The pattern that a text spells, if it spells one. -/
def parse? (s : String) : Option Tree :=
  let cs := s.toList
  match readGroup? (cs.length + 1) maxNesting ⟨{}, [], [], [], false⟩ cs with
  | some (o, []) => if o.close.size ≤ maxSize then some o.close else none
  | _ => none

end Playbook.Pattern
