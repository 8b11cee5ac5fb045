import Playbook.Toml.Scalar

/-!
Documents of TOML. A text is read as a list of statements, one a line, which then build the table of
the document; one statement that cannot be read or has no place makes the whole text no document.
-/
namespace Playbook.Toml

/-- The names of a key or a header; points lead through the parents. -/
structure Key where
  parents : List String
  name : String
  deriving DecidableEq, Repr

def Key.path (k : Key) : List String := k.parents ++ [k.name]

inductive Statement where
  | pair (key : Key) (value : Value)
  | header (key : Key)
  /-- the header of one more table of a list -/
  | nextHeader (key : Key)

/-- Bound on the names of a key and on the nesting of values. -/
def maxDepth : Nat := 79

/-! ### Keys and values -/

def isNameChar (c : Char) : Bool := c.isAlphanum || c = '_' || c = '-'

/-- One name of a key. -/
def name? (cs : List Char) : Option (String × List Char) :=
  match cs with
  | '"' :: _ | '\'' :: _ => lineText? cs
  | cs =>
    let (word, rest) := cs.span isNameChar
    if word.isEmpty then none else some (String.ofList word, rest)

/-- A key with the blanks around it; `room` more names are allowed. -/
def key? : (room : Nat) → (parents : List String) → List Char → Option (Key × List Char)
  | 0, _, _ => none
  | room + 1, parents, cs => do
    let (name, rest) ← name? (skipBlanks cs)
    match skipBlanks rest with
    | '.' :: rest => key? room (parents ++ [name]) rest
    | rest => some (⟨parents, name⟩, rest)

/-- Leaves out blanks, line ends and comments, which may stand between the items of an array. -/
def skipGap (inComment : Bool) : List Char → Option (List Char)
  | [] => if inComment then none else some []
  | '\n' :: rest => skipGap false rest
  | '\r' :: '\n' :: rest => skipGap false rest
  | c :: rest =>
    if inComment then (if isPrintable c then skipGap true rest else none)
    else if isBlank c then skipGap false rest
    else if c = '#' then skipGap true rest
    else some (c :: rest)

mutual

/-- A value at the front; `room` levels of nesting are left. -/
def value? (room : Nat) : (fuel : Nat) → List Char → Option (Value × List Char)
  | 0, _ => none
  | fuel + 1, cs =>
    match cs with
    | '[' :: rest => if room = 0 then none else items? (room - 1) fuel rest []
    | c :: rest =>
      if c = '\x7b' then
        if room = 0 then none
        else match skipBlanks rest with
          | d :: rest' =>
            if d = '\x7d' then some (.table .closed [], rest') else entries? (room - 1) fuel rest []
          | [] => none
      else scalar? (c :: rest)
    | [] => none

/-- The items of an array up to its end; a comma may stand after the last one. -/
def items? (room : Nat) :
    (fuel : Nat) → List Char → (acc : List Value) → Option (Value × List Char)
  | 0, _, _ => none
  | fuel + 1, cs, acc => do
    match ← skipGap false cs with
    | ']' :: rest => some (.array acc.reverse, rest)
    | cs =>
      let (v, rest) ← value? room fuel cs
      match ← skipGap false rest with
      | ',' :: rest => items? room fuel rest (v :: acc)
      | ']' :: rest => some (.array (v :: acc).reverse, rest)
      | _ => none

/-- The entries of a table between braces, of which there is at least one; the table is closed after
them. -/
def entries? (room : Nat) :
    (fuel : Nat) → List Char → (acc : Table) → Option (Value × List Char)
  | 0, _, _ => none
  | fuel + 1, cs, acc => do
    let (key, rest) ← key? maxDepth [] cs
    let (v, rest) ← value? room fuel (skipBlanks (← sign? '=' rest))
    let acc ← Table.add key.name v key.parents acc
    match skipBlanks rest with
    | ',' :: rest => entries? room fuel rest acc
    | c :: rest => if c = '\x7d' then some (.table .closed acc, rest) else none
    | [] => none

end

/-! ### Statements -/

/-- What follows the rest of a line, which holds nothing but blanks and a comment. -/
def nextLine? (cs : List Char) : Option (List Char) :=
  let rest := match skipBlanks cs with
    | '#' :: rest => rest.dropWhile isPrintable
    | rest => rest
  if rest.isEmpty then some [] else afterLine? rest

/-- One statement, without the end of its line. -/
def statement? : List Char → Option (Statement × List Char)
  | '[' :: '[' :: rest => do
    let (key, rest) ← key? maxDepth [] rest
    some (.nextHeader key, ← sign? ']' (← sign? ']' rest))
  | '[' :: rest => do
    let (key, rest) ← key? maxDepth [] rest
    some (.header key, ← sign? ']' rest)
  | cs => do
    let (key, rest) ← key? maxDepth [] cs
    let (v, rest) ← value? maxDepth (2 * rest.length + 2) (skipBlanks (← sign? '=' rest))
    some (.pair key v, rest)

/-- The statements of a text. -/
def statements? : (fuel : Nat) → List Char → Option (List Statement)
  | 0, _ => none
  | fuel + 1, cs =>
    match nextLine? cs with
    | some [] => some []
    | some rest => statements? fuel rest
    | none => do
      let (s, rest) ← statement? (skipBlanks cs)
      some (s :: (← statements? fuel (← nextLine? rest)))

/-! ### The table of a document -/

/-- A document so far: its table, and the header under which pairs stand. -/
structure Draft where
  table : Table := []
  header : List String := []

def Draft.add (d : Draft) : Statement → Option Draft
  | .pair key value => do
    some { d with table := ← d.table.within (Table.add key.name value key.parents) d.header }
  | .header key => do some ⟨← d.table.within (Table.head key.name) key.parents, key.path⟩
  | .nextHeader key => do some ⟨← d.table.within (Table.headNext key.name) key.parents, key.path⟩

def Table.ofStatements? (ss : List Statement) : Option Table :=
  (ss.foldlM Draft.add {}).map Draft.table

/-- The table that a text holds; a mark of its byte order counts for nothing. -/
def parse? (s : String) : Option Table :=
  let cs := match s.toList with
    | '\ufeff' :: rest => rest
    | cs => cs
  (statements? (cs.length + 1) cs).bind Table.ofStatements?

end Playbook.Toml
