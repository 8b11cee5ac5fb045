import Playbook.Yaml.Token

/-!
Nodes: the tree that the tokens of a document build, before scalars have values. An anchor gives a
node a slot, and an alias stands for the node in a slot. A new anchor takes the slot whose number is
the count of the names so far.
-/
namespace Playbook.Yaml

inductive Node where
  | scalar (tag : Option String) (text : String) (plain : Bool)
  | list (tag : Option String) (items : List Node)
  | table (tag : Option String) (entries : List (Node × Node))
  | alias (slot : Nat)

/-- What stands where nothing is written. -/
def Node.empty : Node := .scalar none "" true

/-- The nodes that bear anchors. -/
structure Anchors where
  /-- the slots of the names, the newest first -/
  slots : List (String × Nat) := []
  /-- which anchor holds a slot, the newest first; anchors are counted as they begin -/
  holders : List (Nat × Nat) := []
  /-- the nodes that are complete, by the counts of their anchors -/
  nodes : List (Nat × Node) := []

namespace Anchors

def names (a : Anchors) : Nat := (a.slots.map Prod.fst).eraseDups.length

/-- Begins a node with an anchor. -/
def begin (name : String) (a : Anchors) : Anchors :=
  { a with
    slots := (name, a.names) :: a.slots
    holders := (a.names, a.holders.length) :: a.holders }

/-- The node in a slot. -/
def node? (a : Anchors) (slot : Nat) : Option Node := do a.nodes.lookup (← a.holders.lookup slot)

end Anchors

/-- What is left to read, the handles of tags, and the anchors so far. -/
structure ReadState where
  tokens : List Token
  handles : List (String × String) := [("!", "!"), ("!!", "tag:yaml.org,2002:")]
  anchors : Anchors := {}

abbrev Reader := StateT ReadState Option

namespace Reader

def stop {α : Type} : Reader α := fun _ => none

def head? : Reader (Option Token) := do return (← get).tokens.head?

def pop : Reader Unit := modify fun s => { s with tokens := s.tokens.tail }

/-- Whether the next token is among some. -/
def headIn (ts : List Token) : Reader Bool := do return (← head?).any ts.contains

/-- The tag that a handle and a suffix make. -/
def resolveTag (handle suffix : String) : Reader String := do
  if handle.isEmpty then return suffix
  match (← get).handles.lookup handle with
  | some beginning => return beginning ++ suffix
  | none => stop

def tag? : Reader (Option String) := do
  match ← head? with
  | some (.tag handle suffix) => do
    pop
    return some (← resolveTag handle suffix)
  | _ => return none

def anchor? : Reader (Option String) := do
  match ← head? with
  | some (.anchor name) => do
    pop
    return some name
  | _ => return none

/-- An anchor and a tag in either order. -/
def properties : Reader (Option String × Option String) := do
  match ← anchor? with
  | some a => return (some a, ← tag?)
  | none => do
    let tag ← tag?
    return (← anchor?, tag)

/-- Reads a node and keeps it under its anchor. -/
def anchored (name : Option String) (node : Reader Node) : Reader Node := do
  match name with
  | none => node
  | some name => do
    let count := (← get).anchors.holders.length
    modify fun s => { s with anchors := s.anchors.begin name }
    let n ← node
    modify fun s => { s with anchors := { s.anchors with nodes := (count, n) :: s.anchors.nodes } }
    return n

/-- Where a value is missing in a block mapping. -/
def blockMappingEnds : List Token := [.key, .value, .blockEnd]

/-- Where an item is missing in a sequence that is not indented. -/
def indentlessEnds : List Token := [.blockEntry, .key, .value, .blockEnd]

/-- Where a key is missing in a flow mapping. -/
def flowKeyEnds : List Token := [.value, .flowEntry, .flowMappingEnd]

mutual

/-- A node; in a block it may be a block collection, and a sequence that is not indented where that
is said. -/
def node (block indentless : Bool) : (fuel : Nat) → Reader Node
  | 0 => stop
  | fuel + 1 => do
    match ← head? with
    | some (.alias name) => do
      pop
      match (← get).anchors.slots.lookup name with
      | some slot => return .alias slot
      | none => stop
    | _ => do
      let (anchor, tag) ← properties
      anchored anchor (content block indentless (anchor.isSome || tag.isSome) tag fuel)

def content (block indentless hasProperties : Bool) (tag : Option String) :
    (fuel : Nat) → Reader Node
  | 0 => stop
  | fuel + 1 => do
    match ← head? with
    | some .blockEntry =>
      if indentless then return .list tag (← indentlessItems fuel)
      else if hasProperties then return .scalar tag "" true
      else stop
    | some (.scalar text plain) => do
      pop
      -- an exclamation mark alone says nothing about a scalar that is there
      return .scalar (tag.filter (· ≠ "!")) text plain
    | some .flowSequence => do
      pop
      return .list tag (← flowItems true fuel)
    | some .flowMapping => do
      pop
      return .table tag (← flowEntries true fuel)
    | some .blockSequence =>
      if block then do
        pop
        return .list tag (← blockItems fuel)
      else if hasProperties then return .scalar tag "" true
      else stop
    | some .blockMapping =>
      if block then do
        pop
        return .table tag (← blockEntries fuel)
      else if hasProperties then return .scalar tag "" true
      else stop
    | _ => if hasProperties then return .scalar tag "" true else stop

/-- A node, or nothing before one of some tokens. -/
def nodeUnless (ends : List Token) (block indentless : Bool) : (fuel : Nat) → Reader Node
  | 0 => stop
  | fuel + 1 => do if ← headIn ends then return .empty else node block indentless fuel

/-- The items of a block sequence up to its end. -/
def blockItems : (fuel : Nat) → Reader (List Node)
  | 0 => stop
  | fuel + 1 => do
    match ← head? with
    | some .blockEntry => do
      pop
      let item ← nodeUnless [.blockEntry, .blockEnd] true false fuel
      return item :: (← blockItems fuel)
    | some .blockEnd => do
      pop
      return []
    | _ => stop

/-- The items of a sequence that is not indented; whatever follows ends it. -/
def indentlessItems : (fuel : Nat) → Reader (List Node)
  | 0 => stop
  | fuel + 1 => do
    match ← head? with
    | some .blockEntry => do
      pop
      let item ← nodeUnless indentlessEnds true false fuel
      return item :: (← indentlessItems fuel)
    | _ => return []

/-- The value behind a key of a block mapping; it may be missing. -/
def blockValue : (fuel : Nat) → Reader Node
  | 0 => stop
  | fuel + 1 => do
    match ← head? with
    | some .value => do
      pop
      nodeUnless blockMappingEnds true true fuel
    | _ => return .empty

/-- The entries of a block mapping up to its end. -/
def blockEntries : (fuel : Nat) → Reader (List (Node × Node))
  | 0 => stop
  | fuel + 1 => do
    match ← head? with
    | some .key => do
      pop
      let k ← nodeUnless blockMappingEnds true true fuel
      let v ← blockValue fuel
      return (k, v) :: (← blockEntries fuel)
    | some .blockEnd => do
      pop
      return []
    | _ => stop

/-- The value behind a key in a flow collection that some token ends; it may be missing. -/
def flowValue (closing : Token) : (fuel : Nat) → Reader Node
  | 0 => stop
  | fuel + 1 => do
    match ← head? with
    | some .value => do
      pop
      nodeUnless [.flowEntry, closing] false false fuel
    | _ => return .empty

/-- An item of a flow sequence; an entry stands for a mapping that holds it alone. -/
def flowItem : (fuel : Nat) → Reader Node
  | 0 => stop
  | fuel + 1 => do
    match ← head? with
    | some .key => do
      pop
      let k ← node false false fuel
      return .table none [(k, ← flowValue .flowSequenceEnd fuel)]
    | _ => node false false fuel

/-- The items of a flow sequence up to its end, with commas between them. -/
def flowItems (first : Bool) : (fuel : Nat) → Reader (List Node)
  | 0 => stop
  | fuel + 1 => do
    match ← head? with
    | some .flowSequenceEnd => do
      pop
      return []
    | some .flowEntry => do
      if first then stop
      pop
      if ← headIn [.flowSequenceEnd] then flowItems false fuel
      else do
        let item ← flowItem fuel
        return item :: (← flowItems false fuel)
    | _ => do
      if !first then stop
      let item ← flowItem fuel
      return item :: (← flowItems false fuel)

/-- An entry of a flow mapping; without a key mark it is a key without a value. -/
def flowMappingEntry : (fuel : Nat) → Reader (Node × Node)
  | 0 => stop
  | fuel + 1 => do
    match ← head? with
    | some .key => do
      pop
      let k ← nodeUnless flowKeyEnds false false fuel
      return (k, ← flowValue .flowMappingEnd fuel)
    | _ => return (← node false false fuel, .empty)

/-- The entries of a flow mapping up to its end, with commas between them. -/
def flowEntries (first : Bool) : (fuel : Nat) → Reader (List (Node × Node))
  | 0 => stop
  | fuel + 1 => do
    match ← head? with
    | some .flowMappingEnd => do
      pop
      return []
    | some .flowEntry => do
      if first then stop
      pop
      if ← headIn [.flowMappingEnd] then flowEntries false fuel
      else do
        let e ← flowMappingEntry fuel
        return e :: (← flowEntries false fuel)
    | _ => do
      if !first then stop
      let e ← flowMappingEntry fuel
      return e :: (← flowEntries false fuel)

end

/-! ### Documents -/

/-- Reads the directives before a document: one version at most, and each handle once. -/
def directives : (fuel : Nat) → (versioned : Bool) → (handles : List String) → Reader Bool
  | 0, _, _ => stop
  | fuel + 1, versioned, handles => do
    match ← head? with
    | some (.version major minor) => do
      if versioned || major ≠ 1 || (minor ≠ 1 && minor ≠ 2) then stop
      pop
      directives fuel true handles
    | some (.tagHandle handle beginning) => do
      if handles.contains handle then stop
      pop
      modify fun s => { s with handles := (handle, beginning) :: s.handles }
      directives fuel versioned (handle :: handles)
    | _ => return versioned || !handles.isEmpty

/-- The node of the one document, or none where there is no document. -/
def document (fuel : Nat) : Reader (Option Node) := do
  if (← head?).isNone then return none
  let directed ← directives fuel false []
  let root ← match ← head? with
    | some .documentStart => do
      pop
      match ← head? with
      | none | some .documentEnd => pure Node.empty
      | some (.version ..) | some (.tagHandle ..) | some .documentStart => stop
      | _ => node true false fuel
    | _ => if directed then stop else node true false fuel
  modify fun s => { s with tokens := s.tokens.dropWhile (· == .documentEnd) }
  match ← head? with
  | none => return some root
  | some _ => stop

end Reader

/-- The node of the one document that some tokens make, and the nodes with anchors; no node when
there are no tokens. -/
def Node.ofTokens? (tokens : List Token) : Option (Option Node × Anchors) :=
  ((Reader.document (4 * tokens.length + 4)).run { tokens }).map fun (n, s) => (n, s.anchors)

/-! ### Size -/

mutual

/-- The number of scalars, aliases, and starts and ends of collections. -/
def Node.events : Node → Nat
  | .scalar .. | .alias _ => 1
  | .list _ items => itemEvents items + 2
  | .table _ entries => entryEvents entries + 2

def itemEvents : List Node → Nat
  | [] => 0
  | n :: rest => n.events + itemEvents rest

def entryEvents : List (Node × Node) → Nat
  | [] => 0
  | (k, v) :: rest => k.events + v.events + entryEvents rest

end

end Playbook.Yaml
