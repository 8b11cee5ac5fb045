import Playbook.Yaml.Node
import Playbook.Yaml.Value

/-!
The value of a document: aliases are followed, plain scalars are resolved, and tags are applied.
Nesting is bounded, and so is the number of times that aliases are followed, so that a small text
cannot stand for a huge value.
-/
namespace Playbook.Yaml

/-- The deepest nesting of collections. -/
def maxNesting : Nat := 128

/-- How often aliases may be followed for each event of the document. -/
def maxFollowed : Nat := 100

/-- The name of a tag of one's own, without the exclamation mark before it or two of them; a name that
would be empty is an exclamation mark itself. -/
def ownTag? (tag : Option String) : Option String :=
  match tag.map String.toList with
  | some ['!'] | some ['!', '!'] => some "!"
  | some ('!' :: '!' :: rest) | some ('!' :: rest) => some (String.ofList rest)
  | _ => none

/-- The value of a scalar under a tag of the core schema; other tags make it a text. -/
def scalarValue? (tag : Option String) (text : String) (plain : Bool) : Option Value :=
  match tag with
  | none => if plain then plainValue? text else some (.text text)
  | some "tag:yaml.org,2002:bool" => (readBool? text).map .bool
  | some "tag:yaml.org,2002:int" =>
    match readInteger text.toList with
    | .integer n => some (.int n)
    | _ => none
  | some "tag:yaml.org,2002:float" => (readFloat? text.toList).map .float
  | some "tag:yaml.org,2002:null" => if isNull text then some .null else none
  | some _ => some (.text text)

/-- Counts how often aliases are followed. -/
abbrev Following := StateT Nat Option

structure Resolver where
  anchors : Anchors
  /-- how often aliases may be followed -/
  limit : Nat

namespace Resolver

/-- The node that an alias stands for. -/
def follow (r : Resolver) : Node → Following Node
  | .alias slot => fun count =>
    if r.limit ≤ count then none else (r.anchors.node? slot).map fun n => (n, count + 1)
  | n => pure n

/-- A value under its own tag, if it has one. -/
def underTag (tag : Option String) (v : Value) : Value :=
  match ownTag? tag with
  | some t => .tagged t v
  | none => v

/-- The value of a scalar; its own tag wraps the value that it has without one. -/
def scalar (tag : Option String) (text : String) (plain : Bool) : Following Value := fun count =>
  match ownTag? tag with
  | some t => (scalarValue? none text plain).map fun v => (.tagged t v, count)
  | none => (scalarValue? tag text plain).map fun v => (v, count)

/-- The value of a node, with collections nested at most so deep. -/
def value (r : Resolver) : (depth : Nat) → Node → Following Value
  | 0, n => do
    match ← r.follow n with
    | .scalar tag text plain => scalar tag text plain
    | _ => fun _ => none
  | depth + 1, n => do
    match ← r.follow n with
    | .scalar tag text plain => scalar tag text plain
    | .list tag items => return underTag tag (.list (← items.mapM (value r depth)))
    | .table tag entries => do
      let entries ← entries.mapM fun (k, v) => do return (← value r depth k, ← value r depth v)
      if Value.distinctKeys entries then return underTag tag (.table entries) else fun _ => none
    | .alias _ => fun _ => none

end Resolver

/-- The value of a text that holds one document; null when it holds none. -/
def parse? (text : String) : Option Value := do
  let (root, anchors) ← Node.ofTokens? (← Token.ofText? text)
  match root with
  | none => some .null
  | some n =>
    let (v, _) ← (Resolver.value ⟨anchors, maxFollowed * n.events⟩ maxNesting n).run 0
    some v

end Playbook.Yaml
