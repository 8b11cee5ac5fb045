import Playbook.Keyed
import Playbook.Program.Basic
import Playbook.Sum
import Playbook.Text.Blank

/-!
The catalog holds programs under their ids and, below an id, under their version numbers. A
published version is replaced only by the same definition. Every operation leaves a catalog behind,
also one that fails.
-/
namespace Playbook

inductive CatalogError where
  | missingId
  | alreadyPublished (id : String) (version : Nat)
  | status (cause : StatusError)
  | absent (id : String) (version : Option Nat)
  deriving DecidableEq, Repr

def CatalogError.message : CatalogError → String
  | .missingId => "program id must be non-empty"
  | .alreadyPublished id version =>
    s!"program '{id}' v{version} is published; register a new version instead"
  | .status cause => cause.message
  | .absent id (some version) => s!"program '{id}' v{version}"
  | .absent id none => s!"program '{id}'"

/-- The versions of a program in ascending order of their numbers. -/
abbrev Versions := List (Nat × Program)

structure Catalog where
  programs : Keyed Versions := []

namespace Catalog

/-- The versions under an id, none when the id is not known. -/
def versionsOf (c : Catalog) (id : String) : Versions := (Keyed.get? id c.programs).getD []

def get? (c : Catalog) (id : String) (version : Nat) : Option Program :=
  Keyed.get? version (c.versionsOf id)

/-- Makes an id known. -/
def reserve (c : Catalog) (id : String) : Catalog :=
  if Keyed.contains id c.programs then c else ⟨Keyed.put id [] c.programs⟩

/-- Puts a program under an id and a version number. -/
def set (c : Catalog) (id : String) (version : Nat) (p : Program) : Catalog :=
  ⟨Keyed.put id (Keyed.put version p (c.versionsOf id)) c.programs⟩

/-- Whether another definition is published in the place of a program. -/
def isTaken (c : Catalog) (p : Program) : Bool :=
  (c.get? p.id p.version).any fun old => old.status == .published && !old.same p

/-- Adds a version or replaces it. -/
def register (c : Catalog) (p : Program) : Catalog × Except CatalogError Unit :=
  if Text.allBlank p.id then (c, .error .missingId)
  else
    let c := c.reserve p.id
    if c.isTaken p then (c, .error (.alreadyPublished p.id p.version))
    else (c.set p.id p.version p, .ok ())

def latest (c : Catalog) (id : String) : Option Program := (Keyed.values (c.versionsOf id)).getLast?

def latestPublished (c : Catalog) (id : String) : Option Program :=
  (Keyed.values (c.versionsOf id)).reverse.find? fun p => p.status == .published

def latestExecutable (c : Catalog) (id : String) : Option Program :=
  (Keyed.values (c.versionsOf id)).reverse.find? Program.isExecutable

/-- The version that is asked for; without one the newest published version, or else the newest
that can be executed. -/
def resolve (c : Catalog) (id : String) (version : Option Nat) : Except CatalogError Program :=
  let found := match version with
    | some v => c.get? id v
    | none => (c.latestPublished id).or (c.latestExecutable id)
  match found with
  | some p => .ok p
  | none => .error (.absent id version)

/-- Changes the program under an id and a version number. -/
def update (c : Catalog) (id : String) (version : Nat)
    (change : Program → Except StatusError Program) : Catalog × Except CatalogError Unit :=
  match c.get? id version with
  | none => (c, .error (.absent id (some version)))
  | some p =>
    match change p with
    | .ok p => (c.set id version p, .ok ())
    | .error e => (c, .error (.status e))

def publish (c : Catalog) (id : String) (version : Nat) : Catalog × Except CatalogError Unit :=
  c.update id version Program.publish

def archive (c : Catalog) (id : String) (version : Nat) : Catalog × Except CatalogError Unit :=
  c.update id version fun p => .ok p.archive

def versions (c : Catalog) (id : String) : List Nat := Keyed.keys (c.versionsOf id)

/-- The ids in ascending order. -/
def ids (c : Catalog) : List String := Keyed.keys c.programs

/-- The number of versions of all programs. -/
def size (c : Catalog) : Nat := sumOf (fun e => e.2.length) c.programs

/-- Whether no id is known. -/
def isEmpty (c : Catalog) : Bool := c.programs.isEmpty

end Catalog
end Playbook
