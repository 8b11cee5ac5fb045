import Playbook.Json.Reader
import Playbook.Program.Codec
import Playbook.Text.Blank
import Playbook.Yaml.Document

/-!
Programs as texts, in one of two formats that share one set of fields. A program that is read from a
text has an id; its steps belong to it and have names.
-/
namespace Playbook

open Json (Value)

inductive ProgramFormat where
  | json | yaml
  deriving DecidableEq, Repr

def ProgramFormat.name : ProgramFormat → String
  | .json => "json"
  | .yaml => "yaml"

/-- What is wrong with the text of a program. -/
inductive DocumentFault where
  | malformed (format : ProgramFormat)
  /-- the text has a key that cannot be written as data -/
  | unwritable
  | invalid
  | missingId
  deriving DecidableEq, Repr

def DocumentFault.message (origin : String) : DocumentFault → String
  | .malformed format => s!"failed parsing program {format.name} '{origin}'"
  | .unwritable => s!"failed converting program yaml '{origin}' to json"
  | .invalid => s!"invalid program definition '{origin}'"
  | .missingId => s!"program definition '{origin}' has no id"

/-- The value that a text holds. -/
def ProgramFormat.read (format : ProgramFormat) (text : String) : Except DocumentFault Value :=
  match format with
  | .json => (Json.parse? text).elim (.error (.malformed .json)) .ok
  | .yaml =>
    match Yaml.parse? text with
    | none => .error (.malformed .yaml)
    | some v => v.toJson?.elim (.error .unwritable) .ok

/-- A step with the id of its program where it has none, and its own id for a name. -/
def Step.adopt (programId : String) (s : Step) : Step :=
  { s with
    programId := if s.programId.isEmpty then programId else s.programId
    name := if s.name.isEmpty then s.id else s.name }

namespace Program

/-- The program that a value holds, with steps that belong to it. -/
def ofValue (v : Value) : Except DocumentFault Program :=
  match decode? v with
  | none => .error .invalid
  | some p =>
    if Text.allBlank p.id then .error .missingId
    else .ok { p with steps := p.steps.map (Step.adopt p.id) }

/-- The program that a text holds. -/
def parse (format : ProgramFormat) (text : String) : Except DocumentFault Program := do
  ofValue (← format.read text)

end Program
end Playbook
