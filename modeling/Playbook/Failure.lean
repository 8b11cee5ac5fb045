import Playbook.Expression.Error
import Playbook.Program.Catalog
import Playbook.Program.Folder
import Playbook.Run.Context
import Playbook.Run.Plan
import Playbook.Settings.Check
import Playbook.Settings.Environment

/-!
Why an operation of the engine did not succeed, with the text that the user sees.
-/
namespace Playbook

open Expression (ExpressionError)

inductive Failure where
  | settings (message : String)
  | validation (message : String)
  | notFound (message : String)
  | invalidProgram (programId : String) (issues : List Issue)
  | registry (cause : RegistryError)
  | expression (cause : ExpressionError)
  | task (message : String)
  | serialization (message : String)
  | io (message : String)

namespace Failure

def message : Failure → String
  | .settings message => "configuration error: " ++ message
  | .validation message => "validation error: " ++ message
  | .notFound message => "not found: " ++ message
  | .invalidProgram id issues => (Rejection.invalid id issues).message
  | .registry cause => cause.message
  | .expression cause => cause.message
  | .task message => "run task failed: " ++ message
  | .serialization message => "serialization error: " ++ message
  | .io message => message

def ofSettings (f : SettingsFault) : Failure := .validation f.message

def ofEnvironment (f : EnvironmentFault) : Failure := .settings f.message

def ofStatus (e : StatusError) : Failure := .validation e.message

def ofRequest (e : RequestError) : Failure := .validation (RunContext.requestErrorMessage e)

/-- What is absent is not found; everything else is a matter of validation. -/
def ofCatalog : CatalogError → Failure
  | e@(.absent ..) => .notFound e.message
  | e => .validation e.message

def ofRejection : Rejection → Failure
  | .status cause => .ofStatus cause
  | .invalid id issues => .invalidProgram id issues

/-- A text without an id is a matter of validation; what cannot be read otherwise did not come from a
program. -/
def ofDocument (origin : String) (f : DocumentFault) : Failure :=
  match f with
  | .missingId => .validation (f.message origin)
  | f => .serialization (f.message origin)

def ofLoad : LoadFault → Failure
  | f@(.missing _) => .notFound f.message
  | .document origin f => .ofDocument origin f

/-- The run broke off. -/
def ofCrash (runId cause : String) : Failure := .task s!"run '{runId}': {cause}"

end Failure
end Playbook
