import Playbook.Failure

/-!
Why a command did not succeed, beside what can go wrong in the engine.
-/
namespace Playbook.CommandLine

inductive CommandFault where
  | unreadableConfig (path : String)
  | malformedConfig (path : String)
  /-- the trace file is a folder -/
  | traceFolder (path : String)
  | noProgram (path : String)
  /-- several programs match, given by their ids and versions -/
  | severalPrograms (matching : List (String × Nat))
  | unreadableContext (path : String)
  | malformedContext (path : String)
  | notAssigned (text : String)
  | emptyName (text : String)
  | blockedPrograms (blocked all : Nat)
  | incomplete (runId : String) (reason : Option FailureReason)
  deriving DecidableEq, Repr

/-- The failure that the user is told about. -/
def CommandFault.failure : CommandFault → Failure
  | .unreadableConfig path => .settings s!"failed to read config '{path}'"
  | .malformedConfig path => .settings s!"failed to parse config '{path}'"
  | .traceFolder path =>
    .settings s!"failed to open trace file '{path}': Is a directory (os error 21)"
  | .noProgram path => .notFound s!"no matching program under '{path}'"
  | .severalPrograms matching =>
    let names := ", ".intercalate (matching.map fun (id, version) => s!"{id} v{version}")
    .validation s!"several programs match ({names}); pass --program and --version"
  | .unreadableContext path => .settings s!"failed to read run context '{path}'"
  | .malformedContext path => .serialization s!"invalid run context '{path}'"
  | .notAssigned text => .validation s!"variable '{text}' must look like name=value"
  | .emptyName text => .validation s!"variable '{text}' has an empty name"
  | .blockedPrograms blocked all =>
    .validation s!"{blocked} of {all} program(s) have blocking issues"
  | .incomplete runId reason =>
    let reason := (reason.map FailureReason.message).getD "unknown"
    .validation s!"run {runId} did not complete: {reason}"

end Playbook.CommandLine
