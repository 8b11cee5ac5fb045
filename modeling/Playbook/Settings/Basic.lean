/-!
The settings of the engine, with their defaults.
-/
namespace Playbook

structure ExecutionSettings where
  /-- bound on the parallel limit of any program -/
  parallelHardLimit : Nat := 16
  retryBackoffMultiplier : Float := 2.0
  retryBackoffMaxMs : Nat := 30000

structure ExpressionSettings where
  maxLength : Nat := 8192
  maxDepth : Nat := 64
  deriving DecidableEq, Repr

structure RecorderSettings where
  maxRetainedRuns : Nat := 1000
  traceFile : Option String := none
  eventBuffer : Nat := 256
  deriving DecidableEq, Repr

structure KnowledgeSettings where
  limit : Nat := 5
  threshold : Float32 := 0.2

structure HttpSettings where
  timeoutSeconds : Nat := 30
  userAgent : String := "progflow/0.1.0"
  maxResponseBytes : Nat := 2 * 1024 * 1024
  deriving DecidableEq, Repr

inductive LogFormat where
  | text | json
  deriving DecidableEq, Repr

structure LoggingSettings where
  level : String := "info"
  format : LogFormat := .text
  deriving DecidableEq, Repr

structure Settings where
  execution : ExecutionSettings := {}
  expressions : ExpressionSettings := {}
  recorder : RecorderSettings := {}
  knowledge : KnowledgeSettings := {}
  http : HttpSettings := {}
  logging : LoggingSettings := {}

end Playbook
