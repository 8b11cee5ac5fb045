import Playbook.CommandLine.Options
import Playbook.Decimal.Count
import Playbook.Json.Record
import Playbook.Settings.Environment

/-!
What the words of a command line ask for: to validate programs, to run one, or to list the
handlers, with settings from a file.
-/
namespace Playbook.CommandLine

inductive OutputFormat where
  | text | json
  deriving DecidableEq, Repr

def OutputFormat.ofName? : String → Option OutputFormat
  | "text" => some .text
  | "json" => some .json
  | _ => none

/-- Which program to run, and on what. -/
structure RunOptions where
  path : String
  program : Option String := none
  version : Option Nat := none
  /-- a file that holds the request -/
  context : Option String := none
  tenant : String := "default"
  user : Option String := none
  /-- variables as `name=value` -/
  «variables» : List String := []
  events : List String := []
  debug : Bool := false
  follow : Bool := false
  output : OutputFormat := .text
  deriving DecidableEq, Repr

inductive Command where
  | validate (path : String) (output : OutputFormat)
  | run (options : RunOptions)
  | handlers
  deriving DecidableEq, Repr

structure Arguments where
  config : Option String := none
  logLevel : Option String := none
  command : Command
  deriving DecidableEq, Repr

/-- A path is not empty. -/
def nonempty (name value : String) : Except UsageFault String :=
  if value.isEmpty then .error (.missingValue name) else .ok value

/-- The value of an option that stands at most once, read in a certain way. -/
def Given.read {α : Type} (g : Given) (name : String) (read : String → Except UsageFault α) :
    Except UsageFault (Option α) :=
  match g.value? name with
  | none => .ok none
  | some value => (read value).map some

def readOutput (value : String) : Except UsageFault OutputFormat :=
  ((OutputFormat.ofName? value).map Except.ok).getD (.error (.invalidValue "output" value))

/-- A version is a 32-bit count; a sign before it is allowed where it changes nothing. -/
def readVersion (value : String) : Except UsageFault Nat :=
  let digits := match value.toList with
    | '-' :: rest => if rest.all (· = '0') then String.ofList rest else value
    | _ => value
  (Decimal.readCount Json.Value.maxCount32 digits).mapError fun _ => .invalidValue "version" value

/-- The only operand. -/
def Given.path (g : Given) : Except UsageFault String :=
  match g.operands with
  | [] => .error .missingPath
  | [path] => nonempty "path" path
  | _ :: word :: _ => .error (.unexpectedOperand word)

def Command.ofName (name : String) (words : List String) : Except UsageFault Command := do
  match name with
  | "validate" =>
    let (g, _) ← scan [("output", .single)] false words {}
    .ok (.validate (← g.path) ((← g.read "output" readOutput).getD .text))
  | "run" =>
    let kinds : List (String × OptionKind) := [
      ("program", .single), ("version", .single), ("context", .single), ("tenant", .single),
      ("user", .single), ("var", .many), ("event", .many), ("debug", .flag), ("follow", .flag),
      ("output", .single)]
    let (g, _) ← scan kinds false words {}
    .ok (.run {
      path := ← g.path
      program := g.value? "program"
      version := ← g.read "version" readVersion
      context := ← g.read "context" (nonempty "context")
      tenant := (g.value? "tenant").getD "default"
      user := g.value? "user"
      «variables» := g.values "var"
      events := g.values "event"
      debug := g.has "debug"
      follow := g.has "follow"
      output := (← g.read "output" readOutput).getD .text })
  | "handlers" =>
    let (g, _) ← scan [] false words {}
    match g.operands with
    | [] => .ok .handlers
    | word :: _ => .error (.unexpectedOperand word)
  | name => .error (.unknownCommand name)

/-- Reads the words of a command line; the environment may name the file of the settings. -/
def Arguments.parse (environment : Settings.Environment) (words : List String) :
    Except UsageFault Arguments := do
  let (g, rest) ← scan [("config", .single), ("log-level", .single)] true words {}
  match rest with
  | [] => .error .missingCommand
  | name :: words =>
    let command ← Command.ofName name words
    let config := (g.value? "config").orElse fun _ => environment "PROGFLOW_CONFIG"
    .ok {
      config := ← match config with
        | none => .ok none
        | some path => (nonempty "config" path).map some
      logLevel := g.value? "log-level"
      command }

/-- The paths that a command line names. -/
def Arguments.paths (a : Arguments) : List String :=
  a.config.toList ++ match a.command with
    | .validate path _ => [path]
    | .run options => options.path :: options.context.toList
    | .handlers => []

end Playbook.CommandLine
