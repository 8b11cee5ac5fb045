/-!
Options and operands among the words of a command line. An option is a name after two hyphens; its
value is the next word or what stands after an equals sign. After two hyphens alone every word is an
operand.
-/
namespace Playbook.CommandLine

inductive OptionKind where
  /-- has no value and stands at most once -/
  | flag
  /-- has a value and stands at most once -/
  | single
  /-- has a value and may be repeated -/
  | many
  deriving DecidableEq, Repr

/-- What is wrong with a command line. -/
inductive UsageFault where
  | unknownOption (word : String)
  | missingValue (option : String)
  | unexpectedValue (option value : String)
  | repeated (option : String)
  | invalidValue (option value : String)
  | missingCommand
  | unknownCommand (word : String)
  | missingPath
  | unexpectedOperand (word : String)
  deriving DecidableEq, Repr

def UsageFault.message : UsageFault → String
  | .unknownOption word => s!"unexpected argument '{word}' found"
  | .missingValue option => s!"a value is required for '--{option}' but none was supplied"
  | .unexpectedValue option value => s!"unexpected value '{value}' for '--{option}' found"
  | .repeated option => s!"the argument '--{option}' cannot be used multiple times"
  | .invalidValue option value => s!"invalid value '{value}' for '--{option}'"
  | .missingCommand => "a command is required"
  | .unknownCommand word => s!"unrecognized command '{word}'"
  | .missingPath => "a program path is required"
  | .unexpectedOperand word => s!"unexpected argument '{word}' found"

/-- The options and operands of a command line in the order in which they stand. -/
structure Given where
  options : List (String × String) := []
  operands : List String := []
  deriving DecidableEq, Repr

namespace Given

def values (g : Given) (name : String) : List String :=
  (g.options.filter fun o => o.1 == name).map Prod.snd

def value? (g : Given) (name : String) : Option String := (g.values name).head?

def has (g : Given) (name : String) : Bool := !(g.values name).isEmpty

end Given

/-- Whether a word can only be an option; a hyphen alone is a word like any other. -/
def isOption (word : String) : Bool := word.startsWith "-" && word ≠ "-"

/-- The name of an option and the value after the equals sign. -/
def splitOption (word : String) : String × Option String :=
  let (name, rest) := (word.toList.drop 2).span (· ≠ '=')
  (String.ofList name, match rest with
    | _ :: value => some (String.ofList value)
    | [] => none)

/-- Adds an option that was read. -/
def Given.addOption (g : Given) (kind : OptionKind) (name value : String) : Except UsageFault Given :=
  if kind ≠ .many && g.has name then .error (.repeated name)
  else .ok { g with options := g.options ++ [(name, value)] }

/-- Reads words as options and operands; reading stops before an operand if `atOperand` says so. The
words that are left over come with the answer. -/
def scan (kinds : List (String × OptionKind)) (atOperand : Bool) :
    List String → Given → Except UsageFault (Given × List String)
  | [], g => .ok (g, [])
  | word :: rest, g =>
    if word = "--" then
      if atOperand then .error (.unknownOption word)
      else .ok ({ g with operands := g.operands ++ rest }, [])
    else if !isOption word then
      if atOperand then .ok (g, word :: rest)
      else scan kinds atOperand rest { g with operands := g.operands ++ [word] }
    else if !word.startsWith "--" then .error (.unknownOption word)
    else
      let (name, value) := splitOption word
      match kinds.lookup name with
      | none => .error (.unknownOption word)
      | some .flag =>
        match value with
        | some value => .error (.unexpectedValue name value)
        | none => do scan kinds atOperand rest (← g.addOption .flag name "")
      | some kind =>
        match value, rest with
        | some value, rest => do scan kinds atOperand rest (← g.addOption kind name value)
        | none, [] => .error (.missingValue name)
        | none, value :: rest => do
          if isOption value then .error (.missingValue name)
          else scan kinds atOperand rest (← g.addOption kind name value)

end Playbook.CommandLine
