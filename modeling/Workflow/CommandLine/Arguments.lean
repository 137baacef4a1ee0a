import Workflow.Text.Quoted
import Workflow.Text.Similarity

/-!
Command-line arguments: an optional program file, tools to describe, a log level, and the wish for
help. Options may stand anywhere before a double dash, with their value attached or behind them.
-/
namespace Workflow.CommandLine

/-- How a command is misused. -/
inductive UsageError where
  | noSuchOption (name : String) (similar : List String)
  | missingValue (name : String)
  | unwantedValue (name : String)
  | fileMissing (path : String)
  | fileIsDirectory (path : String)
  | extraArguments (arguments : List String)
  | nothingToDo
  deriving DecidableEq, Repr

def suggestion : List String → String
  | [] => ""
  | [name] => s!" Did you mean {Text.quoted name}?"
  | names =>
    let sorted := (names.mergeSort fun a b => !Text.precedes b a).map Text.quoted
    " (Did you mean one of: " ++ ", ".intercalate sorted ++ "?)"

def UsageError.message : UsageError → String
  | noSuchOption name similar => s!"No such option {Text.quoted name}.{suggestion similar}"
  | missingValue name => s!"Option {Text.quoted name} requires an argument."
  | unwantedValue name => s!"Option {Text.quoted name} does not take a value."
  | fileMissing path =>
    s!"Invalid value for '[PROGRAM_FILE]': File {Text.quoted path} does not exist."
  | fileIsDirectory path =>
    s!"Invalid value for '[PROGRAM_FILE]': File {Text.quoted path} is a directory."
  | extraArguments [argument] => s!"Got unexpected extra argument ({argument})"
  | extraArguments arguments =>
    "Got unexpected extra arguments (" ++ " ".intercalate arguments ++ ")"
  | nothingToDo => "PROGRAM_FILE is required unless --describe is given."

inductive OptionName where
  | describe
  | logLevel
  | help
  deriving DecidableEq, Repr

def OptionName.takesValue : OptionName → Bool
  | help => false
  | _ => true

/-- The options by their long names, which are also what a misspelled name is compared with. -/
def longOptions : List (String × OptionName) :=
  [("--describe", .describe), ("--log-level", .logLevel), ("--help", .help)]

def shortOptions : List (Char × OptionName) := [('d', .describe), ('l', .logLevel)]

/-- What the arguments ask for. -/
structure Arguments where
  positional : List String
  describe : List String
  logLevel : Option String
  help : Bool
  deriving DecidableEq, Repr

namespace Arguments

def empty : Arguments := ⟨[], [], none, false⟩

def setOption (option : OptionName) (value : String) (found : Arguments) : Arguments :=
  match option with
  | .describe => { found with describe := found.describe ++ [value] }
  | .logLevel => { found with logLevel := some value }
  | .help => found

def addPositional (values : List String) (found : Arguments) : Arguments :=
  { found with positional := found.positional ++ values }

/-- An option in an argument: the option, its name as written, and the value attached to it. -/
structure Written where
  option : OptionName
  name : String
  attached : Option String

/-- Reads an argument that starts with a dash. A long name may have its value behind an equals sign,
a short one directly behind it. -/
def readOption (argument : String) : Except UsageError Written :=
  let cs := argument.toList
  let name := cs.takeWhile (· != '=')
  let attached := (cs.drop name.length).tail?.map String.ofList
  match longOptions.lookup (String.ofList name) with
  | some option => .ok ⟨option, String.ofList name, attached⟩
  | none =>
    match cs with
    | '-' :: '-' :: _ =>
      .error (.noSuchOption (String.ofList name) (Text.closeMatches (String.ofList name)
        (longOptions.map (·.1))))
    | dash :: letter :: rest =>
      let short := String.ofList [dash, letter]
      match shortOptions.lookup letter with
      | some option => .ok ⟨option, short, if rest.isEmpty then none else
          some (String.ofList rest)⟩
      | none => .error (.noSuchOption short [])
    | _ => .error (.noSuchOption argument [])

/-- Reads arguments in order. `waiting` is an option without attached value, which takes the next
argument, whatever it looks like. -/
def readFrom (found : Arguments) (waiting : Option Written) :
    List String → Except UsageError Arguments
  | [] =>
    match waiting with
    | none => .ok found
    | some written => .error (.missingValue written.name)
  | argument :: rest =>
    match waiting with
    | some written => readFrom (found.setOption written.option argument) none rest
    | none =>
      if argument = "--" then .ok (found.addPositional rest)
      else if argument.toList.head? == some '-' && argument != "-" then
        match readOption argument with
        | .error e => .error e
        | .ok written =>
          match written.attached with
          | some value =>
            if written.option.takesValue then
              readFrom (found.setOption written.option value) none rest
            else .error (.unwantedValue written.name)
          | none =>
            if written.option.takesValue then readFrom found (some written) rest
            else readFrom { found with help := true } none rest
      else readFrom (found.addPositional [argument]) none rest

def read (arguments : List String) : Except UsageError Arguments :=
  readFrom empty none arguments

end Arguments
end Workflow.CommandLine
