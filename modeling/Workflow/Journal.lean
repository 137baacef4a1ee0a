import Workflow.Text.Quoted
import Workflow.Value

/-!
The journal: what an engine did, in order. Log lines are a rendering of its entries; tool calls are
entries too, without a line.
-/
namespace Workflow

inductive Entry where
  | installed (tools : Nat)
  | duplicateTool (name : String)
  | unknownTool (name : String)
  | unknownRequest (name : String)
  | rejected (message : String)
  | running (steps : Nat)
  | canceledBefore (step : String)
  | invoking (tool step : String)
  | failed (step tool message : String)
  | recorded (tool : String)
  /-- A step succeeded, and stored a value. -/
  | completed (step tool : String) (value : Value)
  /-- An installed tool was called. Tools of one family share a label. -/
  | called (tool label : String) (args context : Value)

inductive Severity where
  | debug
  | info
  | warning
  deriving DecidableEq, Repr

def Severity.name : Severity → String
  | debug => "DEBUG"
  | info => "INFO"
  | warning => "WARNING"

def Severity.level : Severity → Int
  | debug => 10
  | info => 20
  | warning => 30

/-- A line of the log and the part of the engine that wrote it. -/
structure LogLine where
  channel : String
  severity : Severity
  message : String
  deriving DecidableEq, Repr

namespace Entry

def line? : Entry → Option LogLine
  | installed tools => some ⟨"engine", .debug, s!"Installed {tools} tool(s)"⟩
  | duplicateTool name =>
    some ⟨"adapter", .warning,
      s!"Tool {Text.quoted name} is already registered; ignoring duplicate"⟩
  | unknownTool name => some ⟨"adapter", .warning, s!"Tool {Text.quoted name} not found"⟩
  | unknownRequest name =>
    some ⟨"engine", .warning, s!"Host requested unknown tool {Text.quoted name}"⟩
  | rejected message => some ⟨"runner", .warning, s!"Rejected program: {message}"⟩
  | running steps => some ⟨"runner", .debug, s!"Running program with {steps} step(s)"⟩
  | canceledBefore step => some ⟨"runner", .info, s!"Program cancelled before step {step}"⟩
  | invoking tool step => some ⟨"executor", .debug, s!"Invoking {tool} for step {step}"⟩
  | failed step tool message =>
    some ⟨"executor", .warning, s!"Step {step} ({tool}) failed: {message}"⟩
  | recorded tool => some ⟨"introspection", .debug, s!"Recorded result schema for {tool}"⟩
  | completed step .. => some ⟨"executor", .debug, s!"Step {step} completed"⟩
  | called .. => none

/-- The label and arguments of a tool call. -/
def call? : Entry → Option (String × Value)
  | called _ label args _ => some (label, args)
  | _ => none

/-- The name of the installed tool that was called. -/
def calledTool? : Entry → Option String
  | called tool .. => some tool
  | _ => none

/-- The tool of a step that succeeded, and what the step stored. -/
def result? : Entry → Option (String × Value)
  | completed _ tool value => some (tool, value)
  | _ => none

end Entry
end Workflow
