import Workflow.Engine
import Workflow.Fields.Number

/-!
What a host sees: two tools with their definitions, lines that announce their use and result, and
requests by name, whose events are pulled one at a time.
-/
namespace Workflow

/-- An event for the host. -/
inductive Event where
  | status (event : StatusEvent)
  | result (value : Value) (canceled : Bool)

/-- The event of a notice; an exception is none. -/
def Event.ofNotice : Notice → Except Thrown Event
  | .status event => .ok (.status event)
  | .ended outcome => .ok (.result outcome.payload outcome.isCanceled)
  | .raised cause => .error cause

namespace Event

def phaseOf? : String → Option StepPhase
  | "started" => some .started
  | "completed" => some .completed
  | "failed" => some .failed
  | _ => none

open Fields in
def statusOfFields (fields : List (String × Value)) : Checked Event :=
  let step := required [] fields "step_id" string
  let phase := required [] fields "phase"
    (choice "'started', 'completed' or 'failed'" phaseOf?)
  let status := required [] fields "status" string
  match step, phase, status with
  | .ok step, .ok phase, .ok status => .ok (.status ⟨step, phase, status⟩)
  | _, _, _ => .error (step.problems ++ phase.problems ++ status.problems)

open Fields in
def resultOfFields (fields : List (String × Value)) : Checked Event :=
  let kind := optional [] fields "type" ()
    (choice "'result'" fun word => if word = "result" then some () else none)
  let value := optional [] fields "result" .null anything
  let canceled := optional [] fields "canceled" false boolean
  match kind, value, canceled with
  | .ok _, .ok value, .ok canceled => .ok (.result value canceled)
  | _, _, _ => .error (kind.problems ++ value.problems ++ canceled.problems)

/-- Reads an event from its fields; a `type` of `status` makes it a status. -/
def ofFields (fields : List (String × Value)) : Fields.Checked Event :=
  match fields.lookup "type" with
  | some (.str "status") => statusOfFields fields
  | _ => resultOfFields fields

end Event

/-- Where a request stands. Nothing happens before the first pull. -/
inductive Request where
  | describe (names : Value)
  | unknown (name : String)
  | run (phase : Phase)

namespace Request

variable {σ : Type}

def closed : Request := .run .closed

/-- The request that a host makes under a name. Parameters may be absent. -/
def ofName (engine : Engine σ) (name : String) (parameters : Value) : Request :=
  let parameters : Value := match parameters with
    | .null => .dict []
    | v => v
  if name = Engine.describeName engine.settings then
    .describe ((parameters.field? "tools_names").getD .null)
  else if name = Engine.runName engine.settings then .run (.submitted (Program.read parameters))
  else .unknown name

def ofProgram (program : Value) : Request := .run (.submitted (Program.read program))

/-- The next event, and none once the request is closed. -/
def pull (engine : Engine σ) (caller : Caller σ) (request : Request) (s : Session σ) :
    Except Thrown (Option Event) × Request × Session σ :=
  match request with
  | .describe names =>
    ((fun value => some (.result value false)) <$> (engine.describeTools names s).mapError .told,
      closed, s)
  | .unknown name =>
    (.ok (some (.result (.dict [("error", .str (notFoundText name))]) false)), closed,
      s.note (.unknownRequest name))
  | .run phase =>
    let (notice?, phase, s) := phase.pull engine.execute caller s
    match notice? with
    | none => (.ok none, .run phase, s)
    | some notice => (some <$> Event.ofNotice notice, .run phase, s)

/-- The result of a request that is drained at once. -/
def finish (engine : Engine σ) (caller : Caller σ) (request : Request) (s : Session σ) :
    Except Thrown Value × Session σ :=
  match request with
  | .describe names => ((engine.describeTools names s).mapError .told, s)
  | .unknown name =>
    (.ok (.dict [("error", .str (notFoundText name))]), s.note (.unknownRequest name))
  | .run phase =>
    let (notices, s) := phase.drain engine.execute caller s
    let result (latest : Except Thrown Value) (notice : Notice) : Except Thrown Value :=
      match Event.ofNotice notice with
      | .ok (.result value _) => .ok value
      | .ok (.status _) => latest
      | .error thrown => .error thrown
    (notices.foldl result (.ok .null), s)

end Request

namespace Host

variable {σ : Type}

/-- How the describing tool presents itself; the listing names the tools a line each. -/
def describeToolText (listing : String) : String :=
  "Get detailed information (description, parameters and, once a tool has run, its result\n" ++
  "schema) about specific tools before using them in a program.\n" ++
  "\n" ++
  "Available tools:\n" ++ listing

def runProgramText : String :=
  "Execute a multi-step workflow by calling other tools sequentially with variable " ++
    "substitution.\n" ++
  "\n" ++
  "Each step has: id (string), tool (string), args (object). Any string inside args may\n" ++
  "reference the output of an earlier step with \x7b\x7bstep_id.path\x7d\x7d:\n" ++
  "  \x7b\x7bsearch.items[0].url\x7d\x7d   bracket index\n" ++
  "  \x7b\x7bsearch.items.0.url\x7d\x7d    dotted index\n" ++
  "A string that is exactly one placeholder keeps the referenced value's type.\n" ++
  "The result of the last step is returned. Execution stops at the first failing step."

/-- The definition of a function with one required parameter. -/
def definition (name description parameter : String) (schema : List (String × Value)) : Value :=
  .dict [("type", .str "function"),
    ("function", .dict [("name", .str name), ("description", .str description),
      ("parameters", .dict [("type", .str "object"),
        ("properties", .dict [(parameter, .dict schema)]),
        ("required", .list [.str parameter])])])]

def toolDefinitions (engine : Engine σ) : List Value :=
  let listing := "\n".intercalate (engine.toolNames.map ("- " ++ ·))
  [definition (Engine.describeName engine.settings) (describeToolText listing) "tools_names"
      [("type", .str "array"),
        ("description", .str "The name of the tools to get information about"),
        ("items", .dict [("type", .str "string")])],
    definition (Engine.runName engine.settings) runProgramText "program"
      [("type", .str "object"),
        ("description", .str ("The program to execute with a steps array. Each step has: id " ++
          "(string), tool (string), args (object with \x7b\x7bstep_id.path\x7d\x7d for " ++
          "variable substitution)"))]]

/-- Whether a name is one of the host's own by its first letters. -/
def handles (engine : Engine σ) (name : String) : Bool :=
  engine.settings.namePrefix.toList.isPrefixOf name.toList

def namesCount (args : Value) : Nat :=
  match args.field? "tools_names" with
  | some (.list names) => names.length
  | _ => 0

/-- The line shown while one of the two tools is at work. -/
def runningLine? (engine : Engine σ) (tool : String) (args : Value) : Option String :=
  if tool = Engine.describeName engine.settings then
    some s!"Getting info for {namesCount args} tools…"
  else if tool = Engine.runName engine.settings then
    some s!"Executing workflow with {Program.announcedSteps args} steps…"
  else none

/-- The truthy error of a result that is an object. -/
def errorOf? (result : Value) : Except Raised (Option Value) :=
  match result.field? "error" with
  | none => .ok none
  | some error => (fun present => if present then some error else none) <$> error.test

/-- The line shown when one of the two tools has answered. An error has to have a text. -/
def completedLine? (engine : Engine σ) (tool : String) (args result : Value) :
    Except Raised (Option String) :=
  if tool = Engine.describeName engine.settings then do
    match ← errorOf? result with
    | some error => (fun text => some s!"Error getting tools info: {text}") <$> error.text
    | none => .ok (some s!"Retrieved info for {namesCount args} tools")
  else if tool = Engine.runName engine.settings then do
    match ← errorOf? result with
    | some error => (fun text => some s!"Workflow failed: {text}") <$> error.text
    | none => .ok (some s!"Completed workflow with {Program.announcedSteps args} steps")
  else .ok none

end Host
end Workflow
