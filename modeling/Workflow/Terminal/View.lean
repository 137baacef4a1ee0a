import Workflow.Host
import Workflow.Terminal.Markup

/-!
What the command line shows: a banner, the parsed program, progress lines, and a panel for the end
of a run. Cyan stands for structure, magenta for progress, green for success, yellow for
cancellation and red for failure.
-/
namespace Workflow.Terminal

/-- A panel over the whole width. -/
def panel (body : String) (tag color : String) (padding : Nat × Nat) : Printed :=
  .panel ⟨.markup body, some (label tag color), none, color, padding, true⟩

/-- A value as text: strings as they are, anything else as indented JSON. -/
def render : Value → Except Raised String
  | .str s => .ok s
  | v => Json.writeIndented v

def banner (source : String) (tools : Int) : List Printed := [
  .blank,
  .panel ⟨.markup (
      "[bold cyan]Tool Program Runner[/bold cyan]\n" ++
      "[dim]Sequential tool programs with \x7b\x7bstep.path\x7d\x7d data flow[/dim]\n\n" ++
      s!"[dim]Program :[/dim] [white]{escape source}[/white]\n" ++
      s!"[dim]Tools   :[/dim] [white]{tools}[/white]"),
    none, none, "cyan", (1, 4), false⟩]

def argsCell (step : Step) : Except Raised String := do
  let text ← Json.writeChecked true Json.spaced (.dict step.args)
  return escape (mono text 60)

def argsCells : List Step → Except Raised (List String)
  | [] => .ok []
  | step :: rest => do
    let cell ← argsCell step
    let cells ← argsCells rest
    return cell :: cells

/-- The steps of a program as a table. Arguments are shown as JSON, cut to 60 characters. -/
def programParsed (program : Program) : Except Raised (List Printed) := do
  let args ← argsCells program.steps
  let table : Table := ⟨"cyan", "bold cyan", [
    ⟨"ID", "bold white", program.steps.map fun step => escape step.id⟩,
    ⟨"Tool", "bold white", program.steps.map fun step => escape step.tool⟩,
    ⟨"Args", "dim white", args⟩]⟩
  return [.blank,
    .panel ⟨.table table, some (label "PROGRAM" "cyan"),
      some s!"[dim]{program.steps.length} step(s)[/dim]", "cyan", (0, 1), true⟩,
    .rule "[cyan]EXECUTION[/cyan]" "cyan"]

def stepLine (event : StatusEvent) : Printed :=
  .markup <| match event.phase with
    | .started => s!"  [magenta]▶[/magenta] [white]{escape event.status}[/white]"
    | .completed => s!"  [bold green]✓[/bold green] [dim]{escape event.status}[/dim]"
    | .failed => s!"  [bold red]✗[/bold red] [red]{escape (mono event.status 200)}[/red]"

def finalResult (result : Value) : Output :=
  .andThen [.blank] (render result) fun text =>
    [panel s!"[white]{escape text}[/white]" "RESULT" "green" (1, 2), .blank]

/-- A failure, with the failed step if one is named. -/
def halt (step error : Value) : Output :=
  let place : Except Raised String := do
    if ← step.test then
      (fun text => s!"[dim]Failed step:[/dim] [white]{escape text}[/white]\n\n") <$> step.text
    else .ok ""
  match place with
  | .error e => ⟨[], some e⟩
  | .ok place =>
    .andThen [.blank] error.text fun text =>
      [panel s!"{place}[bold white]{escape text}[/bold white]" "HALT" "red" (0, 2), .blank]

def canceled : List Printed :=
  [.blank,
    panel ("[bold yellow]Program cancelled.[/bold yellow]\n" ++
      "[dim]Steps already finished kept their side effects; no further step was started.[/dim]")
      "CANCELLED" "yellow" (0, 2),
    .blank]

def invalidProgram (message : String) : List Printed :=
  [.blank, panel s!"[bold white]{escape message}[/bold white]" "INVALID PROGRAM" "red" (0, 2),
    .blank]

/-- A payload with an `error` entry counts as a failure, whatever the entry holds. -/
def progress : Event → Output
  | .status event => .ofList [stepLine event]
  | .result value canceledRun =>
    if canceledRun then .ofList canceled
    else match value.field? "error" with
      | some error => halt ((value.field? "failedStep").getD .null) error
      | none => finalResult value

/-! ### What hosts hand over -/

/-- What keeps a value from being shown. -/
inductive ShowError where
  | misuse (cause : Misuse)
  | textByName
  | sequenceByName (typeName : String)
  | missingEntry (key : String)
  | raised (cause : Raised)
  deriving DecidableEq, Repr

def ShowError.message : ShowError → String
  | misuse cause => cause.message
  | textByName => "string indices must be integers, not 'str'"
  | sequenceByName typeName => s!"{typeName} indices must be integers or slices, not str"
  | missingEntry key => Text.quoted key
  | raised cause => cause.text

/-- The entries of an object; an unreadable one shows none. -/
def entriesOf (v : Value) : Except ShowError (List (String × Value)) :=
  v.askEntries.mapError .misuse

/-- The failure that a payload describes. -/
def failure (payload : Value) : Except ShowError Output := do
  let entries ← entriesOf payload
  return halt ((entries.lookup "failedStep").getD .null) ((entries.lookup "error").getD .null)

/-! ### Tool information -/

def escapeValue : Value → Except ShowError String
  | .str s => .ok (escape s)
  | v => .error (.misuse (.text v.typeName))

def entry (entries : List (String × Value)) (key : String) : Except ShowError Value :=
  match entries.lookup key with
  | some value => .ok value
  | none => .error (.missingEntry key)

def schemaCell (schema : Value) : Except ShowError String :=
  match schema with
  | .null => .ok "[dim]not yet observed[/dim]"
  | _ =>
    match Json.writeChecked true Json.spacedAscii schema with
    | .ok text => .ok (escape (mono text 60))
    | .error cause => .error (.raised cause)

/-- Name, description and learned schema of one tool, or its error. -/
def objectRow (entries : List (String × Value)) : Except ShowError (String × String × String) := do
  match entries.lookup "error" with
  | some error =>
    let name ← escapeValue (← entry entries "name")
    let text ← escapeValue error
    return (name, s!"[red]{text}[/red]", "")
  | none =>
    let name ← escapeValue (← entry entries "name")
    let description ← escapeValue ((entries.lookup "description").getD (.str ""))
    let schema ← schemaCell ((entries.lookup "result_schema").getD .null)
    return (name, description, schema)

def containsText (word : List Char) : List Char → Bool
  | [] => word.isEmpty
  | c :: rest => word.isPrefixOf (c :: rest) || containsText word rest

def isErrorWord : Value → Bool
  | .str s => s == "error"
  | _ => false

/-- Why something other than an object describes no tool. What holds the word `error` passes for the
descriptor of an error, and fails when its name is asked for. -/
def descriptorFault : Value → ShowError
  | .str s =>
    if containsText "error".toList s.toList then .textByName else .misuse (.entries "str")
  | .list items =>
    if items.any isErrorWord then .sequenceByName "list" else .misuse (.entries "list")
  | .tuple items =>
    if items.any isErrorWord then .sequenceByName "tuple" else .misuse (.entries "tuple")
  | v => .misuse (.members v.typeName)

def descriptorRow (descriptor : Value) : Except ShowError (String × String × String) :=
  match descriptor.shownEntries? with
  | some entries => objectRow entries
  | none => .error (descriptorFault descriptor)

def descriptorRows : List Value → Except ShowError (List (String × String × String))
  | [] => .ok []
  | descriptor :: rest => do
    let row ← descriptorRow descriptor
    let rows ← descriptorRows rest
    return row :: rows

def itemsOf (v : Value) : Except ShowError (List Value) :=
  v.askItems.mapError .misuse

/-- An answer about tools as a table. -/
def toolsInfo (info : Value) : Except ShowError (List Printed) := do
  let descriptors ← itemsOf (((← entriesOf info).lookup "tools_info").getD (.list []))
  let rows ← descriptorRows descriptors
  let table : Table := ⟨"dim", "bold dim", [
    ⟨"Tool", "bold white", rows.map (·.1)⟩,
    ⟨"Description", "white", rows.map (·.2.1)⟩,
    ⟨"Result schema", "dim white", rows.map (·.2.2)⟩]⟩
  return [.blank,
    .panel ⟨.table table, some (label "TOOLS" "cyan"), none, "cyan", (0, 1), true⟩]

end Workflow.Terminal
