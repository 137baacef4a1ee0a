import Workflow.Bundled.Tools
import Workflow.CommandLine.Arguments
import Workflow.LogLevel
import Workflow.Terminal.View

/-!
The command: reads settings, installs tools, runs the program file if there is one, then describes
tools. The exit code tells how the run ended: 0 for success, 1 for failure, 130 for cancellation.
-/
namespace Workflow.CommandLine

/-- What ends a command early, apart from a failing run. -/
inductive CommandError where
  | usage (cause : UsageError)
  | file (cause : FileError)
  | settings (cause : Settings.SourceError)
  | level (cause : LevelError)
  | install (cause : InstallError)
  | raised (cause : Thrown)
  | unshowable (cause : Terminal.ShowError)
  deriving DecidableEq, Repr

/-- The text of an exception that ends a command. -/
def textOf : Thrown → String
  | .told e => e.text
  | .exit e => e.text
  | .untold _ => "<exception str() failed>"

def CommandError.message : CommandError → String
  | usage cause => cause.message
  | file cause => cause.message
  | settings cause => cause.message
  | level cause => cause.message
  | install cause => cause.message
  | raised cause => textOf cause
  | unshowable cause => cause.message

/-- Misuse has an exit code of its own; other errors leave the command without one. -/
def CommandError.exitCode? : CommandError → Option Nat
  | usage _ => some 2
  | _ => none

def exitOk : Nat := 0
def exitFailed : Nat := 1
def exitCanceled : Nat := 130

/-- The exit code after an event of a run: of the latest result, whatever came before. A payload
with an `error` entry counts as a failure. -/
def exitAfter (code : Nat) : Event → Nat
  | .status _ => code
  | .result value canceled =>
    if canceled then exitCanceled
    else if (value.field? "error").isSome then code
    else exitOk

/-- What a command leaves behind. -/
structure Result where
  exit : Except CommandError Nat
  printed : List Terminal.Printed
  log : LogSetup
  session : Session World

namespace Result

def exitCode? (r : Result) : Option Nat :=
  match r.exit with
  | .ok code => some code
  | .error e => e.exitCode?

end Result

/-- The program file that the arguments name, if any: it has to be a file. -/
def programFile (disk : Disk) (path : String) : Except CommandError String :=
  match disk.locate path with
  | .error cause => .error (.file cause)
  | .ok _ =>
    match disk.find? path with
    | none => .error (.usage (.fileMissing path))
    | some (.directory _) => .error (.usage (.fileIsDirectory path))
    | some (.file content) => .ok content

/-- The name and content of the program file, and no further arguments. -/
def checkFile (disk : Disk) (positional : List String) :
    Except CommandError (Option (String × String)) :=
  match positional with
  | [] => .ok none
  | path :: extra => do
    let content ← programFile disk path
    if extra.isEmpty then return some (path, content)
    else .error (.usage (.extraArguments extra))

/-- Why the content of a program file is no program. -/
inductive FileFault where
  | notJson (error : Json.Error)
  | rejected (error : Program.ReadError)

def FileFault.message (path : String) : FileFault → String
  | notJson error => s!"{path} is not valid JSON: {error.message}"
  | rejected error => error.message

/-- What reading the file raises, if it holds an integer of too many digits. -/
def FileFault.raised? : FileFault → Option Raised
  | notJson (.numeral digits) => some ⟨"ValueError", Text.tooManyDigits digits⟩
  | rejected (.raised cause) => some cause
  | _ => none

def readProgram (content : String) : Except FileFault Program :=
  match Json.parse (String.ofList (Text.unifyLineEnds content.toList)) with
  | .error e => .error (.notJson e)
  | .ok value => (Program.read value).mapError .rejected

/-- The caller of the run of a command: interrupting the command sets the signal. -/
def interruptible : Caller World := ⟨.null, World.isCanceled⟩

/-- Runs a program and shows its events. The last event is the only one that may be impossible to
show; where an exception leaves the run, it ends the command. -/
def execute (engine : Engine World) (program : Program) (s : Session World) :
    Except Thrown Nat × List Terminal.Printed × Session World :=
  let started := { s with world := { s.world with signal := some false } }
  let (notices, after) :=
    (Phase.submitted (.ok program)).drain engine.execute interruptible started
  let events := notices.filterMap fun notice => (Event.ofNotice notice).toOption
  let output := Terminal.Output.join (events.map Terminal.progress)
  match output.raised? with
  | some e => (.error (.told e), output.printed, after)
  | none =>
    match notices.mapM Event.ofNotice with
    | .error cause => (.error cause, output.printed, after)
    | .ok _ => (.ok (events.foldl exitAfter exitFailed), output.printed, after)

/-- Shows a program, runs it, and shows how it goes. -/
def runProgram (engine : Engine World) (path : String) (program : Program) (s : Session World) :
    Except CommandError Nat × List Terminal.Printed × Session World :=
  let banner := Terminal.banner path engine.toolNames.length
  match Terminal.programParsed program with
  | .error cause => (.error (.unshowable (.raised cause)), banner, s)
  | .ok table =>
    let (code, shown, s) := execute engine program s
    (code.mapError CommandError.raised, banner ++ table ++ shown, s)

/-- Runs the program file, if there is one. No further work is done after a file without a program,
for which the answer has no code to go on with. -/
def runFile (engine : Engine World) (file : Option (String × String)) (s : Session World) :
    Except CommandError (Nat × Bool) × List Terminal.Printed × Session World :=
  match file with
  | none => (.ok (exitOk, true), [], s)
  | some (path, content) =>
    match readProgram content with
    | .error fault =>
      match fault.raised? with
      | some cause => (.error (.raised (.told cause)), [], s)
      | none => (.ok (exitFailed, false), Terminal.invalidProgram (fault.message path), s)
    | .ok program =>
      match runProgram engine path program s with
      | (.ok code, printed, s) => (.ok (code, true), printed, s)
      | (.error e, printed, s) => (.error e, printed, s)

/-- Describes tools after the run. -/
def describe (engine : Engine World) (names : List String) (s : Session World) :
    Except CommandError (List Terminal.Printed) :=
  if names.isEmpty then .ok []
  else do
    let info ← (engine.describeTools (.list (names.map .str)) s).mapError fun e => .raised (.told e)
    (Terminal.toolsInfo info).mapError .unshowable

/-- The work of a command whose settings and log level are in force. -/
def perform (engine : Engine World) (arguments : Arguments) (file : Option (String × String))
    (log : LogSetup) (s : Session World) : Result :=
  if file.isNone && arguments.describe.isEmpty then ⟨.error (.usage .nothingToDo), [], log, s⟩
  else
    match runFile engine file s with
    | (.error e, printed, s) => ⟨.error e, printed, log, s⟩
    | (.ok (code, false), printed, s) => ⟨.ok code, printed, log, s⟩
    | (.ok (code, true), printed, s) =>
      match describe engine arguments.describe s with
      | .error e => ⟨.error e, printed, log, s⟩
      | .ok shown => ⟨.ok code, printed ++ shown, log, s⟩

/-- The level that the arguments or the settings ask for. -/
def chosenLevel (arguments : Arguments) (settings : Settings) : String :=
  match arguments.logLevel with
  | some level => if level = "" then settings.logLevel else level
  | none => settings.logLevel

/-- Runs a command. `tools` gives the tools to install under the settings. Nothing is done for one
who asks for help. -/
def run (tools : Settings → List (Registration World)) (limits : Limits)
    (environment : List (String × String)) (argv : List String) (world : World) : Result :=
  let s : Session World := .opening world []
  let stop (e : CommandError) (log : LogSetup) : Result := ⟨.error e, [], log, s⟩
  match Arguments.read argv with
  | .error e => stop (.usage e) .initial
  | .ok arguments =>
    if arguments.help then ⟨.ok exitOk, [], .initial, s⟩
    else match checkFile world.disk arguments.positional with
    | .error e => stop e .initial
    | .ok file =>
      let envFile := (world.disk.findUpwards? ".env" world.disk.workingDirectory).getD ""
      match Settings.ofEnvironment environment envFile with
      | .error e => stop (.settings e) .initial
      | .ok settings =>
        match LogSetup.initial.set (.str (chosenLevel arguments settings)) with
        | .error e => stop (.level e) .initial
        | .ok log =>
          match Engine.install settings limits (tools settings) with
          | .error e => stop (.install e) log
          | .ok (engine, noted) =>
            perform engine arguments file log (.opening world noted)

end Workflow.CommandLine
