import Workflow.CommandLine.Command
import Workflow.Terminal.Plain

/-!
The command as a program: it copies what the command may read from the disk, runs the command on the
copy, prints what it shows, and writes back the files it changed. It has no connection to the web,
and an interrupt ends it at once.
-/
namespace Workflow.CommandLine

def helpLines : List String := [
  "Usage: tool-program [OPTIONS] [PROGRAM_FILE]",
  "",
  "  Run a JSON tool program against the bundled demo tools.",
  "",
  "Options:",
  "  -d, --describe TEXT   Describe a tool (repeatable). Runs after the program, if any.",
  "  -l, --log-level TEXT  Logging level (default: TOOL_PROGRAM_LOG_LEVEL or WARNING).",
  "  --help                Show this message and exit."]

/-- What stands at a path: a file with its text, or a directory. -/
abbrev Found := String × Option String

/-- Copies found files and directories onto a disk. -/
def place (disk : Disk) (found : List Found) : Disk :=
  found.foldl (fun disk (path, content?) =>
    let location := Location.resolve disk.workingDirectory path
    match content? with
    | some content => (disk.write location content).2
    | none => disk.makeDirectory location) disk

/-- The places where an environment file may stand. -/
def envFilePaths (workingDirectory : Location) : List String :=
  (List.range (workingDirectory.length + 1)).map fun depth =>
    Location.text (workingDirectory.take depth ++ [".env"])

/-- The files that differ from those of an earlier disk. -/
def changedFiles (before after : Disk) : List (Location × String) :=
  let known := before.root.files []
  (after.root.files []).filter fun file => !known.contains file

/-- The lines of the log that its level lets through. -/
def logLines (result : Result) : List String :=
  (result.session.log.filter fun line => result.log.level ≤ line.severity.level).map fun line =>
    s!"{line.severity.name} {line.channel}: {line.message}"

/-! ### Outside -/

/-- Looks at a path, and below a directory at most `depth` levels deep. -/
def look (depth : Nat) (path : String) : IO (List Found) := do
  let place := (← IO.currentDir) / path
  if ← place.isDir then
    let below ← match depth with
      | 0 => pure []
      | depth + 1 => do
        let entries ← place.readDir
        entries.toList.mapM fun entry => look depth entry.path.toString
    return (path, none) :: below.flatten
  else if ← place.pathExists then
    let content ← try IO.FS.readFile place catch _ => pure ""
    return [(path, some content)]
  else return []

def readVariables (names : List String) : IO (List (String × String)) := do
  let values ← names.mapM fun name => do return (name, ← IO.getEnv name)
  return values.filterMap fun (name, value?) => value?.map (name, ·)

/-- How deep directories are looked at. -/
def lookDepth : Nat := 64

/-- How deep the runs of a program may nest, and the texts that it takes in. -/
def limits : Limits := ⟨1000, 1000⟩

/-- The environment, and a copy of what the command may read. -/
def surroundings (arguments : Arguments) : IO (List (String × String) × Disk) := do
  let here := Location.resolve [] (← IO.currentDir).toString
  let programs ← arguments.positional.mapM (look 0)
  let envFiles ← (envFilePaths here).mapM (look 0)
  let disk := place (Disk.empty here) (programs.flatten ++ envFiles.flatten)
  let envFile := (disk.findUpwards? ".env" here).getD ""
  let names := EnvFile.switchName :: Settings.variableNames.map (·.2) ++
    EnvFile.referencedNames envFile.toList
  let environment ← readVariables names
  match Settings.ofEnvironment environment envFile with
  | .error _ => return (environment, disk)
  | .ok settings => return (environment, place disk (← look lookDepth settings.workspace))

def writeBack (files : List (Location × String)) : IO Unit :=
  files.forM fun (location, content) => do
    IO.FS.createDirAll (Location.text location.dropLast)
    IO.FS.writeFile location.text content

/-- Runs the command and gives its exit code. -/
def launch (argv : List String) : IO UInt32 := do
  let arguments := (Arguments.read argv).toOption.getD .empty
  if arguments.help then
    helpLines.forM IO.println
    return 0
  let (environment, disk) ← surroundings arguments
  let result := run Bundled.registrations limits environment argv (World.fresh disk .offline)
  writeBack (changedFiles disk result.session.world.disk)
  (logLines result).forM IO.eprintln
  (result.printed.flatMap Terminal.Printed.lines).forM IO.println
  match result.exit with
  | .ok code => return code.toUInt32
  | .error e =>
    IO.eprintln s!"Error: {e.message}"
    return (e.exitCode?.getD exitFailed).toUInt32

end Workflow.CommandLine

def main (argv : List String) : IO UInt32 := Workflow.CommandLine.launch argv
