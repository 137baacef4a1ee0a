import Workflow.Entries
import Workflow.Text.Quoted
import Workflow.Text.Split

/-!
A disk without links: a tree of directories and text files, and locations in it as lists of
component names from the root. A path is resolved by its text alone: empty components and single
dots vanish, and two dots take one component back, which the root does not have.
-/
namespace Workflow

/-- The components of a normalised absolute path, outermost first. -/
abbrev Location := List String

namespace Location

def text (location : Location) : String := "/" ++ "/".intercalate location

/-- The longest path, in bytes. -/
def textLimit : Nat := 4095

def isOverlong (location : Location) : Bool := textLimit < location.text.utf8ByteSize

/-- Follows one component of a path. A trail lists the components of a location innermost first. -/
def follow (trail : List String) (component : String) : List String :=
  if component = "" || component = "." then trail
  else if component = ".." then trail.drop 1
  else component :: trail

/-- The location that components lead to. -/
def enter (location : Location) (components : List String) : Location :=
  (components.foldl follow location.reverse).reverse

def components (path : String) : List String :=
  (Text.splitOn '/' path.toList).map String.ofList

/-- The location of a path; one without a slash in front starts at `base`. -/
def resolve (base : Location) (path : String) : Location :=
  enter (if path.toList.head? == some '/' then [] else base) (components path)

/-- Whether a location is a place or lies below it, component by component. -/
def within (place location : Location) : Bool := place.isPrefixOf location

end Location

inductive FileNode where
  | file (content : String)
  | directory (entries : List (String × FileNode))
  deriving Inhabited

inductive FileError where
  | alreadyExists (location : Location)
  | notADirectory (location : Location)
  | isADirectory (location : Location)
  | nameTooLong (location : Location)
  | nullCharacter
  deriving DecidableEq, Repr

def FileError.message : FileError → String
  | alreadyExists location => s!"[Errno 17] File exists: {Text.quoted location.text}"
  | notADirectory location => s!"[Errno 20] Not a directory: {Text.quoted location.text}"
  | isADirectory location => s!"[Errno 21] Is a directory: {Text.quoted location.text}"
  | nameTooLong location => s!"[Errno 36] File name too long: {Text.quoted location.text}"
  | nullCharacter => "embedded null byte"

namespace FileNode

/-- The node at a location. -/
def at? (node : FileNode) : Location → Option FileNode
  | [] => some node
  | name :: rest =>
    match node with
    | file _ => none
    | directory entries => (entries.lookup name).bind fun child => child.at? rest

/-- The longest name of a file or directory, in bytes. -/
def nameLimit : Nat := 255

/-- The entries of a node where a name in it is looked up, on the way to `place`. The length of the
path counts first, and that of the name last. -/
def entriesFor (place : Location) (name : String) :
    FileNode → Except FileError (List (String × FileNode))
  | file _ =>
    .error (if place.isOverlong then .nameTooLong place else .notADirectory place)
  | directory entries =>
    if place.isOverlong || nameLimit < name.utf8ByteSize then .error (.nameTooLong place)
    else .ok entries

/-- Makes the directories of a location that do not exist yet, outermost first. What was made
before an error stays. `walked` is the way to the node. -/
def makeDirectories (walked : Location) (node : FileNode) : Location → FileNode × Option FileError
  | [] =>
    match node with
    | directory entries => (directory entries, none)
    | file content => (file content, some (.alreadyExists walked))
  | name :: rest =>
    let place := walked ++ [name]
    match node.entriesFor place name with
    | .error error => (node, some error)
    | .ok entries =>
      let (child, error?) :=
        makeDirectories place ((entries.lookup name).getD (directory [])) rest
      (directory (Entries.put name child entries), error?)

/-- Writes a file into a directory that exists, or over a file. -/
def writeFile (walked : Location) (node : FileNode) (content : String) :
    Location → Except FileError FileNode
  | [] =>
    match node with
    | directory _ => .error (.isADirectory walked)
    | file _ => .ok (file content)
  | name :: rest => do
    let place := walked ++ [name]
    let entries ← node.entriesFor place name
    let child ← writeFile place ((entries.lookup name).getD (file "")) content rest
    return directory (Entries.put name child entries)

mutual

/-- All files below a node with their locations. -/
def files (walked : Location) : FileNode → List (Location × String)
  | file content => [(walked, content)]
  | directory entries => filesIn walked entries

def filesIn (walked : Location) : List (String × FileNode) → List (Location × String)
  | [] => []
  | (name, node) :: rest => files (walked ++ [name]) node ++ filesIn walked rest

end

end FileNode

/-- A disk and the directory that relative paths start from. -/
structure Disk where
  root : FileNode
  workingDirectory : Location

namespace Disk

/-- Makes a directory and those above it, as far as that is possible. -/
def makeDirectory (location : Location) (disk : Disk) : Disk :=
  { disk with root := (disk.root.makeDirectories [] location).1 }

/-- A disk that holds an empty working directory. -/
def empty (workingDirectory : Location) : Disk :=
  makeDirectory workingDirectory ⟨.directory [], workingDirectory⟩

/-- The location of a path. A name with a null character cannot be looked up. -/
def locate (disk : Disk) (path : String) : Except FileError Location :=
  if path.toList.contains (Char.ofNat 0) then .error .nullCharacter
  else .ok (Location.resolve disk.workingDirectory path)

/-- Makes the directories above a file and writes it. The directories stay when the file cannot be
written. -/
def write (location : Location) (content : String) (disk : Disk) : Except FileError Unit × Disk :=
  match disk.root.makeDirectories [] location.dropLast with
  | (root, some error) => (.error error, { disk with root })
  | (root, none) =>
    match root.writeFile [] content location with
    | .error error => (.error error, { disk with root })
    | .ok root => (.ok (), { disk with root })

/-- Follows components from a directory as a disk does: each one but the last has to be a directory
that exists, also before two dots. -/
def follow? (disk : Disk) (location : Location) : List String → Option Location
  | [] => (disk.root.at? location).map fun _ => location
  | component :: rest =>
    match disk.root.at? location with
    | some (.directory _) => follow? disk (location.enter [component]) rest
    | _ => none

/-- The file or directory that a path names. -/
def find? (disk : Disk) (path : String) : Option FileNode :=
  if path = "" || Location.textLimit < path.utf8ByteSize then none
  else
    let base := if path.toList.head? == some '/' then [] else disk.workingDirectory
    (disk.follow? base (Location.components path)).bind disk.root.at?

/-- The text of the file of a name in the nearest directory that has it, from a location upwards. -/
def findUpwards? (disk : Disk) (name : String) (location : Location) : Option String :=
  (List.range (location.length + 1)).reverse.findSome? fun depth =>
    match disk.root.at? (location.take depth ++ [name]) with
    | some (.file content) => some content
    | _ => none

/-- The files below the working directory by their relative paths. -/
def listing (disk : Disk) : List (String × String) :=
  match disk.root.at? disk.workingDirectory with
  | some node => (node.files []).map fun (location, content) =>
      ("/".intercalate location, content)
  | none => []

end Disk
end Workflow
