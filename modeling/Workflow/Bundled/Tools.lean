import Workflow.Registry
import Workflow.Settings
import Workflow.World

/-!
The bundled tools: echo, summarize, file_write, and a family of two web tools. They report failures
as texts that start with `Error`.
-/
namespace Workflow.Bundled

/-- The arguments as entries; what is no object has no entries to ask for. -/
def entriesOf (args : Value) : Except Raised (List (String × Value)) :=
  args.askEntries.mapError Misuse.raised

/-- The trimmed text of an entry, of nothing if it is absent. -/
def textOf (entries : List (String × Value)) (key : String) : Except Raised String :=
  Text.trim <$> ((entries.lookup key).getD (.str "")).text

/-! ### Text -/

/-- The key and the value that the item at a position pairs up. A key goes by its text. -/
def pairOf (position : Nat) (item : Value) : Except Raised (String × Value) :=
  match item.items? with
  | none => .error ⟨"TypeError",
      s!"cannot convert dictionary update sequence element #{position} to a sequence"⟩
  | some [key, value] =>
    match key.unhashable? with
    | some kind => .error (Misuse.key kind).raised
    | none => .ok (key.display, value)
  | some items => .error ⟨"ValueError", s!"dictionary update sequence element #{position} has " ++
      s!"length {items.length}; 2 is required"⟩

def pairsFrom (position : Nat) : List Value → Except Raised (List (String × Value))
  | [] => .ok []
  | item :: rest => do
    let first ← pairOf position item
    let others ← pairsFrom (position + 1) rest
    return first :: others

/-- The arguments as an object. A sequence of pairs makes one, too. -/
def echo (args : Value) : Except Raised Value :=
  match args with
  | .dict entries => .ok (.dict entries)
  | .keyed keys values => .ok (.keyed keys values)
  | .unreadable _ => .ok (.dict [])
  | v => do
    let items ← v.askItems.mapError Misuse.raised
    let pairs ← pairsFrom 0 items
    return .dict (Entries.ofPairs pairs)

/-- The first characters up to a limit; a negative limit leaves that many off the end. -/
def cut (limit : Int) (cs : List Char) : List Char :=
  if limit < 0 then cs.take (cs.length - limit.natAbs) else cs.take limit.toNat

def summarize (limit : Int) (args : Value) : Except Raised Value := do
  let text ← textOf (← entriesOf args) "text"
  if text = "" then return .str "Error: no text provided."
  else return .str (String.ofList (cut limit text.toList))

/-! ### Files -/

def FileError.kind : FileError → String
  | .alreadyExists _ => "FileExistsError"
  | .notADirectory _ => "NotADirectoryError"
  | .isADirectory _ => "IsADirectoryError"
  | .nameTooLong _ => "OSError"
  | .nullCharacter => "ValueError"

/-- Where a path points to from the workspace, and whether that is the workspace or below it. -/
def target (workspace path : String) (disk : Disk) : Except FileError (Location × Bool) := do
  let root ← disk.locate workspace
  let target ← Disk.locate { disk with workingDirectory := root } path
  return (target, Location.within root target)

/-- Writes a text where a path points to, but nowhere outside the workspace. -/
def writeText (workspace path content : String) (disk : Disk) : Except FileError Value × Disk :=
  match target workspace path disk with
  | .error e => (.error e, disk)
  | .ok (_, false) =>
    (.ok (.str s!"Error: path {Text.quoted path} escapes the workspace."), disk)
  | .ok (location, true) =>
    match disk.write location content with
    | (.error e, disk) => (.error e, disk)
    | (.ok _, disk) =>
      (.ok (.dict [("path", .str location.text), ("bytes", .int content.utf8ByteSize)]), disk)

/-- The path and the content to write, which may be no text. -/
def writeRequest (args : Value) : Except Raised (String × Value) := do
  let entries ← entriesOf args
  let path ← textOf entries "path"
  return (path, (entries.lookup "content").getD (.str ""))

def fileWrite (workspace : String) (args : Value) (disk : Disk) : Except Raised Value × Disk :=
  match writeRequest args with
  | .error raised => (.error raised, disk)
  | .ok (path, content) =>
    if path = "" then (.ok (.str "Error: no path provided."), disk)
    else
      match content.text with
      | .error raised => (.error raised, disk)
      | .ok content =>
        let (answer, disk) := writeText workspace path content disk
        (answer.mapError fun e => ⟨FileError.kind e, e.message⟩, disk)

/-! ### Web -/

def maxResults : Nat := 4

/-- One result of a search; what is missing is empty. -/
def resultRow (row : Value) : Except Raised Value := do
  let entries ← entriesOf row
  let field (key : String) : Value := (entries.lookup key).getD (.str "")
  return .dict [("title", field "title"), ("body", field "body"), ("url", field "href")]

def resultRows : List Value → Except Raised (List Value)
  | [] => .ok []
  | row :: rest => do
    let first ← resultRow row
    let others ← resultRows rest
    return first :: others

def search (args : Value) (web : Web) : Except Raised Value × Web :=
  match (do textOf (← entriesOf args) "query") with
  | .error raised => (.error raised, web)
  | .ok query =>
    if query = "" then (.ok (.str "Error: no query provided."), web)
    else
      let answer : Except Raised Value := match web.onSearch with
        | .failed message => .ok (.str s!"Error: search failed: {message}")
        | .rows rows => (fun items => .dict [("items", .list items)]) <$> resultRows rows
      (answer, web.ask (.search query maxResults))

def post (timeout : Value) (args : Value) (web : Web) : Except Raised Value × Web :=
  match (do let entries ← entriesOf args; return (entries, ← textOf entries "url")) with
  | .error raised => (.error raised, web)
  | .ok (entries, url) =>
    let payload := (entries.lookup "payload").getD (.dict [])
    if url = "" then (.ok (.str "Error: no URL provided."), web)
    else
      let answer : Except Raised Value := match web.onPost with
        | .response status body =>
          .ok (.dict [("status", .int status), ("bytes", .int body.utf8ByteSize)])
        | .failed message => .ok (.str s!"Error: POST {url} failed: {message}")
        | .raised error => .error error
      (answer, web.ask (.post url payload timeout))

/-- Both web tools: the payload says which one is called. -/
def web (timeout : Value) (payload : Value) (web : Web) : Except Raised Value × Web :=
  match entriesOf payload with
  | .error raised => (.error raised, web)
  | .ok entries =>
    let tool := (entries.lookup "tool").getD .null
    let given := (entries.lookup "parameters").getD .null
    match given.test with
    | .error raised => (.error raised, web)
    | .ok present =>
      let args := if present then given else .dict []
      match tool with
      | .str "web_search" => search args web
      | .str "web_post" => post timeout args web
      | tool =>
        ((fun name => .dict [("error", .str (notFoundText name))]) <$> tool.text, web)

/-! ### Registration -/

def objectSchema (properties : List (String × String)) (required : List String) : Value :=
  .dict [("type", .str "object"),
    ("properties", .dict (properties.map fun (name, kind) =>
      (name, .dict [("type", .str kind)]))),
    ("required", .list (required.map .str))]

def declared (name description : String) (parameters : Value) : List (String × Value) :=
  [("name", .str name), ("description", .str description), ("parameters", parameters)]

def webSpecs : List ToolSpec := [
  ⟨"web_search", "Search the web. Returns \x7bitems: [\x7btitle, body, url\x7d]\x7d.",
    (objectSchema [("query", "string")] ["query"]).shownEntries?.getD []⟩,
  ⟨"web_post", "POST a JSON payload to a URL. Returns \x7bstatus, bytes\x7d.",
    (objectSchema [("url", "string"), ("payload", "object")] ["url"]).shownEntries?.getD []⟩]

def onDisk (action : Value → Disk → Except Raised Value × Disk) : Action World :=
  fun args _ w =>
    let (answer, disk) := action args w.disk
    (answer.mapError .told, { w with disk })

def onWeb (action : Value → Web → Except Raised Value × Web) : Action World :=
  fun args _ w =>
    let (answer, web) := action args w.web
    (answer.mapError .told, { w with web })

/-- The bundled tools under given settings. -/
def registrations (settings : Settings) : List (Registration World) := [
  .single (declared "echo" "Return the arguments unchanged."
      (.dict [("type", .str "object"), ("additionalProperties", .bool true)]))
    (fun args _ w => ((echo args).mapError .told, w)),
  .single (declared "summarize" s!"Trim text to at most {settings.summaryLimit} characters."
      (objectSchema [("text", "string")] ["text"]))
    (fun args _ w => ((summarize settings.summaryLimit args).mapError .told, w)),
  .single (declared "file_write"
      "Write text to a file inside the workspace. Returns \x7bpath, bytes\x7d."
      (objectSchema [("path", "string"), ("content", "string")] ["path", "content"]))
    (onDisk (fileWrite settings.workspace)),
  .family "web" webSpecs (onWeb (web (.float settings.httpTimeout)))]

end Workflow.Bundled
