import Workflow.Bundled.Tools
import Workflow.Proofs.Disk.Written

/-!
Where a call to write a file points to, and what it may change: nothing outside the workspace, and
no file but the one that it points to.
-/
namespace Workflow
namespace Location

/-! ### Paths -/

/-- The names of a location are names of files and directories. -/
def Normal (location : Location) : Prop :=
  ∀ name ∈ location, name ≠ "" ∧ name ≠ "." ∧ name ≠ ".." ∧ '/' ∉ name.toList

theorem normal_follow {trail : List String} (normal : Normal trail) {component : String}
    (whole : '/' ∉ component.toList) : Normal (follow trail component) := by
  unfold follow
  split
  next => exact normal
  next present =>
    split
    next => exact fun name member => normal name (List.mem_of_mem_drop member)
    next down =>
      rw [Bool.or_eq_true, decide_eq_true_eq, decide_eq_true_eq, not_or] at present
      exact List.forall_mem_cons.2 ⟨⟨present.1, present.2, down, whole⟩, normal⟩

theorem normal_reverse {trail : List String} : Normal trail.reverse ↔ Normal trail := by
  simp only [Normal, List.mem_reverse]

/-- No component of a path has a slash in it. -/
theorem whole_of_mem_components {path component : String} (member : component ∈ components path) :
    '/' ∉ component.toList := by
  obtain ⟨part, found, rfl⟩ := List.mem_map.1 member
  obtain ⟨first, rest, parts⟩ := List.exists_cons_of_ne_nil
    (Text.splitOn_ne_nil '/' path.toList)
  rw [parts] at found
  rw [String.toList_ofList]
  exact ((Text.splitOn_eq_cons_iff '/' path.toList first rest).1 parts).1 part found

theorem normal_enter {location : Location} (normal : Normal location) {components : List String}
    (whole : ∀ component ∈ components, '/' ∉ component.toList) :
    Normal (location.enter components) := by
  have followed (trail : List String) (normal : Normal trail) :
      Normal (components.foldl follow trail) := by
    induction components generalizing trail with
    | nil => exact normal
    | cons component components ih =>
      obtain ⟨first, later⟩ := List.forall_mem_cons.1 whole
      exact ih later _ (normal_follow normal first)
  exact normal_reverse.2 (followed _ (normal_reverse.2 normal))

/-- A path leads to a normal location from one. -/
theorem normal_resolve {base : Location} (normal : Normal base) (path : String) :
    Normal (resolve base path) := by
  unfold resolve
  refine normal_enter ?_ fun component => whole_of_mem_components
  split
  · exact nofun
  · exact normal

end Location

namespace Bundled

open Location (Normal resolve)

/-! ### Calls -/

/-- A call gives a path, that is not blank and has no null character in it, and a text to write. -/
def Asks (args : Value) (path content : String) : Prop :=
  ∃ entries, entriesOf args = .ok entries ∧ textOf entries "path" = .ok path ∧
    ((entries.lookup "content").getD (.str "")).text = .ok content ∧
    path ≠ "" ∧ Char.ofNat 0 ∉ path.toList

theorem writeRequest_ok_iff {args value : Value} {path : String} :
    writeRequest args = .ok (path, value) ↔ ∃ entries, entriesOf args = .ok entries ∧
      textOf entries "path" = .ok path ∧ (entries.lookup "content").getD (.str "") = value := by
  unfold writeRequest
  cases entriesOf args with
  | error raised => simp [bind, Except.bind]
  | ok entries =>
    cases given : textOf entries "path" <;>
      simp [bind, Except.bind, pure, Except.pure, given]

/-- What a call that asks to write is read as. -/
theorem Asks.request {args : Value} {path content : String} (asks : Asks args path content) :
    ∃ value, writeRequest args = .ok (path, value) ∧ value.text = .ok content ∧ path ≠ "" ∧
      Char.ofNat 0 ∉ path.toList := by
  obtain ⟨entries, object, given, told, named, plain⟩ := asks
  exact ⟨_, writeRequest_ok_iff.2 ⟨entries, object, given, rfl⟩, told, named, plain⟩

theorem asks_of_request {args value : Value} {path content : String}
    (requested : writeRequest args = .ok (path, value)) (told : value.text = .ok content)
    (named : path ≠ "") (plain : Char.ofNat 0 ∉ path.toList) : Asks args path content := by
  obtain ⟨entries, object, given, rfl⟩ := writeRequest_ok_iff.1 requested
  exact ⟨entries, object, given, told, named, plain⟩

/-- The answer of a call that wrote a text. -/
def receipt (target : Location) (content : String) : Value :=
  .dict [("path", .str target.text), ("bytes", .int content.toUTF8.size)]

/-- What a call says whose path does not stay in the workspace. -/
def escape (path : String) : Value :=
  .str s!"Error: path {Text.quoted path} escapes the workspace."

variable {workspace path content : String} {args : Value} {disk : Disk} {root : Location}

theorem locate_ok_iff {location : Location} :
    disk.locate path = .ok location ↔
      Char.ofNat 0 ∉ path.toList ∧ resolve disk.workingDirectory path = location := by
  unfold Disk.locate
  split
  next null => simp_all
  next plain => simp_all

theorem target_of_rooted (rooted : disk.locate workspace = .ok root)
    (plain : Char.ofNat 0 ∉ path.toList) :
    target workspace path disk =
      .ok (resolve root path, Location.within root (resolve root path)) := by
  have located : Disk.locate { disk with workingDirectory := root } path =
      .ok (resolve root path) := locate_ok_iff.2 ⟨plain, rfl⟩
  rw [target, rooted]
  exact congrArg (fun found => do
    let target ← found
    return (target, Location.within root target)) located

theorem rooted_of_target {found : Location × Bool}
    (pointed : target workspace path disk = .ok found) :
    ∃ root, disk.locate workspace = .ok root ∧ Char.ofNat 0 ∉ path.toList := by
  obtain ⟨root, rooted, pointed⟩ := Success.bind_ok pointed
  obtain ⟨location, located, _⟩ := Success.bind_ok pointed
  exact ⟨root, rooted, (locate_ok_iff.1 located).1⟩

/-- A call either points out of the workspace and does nothing, or it writes, which can fail. -/
theorem fileWrite_cases (rooted : disk.locate workspace = .ok root)
    (asks : Asks args path content) {done : Except FileError Unit × Disk}
    (writing : disk.write (resolve root path) content = done) :
    (¬ root <+: resolve root path ∧ fileWrite workspace args disk = (.ok (escape path), disk)) ∨
    (root <+: resolve root path ∧ ∃ e, done.1 = .error e ∧
      fileWrite workspace args disk = (.error ⟨FileError.kind e, e.message⟩, done.2)) ∨
    (root <+: resolve root path ∧ done.1 = .ok () ∧
      fileWrite workspace args disk = (.ok (receipt (resolve root path) content), done.2)) := by
  obtain ⟨value, requested, told, given, plain⟩ := asks.request
  have pointed := target_of_rooted rooted plain
  unfold fileWrite
  rw [requested]
  simp only [if_neg given, told, writeText, pointed]
  by_cases below : root <+: resolve root path
  · have within : Location.within root (resolve root path) = true :=
      List.isPrefixOf_iff_prefix.2 below
    rw [within]
    right
    obtain ⟨result, after⟩ := done
    cases result with
    | error e => exact .inl ⟨below, e, rfl, by simp only [writing]; rfl⟩
    | ok done => exact .inr ⟨below, rfl, by simp only [writing]; rfl⟩
  · have within : Location.within root (resolve root path) = false :=
      Bool.not_eq_true _ ▸ fun within => below (List.isPrefixOf_iff_prefix.1 within)
    rw [within]
    exact .inl ⟨below, rfl⟩

/-- A call that asks for nothing on the disk, or whose workspace has no location, does nothing. -/
theorem fileWrite_of_idle
    (idle : ∀ root path content, disk.locate workspace = .ok root → ¬ Asks args path content) :
    (fileWrite workspace args disk).2 = disk ∧
      ∀ entries, (fileWrite workspace args disk).1 ≠ .ok (.dict entries) := by
  unfold fileWrite
  cases requested : writeRequest args with
  | error raised => exact ⟨rfl, nofun⟩
  | ok request =>
    obtain ⟨path, value⟩ := request
    by_cases given : path = ""
    · simp only [given, if_true]
      exact ⟨trivial, nofun⟩
    · cases told : value.text with
      | error raised => exact ⟨by simp only [if_neg given, told], by simp [if_neg given, told]⟩
      | ok content =>
        simp only [if_neg given, told, writeText]
        cases pointed : target workspace path disk with
        | error e => exact ⟨rfl, nofun⟩
        | ok found =>
          obtain ⟨root, rooted, plain⟩ := rooted_of_target pointed
          exact absurd (asks_of_request requested told given plain) (idle root _ _ rooted)

/-! ### Confinement -/

/-- What a call with a path and a text does to a disk whose workspace is at `root`. -/
structure Confined (root : Location) (path content : String) (disk : Disk)
    (call : Except Raised Value × Disk) : Prop where
  normal : Normal disk.workingDirectory → Normal root ∧ Normal (resolve root path)
  refused : ¬ root <+: resolve root path → call = (.ok (escape path), disk)
  opened : root <+: resolve root path → call.2 = (disk.write (resolve root path) content).2
  kept : ∀ place, place ≠ resolve root path ∨ (∀ entries, call.1 ≠ .ok (.dict entries)) →
    ∀ text, call.2.root.at? place = some (.file text) ↔ disk.root.at? place = some (.file text)
  succeeds : root <+: resolve root path → (resolve root path).Fits →
    disk.root.Passable (resolve root path).dropLast →
    disk.root.stands (resolve root path) ≠ some .directory →
    call.1 = .ok (receipt (resolve root path) content)
  written : ∀ entries, call.1 = .ok (.dict entries) → root <+: resolve root path ∧
    .dict entries = receipt (resolve root path) content ∧
    call.2.root.at? (resolve root path) = some (.file content)

theorem confined_of_asks (rooted : disk.locate workspace = .ok root)
    (asks : Asks args path content) :
    Confined root path content disk (fileWrite workspace args disk) := by
  have normal (base : Normal disk.workingDirectory) : Normal root ∧ Normal (resolve root path) := by
    have start : Normal root := (locate_ok_iff.1 rooted).2 ▸ Location.normal_resolve base workspace
    exact ⟨start, Location.normal_resolve start path⟩
  have kept (place : Location)
      (apart : place ≠ resolve root path ∨ (disk.write (resolve root path) content).1 ≠ .ok ())
      (text : String) :
      (disk.write (resolve root path) content).2.root.at? place = some (.file text) ↔
        disk.root.at? place = some (.file text) := by
    rw [← FileNode.stands_file_iff, ← FileNode.stands_file_iff]
    exact Disk.write_file_iff apart text
  have writes := Disk.write_ok_iff (resolve root path) content disk
  have stored (ok : (disk.write (resolve root path) content).1 = .ok ()) :
      (disk.write (resolve root path) content).2.root.at? (resolve root path) =
        some (.file content) := FileNode.stands_file_iff.1 (Disk.write_of_ok ok)
  -- what the writing comes to is known by these facts alone
  generalize writing : disk.write (resolve root path) content = done at kept writes stored
  rcases fileWrite_cases rooted asks writing with ⟨outside, same⟩ | ⟨below, e, failed, same⟩ |
    ⟨below, ok, same⟩
  · rw [same]
    exact {
      normal
      refused := fun _ => rfl
      opened := fun below => absurd below outside
      kept := fun _ _ _ => Iff.rfl
      succeeds := fun below => absurd below outside
      written := nofun }
  · have other : done.1 ≠ .ok () := by
      rw [failed]
      nofun
    rw [same]
    exact {
      normal
      refused := absurd below
      opened := fun _ => by rw [writing]
      kept := fun place _ => kept place (.inr other)
      succeeds := fun _ fits free vacant => absurd (writes.2 ⟨fits, free, vacant⟩) other
      written := nofun }
  · rw [same]
    exact {
      normal
      refused := absurd below
      opened := fun _ => by rw [writing]
      kept := fun place apart => kept place (apart.imp id fun other => absurd rfl (other _))
      succeeds := fun _ _ _ _ => rfl
      written := fun entries answered => ⟨below, (Except.ok.inj answered).symm, stored ok⟩ }

end Bundled
end Workflow
