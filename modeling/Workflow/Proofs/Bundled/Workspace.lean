import Workflow.Proofs.Bundled.Confined

/-!
The workspace under a sequence of calls to write files. It stays a directory. One that does not
exist yet is made by the first call that points below it, but a call that points to the workspace
itself before that makes it a file, and nothing can be written in it any more.
-/
namespace Workflow
namespace FileNode

/-! ### Places above a location -/

/-- Only directories stand above what stands somewhere. -/
theorem directory_of_stands_append {node : FileNode} {front rest : Location} {standing : Standing}
    (more : rest ≠ []) (stood : node.stands (front ++ rest) = some standing) :
    node.stands front = some .directory := by
  induction front generalizing node with
  | nil =>
    obtain ⟨name, rest, rfl⟩ := List.exists_cons_of_ne_nil more
    cases node with
    | file content => cases stood
    | directory entries => rfl
  | cons name front ih =>
    cases node with
    | file content => cases stood
    | directory entries =>
      rw [List.cons_append, stands_directory_cons] at stood
      obtain ⟨child, found, stood⟩ := Option.bind_eq_some_iff.1 stood
      rw [stands_directory_cons, found]
      exact ih stood

theorem passable_of_above {node : FileNode} {location : Location}
    (free : node.Passable location.dropLast)
    (other : ∀ content, node.stands location ≠ some (.file content)) : node.Passable location := by
  intro place content above
  by_cases same : place = location
  · exact same ▸ other content
  · exact free place content (Location.prefix_dropLast above same)

theorem passable_of_directory {node : FileNode} {location : Location}
    (stood : node.stands location = some .directory) : node.Passable location := by
  rintro place content ⟨rest, rfl⟩
  by_cases whole : rest = []
  · rw [whole, List.append_nil] at stood
    rw [stood]
    nofun
  · rw [directory_of_stands_append whole stood]
    nofun

end FileNode

namespace Bundled

open Location (Normal resolve)

variable {workspace : String} {args : Value} {disk : Disk} {root : Location}

/-! ### One call -/

/-- Where a call points to from a workspace. -/
def Aims (root : Location) (args : Value) (target : Location) : Prop :=
  ∃ path content, Asks args path content ∧ resolve root path = target

/-- A call that points nowhere into the workspace does nothing; another one writes there. -/
theorem call_cases (rooted : disk.locate workspace = .ok root) (args : Value) :
    ((∀ target, Aims root args target → ¬ root <+: target) ∧
      (fileWrite workspace args disk).2 = disk) ∨
    ∃ target content, Aims root args target ∧ root <+: target ∧
      (fileWrite workspace args disk).2 = (disk.write target content).2 := by
  by_cases asking : ∃ path content, Asks args path content ∧ root <+: resolve root path
  · obtain ⟨path, content, asks, below⟩ := asking
    exact .inr ⟨_, content, ⟨path, content, asks, rfl⟩, below,
      (confined_of_asks rooted asks).opened below⟩
  · have outside (target : Location) (aims : Aims root args target) : ¬ root <+: target := by
      obtain ⟨path, content, asks, rfl⟩ := aims
      exact fun below => asking ⟨path, content, asks, below⟩
    refine .inl ⟨outside, ?_⟩
    by_cases asks : ∃ path content, Asks args path content
    · obtain ⟨path, content, asks⟩ := asks
      rw [(confined_of_asks rooted asks).refused (outside _ ⟨path, content, asks, rfl⟩)]
    · exact (fileWrite_of_idle fun _ path content _ given => asks ⟨path, content, given⟩).1

/-- The workspace stays where it is. -/
theorem locate_fileWrite (rooted : disk.locate workspace = .ok root) (args : Value) :
    (fileWrite workspace args disk).2.locate workspace = .ok root := by
  rcases call_cases rooted args with ⟨_, same⟩ | ⟨target, content, _, _, same⟩
  · rwa [same]
  · rw [same, locate_ok_iff, Disk.workingDirectory_write]
    exact locate_ok_iff.1 rooted

/-- No file gets in the way of the workspace, unless one is written at the workspace itself. -/
theorem passable_write {target : Location} {content : String} (below : root <+: target)
    (free : disk.root.Passable root)
    (safe : target = root → disk.root.stands root = some .directory ∨ ¬ root.Fits) :
    (disk.write target content).2.root.Passable root := by
  intro place text above stood
  refine free place text above ((Disk.write_file_iff ?_ text).1 stood)
  by_cases other : place = target
  · subst other
    have same : place = root := above.eq_of_length_le below.length_le
    refine .inr fun ok => ?_
    obtain ⟨fits, _, free⟩ := (Disk.write_ok_iff place content disk).1 ok
    rcases safe same with stood | long
    · exact free (same ▸ stood)
    · exact long (same ▸ fits)
  · exact .inl other

/-- A call that points to a missing workspace makes it a file. -/
theorem file_of_aims_root (rooted : disk.locate workspace = .ok root)
    (missing : disk.root.stands root = none) (free : disk.root.Passable root) (fits : root.Fits)
    (aims : Aims root args root) :
    ∃ content, (fileWrite workspace args disk).2.root.stands root = some (.file content) := by
  obtain ⟨path, content, asks, same⟩ := aims
  have opened := (confined_of_asks rooted asks).opened
  rw [same] at opened
  have written : (disk.write root content).1 = .ok () := by
    refine (Disk.write_ok_iff root content disk).2 ⟨fits, ?_, by rw [missing]; nofun⟩
    exact free.of_prefix (List.dropLast_prefix root)
  exact ⟨content, by rw [opened List.prefix_rfl]; exact Disk.write_of_ok written⟩

/-! ### Plain names -/

theorem resolve_name {name : String} (normal : Normal [name]) (root : Location) :
    resolve root name = root ++ [name] := by
  obtain ⟨present, here, down, whole⟩ := normal name (by simp)
  have relative : (name.toList.head? == some '/') = false := by
    rw [beq_eq_false_iff_ne]
    exact fun absolute => whole (List.mem_of_mem_head? absolute)
  have single : Location.components name = [name] := by
    rw [Location.components, Text.splitOn_of_not_mem '/' name.toList whole, List.map_singleton,
      String.ofList_toList]
  rw [resolve, relative, single]
  simp [Location.enter, Location.follow, present, here, down]

/-- No file is at the workspace, and a file with a plain name that no directory has can be written
in it. -/
structure Kept (workspace : String) (root : Location) (disk : Disk) : Prop where
  noFile : ∀ content, disk.root.stands root ≠ some (.file content)
  writable : ∀ args name content, Asks args name content → Normal [name] →
    Location.Fits (root ++ [name]) → disk.root.stands (root ++ [name]) ≠ some .directory →
    (fileWrite workspace args disk).1 = .ok (receipt (root ++ [name]) content)

theorem kept_of_passable (rooted : disk.locate workspace = .ok root)
    (free : disk.root.Passable root) : Kept workspace root disk where
  noFile content := free root content List.prefix_rfl
  writable args name content asks normal fits other := by
    have call := confined_of_asks rooted asks
    have target := resolve_name normal root
    have above : (root ++ [name]).dropLast = root := List.dropLast_concat
    have succeeds := call.succeeds
    rw [target, above] at succeeds
    exact succeeds (List.prefix_append root [name]) fits free other

/-! ### Sequences of calls -/

def afterCalls (workspace : String) (calls : List Value) (disk : Disk) : Disk :=
  calls.foldl (fun disk args => (fileWrite workspace args disk).2) disk

/-- Before a call points to the workspace itself, another one has pointed below it. -/
def Enters (root : Location) (calls : List Value) : Prop :=
  ∀ front args, front ++ [args] <+: calls → Aims root args root →
    ∃ earlier ∈ front, ∃ target, Aims root earlier target ∧ root <+: target ∧ target ≠ root

/-- No file is in the way of the workspace, and the calls to come put none there. -/
def Safe (root : Location) (calls : List Value) (disk : Disk) : Prop :=
  disk.root.Passable root ∧
    (disk.root.stands root = some .directory ∨ ¬ root.Fits ∨ Enters root calls)

theorem safe_fileWrite (rooted : disk.locate workspace = .ok root) {calls : List Value}
    (safe : Safe root (args :: calls) disk) :
    Safe root calls (fileWrite workspace args disk).2 := by
  obtain ⟨free, state⟩ := safe
  rcases call_cases rooted args with ⟨outside, same⟩ | ⟨target, content, aims, below, same⟩
  · rw [same]
    refine ⟨free, state.imp id (Or.imp id fun enters front later above pointed => ?_)⟩
    obtain ⟨earlier, member, target, aims, below, other⟩ :=
      enters (args :: front) later (List.cons_prefix_cons.2 ⟨rfl, above⟩) pointed
    rcases List.mem_cons.1 member with rfl | member
    · exact absurd below (outside target aims)
    · exact ⟨earlier, member, target, aims, below, other⟩
  · rw [same]
    by_cases itself : target = root
    · -- no call is earlier than this one, so it may point there only where that does no harm
      have kept : disk.root.stands root = some .directory ∨ ¬ root.Fits := by
        refine state.imp id fun state => state.resolve_right fun enters => ?_
        obtain ⟨earlier, member, _⟩ := enters [] args (by simp) (itself ▸ aims)
        cases member
      refine ⟨passable_write below free fun _ => kept, ?_⟩
      exact kept.imp (Disk.write_directory content) .inl
    · refine ⟨passable_write below free fun same => absurd same itself, ?_⟩
      by_cases fits : root.Fits
      · exact .inl (Disk.write_above below (Ne.symm itself) fits free)
      · exact .inr (.inl fits)

theorem kept_afterCalls (rooted : disk.locate workspace = .ok root) {calls front : List Value}
    (safe : Safe root calls disk) (above : front <+: calls) :
    Kept workspace root (afterCalls workspace front disk) := by
  induction front generalizing calls disk with
  | nil => exact kept_of_passable rooted safe.1
  | cons args front ih =>
    obtain ⟨rest, rfl⟩ := above
    have later := safe_fileWrite rooted safe
    exact ih (locate_fileWrite rooted args) later (List.prefix_append front rest)

/-- Calls of which none points below a missing workspace before one points to it make it a file. -/
theorem exists_file_afterCalls (rooted : disk.locate workspace = .ok root)
    (missing : disk.root.stands root = none) (free : disk.root.Passable root) (fits : root.Fits)
    {front : List Value}
    (outside : ∀ earlier ∈ front, ∀ target, Aims root earlier target → root <+: target →
      target = root)
    (aims : Aims root args root) :
    ∃ calls, calls <+: front ++ [args] ∧ ∃ content,
      (afterCalls workspace calls disk).root.stands root = some (.file content) := by
  induction front with
  | nil => exact ⟨[args], List.prefix_rfl, file_of_aims_root rooted missing free fits aims⟩
  | cons first front ih =>
    obtain ⟨here, later⟩ := List.forall_mem_cons.1 outside
    by_cases pointed : Aims root first root
    · exact ⟨[first], by simp, file_of_aims_root rooted missing free fits pointed⟩
    · -- the first call points neither to the workspace nor below it, so it leaves the disk alone
      have idle : (fileWrite workspace first disk).2 = disk := by
        rcases call_cases rooted first with ⟨_, same⟩ | ⟨target, content, aims, below, _⟩
        · exact same
        · exact absurd (here target aims below ▸ aims) pointed
      obtain ⟨calls, above, content, stood⟩ := ih later
      refine ⟨first :: calls, List.cons_prefix_cons.2 ⟨rfl, above⟩, content, ?_⟩
      rw [afterCalls, List.foldl_cons, idle]
      exact stood

end Bundled
end Workflow
