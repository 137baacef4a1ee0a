import Workflow.Disk
import Workflow.Proofs.Success

/-!
What stands on a disk after directories were made and a file was written. Directories are made where
nothing stands, down to the first name that is too long or that a file has; a file is written at one
location. Everything else stays as it stands.
-/
namespace Workflow
namespace Location

/-- A disk can hold the location: its path is not too long and neither is a name in it. -/
def Fits (location : Location) : Prop :=
  location.isOverlong = false ∧ ∀ name ∈ location, name.utf8ByteSize ≤ FileNode.nameLimit

/-- Each name is written behind a slash. -/
theorem text_cons_cons (name second : String) (rest : Location) :
    text (name :: second :: rest) = "/" ++ name ++ text (second :: rest) := by
  simp only [text, String.intercalate_cons_cons, String.append_assoc]

theorem utf8ByteSize_text_le (front rest : Location) :
    (text front).utf8ByteSize ≤ (text (front ++ rest)).utf8ByteSize := by
  induction front with
  | nil =>
    simp only [text, String.utf8ByteSize_append, String.intercalate_nil]
    exact Nat.add_le_add_left (Nat.zero_le _) _
  | cons name front ih =>
    cases front with
    | nil =>
      cases rest with
      | nil => exact Nat.le_refl _
      | cons second rest =>
        rw [List.singleton_append, text_cons_cons, String.utf8ByteSize_append]
        exact Nat.le_add_right _ _
    | cons second front =>
      simp only [List.cons_append, text_cons_cons, String.utf8ByteSize_append] at ih ⊢
      exact Nat.add_le_add_left ih _

theorem fits_nil : Fits [] := ⟨rfl, nofun⟩

/-- The directories above a location fit if it does. -/
theorem Fits.of_prefix {front location : Location} (fits : Fits location)
    (above : front <+: location) : Fits front := by
  obtain ⟨rest, rfl⟩ := above
  obtain ⟨short, names⟩ := fits
  refine ⟨?_, fun name member => names name (List.mem_append_left rest member)⟩
  have longer := utf8ByteSize_text_le front rest
  simp only [isOverlong, decide_eq_false_iff_not] at short ⊢
  omega

theorem prefix_dropLast {front location : Location} (above : front <+: location)
    (other : front ≠ location) : front <+: location.dropLast := by
  obtain ⟨rest, rfl⟩ := above
  have more : rest ≠ [] := by
    rintro rfl
    exact other (List.append_nil front).symm
  rw [List.dropLast_append_of_ne_nil more]
  exact List.prefix_append front rest.dropLast

theorem fits_append_singleton {walked : Location} (fits : Fits walked) (name : String) :
    Fits (walked ++ [name]) ↔
      (walked ++ [name]).isOverlong = false ∧ name.utf8ByteSize ≤ FileNode.nameLimit := by
  constructor
  · rintro ⟨short, names⟩
    exact ⟨short, names name (by simp)⟩
  · rintro ⟨short, last⟩
    refine ⟨short, fun other member => ?_⟩
    rcases List.mem_append.1 member with member | member
    · exact fits.2 other member
    · rwa [List.mem_singleton.1 member]

end Location

/-- What stands at a location. -/
inductive Standing where
  | directory
  | file (content : String)
  deriving DecidableEq, Repr

namespace FileNode

/-! ### What stands where -/

def standing : FileNode → Standing
  | directory _ => .directory
  | file content => .file content

def stands (node : FileNode) (location : Location) : Option Standing :=
  (node.at? location).map standing

@[simp] theorem stands_nil (node : FileNode) : node.stands [] = some node.standing := by
  rw [stands, at?, Option.map_some]

@[simp] theorem stands_file_cons (content name : String) (rest : Location) :
    (file content).stands (name :: rest) = none := rfl

theorem stands_directory_cons (entries : List (String × FileNode)) (name : String)
    (rest : Location) :
    (directory entries).stands (name :: rest) =
      (entries.lookup name).bind fun child => child.stands rest := by
  rw [stands, at?]
  cases entries.lookup name <;> rfl

theorem stands_put (name : String) (child : FileNode) (entries : List (String × FileNode))
    (other : String) (rest : Location) :
    (directory (Entries.put name child entries)).stands (other :: rest) =
      if other = name then child.stands rest else (directory entries).stands (other :: rest) := by
  rw [stands_directory_cons, stands_directory_cons, Entries.lookup_put]
  split <;> rfl

/-- What stands below a name, where an absent name counts as a given node. -/
theorem stands_getD (entries : List (String × FileNode)) (name : String) (absent : FileNode)
    (rest : Location) :
    ((entries.lookup name).getD absent).stands rest =
      if entries.lookup name = none then absent.stands rest
      else (directory entries).stands (name :: rest) := by
  rw [stands_directory_cons]
  cases entries.lookup name <;> simp

theorem stands_empty (location : Location) :
    (directory []).stands location = if location = [] then some .directory else none := by
  cases location <;> rfl

theorem stands_file_iff {node : FileNode} {location : Location} {content : String} :
    node.stands location = some (.file content) ↔ node.at? location = some (file content) := by
  rw [stands]
  cases node.at? location with
  | none => simp
  | some found => cases found <;> simp [standing]

/-- No file is on the way to a location, nor at it. -/
def Passable (node : FileNode) (location : Location) : Prop :=
  ∀ place content, place <+: location → node.stands place ≠ some (.file content)

theorem Passable.of_prefix {node : FileNode} {front location : Location}
    (passable : node.Passable location) (above : front <+: location) : node.Passable front :=
  fun place content higher => passable place content (higher.trans above)

theorem not_passable_file (content : String) (location : Location) :
    ¬ (file content).Passable location :=
  fun passable => passable [] content List.nil_prefix rfl

theorem passable_cons (entries : List (String × FileNode)) (name : String) (rest : Location) :
    (directory entries).Passable (name :: rest) ↔
      ((entries.lookup name).getD (directory [])).Passable rest := by
  constructor
  · intro passable place content above
    rw [stands_getD, stands_empty]
    split
    · split <;> nofun
    · exact passable (name :: place) content (List.cons_prefix_cons.2 ⟨rfl, above⟩)
  · intro passable place content above
    cases place with
    | nil => simp [standing]
    | cons other place =>
      obtain ⟨rfl, lower⟩ := List.cons_prefix_cons.1 above
      have free := passable place content lower
      rw [stands_getD] at free
      split at free
      next absent =>
        rw [stands_directory_cons, absent]
        nofun
      next => exact free

/-! ### Looking a name up -/

theorem entriesFor_cases {walked : Location} (fits : walked.Fits) (node : FileNode)
    (name : String) :
    (∃ entries, node = directory entries ∧ Location.Fits (walked ++ [name]) ∧
      node.entriesFor (walked ++ [name]) name = .ok entries) ∨
    ((∀ entries, node = directory entries → ¬ Location.Fits (walked ++ [name])) ∧
      ∃ error, node.entriesFor (walked ++ [name]) name = .error error) := by
  cases node with
  | file content => exact .inr ⟨nofun, _, rfl⟩
  | directory entries =>
    have limits := Location.fits_append_singleton fits name
    rw [entriesFor]
    split
    next long =>
      refine .inr ⟨fun _ _ fits => ?_, _, rfl⟩
      obtain ⟨short, small⟩ := limits.1 fits
      rw [short, Bool.false_or, decide_eq_true_eq] at long
      omega
    next short =>
      rw [Bool.or_eq_true, not_or, Bool.not_eq_true, decide_eq_true_eq, Nat.not_lt] at short
      exact .inl ⟨entries, rfl, limits.2 short, rfl⟩

theorem directory_of_entriesFor {place : Location} {name : String} {node : FileNode}
    {entries : List (String × FileNode)} (found : node.entriesFor place name = .ok entries) :
    node = directory entries := by
  cases node with
  | file content => cases found
  | directory all =>
    rw [entriesFor] at found
    split at found
    · cases found
    · rw [Except.ok.inj found]

/-! ### Directories -/

/-- Directories stand down to a location where nothing stood; the rest stands as it stood. -/
def Makes (made : Location) (before after : FileNode) : Prop :=
  ∀ place, after.stands place =
    if place <+: made then (before.stands place).or (some .directory) else before.stands place

theorem makes_nil (node : FileNode) : Makes [] node node := by
  intro place
  split
  next above =>
    rw [List.prefix_nil.1 above, stands_nil]
    rfl
  next => rfl

theorem Makes.file_iff {made : Location} {before after : FileNode} (makes : Makes made before after)
    (place : Location) (content : String) :
    after.stands place = some (.file content) ↔ before.stands place = some (.file content) := by
  rw [makes]
  split
  · cases before.stands place <;> simp
  · rfl

theorem Makes.directory {made : Location} {before after : FileNode}
    (makes : Makes made before after) {place : Location}
    (stood : before.stands place = some .directory) : after.stands place = some .directory := by
  rw [makes, stood]
  split <;> rfl

/-- Where directories were made and no file was in the way, directories stand. -/
theorem Makes.stands_directory {made place : Location} {before after : FileNode}
    (makes : Makes made before after) (above : place <+: made) (free : before.Passable place) :
    after.stands place = some .directory := by
  rw [makes, if_pos above]
  cases found : before.stands place with
  | none => rfl
  | some standing =>
    cases standing with
    | directory => rfl
    | file content => exact absurd found (free place content List.prefix_rfl)

/-- A directory below a name is put back where it was, or where nothing was. -/
theorem makes_put {made : Location} {entries : List (String × FileNode)} {name : String}
    {child : FileNode} (makes : Makes made ((entries.lookup name).getD (directory [])) child) :
    Makes (name :: made) (directory entries) (directory (Entries.put name child entries)) := by
  intro place
  cases place with
  | nil => simp [standing]
  | cons other rest =>
    rw [stands_put]
    by_cases same : other = name
    · subst other
      rw [if_pos rfl, makes rest, stands_getD, stands_empty]
      by_cases absent : entries.lookup name = none
      · -- the directory is new, so nothing stood at it nor below it
        simp only [stands_directory_cons, absent, Option.bind_none, if_true, List.cons_prefix_cons,
          true_and]
        cases rest <;> simp
      · simp only [absent, if_false, List.cons_prefix_cons, true_and]
    · rw [if_neg same, if_neg fun above => same (List.cons_prefix_cons.1 above).1]

/-- Making the directories of a location came to `made`: it fits, and so far as names fit and no
file is in the way, everything is made. -/
structure Made (walked : Location) (before : FileNode) (location made : Location)
    (after : FileNode) : Prop where
  above : made <+: location
  fits : Location.Fits (walked ++ made)
  complete : ∀ front, front <+: location → Location.Fits (walked ++ front) → before.Passable front →
    front <+: made
  makes : Makes made before after

/-- Either the directory below the first name is made and the rest in it, or nothing is made. -/
theorem makeDirectories_cons {walked : Location} (fits : walked.Fits) (node : FileNode)
    (name : String) (rest : Location) :
    (∃ entries, node = directory entries ∧ Location.Fits (walked ++ [name]) ∧
      let below := makeDirectories (walked ++ [name])
        ((entries.lookup name).getD (directory [])) rest
      makeDirectories walked node (name :: rest) =
        (directory (Entries.put name below.1 entries), below.2)) ∨
    ((∀ entries, node = directory entries → ¬ Location.Fits (walked ++ [name])) ∧
      ∃ error, makeDirectories walked node (name :: rest) = (node, some error)) := by
  rw [makeDirectories]
  rcases entriesFor_cases fits node name with ⟨entries, same, room, found⟩ | ⟨stuck, error, failed⟩
  · rw [found]
    exact .inl ⟨entries, same, room, rfl⟩
  · rw [failed]
    exact .inr ⟨stuck, error, rfl⟩

/-- Where no first name can be looked up, no way leads on. -/
theorem not_passable_of_stuck {walked : Location} {node : FileNode} {name : String}
    (stuck : ∀ entries, node = directory entries → ¬ Location.Fits (walked ++ [name]))
    {rest : Location} (fits : Location.Fits (walked ++ name :: rest)) :
    ¬ node.Passable (name :: rest) := by
  cases node with
  | file content => exact not_passable_file content _
  | directory entries =>
    have above : walked ++ [name] <+: walked ++ name :: rest := by simp
    exact absurd (fits.of_prefix above) (stuck entries rfl)

theorem made_makeDirectories {walked : Location} (fits : walked.Fits) (node : FileNode)
    (location : Location) :
    ∃ made, Made walked node location made (makeDirectories walked node location).1 := by
  induction location generalizing walked node with
  | nil =>
    have same : (makeDirectories walked node []).1 = node := by cases node <;> rfl
    refine ⟨[], List.prefix_rfl, by rwa [List.append_nil], fun _ above _ _ => above, ?_⟩
    rw [same]
    exact makes_nil node
  | cons name rest ih =>
    rcases makeDirectories_cons fits node name rest with ⟨entries, rfl, room, same⟩ |
      ⟨stuck, error, same⟩
    · obtain ⟨made, below⟩ := ih room ((entries.lookup name).getD (directory []))
      refine ⟨name :: made, List.cons_prefix_cons.2 ⟨rfl, below.above⟩,
        List.append_cons walked name made ▸ below.fits, fun front above fits free => ?_, ?_⟩
      · cases front with
        | nil => exact List.nil_prefix
        | cons other front =>
          obtain ⟨rfl, lower⟩ := List.cons_prefix_cons.1 above
          rw [List.append_cons] at fits
          have free := (passable_cons entries other front).1 free
          exact List.cons_prefix_cons.2 ⟨rfl, below.complete front lower fits free⟩
      · rw [same]
        exact makes_put below.makes
    · refine ⟨[], List.nil_prefix, by rwa [List.append_nil], fun front above fits free => ?_, ?_⟩
      · cases front with
        | nil => exact List.nil_prefix
        | cons other front =>
          obtain ⟨rfl, _⟩ := List.cons_prefix_cons.1 above
          exact absurd free (not_passable_of_stuck stuck fits)
      · rw [same]
        exact makes_nil node

theorem makeDirectories_none_iff {walked : Location} (fits : walked.Fits) (node : FileNode)
    (location : Location) :
    (makeDirectories walked node location).2 = none ↔
      Location.Fits (walked ++ location) ∧ node.Passable location := by
  induction location generalizing walked node with
  | nil =>
    rw [List.append_nil]
    cases node with
    | file content => exact ⟨nofun, fun free => absurd free.2 (not_passable_file content [])⟩
    | directory entries =>
      refine ⟨fun _ => ⟨fits, fun place content above => ?_⟩, fun _ => rfl⟩
      rw [List.prefix_nil.1 above]
      nofun
  | cons name rest ih =>
    rcases makeDirectories_cons fits node name rest with ⟨entries, rfl, room, same⟩ |
      ⟨stuck, error, same⟩
    · rw [same, ih room, passable_cons, ← List.append_cons]
    · rw [same]
      exact ⟨nofun, fun free => absurd free.2 (not_passable_of_stuck stuck free.1)⟩

/-- Without an error everything is made. -/
theorem made_of_none {walked : Location} (fits : walked.Fits) {node : FileNode}
    {location : Location} (success : (makeDirectories walked node location).2 = none) :
    Made walked node location location (makeDirectories walked node location).1 := by
  obtain ⟨made, done⟩ := made_makeDirectories fits node location
  obtain ⟨room, free⟩ := (makeDirectories_none_iff fits node location).1 success
  have reached := done.complete location List.prefix_rfl room free
  have whole : made = location := done.above.eq_of_length_le reached.length_le
  exact whole ▸ done

/-! ### Files -/

/-- A file stands at a location; everything else stands as it stood. -/
def Stores (location : Location) (content : String) (before after : FileNode) : Prop :=
  ∀ place, after.stands place = if place = location then some (.file content)
    else before.stands place

/-- A file below a name is put back where it was, or where nothing was. -/
theorem stores_put {location : Location} {content : String} {entries : List (String × FileNode)}
    {name : String} {child : FileNode} (present : entries.lookup name = none → location = [])
    (stores : Stores location content ((entries.lookup name).getD (file "")) child) :
    Stores (name :: location) content (directory entries)
      (directory (Entries.put name child entries)) := by
  intro place
  cases place with
  | nil => simp [standing]
  | cons other rest =>
    rw [stands_put]
    by_cases same : other = name
    · subst other
      simp only [if_true, List.cons.injEq, true_and]
      rw [stores rest, stands_getD]
      by_cases absent : entries.lookup name = none
      · rw [stands_directory_cons, absent, present absent]
        cases rest <;> simp
      · rw [if_neg absent]
    · rw [if_neg same, if_neg fun whole => same (List.cons.inj whole).1]

theorem writeFile_cons_ok {walked : Location} {node after : FileNode} {content name : String}
    {rest : Location} (written : writeFile walked node content (name :: rest) = .ok after) :
    ∃ entries child, node = directory entries ∧
      writeFile (walked ++ [name]) ((entries.lookup name).getD (file "")) content rest = .ok child ∧
      after = directory (Entries.put name child entries) := by
  rw [writeFile] at written
  obtain ⟨entries, found, written⟩ := Success.bind_ok written
  obtain ⟨child, below, written⟩ := Success.bind_ok written
  exact ⟨entries, child, directory_of_entriesFor found, below, (Except.ok.inj written).symm⟩

theorem stores_writeFile {walked : Location} {node after : FileNode} {content : String}
    {location : Location} (written : writeFile walked node content location = .ok after) :
    Stores location content node after := by
  induction location generalizing walked node after with
  | nil =>
    cases node with
    | directory entries => cases written
    | file old =>
      cases written
      intro place
      cases place <;> simp [standing]
  | cons name rest ih =>
    obtain ⟨entries, child, rfl, below, rfl⟩ := writeFile_cons_ok written
    refine stores_put (fun absent => ?_) (ih below)
    cases rest with
    | nil => rfl
    | cons second rest =>
      -- an absent name counts as an empty file, which has no entries to go on with
      rw [absent] at below
      obtain ⟨_, _, impossible, _⟩ := writeFile_cons_ok below
      cases impossible

/-- Directories stand above a location and none stands at it. -/
def Writable (node : FileNode) (location : Location) : Prop :=
  (∀ front, front <+: location → front ≠ location → node.stands front = some .directory) ∧
    node.stands location ≠ some .directory

theorem writable_cons (entries : List (String × FileNode)) (name : String) (rest : Location) :
    (directory entries).Writable (name :: rest) ↔
      ((entries.lookup name).getD (file "")).Writable rest := by
  have proper (front : Location) (above : front <+: rest) (other : front ≠ rest) :
      name :: front <+: name :: rest ∧ name :: front ≠ name :: rest :=
    ⟨List.cons_prefix_cons.2 ⟨rfl, above⟩, fun same => other (List.cons.inj same).2⟩
  constructor
  · rintro ⟨directories, free⟩
    refine ⟨fun front above other => ?_, ?_⟩
    · have stood := directories (name :: front) (proper front above other).1
        (proper front above other).2
      rw [stands_directory_cons] at stood
      obtain ⟨child, found, stood⟩ := Option.bind_eq_some_iff.1 stood
      rw [found]
      exact stood
    · rw [stands_getD]
      split
      · cases rest <;> nofun
      · exact free
  · rintro ⟨directories, free⟩
    refine ⟨fun front above other => ?_, ?_⟩
    · cases front with
      | nil => rfl
      | cons second front =>
        obtain ⟨rfl, lower⟩ := List.cons_prefix_cons.1 above
        have stood := directories front lower fun same => other (same ▸ rfl)
        rw [stands_getD] at stood
        split at stood
        · cases front <;> cases stood
        · exact stood
    · rw [stands_getD] at free
      split at free
      next absent =>
        rw [stands_directory_cons, absent]
        nofun
      next => exact free

theorem writeFile_ok_iff {walked : Location} (fits : walked.Fits) (node : FileNode)
    (content : String) (location : Location) :
    (∃ after, writeFile walked node content location = .ok after) ↔
      Location.Fits (walked ++ location) ∧ node.Writable location := by
  induction location generalizing walked node with
  | nil =>
    rw [List.append_nil]
    cases node with
    | directory entries => exact ⟨nofun, fun free => absurd rfl free.2.2⟩
    | file old =>
      refine ⟨fun _ => ⟨fits, fun front above other => ?_, nofun⟩, fun _ => ⟨_, rfl⟩⟩
      exact absurd (List.prefix_nil.1 above) other
  | cons name rest ih =>
    rw [List.append_cons]
    rcases entriesFor_cases fits node name with ⟨entries, rfl, room, found⟩ | ⟨stuck, error, failed⟩
    · rw [writable_cons, ← ih room]
      constructor
      · rintro ⟨after, written⟩
        obtain ⟨_, child, same, below, _⟩ := writeFile_cons_ok written
        cases same
        exact ⟨child, below⟩
      · rintro ⟨child, below⟩
        refine ⟨directory (Entries.put name child entries), ?_⟩
        rw [writeFile, found]
        change (writeFile _ _ content rest >>= fun child =>
          .ok (directory (Entries.put name child entries))) = _
        rw [below]
        rfl
    · constructor
      · rintro ⟨after, written⟩
        rw [writeFile, failed] at written
        cases written
      · rintro ⟨room, directories, _⟩
        have stood := directories [] List.nil_prefix nofun
        cases node with
        | file old => cases stood
        | directory entries =>
          exact absurd (room.of_prefix (List.prefix_append _ rest)) (stuck entries rfl)

/-- Once the directories above a location are made, only a directory at it is in the way. -/
theorem Makes.writable_iff {location : Location} {before after : FileNode}
    (makes : Makes location.dropLast before after) (free : before.Passable location.dropLast) :
    after.Writable location ↔ before.stands location ≠ some .directory := by
  have directories (front : Location) (above : front <+: location) (other : front ≠ location) :
      after.stands front = some .directory := by
    have higher := Location.prefix_dropLast above other
    exact makes.stands_directory higher (free.of_prefix higher)
  have same : after.stands location = some .directory ↔
      before.stands location = some .directory := by
    constructor
    · intro stood
      rw [makes] at stood
      split at stood
      next above =>
        -- only the top of the disk is among the directories above itself
        have short := above.length_le
        rw [List.length_dropLast] at short
        obtain rfl : location = [] := List.eq_nil_of_length_eq_zero (by omega)
        rwa [stands_nil, Option.some_or] at stood
      next => exact stood
    · exact makes.directory
  exact ⟨fun writable stood => writable.2 (same.2 stood),
    fun other => ⟨directories, fun stood => other (same.1 stood)⟩⟩

end FileNode

/-! ### Writing on a disk -/

namespace Disk

open FileNode (Made Makes Stores)

/-- Writing makes the directories above a location so far as that is possible, and then the file, or
fails. -/
theorem write_cases (location : Location) (content : String) (disk : Disk) :
    ∃ made between, Made [] disk.root location.dropLast made between ∧
      ((∃ e, (disk.write location content).1 = .error e) ∧
          (disk.write location content).2.root = between ∨
        (disk.write location content).1 = .ok () ∧ made = location.dropLast ∧
          Stores location content between (disk.write location content).2.root) := by
  cases step : disk.root.makeDirectories [] location.dropLast with
  | mk between error? =>
    cases error? with
    | some error =>
      obtain ⟨made, done⟩ :=
        FileNode.made_makeDirectories Location.fits_nil disk.root location.dropLast
      rw [step] at done
      refine ⟨made, between, done, .inl ?_⟩
      rw [write, step]
      exact ⟨⟨error, rfl⟩, rfl⟩
    | none =>
      have success : (disk.root.makeDirectories [] location.dropLast).2 = none := by rw [step]
      have done := FileNode.made_of_none Location.fits_nil success
      rw [step] at done
      refine ⟨location.dropLast, between, done, ?_⟩
      rw [write, step]
      cases written : between.writeFile [] content location with
      | error error => exact .inl ⟨⟨error, by simp only [written]⟩, by simp only [written]⟩
      | ok after =>
        refine .inr ⟨by simp only [written], rfl, ?_⟩
        simp only [written]
        exact FileNode.stores_writeFile written

theorem write_ok_iff (location : Location) (content : String) (disk : Disk) :
    (disk.write location content).1 = .ok () ↔
      location.Fits ∧ disk.root.Passable location.dropLast ∧
        disk.root.stands location ≠ some .directory := by
  have whole := FileNode.makeDirectories_none_iff Location.fits_nil disk.root location.dropLast
  cases step : disk.root.makeDirectories [] location.dropLast with
  | mk between error? =>
    cases error? with
    | some error =>
      rw [write, step]
      refine ⟨nofun, fun ⟨fits, free, _⟩ => ?_⟩
      cases step ▸ whole.2 ⟨fits.of_prefix (List.dropLast_prefix location), free⟩
    | none =>
      have success : (disk.root.makeDirectories [] location.dropLast).2 = none := by rw [step]
      have free := (whole.1 success).2
      have makes := (FileNode.made_of_none Location.fits_nil success).makes
      rw [step] at makes
      have written : (disk.write location content).1 = .ok () ↔
          ∃ after, between.writeFile [] content location = .ok after := by
        rw [write, step]
        cases written : between.writeFile [] content location <;> simp [written]
      rw [written, FileNode.writeFile_ok_iff Location.fits_nil, makes.writable_iff free,
        List.nil_append]
      exact ⟨fun ⟨fits, other⟩ => ⟨fits, free, other⟩, fun ⟨fits, _, other⟩ => ⟨fits, other⟩⟩

/-- Where nothing is written, files stay as they are and none is new. -/
theorem write_file_iff {location place : Location} {content : String} {disk : Disk}
    (apart : place ≠ location ∨ (disk.write location content).1 ≠ .ok ()) (text : String) :
    (disk.write location content).2.root.stands place = some (.file text) ↔
      disk.root.stands place = some (.file text) := by
  obtain ⟨made, between, done, ⟨_, same⟩ | ⟨ok, _, stores⟩⟩ := disk.write_cases location content
  · rw [same, done.makes.file_iff]
  · have other : place ≠ location := apart.resolve_right (absurd ok)
    rw [stores, if_neg other, done.makes.file_iff]

theorem write_of_ok {location : Location} {content : String} {disk : Disk}
    (ok : (disk.write location content).1 = .ok ()) :
    (disk.write location content).2.root.stands location = some (.file content) := by
  obtain ⟨made, between, _, ⟨⟨e, failed⟩, _⟩ | ⟨_, _, stores⟩⟩ := disk.write_cases location content
  · cases ok.symm.trans failed
  · rw [stores, if_pos rfl]

/-- A directory stays a directory. -/
theorem write_directory {location place : Location} (content : String) {disk : Disk}
    (stood : disk.root.stands place = some .directory) :
    (disk.write location content).2.root.stands place = some .directory := by
  obtain ⟨made, between, done, ⟨_, same⟩ | ⟨ok, _, stores⟩⟩ := disk.write_cases location content
  · rw [same]
    exact done.makes.directory stood
  · have other : place ≠ location := by
      rintro rfl
      exact ((disk.write_ok_iff place content).1 ok).2.2 stood
    rw [stores, if_neg other]
    exact done.makes.directory stood

/-- A place that fits and has no file on its way is a directory after a file was to be written below
it, whether that succeeded or not. -/
theorem write_above {location place : Location} {content : String} {disk : Disk}
    (above : place <+: location) (other : place ≠ location) (fits : place.Fits)
    (free : disk.root.Passable place) :
    (disk.write location content).2.root.stands place = some .directory := by
  obtain ⟨made, between, done, written⟩ := disk.write_cases location content
  have reached := done.complete place (Location.prefix_dropLast above other) fits free
  have stood := done.makes.stands_directory reached free
  rcases written with ⟨_, same⟩ | ⟨_, _, stores⟩
  · rw [same, stood]
  · rw [stores, if_neg other, stood]

@[simp]
theorem workingDirectory_write (location : Location) (content : String) (disk : Disk) :
    (disk.write location content).2.workingDirectory = disk.workingDirectory := by
  rw [write]
  split
  · rfl
  · split <;> rfl

end Disk
end Workflow
