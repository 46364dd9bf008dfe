import Tagboard.Files

/-!
# Trees of files

A file system as a value: the files and directories under the working directory and under the root.
Each is known by its place, the names that lead to it. The operations fail as those of a Unix file
system do, and change nothing where they fail, except that the directories above a missing one may
have been made.
-/

namespace Tagboard

/-- The names that lead to a file or directory; the root is a name of its own. -/
abbrev Place := List String

/-- What is at a place. -/
inductive Entry where
  | file (content : ByteArray)
  | directory

instance : DecidableEq Entry
  | .file s, .file t =>
      match ByteArray.decEq s t with
      | isTrue h => isTrue (h ▸ rfl)
      | isFalse h => isFalse fun same => h (Entry.file.inj same)
  | .directory, .directory => isTrue rfl
  | .file _, .directory | .directory, .file _ => isFalse nofun

/-- Files and directories by their places. -/
structure FileTree where
  entries : List (Place × Entry) := []

namespace FileTree

/-- The place of the root. -/
def root : Place := ["/"]

/-- The greatest length of a name in bytes. -/
def maxName : Nat := 255

/-- What is at a place. The working directory and the root are always there. -/
def get? (t : FileTree) (place : Place) : Option Entry :=
  if place = [] ∨ place = root then some .directory else t.entries.lookup place

/-- The tree with nothing at a place. -/
def erase (t : FileTree) (place : Place) : FileTree :=
  ⟨t.entries.filter fun (other, _) => other != place⟩

/-- The tree with an entry at a place. -/
def put (t : FileTree) (place : Place) (entry : Entry) : FileTree :=
  ⟨(place, entry) :: (t.erase place).entries⟩

/-- The names in a directory. -/
def children (t : FileTree) (place : Place) : List String :=
  t.entries.filterMap fun (other, _) =>
    if other.dropLast = place then other.getLast? else none

/-- The place above a place. -/
def parent (place : Place) : Place := if place = root then root else place.dropLast

/-- Goes on from a directory by one name. -/
def enter (t : FileTree) (here : Place) (name : String) : Except FileError Place :=
  match t.get? here with
  | none => .error .notFound
  | some (.file _) => .error .notDirectory
  | some .directory =>
      if name == "" || name == "." then .ok here
      else if name == ".." then .ok (parent here)
      else if maxName < name.utf8ByteSize then .error .nameTooLong
      else .ok (here ++ [name])

/-- Where a path starts. -/
def start (path : String) : Place := if Path.isAbsolute path then root else []

/-- Refuses a path with the character NUL. -/
def checkPath (path : String) : Except FileError Unit :=
  if path.toList.contains '\x00' then .error .invalidName else .ok ()

/-- The place that a path leads to; all but the last of its names must be of directories. -/
def locate (t : FileTree) (path : String) : Except FileError Place := do
  checkPath path
  (Path.names path).foldlM t.enter (start path)

/-- The content of a file. -/
def read (t : FileTree) (path : String) : Except FileError ByteArray := do
  match t.get? (← t.locate path) with
  | none => throw .notFound
  | some .directory => throw .isDirectory
  | some (.file content) => return content

/-- The tree with a content at a path. -/
def write (t : FileTree) (path : String) (content : ByteArray) : Except FileError FileTree := do
  let place ← t.locate path
  match t.get? place with
  | some .directory => throw .isDirectory
  | _ => return t.put place (.file content)

/-- Refuses a last name that stands for a directory. -/
def checkTarget (path : String) : Except FileError Unit :=
  match (Path.names path).getLast? with
  | some "." | some ".." => .error .busy
  | some "" => .error .notDirectory
  | _ => .ok ()

/-- The tree with a file moved to another path. -/
def rename (t : FileTree) (source target : String) : Except FileError FileTree := do
  let place ← t.locate source
  let newPlace ← t.locate target
  checkTarget target
  match t.get? place, t.get? newPlace with
  | none, _ => throw .notFound
  | some .directory, _ | some (.file _), some .directory => throw .isDirectory
  | some (.file content), _ => return (t.erase place).put newPlace (.file content)

/-- Makes the directories with some names, one below the other. -/
def makeBelow (t : FileTree) (here : Place) : List String → Except FileError Unit × FileTree
  | [] => (if t.get? here = some .directory then .ok () else .error .alreadyExists, t)
  | name :: rest =>
      match t.enter here name with
      | .error error => (.error error, t)
      | .ok next =>
          if (t.get? next).isNone then (t.put next .directory).makeBelow next rest
          else t.makeBelow next rest

/-- Makes the directory at a path and those above it. -/
def makeDirectories (t : FileTree) (path : String) : Except FileError Unit × FileTree :=
  match checkPath path with
  | .error error => (.error error, t)
  | .ok () => t.makeBelow (start path) ((Path.names path).filter (!·.isEmpty))

/-- Whether a path leads to something. -/
def isPresent (t : FileTree) (path : String) : Bool :=
  match t.locate path with
  | .ok place => (t.get? place).isSome
  | .error _ => false

/-- Changes the tree, unless the change fails. -/
def changing (change : FileTree → Except FileError FileTree) :
    ExceptT FileError (StateM FileTree) Unit := fun t =>
  match change t with
  | .ok changed => (.ok (), changed)
  | .error error => (.error error, t)

instance : FileSystem (StateM FileTree) where
  read path := fun t => (t.read path, t)
  write path content := changing (·.write path content)
  rename source target := changing (·.rename source target)
  makeDirectories path := fun t => t.makeDirectories path
  isPresent path := fun t => (t.isPresent path, t)

@[simp] theorem get?_put_self (t : FileTree) {place : Place} (entry : Entry)
    (h : ¬(place = [] ∨ place = root)) : (t.put place entry).get? place = some entry := by
  simp [get?, put, h]

theorem lookup_filter_ne {other place : Place} (h : other ≠ place) (entries : List (Place × Entry)) :
    (entries.filter fun (key, _) => key != place).lookup other = entries.lookup other := by
  induction entries with
  | nil => rfl
  | cons first rest ih =>
      obtain ⟨key, entry⟩ := first
      by_cases hk : key = place
      · subst hk
        have : (other == key) = false := by simpa using h
        simp [List.lookup_cons, this, ih]
      · by_cases ho : other = key
        · subst ho
          simp [hk]
        · have : (other == key) = false := by simpa using ho
          simp [hk, List.lookup_cons, this, ih]

/-- Putting an entry at a place leaves every other place as it is. -/
theorem get?_put_of_ne (t : FileTree) {other place : Place} (entry : Entry) (h : other ≠ place) :
    (t.put place entry).get? other = t.get? other := by
  have : (other == place) = false := by simpa using h
  simp [get?, put, erase, List.lookup_cons, this, lookup_filter_ne h]

/-- Erasing a place leaves every other place as it is. -/
theorem get?_erase_of_ne (t : FileTree) {other place : Place} (h : other ≠ place) :
    (t.erase place).get? other = t.get? other := by
  simp [get?, erase, lookup_filter_ne h]

/-- Nothing is at an erased place. -/
theorem get?_erase_self (t : FileTree) {place : Place} (h : ¬(place = [] ∨ place = root)) :
    (t.erase place).get? place = none := by
  have hn : ∀ entries : List (Place × Entry),
      (entries.filter fun (key, _) => key != place).lookup place = none := by
    intro entries
    induction entries with
    | nil => rfl
    | cons first rest ih =>
        obtain ⟨key, entry⟩ := first
        by_cases hk : key = place
        · simp [hk, ih]
        · have : (place == key) = false := by simpa using Ne.symm hk
          simp [hk, List.lookup_cons, this, ih]
  simp [get?, erase, h, hn]

end FileTree

end Tagboard
