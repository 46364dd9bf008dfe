import Tagboard.Files.Tree
import Tagboard.Proofs.Traverse
import Tagboard.Proofs.TypedText
import Tagboard.Storage

/-!
# What writing a file changes

A path leads to the same place in every tree with the same directories, and writing or moving a file
makes and removes no directory. So a storage that writes a file under a temporary name and renames it
leaves the file with its new content and nothing under the temporary name, and where it cannot write
under the temporary name it changes nothing.
-/

namespace Tagboard

open Text

namespace Path

/-- A text that is one name of a path. -/
def IsName (name : String) : Prop := name ≠ "" ∧ '/' ∉ name.toList

instance (name : String) : Decidable (IsName name) := inferInstanceAs (Decidable (_ ∧ _))

/-- The texts between the slashes of a path. -/
def pieces (path : String) : List String := (split (· == '/') path.toList).map String.ofList

theorem names_eq (path : String) :
    names path = (pieces path).dropLast.filter (!·.isEmpty) ++ (pieces path).getLast?.toList := rfl

/-- The names of a path are its pieces, as far as they are not empty. -/
theorem filter_names (path : String) :
    (names path).filter (!·.isEmpty) = (pieces path).filter (!·.isEmpty) := by
  have parts : pieces path ≠ [] := by simp [pieces, split_ne_nil]
  have whole := List.dropLast_append_getLast parts
  rw [names_eq, List.getLast?_eq_some_getLast parts, List.filter_append, List.filter_filter]
  conv_rhs => rw [← whole, List.filter_append]
  simp

/-- A path is cut at a slash. -/
theorem pieces_of_slash {path after : String} {before : List Char}
    (slash : path.toList = before ++ '/' :: after.toList) :
    pieces path = pieces (String.ofList before) ++ pieces after := by
  rw [pieces, slash, split_append_separator (by decide), List.map_append, pieces, pieces,
    String.toList_ofList]

section Join

variable {base name : String} (isName : IsName name)

include isName

theorem pieces_of_isName : pieces name = [name] := by
  have free : ∀ c ∈ name.toList, (c == '/') = false := fun c member => by
    rw [beq_eq_false_iff_ne]
    rintro rfl
    exact isName.2 member
  rw [pieces, split_eq_singleton free, List.map_singleton, String.ofList_toList]

theorem isAbsolute_of_isName : isAbsolute name = false := by
  rw [isAbsolute, beq_eq_false_iff_ne]
  exact fun start => isName.2 (List.mem_of_head? start)

theorem names_of_slash {path : String} {before : List Char}
    (slash : path.toList = before ++ '/' :: name.toList) :
    names path = (pieces (String.ofList before)).filter (!·.isEmpty) ++ [name] := by
  rw [names_eq, pieces_of_slash slash, pieces_of_isName isName, List.dropLast_concat,
    List.getLast?_concat]
  rfl

/-- The names of a file in a directory are those of the directory and its own. -/
theorem names_join : names (join base name) = (names base).filter (!·.isEmpty) ++ [name] := by
  rw [join, isAbsolute_of_isName isName, Bool.false_or, filter_names]
  split
  · next here =>
    rw [String.isEmpty_iff.mp here, names_eq, pieces_of_isName isName]
    rfl
  split
  · next slashed =>
    -- the slash at the end of the directory leaves an empty piece behind it
    obtain ⟨before, whole⟩ : ∃ before, base.toList = before ++ ['/'] :=
      List.getLast?_eq_some_iff.mp (by simpa using slashed)
    have inside : pieces base = pieces (String.ofList before) ++ pieces "" := pieces_of_slash whole
    have nothing : (pieces "").filter (!·.isEmpty) = [] := by decide
    have slash : (base ++ name).toList = before ++ '/' :: name.toList := by simp [whole]
    rw [names_of_slash isName slash, inside, List.filter_append, nothing, List.append_nil]
  · have slash : (base ++ "/" ++ name).toList = base.toList ++ '/' :: name.toList := by simp
    rw [names_of_slash isName slash, String.ofList_toList]

theorem head?_toList_join (nonempty : base ≠ "") :
    (join base name).toList.head? = base.toList.head? := by
  obtain ⟨c, rest, start⟩ := List.exists_cons_of_ne_nil (by simpa using nonempty : base.toList ≠ [])
  rw [join, isAbsolute_of_isName isName, Bool.false_or, if_neg (by simpa using nonempty)]
  split <;> simp [start]

theorem subset_toList_join : base.toList ⊆ (join base name).toList := by
  rw [join, isAbsolute_of_isName isName, Bool.false_or]
  split
  · next here => simp [String.isEmpty_iff.mp here]
  · split <;> simp

end Join

end Path

namespace FileTree

variable {t t' : FileTree} {base name path : String} {place : Place}

/-- The place to which a name leads from a directory. -/
def follow (here : Place) (name : String) : Except FileError Place :=
  if name == "" || name == "." then .ok here
  else if name == ".." then .ok (parent here)
  else if maxName < name.utf8ByteSize then .error .nameTooLong
  else .ok (here ++ [name])

/-- One name leads on from a directory, whatever else the tree holds. -/
theorem enter_eq_ok_iff {here next : Place} :
    t.enter here name = .ok next ↔ t.get? here = some .directory ∧ follow here name = .ok next := by
  unfold enter
  split <;> simp_all [follow]

section Directory

/-- A path starts where the path of its directory starts. -/
theorem start_join (isName : Path.IsName name) : start (Path.join base name) = start base := by
  by_cases here : base = ""
  · subst here
    have relative : Path.isAbsolute "" = false := rfl
    simp [start, Path.join, Path.isAbsolute_of_isName isName, relative]
  · rw [start, start, Path.isAbsolute, Path.isAbsolute, Path.head?_toList_join isName here]

/-- A file in a directory is located from the place of the directory. -/
theorem exists_enter_of_locate_join (isName : Path.IsName name)
    (located : t.locate (Path.join base name) = .ok place) :
    checkPath base = .ok () ∧ ∃ here,
      ((Path.names base).filter (!·.isEmpty)).foldlM t.enter (start base) = .ok here ∧
        t.enter here name = .ok place := by
  obtain ⟨⟨⟩, readable, walk⟩ := bind_eq_ok_iff.mp located
  rw [Path.names_join isName, List.foldlM_append] at walk
  obtain ⟨here, below, last⟩ := bind_eq_ok_iff.mp walk
  refine ⟨?_, here, ?_, by simpa only [List.foldlM_cons, List.foldlM_nil, bind_pure] using last⟩
  · have free : '\x00' ∉ base.toList := fun member => by
      have inside : (Path.join base name).toList.contains '\x00' = true := by
        simpa using Path.subset_toList_join isName member
      rw [checkPath, if_pos inside] at readable
      exact absurd readable nofun
    simp [checkPath, free]
  · rwa [start_join isName] at below

/-- Directories through which a walk goes do not have to be made. -/
theorem makeBelow_of_walk {names : List String} {here next : Place}
    (walk : names.foldlM t.enter here = .ok next) (there : t.get? next = some .directory) :
    t.makeBelow here names = (.ok (), t) := by
  induction names generalizing here with
  | nil =>
      cases walk
      simp [makeBelow, there]
  | cons name names ih =>
      obtain ⟨below, entered, walk⟩ := bind_eq_ok_iff.mp walk
      have present : t.get? below = some .directory := by
        cases names with
        | nil =>
            cases walk
            exact there
        | cons name names =>
            obtain ⟨further, entered, -⟩ := bind_eq_ok_iff.mp walk
            exact (enter_eq_ok_iff.mp entered).1
      rw [makeBelow, entered]
      simp [present, ih walk]

/-- Where a path leads to a place in a directory, the directory is there and need not be made. -/
theorem makeDirectories_of_locate_join (isName : Path.IsName name)
    (located : t.locate (Path.join base name) = .ok place) :
    t.makeDirectories base = (.ok (), t) := by
  obtain ⟨readable, here, walk, entered⟩ := exists_enter_of_locate_join isName located
  rw [makeDirectories, readable]
  exact makeBelow_of_walk walk (enter_eq_ok_iff.mp entered).1

end Directory

/-- Whether two trees have the same directories. -/
def SameDirectories (t t' : FileTree) : Prop :=
  ∀ place, t.get? place = some .directory ↔ t'.get? place = some .directory

theorem SameDirectories.trans {t'' : FileTree} (first : t.SameDirectories t')
    (second : t'.SameDirectories t'') : t.SameDirectories t'' :=
  fun place => (first place).trans (second place)

theorem SameDirectories.locate_eq_ok_iff (same : t.SameDirectories t') :
    t.locate path = .ok place ↔ t'.locate path = .ok place := by
  have walk (names : List String) (here : Place) :
      names.foldlM t.enter here = .ok place ↔ names.foldlM t'.enter here = .ok place := by
    induction names generalizing here with
    | nil => rfl
    | cons name names ih =>
        simp only [List.foldlM_cons, bind_eq_ok_iff, enter_eq_ok_iff, same here, ih]
  simp only [locate, bind_eq_ok_iff, walk]

variable {content : ByteArray}

theorem ne_root_of_get?_ne_directory (noDirectory : t.get? place ≠ some .directory) :
    ¬(place = [] ∨ place = root) := fun top => noDirectory (by rw [get?, if_pos top])

/-- Putting a file where no directory is keeps the directories. -/
theorem sameDirectories_put (noDirectory : t.get? place ≠ some .directory) :
    t.SameDirectories (t.put place (.file content)) := by
  intro other
  by_cases same : other = place
  · subst same
    simp [get?_put_self t _ (ne_root_of_get?_ne_directory noDirectory), noDirectory]
  · rw [get?_put_of_ne t _ same]

theorem sameDirectories_erase (noDirectory : t.get? place ≠ some .directory) :
    t.SameDirectories (t.erase place) := by
  intro other
  by_cases same : other = place
  · subst same
    simp [get?_erase_self t (ne_root_of_get?_ne_directory noDirectory), noDirectory]
  · rw [get?_erase_of_ne t same]

theorem write_eq_ok_iff :
    t.write path content = .ok t' ↔ ∃ place, t.locate path = .ok place ∧
      t.get? place ≠ some .directory ∧ t' = t.put place (.file content) := by
  rw [write, bind_eq_ok_iff]
  refine exists_congr fun place => and_congr_right fun _ => ?_
  by_cases directory : t.get? place = some .directory
  · simp [directory]
  · simp [directory, eq_comm]

theorem read_eq_ok_iff :
    t.read path = .ok content ↔
      ∃ place, t.locate path = .ok place ∧ t.get? place = some (.file content) := by
  rw [read, bind_eq_ok_iff]
  refine exists_congr fun place => and_congr_right fun _ => ?_
  rcases t.get? place with _ | ⟨content⟩ | _ <;> simp

theorem rename_eq_ok_iff {source target : String} :
    t.rename source target = .ok t' ↔ checkTarget target = .ok () ∧
      ∃ place newPlace content, t.locate source = .ok place ∧ t.locate target = .ok newPlace ∧
        t.get? place = some (.file content) ∧ t.get? newPlace ≠ some .directory ∧
        t' = (t.erase place).put newPlace (.file content) := by
  simp only [rename, bind_eq_ok_iff]
  constructor
  · rintro ⟨place, located, newPlace, newLocated, ⟨⟩, checked, moved⟩
    refine ⟨checked, place, newPlace, ?_⟩
    split at moved
    · cases moved
    · cases moved
    · cases moved
    · next content found other =>
      cases moved
      exact ⟨content, located, newLocated, found, other, rfl⟩
  · rintro ⟨checked, place, newPlace, content, located, newLocated, found, other, rfl⟩
    refine ⟨place, located, newPlace, newLocated, (), checked, ?_⟩
    rw [found]
    rcases here : t.get? newPlace with _ | _ | _
    · rfl
    · rfl
    · exact absurd here other

/-- The last name of a file in a directory does not stand for a directory. -/
theorem checkTarget_join (isName : Path.IsName name) (file : name ≠ "." ∧ name ≠ "..") :
    checkTarget (Path.join base name) = .ok () := by
  rw [checkTarget, Path.names_join isName, List.getLast?_concat]
  split
  · next same => exact absurd (Option.some.inj same) file.1
  · next same => exact absurd (Option.some.inj same) file.2
  · next same => exact absurd (Option.some.inj same) isName.1
  · rfl

/-- What was put at a place does not matter once it is erased. -/
theorem erase_put (entry : Entry) : (t.put place entry).erase place = t.erase place := by
  simp [erase, put, List.filter_filter]

/-- What an action on files gives, and the tree that it leaves. -/
def run {ε α : Type} (t : FileTree) (action : ExceptT ε (StateM FileTree) α) :
    Except ε α × FileTree := action.run.run t

section Run

variable {ε ε' α β : Type}

theorem run_bind (action : ExceptT ε (StateM FileTree) α)
    (next : α → ExceptT ε (StateM FileTree) β) :
    t.run (action >>= next) =
      match t.run action with
      | (.ok value, changed) => changed.run (next value)
      | (.error error, changed) => (.error error, changed) := by
  simp only [run, ExceptT.run_bind, StateT.run_bind]
  rcases action.run.run t with ⟨_ | _, changed⟩ <;> rfl

/-- Two actions in sequence give what the second one gives in the tree of the first one. -/
theorem run_bind_of_ok {action : ExceptT ε (StateM FileTree) α} {value : α}
    (first : t.run action = (.ok value, t')) (next : α → ExceptT ε (StateM FileTree) β) :
    t.run (action >>= next) = t'.run (next value) := by
  rw [run_bind, first]

/-- An action that fails is the last one. -/
theorem run_bind_of_error {action : ExceptT ε (StateM FileTree) α} {error : ε}
    (first : t.run action = (.error error, t')) (next : α → ExceptT ε (StateM FileTree) β) :
    t.run (action >>= next) = (.error error, t') := by
  rw [run_bind, first]

theorem run_adapt (meaning : ε → ε') (action : ExceptT ε (StateM FileTree) α) :
    t.run (action.adapt meaning) = ((t.run action).1.mapError meaning, (t.run action).2) := rfl

theorem run_changing (change : FileTree → Except FileError FileTree) :
    t.run (changing change) =
      match change t with
      | .ok changed => (.ok (), changed)
      | .error error => (.error error, t) := rfl

/-- A change succeeds where it has a result, and leaves the result. -/
theorem run_changing_eq_ok_iff {change : FileTree → Except FileError FileTree} :
    t.run (changing change) = (.ok (), t') ↔ change t = .ok t' := by
  rw [run_changing]
  cases change t <;> simp

/-- A change that fails leaves the tree as it is. -/
theorem run_changing_of_error {change : FileTree → Except FileError FileTree} {error : FileError}
    (failed : change t = .error error) : t.run (changing change) = (.error error, t) := by
  rw [run_changing, failed]

end Run

end FileTree

namespace Storage

open FileTree

variable {s : Storage} {t t' : FileTree} {name : String} {content : ByteArray}

/-- Whether the temporary file of a name can be written: its directory is there, and there is no
directory in its place. -/
def CanWrite (s : Storage) (t : FileTree) (name : String) : Prop :=
  ∃ place, t.locate (s.path (s.temporaryName name)) = .ok place ∧ t.get? place ≠ some .directory

theorem CanWrite.of_sameDirectories (same : t.SameDirectories t') (canWrite : s.CanWrite t name) :
    s.CanWrite t' name := by
  obtain ⟨place, located, noDirectory⟩ := canWrite
  exact ⟨place, same.locate_eq_ok_iff.mp located,
    fun directory => noDirectory ((same place).mpr directory)⟩

/-- A write succeeds where the temporary file and the file can be written. It leaves the file with
the content, and nothing at the place of the temporary file. -/
theorem run_write_eq_ok_iff :
    t.run (s.write name content) = (.ok (), t') ↔ checkTarget (s.path name) = .ok () ∧
      ∃ place newPlace, t.locate (s.path (s.temporaryName name)) = .ok place ∧
        t.get? place ≠ some .directory ∧ t.locate (s.path name) = .ok newPlace ∧
        t.get? newPlace ≠ some .directory ∧ t' = (t.erase place).put newPlace (.file content) := by
  have steps : t.run (s.write name content) =
      t.run (changing (·.write (s.path (s.temporaryName name)) content) >>= fun _ =>
        changing (·.rename (s.path (s.temporaryName name)) (s.path name))) := rfl
  rw [steps]
  cases written : t.write (s.path (s.temporaryName name)) content with
  | error error =>
      rw [run_bind_of_error (run_changing_of_error written)]
      refine ⟨nofun, fun ⟨_, place, _, located, noDirectory, _⟩ => ?_⟩
      rw [write_eq_ok_iff.mpr ⟨place, located, noDirectory, rfl⟩] at written
      cases written
  | ok changed =>
      rw [run_bind_of_ok (run_changing_eq_ok_iff.mpr written), run_changing_eq_ok_iff, rename_eq_ok_iff]
      obtain ⟨place, located, noDirectory, rfl⟩ := write_eq_ok_iff.mp written
      have same : t.SameDirectories (t.put place (.file content)) := sameDirectories_put noDirectory
      have found := get?_put_self t (.file content) (ne_root_of_get?_ne_directory noDirectory)
      refine and_congr_right fun _ => ⟨?_, ?_⟩
      · rintro ⟨place', newPlace, content', located', newLocated, found', other, rfl⟩
        have samePlace := same.locate_eq_ok_iff.mp located
        rw [located', Except.ok.injEq] at samePlace
        subst samePlace
        rw [found', Option.some.injEq, Entry.file.injEq] at found
        subst found
        exact ⟨place', newPlace, located, noDirectory, same.locate_eq_ok_iff.mpr newLocated,
          fun directory => other ((same newPlace).mp directory), by rw [erase_put]⟩
      · rintro ⟨place', newPlace, located', -, newLocated, other, rfl⟩
        rw [located, Except.ok.injEq] at located'
        subst located'
        exact ⟨place, newPlace, content, same.locate_eq_ok_iff.mp located,
          same.locate_eq_ok_iff.mp newLocated, found,
          fun directory => other ((same newPlace).mpr directory), by rw [erase_put]⟩

/-- A write that fails changes nothing, or has come as far as the temporary file. -/
theorem of_run_write_eq_error {error : FileError}
    (failed : t.run (s.write name content) = (.error error, t')) :
    t' = t ∨ ∃ place, t.locate (s.path (s.temporaryName name)) = .ok place ∧
      t.get? place ≠ some .directory ∧ t' = t.put place (.file content) := by
  cases written : t.write (s.path (s.temporaryName name)) content with
  | error fault =>
      have stopped : t.run (s.write name content) = (.error fault, t) :=
        run_bind_of_error (run_changing_of_error written) _
      rw [stopped] at failed
      cases failed
      exact .inl rfl
  | ok changed =>
      obtain ⟨place, located, noDirectory, rfl⟩ := write_eq_ok_iff.mp written
      have steps : t.run (s.write name content) = (t.put place (.file content)).run
          (changing (·.rename (s.path (s.temporaryName name)) (s.path name))) :=
        run_bind_of_ok (run_changing_eq_ok_iff.mpr written) _
      rw [steps, run_changing] at failed
      split at failed
      · cases failed
      · cases failed
        exact .inr ⟨place, located, noDirectory, rfl⟩

/-- A write leaves the directories as they are. -/
theorem sameDirectories_of_run_write (written : t.run (s.write name content) = (.ok (), t')) :
    t.SameDirectories t' := by
  obtain ⟨-, place, newPlace, -, noDirectory, -, other, rfl⟩ := run_write_eq_ok_iff.mp written
  have erased := sameDirectories_erase noDirectory
  exact erased.trans (sameDirectories_put fun directory => other ((erased newPlace).mpr directory))

/-- What was written is what is read. -/
theorem read_of_run_write (written : t.run (s.write name content) = (.ok (), t')) :
    t'.read (s.path name) = .ok content := by
  have same := sameDirectories_of_run_write written
  obtain ⟨-, place, newPlace, -, -, newLocated, other, rfl⟩ := run_write_eq_ok_iff.mp written
  exact read_eq_ok_iff.mpr ⟨newPlace, same.locate_eq_ok_iff.mp newLocated,
    get?_put_self _ _ (ne_root_of_get?_ne_directory other)⟩

section Present

variable {old : ByteArray} (present : t.read (s.path name) = .ok old)

include present

end Present

end Storage

end Tagboard
