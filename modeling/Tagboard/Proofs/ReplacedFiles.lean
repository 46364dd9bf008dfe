import Tagboard.Proofs.FileChanges

/-!
# Writing replaces one file

A write in a storage whose directory is there changes what is under two names at most: that of the file and
its temporary name. If it succeeds, then the file has the new content and nothing is left under the
temporary name. If it fails, then the file is as it was. So after any writes each file is whole: as it was
before, or with a content that was written to it.
-/

namespace Tagboard

namespace Path

/-- A text that can be the name of a file in a directory. -/
structure IsComponent (name : String) : Prop where
  nonempty : name ≠ ""
  noSlash : '/' ∉ name.toList
  noNul : '\x00' ∉ name.toList
  notHere : name ≠ "."
  notAbove : name ≠ ".."

instance (name : String) : Decidable (IsComponent name) :=
  decidable_of_iff (name ≠ "" ∧ '/' ∉ name.toList ∧ '\x00' ∉ name.toList ∧ name ≠ "." ∧ name ≠ "..")
    ⟨fun ⟨nonempty, noSlash, noNul, notHere, notAbove⟩ =>
        ⟨nonempty, noSlash, noNul, notHere, notAbove⟩,
      fun component => ⟨component.nonempty, component.noSlash, component.noNul, component.notHere,
        component.notAbove⟩⟩

theorem IsComponent.isName {name : String} (component : IsComponent name) : IsName name :=
  ⟨component.nonempty, component.noSlash⟩

/-- The characters of a path are those of the directory and of the name, and slashes. -/
theorem mem_toList_join {base name : String} {c : Char} (member : c ∈ (join base name).toList) :
    c ∈ base.toList ∨ c = '/' ∨ c ∈ name.toList := by
  rw [join] at member
  split at member
  · exact .inr (.inr member)
  split at member
  · rw [String.toList_append, List.mem_append] at member
    exact member.imp_right .inr
  · rw [String.toList_append, String.toList_append, List.mem_append, List.mem_append] at member
    rcases member with (inBase | slash) | inName
    · exact .inl inBase
    · exact .inr (.inl (List.mem_singleton.mp slash))
    · exact .inr (.inr inName)

end Path

namespace FileTree

variable {t : FileTree} {base name : String} {here : Place}

/-- A walk does not need the empty names of its path. -/
theorem foldlM_filter_of_walk {names : List String} {next : Place}
    (walk : names.foldlM t.enter here = .ok next) :
    (names.filter (!·.isEmpty)).foldlM t.enter here = .ok next := by
  induction names generalizing here with
  | nil => exact walk
  | cons name names ih =>
      obtain ⟨below, entered, walk⟩ := bind_eq_ok_iff.mp walk
      rw [List.filter_cons]
      split
      · rw [List.foldlM_cons, entered]
        exact ih walk
      · next empty =>
        rw [Bool.not_eq_true, Bool.not_eq_false', String.isEmpty_iff] at empty
        subst empty
        obtain ⟨-, stays⟩ := enter_eq_ok_iff.mp entered
        cases stays
        exact ih walk

theorem checkPath_eq_ok_iff {path : String} : checkPath path = .ok () ↔ '\x00' ∉ path.toList := by
  simp [checkPath]

/-- From a directory that is there, a name of a file leads to its place, unless it is too long. -/
theorem enter_component (there : t.get? here = some .directory) (component : Path.IsComponent name) :
    t.enter here name =
      if maxName < name.utf8ByteSize then .error .nameTooLong else .ok (here ++ [name]) := by
  rw [enter, there]
  simp [component.nonempty, component.notHere, component.notAbove]

/-- The place of a file in a directory is neither the working directory nor the root. -/
theorem append_ne_root (here : Place) (component : Path.IsComponent name) :
    ¬(here ++ [name] = [] ∨ here ++ [name] = root) := by
  rintro (empty | top)
  · exact absurd empty (by simp)
  · have last := congrArg List.getLast? top
    rw [List.getLast?_concat, root, List.getLast?_singleton, Option.some.injEq] at last
    exact component.noSlash (by rw [last]; decide)

/-- The place of a file in a directory that is there. -/
theorem locate_join (located : t.locate base = .ok here) (there : t.get? here = some .directory)
    (component : Path.IsComponent name) :
    t.locate (Path.join base name) =
      if maxName < name.utf8ByteSize then .error .nameTooLong else .ok (here ++ [name]) := by
  obtain ⟨⟨⟩, readable, walk⟩ := bind_eq_ok_iff.mp located
  have free : checkPath (Path.join base name) = .ok () := by
    rw [checkPath_eq_ok_iff] at readable ⊢
    intro member
    rcases Path.mem_toList_join member with inBase | slash | inName
    · exact readable inBase
    · cases slash
    · exact component.noNul inName
  rw [locate, free, ok_bind, Path.names_join component.isName, start_join component.isName,
    List.foldlM_append, foldlM_filter_of_walk walk, ok_bind, List.foldlM_cons,
    enter_component there component]
  split <;> rfl

end FileTree

namespace Storage

open FileTree

variable {s : Storage} {t t' : FileTree} {here : Place} {name : String} {content : ByteArray}

theorem length_lt_length_temporaryName (s : Storage) (name : String) :
    name.length + 5 < (s.temporaryName name).length := by
  have dots : ".".length = 1 ∧ ".tmp".length = 4 := by decide
  simp only [temporaryName, String.length_append, dots]
  omega

theorem temporaryName_ne (s : Storage) (name : String) : s.temporaryName name ≠ name := by
  intro same
  have longer := length_lt_length_temporaryName s name
  rw [same] at longer
  omega

/-- A storage whose directory is there, at a place, and whose process can stand in the name of a file. -/
structure IsReady (s : Storage) (t : FileTree) (here : Place) : Prop where
  located : t.locate s.base = .ok here
  there : t.get? here = some .directory
  process : ∀ c ∈ s.process.toList, c ≠ '/' ∧ c ≠ '\x00'

/-- Files do not matter for where the directory of a storage is. -/
theorem IsReady.of_sameDirectories (ready : s.IsReady t here) (same : t.SameDirectories t') :
    s.IsReady t' here :=
  ⟨same.locate_eq_ok_iff.mp ready.located, (same here).mp ready.there, ready.process⟩

section Ready

variable (ready : s.IsReady t here) (component : Path.IsComponent name)

include ready component

/-- The temporary name of a file is the name of a file. -/
theorem isComponent_temporaryName : Path.IsComponent (s.temporaryName name) := by
  have longer := length_lt_length_temporaryName s name
  have apart {c : Char} (symbol : c = '/' ∨ c = '\x00') : c ∉ (s.temporaryName name).toList := by
    have noDot : c ∉ ".".toList ∧ c ∉ ".tmp".toList := by
      rcases symbol with rfl | rfl <;> decide
    have notInName : c ∉ name.toList := by
      rcases symbol with rfl | rfl
      · exact component.noSlash
      · exact component.noNul
    have notInProcess : c ∉ s.process.toList := fun member =>
      symbol.elim (ready.process c member).1 (ready.process c member).2
    simp only [temporaryName, String.toList_append, List.mem_append, noDot, notInName, notInProcess,
      or_self, not_false_iff]
  refine ⟨?_, apart (.inl rfl), apart (.inr rfl), ?_, ?_⟩ <;> intro same <;> rw [same] at longer
  · exact absurd longer (by simp)
  · have one : ".".length = 1 := by decide
    omega
  · have two : "..".length = 2 := by decide
    omega

/-- The path of a file leads to its name in the directory, unless the name is too long. -/
theorem locate_path_eq_ok_iff {place : Place} :
    t.locate (s.path name) = .ok place ↔ name.utf8ByteSize ≤ maxName ∧ place = here ++ [name] := by
  rw [path, locate_join ready.located ready.there component]
  split
  · next long => simp [Nat.not_le.mpr long]
  · next short => simp [Nat.not_lt.mp short, eq_comm]

/-- A write succeeds where the temporary name is not too long and no directory has one of the two names. -/
theorem run_write_eq_ok_iff_of_isReady :
    t.run (s.write name content) = (.ok (), t') ↔
      (s.temporaryName name).utf8ByteSize ≤ maxName ∧ t.get? (here ++ [name]) ≠ some .directory ∧
        t.get? (here ++ [s.temporaryName name]) ≠ some .directory ∧
          t' = (t.erase (here ++ [s.temporaryName name])).put (here ++ [name]) (.file content) := by
  have temporary := isComponent_temporaryName ready component
  have checked : checkTarget (s.path name) = .ok () :=
    checkTarget_join component.isName ⟨component.notHere, component.notAbove⟩
  have shorter : name.utf8ByteSize ≤ (s.temporaryName name).utf8ByteSize := by
    simp only [temporaryName, String.utf8ByteSize_append]
    omega
  rw [run_write_eq_ok_iff]
  simp only [checked, locate_path_eq_ok_iff ready component, locate_path_eq_ok_iff ready temporary]
  constructor
  · rintro ⟨-, place, newPlace, ⟨short, rfl⟩, noDirectory, ⟨-, rfl⟩, other, rfl⟩
    exact ⟨short, other, noDirectory, rfl⟩
  · rintro ⟨short, other, noDirectory, rfl⟩
    exact ⟨trivial, _, _, ⟨short, rfl⟩, noDirectory, ⟨Nat.le_trans shorter short, rfl⟩, other, rfl⟩

/-- A write that fails leaves everything but what has the temporary name. -/
theorem get?_of_run_write_eq_error {error : FileError}
    (failed : t.run (s.write name content) = (.error error, t')) {place : Place}
    (notTemporary : place ≠ here ++ [s.temporaryName name]) : t'.get? place = t.get? place := by
  rcases of_run_write_eq_error failed with rfl | ⟨temporary, located, -, rfl⟩
  · rfl
  · obtain ⟨-, rfl⟩ := (locate_path_eq_ok_iff ready (isComponent_temporaryName ready component)).mp located
    exact get?_put_of_ne t _ notTemporary

/-- A write that succeeds leaves everything but what has one of the two names. -/
theorem get?_of_run_write (written : t.run (s.write name content) = (.ok (), t')) {place : Place}
    (notFile : place ≠ here ++ [name]) (notTemporary : place ≠ here ++ [s.temporaryName name]) :
    t'.get? place = t.get? place := by
  obtain ⟨-, -, -, rfl⟩ := (run_write_eq_ok_iff_of_isReady ready component).mp written
  rw [get?_put_of_ne _ _ notFile, get?_erase_of_ne _ notTemporary]

/-- Nothing is left under the temporary name. -/
theorem isPresent_temporaryName (written : t.run (s.write name content) = (.ok (), t')) :
    t'.isPresent (s.path (s.temporaryName name)) = false := by
  have temporary := isComponent_temporaryName ready component
  have readyAfter := ready.of_sameDirectories (sameDirectories_of_run_write written)
  obtain ⟨short, -, -, rfl⟩ := (run_write_eq_ok_iff_of_isReady ready component).mp written
  have located := (locate_path_eq_ok_iff readyAfter temporary).mpr ⟨short, rfl⟩
  have apart : here ++ [s.temporaryName name] ≠ here ++ [name] := by
    simpa using temporaryName_ne s name
  rw [isPresent, located]
  dsimp only
  rw [get?_put_of_ne _ _ apart, get?_erase_self t (append_ne_root here temporary)]
  rfl

/--
A write succeeds exactly where the temporary name is not too long and neither the name nor the temporary
name is that of a directory. Then the file has the new content, nothing is left under the temporary name,
and all else is as it was. If the write fails, then all but what has the temporary name is as it was, the
file included.
-/
theorem write_replaces_one_file {result : Except FileError Unit}
    (run : t.run (s.write name content) = (result, t')) :
    (result = .ok () ↔ (s.temporaryName name).utf8ByteSize ≤ maxName ∧
        t.get? (here ++ [name]) ≠ some .directory ∧
        t.get? (here ++ [s.temporaryName name]) ≠ some .directory) ∧
      (result = .ok () → t'.run (s.read name) = (.ok content, t') ∧
        t'.isPresent (s.path (s.temporaryName name)) = false ∧
        ∀ place, place ≠ here ++ [name] → place ≠ here ++ [s.temporaryName name] →
          t'.get? place = t.get? place) ∧
      ∀ error, result = .error error → ∀ place, place ≠ here ++ [s.temporaryName name] →
        t'.get? place = t.get? place := by
  refine ⟨⟨?_, ?_⟩, ?_, ?_⟩
  · rintro rfl
    obtain ⟨short, other, noDirectory, -⟩ := (run_write_eq_ok_iff_of_isReady ready component).mp run
    exact ⟨short, other, noDirectory⟩
  · rintro ⟨short, other, noDirectory⟩
    have success : t.run (s.write name content) = (.ok (), _) :=
      (run_write_eq_ok_iff_of_isReady ready component).mpr ⟨short, other, noDirectory, rfl⟩
    rw [success] at run
    exact (Prod.mk.inj run).1.symm
  · rintro rfl
    have found : t'.run (s.read name) = (t'.read (s.path name), t') := rfl
    rw [read_of_run_write run] at found
    exact ⟨found, isPresent_temporaryName ready component run,
      fun _ notFile notTemporary => get?_of_run_write ready component run notFile notTemporary⟩
  · rintro error rfl place notTemporary
    exact get?_of_run_write_eq_error ready component run notTemporary

end Ready

/-- A stale temporary file goes with the write, and a directory under the temporary name of another file
is in the way of a write. -/
theorem write_replaces_one_file_stale :
    let old := "old".toUTF8
    let new := "new".toUTF8
    let s : Storage := ⟨"w/", "7"⟩
    let t : FileTree := ⟨[(["w"], .directory), (["w", "a"], .file old), (["w", ".a.7.tmp"], .file old),
      (["w", "b"], .file old), (["w", ".b.7.tmp"], .directory)]⟩
    s.IsReady t ["w"] ∧ Path.IsComponent "a" ∧ Path.IsComponent "b" ∧
      (∃ t', t.run (s.write "a" new) = (.ok (), t') ∧ t'.run (s.read "a") = (.ok new, t') ∧
        t'.isPresent (s.path ".a.7.tmp") = false ∧ t'.get? ["w", "b"] = some (.file old)) ∧
      ∃ error t', t.run (s.write "b" new) = (.error error, t') ∧
        t'.get? ["w", "b"] = some (.file old) := by
  intro old new s t
  have digit : ∀ c ∈ s.process.toList, c ≠ '/' ∧ c ≠ '\x00' := by simp [s]
  have ready : s.IsReady t ["w"] := ⟨by decide +kernel, by decide +kernel, digit⟩
  have component : Path.IsComponent "a" := by decide +kernel
  have blocked : Path.IsComponent "b" := by decide +kernel
  have temporary : s.temporaryName "a" = ".a.7.tmp" := by decide +kernel
  have other : t.get? ["w", "b"] = some (.file old) := rfl
  refine ⟨ready, component, blocked, ?_, ?_⟩
  · cases run : t.run (s.write "a" new) with
    | mk result t' =>
    obtain ⟨success, changes, -⟩ := write_replaces_one_file ready component run
    have written : result = .ok () :=
      success.mpr ⟨by decide +kernel, by decide +kernel, by decide +kernel⟩
    obtain ⟨found, removed, same⟩ := changes written
    have unchanged : t'.get? ["w", "b"] = t.get? ["w", "b"] :=
      same ["w", "b"] (by decide +kernel) (by decide +kernel)
    rw [temporary] at removed
    rw [other] at unchanged
    rw [written]
    exact ⟨t', rfl, found, removed, unchanged⟩
  · cases run : t.run (s.write "b" new) with
    | mk result t' =>
    obtain ⟨success, -, unchanged⟩ := write_replaces_one_file ready blocked run
    cases result with
    | ok done => exact absurd (success.mp rfl).2.2 (by decide +kernel)
    | error error =>
        have kept : t'.get? ["w", "b"] = t.get? ["w", "b"] :=
          unchanged error rfl ["w", "b"] (by decide +kernel)
        rw [other] at kept
        exact ⟨error, t', rfl, kept⟩

/-- The files after some writes, whether they succeed or not. -/
def writeAll (s : Storage) (t : FileTree) (writes : List (String × ByteArray)) : FileTree :=
  writes.foldl (fun t (name, content) => (t.run (s.write name content)).2) t

theorem writeAll_cons (s : Storage) (t : FileTree) (write : String × ByteArray)
    (writes : List (String × ByteArray)) :
    s.writeAll t (write :: writes) = s.writeAll (t.run (s.write write.1 write.2)).2 writes := by
  rw [writeAll, List.foldl_cons, writeAll]

/-- A write leaves the directories as they are, whether it succeeds or not. -/
theorem sameDirectories_run_write (s : Storage) (t : FileTree) (name : String) (content : ByteArray) :
    t.SameDirectories (t.run (s.write name content)).2 := by
  cases run : t.run (s.write name content) with
  | mk result t' =>
  cases result with
  | ok done => exact sameDirectories_of_run_write run
  | error error =>
      rcases of_run_write_eq_error run with rfl | ⟨place, -, noDirectory, rfl⟩
      · exact fun _ => Iff.rfl
      · exact sameDirectories_put noDirectory

/-- What does not have the temporary name is as it was or has the content that was written. -/
theorem get?_run_write (ready : s.IsReady t here) (component : Path.IsComponent name) {place : Place}
    (notTemporary : place ≠ here ++ [s.temporaryName name]) :
    (t.run (s.write name content)).2.get? place = t.get? place ∨
      place = here ++ [name] ∧
        (t.run (s.write name content)).2.get? place = some (.file content) := by
  cases run : t.run (s.write name content) with
  | mk result t' =>
  cases result with
  | error error => exact .inl (get?_of_run_write_eq_error ready component run notTemporary)
  | ok done =>
      by_cases file : place = here ++ [name]
      · obtain ⟨-, -, -, rfl⟩ := (run_write_eq_ok_iff_of_isReady ready component).mp run
        rw [file]
        exact .inr ⟨rfl, get?_put_self _ _ (append_ne_root here component)⟩
      · exact .inl (get?_of_run_write ready component run file notTemporary)

/-- After any writes each file is as it was or has one of the contents that were written to it, unless its
name is the temporary name of another file. -/
theorem get?_writeAll {writes : List (String × ByteArray)} (ready : s.IsReady t here)
    (components : ∀ write ∈ writes, Path.IsComponent write.1) {place : Place}
    (notTemporary : ∀ write ∈ writes, place ≠ here ++ [s.temporaryName write.1]) :
    (s.writeAll t writes).get? place = t.get? place ∨
      ∃ write ∈ writes, place = here ++ [write.1] ∧
        (s.writeAll t writes).get? place = some (.file write.2) := by
  induction writes generalizing t with
  | nil => exact .inl rfl
  | cons write writes ih =>
      rw [List.forall_mem_cons] at components notTemporary
      rw [writeAll_cons]
      have readyAfter := ready.of_sameDirectories (sameDirectories_run_write s t write.1 write.2)
      rcases ih readyAfter components.2 notTemporary.2 with unchanged | ⟨later, member, file, found⟩
      · rcases get?_run_write ready components.1 notTemporary.1 with same | ⟨file, found⟩
        · exact .inl (unchanged.trans same)
        · exact .inr ⟨write, List.mem_cons_self .., file, unchanged.trans found⟩
      · exact .inr ⟨later, List.mem_cons_of_mem _ member, file, found⟩

end Storage

end Tagboard
