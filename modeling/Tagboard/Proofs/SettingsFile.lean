import Tagboard.Proofs.FileChanges
import Tagboard.Proofs.NormalSettings

/-!
# Loading and saving settings

Loading reads the file of settings, which it writes first where there is none, and writes it again
where its text is not the text of the settings that it gives. What is loaded is in normal form and the
file holds its text, so loading again finds nothing to change. A load that fails where there is a file
has either not come to the point of writing or could not write, and leaves everything as it was.
-/

namespace Tagboard

namespace Config

open FileTree

/-- The path of the file of settings in a directory. -/
def path (base : String) : String := Path.join base fileName

/-- What loading does once there is a file. -/
def loadFile (base process : String) : ExceptT ConfigError (StateM FileTree) Config := do
  let content ← explain .unavailable (Storage.read ⟨base, process⟩ fileName)
  let (text, config) ← ofContent content
  if text != config.render then save base process config
  return config

variable {t t' : FileTree} {base process : String} {c given : Config} {e : ConfigError}
  {content : ByteArray} {text : String}

theorem run_create (t : FileTree) (base process : String) :
    t.run (Storage.create base process) =
      ((t.makeDirectories base).1.map fun _ => ⟨base, process⟩, (t.makeDirectories base).2) := by
  have made : t.run (FileSystem.makeDirectories base : ExceptT FileError (StateM FileTree) Unit) =
      t.makeDirectories base := rfl
  rw [Storage.create, run_bind, made]
  rcases t.makeDirectories base with ⟨_ | _, changed⟩ <;> rfl

theorem run_explain_create {meaning : FileError → ConfigError} {result : Except FileError Unit}
    (made : t.makeDirectories base = (result, t')) :
    t.run (explain meaning (Storage.create base process)) =
      ((result.map fun _ => ⟨base, process⟩).mapError meaning, t') := by
  rw [explain, run_adapt, run_create, made]

theorem run_explain_read {meaning : FileError → ConfigError} {result : Except FileError ByteArray}
    (found : t.read (path base) = result) :
    t.run (explain meaning (Storage.read ⟨base, process⟩ fileName)) = (result.mapError meaning, t) :=
  congrArg (fun result => (result.mapError meaning, t)) found

/-- What is written to the file of settings is what is in it. -/
theorem read_of_run_write
    (written : t.run (Storage.write ⟨base, process⟩ fileName content) = (.ok (), t')) :
    t'.read (path base) = .ok content := by
  change t'.read (Storage.path ⟨base, process⟩ fileName) = .ok content
  exact Storage.read_of_run_write written

/-- Loading makes the directory, and then the file where it is missing. -/
theorem run_load (made : t.makeDirectories base = (.ok (), t')) :
    t.run (load base process) =
      if t'.isPresent (path base) then t'.run (loadFile base process)
      else t'.run (explain (fun _ => .defaultNotWritten) (writeTo ⟨base, process⟩ {}) >>= fun _ =>
        loadFile base process) := by
  have there : t'.run (liftM (Storage.contains ⟨base, process⟩ fileName : StateM FileTree Bool) :
      ExceptT ConfigError (StateM FileTree) Bool) = (.ok (t'.isPresent (path base)), t') := rfl
  rw [load, run_bind_of_ok (run_explain_create made), run_bind_of_ok there]
  cases t'.isPresent (path base) <;> rfl

section Present

variable (present : t.read (path base) = .ok content)

include present

theorem isPresent_of_read : t.isPresent (path base) = true := by
  obtain ⟨place, located, found⟩ := read_eq_ok_iff.mp present
  simp [isPresent, located, found]

/-- Where the file is there, the directory does not have to be made. -/
theorem makeDirectories_of_read : t.makeDirectories base = (.ok (), t) := by
  obtain ⟨place, located, -⟩ := read_eq_ok_iff.mp present
  exact makeDirectories_of_locate_join (by decide) located

theorem run_load_of_read : t.run (load base process) = t.run (loadFile base process) := by
  rw [run_load (makeDirectories_of_read present), isPresent_of_read present, if_pos rfl]

/-- Settings are written again if their text is another one. -/
theorem run_loadFile_of_ok (accepted : ofContent content = .ok (text, c)) :
    t.run (loadFile base process) =
      if text = c.render then (.ok c, t)
      else t.run (save base process c >>= fun _ => pure c) := by
  have read : t.run (liftM (ofContent content) :
      ExceptT ConfigError (StateM FileTree) (String × Config)) = (.ok (text, c), t) :=
    congrArg (fun result => (result, t)) accepted
  rw [loadFile, run_bind_of_ok (run_explain_read present), run_bind_of_ok read]
  by_cases same : text = c.render
  · simp only [same, bne_self_eq_false, Bool.false_eq_true, if_true, if_false]
    rfl
  · simp only [same, bne_iff_ne, ne_eq, not_false_iff, if_true, if_false]

end Present

end Config

end Tagboard
