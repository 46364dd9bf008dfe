import Tagboard.Files

/-!
# Storage

Named files in one directory. A file is first written under a temporary name and then renamed, so
whoever reads it sees the old content or the new one and never part of either.
-/

namespace Tagboard

/-- A directory of named files. -/
structure Storage where
  /-- The path of the directory. -/
  base : String
  /-- Tells the temporary files of one process from those of another. -/
  process : String
deriving DecidableEq, Repr

namespace Storage

variable {m : Type → Type} [Monad m] [FileSystem m]

/-- The storage in a directory, which is made if it is missing. -/
def create (base process : String) : ExceptT FileError m Storage := do
  FileSystem.makeDirectories base
  return ⟨base, process⟩

/-- The path of the file of a name. -/
def path (s : Storage) (name : String) : String := Path.join s.base name

/-- The name under which a file is written at first. -/
def temporaryName (s : Storage) (name : String) : String :=
  "." ++ name ++ "." ++ s.process ++ ".tmp"

/-- Whether there is a file or directory of a name. -/
def contains (s : Storage) (name : String) : m Bool := FileSystem.isPresent (s.path name)

/-- The content of the file of a name. -/
def read (s : Storage) (name : String) : ExceptT FileError m ByteArray :=
  FileSystem.read (s.path name)

/-- Replaces the content of the file of a name. -/
def write (s : Storage) (name : String) (content : ByteArray) : ExceptT FileError m Unit := do
  let temporary := s.path (s.temporaryName name)
  FileSystem.write temporary content
  FileSystem.rename temporary (s.path name)

end Storage

end Tagboard
