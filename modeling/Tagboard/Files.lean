import Tagboard.Text.Split

/-!
# Files

What this program asks of a file system: to read and to write a whole file, to rename a file, to
make directories and to tell whether something is there. Paths are texts with slashes between their
names; one that starts with a slash does not depend on where it is used.
-/

namespace Tagboard

open Text

/-- Why a file operation failed. -/
inductive FileError where
  | notFound
  | alreadyExists
  | isDirectory
  | notDirectory
  | nameTooLong
  | invalidName
  | busy
  | other (reason : String)
deriving DecidableEq, Repr

/-- The description of a failure. -/
def FileError.message : FileError → String
  | notFound => "No such file or directory (os error 2)"
  | alreadyExists => "File exists (os error 17)"
  | isDirectory => "Is a directory (os error 21)"
  | notDirectory => "Not a directory (os error 20)"
  | nameTooLong => "File name too long (os error 36)"
  | invalidName => "file name contained an unexpected NUL byte"
  | busy => "Device or resource busy (os error 16)"
  | other reason => reason

/-- The file operations of a monad. -/
class FileSystem (m : Type → Type) where
  /-- The content of a file. -/
  read : String → ExceptT FileError m ByteArray
  /-- Makes a file have a content; its directory must exist. -/
  write : String → ByteArray → ExceptT FileError m Unit
  /-- Gives a file another path, in place of a file that has it already. -/
  rename : String → String → ExceptT FileError m Unit
  /-- Makes a directory and those above it, as far as they are missing. -/
  makeDirectories : String → ExceptT FileError m Unit
  /-- Whether a path leads to a file or a directory. -/
  isPresent : String → m Bool

namespace Path

/-- Whether a path starts with a slash. -/
def isAbsolute (path : String) : Bool := path.toList.head? == some '/'

/-- A path seen from a directory. -/
def join (directory path : String) : String :=
  if isAbsolute path || directory.isEmpty then path
  else if directory.toList.getLast? == some '/' then directory ++ path
  else directory ++ "/" ++ path

/-- The names of a path in order. A slash at the end counts as an empty name. -/
def names (path : String) : List String :=
  let pieces := (split (· == '/') path.toList).map String.ofList
  pieces.dropLast.filter (!·.isEmpty) ++ pieces.getLast?.toList

example : names "w//a/b/" = ["w", "a", "b", ""] := by decide +kernel

example : join "w" "board.json" = "w/board.json" := by decide +kernel

example : join "w" "/board.json" = "/board.json" := by decide +kernel

end Path

end Tagboard
