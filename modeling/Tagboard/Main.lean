import Tagboard.Command.Run

/-!
# The program

The file operations of the machine, and the entry of the program: it runs the command of its
arguments and prints what the command prints.
-/

namespace Tagboard

/-- The meaning of a failed file operation of the machine. -/
def FileError.ofIO : IO.Error → FileError
  | .noFileOrDirectory .. => .notFound
  | .alreadyExists .. => .alreadyExists
  | .inappropriateType .. => .isDirectory
  | .resourceBusy .. => .busy
  | error => .other (toString error)

/-- A file operation of the machine. -/
def fileAction {α : Type} (action : IO α) : ExceptT FileError IO α :=
  ExceptT.mk do
    match ← action.toBaseIO with
    | .ok value => return .ok value
    | .error error => return .error (.ofIO error)

instance : FileSystem IO where
  read path := fileAction (IO.FS.readBinFile path)
  write path content := fileAction (IO.FS.writeBinFile path content)
  rename source target := fileAction (IO.FS.rename source target)
  makeDirectories path := fileAction (IO.FS.createDirAll path)
  isPresent path := do
    match ← (IO.FS.Handle.mk path .read).toBaseIO with
    | .ok _ => return true
    | .error _ => return false

end Tagboard

/-- Runs the program. -/
def main (arguments : List String) : IO UInt32 := do
  let process := toString (← IO.monoNanosNow)
  let outcome ← Tagboard.Command.execute process arguments
  IO.print outcome.output
  if let some error := outcome.error then IO.eprint error
  return UInt32.ofNat outcome.exitCode
