import Tagboard.Board.Format
import Tagboard.Files
import Tagboard.Json.Parser

/-!
# The file of a board

A board is kept in a file as JSON. It is loaded if the file can be read, its text is the document of
a board, and the board is accepted.
-/

namespace Tagboard

/-- Why a board was not loaded. -/
inductive BoardFileError where
  | unreadable (path : String)
  | malformed (path : String)
  | refused (fault : BoardError)
deriving DecidableEq, Repr

/-- The description of an error. -/
def BoardFileError.message : BoardFileError → String
  | unreadable path => "failed to read board " ++ path
  | malformed path => "board " ++ path ++ " is malformed"
  | refused fault => fault.message

namespace Board

/-- The accepted board of the content of a file. -/
def ofContent (path : String) (content : ByteArray) : Except BoardFileError Board :=
  match String.fromUTF8? content with
  | none => .error (.unreadable path)
  | some text =>
      match Board.decode (Json.read text) with
      | .error _ => .error (.malformed path)
      | .ok board => board.accept.mapError .refused

variable {m : Type → Type} [Monad m] [FileSystem m]

/-- Loads the board of a file. -/
def load (path : String) : ExceptT BoardFileError m Board := do
  let content ← (FileSystem.read path : ExceptT FileError m ByteArray).adapt
    fun _ => .unreadable path
  ofContent path content

end Board

end Tagboard
