import Tagboard.Config.Format
import Tagboard.Storage

/-!
# The file of settings

Settings are kept in a file of a directory. Loading them makes the directory and the file where they
are missing, and writes the file anew where its text is not the one in which the loaded settings are
written. Settings that are not accepted leave the file as it is.
-/

namespace Tagboard

/-- Why settings were not loaded or saved. -/
inductive ConfigError where
  | directory (base : String)
  | defaultNotWritten
  | unavailable (error : FileError)
  | notText
  | malformed
  | refused (fault : ConfigFault)
  | notSaved
deriving DecidableEq, Repr

/-- The description of an error. -/
def ConfigError.message : ConfigError → String
  | directory base => "failed to create " ++ base
  | defaultNotWritten => "failed to write default config"
  | unavailable error => error.message
  | notText => "config file is not valid utf8"
  | malformed => "config is malformed"
  | refused fault => fault.message
  | notSaved => "failed to save config"

namespace Config

/-- The name of the file of settings. -/
def fileName : String := "config.yaml"

/-- The settings of the content of a file. -/
def ofContent (content : ByteArray) : Except ConfigError (String × Config) :=
  match String.fromUTF8? content with
  | none => .error .notText
  | some text =>
      match parse? text with
      | none => .error .malformed
      | some config =>
          match config.accept with
          | .error fault => .error (.refused fault)
          | .ok accepted => .ok (text, accepted)

variable {m : Type → Type} [Monad m] [FileSystem m]

/-- Gives the failures of file operations the meaning that they have here. -/
def explain {α : Type} (meaning : FileError → ConfigError) (action : ExceptT FileError m α) :
    ExceptT ConfigError m α := action.adapt meaning

/-- Writes settings to the file of a storage. -/
def writeTo (storage : Storage) (c : Config) : ExceptT FileError m Unit :=
  storage.write fileName c.render.toUTF8

/-- Writes settings to the file in a directory. -/
def save (base process : String) (c : Config) : ExceptT ConfigError m Unit := do
  let storage ← explain .unavailable (Storage.create base process)
  explain (fun _ => .notSaved) (c.writeTo storage)

/-- Loads the settings of the file in a directory. -/
def load (base process : String) : ExceptT ConfigError m Config := do
  let storage ← explain (fun _ => .directory base) (Storage.create base process)
  if !(← (storage.contains fileName : m Bool)) then
    explain (fun _ => .defaultNotWritten) (writeTo storage {})
  let content ← explain .unavailable (storage.read fileName)
  let (text, config) ← ofContent content
  if text != config.render then save base process config
  return config

/-- The path of the board. -/
def boardFile (base : String) (c : Config) : String := Path.join base c.boardPath

end Config

end Tagboard
