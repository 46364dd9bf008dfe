import Tagboard.Api.Service
import Tagboard.Board.File
import Tagboard.Command.Input
import Tagboard.Command.Line
import Tagboard.Config.File
import Tagboard.Suggestion.Format

/-!
# Running commands

What each command prints. Every command loads the settings first, and those that look at posts load
the board next; a command that fails prints nothing but its error.
-/

namespace Tagboard

open Text

/-- Why a command fails. -/
inductive CommandError where
  | config (error : ConfigError)
  | board (error : BoardFileError)
  | input (error : InputError)
  | search (error : SearchError)
  | noListener
deriving DecidableEq, Repr

/-- The description of an error. -/
def CommandError.message : CommandError → String
  | config error => error.message
  | board error => error.message
  | input error => error.message
  | search error => error.message
  | noListener => "there is nothing here that listens for requests"

/-- How a run of the program ends. -/
structure Outcome where
  exitCode : Nat
  output : String
  /-- The text for the error stream, if there is any. -/
  error : Option String
deriving DecidableEq, Repr

namespace Command

/-- A document on lines of its own. -/
def document (j : Json) : String := j.pretty ++ "\n"

/-- The text that shows posts, or only their number. -/
def showPosts (posts : List Post) (countOnly : Bool) : String :=
  if countOnly then toString posts.length ++ " posts found\n"
  else document (.ofList Post.encode posts)

/-- The lines that describe a filter. -/
def describe (c : Category) : List String :=
  [c.display] ++
    (if c.aliases.isEmpty then [] else ["  aliases: " ++ ", ".intercalate c.aliases]) ++
    ["  operators: " ++ " ".intercalate (c.relations.map Relation.text),
      "  wildcards: " ++ (if c.allowsWildcards then "yes" else "no"),
      "  " ++ c.description,
      ""]

/-- The text that describes the filters. -/
def filterText : String := String.join ((Category.all.flatMap describe).map (· ++ "\n"))

/-- Gives the error of a step the meaning that it has here. -/
def lift {ε α : Type} (meaning : ε → CommandError) (result : Except ε α) : Except CommandError α :=
  result.mapError meaning

/-- The file of the board that a command looks at, if it looks at one. -/
def boardFile? (base : String) (config : Config) : Command → Option String
  | search _ board _ _ | searchForm _ board _ | suggest _ _ board _ =>
      some (board.getD (config.boardFile base))
  | serve => some (config.boardFile base)
  | parse _ | filters => none

/-- What a command that looks at no board prints. -/
def outputAlone : Command → Except CommandError String
  | parse query => do
      let tokens ← lift .search (Token.ofQuery query)
      return document (.ofList Token.encode tokens)
  | _ => .ok filterText

/-- The posts of a query, without those that carry a tag of a list, if there is one. -/
def foundPosts (service : Service) (query : String) (excluded : Option String) :
    Except CommandError (List Post) := do
  let further ← match excluded with
    | some list => lift .input (Input.tagIds list)
    | none => .ok []
  let search ← lift .search (Search.ofQuery query)
  lift .search ((search.exclude (service.config.hiddenTags ++ further)).posts service.store)

/-- What a command that looks at a board prints. -/
def outputWith (service : Service) : Command → Except CommandError String
  | search query _ excluded countOnly => do
      let posts ← foundPosts service query excluded
      return showPosts posts countOnly
  | searchForm fields _ countOnly => do
      let pairs ← lift .input (Input.formFields fields)
      let posts ← lift .search (service.searchForm pairs)
      return showPosts posts countOnly
  | suggest query word _ withFilters => do
      let found ← lift .search
        (service.suggest query word (service.config.showFilters && withFilters))
      return document (.ofList Suggestion.encode found)
  | _ => .error .noListener

variable {m : Type → Type} [Monad m] [FileSystem m]

/-- What a command prints. -/
def output (base process : String) (c : Command) : ExceptT CommandError m String := do
  let config ← (Config.load base process : ExceptT ConfigError m Config).adapt .config
  match c.boardFile? base config with
  | none => c.outputAlone
  | some path =>
      let board ← (Board.load path : ExceptT BoardFileError m Board).adapt .board
      c.outputWith ⟨board.store, config⟩

/-- The short description of the command line. -/
def usage : String :=
  "Usage: [--base-dir DIR] COMMAND\n\n" ++
  "  parse QUERY\n" ++
  "  search [QUERY] [--board FILE] [--exclude-tags IDS] [--count]\n" ++
  "  search-form [KEY=VALUE]... [--board FILE] [--count]\n" ++
  "  autocomplete [QUERY] [--partial WORD] [--no-filters] [--board FILE]\n" ++
  "  filters\n"

/-- The name and version of the program. -/
def version : String := "tagsearch 0.1.0\n"

/-- The end of a run that names no command. -/
def stopped : CommandStop → Outcome
  | .help => ⟨0, usage, none⟩
  | .version => ⟨0, version, none⟩
  | .usage => ⟨2, "", some usage⟩

/-- Runs the program with some arguments. -/
def execute (process : String) (arguments : List String) : m Outcome := do
  match CommandLine.read arguments with
  | .error stop => return stopped stop
  | .ok line =>
      match ← (line.command.output line.base process).run with
      | .ok output => return ⟨0, output, none⟩
      | .error error => return ⟨1, "", some ("Error: " ++ error.message ++ "\n")⟩

end Command

end Tagboard
