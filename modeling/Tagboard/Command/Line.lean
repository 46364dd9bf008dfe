import Tagboard.Text.Split

/-!
# The command line

The arguments of the program: options, then the name of a command, then the options and arguments of
that command. Options start with two hyphens and may stand anywhere among the arguments; the value
of an option follows it or stands behind an equals sign. Whatever follows two hyphens alone is an
argument.
-/

namespace Tagboard

open Text

/-- What the program is asked to do. -/
inductive Command where
  /-- Show the tokens of a query. -/
  | parse (query : String)
  | search (query : String) (board excluded : Option String) (countOnly : Bool)
  | searchForm (fields : List String) (board : Option String) (countOnly : Bool)
  | suggest (query : String) (word board : Option String) (withFilters : Bool)
  | filters
  /-- Wait for requests. -/
  | serve
deriving DecidableEq, Repr

/-- A command line. -/
structure CommandLine where
  /-- The directory of the settings. -/
  base : String
  command : Command
deriving DecidableEq, Repr

/-- Why a command line names no command. -/
inductive CommandStop where
  | help
  | version
  | usage
deriving DecidableEq, Repr

namespace CommandLine

/-- One part of a command line. -/
inductive Part where
  /-- An option with two hyphens, and its value if it has one. -/
  | option (name : String) (value : Option String)
  /-- An option of one letter. -/
  | letter (c : Char)
  | word (text : String)
  /-- An argument behind two hyphens alone. -/
  | argument (text : String)
deriving DecidableEq, Repr

/-- The options that have a value. -/
def valueOptions : List String := ["base-dir", "board", "exclude-tags", "partial"]

/-- The options whose value is a path, which must not be empty. -/
def pathOptions : List String := ["base-dir", "board"]

/-- Whether a text is an option and cannot be the value of one. -/
def looksLikeOption (text : String) : Bool :=
  match text.toList with
  | '-' :: _ :: _ => true
  | _ => false

/-- The part that a text is on its own. -/
def partOf (text : String) : Part :=
  match text.toList with
  | '-' :: '-' :: rest =>
      match cut? (· == '=') rest with
      | some (name, value) => .option (String.ofList name) (some (String.ofList value))
      | none => .option (String.ofList rest) none
  | '-' :: c :: _ => .letter c
  | _ => .word text

/-- Gives an option that has a value the text behind it. -/
def withValue (value : String) : Part → Option Part
  | .option name none =>
      if valueOptions.contains name && !looksLikeOption value then some (.option name (some value))
      else none
  | _ => none

/-- The parts of a command line. -/
def parts : List String → List Part
  | [] => []
  | [text] => if text == "--" then [] else [partOf text]
  | text :: next :: rest =>
      if text == "--" then (next :: rest).map .argument
      else
        match withValue next (partOf text) with
        | some part => part :: parts rest
        | none => partOf text :: parts (next :: rest)

/-- What a command accepts. -/
structure Grammar where
  values : List String
  flags : List String
  /-- The greatest number of arguments, if there is one. -/
  arguments : Option Nat
  hasVersion : Bool := false

/-- The options and arguments of a command. -/
structure Given where
  values : List (String × String) := []
  flags : List String := []
  arguments : List String := []

/-- Adds a value, unless the option is unknown or stands twice or its path is empty. -/
def Given.addValue (g : Grammar) (given : Given) (name value : String) : Except CommandStop Given :=
  if !g.values.contains name || given.values.any (·.1 == name) ||
      (pathOptions.contains name && value.isEmpty) then .error .usage
  else .ok { given with values := (name, value) :: given.values }

/-- Adds an option without value, unless it is unknown or stands twice. -/
def Given.addFlag (g : Grammar) (given : Given) (name : String) : Except CommandStop Given :=
  if name == "help" then .error .help
  else if name == "version" && g.hasVersion then .error .version
  else if !g.flags.contains name || given.flags.contains name then .error .usage
  else .ok { given with flags := name :: given.flags }

/-- Adds an argument, unless there are enough. -/
def Given.addArgument (g : Grammar) (given : Given) (text : String) : Except CommandStop Given :=
  if g.arguments.any (· ≤ given.arguments.length) then .error .usage
  else .ok { given with arguments := given.arguments ++ [text] }

/-- Adds one part. -/
def Given.add (g : Grammar) (given : Given) : Part → Except CommandStop Given
  | .option name (some value) => given.addValue g name value
  | .option name none => given.addFlag g name
  | .letter c =>
      if c == 'h' then .error .help
      else if c == 'V' && g.hasVersion then .error .version
      else .error .usage
  | .word text | .argument text => given.addArgument g text

/-- Reads parts. -/
def Given.read (g : Grammar) (parts : List Part) : Except CommandStop Given :=
  parts.foldlM (Given.add g) {}

/-- The value of an option. -/
def Given.value? (given : Given) (name : String) : Option String := given.values.lookup name

/-- The grammar of the options before the name of a command. -/
def topGrammar : Grammar := ⟨["base-dir"], [], some 0, true⟩

/-- The grammar of each command. -/
def grammar? : String → Option Grammar
  | "parse" => some { values := ["base-dir"], flags := [], arguments := some 1 }
  | "search" =>
      some { values := ["base-dir", "board", "exclude-tags"], flags := ["count"], arguments := some 1 }
  | "search-form" =>
      some { values := ["base-dir", "board"], flags := ["count"], arguments := none }
  | "autocomplete" =>
      some { values := ["base-dir", "board", "partial"], flags := ["no-filters"],
             arguments := some 1 }
  | "filters" | "daemon" => some { values := ["base-dir"], flags := [], arguments := some 0 }
  | _ => none

/-- The command of a name and what is given with it. -/
def commandOf (name : String) (given : Given) : Except CommandStop Command :=
  let query := given.arguments.head?.getD ""
  let board := given.value? "board"
  let countOnly := given.flags.contains "count"
  match name with
  | "parse" => if given.arguments.isEmpty then .error .usage else .ok (.parse query)
  | "search" => .ok (.search query board (given.value? "exclude-tags") countOnly)
  | "search-form" => .ok (.searchForm given.arguments board countOnly)
  | "autocomplete" =>
      .ok (.suggest query (given.value? "partial") board (!given.flags.contains "no-filters"))
  | "filters" => .ok .filters
  | _ => .ok .serve

/-- Whether a part is the name of a command. -/
def isWord : Part → Bool
  | .word _ => true
  | _ => false

/-- Whether the parts behind the command `help` name at most one command. -/
def asksForHelp : List Part → Bool
  | [] => true
  | [.word name] => name == "help" || (grammar? name).isSome
  | _ => false

/-- Reads a command line. -/
def read (arguments : List String) : Except CommandStop CommandLine := do
  let all := parts arguments
  let top ← Given.read topGrammar (all.takeWhile (!isWord ·))
  match all.dropWhile (!isWord ·) with
  | .word "help" :: rest => throw (if asksForHelp rest then .help else .usage)
  | .word name :: rest =>
      match grammar? name with
      | none => throw .usage
      | some grammar =>
          let given ← Given.read grammar rest
          let command ← commandOf name given
          let base? := given.value? "base-dir" <|> top.value? "base-dir"
          return ⟨base?.getD ".", command⟩
  | _ => throw .usage

end CommandLine

end Tagboard
