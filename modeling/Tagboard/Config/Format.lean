import Tagboard.Config
import Tagboard.Yaml.Writer

/-!
# Settings as YAML

The form in which settings are kept in a file: one entry for each setting, in a fixed order. An
entry may be missing and then has its default; entries of other keys are passed over.
-/

namespace Tagboard.Config

open Yaml

/-- The text of settings. -/
def render (c : Config) : String :=
  "board_path: " ++ writeText c.boardPath ++
    "\nlisten_addr: " ++ writeText c.listenAddress ++
    "\nmax_tag_suggestions: " ++ toString c.maxTagSuggestions ++
    "\nmax_alias_suggestions: " ++ toString c.maxAliasSuggestions ++
    "\nshow_filters: " ++ (if c.showFilters then "true" else "false") ++
    "\nfilter_tags:" ++ writeNumbers c.hiddenTags ++ "\n"

/-- The setting of a key, or the default; a key that stands twice is refused. -/
def setting? {α : Type} (entries : Mapping) (key : String) (read? : Value → Option α) (default : α) :
    Option α :=
  match entries.filter (·.1 == key) with
  | [] => some default
  | [(_, value)] => read? value
  | _ => none

/-- The settings of the entries of a file. -/
def ofEntries? (entries : Mapping) : Option Config := do
  let default : Config := {}
  return {
    boardPath := ← setting? entries "board_path" Value.text? default.boardPath
    listenAddress := ← setting? entries "listen_addr" Value.text? default.listenAddress
    maxTagSuggestions :=
      ← setting? entries "max_tag_suggestions" Value.uint64? default.maxTagSuggestions
    maxAliasSuggestions :=
      ← setting? entries "max_alias_suggestions" Value.uint64? default.maxAliasSuggestions
    showFilters := ← setting? entries "show_filters" Value.bool? default.showFilters
    hiddenTags := ← setting? entries "filter_tags" Value.uint64s? default.hiddenTags }

/-- The settings of a text. -/
def parse? (text : String) : Option Config := (Yaml.read? text).bind ofEntries?

example : parse? "" = some {} := by decide +kernel

example : parse? (render {}) = some {} := by decide +kernel

example : parse? "show_filters: 1\n" = none := by decide +kernel

end Tagboard.Config
