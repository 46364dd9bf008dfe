import Tagboard.Suggestion
import Tagboard.Text.Blank
import Tagboard.Text.Quoted
import Tagboard.Web.SocketAddress

/-!
# Settings

The settings of the program: where the board is, where the program listens, how much it suggests and
which tags it never shows. Settings are checked when they are loaded, and put into a normal form in
which limits are positive and the hidden tags are in order.
-/

namespace Tagboard

open Text

/-- The settings. -/
structure Config where
  /-- The file of the board, seen from the directory of the settings. -/
  boardPath : String := "board.json"
  listenAddress : String := "0.0.0.0:8080"
  maxTagSuggestions : UInt64 := 20
  maxAliasSuggestions : UInt64 := 20
  /-- Whether filters are suggested. -/
  showFilters : Bool := true
  /-- The tags whose posts and suggestions are never shown. -/
  hiddenTags : List TagId := []
deriving DecidableEq, Repr

/-- Why settings are not accepted. -/
inductive ConfigFault where
  | blankBoardPath
  | listenAddress (address : String)
deriving DecidableEq, Repr

/-- The description of a fault. -/
def ConfigFault.message : ConfigFault → String
  | blankBoardPath => "board_path cannot be empty"
  | listenAddress address =>
      "listen_addr " ++ quoted address ++ " is invalid: invalid socket address syntax"

namespace Config

/-- The first fault of settings. -/
def fault? (c : Config) : Option ConfigFault :=
  if (trim c.boardPath.toList).isEmpty then some .blankBoardPath
  else if NetworkAddress.isSocketAddress c.listenAddress.toList then none
  else some (.listenAddress c.listenAddress)

/-- The settings with positive limits and with the hidden tags in order. -/
def normalize (c : Config) : Config where
  boardPath := c.boardPath
  listenAddress := c.listenAddress
  maxTagSuggestions := max 1 c.maxTagSuggestions
  maxAliasSuggestions := max 1 c.maxAliasSuggestions
  showFilters := c.showFilters
  hiddenTags := orderedSet c.hiddenTags

/-- Accepts settings without fault, in their normal form. -/
def accept (c : Config) : Except ConfigFault Config :=
  match c.fault? with
  | some fault => .error fault
  | none => .ok c.normalize

/-- The limits for suggestions. -/
def limits (c : Config) : SuggestionLimits :=
  ⟨c.maxTagSuggestions.toNat, c.maxAliasSuggestions.toNat⟩

end Config

end Tagboard
