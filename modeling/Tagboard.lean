import Tagboard.Api
import Tagboard.Files.Tree
import Tagboard.Form.Format
import Tagboard.Main
import Tagboard.Pattern.Like
import Tagboard.Proofs.EffectiveOffsets
import Tagboard.Proofs.ArgumentRules
import Tagboard.Proofs.GlobMatching
import Tagboard.Proofs.ReadTokens
import Tagboard.Proofs.Compilation
import Tagboard.Proofs.FormWords
import Tagboard.Proofs.BoardOrder
import Tagboard.Proofs.AcceptedBoard
import Tagboard.Proofs.Answers
import Tagboard.Proofs.TokenMeaning
import Tagboard.Proofs.OrderedSets
import Tagboard.Proofs.SearchMeaning
import Tagboard.Proofs.TypedText
import Tagboard.Proofs.PrintedTokens
import Tagboard.Proofs.ArgumentFaults
import Tagboard.Proofs.WordFaults
import Tagboard.Proofs.TokenGrammar
import Tagboard.Proofs.PatternTranslations
import Tagboard.Proofs.ExcludedPosts
import Tagboard.Proofs.WellFormedTokens
import Tagboard.Proofs.TypedArguments
import Tagboard.Proofs.NameLookup
import Tagboard.Proofs.SettledBoard
import Tagboard.Proofs.ListingOrder
import Tagboard.Proofs.WithheldSuggestions
import Tagboard.Proofs.QueryAlgebra
import Tagboard.Proofs.RequestOutcomes
import Tagboard.Proofs.Numerals
import Tagboard.Proofs.LineScalars
import Tagboard.Proofs.BlockScalars
import Tagboard.Proofs.EntryValues
import Tagboard.Proofs.WrittenSettings
import Tagboard.Proofs.FileChanges
import Tagboard.Proofs.NormalSettings
import Tagboard.Proofs.SettingsFile
import Tagboard.Proofs.InsertedRuns
import Tagboard.Proofs.PreparedEvaluation
import Tagboard.Proofs.TagLists
import Tagboard.Proofs.JsonScalars
import Tagboard.Proofs.JsonTexts
import Tagboard.Proofs.WrittenRecords
import Tagboard.Proofs.WrittenBoards
import Tagboard.Proofs.CommandSearch
import Tagboard.Proofs.PredicateMeaning
import Tagboard.Proofs.LowercaseParts
import Tagboard.Proofs.BestSuggestions
import Tagboard.Proofs.TagCounts
import Tagboard.Proofs.PartsOfNames
import Tagboard.Proofs.SpelledNames
import Tagboard.Proofs.TrailingWord
import Tagboard.Proofs.FormFields
import Tagboard.Proofs.NumericArguments
import Tagboard.Proofs.ReplacedFiles
import Tagboard.Proofs.DoubleNegation
