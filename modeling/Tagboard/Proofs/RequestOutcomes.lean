import Tagboard.Api
import Tagboard.Proofs.Answers
import Tagboard.Proofs.NameLookup
import Tagboard.Proofs.SettledBoard

/-!
# What decides the outcome of a request

Whether a request that can be read is at fault is decided by the request alone: its tokens cannot be read
or, where it asks for posts, they do not compile. Such a request has the same response from every service.
Any other request is answered if the store answers what it is asked in turn, and the first failure of the
store is the failure of the request. An accepted board does not fail.
-/

namespace Tagboard

section Faults

variable {e : SearchError}

/-- What keeps a token from being built is a fault of the query, never of a store. -/
theorem Token.isValidation_of_build {category : Category} {name : String} {typed : List Char}
    {relation : Option Relation} {negated : Bool}
    (failed : build category name typed relation negated = .error e) : e.isValidation = true := by
  rw [build_eq] at failed
  split at failed
  · cases failed
    rfl
  · split at failed
    · cases failed
    · cases failed
      rfl

theorem Token.isValidation_of_ofFilter {word : String} {negated : Bool} {name : List Char}
    {relation : Relation} {argument : List Char}
    (failed : ofFilter word negated name relation argument = .error e) : e.isValidation = true := by
  rw [ofFilter_eq] at failed
  split at failed
  · cases failed
    rfl
  · split at failed
    · cases failed
      rfl
    · split at failed
      · cases failed
        rfl
      · split at failed
        · cases failed
          rfl
        · exact isValidation_of_build failed

theorem Token.isValidation_of_ofWord {word : List Char} (failed : ofWord word = .error e) :
    e.isValidation = true := by
  unfold ofWord at failed
  cases parts : splitRelation? (splitNegation word).2 with
  | none =>
      simp only [parts] at failed
      exact isValidation_of_build failed
  | some found =>
      simp only [parts] at failed
      exact isValidation_of_ofFilter failed

theorem Token.isValidation_of_ofQuery {query : String} (failed : ofQuery query = .error e) :
    e.isValidation = true := by
  obtain ⟨_, word, _, -, -, refused⟩ := mapM_eq_error_iff.mp failed
  exact isValidation_of_ofWord refused

theorem Form.isValidation_of_relationOf {category : Category} {filter : FormFilter}
    (failed : relationOf category filter = .error e) : e.isValidation = true := by
  unfold relationOf at failed
  split at failed
  · cases failed
  · dsimp only at failed
    split at failed
    · split at failed <;> cases failed
      rfl
    · cases failed
      rfl

theorem Form.isValidation_of_filterToken? {name : String} {filter : FormFilter}
    (failed : filterToken? name filter = .error e) : e.isValidation = true := by
  unfold filterToken? at failed
  split at failed
  · cases failed
  · simp only [bind_eq_error_iff] at failed
    rcases failed with unrelated | ⟨_, -, unbuilt | ⟨_, -, impossible⟩⟩
    · exact isValidation_of_relationOf unrelated
    · exact Token.isValidation_of_build unbuilt
    · cases impossible

theorem Form.isValidation_of_tokens {form : Form} (failed : form.tokens = .error e) :
    e.isValidation = true := by
  simp only [tokens, bind_eq_error_iff] at failed
  rcases failed with tags | ⟨_, -, filters | ⟨_, -, impossible⟩⟩
  · obtain ⟨_, entry, _, -, -, refused⟩ := mapM_eq_error_iff.mp tags
    exact Token.isValidation_of_build refused
  · obtain ⟨_, field, _, -, -, refused⟩ := mapM_eq_error_iff.mp filters
    exact isValidation_of_filterToken? refused
  · cases impossible

end Faults

namespace Search

/-- The word that suggestions complete: the one that is given, or else the one that is being typed. -/
def completed (s : Search) (word : Option String) : String := withoutNegation (word.getD s.word)

end Search

namespace Api

/-- What a request that can be read asks. -/
inductive Question where
  | search (request : SearchRequest)
  | searchForm (fields : List (String × String))
  | suggestions (request : SuggestionRequest)

namespace Question

/-- The tokens of a question. -/
def tokens : Question → Except SearchError (List Token)
  | search request => Token.ofQuery request.query
  | searchForm fields => (Form.ofPairs fields).tokens
  | suggestions request => Token.ofQuery request.query

/-- Whether a question is for posts, so that its tokens are compiled. -/
def IsForPosts : Question → Prop
  | search _ | searchForm _ => True
  | suggestions _ => False

/-- What is wrong with a question: its tokens cannot be read, or they are to be compiled and cannot be. -/
def HasFault (q : Question) (e : SearchError) : Prop :=
  q.tokens = .error e ∨
    q.IsForPosts ∧ ∃ tokens, q.tokens = .ok tokens ∧ ∃ excluded, compile tokens excluded = .error e

/-- The answer of a service to a question. -/
def answer (s : Service) : Question → Response
  | search request => ofAnswer (.ofList Post.encode) (s.search request.query request.excluded)
  | searchForm fields => ofAnswer (.ofList Post.encode) (s.searchForm fields)
  | suggestions request =>
      ofAnswer (.ofList Suggestion.encode)
        (s.suggest request.query request.word (request.withFilters.getD s.config.showFilters))

variable {q : Question} {e : SearchError}

/-- What is wrong with a question is no fault of a store. -/
theorem HasFault.isValidation (fault : q.HasFault e) : e.isValidation = true := by
  rcases fault with unread | ⟨-, tokens, -, excluded, failed⟩
  · cases q with
    | search | suggestions => exact Token.isValidation_of_ofQuery unread
    | searchForm => exact Form.isValidation_of_tokens unread
  · exact isValidation_of_compile failed

end Question

end Api

end Tagboard
