import Mathlib
import Tagboard.Command.Run
import Tagboard.Proofs.SettingsFile
import Tagboard.Proofs.TagLists
import Tagboard.Proofs.WrittenBoards

/-!
# Searching from the command line

The command that searches puts its excluded tags together from the settings and from a list that is
written on the command line. It finds the posts that the service finds for the same query and for the
numbers of the list, and fails where the service does, with the same description.
-/

namespace Tagboard

open Text

namespace Command

/-- The command finds what the service finds for the numbers of its list. -/
theorem foundPosts_eq {list : String} {ids : List TagId} (read : Input.tagIds list = .ok ids)
    (service : Service) (query : String) :
    foundPosts service query (some list) = (service.search query ids).mapError .search := by
  simp only [foundPosts, read, lift, Service.search]
  cases Search.ofQuery query <;> rfl

variable {t t' t'' : FileTree} {process base path : String} {arguments : List String}
  {command : Command} {config : Config} {board : Board}

/-- A command that looks at a board prints what it does with the settings and the board. -/
theorem run_output (configured : t.run (Config.load base process) = (.ok config, t'))
    (looks : command.boardFile? base config = some path)
    (loaded : t'.run (Board.load path) = (.ok board, t'')) :
    t.run (command.output base process) = (command.outputWith ⟨board.store, config⟩, t'') := by
  have settings : t.run ((Config.load base process :
      ExceptT ConfigError (StateM FileTree) Config).adapt CommandError.config) = (.ok config, t') := by
    rw [FileTree.run_adapt, configured]
    rfl
  have found : t'.run ((Board.load path :
      ExceptT BoardFileError (StateM FileTree) Board).adapt CommandError.board) =
        (.ok board, t'') := by
    rw [FileTree.run_adapt, loaded]
    rfl
  rw [output, FileTree.run_bind_of_ok settings, looks]
  exact FileTree.run_bind_of_ok found _

/-- The program ends with what its command prints. -/
theorem run_execute_of_ok (parsed : CommandLine.read arguments = .ok ⟨base, command⟩)
    {text : String} (printed : t.run (command.output base process) = (.ok text, t')) :
    (execute process arguments : StateM FileTree Outcome).run t = (⟨0, text, none⟩, t') := by
  rw [FileTree.run] at printed
  rw [execute, parsed]
  simp only [StateT.run_bind, printed]
  rfl

/-- The program ends with the error of its command. -/
theorem run_execute_of_error (parsed : CommandLine.read arguments = .ok ⟨base, command⟩)
    {e : CommandError} (failed : t.run (command.output base process) = (.error e, t')) :
    (execute process arguments : StateM FileTree Outcome).run t =
      (⟨1, "", some ("Error: " ++ e.message ++ "\n")⟩, t') := by
  rw [FileTree.run] at failed
  rw [execute, parsed]
  simp only [StateT.run_bind, failed]
  rfl

/--
A list of tags is read as the numbers that it is written for, and refused for an entry that is no numeral
of 64 bits. With a list of numbers the command that searches finds exactly the posts that the service finds
for the query and the numbers, and the run prints them; where the service fails, so does the run, with the
same error.
-/
theorem search_answers_as_service :
    (∀ (list : String) (ids : List TagId), Input.Lists list.toList ids →
        Input.tagIds list = .ok ids) ∧
      (∀ (list : String) (piece : List Char), Input.IsPiece list.toList piece → trim piece ≠ [] →
        (∀ id, ¬ Input.IsEntry (trim piece) id) → ∃ e, Input.tagIds list = .error e) ∧
      ∀ (t t' t'' : FileTree) (process base query list : String) (file : Option String)
          (countOnly : Bool) (arguments : List String) (config : Config) (board : Board)
          (ids : List TagId),
        CommandLine.read arguments = .ok ⟨base, .search query file (some list) countOnly⟩ →
        t.run (Config.load base process) = (.ok config, t') →
        t'.run (Board.load (file.getD (config.boardFile base))) = (.ok board, t'') →
        Input.Lists list.toList ids →
          let service : Service := ⟨board.store, config⟩
          foundPosts service query (some list) = (service.search query ids).mapError .search ∧
            (∀ posts, service.search query ids = .ok posts →
              (execute process arguments : StateM FileTree Outcome).run t =
                (⟨0, showPosts posts countOnly, none⟩, t'')) ∧
            ∀ e, service.search query ids = .error e →
              (execute process arguments : StateM FileTree Outcome).run t =
                (⟨1, "", some ("Error: " ++ e.message ++ "\n")⟩, t'') := by
  refine ⟨fun list ids written => written.mapM_entries,
    fun list piece isPiece visible noEntry =>
      Input.exists_tagIds_eq_error isPiece visible noEntry, ?_⟩
  intro t t' t'' process base query list file countOnly arguments config board ids parsed configured
    loaded written service
  have same : foundPosts service query (some list) = (service.search query ids).mapError .search :=
    foundPosts_eq written.mapM_entries service query
  let command : Command := .search query file (some list) countOnly
  have printed : t.run (command.output base process) = (command.outputWith service, t'') :=
    run_output configured rfl loaded
  refine ⟨same, fun posts found => ?_, fun e failed => ?_⟩
  · rw [found] at same
    refine run_execute_of_ok parsed (printed.trans ?_)
    rw [outputWith, same]
    rfl
  · rw [failed] at same
    refine run_execute_of_error (e := .search e) parsed (printed.trans ?_)
    rw [outputWith, same]
    rfl

/-- A list with separators all around it and with a zero in front of a number, and one with a number that
is too large. -/
theorem search_answers_as_service_cats :
    let content := "\x7b\"posts\":[\x7b\"id\":8,\"uploader\":\"eve\",\"tags\":[7,1]\x7d," ++
      "\x7b\"id\":6,\"uploader\":\"bob\",\"tags\":[3,7]\x7d,\x7b\"id\":5,\"uploader\":\"ann\",\"tags\":[7]\x7d]," ++
      "\"tags\":[\x7b\"id\":7,\"name\":\"cat\"\x7d,\x7b\"id\":3,\"name\":\"dog\"\x7d," ++
      "\x7b\"id\":1,\"name\":\"fox\"\x7d]\x7d"
    let config : Config := { hiddenTags := [1] }
    let t : FileTree := ⟨[(["w"], .directory), (["w", "config.yaml"], .file config.render.toUTF8),
      (["w", "board.json"], .file content.toUTF8)]⟩
    let found : Post := ⟨5, "", "ann", [7], .unrated, none, none, [], []⟩
    Input.tagIds " 3,, 04 " = .ok [3, 4] ∧
      (∃ e, Input.tagIds "3, 18446744073709551616 ,4" = .error e) ∧
      (execute "9" ["--base-dir", "w", "search", "cat", "--exclude-tags", " 3,, 04 "] :
          StateM FileTree Outcome).run t = (⟨0, showPosts [found] false, none⟩, t) := by
  intro content config t found
  let eve : Post := ⟨8, "", "eve", [7, 1], .unrated, none, none, [], []⟩
  let bob : Post := ⟨6, "", "bob", [3, 7], .unrated, none, none, [], []⟩
  let board : Board := ⟨[eve, bob, found], [⟨7, "cat", none, 0, .unrated⟩, ⟨3, "dog", none, 0, .unrated⟩,
    ⟨1, "fox", none, 0, .unrated⟩], []⟩
  obtain ⟨reads, refuses, answers⟩ := search_answers_as_service
  have written : Input.Lists ([' '] ++ (['3'] ++ ',' :: ([',', ' '] ++ (['0', '4'] ++ ' ' :: []))))
      [3, 4] :=
    .next (List.all_eq_true.mp rfl) ⟨by decide, List.all_eq_true.mp rfl, rfl⟩ rfl
      (.next (List.all_eq_true.mp rfl) ⟨by decide, List.all_eq_true.mp rfl, rfl⟩ rfl
        (.nothing (List.forall_mem_nil _)))
  have present : t.read (Config.path "w") = .ok config.render.toUTF8 := rfl
  have normal : config.IsNormal := ⟨⟨by decide, by decide +kernel⟩, by decide, by decide, by decide⟩
  have configured : t.run (Config.load "w" "9") = (.ok config, t) := by
    rw [Config.run_load_of_read present, Config.run_loadFile_of_ok present normal.ofContent_render,
      if_pos rfl]
  have decoded : (Board.decode (Json.read content)).toOption = some board := by decide +kernel
  have place : config.boardFile "w" = "w/board.json" := by decide
  have kept : t.read (config.boardFile "w") = .ok content.toUTF8 := by
    rw [place]
    rfl
  have loaded : t.run (Board.load (config.boardFile "w")) = (.ok board.settled, t) := by
    rw [Board.run_load_of_read kept, Board.ofContent_of_decode decoded]
    rfl
  have search : Service.search ⟨board.settled.store, config⟩ "cat" [3, 4] = .ok [found] := by cbv
  have decimal : Input.IsDecimal "18446744073709551616".toList 18446744073709551616 :=
    ⟨by decide, List.all_eq_true.mp rfl, rfl⟩
  have piece : Input.IsPiece (['3', ',', ' '] ++ "18446744073709551616".toList ++ [' ', ',', '4'])
      "18446744073709551616".toList :=
    ⟨_, _, rfl, by simp [Input.separates], by simp [Input.separates], decimal.separates_eq_false⟩
  have visible : trim "18446744073709551616".toList ≠ [] := by decide
  have noEntry (id : TagId) : ¬ Input.IsEntry (trim "18446744073709551616".toList) id := by
    have unread : readUInt64? (trim "18446744073709551616".toList) = none := by decide
    rw [← Input.readUInt64?_eq_some_iff, unread]
    exact (Option.some_ne_none id).symm
  obtain ⟨-, printed, -⟩ := answers t t t "9" "w" "cat" " 3,, 04 " none false
    ["--base-dir", "w", "search", "cat", "--exclude-tags", " 3,, 04 "] config board.settled [3, 4] rfl
    configured loaded written
  refine ⟨reads _ _ written, refuses _ _ piece visible noEntry, printed _ search⟩

end Command

end Tagboard
