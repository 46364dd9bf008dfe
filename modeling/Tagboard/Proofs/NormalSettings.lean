import Tagboard.Config.File
import Tagboard.Proofs.SearchMeaning
import Tagboard.Proofs.WrittenSettings

/-!
# The normal form of settings

Settings are usable if their board path has a character that is not blank and their address is one to
listen at. Usable settings have a normal form, which differs from them in the limits that are zero and
in the order of the hidden tags. A normal form is its own normal form, and its text stands for it.
-/

namespace Tagboard

open Text

namespace Config

/-- Whether settings can be used: the board path is not blank, and the address is a socket address. -/
structure IsUsable (c : Config) : Prop where
  boardPath : c.boardPath.toList.all isBlank = false
  listenAddress : NetworkAddress.isSocketAddress c.listenAddress.toList = true

/-- What holds of all settings that are loaded. -/
structure IsNormal (c : Config) : Prop extends c.IsUsable where
  maxTagSuggestions : 1 ≤ c.maxTagSuggestions
  maxAliasSuggestions : 1 ≤ c.maxAliasSuggestions
  hiddenTags : c.hiddenTags.Pairwise (· < ·)

variable {c given : Config} {fault : ConfigFault}

theorem max_eq_self {limit : UInt64} (positive : 1 ≤ limit) : max 1 limit = limit := if_pos positive

theorem IsNormal.normalize_eq (normal : c.IsNormal) : c.normalize = c := by
  rw [normalize, max_eq_self normal.maxTagSuggestions, max_eq_self normal.maxAliasSuggestions,
    orderedSet_eq_self normal.hiddenTags]

/-- The first fault of settings: the board path is looked at before the address. -/
theorem fault?_eq (c : Config) :
    c.fault? = if c.boardPath.toList.all isBlank then some .blankBoardPath
      else if NetworkAddress.isSocketAddress c.listenAddress.toList then none
      else some (.listenAddress c.listenAddress) := by
  rw [fault?, isEmpty_trim]

theorem accept_eq_ok_iff : given.accept = .ok c ↔ given.IsUsable ∧ c = given.normalize := by
  have usable : given.IsUsable ↔ given.fault? = none := by
    rw [fault?_eq]
    refine ⟨fun usable => by simp [usable.boardPath, usable.listenAddress], fun faultless => ?_⟩
    split at faultless
    · cases faultless
    · next filled =>
      split at faultless
      · next address => exact ⟨by simpa using filled, address⟩
      · cases faultless
  rw [accept, usable]
  split
  · next fault found => simp [found]
  · next faultless => simp [faultless, eq_comm]

/-- A normal form is accepted as it is. -/
theorem IsNormal.accept_eq (normal : c.IsNormal) : c.accept = .ok c :=
  accept_eq_ok_iff.mpr ⟨normal.toIsUsable, normal.normalize_eq.symm⟩

/-- Why the content of a file gives no settings. -/
inductive Refuses (content : ByteArray) : ConfigError → Prop
  | notText (damaged : String.fromUTF8? content = none) : Refuses content .notText
  | malformed {text : String} (decoded : String.fromUTF8? content = some text)
      (unread : parse? text = none) : Refuses content .malformed
  | blankBoardPath {text : String} {given : Config} (decoded : String.fromUTF8? content = some text)
      (read : parse? text = some given) (blank : given.boardPath.toList.all isBlank = true) :
      Refuses content (.refused .blankBoardPath)
  | listenAddress {text : String} {given : Config} (decoded : String.fromUTF8? content = some text)
      (read : parse? text = some given) (filled : given.boardPath.toList.all isBlank = false)
      (invalid : NetworkAddress.isSocketAddress given.listenAddress.toList = false) :
      Refuses content (.refused (.listenAddress given.listenAddress))

variable {content : ByteArray} {text : String} {e : ConfigError}

theorem ofContent_eq_ok_iff :
    ofContent content = .ok (text, c) ↔ String.fromUTF8? content = some text ∧
      ∃ given, parse? text = some given ∧ given.IsUsable ∧ c = given.normalize := by
  simp only [← accept_eq_ok_iff]
  unfold ofContent
  split
  · next damaged => simp [damaged]
  next decoded found =>
  rw [found, Option.some.injEq]
  split
  · next unread =>
    refine ⟨nofun, ?_⟩
    rintro ⟨rfl, given, read, -⟩
    rw [unread] at read
    cases read
  next given read =>
  split
  · next fault refused =>
    refine ⟨nofun, ?_⟩
    rintro ⟨rfl, other, read', accepted⟩
    rw [read, Option.some.injEq] at read'
    rw [← read', refused] at accepted
    cases accepted
  · next accepted found =>
    constructor
    · rintro ⟨⟩
      exact ⟨rfl, given, read, found⟩
    · rintro ⟨rfl, other, read', accepted'⟩
      rw [read, Option.some.injEq] at read'
      rw [← read', found, Except.ok.injEq] at accepted'
      rw [accepted']

/-- Bytes are the text that they stand for. -/
theorem fromUTF8?_eq_some_iff : String.fromUTF8? content = some text ↔ content = text.toUTF8 := by
  rw [String.fromUTF8?]
  split
  · next valid =>
    rw [Option.some.injEq]
    exact ⟨fun same => same ▸ rfl, fun same => by subst same; rfl⟩
  · next invalid =>
    refine ⟨nofun, ?_⟩
    rintro rfl
    exact absurd text.isValidUTF8 invalid

/-- The text of settings stands for their normal form where they are usable. -/
theorem ofContent_render (usable : c.IsUsable) :
    ofContent c.render.toUTF8 = .ok (c.render, c.normalize) :=
  ofContent_eq_ok_iff.mpr ⟨fromUTF8?_eq_some_iff.mpr rfl, c, parse?_render c, usable, rfl⟩

/-- The text of a normal form stands for it. -/
theorem IsNormal.ofContent_render (normal : c.IsNormal) :
    ofContent c.render.toUTF8 = .ok (c.render, c) := by
  rw [Config.ofContent_render normal.toIsUsable, normal.normalize_eq]

end Config

end Tagboard
