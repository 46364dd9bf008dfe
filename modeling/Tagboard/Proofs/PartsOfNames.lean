import Tagboard.Proofs.LowercaseParts
import Tagboard.Proofs.SettledBoard

/-!
# Finding a name by a part of it

Tags and further names are looked up by a text that occurs in their names once both are in lower case. A
part of a name finds it if the part settles the form of its capital sigmas, and every part without one
does. Any other part is missed in some name.
-/

namespace Tagboard

open Text

/-- A text is found in every name that it is a part of exactly if it settles its capital sigmas. -/
theorem forall_occursIgnoringCase_iff {part : String} :
    (∀ name : String, part.toList <:+: name.toList → occursIgnoringCase part name = true) ↔
      SettlesSigmas part.toList := by
  rw [← forall_isInfix_lowercase_iff]
  simp only [occursIgnoringCase, occursIn_iff_isInfix]
  constructor
  · intro found whole occurs
    have named := found (String.ofList whole)
    rw [String.toList_ofList] at named
    exact named occurs
  · exact fun found name => found name.toList

namespace Board

variable {b : Board} {part : String}

/-- A tag is found by every part of its name that settles its capital sigmas. -/
theorem mem_tagsByName_of_isInfix (settled : SettlesSigmas part.toList) {t : Tag} (member : t ∈ b.tags)
    (occurs : part.toList <:+: t.name.toList) : t ∈ b.tagsByName part [] [] :=
  mem_tagsByName_iff.mpr ⟨member, forall_occursIgnoringCase_iff.mpr settled t.name occurs,
    List.not_mem_nil, List.not_mem_nil⟩

/-- A further name is found, with its tag, by every such part of it. -/
theorem mem_namedAliases_of_isInfix (settled : SettlesSigmas part.toList) {a : Alias} {t : Tag}
    (member : a ∈ b.aliases) (target : b.tag? a.tagId = some t)
    (occurs : part.toList <:+: a.name.toList) : (a, t) ∈ b.namedAliases part [] [] :=
  mem_namedAliases_iff.mpr ⟨member, target, forall_occursIgnoringCase_iff.mpr settled a.name occurs,
    List.not_mem_nil, List.not_mem_nil⟩

/--
A text is found in every name that it is a part of exactly if it settles its capital sigmas, as it does if
it has none. Then an accepted board that is asked for it, with no exclusions, answers with every tag and
every further name that it is a part of.
-/
theorem settled_parts_are_found {accepted : Board} (accepts : b.accept = .ok accepted) (part : String) :
    ((∀ name : String, part.toList <:+: name.toList → occursIgnoringCase part name = true) ↔
      SettlesSigmas part.toList) ∧
    ('Σ' ∉ part.toList → SettlesSigmas part.toList) ∧
    ∃ (tags : List Tag) (aliases : List (Alias × Tag)),
      accepted.store.tagsByName part [] [] = .ok tags ∧
      accepted.store.aliasesByName part [] [] = .ok aliases ∧
      (SettlesSigmas part.toList →
        (∀ t ∈ accepted.tags, part.toList <:+: t.name.toList → t ∈ tags) ∧
        ∀ a ∈ accepted.aliases, part.toList <:+: a.name.toList →
          ∃ t, accepted.tag? a.tagId = some t ∧ (a, t) ∈ aliases) := by
  obtain ⟨consistent, rfl⟩ := accept_eq_ok_iff.mp accepts
  have known := consistent.settled.aliases
  refine ⟨forall_occursIgnoringCase_iff, SettlesSigmas.of_sigma_not_mem,
    b.settled.tagsByName part [] [], b.settled.namedAliases part [] [], rfl,
    aliasesByName_eq_ok known part [] [], fun settled => ⟨?_, ?_⟩⟩
  · intro t member occurs
    exact mem_tagsByName_of_isInfix settled member occurs
  · intro a member occurs
    obtain ⟨t, target⟩ := exists_tag?_of_mem (known a member)
    exact ⟨t, target, mem_namedAliases_of_isInfix settled member target occurs⟩

/-- A capital sigma before a letter ends no word, whatever stands around the two. -/
theorem settled_parts_are_found_sigma :
    let t : Tag := ⟨1, "ΑΣΑ", none, 0, .unrated⟩
    let a : Alias := ⟨7, "ΠΑΣΑΣ", 1⟩
    let b : Board := ⟨[], [t], [a]⟩
    b.accept = .ok b.settled ∧ SettlesSigmas "ΣΑ".toList ∧ 'Σ' ∉ "ΠΑ".toList ∧
      SettlesSigmas "ΠΑ".toList ∧ "ΣΑ".toList <:+: "ΠΑΣΑΣ".toList ∧
      occursIgnoringCase "ΣΑ" "ΠΑΣΑΣ" = true ∧
      ∃ (tags : List Tag) (aliases : List (Alias × Tag)),
        b.settled.store.tagsByName "ΣΑ" [] [] = .ok tags ∧ t ∈ tags ∧
        b.settled.store.aliasesByName "ΣΑ" [] [] = .ok aliases ∧ (a, t) ∈ aliases := by
  intro t a b
  have accepts : b.accept = .ok b.settled := rfl
  have settled : SettlesSigmas "ΣΑ".toList := by
    rintro (_ | ⟨first, _ | ⟨second, left⟩⟩) right split
    · cases split
      exact .inl (by decide +kernel)
    · cases split
    · simp at split
  have free : 'Σ' ∉ "ΠΑ".toList := by decide +kernel
  have inAlias : "ΣΑ".toList <:+: "ΠΑΣΑΣ".toList := by decide +kernel
  obtain ⟨-, unsigned, -⟩ := settled_parts_are_found accepts "ΠΑ"
  obtain ⟨every, -, tags, aliases, asked, askedAliases, complete⟩ :=
    settled_parts_are_found accepts "ΣΑ"
  obtain ⟨allTags, allAliases⟩ := complete settled
  obtain ⟨target, tagged, found⟩ := allAliases a (List.mem_singleton_self a) inAlias
  cases tagged
  exact ⟨accepts, settled, free, unsigned free, inAlias, every.mpr settled _ inAlias, tags, aliases,
    asked, allTags t (List.mem_singleton_self t) (by decide +kernel), askedAliases, found⟩

/-- A tag and a further name are missed by a part that ends in a final sigma, which is none in the name. -/
theorem part_with_final_sigma_is_missed :
    let b : Board := ⟨[], [⟨1, "ΑΣΑ", none, 0, .unrated⟩], [⟨7, "ΑΣΑ", 1⟩]⟩
    b.accept = .ok b.settled ∧ "ΑΣ".toList <:+: "ΑΣΑ".toList ∧
      occursIgnoringCase "ΑΣ" "ΑΣΑ" = false ∧
      b.settled.store.tagsByName "ΑΣ" [] [] = .ok [] ∧
      b.settled.store.aliasesByName "ΑΣ" [] [] = .ok [] := by
  intro b
  have missed : occursIgnoringCase "ΑΣ" "ΑΣΑ" = false := by decide +kernel
  have noTags : b.settled.tagsByName "ΑΣ" [] [] = [] := by decide +kernel
  have noAliases : b.settled.namedAliases "ΑΣ" [] [] = [] := by decide +kernel
  refine ⟨rfl, by decide +kernel, missed, congrArg Except.ok noTags, ?_⟩
  rw [← noAliases]
  exact aliasesByName_eq_ok (by decide +kernel) "ΑΣ" [] []

end Board

end Tagboard
