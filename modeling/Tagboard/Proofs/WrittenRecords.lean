import Mathlib.Data.List.Forall2
import Tagboard.Json.Decode
import Tagboard.Proofs.JsonTexts
import Tagboard.Proofs.Traverse

/-!
# Records are read back

A record is written as an object with its fields in their order, of which those may be missing that hold
their default. Each such object is decoded to the record, as soon as each field is decoded from what it is
written as.
-/

namespace Tagboard

namespace Json

/-- How a field of a record is written. -/
structure FieldForm where
  name : String
  /-- Whether a document is one of the field. -/
  Fits : Json → Prop
  /-- Whether the field may be missing, because it holds its default. -/
  HoldsDefault : Prop

/-- A field that is always written. -/
def FieldForm.required (name : String) (fits : Json → Prop) : FieldForm := ⟨name, fits, False⟩

/-- A field that may be missing where it holds its default. -/
def FieldForm.optional (name : String) (fits : Json → Prop) (holdsDefault : Prop) : FieldForm :=
  ⟨name, fits, holdsDefault⟩

/-- The fields of an object are those of a record in their order, some of those that hold their default
left out. -/
inductive WritesFields : List FieldForm → List (String × Json) → Prop where
  | nil : WritesFields [] []
  | written {form : FieldForm} {forms : List FieldForm} {fields : List (String × Json)} {value : Json}
      (fits : form.Fits value) (later : WritesFields forms fields) :
      WritesFields (form :: forms) ((form.name, value) :: fields)
  | leftOut {form : FieldForm} {forms : List FieldForm} {fields : List (String × Json)}
      (holdsDefault : form.HoldsDefault) (later : WritesFields forms fields) :
      WritesFields (form :: forms) fields

/-- A document is an object with the fields of a record. -/
def IsRecord (forms : List FieldForm) (doc : Json) : Prop :=
  ∃ fields, doc = object fields ∧ WritesFields forms fields

/-- A document is a list of documents, one for each item. -/
def IsListOf {α : Type} (writes : α → Json → Prop) (items : List α) (doc : Json) : Prop :=
  ∃ docs, doc = list docs ∧ List.Forall₂ writes items docs

/-- A document is that of what is there, or null where nothing is. -/
def IsOptionOf {α : Type} (writes : α → Json → Prop) : Option α → Json → Prop
  | none, doc => doc = null
  | some value, doc => writes value doc

/-- The documents of a value are plain, and each of them is decoded to the value. -/
def Reads {α : Type} (decode : Decoder α) (x : α) (fits : Json → Prop) : Prop :=
  ∀ doc, fits doc → doc.IsPlain ∧ decode doc = .ok x

variable {α β : Type} {forms : List FieldForm}

/-! ## Scalars, options and lists -/

theorem Reads.of_eq {decode : Decoder α} {x : α} {doc : Json} (plain : doc.IsPlain)
    (decodes : decode doc = .ok x) : Reads decode x (· = doc) := by
  rintro _ rfl
  exact ⟨plain, decodes⟩

theorem reads_text (s : String) : Reads Decode.text s (· = .text s) := .of_eq (.text s) rfl

theorem reads_ofUInt64 (n : UInt64) : Reads Decode.uint64 n (· = .ofUInt64 n) := by
  have low : 0 ≤ (n.toNat : Int) := Int.natCast_nonneg _
  have high : (n.toNat : Int) < UInt64.size := Int.ofNat_lt.mpr n.toNat_lt
  refine .of_eq (.int (Int.le_trans (by decide) low) high) ?_
  rw [ofUInt64, Decode.uint64, if_pos ⟨low, high⟩, Int.toNat_natCast, UInt64.ofNat_toNat]

theorem reads_ofInt64 (n : Int64) : Reads Decode.int64 n (· = .ofInt64 n) := by
  have low : Int64.minValue.toInt ≤ n.toInt := n.le_toInt
  have high : n.toInt ≤ Int64.maxValue.toInt := Int.le_of_lt_add_one n.toInt_lt
  refine .of_eq (.int low (Int.lt_of_le_of_lt high (by decide))) ?_
  rw [ofInt64, Decode.int64, if_pos ⟨low, high⟩, Int64.ofInt_toInt]

/-- What may be missing is read back, unless null is a document of what is there. -/
theorem reads_option {decode : Decoder α} {writes : α → Json → Prop}
    (reads : ∀ x, Reads decode x (writes x)) (notNull : ∀ x, ¬ writes x null) (value : Option α) :
    Reads (Decode.option decode) value (IsOptionOf writes value) := by
  intro doc isOption
  cases value with
  | none =>
      cases isOption
      exact ⟨.null, rfl⟩
  | some x =>
      obtain ⟨plain, decodes⟩ := reads x doc isOption
      refine ⟨plain, ?_⟩
      rw [Decode.option, decodes]
      · rfl
      · rintro rfl
        exact notNull x isOption

theorem reads_list {decode : Decoder α} {writes : α → Json → Prop}
    (reads : ∀ x, Reads decode x (writes x)) (items : List α) :
    Reads (Decode.list decode) items (IsListOf writes items) := by
  rintro _ ⟨docs, rfl, each⟩
  have both : List.Forall₂ (fun doc x => doc.IsPlain ∧ decode doc = .ok x) docs items :=
    each.flip.imp fun doc x writes => reads x doc writes
  obtain ⟨plain, decoded⟩ := (List.forall₂_and_left _ _).mp both
  exact ⟨.list plain, mapM_eq_ok_iff.mpr decoded⟩

theorem isListOf_ofList {writes : α → Json → Prop} {encode : α → Json}
    (each : ∀ x, writes x (encode x)) (items : List α) : IsListOf writes items (.ofList encode items) := by
  refine ⟨_, rfl, ?_⟩
  rw [List.forall₂_map_right_iff, List.forall₂_same]
  exact fun x _ => each x

theorem isOptionOf_ofOption {writes : α → Json → Prop} {encode : α → Json}
    (each : ∀ x, writes x (encode x)) (value : Option α) :
    IsOptionOf writes value (.ofOption encode value) := by
  cases value with
  | none => rfl
  | some x => exact each x

theorem reads_ofList {decode : Decoder α} {encode : α → Json}
    (reads : ∀ x, Reads decode x (· = encode x)) (items : List α) :
    Reads (Decode.list decode) items (· = .ofList encode items) := by
  rintro _ rfl
  refine reads_list reads items _ (isListOf_ofList ?_ items)
  exact fun _ => rfl

theorem reads_ofOption {decode : Decoder α} {encode : α → Json}
    (reads : ∀ x, Reads decode x (· = encode x)) (notNull : ∀ x, null ≠ encode x) (value : Option α) :
    Reads (Decode.option decode) value (· = .ofOption encode value) := by
  rintro _ rfl
  refine reads_option reads notNull value _ (isOptionOf_ofOption ?_ value)
  exact fun _ => rfl

/-! ## Fields -/

/-- A field is found as it is written, or it is missing and holds its default. -/
def FieldForm.FoundBy (form : FieldForm) (get : String → Option Json) : Prop :=
  (∃ value, get form.name = some value ∧ form.Fits value) ∨ get form.name = none ∧ form.HoldsDefault

/-- A known field of a record has the name of a form, and passes as it is written. -/
def KnownAs (entry : String × Check) (form : FieldForm) : Prop :=
  entry.1 = form.name ∧ ∀ value, form.Fits value → entry.2 value = .ok ()

theorem name_beq_eq_false {form : FieldForm} (member : form ∈ forms) {name : String}
    (fresh : name ∉ forms.map (·.name)) : (form.name == name) = false := by
  rw [beq_eq_false_iff_ne]
  rintro rfl
  exact fresh (List.mem_map_of_mem member)

theorem lookup_eq_none_of_not_mem {fields : List (String × Json)} {name : String}
    (absent : name ∉ fields.map (·.1)) : fields.lookup name = none := by
  rw [List.lookup_eq_none_iff]
  rintro ⟨other, value⟩ member
  rw [bne_iff_ne]
  rintro rfl
  exact absent (List.mem_map_of_mem member)

section Fields

variable {fields : List (String × Json)}

/-- No name comes in that is not of the record. -/
theorem WritesFields.sublist (writes : WritesFields forms fields) :
    (fields.map (·.1)).Sublist (forms.map (·.name)) := by
  induction writes with
  | nil => exact .slnil
  | written _ _ ih => exact .cons_cons _ ih
  | leftOut _ _ ih => exact .cons _ ih

/-- Every field of the object is one of the record. -/
theorem WritesFields.exists_form (writes : WritesFields forms fields) :
    ∀ field ∈ fields, ∃ form ∈ forms, form.name = field.1 ∧ form.Fits field.2 := by
  induction writes with
  | nil => exact List.forall_mem_nil _
  | @written form forms fields value fits later ih =>
      refine List.forall_mem_cons.mpr ⟨⟨form, List.mem_cons_self .., rfl, fits⟩, fun field member => ?_⟩
      obtain ⟨other, inside, same⟩ := ih field member
      exact ⟨other, List.mem_cons_of_mem _ inside, same⟩
  | leftOut _ _ ih =>
      intro field member
      obtain ⟨other, inside, same⟩ := ih field member
      exact ⟨other, List.mem_cons_of_mem _ inside, same⟩

/-- Every field of the record is found, or it holds its default. -/
theorem WritesFields.foundBy (writes : WritesFields forms fields)
    (distinct : (forms.map (·.name)).Nodup) :
    ∀ form ∈ forms, form.FoundBy fun name => fields.lookup name := by
  induction writes with
  | nil => exact List.forall_mem_nil _
  | @written form forms fields value fits later ih =>
      rw [List.map_cons, List.nodup_cons] at distinct
      refine List.forall_mem_cons.mpr ⟨.inl ⟨value, List.lookup_cons_self, fits⟩, fun other member => ?_⟩
      have found := ih distinct.2 other member
      simpa only [FieldForm.FoundBy, List.lookup_cons, name_beq_eq_false member distinct.1] using found
  | @leftOut form forms fields holdsDefault later ih =>
      rw [List.map_cons, List.nodup_cons] at distinct
      have absent : form.name ∉ fields.map (·.1) := fun member =>
        distinct.1 (later.sublist.subset member)
      exact List.forall_mem_cons.mpr
        ⟨.inr ⟨lookup_eq_none_of_not_mem absent, holdsDefault⟩, ih distinct.2⟩

end Fields

namespace Record

theorem map_known {known : List (String × Check)} (matched : List.Forall₂ KnownAs known forms) :
    known.map (·.1) = forms.map (·.name) := by
  induction matched with
  | nil => rfl
  | cons same _ ih => rw [List.map_cons, List.map_cons, ih, same.1]

/-- Each field of a record is known with a check that it passes. -/
theorem lookup_known {known : List (String × Check)} (matched : List.Forall₂ KnownAs known forms)
    (distinct : (forms.map (·.name)).Nodup) :
    ∀ form ∈ forms, ∃ check, known.lookup form.name = some check ∧
      ∀ value, form.Fits value → check value = .ok () := by
  induction matched with
  | nil => exact List.forall_mem_nil _
  | @cons entry form known forms same later ih =>
      obtain ⟨name, check⟩ := entry
      obtain ⟨rfl, passes⟩ := same
      rw [List.map_cons, List.nodup_cons] at distinct
      refine List.forall_mem_cons.mpr ⟨⟨check, List.lookup_cons_self, passes⟩, fun other member => ?_⟩
      simpa only [List.lookup_cons, name_beq_eq_false member distinct.1] using ih distinct.2 other member

/-- The fields of an object pass if each is known, passes by itself and stands there once. -/
theorem checkFields_eq_ok {known : List (String × Check)} {fields : List (String × Json)}
    (each : ∀ field ∈ fields, ∃ check, known.lookup field.1 = some check ∧ check field.2 = .ok ())
    (distinct : (fields.map (·.1)).Nodup) {seen : List String}
    (fresh : ∀ name ∈ fields.map (·.1), name ∉ seen) : checkFields known seen fields = .ok () := by
  induction fields generalizing seen with
  | nil => rfl
  | cons field fields ih =>
      obtain ⟨name, value⟩ := field
      obtain ⟨⟨check, found, passes⟩, later⟩ := List.forall_mem_cons.mp each
      rw [List.map_cons, List.nodup_cons] at distinct
      rw [List.map_cons, List.forall_mem_cons] at fresh
      have new : seen.contains name = false := by simpa using fresh.1
      have rest : checkFields known (name :: seen) fields = .ok () := by
        refine ih later distinct.2 fun other member => ?_
        rw [List.mem_cons, not_or]
        exact ⟨fun same => distinct.1 (same ▸ member), fresh.2 other member⟩
      simp only [checkFields, found, new, passes, rest, ok_bind, Bool.false_eq_true, if_false]

/-- A record is made of fields of some forms, whatever is written of them. -/
structure Takes (r : Record α) (forms : List FieldForm) (x : α) : Prop where
  plain : ∀ form ∈ forms, ∀ value, form.Fits value → value.IsPlain
  known : List.Forall₂ KnownAs r.known forms
  make : ∀ get : String → Option Json, (∀ form ∈ forms, form.FoundBy get) → r.make get = .ok x

theorem takes_const (x : α) : (const x).Takes [] x where
  plain := List.forall_mem_nil _
  known := .nil
  make _ _ := rfl

/-- A record that takes some fields takes a field more. -/
theorem Takes.and {f : Record (α → β)} {r : Record α} {g : α → β} {x : α} {more : List FieldForm}
    (first : f.Takes forms g) (later : r.Takes more x) : (f.and r).Takes (forms ++ more) (g x) where
  plain := List.forall_mem_append.mpr ⟨first.plain, later.plain⟩
  known := List.rel_append first.known later.known
  make get found := by
    obtain ⟨before, after⟩ := List.forall_mem_append.mp found
    simp only [Record.and, first.make get before, later.make get after, ok_bind, pure_eq_ok]

section Field

variable {name : String} {decode : Decoder α} {fits : Json → Prop} {x : α} (reads : Reads decode x fits)

include reads

theorem takes_required : (required name decode).Takes [.required name fits] x where
  plain := List.forall_mem_singleton.mpr fun value fit => (reads value fit).1
  known := .cons ⟨rfl, fun value fit => map_eq_ok_iff.mpr ⟨x, (reads value fit).2, rfl⟩⟩ .nil
  make get found := by
    rcases found _ (List.mem_singleton_self _) with ⟨value, given, fit⟩ | ⟨-, impossible⟩
    · rw [FieldForm.required] at given
      simp only [required, given, (reads value fit).2]
    · exact impossible.elim

theorem takes_withDefault (default : α) :
    (withDefault name default decode).Takes [.optional name fits (x = default)] x where
  plain := List.forall_mem_singleton.mpr fun value fit => (reads value fit).1
  known := .cons ⟨rfl, fun value fit => map_eq_ok_iff.mpr ⟨x, (reads value fit).2, rfl⟩⟩ .nil
  make get found := by
    rcases found _ (List.mem_singleton_self _) with ⟨value, given, fit⟩ | ⟨missing, same⟩
    · rw [FieldForm.optional] at given
      simp only [withDefault, given, (reads value fit).2]
    · rw [FieldForm.optional] at missing
      simp only [withDefault, missing, show x = default from same]

end Field

/-- A record whose fields have different names is read back. -/
theorem Takes.reads {r : Record α} {x : α} (takes : r.Takes forms x)
    (distinct : (r.known.map (·.1)).Nodup) : Reads r.decode x (IsRecord forms) := by
  rw [map_known takes.known] at distinct
  rintro _ ⟨fields, rfl, writes⟩
  have checks := lookup_known takes.known distinct
  have each : ∀ field ∈ fields, field.2.IsPlain ∧
      ∃ check, r.known.lookup field.1 = some check ∧ check field.2 = .ok () := by
    intro field member
    obtain ⟨form, inside, same, fits⟩ := writes.exists_form field member
    obtain ⟨check, found, passes⟩ := checks form inside
    exact ⟨takes.plain form inside field.2 fits, check, same ▸ found, passes field.2 fits⟩
  have passes : checkFields r.known [] fields = .ok () :=
    checkFields_eq_ok (fun field member => (each field member).2) (distinct.sublist writes.sublist)
      fun _ _ => List.not_mem_nil
  refine ⟨.object fun field member => (each field member).1, ?_⟩
  rw [decode, passes, ok_bind]
  exact takes.make _ (writes.foundBy distinct)

end Record

end Json

end Tagboard
