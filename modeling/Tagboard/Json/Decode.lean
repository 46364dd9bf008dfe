import Tagboard.Json

/-!
# Taking JSON documents apart

Decoders for scalars, lists and records. A record is given as an object, whose fields are taken in
the order in which they stand, or as the list of its fields in their own order. Fields of other
names are passed over, as long as they are undamaged.
-/

namespace Tagboard

namespace Json

/-- Why a document was refused. -/
inductive DecodeError where
  /-- The text stops being JSON. -/
  | damaged
  /-- The text is JSON, but not of the expected shape. -/
  | mismatch
deriving DecidableEq, Repr

/-- A decoder of documents. -/
abbrev Decoder (α : Type) := Json → Except DecodeError α

/-- The error of a document that is not of the expected shape. -/
def refuse {α : Type} : Decoder α
  | unreadable | broken => .error .damaged
  | _ => .error .mismatch

namespace Decode

/-- Decodes a text. -/
def text : Decoder String
  | .text value => .ok value
  | other => refuse other

/-- Decodes a truth value. -/
def bool : Decoder Bool
  | .bool value => .ok value
  | other => refuse other

/-- Decodes a number without sign. -/
def uint64 : Decoder UInt64
  | .int value =>
      if 0 ≤ value ∧ value < UInt64.size then .ok (UInt64.ofNat value.toNat) else .error .mismatch
  | other => refuse other

/-- Decodes a number with sign. -/
def int64 : Decoder Int64
  | .int value =>
      if Int64.minValue.toInt ≤ value ∧ value ≤ Int64.maxValue.toInt then .ok (Int64.ofInt value)
      else .error .mismatch
  | other => refuse other

/-- Decodes what may be null. -/
def option {α : Type} (decode : Decoder α) : Decoder (Option α)
  | .null => .ok none
  | other => (decode other).map some

/-- Decodes a list. -/
def list {α : Type} (decode : Decoder α) : Decoder (List α)
  | .list items => items.mapM decode
  | other => refuse other

/-- Decodes one of some names; a name may also stand as the only field of an object, with null. -/
def oneOf {α : Type} (options : List (String × α)) : Decoder α
  | .text name => (options.lookup name).elim (.error .mismatch) .ok
  | .object ((name, value) :: rest) =>
      match options.lookup name, value, rest with
      | none, _, _ => .error .mismatch
      | some option, .null, [] => .ok option
      | some _, .null, _ => .error .damaged
      | some _, other, _ => refuse other
  | other => refuse other

end Decode

/-- A test of whether a document can be decoded. -/
abbrev Check := Json → Except DecodeError Unit

/-- The fields of a record, and how the record is made of those that are present. -/
structure Record (α : Type) where
  /-- The names of the fields in their order, each with the test of its value. -/
  known : List (String × Check)
  /-- Makes the record, given a look-up of the fields. -/
  make : (String → Option Json) → Except DecodeError α

namespace Record

/-- The record without fields that always has one value. -/
def const {α : Type} (value : α) : Record α where
  known := []
  make _ := .ok value

/-- Adds the field that a record's value still waits for. -/
def and {α β : Type} (f : Record (α → β)) (r : Record α) : Record β where
  known := f.known ++ r.known
  make get := do
    let g ← f.make get
    let value ← r.make get
    return g value

/-- The record of one field that must be present. -/
def required {α : Type} (name : String) (decode : Decoder α) : Record α where
  known := [(name, fun value => (decode value).map fun _ => ())]
  make get :=
    match get name with
    | some value => decode value
    | none => .error .mismatch

/-- The record of one field that has a default. -/
def withDefault {α : Type} (name : String) (default : α) (decode : Decoder α) : Record α where
  known := [(name, fun value => (decode value).map fun _ => ())]
  make get :=
    match get name with
    | some value => decode value
    | none => .ok default

/-- Looks at the fields of an object in order; `seen` are the names of the known fields before. -/
def checkFields (known : List (String × Check)) (seen : List String) :
    List (String × Json) → Except DecodeError Unit
  | [] => .ok ()
  | (name, value) :: rest =>
      match known.lookup name with
      | none =>
          if value.isWhole then checkFields known seen rest else .error .damaged
      | some check => do
          if seen.contains name then throw .mismatch
          check value
          checkFields known (name :: seen) rest

/-- Looks at the items of a list in order, each as the field of its place. -/
def checkItems : List (String × Check) → List Json → Except DecodeError Unit
  | _, [] => .ok ()
  | [], _ :: _ => .error .damaged
  | (_, check) :: known, value :: rest => do
      check value
      checkItems known rest

/-- Decodes a record. -/
def decode {α : Type} (r : Record α) : Decoder α
  | .object fields => do
      checkFields r.known [] fields
      r.make fun name => fields.lookup name
  | .list items => do
      checkItems r.known items
      r.make fun name => (r.known.map (·.1) |>.zip items).lookup name
  | other => refuse other

end Record

end Json

end Tagboard
