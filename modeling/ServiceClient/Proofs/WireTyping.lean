import ServiceClient.Wire.RecordType
import ServiceClient.Wire.Value

/-!
Which values a type has, and which record types can be sent and received without loss. Types are read
strictly: an integer is no double and a truth value no integer, while a reader takes more.
-/

namespace ServiceClient

namespace WireType

/-- The record types that a type speaks of. -/
def records : WireType → List String
  | .record name => [name]
  | .list type | .optional type => type.records
  | .map key value => key.records ++ value.records
  | _ => []

/-- Types of keys that have a text to be read back from. -/
def isKey : WireType → Bool
  | .str | .int | .bool => true
  | _ => false

/-- Whether a type says what its values are, down to the keys of its maps. -/
def isPlain : WireType → Bool
  | .any => false
  | .list type | .optional type => type.isPlain
  | .map key value => key.isKey && value.isPlain
  | _ => true

/-- Octets that are there or may be left out. -/
def isOctets : WireType → Bool
  | .bytes => true
  | .optional type => type.isOctets
  | _ => false

end WireType

/-- The record types at any depth of a record type, itself among them. -/
inductive RecordTypes.Contains (types : RecordTypes) (name : String) : String → Prop
  | self : Contains types name name
  | field {outer inner : String} {type : RecordType} {field : RecordField} :
      Contains types name outer → types.find? outer = some type → field ∈ type.fields →
      inner ∈ field.type.records → Contains types name inner

theorem RecordTypes.Contains.trans {types : RecordTypes} {name middle far : String}
    (first : types.Contains name middle) (second : types.Contains middle far) :
    types.Contains name far := by
  induction second with
  | self => exact first
  | field _ found inside mentioned ih => exact ih.field found inside mentioned

/-- A record type that goes both ways and keeps its fields apart on the wire. -/
structure RecordType.Portable (type : RecordType) : Prop where
  sent : type.sent = true
  received : type.received = true
  /-- The fields of any record type have distinct names. -/
  names : (type.fields.map (·.name)).Nodup
  wires : (type.fields.map (·.wire)).Nodup
  plain : ∀ field ∈ type.fields, field.type.isPlain = true
  blobs : ∀ field ∈ type.fields, field.blob = true → field.type.isOctets = true

instance (type : RecordType) : Decidable type.Portable :=
  decidable_of_iff
    (type.sent = true ∧ type.received = true ∧ (type.fields.map (·.name)).Nodup ∧
      (type.fields.map (·.wire)).Nodup ∧ (∀ field ∈ type.fields, field.type.isPlain = true) ∧
      ∀ field ∈ type.fields, field.blob = true → field.type.isOctets = true)
    ⟨by
      rintro ⟨sent, received, names, wires, plain, blobs⟩
      exact ⟨sent, received, names, wires, plain, blobs⟩,
    fun type => ⟨type.sent, type.received, type.names, type.wires, type.plain, type.blobs⟩⟩

/-- A field that is null unless it is given a value. -/
structure RecordField.MayBeNull (field : RecordField) : Prop where
  optional : field.required = false
  initial : field.initial = .null

theorem RecordField.mayBeNull_iff (field : RecordField) :
    field.MayBeNull ↔ field.required = false ∧ field.initial = .null :=
  ⟨fun may => ⟨may.optional, may.initial⟩, fun ⟨optional, initial⟩ => ⟨optional, initial⟩⟩

namespace Value

/-- A value that is not null is of a type. Items, entries and the fields that are null unless they are
given a value may be null. -/
inductive HasType (types : RecordTypes) : WireType → Value → Prop
  | str (s : String) : HasType types .str (.str s)
  | int (n : Int) : HasType types .int (.int n)
  | float (x : Binary64) : HasType types .float (.float x)
  | bool (b : Bool) : HasType types .bool (.bool b)
  | bytes (octets : Octets) : HasType types .bytes (.bytes octets)
  | optional {type : WireType} {v : Value} : HasType types type v → HasType types (.optional type) v
  | list {element : WireType} {items : List Value} :
      (∀ item ∈ items, item ≠ .null → HasType types element item) →
      HasType types (.list element) (.list items)
  | map {key value : WireType} {entries : List (Value × Value)} :
      entries.Pairwise (fun first second => sameKey first.1 second.1 = false) →
      (∀ entry ∈ entries, HasType types key entry.1) →
      (∀ entry ∈ entries, entry.2 ≠ .null → HasType types value entry.2) →
      HasType types (.map key value) (.map entries)
  | record {name : String} {type : RecordType} {fields : List (String × Value)} :
      types.find? name = some type → fields.map (·.1) = type.fields.map (·.name) →
      (∀ pair ∈ type.fields.zip fields, pair.2.2 = .null → pair.1.MayBeNull) →
      (∀ pair ∈ type.fields.zip fields, pair.2.2 ≠ .null → HasType types pair.1.type pair.2.2) →
      HasType types (.record name) (.record name fields)

/-- A map at any depth of a value has a key. -/
inductive HasKey (key : Value) : Value → Prop
  | here {entries : List (Value × Value)} {v : Value} : (key, v) ∈ entries →
      HasKey key (.map entries)
  | entry {entries : List (Value × Value)} {other v : Value} : (other, v) ∈ entries →
      HasKey key v → HasKey key (.map entries)
  | item {items : List Value} {v : Value} : v ∈ items → HasKey key v → HasKey key (.list items)
  | field {type name : String} {fields : List (String × Value)} {v : Value} : (name, v) ∈ fields →
      HasKey key v → HasKey key (.record type fields)

/-- The whole numbers that are keys of maps have no more digits than a text may give them. -/
def KeysFit (v : Value) : Prop := ∀ n : Int, HasKey (.int n) v → n.natAbs < Numeral.limit

theorem keysFit_list (items : List Value) :
    KeysFit (.list items) ↔ ∀ item ∈ items, KeysFit item := by
  constructor
  · exact fun fit item inside n key => fit n (.item inside key)
  · intro fit n key
    cases key with
    | item inside key => exact fit _ inside n key

theorem keysFit_map (entries : List (Value × Value)) :
    KeysFit (.map entries) ↔ ∀ entry ∈ entries,
      (∀ n : Int, entry.1 = .int n → n.natAbs < Numeral.limit) ∧ KeysFit entry.2 := by
  constructor
  · intro fit entry inside
    obtain ⟨key, v⟩ := entry
    refine ⟨fun n same => fit n (.here (v := v) ?_), fun n later => fit n (.entry inside later)⟩
    exact same ▸ inside
  · intro fit n key
    cases key with
    | here inside => exact (fit _ inside).1 n rfl
    | entry inside key => exact (fit _ inside).2 n key

theorem keysFit_record (name : String) (fields : List (String × Value)) :
    KeysFit (.record name fields) ↔ ∀ field ∈ fields, KeysFit field.2 := by
  constructor
  · exact fun fit field inside n key => fit n (.field inside key)
  · intro fit n key
    cases key with
    | field inside key => exact fit _ inside n key

end Value

end ServiceClient
