import Mathlib
import ServiceClient.Proofs.DataReading

/-!
What data is read as. A type that says what its values are, with record types that do so as well, reads
null as null and all other data as a value of the type, down to the fields of the records in it: a
field that is required has a value, and one that is not required has its initial value where its member
is absent or null.
-/

namespace ServiceClient

open Value Payload

variable {types : RecordTypes}

namespace Value

/-- Puts entries into a map one after the other. -/
def putAll (entries new : List (Value × Value)) : List (Value × Value) :=
  new.foldl (fun entries entry => insertEntry entry.1 entry.2 entries) entries

section Entries

variable {p q : Value → Prop} {key v : Value} {entries : List (Value × Value)}

theorem forall_insertEntry (isKey : p key) (isValue : q v)
    (each : ∀ entry ∈ entries, p entry.1 ∧ q entry.2) :
    ∀ entry ∈ insertEntry key v entries, p entry.1 ∧ q entry.2 := by
  induction entries with
  | nil => exact List.forall_mem_singleton.mpr ⟨isKey, isValue⟩
  | cons first rest ih =>
    obtain ⟨other, old⟩ := first
    obtain ⟨first, each⟩ := List.forall_mem_cons.mp each
    rw [insertEntry]
    split
    · exact List.forall_mem_cons.mpr ⟨⟨first.1, isValue⟩, each⟩
    · exact List.forall_mem_cons.mpr ⟨first, ih each⟩

/-- What holds of the keys and of the values that are put into a map holds of the map's. -/
theorem forall_putAll {new : List (Value × Value)} (each : ∀ entry ∈ entries, p entry.1 ∧ q entry.2)
    (others : ∀ entry ∈ new, p entry.1 ∧ q entry.2) :
    ∀ entry ∈ putAll entries new, p entry.1 ∧ q entry.2 := by
  induction new generalizing entries with
  | nil => exact each
  | cons first rest ih =>
    obtain ⟨⟨isKey, isValue⟩, others⟩ := List.forall_mem_cons.mp others
    exact ih (forall_insertEntry isKey isValue each) others

theorem pairwise_insertEntry
    (apart : entries.Pairwise fun first second => sameKey first.1 second.1 = false) :
    (insertEntry key v entries).Pairwise fun first second => sameKey first.1 second.1 = false := by
  induction entries with
  | nil => exact List.pairwise_singleton _ _
  | cons first rest ih =>
    obtain ⟨other, old⟩ := first
    obtain ⟨ahead, apart⟩ := List.pairwise_cons.mp apart
    rw [insertEntry]
    split
    · exact .cons ahead apart
    · rename_i different
      have apartFromNew : sameKey other key = false := Bool.not_eq_true _ ▸ different
      have later := forall_insertEntry (p := fun key => sameKey other key = false) (q := fun _ => True)
        (v := v) apartFromNew trivial fun entry inside => ⟨ahead entry inside, trivial⟩
      exact .cons (fun entry inside => (later entry inside).1) (ih apart)

/-- The keys of a map that entries are put into stay apart. -/
theorem pairwise_putAll (new : List (Value × Value))
    (apart : entries.Pairwise fun first second => sameKey first.1 second.1 = false) :
    (putAll entries new).Pairwise fun first second => sameKey first.1 second.1 = false := by
  induction new generalizing entries with
  | nil => exact apart
  | cons entry rest ih => exact ih (pairwise_insertEntry apart)

end Entries

/-- A record is at some depth of a value. -/
inductive HasRecord (name : String) (fields : List (String × Value)) : Value → Prop
  | self : HasRecord name fields (.record name fields)
  | item {items : List Value} {v : Value} : v ∈ items → HasRecord name fields v →
      HasRecord name fields (.list items)
  | key {entries : List (Value × Value)} {entry : Value × Value} : entry ∈ entries →
      HasRecord name fields entry.1 → HasRecord name fields (.map entries)
  | entry {entries : List (Value × Value)} {entry : Value × Value} : entry ∈ entries →
      HasRecord name fields entry.2 → HasRecord name fields (.map entries)
  | field {outer : String} {others : List (String × Value)} {field : String × Value} :
      field ∈ others → HasRecord name fields field.2 → HasRecord name fields (.record outer others)

theorem HasRecord.ne_null {name : String} {fields : List (String × Value)} {v : Value}
    (inside : HasRecord name fields v) : v ≠ .null := by
  rintro rfl
  cases inside

end Value

namespace WireType

/-- Types of single values. -/
def isScalar : WireType → Bool
  | .str | .int | .float | .bool | .bytes => true
  | _ => false

/-- A type that says what its values are: nothing in it is taken as it is. -/
def isDefinite : WireType → Bool
  | .any => false
  | .list type | .optional type => type.isDefinite
  | .map key value => key.isDefinite && value.isDefinite
  | _ => true

/-- A definite type whose record types, at any depth, have fields of definite types. -/
structure Definite (types : RecordTypes) (type : WireType) : Prop where
  itself : type.isDefinite = true
  fields : ∀ name ∈ type.records, ∀ inner, types.Contains name inner → ∀ record,
    types.find? inner = some record → ∀ field ∈ record.fields, field.type.isDefinite = true

/-- The types by which parts of data are read are definite if the type of the data is. -/
theorem Definite.of_reads {type inner : WireType} {data part : Json} (definite : type.Definite types)
    (reads : Reads types type data inner part) : inner.Definite types := by
  cases reads with
  | optional => exact ⟨definite.itself, definite.fields⟩
  | item => exact ⟨definite.itself, definite.fields⟩
  | key =>
    exact ⟨(Bool.and_eq_true_iff.mp definite.itself).1, fun name mentioned =>
      definite.fields name (List.mem_append_left _ mentioned)⟩
  | entry =>
    exact ⟨(Bool.and_eq_true_iff.mp definite.itself).2, fun name mentioned =>
      definite.fields name (List.mem_append_right _ mentioned)⟩
  | @field name _ _ field _ found inside =>
    refine ⟨definite.fields name List.mem_cons_self name .self _ found field inside, ?_⟩
    intro other mentioned further contained
    have first : types.Contains name other := .field .self found inside mentioned
    exact definite.fields name List.mem_cons_self further (first.trans contained)

/-- The fields at any depth that have a value from the start have one of their types. -/
def InitialsFit (types : RecordTypes) (type : WireType) : Prop :=
  ∀ name ∈ type.records, ∀ inner, types.Contains name inner → ∀ record,
    types.find? inner = some record → ∀ field ∈ record.fields, field.initial ≠ .null →
      HasType types field.type field.initial

/-- What holds of the initial values of a record's fields holds of those of its records' fields. -/
theorem InitialsFit.field {name : String} {record : RecordType} {field : RecordField}
    (fit : InitialsFit types (.record name)) (found : types.find? name = some record)
    (inside : field ∈ record.fields) : field.type.InitialsFit types := by
  intro other mentioned inner contained
  have first : types.Contains name other := .field .self found inside mentioned
  exact fit name List.mem_cons_self inner (first.trans contained)

end WireType

namespace Payload

open Json

/-- A value that data may be read as by a type. Lists, maps and records are paired with the parts of
the data that they are read from. -/
inductive Conforms (types : RecordTypes) : WireType → Json → Value → Prop
  | null (type : WireType) : Conforms types type .null .null
  | scalar {type : WireType} {data : Json} {v : Value} : type.isScalar = true → data ≠ .null →
      HasType types type v → Conforms types type data v
  | optional {type : WireType} {data : Json} {v : Value} : Conforms types type data v →
      Conforms types (.optional type) data v
  | list {element : WireType} {data : Json} {pairs : List (Json × Value)} :
      data.items? = some (pairs.map (·.1)) → (∀ pair ∈ pairs, Conforms types element pair.1 pair.2) →
      Conforms types (.list element) data (.list (pairs.map (·.2)))
  | map {key value : WireType} {pairs : List ((String × Json) × (Value × Value))} :
      (∀ pair ∈ pairs, Conforms types key (.str pair.1.1) pair.2.1) →
      (∀ pair ∈ pairs, Conforms types value pair.1.2 pair.2.2) →
      Conforms types (.map key value) (.obj (pairs.map (·.1))) (.map (putAll [] (pairs.map (·.2))))
  /-- A field has the value of its member, or its initial value where the member is absent or null. -/
  | record {name : String} {type : RecordType} {members : List (String × Json)}
      {pairs : List (RecordField × (String × Value))} :
      types.find? name = some type → type.fields = pairs.map (·.1) →
      (∀ pair ∈ pairs, pair.2.1 = pair.1.name) →
      (∀ pair ∈ pairs, ∀ data, present? pair.1.wire members = some data →
        Conforms types pair.1.type data pair.2.2) →
      (∀ pair ∈ pairs, present? pair.1.wire members = none →
        pair.1.required = false ∧ pair.2.2 = pair.1.initial) →
      Conforms types (.record name) (.obj members) (.record name (pairs.map (·.2)))

section Conforms

variable {type : WireType} {data : Json} {v : Value}

theorem ne_null_of_hasType (typed : HasType types type v) : v ≠ .null := by
  induction typed with
  | optional _ ih => exact ih
  | _ => exact nofun

theorem Conforms.null_iff (conforms : Conforms types type data v) : v = .null ↔ data = .null := by
  induction conforms with
  | null => exact iff_of_true rfl rfl
  | scalar _ present typed => exact iff_of_false (ne_null_of_hasType typed) present
  | optional _ ih => exact ih
  | @list element part pairs there =>
    have present : part ≠ .null := by
      rintro rfl
      cases there
    simp [present]
  | map | record => simp

/-- Where the data is not null, a value that conforms has the type. -/
theorem Conforms.hasType (conforms : Conforms types type data v) (fit : type.InitialsFit types)
    (present : v ≠ .null) : HasType types type v := by
  induction conforms with
  | null => exact absurd rfl present
  | scalar _ _ typed => exact typed
  | optional _ ih => exact .optional (ih fit present)
  | list _ _ ih =>
    exact .list (List.forall_mem_map.mpr fun pair inside present => ih pair inside fit present)
  | @map key value pairs keys values ihKeys ihValues =>
    have each : ∀ entry ∈ putAll [] (pairs.map (·.2)),
        HasType types key entry.1 ∧ (entry.2 ≠ .null → HasType types value entry.2) := by
      refine forall_putAll (p := HasType types key) (q := fun v => v ≠ .null → HasType types value v)
        (List.forall_mem_nil _) (List.forall_mem_map.mpr fun pair inside => ?_)
      have isKey : pair.2.1 ≠ .null := fun null => nomatch (keys pair inside).null_iff.mp null
      exact ⟨ihKeys pair inside (fun name mentioned => fit name (List.mem_append_left _ mentioned))
        isKey, ihValues pair inside fun name mentioned => fit name (List.mem_append_right _ mentioned)⟩
    exact .map (pairwise_putAll _ .nil) (fun entry inside => (each entry inside).1)
      fun entry inside => (each entry inside).2
  | @record name type members pairs found declared names given missing ih =>
    have declares {pair : RecordField × (String × Value)} (inside : pair ∈ pairs) :
        pair.1 ∈ type.fields := declared ▸ List.mem_map_of_mem inside
    have zipped : type.fields.zip (pairs.map (·.2)) = pairs := by
      rw [declared, List.zip_map']
      exact List.map_id pairs
    refine .record found ?_ ?_ ?_
    · rw [declared, List.map_map, List.map_map]
      exact List.map_congr_left names
    · rw [zipped]
      intro pair inside null
      cases there : present? pair.1.wire members with
      | none =>
        obtain ⟨optional, same⟩ := missing pair inside there
        exact ⟨optional, same ▸ null⟩
      | some data =>
        -- A member that counts as present is not null, and so is not read as null.
        have absent := (given pair inside data there).null_iff.mp null
        exact absurd absent (present?_eq_some_iff.mp there).2
    · rw [zipped]
      intro pair inside present
      cases there : present? pair.1.wire members with
      | none =>
        have same := (missing pair inside there).2
        rw [same] at present ⊢
        exact fit name List.mem_cons_self name .self type found pair.1 (declares inside) present
      | some data => exact ih pair inside data there (fit.field found (declares inside)) present

/-- A record in a value of a type has the fields of its type, and a value for each that is
required. -/
theorem fields_of_hasRecord {name : String} {fields : List (String × Value)}
    (inside : HasRecord name fields v) (typed : HasType types type v) :
    ∃ record, types.find? name = some record ∧ fields.map (·.1) = record.fields.map (·.name) ∧
      ∀ pair ∈ record.fields.zip fields, pair.1.required = true → pair.2.2 ≠ .null := by
  induction typed with
  | str | int | float | bool | bytes => cases inside
  | optional _ ih => exact ih inside
  | list _ ih =>
    cases inside with
    | item within inside => exact ih _ within inside.ne_null inside
  | map _ _ _ ihKeys ih =>
    cases inside with
    | key within inside => exact ihKeys _ within inside
    | entry within inside => exact ih _ within inside.ne_null inside
  | @record outer record others found names optional _ ih =>
    cases inside with
    | self =>
      refine ⟨record, found, names, fun pair within required null => ?_⟩
      rw [(optional pair within null).optional] at required
      cases required
    | @field _ _ field within inside =>
      rw [← map_snd_zip names] at within
      obtain ⟨pair, paired, rfl⟩ := List.mem_map.mp within
      exact ih pair paired inside.ne_null inside

end Conforms

section Decode

variable {type : WireType} {data : Json} {v : Value}

theorem scalar_eq_ok_iff {α : Type} {make : α → Value} {x : Except Mismatch α} :
    scalar make x = .ok v ↔ ∃ a, x = .ok a ∧ make a = v := by
  cases x <;> simp [scalar]

theorem hasType_of_decode (isScalar : type.isScalar = true) {data : Value} (present : data ≠ .null)
    (read : decode types type data = .ok v) : HasType types type v := by
  cases type with
  | str =>
    rw [decode] at read
    · cases read
      exact .str _
    · exact present
  | bool =>
    rw [decode] at read
    · cases read
      exact .bool _
    · exact present
  | int =>
    rw [decode] at read
    · obtain ⟨n, -, rfl⟩ := scalar_eq_ok_iff.mp read
      exact .int n
    · exact present
  | float =>
    rw [decode] at read
    · obtain ⟨x, -, rfl⟩ := scalar_eq_ok_iff.mp read
      exact .float x
    · exact present
  | bytes =>
    rw [decode] at read
    · obtain ⟨octets, -, rfl⟩ := scalar_eq_ok_iff.mp read
      exact .bytes octets
    · exact present
  | _ => cases isScalar

/-- The entries of a map are read one by one and put into it. -/
theorem exists_pairs_of_foldlM {key value : WireType} {members : List (String × Json)}
    {done entries : List (Value × Value)}
    (read : (ofJsonFields members).foldlM (readEntry types key value) done = .ok entries) :
    ∃ pairs : List ((String × Json) × (Value × Value)), members = pairs.map (·.1) ∧
      entries = putAll done (pairs.map (·.2)) ∧
      ∀ pair ∈ pairs, decode types key (.str pair.1.1) = .ok pair.2.1 ∧
        decode types value (ofJson pair.1.2) = .ok pair.2.2 := by
  induction members generalizing done with
  | nil =>
    cases read
    exact ⟨[], rfl, rfl, List.forall_mem_nil _⟩
  | cons member rest ih =>
    rw [ofJsonFields, List.foldlM_cons, readEntry] at read
    simp only [bind_assoc, Except.bind_eq_ok_iff] at read
    obtain ⟨k, isKey, v, isValue, put, inserted, others⟩ := read
    obtain ⟨pairs, rfl, rfl, each⟩ := ih others
    have first : put = insertEntry k v done := by
      rw [insertKey] at inserted
      split at inserted <;> cases inserted
      rfl
    exact ⟨(member, (k, v)) :: pairs, rfl, by rw [first]; rfl,
      List.forall_mem_cons.mpr ⟨⟨isKey, isValue⟩, each⟩⟩

theorem received_of_decode {name : String} {data : Value} (present : data ≠ .null)
    (read : decode types (.record name) data = .ok v) :
    ∃ type, types.find? name = some type ∧ type.received = true := by
  rw [decode] at read
  · split at read
    · cases read
    · rename_i type found
      refine ⟨type, found, ?_⟩
      by_contra unmarked
      rw [if_pos (by simpa using unmarked)] at read
      cases read
  · exact present

theorem initial_of_absent {record : String} {field : RecordField} {given : String × Value}
    (read : absent record field = .ok given) :
    given.1 = field.name ∧ field.required = false ∧ given.2 = field.initial := by
  rw [absent] at read
  split at read <;> cases read
  rename_i optional
  exact ⟨rfl, Bool.not_eq_true _ ▸ optional, rfl⟩

theorem name_of_fieldFrom {record : String} {entries : List (Value × Value)} {field : RecordField}
    {given : String × Value} (read : fieldFrom types record entries field = .ok given) :
    given.1 = field.name := by
  rw [fieldFrom] at read
  split at read
  · obtain ⟨v, -, rfl⟩ := Except.map_eq_ok_iff.mp read
    rfl
  · exact (initial_of_absent read).1

/-- What the parts of data are read as conforms. -/
def PartsConform (types : RecordTypes) (type : WireType) (data : Json) : Prop :=
  ∀ inner part v, Reads types type data inner part → decode types inner (ofJson part) = .ok v →
    Conforms types inner part v

theorem conforms_list {element : WireType} (parts : PartsConform types (.list element) data)
    (present : data ≠ .null) (read : decode types (.list element) (ofJson data) = .ok v) :
    Conforms types (.list element) data v := by
  cases there : data.items? with
  | none =>
    rw [decode_list_of_no_items there present] at read
    cases read
  | some items =>
    rw [decode_list_of_items there] at read
    obtain ⟨results, all, rfl⟩ := Except.map_eq_ok_iff.mp read
    obtain ⟨pairs, rfl, rfl, each⟩ := Except.exists_pairs_of_mapM_eq_ok all
    refine .list there fun pair inside => ?_
    exact parts _ _ _ (.item there (List.mem_map_of_mem inside)) (each pair inside)

theorem conforms_map {key value : WireType} (parts : PartsConform types (.map key value) data)
    (present : data ≠ .null) (read : decode types (.map key value) (ofJson data) = .ok v) :
    Conforms types (.map key value) data v := by
  by_cases object : ∃ members, data = .obj members
  · obtain ⟨members, rfl⟩ := object
    rw [decode_map_obj] at read
    obtain ⟨entries, all, rfl⟩ := Except.map_eq_ok_iff.mp read
    -- Keys may coincide once they are read, so there are pairs for the members, not the entries.
    obtain ⟨pairs, rfl, rfl, each⟩ := exists_pairs_of_foldlM all
    refine .map (fun pair inside => ?_) (fun pair inside => ?_)
    · exact parts _ _ _ (.key (List.mem_map_of_mem inside)) (each pair inside).1
    · exact parts _ _ _ (.entry (List.mem_map_of_mem inside)) (each pair inside).2
  · rw [decode_map_of_no_object (fun members same => object ⟨members, same⟩) present] at read
    cases read

theorem conforms_record {name : String} (parts : PartsConform types (.record name) data)
    (present : data ≠ .null) (read : decode types (.record name) (ofJson data) = .ok v) :
    Conforms types (.record name) data v := by
  obtain ⟨type, found, received⟩ := received_of_decode (ofJson_ne_null present) read
  by_cases object : ∃ members, data = .obj members
  · obtain ⟨members, rfl⟩ := object
    rw [decode_record_obj found received] at read
    obtain ⟨fields, all, rfl⟩ := Except.map_eq_ok_iff.mp read
    obtain ⟨pairs, declared, rfl, each⟩ := Except.exists_pairs_of_mapM_eq_ok all
    have inside {pair : RecordField × (String × Value)} (within : pair ∈ pairs) :
        pair.1 ∈ type.fields := by
      rw [declared]
      exact List.mem_map_of_mem within
    refine .record found declared (fun pair within => name_of_fieldFrom (each pair within))
      (fun pair within data there => ?_) fun pair within none => ?_
    · have first := each pair within
      rw [fieldFrom_ofJsonFields, there] at first
      obtain ⟨v, read, same⟩ := Except.map_eq_ok_iff.mp first
      rw [← same]
      exact parts _ _ _ (.field found (inside within) there) read
    · have first := each pair within
      rw [fieldFrom_ofJsonFields, none] at first
      exact (initial_of_absent first).2
  · rw [decode_record_of_no_object found received (fun members same => object ⟨members, same⟩)
      present] at read
    cases read

/-- What is read conforms: the induction is on the parts of the data that the reading goes through. -/
theorem conforms_of_decode (definite : type.Definite types)
    (read : decode types type (ofJson data) = .ok v) : Conforms types type data v := by
  induction type, data using reading_induction types generalizing v with
  | step type data ih =>
    by_cases missing : data = .null
    · rw [missing, ofJson, decode_null] at read
      cases read
      rw [missing]
      exact .null type
    · have parts : PartsConform types type data := fun inner part v reads =>
        ih inner part reads (definite.of_reads reads)
      cases type with
      | any => cases definite.itself
      | optional type =>
        rw [decode_optional] at read
        exact .optional (parts _ _ _ .optional read)
      | list element => exact conforms_list parts missing read
      | map key value => exact conforms_map parts missing read
      | record name => exact conforms_record parts missing read
      | _ => exact .scalar rfl missing (hasType_of_decode rfl (ofJson_ne_null missing) read)

/-- What data is read as conforms to the type and is null for null only. If the values that fields have
from the start are of their types, it is otherwise a value of the type in which each record has its
fields and a value for every field that is required. -/
theorem decode_conforms (definite : type.Definite types)
    (read : decode types type (ofJson data) = .ok v) :
    Conforms types type data v ∧ (v = .null ↔ data = .null) ∧
      (type.InitialsFit types → (v ≠ .null → HasType types type v) ∧
        ∀ name fields, HasRecord name fields v → ∃ record, types.find? name = some record ∧
          fields.map (·.1) = record.fields.map (·.name) ∧
          ∀ pair ∈ record.fields.zip fields, pair.1.required = true → pair.2.2 ≠ .null) := by
  have conforms := conforms_of_decode definite read
  exact ⟨conforms, conforms.null_iff, fun fit => ⟨conforms.hasType fit, fun name fields inside =>
    fields_of_hasRecord inside (conforms.hasType fit inside.ne_null)⟩⟩

end Decode

/-- Tags and lists of them, with counts under numbers. -/
def listingTypes : RecordTypes := [
  { name := "Tag", sent := false, received := true
    fields := [
      { name := "key", wire := "Key", type := .str, required := true },
      { name := "value", wire := "Value", type := .optional .str }] },
  { name := "Listing", sent := false, received := true
    fields := [
      { name := "items", wire := "Items", type := .list (.record "Tag"), required := true },
      { name := "counts", wire := "Counts", type := .optional (.map .int .int) },
      { name := "total", wire := "Total", type := .optional .float },
      { name := "shown", wire := "Shown", type := .bool, initial := .bool true }] }]

/-- A number where a text is called for, an unknown member, a null item, two texts of one number. -/
def listingData : Json := .obj [
  ("Items", .arr [.obj [("Key", .int 7), ("Mood", .bool true)], .null]),
  ("Counts", .obj [("1", .str "2"), ("01", .int 3)]), ("Total", .null)]

def listing : Value := .record "Listing" [
  ("items", .list [.record "Tag" [("key", .str "7"), ("value", .null)], .null]),
  ("counts", .map [(.int 1, .int 3)]), ("total", .null), ("shown", .bool true)]

theorem decode_listingData :
    decode listingTypes (.record "Listing") (ofJson listingData) = .ok listing := by cbv

theorem definite_listing : WireType.Definite listingTypes (.record "Listing") := by
  have each : ∀ record ∈ listingTypes, ∀ field ∈ record.fields, field.type.isDefinite = true := by
    decide
  exact ⟨rfl, fun _ _ _ _ record found => each record (List.mem_of_find?_eq_some found)⟩

theorem initialsFit_listing : WireType.InitialsFit listingTypes (.record "Listing") := by
  have each : ∀ record ∈ listingTypes, ∀ field ∈ record.fields, field.initial ≠ .null →
      HasType listingTypes field.type field.initial := by
    have shown : HasType listingTypes .bool (.bool true) := .bool true
    simpa [listingTypes] using shown
  exact fun _ _ _ _ record found => each record (List.mem_of_find?_eq_some found)

theorem listing_conforms : WireType.Definite listingTypes (.record "Listing") ∧
    decode listingTypes (.record "Listing") (ofJson listingData) = .ok listing ∧
    Conforms listingTypes (.record "Listing") listingData listing ∧
    WireType.InitialsFit listingTypes (.record "Listing") ∧
    HasType listingTypes (.record "Listing") listing := by
  have conforms := decode_conforms definite_listing decode_listingData
  exact ⟨definite_listing, decode_listingData, conforms.1, initialsFit_listing,
    (conforms.2.2 initialsFit_listing).1 nofun⟩

end Payload

end ServiceClient
