import ServiceClient.Proofs.WireRoundTrip

/-!
How JSON data is read by a type. Each kind of type has its equations for what it does with data, and
`Reads` tells which parts of the data it goes on to read, and by which types. Such a part is less deep
than the data, or as deep and of a smaller type, so that there is an induction over readings.
-/

namespace ServiceClient

open Value Payload

namespace Json

/-- The items that a list is read from: those of an array, the characters of a text, the names of an
object. -/
def items? : Json → Option (List Json)
  | .arr items => some items
  | .str s => some (s.toList.map fun c => .str (String.singleton c))
  | .obj members => some (members.map fun member => .str member.1)
  | _ => none

/-- The member of an object, unless it is absent or null. -/
def present? (name : String) (members : List (String × Json)) : Option Json :=
  (members.lookup name).filter fun data => !(ofJson data).isNull

theorem isNull_ofJson_iff {data : Json} : (ofJson data).isNull = true ↔ data = .null := by
  constructor
  · intro null
    by_contra present
    rw [isNull_ofJson present] at null
    cases null
  · rintro rfl
    rfl

theorem ofJson_ne_null {data : Json} (present : data ≠ .null) : ofJson data ≠ .null := by
  intro null
  have absent : (ofJson data).isNull = true := by rw [null]; rfl
  exact present (isNull_ofJson_iff.mp absent)

theorem present?_eq_some_iff {name : String} {members : List (String × Json)} {data : Json} :
    present? name members = some data ↔ members.lookup name = some data ∧ data ≠ .null := by
  rw [present?, Option.filter_eq_some_iff, Bool.not_eq_true', ← Bool.not_eq_true, isNull_ofJson_iff]

theorem items_ofJson (data : Json) :
    (ofJson data).items = match data.items? with
      | some items => .ok (items.map ofJson)
      | none => .error .noItems := by
  cases data with
  | arr items => simp [ofJson, Value.items, items?, ofJsonItems_eq_map]
  | str s => simp [ofJson, Value.items, items?]
  | obj members => simp [ofJson, Value.items, items?, ofJsonFields_eq_map]
  | _ => rfl

end Json

namespace Payload

open Json

variable {types : RecordTypes}

section Equations

variable {data : Json} {items : List Json} {members : List (String × Json)}

theorem decode_list_of_items {element : WireType} (there : data.items? = some items) :
    decode types (.list element) (ofJson data) =
      (items.mapM fun item => decode types element (ofJson item)).map .list := by
  have found : (ofJson data).items = .ok (items.map ofJson) := by rw [items_ofJson, there]
  rw [decode]
  · split
    · rename_i failed
      rw [found] at failed
      cases failed
    · rename_i same
      rw [found] at same
      cases same
      rw [decodeItems_eq_mapM, List.mapM_map]
      rfl
  · intro null
    rw [null] at found
    cases found

theorem decode_list_of_no_items {element : WireType} (none : data.items? = none)
    (present : data ≠ .null) :
    decode types (.list element) (ofJson data) = .error (.mismatch .noItems) := by
  have missing : (ofJson data).items = .error .noItems := by rw [items_ofJson, none]
  rw [decode]
  · split
    · rename_i same
      rw [missing] at same
      cases same
      rfl
    · rename_i found
      rw [missing] at found
      cases found
  · exact ofJson_ne_null present

theorem decode_map_of_no_object {key value : WireType} (noObject : ∀ members, data ≠ .obj members)
    (present : data ≠ .null) :
    decode types (.map key value) (ofJson data) = .error (.mismatch .noEntries) := by
  cases data with
  | null => exact absurd rfl present
  | obj members => exact absurd rfl (noObject members)
  | _ => rw [ofJson, decode] <;> simp

theorem decode_record_of_no_object {name : String} {type : RecordType}
    (found : types.find? name = some type) (received : type.received = true)
    (noObject : ∀ members, data ≠ .obj members) (present : data ≠ .null) :
    decode types (.record name) (ofJson data) = .error (.notAnObject name (ofJson data).kind) := by
  cases data with
  | null => exact absurd rfl present
  | obj members => exact absurd rfl (noObject members)
  | _ => rw [ofJson, decode] <;> simp [found, received]

theorem member?_ofJsonFields_eq_present? (name : String) (members : List (String × Json)) :
    member? name (ofJsonFields members) = (present? name members).map ofJson := by
  rw [member?_ofJsonFields, present?]
  cases members.lookup name with
  | none => rfl
  | some data =>
    rw [Option.map_some, Option.filter_some, Option.filter_some]
    split <;> rfl

/-- A field is read from its member, and from none if that is null. -/
theorem fieldFrom_ofJsonFields (record : String) (members : List (String × Json))
    (field : RecordField) :
    fieldFrom types record (ofJsonFields members) field =
      match present? field.wire members with
      | some data => (decode types field.type (ofJson data)).map fun v => (field.name, v)
      | none => absent record field := by
  rw [fieldFrom, member?_ofJsonFields_eq_present?]
  cases present? field.wire members <;> rfl

theorem decode_record_obj {name : String} {type : RecordType}
    (found : types.find? name = some type) (received : type.received = true) :
    decode types (.record name) (ofJson (.obj members)) =
      (type.fields.mapM (fieldFrom types name (ofJsonFields members))).map (.record name) := by
  rw [ofJson, decode_record found received, decodeFields_eq_mapM]

/-- Reads an entry and puts it into a map. -/
def readEntry (types : RecordTypes) (key value : WireType) (done : List (Value × Value))
    (entry : Value × Value) : Except DecodeError (List (Value × Value)) := do
  let k ← decode types key entry.1
  let v ← decode types value entry.2
  (insertKey k v done).mapError .mismatch

theorem decodeEntries_eq_foldlM (key value : WireType) (done entries : List (Value × Value)) :
    decodeEntries types key value done entries =
      entries.foldlM (readEntry types key value) done := by
  induction entries generalizing done with
  | nil => rw [decodeEntries]; rfl
  | cons entry rest ih =>
    rw [decodeEntries, List.foldlM_cons, readEntry]
    simp only [bind_assoc, ih]

theorem decode_map_obj (key value : WireType) (members : List (String × Json)) :
    decode types (.map key value) (ofJson (.obj members)) =
      ((ofJsonFields members).foldlM (readEntry types key value) []).map .map := by
  rw [ofJson, decode_map, decodeEntries_eq_foldlM]

end Equations

section Parts

/-- To read data as a type is to read a part of it as another type. -/
inductive Reads (types : RecordTypes) : WireType → Json → WireType → Json → Prop
  | optional {type : WireType} {data : Json} : Reads types (.optional type) data type data
  | item {element : WireType} {data item : Json} {items : List Json} :
      data.items? = some items → item ∈ items → Reads types (.list element) data element item
  | key {key value : WireType} {members : List (String × Json)} {member : String × Json} :
      member ∈ members → Reads types (.map key value) (.obj members) key (.str member.1)
  | entry {key value : WireType} {members : List (String × Json)} {member : String × Json} :
      member ∈ members → Reads types (.map key value) (.obj members) value member.2
  | field {name : String} {type : RecordType} {members : List (String × Json)}
      {field : RecordField} {data : Json} :
      types.find? name = some type → field ∈ type.fields → present? field.wire members = some data →
      Reads types (.record name) (.obj members) field.type data

theorem depth_le_depthItems {items : List Value} {item : Value} (inside : item ∈ items) :
    depth item ≤ depthItems items := by
  induction items with
  | nil => cases inside
  | cons first rest ih =>
    rw [depthItems]
    rcases List.mem_cons.mp inside with rfl | later
    · omega
    · have := ih later
      omega

theorem depth_le_depthEntries {entries : List (Value × Value)} {entry : Value × Value}
    (inside : entry ∈ entries) : depth entry.2 ≤ depthEntries entries := by
  induction entries with
  | nil => cases inside
  | cons first rest ih =>
    rw [depthEntries]
    rcases List.mem_cons.mp inside with rfl | later
    · omega
    · have := ih later
      omega

theorem depth_member_lt {members : List (String × Json)} {member : String × Json}
    (inside : member ∈ members) : depth (ofJson member.2) < depth (ofJson (.obj members)) := by
  have entry : (Value.str member.1, ofJson member.2) ∈ ofJsonFields members := by
    rw [ofJsonFields_eq_map]
    exact List.mem_map_of_mem inside
  rw [ofJson, depth]
  exact Nat.lt_succ_of_le (depth_le_depthEntries entry)

theorem Reads.smaller {type inner : WireType} {data part : Json}
    (reads : Reads types type data inner part) :
    Prod.Lex (· < ·) (· < ·) (depth (ofJson part), sizeOf inner) (depth (ofJson data), sizeOf type) := by
  cases reads with
  | optional =>
    refine .right _ ?_
    rw [WireType.optional.sizeOf_spec]
    omega
  | @item element data item items there inside =>
    have found : (ofJson data).items = .ok (items.map ofJson) := by rw [items_ofJson, there]
    have below := Nat.le_trans (depth_le_depthItems (List.mem_map_of_mem inside))
      (depthItems_le_of_items found)
    rcases Nat.lt_or_eq_of_le below with lower | same
    · exact .left _ _ lower
    · rw [same, WireType.list.sizeOf_spec]
      exact .right _ (by omega)
  | key inside => exact .left _ _ (Nat.lt_of_le_of_lt (Nat.zero_le _) (depth_member_lt inside))
  | entry inside => exact .left _ _ (depth_member_lt inside)
  | field _ _ there =>
    exact .left _ _ (depth_member_lt (Pairs.mem_of_lookup (present?_eq_some_iff.mp there).1))

/-- What holds of the reading of data whenever it holds of the reading of its parts holds of every
reading. -/
theorem reading_induction (types : RecordTypes) {motive : WireType → Json → Prop}
    (step : ∀ type data, (∀ inner part, Reads types type data inner part → motive inner part) →
      motive type data) (type : WireType) (data : Json) : motive type data :=
  step type data fun inner part _ => reading_induction types step inner part
termination_by (depth (ofJson data), sizeOf type)
decreasing_by exact Reads.smaller ‹_›

end Parts

end Payload

end ServiceClient
