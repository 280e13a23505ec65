import Mathlib.Data.List.ReduceOption
import ServiceClient.Proofs.Base64
import ServiceClient.Proofs.Numeral
import ServiceClient.Proofs.Outcome
import ServiceClient.Proofs.Pairs
import ServiceClient.Wire.Payload

/-!
What `encode` and `decode` do with the parts of a value: the items of a list, the entries of a map,
the fields of a record.
-/

namespace ServiceClient.Payload

open Value

variable {types : RecordTypes}

section Encode

theorem encodeItems_eq_mapM (items : List Value) :
    encodeItems types items = items.mapM (encode types) := by
  induction items with
  | nil => rfl
  | cons item rest ih => rw [encodeItems, ih, List.mapM_cons]

/-- The member of an object for an entry of a map. -/
def memberOfEntry (types : RecordTypes) (entry : Value × Value) :
    Except EncodeError (String × Json) := do
  let text ← textOf entry.1
  return (text, ← encode types entry.2)

theorem encodeEntries_eq_mapM (entries : List (Value × Value)) :
    encodeEntries types entries = entries.mapM (memberOfEntry types) := by
  induction entries with
  | nil => rfl
  | cons entry rest ih =>
    rw [encodeEntries, ih, List.mapM_cons, memberOfEntry]
    simp only [bind_assoc, pure_bind]

theorem isNull_of_ne_null {v : Value} (present : v ≠ .null) : v.isNull = false := by
  cases v with
  | null => exact absurd rfl present
  | _ => rfl

section Field

variable {field : RecordField} (plain : Except EncodeError Json)

theorem encodeField_null : encodeField field .null plain =
    if field.skipNull then .ok none else plain.map fun data => some (field.wire, data) := by
  cases skipped : field.skipNull <;> simp [encodeField, Value.isNull, skipped]

theorem encodeField_bytes (blob : field.blob = true) (octets : Octets) :
    encodeField field (.bytes octets) plain =
      .ok (some (field.wire, .str (Base64.encode octets))) := by
  simp [encodeField, Value.isNull, blob, toOctets]

theorem encodeField_octets (blob : field.blob = true) {v : Value} (present : v ≠ .null) :
    encodeField field v plain = match v.toOctets with
      | .ok octets => .ok (some (field.wire, .str (Base64.encode octets)))
      | .error e => .error (.mismatch e) := by
  cases octets : v.toOctets <;> simp [encodeField, isNull_of_ne_null present, blob, octets]

theorem encodeField_plain (blob : field.blob = false) {v : Value} (present : v ≠ .null) :
    encodeField field v plain = plain.map fun data => some (field.wire, data) := by
  simp [encodeField, isNull_of_ne_null present, blob]

end Field

/-- The member of an object for a field of a record and its value, unless it is left out. -/
def memberOfField (types : RecordTypes) (pair : RecordField × String × Value) :
    Except EncodeError (Option (String × Json)) :=
  encodeField pair.1 pair.2.2 (encode types pair.2.2)

/-- The member for a field of a record by the name of the field; none if there is no such field. -/
def memberOfGiven (types : RecordTypes) (type : RecordType) (given : String × Value) :
    Except EncodeError (Option (String × Json)) :=
  match type.field? given.1 with
  | some field => memberOfField types (field, given)
  | none => .ok none

theorem encodeFields_eq_mapM_given (type : RecordType) (fields : List (String × Value)) :
    encodeFields types type fields =
      (fields.mapM (memberOfGiven types type)).map List.reduceOption := by
  induction fields with
  | nil => rfl
  | cons given rest ih =>
    rw [encodeFields, ih, List.mapM_cons, memberOfGiven]
    cases type.field? given.1 with
    | none =>
      simp only [Except.ok_bind]
      cases rest.mapM (memberOfGiven types type) <;> rfl
    | some field =>
      simp only [memberOfField]
      cases encodeField field given.2 (encode types given.2) with
      | error e => rfl
      | ok part =>
        cases rest.mapM (memberOfGiven types type) with
        | error e => rfl
        | ok parts => cases part <;> rfl

/-- Values that stand for fields of the record give the members of those fields. -/
theorem encodeFields_eq_mapM {type : RecordType} {pairs : List (RecordField × String × Value)}
    (declared : ∀ pair ∈ pairs, type.field? pair.2.1 = some pair.1) :
    encodeFields types type (pairs.map (·.2)) =
      (pairs.mapM (memberOfField types)).map List.reduceOption := by
  rw [encodeFields_eq_mapM_given, List.mapM_map]
  refine congrArg (Except.map List.reduceOption) (Except.mapM_congr fun pair inside => ?_)
  simp only [Function.comp_apply, memberOfGiven, declared pair inside]

theorem encode_record {name : String} {type : RecordType} (found : types.find? name = some type)
    (sent : type.sent = true) (fields : List (String × Value)) :
    encode types (.record name fields) =
      (encodeFields types type fields).map fun members => .obj (Pairs.distinct members) := by
  rw [encode, found]
  exact if_pos sent

theorem wire_of_memberOfField {pair : RecordField × String × Value} {member : String × Json}
    (sent : memberOfField types pair = .ok (some member)) : member.1 = pair.1.wire := by
  unfold memberOfField encodeField at sent
  split at sent
  · cases sent
  · split at sent
    · split at sent
      · cases sent
        rfl
      · cases sent
    · obtain ⟨data, _, same⟩ := Except.map_eq_ok_iff.mp sent
      cases same
      rfl

/-- The members of the fields of a record have the wire names of their fields. -/
theorem wires_sublist {pairs : List (RecordField × String × Value)}
    {parts : List (Option (String × Json))} (sent : pairs.mapM (memberOfField types) = .ok parts) :
    (parts.reduceOption.map (·.1)).Sublist (pairs.map fun pair => pair.1.wire) := by
  have each := Except.mapM_eq_ok_iff.mp sent
  clear sent
  induction each with
  | nil => exact .slnil
  | @cons pair part _ _ first _ ih =>
    cases part with
    | none => exact ih.cons _
    | some member =>
      rw [List.map_cons, List.reduceOption_cons_of_some, List.map_cons, wire_of_memberOfField first]
      exact ih.cons_cons _

/-- With distinct wire names the member of a field is found by its wire name. -/
theorem lookup_wire {pairs : List (RecordField × String × Value)}
    {parts : List (Option (String × Json))} (distinct : (pairs.map fun pair => pair.1.wire).Nodup)
    (sent : pairs.mapM (memberOfField types) = .ok parts) {pair : RecordField × String × Value}
    (inside : pair ∈ pairs) : ∃ part, memberOfField types pair = .ok part ∧
      parts.reduceOption.lookup pair.1.wire = part.map (·.2) := by
  obtain ⟨part, within, first⟩ := Except.result_mem_of_mapM_eq_ok sent inside
  refine ⟨part, first, ?_⟩
  cases part with
  | some member =>
    rw [← wire_of_memberOfField first]
    exact Pairs.lookup_of_mem (distinct.sublist (wires_sublist sent))
      (List.reduceOption_mem_iff.mpr within)
  | none =>
    cases found : parts.reduceOption.lookup pair.1.wire with
    | none => rfl
    | some data =>
      obtain ⟨other, later, second⟩ := Except.mem_of_mapM_eq_ok sent
        (List.reduceOption_mem_iff.mp (Pairs.mem_of_lookup found))
      have wires : other.1.wire = pair.1.wire := (wire_of_memberOfField second).symm
      have same : other = pair := List.inj_on_of_nodup_map distinct later inside wires
      rw [same, first] at second
      cases second

theorem encode_ne_null {v : Value} {data : Json} (present : v ≠ .null)
    (sent : encode types v = .ok data) : data ≠ .null := by
  rintro rfl
  cases v with
  | null => exact present rfl
  | record name fields =>
    rw [encode] at sent
    split at sent
    · cases sent
    · split at sent
      · simp at sent
      · cases sent
  | _ => simp [encode] at sent

end Encode

section Decode

theorem decode_null (type : WireType) : decode types type .null = .ok .null := by
  cases type <;> rw [decode]

theorem decode_optional (type : WireType) (data : Value) :
    decode types (.optional type) data = decode types type data := by
  cases data with
  | null => rw [decode_null, decode_null]
  | _ =>
    rw [decode]
    simp

theorem decode_list (element : WireType) (items : List Value) :
    decode types (.list element) (.list items) = (decodeItems types element items).map .list := by
  rw [decode]
  · simp [Value.items]
  · simp

theorem decode_map (key value : WireType) (entries : List (Value × Value)) :
    decode types (.map key value) (.map entries) =
      (decodeEntries types key value [] entries).map .map := by
  rw [decode]

theorem decodeItems_eq_mapM (element : WireType) (items : List Value) :
    decodeItems types element items = items.mapM (decode types element) := by
  induction items with
  | nil => rw [decodeItems]; rfl
  | cons item rest ih => rw [decodeItems, ih, List.mapM_cons]

/-- The value of a field from the members of an object. -/
def fieldFrom (types : RecordTypes) (record : String) (entries : List (Value × Value))
    (field : RecordField) : Except DecodeError (String × Value) :=
  match member? field.wire entries with
  | some data => (decode types field.type data).map fun v => (field.name, v)
  | none => absent record field

theorem decodeFields_eq_mapM (record : String) (entries : List (Value × Value))
    (fields : List RecordField) :
    decodeFields types record entries fields = fields.mapM (fieldFrom types record entries) := by
  induction fields with
  | nil => rw [decodeFields]; rfl
  | cons field rest ih =>
    rw [decodeFields, ih, List.mapM_cons, fieldFrom]
    cases member? field.wire entries with
    | none => rfl
    | some data =>
      dsimp only
      cases decode types field.type data <;> rfl

theorem insertEntry_of_fresh {key v : Value} {entries : List (Value × Value)}
    (fresh : ∀ entry ∈ entries, sameKey entry.1 key = false) :
    insertEntry key v entries = entries ++ [(key, v)] := by
  induction entries with
  | nil => rfl
  | cons entry rest ih =>
    obtain ⟨other, old⟩ := entry
    have different : sameKey other key = false := fresh _ List.mem_cons_self
    rw [insertEntry, different, ih fun entry inside => fresh entry (List.mem_cons_of_mem _ inside)]
    rfl

/-- Entries with distinct keys are put one behind the other. -/
theorem decodeEntries_eq_ok {key value : WireType} {entries read : List (Value × Value)}
    (done : List (Value × Value))
    (each : List.Forall₂ (fun entry result => decode types key entry.1 = .ok result.1 ∧
      decode types value entry.2 = .ok result.2) entries read)
    (keys : ∀ entry ∈ read, entry.1.isKey = true)
    (distinct : (done ++ read).Pairwise fun first second => sameKey first.1 second.1 = false) :
    decodeEntries types key value done entries = .ok (done ++ read) := by
  induction each generalizing done with
  | nil => rw [decodeEntries, List.append_nil]
  | @cons entry result _ rest first _ ih =>
    have fresh : ∀ old ∈ done, sameKey old.1 result.1 = false := fun old inside =>
      (List.pairwise_append.mp distinct).2.2 old inside result List.mem_cons_self
    have inserted : insertKey result.1 result.2 done = .ok (done ++ [result]) := by
      rw [insertKey, if_pos (keys result List.mem_cons_self), insertEntry_of_fresh fresh]
    rw [decodeEntries, first.1, first.2]
    simp only [Except.ok_bind, inserted, Except.mapError]
    have others : ∀ entry ∈ rest, entry.1.isKey = true := fun entry inside =>
      keys entry (List.mem_cons_of_mem _ inside)
    rw [ih _ others (by simpa using distinct), List.append_assoc]
    rfl

theorem decode_record {name : String} {type : RecordType} (found : types.find? name = some type)
    (received : type.received = true) (entries : List (Value × Value)) :
    decode types (.record name) (.map entries) =
      (decodeFields types name entries type.fields).map (.record name) := by
  rw [decode] <;> simp [found, received]

end Decode

end ServiceClient.Payload
