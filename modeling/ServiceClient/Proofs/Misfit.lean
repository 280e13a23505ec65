import ServiceClient.Proofs.DataReading

/-!
Lists, maps and records that meet data of another kind. What goes wrong where the reading of data comes
to is what it ends with, so a map or a record that is met there by anything but an object and null makes
it fail, and so does a list by a number or a truth value: the record with a report of what was expected,
the others with the mismatch alone. A list that is met by a text or an object makes nothing fail, for it
takes the characters of the one and the names of the other for its items.
-/

namespace ServiceClient

open Value

namespace Payload

open Json

variable {types : RecordTypes} {type inner : WireType} {data part : Json}

/-- The reading of data comes to a part of it: all that is read before that part has been read. -/
inductive ComesTo (types : RecordTypes) : WireType → Json → WireType → Json → Prop
  | optional {type : WireType} {data : Json} : ComesTo types (.optional type) data type data
  | item {element : WireType} {data item : Json} {before after : List Json} {read : List Value} :
      data.items? = some (before ++ item :: after) →
      (before.mapM fun item => decode types element (ofJson item)) = .ok read →
      ComesTo types (.list element) data element item
  | key {key value : WireType} {before after : List (String × Json)} {member : String × Json}
      {read : List (Value × Value)} :
      (ofJsonFields before).foldlM (readEntry types key value) [] = .ok read →
      ComesTo types (.map key value) (.obj (before ++ member :: after)) key (.str member.1)
  | entry {key value : WireType} {before after : List (String × Json)} {member : String × Json}
      {read : List (Value × Value)} {k : Value} :
      (ofJsonFields before).foldlM (readEntry types key value) [] = .ok read →
      decode types key (.str member.1) = .ok k →
      ComesTo types (.map key value) (.obj (before ++ member :: after)) value member.2
  | field {name : String} {type : RecordType} {members : List (String × Json)}
      {before after : List RecordField} {field : RecordField} {read : List (String × Value)}
      {data : Json} :
      types.find? name = some type → type.received = true →
      type.fields = before ++ field :: after →
      before.mapM (fieldFrom types name (ofJsonFields members)) = .ok read →
      present? field.wire members = some data →
      ComesTo types (.record name) (.obj members) field.type data

/-- The reading of data comes to parts of its parts. -/
inductive Reaches (types : RecordTypes) : WireType → Json → WireType → Json → Prop
  | here (type : WireType) (data : Json) : Reaches types type data type data
  | further {type middle inner : WireType} {data between part : Json} :
      ComesTo types type data middle between → Reaches types middle between inner part →
      Reaches types type data inner part

theorem decode_map_error {key value : WireType} {before after : List (String × Json)}
    {member : String × Json} {read : List (Value × Value)} {e : DecodeError}
    (done : (ofJsonFields before).foldlM (readEntry types key value) [] = .ok read)
    (failed : readEntry types key value read (.str member.1, ofJson member.2) = .error e) :
    decode types (.map key value) (ofJson (.obj (before ++ member :: after))) = .error e := by
  rw [decode_map_obj, ofJsonFields_eq_map, List.map_append, ← ofJsonFields_eq_map,
    List.foldlM_append, done, List.map_cons, Except.ok_bind, List.foldlM_cons, failed]
  rfl

/-- What goes wrong with the part that a reading comes to goes wrong with the whole. -/
theorem decode_eq_error_of_comesTo {e : DecodeError} (comes : ComesTo types type data inner part)
    (failed : decode types inner (ofJson part) = .error e) :
    decode types type (ofJson data) = .error e := by
  cases comes with
  | optional => rw [decode_optional, failed]
  | item there read =>
    rw [decode_list_of_items there, Except.mapM_append_cons_eq_error read failed]
    rfl
  | key done =>
    refine decode_map_error done ?_
    rw [ofJson] at failed
    rw [readEntry, failed]
    rfl
  | entry done isKey =>
    refine decode_map_error done ?_
    rw [readEntry, isKey, failed]
    rfl
  | field found received declared done there =>
    rw [decode_record_obj found received, declared]
    rw [Except.mapM_append_cons_eq_error done ?_]
    · rfl
    · rw [fieldFrom_ofJsonFields, there]
      dsimp only
      rw [failed]
      rfl

theorem decode_eq_error_of_reaches {e : DecodeError} (reaches : Reaches types type data inner part)
    (failed : decode types inner (ofJson part) = .error e) :
    decode types type (ofJson data) = .error e := by
  induction reaches with
  | here => exact failed
  | further comes _ ih => exact decode_eq_error_of_comesTo comes (ih failed)

/-- Where a record meets anything but an object and null, the report tells which record and what. -/
theorem record_misfit_reported {name : String} {record : RecordType}
    (reaches : Reaches types type data (.record name) part) (found : types.find? name = some record)
    (received : record.received = true) (noObject : ∀ members, part ≠ .obj members)
    (present : part ≠ .null) :
    decode types type (ofJson data) = .error (.notAnObject name (ofJson part).kind) :=
  decode_eq_error_of_reaches reaches (decode_record_of_no_object found received noObject present)

theorem map_misfit_fails {key value : WireType}
    (reaches : Reaches types type data (.map key value) part)
    (noObject : ∀ members, part ≠ .obj members) (present : part ≠ .null) :
    decode types type (ofJson data) = .error (.mismatch .noEntries) :=
  decode_eq_error_of_reaches reaches (decode_map_of_no_object noObject present)

theorem list_misfit_fails {element : WireType} (reaches : Reaches types type data (.list element) part)
    (noItems : part.items? = none) (present : part ≠ .null) :
    decode types type (ofJson data) = .error (.mismatch .noItems) :=
  decode_eq_error_of_reaches reaches (decode_list_of_no_items noItems present)

/-- A text is taken for the array of its characters and an object for the array of its names. -/
theorem decode_list_eq_arr {element : WireType} {items : List Json}
    (there : data.items? = some items) :
    decode types (.list element) (ofJson data) = decode types (.list element) (ofJson (.arr items)) := by
  have same : (Json.arr items).items? = some items := rfl
  rw [decode_list_of_items there, decode_list_of_items same]

example : decode [] (.list .str) (ofJson (.str "ab")) = .ok (.list [.str "a", .str "b"]) := by cbv

end Payload

end ServiceClient
