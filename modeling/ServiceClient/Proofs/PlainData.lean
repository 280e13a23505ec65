import ServiceClient.Proofs.WireRoundTrip

/-!
What values are sent as. The data has distinct names in its objects, at any depth, and is sent as
itself. A value is refused only for one of the parts that are sent as data: a record that may not be
sent, a key that has no text, or something other than octets in a field of octets. So a value whose
fields of octets hold octets or nothing is sent if its records may be and its keys have texts.
-/

namespace ServiceClient

open Value

namespace Value

/-- Plain data among values: no octets, tuples or records, and maps with distinct texts for keys. -/
inductive IsPlain : Value → Prop
  | null : IsPlain .null
  | bool (b : Bool) : IsPlain (.bool b)
  | int (n : Int) : IsPlain (.int n)
  | float (x : Binary64) : IsPlain (.float x)
  | str (s : String) : IsPlain (.str s)
  | list {items : List Value} : (∀ item ∈ items, IsPlain item) → IsPlain (.list items)
  | map {members : List (String × Value)} : (members.map (·.1)).Nodup →
      (∀ member ∈ members, IsPlain member.2) →
      IsPlain (.map (members.map fun member => (.str member.1, member.2)))

/-- The parts that a value is made of, keys apart. -/
inductive IsPart : Value → Value → Prop
  | item {items : List Value} {item : Value} : item ∈ items → IsPart item (.list items)
  | component {items : List Value} {item : Value} : item ∈ items → IsPart item (.tuple items)
  | entry {entries : List (Value × Value)} {entry : Value × Value} : entry ∈ entries →
      IsPart entry.2 (.map entries)
  | field {type : String} {fields : List (String × Value)} {field : String × Value} :
      field ∈ fields → IsPart field.2 (.record type fields)

theorem IsPart.sizeOf_lt {part v : Value} (inside : IsPart part v) : sizeOf part < sizeOf v := by
  cases inside with
  | item inside =>
    have := List.sizeOf_lt_of_mem inside
    rw [Value.list.sizeOf_spec]
    omega
  | component inside =>
    have := List.sizeOf_lt_of_mem inside
    rw [Value.tuple.sizeOf_spec]
    omega
  | @entry entries entry inside =>
    obtain ⟨key, v⟩ := entry
    have := List.sizeOf_lt_of_mem inside
    rw [Prod.mk.sizeOf_spec] at this
    show sizeOf v < _
    rw [Value.map.sizeOf_spec]
    omega
  | @field type fields field inside =>
    obtain ⟨name, v⟩ := field
    have := List.sizeOf_lt_of_mem inside
    rw [Prod.mk.sizeOf_spec] at this
    show sizeOf v < _
    rw [Value.record.sizeOf_spec]
    omega

/-- What holds of a value whenever it holds of its parts holds of every value. -/
theorem part_induction {motive : Value → Prop}
    (step : ∀ v, (∀ part, IsPart part v → motive part) → motive v) (v : Value) : motive v :=
  step v fun part _ => part_induction step part
termination_by sizeOf v
decreasing_by exact IsPart.sizeOf_lt ‹_›

end Value

namespace Json

/-- The names of each object, at any depth, are distinct. -/
inductive NamesApart : Json → Prop
  | null : NamesApart .null
  | bool (b : Bool) : NamesApart (.bool b)
  | int (n : Int) : NamesApart (.int n)
  | float (x : Binary64) : NamesApart (.float x)
  | str (s : String) : NamesApart (.str s)
  | arr {items : List Json} : (∀ item ∈ items, NamesApart item) → NamesApart (.arr items)
  | obj {members : List (String × Json)} : (members.map (·.1)).Nodup →
      (∀ member ∈ members, NamesApart member.2) → NamesApart (.obj members)

theorem NamesApart.isPlain {data : Json} (apart : data.NamesApart) : (ofJson data).IsPlain := by
  induction apart with
  | null => exact .null
  | bool b => exact .bool b
  | int n => exact .int n
  | float x => exact .float x
  | str s => exact .str s
  | arr _ ih =>
    rw [ofJson, ofJsonItems_eq_map]
    exact .list (List.forall_mem_map.mpr ih)
  | @obj members distinct _ ih =>
    have plain : (Value.map ((members.map fun member => (member.1, ofJson member.2)).map
        fun member => (.str member.1, member.2))).IsPlain :=
      .map (by rw [List.map_map]; exact distinct) (List.forall_mem_map.mpr ih)
    rw [List.map_map] at plain
    rw [ofJson, ofJsonFields_eq_map]
    exact plain

end Json

namespace RecordTypes

/-- Records of a type may be sent. -/
def Sends (types : RecordTypes) (name : String) : Prop :=
  ∃ type, types.find? name = some type ∧ type.sent = true

end RecordTypes

namespace Payload

open Json

variable {types : RecordTypes}

/-! ### Records that are sent -/

theorem encode_record_of_not_sends {name : String} (unmarked : ¬ types.Sends name)
    (fields : List (String × Value)) :
    encode types (.record name fields) = .error (.notSent name) := by
  rw [encode]
  cases found : types.find? name with
  | none => rfl
  | some type =>
    have refused : ¬ type.sent = true := fun sent => unmarked ⟨type, found, sent⟩
    exact if_neg refused

theorem sends_of_encode {name : String} {fields : List (String × Value)}
    (sent : ∃ data, encode types (.record name fields) = .ok data) : types.Sends name := by
  by_contra unmarked
  obtain ⟨data, sent⟩ := sent
  rw [encode_record_of_not_sends unmarked] at sent
  cases sent

/-! ### Data that is sent as itself -/

theorem encode_of_namesApart {data : Json} (apart : data.NamesApart) :
    encode types (ofJson data) = .ok data := by
  induction apart with
  | arr _ ih =>
    rw [ofJson, ofJsonItems_eq_map, encode, encodeItems_eq_mapM, Except.mapM_eq_ok_iff.mpr
      (List.forall₂_map_left_iff.mpr (List.forall₂_same.mpr ih))]
    rfl
  | @obj members distinct _ ih =>
    have each : ((ofJsonFields members).mapM (memberOfEntry types)) = .ok members := by
      rw [ofJsonFields_eq_map, Except.mapM_eq_ok_iff, List.forall₂_map_left_iff, List.forall₂_same]
      exact fun member inside => memberOfEntry_eq_ok_iff.mpr ⟨rfl, ih member inside⟩
    rw [ofJson, encode, encodeEntries_eq_mapM, each]
    exact congrArg (Except.ok ∘ Json.obj) (Pairs.distinct_of_nodup distinct)
  | _ => rfl

theorem namesApart_obj_distinct {members : List (String × Json)}
    (each : ∀ member ∈ members, NamesApart member.2) : NamesApart (.obj (Pairs.distinct members)) :=
  .obj (Pairs.nodup_distinct members) fun member inside => each member (Pairs.mem_of_mem_distinct inside)

theorem namesApart_of_items {items : List Value} {data : Json}
    (each : ∀ item ∈ items, ∀ data, encode types item = .ok data → data.NamesApart)
    (sent : (encodeItems types items).map .arr = .ok data) : data.NamesApart := by
  rw [encodeItems_eq_mapM] at sent
  obtain ⟨datas, all, rfl⟩ := Except.map_eq_ok_iff.mp sent
  refine .arr fun data inside => ?_
  obtain ⟨item, within, first⟩ := Except.mem_of_mapM_eq_ok all inside
  exact each item within data first

/-- Data of a member is text or the data of the value of the field. -/
theorem namesApart_of_encodeField {field : RecordField} {v : Value} {plain : Except EncodeError Json}
    {member : String × Json} (apart : ∀ data, plain = .ok data → data.NamesApart)
    (sent : encodeField field v plain = .ok (some member)) : member.2.NamesApart := by
  rw [encodeField] at sent
  split at sent
  · cases sent
  · split at sent
    · split at sent <;> cases sent
      exact .str _
    · obtain ⟨data, encoded, same⟩ := Except.map_eq_ok_iff.mp sent
      cases same
      exact apart data encoded

/-- Data that is sent has distinct names in its objects: the induction is on the parts of the value. -/
theorem namesApart_of_encode {v : Value} {data : Json} (sent : encode types v = .ok data) :
    data.NamesApart := by
  induction v using part_induction generalizing data with
  | step v ih =>
    cases v with
    | null => cases sent; exact .null
    | bool b => cases sent; exact .bool b
    | int n => cases sent; exact .int n
    | float x => cases sent; exact .float x
    | str s => cases sent; exact .str s
    | bytes octets => cases sent; exact .str _
    | list items =>
      rw [encode] at sent
      exact namesApart_of_items (fun item inside _ => ih item (.item inside)) sent
    | tuple items =>
      rw [encode] at sent
      exact namesApart_of_items (fun item inside _ => ih item (.component inside)) sent
    | map entries =>
      rw [encode, encodeEntries_eq_mapM] at sent
      obtain ⟨members, all, rfl⟩ := Except.map_eq_ok_iff.mp sent
      refine namesApart_obj_distinct fun member inside => ?_
      obtain ⟨entry, within, first⟩ := Except.mem_of_mapM_eq_ok all inside
      exact ih entry.2 (.entry within) (memberOfEntry_eq_ok_iff.mp first).2
    | record name fields =>
      obtain ⟨type, found, marked⟩ := sends_of_encode ⟨data, sent⟩
      rw [encode_record found marked, encodeFields_eq_mapM_given] at sent
      obtain ⟨members, all, rfl⟩ := Except.map_eq_ok_iff.mp sent
      obtain ⟨parts, each, rfl⟩ := Except.map_eq_ok_iff.mp all
      refine namesApart_obj_distinct fun member inside => ?_
      obtain ⟨given, within, first⟩ :=
        Except.mem_of_mapM_eq_ok each (List.reduceOption_mem_iff.mp inside)
      rw [memberOfGiven] at first
      split at first
      · exact namesApart_of_encodeField (fun data => ih given.2 (.field within)) first
      · cases first

/-! ### Values that are refused -/

/-- A part of a value is sent as data: it is the value or stands in it, but not in a field of octets. -/
inductive Carries (types : RecordTypes) (part : Value) : Value → Prop
  | self : Carries types part part
  | item {items : List Value} {item : Value} : item ∈ items → Carries types part item →
      Carries types part (.list items)
  | component {items : List Value} {item : Value} : item ∈ items → Carries types part item →
      Carries types part (.tuple items)
  | entry {entries : List (Value × Value)} {entry : Value × Value} : entry ∈ entries →
      Carries types part entry.2 → Carries types part (.map entries)
  | field {name : String} {type : RecordType} {field : RecordField} {fields : List (String × Value)}
      {given : String × Value} :
      types.find? name = some type → given ∈ fields → type.field? given.1 = some field →
      field.blob = false → Carries types part given.2 → Carries types part (.record name fields)

/-- A part is refused for itself. -/
inductive Refuses (types : RecordTypes) : Value → EncodeError → Prop
  | notSent {name : String} {fields : List (String × Value)} : ¬ types.Sends name →
      Refuses types (.record name fields) (.notSent name)
  | key {entries : List (Value × Value)} {entry : Value × Value} : entry ∈ entries →
      entry.1.writable = false → Refuses types (.map entries) (.mismatch .numeral)
  | blob {name : String} {type : RecordType} {field : RecordField} {fields : List (String × Value)}
      {given : String × Value} {e : Mismatch} :
      types.find? name = some type → given ∈ fields → type.field? given.1 = some field →
      field.blob = true → given.2 ≠ .null → given.2.toOctets = .error e →
      Refuses types (.record name fields) (.mismatch e)

theorem refused_item {items : List Value} {e : EncodeError}
    (failed : (encodeItems types items).map Json.arr = .error e) :
    ∃ item ∈ items, encode types item = .error e := by
  rw [Except.map_eq_error_iff, encodeItems_eq_mapM] at failed
  exact Except.error_of_mapM_eq_error failed

theorem items_succeed_iff {items : List Value} :
    (∃ data, (encodeItems types items).map Json.arr = .ok data) ↔
      ∀ item ∈ items, ∃ data, encode types item = .ok data := by
  rw [Except.map_succeeds_iff, encodeItems_eq_mapM, Except.mapM_succeeds_iff]

theorem memberOfEntry_eq_error {entry : Value × Value} {e : EncodeError}
    (failed : memberOfEntry types entry = .error e) :
    (entry.1.writable = false ∧ e = .mismatch .numeral) ∨ encode types entry.2 = .error e := by
  rw [memberOfEntry] at failed
  cases fits : entry.1.writable with
  | false =>
    rw [textOf, keyText?, fits] at failed
    cases failed
    exact .inl ⟨rfl, rfl⟩
  | true =>
    rw [textOf_eq_ok_iff.mpr ⟨fits, rfl⟩, Except.ok_bind] at failed
    cases encoded : encode types entry.2 with
    | ok data => rw [encoded] at failed; cases failed
    | error cause =>
      rw [encoded] at failed
      cases failed
      exact .inr rfl

theorem encodeField_eq_error {field : RecordField} {v : Value} {e : EncodeError}
    (failed : encodeField field v (encode types v) = .error e) :
    (field.blob = true ∧ v ≠ .null ∧ ∃ cause, v.toOctets = .error cause ∧ e = .mismatch cause) ∨
      (field.blob = false ∧ encode types v = .error e) := by
  by_cases missing : v = .null
  · subst missing
    rw [encodeField_null, encode] at failed
    split at failed <;> cases failed
  · cases blob : field.blob with
    | true =>
      rw [encodeField_octets _ blob missing] at failed
      cases octets : v.toOctets with
      | ok octets => simp [octets] at failed
      | error cause =>
        rw [octets] at failed
        cases failed
        exact .inl ⟨rfl, missing, cause, rfl, rfl⟩
    | false =>
      rw [encodeField_plain _ blob missing, Except.map_eq_error_iff] at failed
      exact .inr ⟨rfl, failed⟩

theorem writable_of_encode {entries : List (Value × Value)}
    (sent : ∃ data, encode types (.map entries) = .ok data) :
    ∀ entry ∈ entries, entry.1.writable = true := by
  intro entry inside
  rw [encode, Except.map_succeeds_iff, encodeEntries_eq_mapM, Except.mapM_succeeds_iff] at sent
  obtain ⟨member, first⟩ := sent entry inside
  rw [memberOfEntry, Except.bind_eq_ok_iff] at first
  obtain ⟨text, written, _⟩ := first
  exact (textOf_eq_ok_iff.mp written).1

/-- What a value is refused for is one of the parts that it carries: the induction follows the part that
fails down to where it is refused for itself. -/
theorem refused_part_of_encode {v : Value} {e : EncodeError} (failed : encode types v = .error e) :
    ∃ part, Carries types part v ∧ Refuses types part e := by
  induction v using part_induction generalizing e with
  | step v ih =>
    cases v with
    | null | bool | int | float | str | bytes => cases failed
    | list items =>
      rw [encode] at failed
      obtain ⟨item, inside, failed⟩ := refused_item failed
      obtain ⟨part, carried, refused⟩ := ih item (.item inside) failed
      exact ⟨part, .item inside carried, refused⟩
    | tuple items =>
      rw [encode] at failed
      obtain ⟨item, inside, failed⟩ := refused_item failed
      obtain ⟨part, carried, refused⟩ := ih item (.component inside) failed
      exact ⟨part, .component inside carried, refused⟩
    | map entries =>
      rw [encode, Except.map_eq_error_iff, encodeEntries_eq_mapM] at failed
      obtain ⟨entry, inside, failed⟩ := Except.error_of_mapM_eq_error failed
      rcases memberOfEntry_eq_error failed with ⟨unwritable, rfl⟩ | failed
      · exact ⟨_, .self, .key inside unwritable⟩
      · obtain ⟨part, carried, refused⟩ := ih entry.2 (.entry inside) failed
        exact ⟨part, .entry inside carried, refused⟩
    | record name fields =>
      by_cases sends : types.Sends name
      · obtain ⟨type, found, sent⟩ := sends
        rw [encode_record found sent, encodeFields_eq_mapM_given, Except.map_eq_error_iff,
          Except.map_eq_error_iff] at failed
        obtain ⟨given, inside, failed⟩ := Except.error_of_mapM_eq_error failed
        rw [memberOfGiven] at failed
        split at failed
        · rename_i field named
          rcases encodeField_eq_error failed with ⟨blob, present, cause, octets, rfl⟩ | ⟨plain, failed⟩
          · exact ⟨_, .self, .blob found inside named blob present octets⟩
          · obtain ⟨part, carried, refused⟩ := ih given.2 (.field inside) failed
            exact ⟨part, .field found inside named plain carried, refused⟩
        · cases failed
      · rw [encode_record_of_not_sends sends] at failed
        cases failed
        exact ⟨_, .self, .notSent sends⟩

theorem encode_succeeds_of_encodeField {field : RecordField} (plain : field.blob = false) {v : Value}
    {member : Option (String × Json)} (sent : encodeField field v (encode types v) = .ok member) :
    ∃ data, encode types v = .ok data := by
  by_cases missing : v = .null
  · exact ⟨.null, by rw [missing, encode]⟩
  · rw [encodeField_plain _ plain missing] at sent
    exact Except.map_succeeds_iff.mp ⟨member, sent⟩

/-- The parts that a value carries are sent with it. -/
theorem encode_succeeds_of_carries {part v : Value} (carried : Carries types part v)
    (sent : ∃ data, encode types v = .ok data) : ∃ data, encode types part = .ok data := by
  induction carried with
  | self => exact sent
  | item inside _ ih =>
    rw [encode, items_succeed_iff] at sent
    exact ih (sent _ inside)
  | component inside _ ih =>
    rw [encode, items_succeed_iff] at sent
    exact ih (sent _ inside)
  | entry inside _ ih =>
    rw [encode, Except.map_succeeds_iff, encodeEntries_eq_mapM, Except.mapM_succeeds_iff] at sent
    obtain ⟨member, first⟩ := sent _ inside
    exact ih ⟨_, (memberOfEntry_eq_ok_iff.mp first).2⟩
  | @field name type field fields given found inside named plain _ ih =>
    have sends : types.Sends name := sends_of_encode sent
    obtain ⟨type', found', marked⟩ := sends
    obtain rfl : type' = type := Option.some.inj (found'.symm.trans found)
    rw [encode_record found marked, encodeFields_eq_mapM_given, Except.map_succeeds_iff,
      Except.map_succeeds_iff, Except.mapM_succeeds_iff] at sent
    obtain ⟨member, first⟩ := sent given inside
    rw [memberOfGiven, named] at first
    exact ih (encode_succeeds_of_encodeField plain first)

/-! ### What is sent -/

/-- The fields of octets hold octets or nothing, in the parts that a value carries. -/
def BlobsHold (types : RecordTypes) (v : Value) : Prop :=
  ∀ name type fields, types.find? name = some type → Carries types (.record name fields) v →
    ∀ given ∈ fields, ∀ field, type.field? given.1 = some field → field.blob = true →
      given.2 = .null ∨ ∃ octets, given.2 = .bytes octets

/-- The records that a value carries may be sent. -/
def RecordsSend (types : RecordTypes) (v : Value) : Prop :=
  ∀ name fields, Carries types (.record name fields) v → types.Sends name

/-- The keys of the maps that a value carries have texts. -/
def KeysWritable (types : RecordTypes) (v : Value) : Prop :=
  ∀ entries, Carries types (.map entries) v → ∀ entry ∈ entries, entry.1.writable = true

/-- With octets in its fields of octets a value is refused for a record that it carries, or a key. -/
theorem cause_of_blobsHold {v : Value} {e : EncodeError} (holds : BlobsHold types v)
    (failed : encode types v = .error e) :
    (∃ name, e = .notSent name ∧ ¬ RecordsSend types v) ∨
      (e = .mismatch .numeral ∧ ¬ KeysWritable types v) := by
  obtain ⟨part, carried, refused⟩ := refused_part_of_encode failed
  cases refused with
  | @notSent name fields unmarked =>
    exact .inl ⟨name, rfl, fun send => unmarked (send name fields carried)⟩
  | @key entries entry inside unwritable =>
    refine .inr ⟨rfl, fun writable => ?_⟩
    rw [writable entries carried entry inside] at unwritable
    cases unwritable
  | @blob name type field fields given cause found inside named blob present octets =>
    -- Null is not looked into and octets are octets, so the field refuses nothing.
    rcases holds name type fields found carried given inside field named blob with null | ⟨bytes, same⟩
    · exact absurd null present
    · rw [same, toOctets] at octets
      cases octets

theorem encode_succeeds_iff_of_blobsHold {v : Value} (holds : BlobsHold types v) :
    (∃ data, encode types v = .ok data) ↔ RecordsSend types v ∧ KeysWritable types v := by
  constructor
  · intro sent
    exact ⟨fun name fields carried => sends_of_encode (encode_succeeds_of_carries carried sent),
      fun entries carried => writable_of_encode (encode_succeeds_of_carries carried sent)⟩
  · rintro ⟨send, writable⟩
    by_contra none
    obtain ⟨e, failed⟩ := Except.exists_error_iff.mpr none
    rcases cause_of_blobsHold holds failed with ⟨_, _, refused⟩ | ⟨_, refused⟩
    · exact refused send
    · exact refused writable

/-- Values are sent as plain data, which is sent as itself. They are refused as records that may not
be sent only if they carry such a record; if their fields of octets hold octets or nothing, they are
refused for nothing else but a key without a text, and sent just if there is neither. -/
theorem sent_as_plain_data (types : RecordTypes) (v : Value) :
    (∀ data, encode types v = .ok data →
      (ofJson data).IsPlain ∧ encode types (ofJson data) = .ok data) ∧
    (∀ name, encode types v = .error (.notSent name) →
      ∃ fields, Carries types (.record name fields) v ∧ ¬ types.Sends name) ∧
    (BlobsHold types v →
      (∀ e, encode types v = .error e →
        (∃ name, e = .notSent name) ∨ (e = .mismatch .numeral ∧ ¬ KeysWritable types v)) ∧
      ((∃ data, encode types v = .ok data) ↔ RecordsSend types v ∧ KeysWritable types v)) := by
  refine ⟨fun data sent => ?_, fun name failed => ?_, fun holds => ⟨fun e failed => ?_, ?_⟩⟩
  · have apart := namesApart_of_encode sent
    exact ⟨apart.isPlain, encode_of_namesApart apart⟩
  · obtain ⟨part, carried, refused⟩ := refused_part_of_encode failed
    cases refused with
    | notSent unmarked => exact ⟨_, carried, unmarked⟩
  · rcases cause_of_blobsHold holds failed with ⟨name, same, _⟩ | unwritable
    · exact .inl ⟨name, same⟩
    · exact .inr unwritable
  · exact encode_succeeds_iff_of_blobsHold holds

example : encode letterTypes (.tuple [shortLetter, .map [(.bool true, .bytes [0, 255])]]) =
    .ok (.arr [.obj [("Id", .str "b"), ("Seal", .null)], .obj [("True", .str "AP8=")]]) := by rfl

/-- A map from one number of too many digits has no record in it, and is not sent. -/
theorem long_key_is_not_sent :
    BlobsHold [] (.map [(.int firstLong, .int 1)]) ∧ RecordsSend [] (.map [(.int firstLong, .int 1)]) ∧
      ¬ ∃ data, encode [] (.map [(.int firstLong, .int 1)]) = .ok data := by
  have flat : ∀ name fields, ¬ Carries [] (.record name fields) (.map [(.int firstLong, .int 1)]) := by
    rintro name fields (_ | _ | _ | ⟨inside, carried⟩)
    obtain rfl := List.mem_singleton.mp inside
    cases carried
  refine ⟨fun name _ fields _ carried => absurd carried (flat name fields),
    fun name fields carried => absurd carried (flat name fields), fun sent => ?_⟩
  have short := writable_of_encode sent _ List.mem_cons_self
  rw [writable, decide_eq_true_iff, firstLong, Int.natAbs_natCast] at short
  exact Nat.lt_irrefl _ short

end Payload

end ServiceClient
