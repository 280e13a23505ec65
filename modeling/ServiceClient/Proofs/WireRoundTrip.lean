import ServiceClient.Proofs.Payload
import ServiceClient.Proofs.WireTyping

/-!
What is sent is received unchanged. A value of a record type that goes both ways comes back from its
JSON data, and has such data unless a map in it has a whole number with too many digits as a key.
-/

namespace ServiceClient

open Value Payload

variable {types : RecordTypes}

namespace Value

theorem ofJsonItems_eq_map (items : List Json) : ofJsonItems items = items.map ofJson := by
  induction items with
  | nil => rfl
  | cons item rest ih => rw [ofJsonItems, ih, List.map_cons]

theorem ofJsonFields_eq_map (members : List (String × Json)) :
    ofJsonFields members = members.map fun member => (.str member.1, ofJson member.2) := by
  induction members with
  | nil => rfl
  | cons member rest ih => rw [ofJsonFields, ih, List.map_cons]

theorem isNull_ofJson {data : Json} (present : data ≠ .null) : (ofJson data).isNull = false := by
  cases data with
  | null => exact absurd rfl present
  | _ => rfl

end Value

section Keys

theorem textOf_eq_ok_iff {key : Value} {text : String} :
    textOf key = .ok text ↔ key.writable = true ∧ key.display = text := by
  by_cases fits : key.writable = true <;> simp [textOf, keyText?, fits]

theorem textOf_int_succeeds_iff (n : Int) :
    (∃ text, textOf (.int n) = .ok text) ↔ n.natAbs < Numeral.limit := by
  simp only [textOf_eq_ok_iff, writable, decide_eq_true_eq, exists_and_left, exists_eq', and_true]

/-- The text of a key is read back as the key. -/
theorem decode_textOf {type : WireType} {key : Value} {text : String} (isKey : type.isKey = true)
    (typed : HasType types type key) (named : textOf key = .ok text) :
    decode types type (.str text) = .ok key := by
  obtain ⟨fits, rfl⟩ := textOf_eq_ok_iff.mp named
  cases typed with
  | str s =>
    rw [decode]
    · rfl
    · simp
  | int n =>
    rw [writable, decide_eq_true_eq] at fits
    have read : (Value.str (display (.int n))).toInt = .ok n := by
      show toInt.ofOption (Numeral.readInt? (toString n).toList) = .ok n
      rw [Numeral.readInt?_toString, if_pos fits]
      rfl
    rw [decode, read]
    · rfl
    · simp
  | bool b =>
    have read : (Value.str (display (.bool b))).toBool = b := by
      cases b <;> rfl
    rw [decode, read]
    simp
  | _ => cases isKey

theorem isKey_of_hasType {type : WireType} {key : Value} (isKey : type.isKey = true)
    (typed : HasType types type key) : key.isKey = true := by
  cases typed with
  | str | int | bool => rfl
  | _ => cases isKey

theorem sameKey_self {type : WireType} {key : Value} (isKey : type.isKey = true)
    (typed : HasType types type key) : sameKey key key = true := by
  cases typed with
  | str s => simp [sameKey]
  | int n => simp [sameKey, asNumber?, sameNumber]
  | bool b => simp [sameKey, asNumber?, sameNumber]
  | _ => cases isKey

end Keys

section Entries

variable {key value : WireType} {entries : List (Value × Value)} {members : List (String × Json)}

theorem memberOfEntry_eq_ok_iff {entry : Value × Value} {member : String × Json} :
    memberOfEntry types entry = .ok member ↔
      textOf entry.1 = .ok member.1 ∧ encode types entry.2 = .ok member.2 := by
  obtain ⟨name, data⟩ := member
  simp only [memberOfEntry, Except.bind_eq_ok_iff, Except.pure_eq_ok_iff, Prod.mk.injEq]
  constructor
  · rintro ⟨text, named, sent, first, rfl, rfl⟩
    exact ⟨named, first⟩
  · rintro ⟨named, first⟩
    exact ⟨name, named, data, first, rfl, rfl⟩

/-- Keys that differ have texts that differ, since each is read back from its text. -/
theorem nodup_of_memberOfEntry (isKey : key.isKey = true)
    (typed : ∀ entry ∈ entries, HasType types key entry.1)
    (distinct : entries.Pairwise fun first second => sameKey first.1 second.1 = false)
    (sent : entries.mapM (memberOfEntry types) = .ok members) : (members.map (·.1)).Nodup := by
  rw [List.Nodup, List.pairwise_map]
  refine Except.pairwise_of_mapM_eq_ok sent distinct ?_
  intro first within second later different firstMember secondMember firstSent secondSent same
  have firstBack := decode_textOf isKey (typed first within) (memberOfEntry_eq_ok_iff.mp firstSent).1
  have secondBack :=
    decode_textOf isKey (typed second later) (memberOfEntry_eq_ok_iff.mp secondSent).1
  rw [same, secondBack] at firstBack
  rw [Except.ok.inj firstBack, sameKey_self isKey (typed first within)] at different
  cases different

/-- A map is read back if its values are. -/
theorem decode_members (isKey : key.isKey = true)
    (typed : ∀ entry ∈ entries, HasType types key entry.1)
    (distinct : entries.Pairwise fun first second => sameKey first.1 second.1 = false)
    (back : ∀ entry ∈ entries, ∀ data, encode types entry.2 = .ok data →
      decode types value (ofJson data) = .ok entry.2)
    (sent : entries.mapM (memberOfEntry types) = .ok members) :
    decode types (.map key value) (ofJson (.obj (Pairs.distinct members))) = .ok (.map entries) := by
  have each : List.Forall₂ (fun entry result => decode types key entry.1 = .ok result.1 ∧
      decode types value entry.2 = .ok result.2)
      (members.map fun member => (.str member.1, ofJson member.2)) entries := by
    rw [List.forall₂_map_left_iff]
    refine Except.forall₂_of_mapM_eq_ok sent fun entry inside member first => ?_
    obtain ⟨named, data⟩ := memberOfEntry_eq_ok_iff.mp first
    exact ⟨decode_textOf isKey (typed entry inside) named, back entry inside _ data⟩
  rw [Pairs.distinct_of_nodup (nodup_of_memberOfEntry isKey typed distinct sent), ofJson,
    ofJsonFields_eq_map, decode_map, decodeEntries_eq_ok [] each
      (fun entry inside => isKey_of_hasType isKey (typed entry inside)) distinct]
  rfl

end Entries

section Fields

variable {type : RecordType} {given : List (String × Value)} {parts : List (Option (String × Json))}

/-- The name of a field finds the field. -/
theorem field?_of_mem (names : (type.fields.map (·.name)).Nodup) {field : RecordField}
    (inside : field ∈ type.fields) : type.field? field.name = some field := by
  cases found : type.field? field.name with
  | none =>
    have missed := List.find?_eq_none.mp found field inside
    simp at missed
  | some other =>
    have same : other.name = field.name := by simpa using List.find?_some found
    rw [List.inj_on_of_nodup_map names (List.mem_of_find?_eq_some found) inside same]

theorem name_of_mem_zip {fields : List RecordField} {given : List (String × Value)}
    (names : given.map (·.1) = fields.map (·.name)) {pair : RecordField × String × Value}
    (inside : pair ∈ fields.zip given) : pair.2.1 = pair.1.name := by
  induction fields generalizing given with
  | nil => cases inside
  | cons field rest ih =>
    cases given with
    | nil => cases inside
    | cons first others =>
      obtain ⟨same, names⟩ := List.cons.inj names
      rcases List.mem_cons.mp inside with rfl | later
      · exact same
      · exact ih names later

theorem member?_ofJsonFields (name : String) (members : List (String × Json)) :
    member? name (ofJsonFields members) =
      ((members.lookup name).map ofJson).filter fun v => !v.isNull := by
  rw [member?]
  congr 1
  induction members with
  | nil => rfl
  | cons member rest ih =>
    obtain ⟨first, data⟩ := member
    unfold findEntry? at ih
    rw [ofJsonFields, findEntry?, List.find?_cons, List.lookup_cons, sameKey, BEq.comm]
    cases name == first with
    | true => rfl
    | false => exact ih

theorem decode_octets {type : WireType} (octets : Octets) (isOctets : type.isOctets = true) :
    decode types type (.str (Base64.encode octets)) = .ok (.bytes octets) := by
  induction type with
  | bytes =>
    rw [decode, toBlob, Base64.decode_encode]
    · rfl
    · simp
  | optional type ih => rw [decode_optional, ih isOctets]
  | _ => cases isOctets

theorem bytes_of_isOctets {type : WireType} {v : Value} (isOctets : type.isOctets = true)
    (typed : HasType types type v) : ∃ octets, v = .bytes octets := by
  induction typed with
  | bytes octets => exact ⟨octets, rfl⟩
  | optional _ ih => exact ih isOctets
  | _ => cases isOctets

/-- A field is read back from its member, or from its absence if it may be null. -/
theorem fieldFrom_of_member {record : String} {entries : List (Value × Value)} {field : RecordField}
    {v : Value} {part : Option (String × Json)}
    (optional : v = .null → field.MayBeNull)
    (blob : field.blob = true → field.type.isOctets = true)
    (typed : v ≠ .null → HasType types field.type v)
    (back : v ≠ .null → ∀ data, encode types v = .ok data →
      decode types field.type (ofJson data) = .ok v)
    (sent : encodeField field v (encode types v) = .ok part)
    (found : member? field.wire entries =
      (part.map fun member => ofJson member.2).filter fun v => !v.isNull) :
    fieldFrom types record entries field = .ok (field.name, v) := by
  by_cases missing : v = .null
  · subst missing
    have none : member? field.wire entries = none := by
      rw [encodeField_null, encode] at sent
      split at sent
      · cases sent
        exact found
      · cases sent
        exact found
    rw [fieldFrom, none, absent, (optional rfl).optional, (optional rfl).initial]
    rfl
  · cases blobField : field.blob with
    | true =>
      have isOctets := blob blobField
      obtain ⟨octets, rfl⟩ := bytes_of_isOctets isOctets (typed missing)
      rw [encodeField_bytes _ blobField] at sent
      cases sent
      have member : member? field.wire entries = some (.str (Base64.encode octets)) := found
      rw [fieldFrom, member]
      dsimp only
      rw [decode_octets octets isOctets]
      rfl
    | false =>
      rw [encodeField_plain _ blobField missing] at sent
      obtain ⟨data, encoded, rfl⟩ := Except.map_eq_ok_iff.mp sent
      have present := isNull_ofJson (encode_ne_null missing encoded)
      have member : member? field.wire entries = some (ofJson data) := by
        rw [found, Option.map_some, Option.filter_some, present]
        rfl
      rw [fieldFrom, member]
      dsimp only
      rw [back missing data encoded]
      rfl

theorem length_of_names {fields : List RecordField}
    (names : given.map (·.1) = fields.map (·.name)) : given.length = fields.length := by
  simpa using congrArg List.length names

theorem map_fst_zip {fields : List RecordField} (names : given.map (·.1) = fields.map (·.name)) :
    (fields.zip given).map (·.1) = fields :=
  List.map_fst_zip (Nat.le_of_eq (length_of_names names).symm)

theorem map_snd_zip {fields : List RecordField} (names : given.map (·.1) = fields.map (·.name)) :
    (fields.zip given).map (·.2) = given :=
  List.map_snd_zip (Nat.le_of_eq (length_of_names names))

theorem encodeFields_zip (portable : type.Portable)
    (names : given.map (·.1) = type.fields.map (·.name)) : encodeFields types type given =
      ((type.fields.zip given).mapM (memberOfField types)).map List.reduceOption := by
  have sent : encodeFields types type ((type.fields.zip given).map (·.2)) =
      ((type.fields.zip given).mapM (memberOfField types)).map List.reduceOption := by
    refine encodeFields_eq_mapM fun pair inside => ?_
    rw [name_of_mem_zip names inside]
    exact field?_of_mem portable.names (List.of_mem_zip inside).1
  rwa [map_snd_zip names] at sent

/-- A record is read back if its values are. -/
theorem decode_fields {name : String} (portable : type.Portable)
    (found : types.find? name = some type) (names : given.map (·.1) = type.fields.map (·.name))
    (optional : ∀ pair ∈ type.fields.zip given, pair.2.2 = .null → pair.1.MayBeNull)
    (typed : ∀ pair ∈ type.fields.zip given, pair.2.2 ≠ .null →
      HasType types pair.1.type pair.2.2)
    (back : ∀ pair ∈ type.fields.zip given, pair.2.2 ≠ .null → ∀ data,
      encode types pair.2.2 = .ok data →
        decode types pair.1.type (ofJson data) = .ok pair.2.2)
    (sent : (type.fields.zip given).mapM (memberOfField types) = .ok parts) :
    decode types (.record name) (ofJson (.obj (Pairs.distinct parts.reduceOption))) =
      .ok (.record name given) := by
  have wires : ((type.fields.zip given).map fun pair => pair.1.wire).Nodup := by
    have through : (type.fields.zip given).map (fun pair => pair.1.wire) =
        ((type.fields.zip given).map (·.1)).map (·.wire) := (List.map_map).symm
    rw [through, map_fst_zip names]
    exact portable.wires
  have each : List.Forall₂ (fun field result =>
      fieldFrom types name (ofJsonFields parts.reduceOption) field = .ok result)
      ((type.fields.zip given).map (·.1)) ((type.fields.zip given).map (·.2)) := by
    rw [List.forall₂_map_left_iff, List.forall₂_map_right_iff, List.forall₂_same]
    intro pair inside
    obtain ⟨part, first, looked⟩ := lookup_wire wires sent inside
    have member : member? pair.1.wire (ofJsonFields parts.reduceOption) =
        (part.map fun member => ofJson member.2).filter fun v => !v.isNull := by
      rw [member?_ofJsonFields, looked, Option.map_map]
      rfl
    rw [fieldFrom_of_member (optional pair inside)
      (portable.blobs pair.1 (List.of_mem_zip inside).1) (typed pair inside) (back pair inside)
      first member, ← name_of_mem_zip names inside]
  rw [map_fst_zip names, map_snd_zip names] at each
  rw [Pairs.distinct_of_nodup (wires.sublist (wires_sublist sent)), ofJson,
    decode_record found portable.received, decodeFields_eq_mapM, Except.mapM_eq_ok_iff.mpr each]
  rfl

end Fields

namespace WireType

/-- A plain type whose record types, at any depth, go both ways. -/
structure Portable (types : RecordTypes) (type : WireType) : Prop where
  plain : type.isPlain = true
  records : ∀ name ∈ type.records, ∀ inner, types.Contains name inner → ∀ type,
    types.find? inner = some type → type.Portable

namespace Portable

variable {type key value : WireType}

theorem of_optional (portable : Portable types (.optional type)) : Portable types type :=
  ⟨portable.plain, portable.records⟩

theorem of_list (portable : Portable types (.list type)) : Portable types type :=
  ⟨portable.plain, portable.records⟩

theorem isKey_of_map (portable : Portable types (.map key value)) : key.isKey = true :=
  (Bool.and_eq_true_iff.mp portable.plain).1

theorem of_map (portable : Portable types (.map key value)) : Portable types value :=
  ⟨(Bool.and_eq_true_iff.mp portable.plain).2, fun name mentioned =>
    portable.records name (List.mem_append_right _ mentioned)⟩

theorem of_record {name : String} (portable : Portable types (.record name)) {type : RecordType}
    (found : types.find? name = some type) : type.Portable :=
  portable.records name List.mem_cons_self name .self type found

theorem of_field {name : String} (portable : Portable types (.record name)) {type : RecordType}
    (found : types.find? name = some type) {field : RecordField} (inside : field ∈ type.fields) :
    Portable types field.type := by
  refine ⟨(portable.of_record found).plain field inside, fun inner mentioned further contained => ?_⟩
  have first : types.Contains name inner := .field .self found inside mentioned
  exact portable.records name List.mem_cons_self further (first.trans contained)

end Portable

end WireType

namespace Payload

theorem decode_of_present {type : WireType} {v : Value}
    (back : v ≠ .null → ∀ data, encode types v = .ok data →
      decode types type (ofJson data) = .ok v) :
    ∀ data, encode types v = .ok data → decode types type (ofJson data) = .ok v := by
  intro data sent
  by_cases missing : v = .null
  · subst missing
    cases sent
    exact decode_null type
  · exact back missing data sent

/-- Data of a value is read back as the value: the induction is on why the value has its type. -/
theorem decode_of_encode {type : WireType} {v : Value} (typed : HasType types type v)
    (portable : type.Portable types) :
    ∀ data, encode types v = .ok data → decode types type (ofJson data) = .ok v := by
  induction typed with
  | str s =>
    rintro _ ⟨⟩
    rw [ofJson, decode]
    · rfl
    · simp
  | int n =>
    rintro _ ⟨⟩
    rw [ofJson, decode]
    · rfl
    · simp
  | float x =>
    rintro _ ⟨⟩
    rw [ofJson, decode]
    · rfl
    · simp
  | bool b =>
    rintro _ ⟨⟩
    rw [ofJson, decode]
    · cases b <;> rfl
    · simp
  | bytes octets =>
    rintro _ ⟨⟩
    exact decode_octets octets rfl
  | optional _ ih =>
    intro data sent
    rw [decode_optional]
    exact ih portable.of_optional data sent
  | @list element items _ ih =>
    intro data sent
    rw [encode] at sent
    obtain ⟨datas, all, rfl⟩ := Except.map_eq_ok_iff.mp sent
    rw [encodeItems_eq_mapM] at all
    have each := Except.forall₂_of_mapM_eq_ok all fun item inside =>
      decode_of_present fun present => ih item inside present portable.of_list
    rw [ofJson, ofJsonItems_eq_map, decode_list, decodeItems_eq_mapM,
      Except.mapM_eq_ok_iff.mpr (List.forall₂_map_left_iff.mpr each)]
    rfl
  | map distinct keys _ _ ih =>
    intro data sent
    rw [encode] at sent
    obtain ⟨members, all, rfl⟩ := Except.map_eq_ok_iff.mp sent
    rw [encodeEntries_eq_mapM] at all
    exact decode_members portable.isKey_of_map keys distinct (fun entry inside =>
      decode_of_present fun present => ih entry inside present portable.of_map) all
  | @record name type fields found names optional typed ih =>
    intro data sent
    have itself := portable.of_record found
    rw [encode_record found itself.sent] at sent
    obtain ⟨members, all, rfl⟩ := Except.map_eq_ok_iff.mp sent
    rw [encodeFields_zip itself names] at all
    obtain ⟨parts, each, rfl⟩ := Except.map_eq_ok_iff.mp all
    exact decode_fields itself found names optional typed (fun pair inside present =>
      ih pair inside present (portable.of_field found (List.of_mem_zip inside).1)) each

theorem encode_succeeds_of_present {v : Value}
    (present : v ≠ .null → ((∃ data, encode types v = .ok data) ↔ v.KeysFit)) :
    (∃ data, encode types v = .ok data) ↔ v.KeysFit := by
  by_cases missing : v = .null
  · subst missing
    exact ⟨fun _ _ key => (nomatch key), fun _ => ⟨.null, rfl⟩⟩
  · exact present missing

theorem memberOfEntry_succeeds_iff {type : WireType} {entry : Value × Value}
    (isKey : type.isKey = true) (typed : HasType types type entry.1) :
    (∃ member, memberOfEntry types entry = .ok member) ↔
      (∀ n : Int, entry.1 = .int n → n.natAbs < Numeral.limit) ∧
        ∃ data, encode types entry.2 = .ok data := by
  have named : (∃ text, textOf entry.1 = .ok text) ↔
      ∀ n : Int, entry.1 = .int n → n.natAbs < Numeral.limit := by
    obtain ⟨key, v⟩ := entry
    cases typed with
    | int n => simp [textOf_int_succeeds_iff]
    | str s => simp [textOf_eq_ok_iff, writable]
    | bool b => simp [textOf_eq_ok_iff, writable]
    | _ => cases isKey
  rw [← named]
  constructor
  · rintro ⟨member, sent⟩
    obtain ⟨text, data⟩ := memberOfEntry_eq_ok_iff.mp sent
    exact ⟨⟨_, text⟩, _, data⟩
  · rintro ⟨⟨text, named⟩, data, sent⟩
    exact ⟨(text, data), memberOfEntry_eq_ok_iff.mpr ⟨named, sent⟩⟩

theorem encodeField_succeeds_iff {field : RecordField} {v : Value}
    (blob : field.blob = true → field.type.isOctets = true)
    (typed : v ≠ .null → HasType types field.type v) :
    (∃ part, encodeField field v (encode types v) = .ok part) ↔
      ∃ data, encode types v = .ok data := by
  by_cases missing : v = .null
  · subst missing
    have data : ∃ data, encode types .null = .ok data := ⟨.null, rfl⟩
    rw [encodeField_null, encode]
    cases field.skipNull with
    | true => exact ⟨fun _ => data, fun _ => ⟨_, rfl⟩⟩
    | false => exact ⟨fun _ => data, fun _ => ⟨_, rfl⟩⟩
  · cases blobField : field.blob with
    | true =>
      obtain ⟨octets, rfl⟩ := bytes_of_isOctets (blob blobField) (typed missing)
      rw [encodeField_bytes _ blobField]
      exact ⟨fun _ => ⟨_, rfl⟩, fun _ => ⟨_, rfl⟩⟩
    | false => rw [encodeField_plain _ blobField missing, Except.map_succeeds_iff]

/-- A value of a type can be sent exactly if the keys of its maps have texts. -/
theorem encode_succeeds_iff {type : WireType} {v : Value} (typed : HasType types type v)
    (portable : type.Portable types) : (∃ data, encode types v = .ok data) ↔ v.KeysFit := by
  induction typed with
  | str | int | float | bool | bytes => exact ⟨fun _ _ key => (nomatch key), fun _ => ⟨_, rfl⟩⟩
  | optional _ ih => exact ih portable.of_optional
  | list _ ih =>
    rw [encode, encodeItems_eq_mapM, Except.map_succeeds_iff, Except.mapM_succeeds_iff, keysFit_list]
    exact forall₂_congr fun item inside =>
      encode_succeeds_of_present fun present => ih item inside present portable.of_list
  | map _ keys _ _ ih =>
    rw [encode, encodeEntries_eq_mapM, Except.map_succeeds_iff, Except.mapM_succeeds_iff, keysFit_map]
    refine forall₂_congr fun entry inside => ?_
    rw [memberOfEntry_succeeds_iff portable.isKey_of_map (keys entry inside),
      encode_succeeds_of_present fun present => ih entry inside present portable.of_map]
  | @record name type fields found names optional typed ih =>
    have itself := portable.of_record found
    rw [encode_record found itself.sent, encodeFields_zip itself names, Except.map_succeeds_iff,
      Except.map_succeeds_iff, Except.mapM_succeeds_iff, keysFit_record]
    conv_rhs => rw [← map_snd_zip names]
    rw [List.forall_mem_map]
    refine forall₂_congr fun pair inside => ?_
    have declared := (List.of_mem_zip inside).1
    rw [memberOfField, encodeField_succeeds_iff (itself.blobs _ declared) (typed pair inside),
      encode_succeeds_of_present fun present =>
        ih pair inside present (portable.of_field found declared)]

theorem portable_of_all {name : String} (each : ∀ type ∈ types, type.Portable) :
    ∀ inner, types.Contains name inner → ∀ type, types.find? inner = some type → type.Portable :=
  fun _ _ type found => each type (List.mem_of_find?_eq_some found)

/-- A value of a record type that goes both ways at every depth comes back as it was. It is refused
only where a map in it has a whole number of too many digits as a key. -/
theorem record_roundTrip {name : String} {v : Value} (typed : HasType types (.record name) v)
    (portable : ∀ inner, types.Contains name inner → ∀ type, types.find? inner = some type →
      type.Portable) :
    (v.KeysFit → ∃ data, encode types v = .ok data ∧
      decode types (.record name) (ofJson data) = .ok v) ∧
    (¬ v.KeysFit → ∃ e, encode types v = .error e) := by
  have portableType : WireType.Portable types (.record name) :=
    ⟨rfl, fun outer mentioned => List.mem_singleton.mp mentioned ▸ portable⟩
  have sendable := encode_succeeds_iff typed portableType
  constructor
  · intro fit
    obtain ⟨data, sent⟩ := sendable.mpr fit
    exact ⟨data, sent, decode_of_encode typed portableType data sent⟩
  · exact fun unfit => Except.exists_error_iff.mpr fun sent => unfit (sendable.mp sent)

/-- A letter, which may answer another. -/
def letterTypes : RecordTypes := [{
  name := "Letter", sent := true, received := true
  fields := [
    { name := "id", wire := "Id", type := .str, required := true },
    { name := "seal", wire := "Seal", type := .optional .bytes, blob := true },
    { name := "stamps", wire := "Stamps", type := .map .int (.list .float), skipNull := true },
    { name := "reply", wire := "Reply", type := .optional (.record "Letter"), skipNull := true }] }]

def shortLetter : Value :=
  .record "Letter" [("id", .str "b"), ("seal", .null), ("stamps", .null), ("reply", .null)]

def sealedLetter : Value :=
  .record "Letter" [("id", .str "a"), ("seal", .bytes [0, 255]),
    ("stamps", .map [(.int (-7), .null), (.int 12, .list [.null])]), ("reply", shortLetter)]

theorem shortLetter_typed : HasType letterTypes (.record "Letter") shortLetter := by
  refine .record rfl rfl (by simp [RecordField.mayBeNull_iff]) ?_
  simp only [letterTypes, List.zip_cons_cons, List.zip_nil_left, List.forall_mem_cons]
  exact ⟨fun _ => .str _, fun absent => absurd rfl absent, fun absent => absurd rfl absent,
    fun absent => absurd rfl absent, by simp⟩

theorem sealedLetter_typed : HasType letterTypes (.record "Letter") sealedLetter := by
  have stamps : HasType letterTypes (.map .int (.list .float))
      (.map [(.int (-7), .null), (.int 12, .list [.null])]) := by
    refine .map (by simp [sameKey, asNumber?, sameNumber]) ?_ ?_
    · simp only [List.forall_mem_cons]
      exact ⟨.int _, .int _, by simp⟩
    · simp only [List.forall_mem_cons]
      exact ⟨fun absent => absurd rfl absent, fun _ => .list (by simp), by simp⟩
  refine .record rfl rfl (by simp [RecordField.mayBeNull_iff]) ?_
  simp only [letterTypes, List.zip_cons_cons, List.zip_nil_left, List.forall_mem_cons]
  exact ⟨fun _ => .str _, fun _ => .optional (.bytes _), fun _ => stamps,
    fun _ => .optional shortLetter_typed, by simp⟩

theorem sealedLetter_keysFit : sealedLetter.KeysFit := by
  have many : 12 < Numeral.limit := (Numeral.length_toDigits_iff 12).mp (by decide)
  have scalar {v : Value} (flat : ∀ key, ¬ HasKey key v) : v.KeysFit :=
    fun n key => absurd key (flat (.int n))
  simp only [sealedLetter, shortLetter, keysFit_record, keysFit_map, keysFit_list,
    List.forall_mem_cons]
  refine ⟨scalar nofun, scalar nofun, ⟨⟨?_, scalar nofun⟩, ⟨?_, scalar nofun, by simp⟩, by simp⟩,
    ⟨scalar nofun, scalar nofun, scalar nofun, scalar nofun, by simp⟩, by simp⟩
  · rintro n ⟨⟩
    exact Nat.lt_trans (by decide) many
  · rintro n ⟨⟩
    exact many

theorem sealedLetter_roundTrip : HasType letterTypes (.record "Letter") sealedLetter ∧
    sealedLetter.KeysFit ∧ ∃ data, encode letterTypes sealedLetter = .ok data ∧
      decode letterTypes (.record "Letter") (ofJson data) = .ok sealedLetter :=
  ⟨sealedLetter_typed, sealedLetter_keysFit,
    (record_roundTrip sealedLetter_typed (portable_of_all (by decide))).1 sealedLetter_keysFit⟩

/-- A ledger of amounts under numbers. -/
def ledgerTypes : RecordTypes := [{
  name := "Ledger", sent := true, received := true
  fields := [{ name := "amounts", wire := "Amounts", type := .map .int .int, required := true }] }]

/-- The first number that has too many digits. -/
def firstLong : Int := Numeral.limit

def longLedger : Value := .record "Ledger" [("amounts", .map [(.int firstLong, .int 1)])]

theorem longLedger_typed : HasType ledgerTypes (.record "Ledger") longLedger := by
  have amounts : HasType ledgerTypes (.map .int .int) (.map [(.int firstLong, .int 1)]) := by
    refine .map (List.pairwise_singleton _ _) ?_ ?_
    · simp only [List.forall_mem_singleton]
      exact .int _
    · simp only [List.forall_mem_singleton]
      exact fun _ => .int _
  refine .record rfl rfl ?_ ?_
  · intro pair inside null
    obtain rfl := List.mem_singleton.mp inside
    cases null
  · intro pair inside _
    obtain rfl := List.mem_singleton.mp inside
    exact amounts

/-- Numbers of too many digits have no text, so as keys they keep a record from coming back. -/
theorem longLedger_roundTrip_fails :
    HasType ledgerTypes (.record "Ledger") longLedger ∧
    (∀ inner, ledgerTypes.Contains "Ledger" inner → ∀ type,
      ledgerTypes.find? inner = some type → type.Portable) ∧
    ¬ ∃ data, encode ledgerTypes longLedger = .ok data ∧
      decode ledgerTypes (.record "Ledger") (ofJson data) = .ok longLedger := by
  have portable : ∀ type ∈ ledgerTypes, type.Portable := by decide
  refine ⟨longLedger_typed, portable_of_all portable, ?_⟩
  rintro ⟨data, sent, -⟩
  have fit := (encode_succeeds_iff longLedger_typed
    ⟨rfl, fun _ _ => portable_of_all portable⟩).mp ⟨data, sent⟩
  have short := fit firstLong (.field List.mem_cons_self (.here List.mem_cons_self))
  rw [firstLong, Int.natAbs_natCast] at short
  exact Nat.lt_irrefl _ short

end Payload

end ServiceClient
