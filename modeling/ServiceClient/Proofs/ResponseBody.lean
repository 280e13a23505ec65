import ServiceClient.Proofs.JsonBinding
import ServiceClient.Proofs.Utf8
import ServiceClient.Proofs.WireRoundTrip

/-!
What a response body is read as when values from outside the body are put over it. An object is read
as the object with those values in it, and a body that is no JSON is refused whatever they are. A body
that is no object is refused for a record only as long as there are no such values: they are put over
the body before anything has looked at what it is, and so an array of pairs is taken for the object
with these members.
-/

namespace ServiceClient

namespace Json

/-! ### Names in objects that are read -/

/-- If the document is an object, its members have distinct names. -/
def HasDistinctNames : Json → Prop
  | .obj fields => (fields.map (·.1)).Nodup
  | _ => True

namespace Reader

variable {fuel : Nat} {cs rest : List Char} {data : Json}

theorem distinctNames_of_number {start : List Char} {negative : Bool}
    (read : number start negative cs = .ok (data, rest)) : data.HasDistinctNames := by
  unfold number at read
  dsimp only at read
  split at read
  · cases read
  · split_ifs at read
    all_goals
      cases read
      trivial

theorem distinctNames_of_scalar (read : scalar cs = .ok (data, rest)) : data.HasDistinctNames := by
  unfold scalar at read
  split at read
  case h_7 | h_8 => exact distinctNames_of_number read
  all_goals
    cases read
    trivial

theorem distinctNames_of_elements {done : List Json}
    (read : elements fuel done cs = .ok (data, rest)) : data.HasDistinctNames := by
  induction fuel generalizing done cs with
  | zero => cases read
  | succ fuel ih =>
    rw [elements, Except.bind_eq_ok_iff] at read
    obtain ⟨⟨v, after⟩, -, read⟩ := read
    dsimp only at read
    split at read
    · cases read
      trivial
    · exact ih read
    · cases read

theorem distinctNames_of_members {done : List (String × Json)}
    (read : members fuel done cs = .ok (data, rest)) : data.HasDistinctNames := by
  induction fuel generalizing done cs with
  | zero => cases read
  | succ fuel ih =>
    rw [members.eq_def] at read
    dsimp only at read
    split at read
    · rw [Except.bind_eq_ok_iff] at read
      obtain ⟨⟨name, afterName⟩, -, read⟩ := read
      dsimp only at read
      split at read
      · rw [Except.bind_eq_ok_iff] at read
        obtain ⟨⟨v, after⟩, -, read⟩ := read
        dsimp only at read
        split at read
        · cases read
          exact Pairs.nodup_distinct _
        · exact ih read
        · cases read
      · cases read
    · cases read

theorem distinctNames_of_value (read : value fuel cs = .ok (data, rest)) :
    data.HasDistinctNames := by
  cases fuel with
  | zero => cases read
  | succ fuel =>
    rw [value.eq_def] at read
    dsimp only at read
    split at read
    · rw [Except.bind_eq_ok_iff] at read
      obtain ⟨⟨s, after⟩, -, read⟩ := read
      cases read
      trivial
    · split at read
      · cases read
        trivial
      · exact distinctNames_of_elements read
    · split at read
      · cases read
        exact List.nodup_nil
      · exact distinctNames_of_members read
    · exact distinctNames_of_scalar read

theorem distinctNames_of_document (read : document cs = .ok data) : data.HasDistinctNames := by
  unfold document at read
  split at read
  · cases read
  · rw [Except.bind_eq_ok_iff] at read
    obtain ⟨⟨v, after⟩, value, read⟩ := read
    dsimp only at read
    split at read
    · cases read
      exact distinctNames_of_value value
    · cases read

end Reader

/-- Documents that are read from octets have distinct names in their objects. -/
theorem distinctNames_of_parseOctets? {octets : Octets} {data : Json}
    (read : parseOctets? octets = some data) : data.HasDistinctNames := by
  unfold parseOctets? parse at read
  obtain ⟨text, -, read⟩ := Option.bind_eq_some_iff.mp read
  cases document : Reader.document text.toList with
  | error e => simp [document, Except.mapError, Except.toOption] at read
  | ok v =>
    simp only [document, Except.mapError, Except.toOption, Option.some.injEq] at read
    exact Reader.distinctNames_of_document (read ▸ document)

end Json

namespace Payload

open Value

variable {types : RecordTypes} {body : Octets} {data : Json} {members : List (String × Json)}

theorem distinctNames_of_parseBody (parsed : parseBody body = .ok data) :
    data.HasDistinctNames := by
  unfold parseBody at parsed
  split at parsed
  · cases parsed
    exact List.nodup_nil
  · split at parsed
    · rename_i read
      cases parsed
      exact Json.distinctNames_of_parseOctets? read
    · cases parsed

/-- The members of an object that was read are apart as entries of a map, too. -/
theorem pairwise_ofJsonFields (parsed : parseBody body = .ok (.obj members)) :
    (ofJsonFields members).Pairwise fun first second => sameKey first.1 second.1 = false := by
  have distinct : (members.map (·.1)).Nodup := distinctNames_of_parseBody parsed
  rw [ofJsonFields_eq_map, List.pairwise_map]
  exact (List.pairwise_map.mp distinct).imp fun different => by simpa [sameKey] using different

/-! ### Bodies that are judged alike with and without values from outside -/

/-- An object is read as the object with the values put over it that are not null. -/
theorem readBody_of_object (parsed : parseBody body = .ok (.obj members)) (type : WireType)
    (extra : List (String × Value)) :
    readBody types type body (extra.map fun (name, v) => (.str name, v)) =
      decode types type (.map (overlaid (ofJsonFields members) extra)) := by
  have put := overlay_of_distinct (pairwise_ofJsonFields parsed) extra
  rw [readBody, parsed, Except.ok_bind, ofJson, put]
  rfl

/-- A body that is no JSON is refused, whatever is put over it. -/
theorem readBody_of_invalid {e : DecodeError} (invalid : parseBody body = .error e) (type : WireType)
    (extra : List (Value × Value)) : readBody types type body extra = .error .invalidBody := by
  have same : e = .invalidBody := by
    unfold parseBody at invalid
    split at invalid
    · cases invalid
    · split at invalid <;> cases invalid
      rfl
  rw [readBody, invalid, same]
  rfl

/-- Without values from outside, any body but an object and null is refused for a record. -/
theorem readBody_of_no_object {name : String} {type : RecordType} (found : types.find? name = some type)
    (received : type.received = true) (parsed : parseBody body = .ok data)
    (noObject : ∀ members, data ≠ .obj members) (present : data ≠ .null) :
    readBody types (.record name) body [] = .error (.notAnObject name (ofJson data).kind) := by
  have alone : readBody types (.record name) body [] = decode types (.record name) (ofJson data) := by
    rw [readBody, parsed]
    rfl
  rw [alone]
  cases data with
  | null => exact absurd rfl present
  | obj members => exact absurd rfl (noObject members)
  | _ => rw [ofJson, decode] <;> simp [found, received]

/-! ### Bodies that are judged by what is put over them -/

/-- A member as a pair of its name and its value. -/
def pairOf (member : String × Json) : Json := .arr [.str member.1, member.2]

theorem insertPairs_pairOf (done : List (Value × Value)) (members : List (String × Json)) :
    insertPairs done (ofJsonItems (members.map pairOf)) =
      ((ofJsonFields members).foldl (fun entries (key, v) => insertEntry key v entries) done,
        none) := by
  induction members generalizing done with
  | nil => rfl
  | cons member rest ih => exact ih (insertEntry (.str member.1) (ofJson member.2) done)

/-- With any value from outside, an array of pairs is read as the object with these members. -/
theorem readBody_of_pairs {other : Octets} {extra : List (Value × Value)}
    (pairs : parseBody other = .ok (.arr (members.map pairOf)))
    (object : parseBody body = .ok (.obj members)) (given : extra ≠ []) (type : WireType) :
    readBody types type other extra = readBody types type body extra := by
  have some : extra.isEmpty = false := by simpa using given
  have entries : (ofJson (.arr (members.map pairOf))).toEntries =
      (ofJson (.obj members)).toEntries := by
    rw [ofJson, ofJson, toEntries, toEntries, putEntries, putEntries]
    · simp only [items, insertPairs_pairOf]
    · simp
  have same : overlay (ofJson (.arr (members.map pairOf))) extra =
      overlay (ofJson (.obj members)) extra := by
    simp only [overlay, some, Bool.false_eq_true, if_false, entries]
  rw [readBody, readBody, pairs, object, Except.ok_bind, Except.ok_bind, same]

/-- The key of a tag. -/
def tagKey : RecordField where
  name := "key"
  wire := "Key"
  type := .str
  required := true

/-- A type of tags, which have a key. -/
def tag : RecordType where
  name := "Tag"
  sent := false
  received := true
  fields := [tagKey]

theorem parseBody_emptyArray : parseBody (Text.utf8Encode "[]") = .ok (.arr []) := by
  have text : Json.decodeOctets? (Text.utf8Encode "[]") = some "[]" :=
    Text.utf8Decode?_utf8Encode "[]"
  have parsed : Json.parseOctets? (Text.utf8Encode "[]") = some (.arr []) := by
    rw [Json.parseOctets?, text]
    rfl
  rw [parseBody, parsed]
  rfl

/-- A blank body and a key from outside make a tag. -/
theorem readBody_blank_tag : readBody [tag] (.record "Tag") [] [(.str "Key", .str "k")] =
    .ok (.record "Tag" [("key", .str "k")]) := by
  have key : fieldFrom [tag] "Tag" (overlaid [] [(tagKey.wire, .str "k")]) tagKey =
      .ok ("key", .str "k") := by
    rw [fieldFrom_overlaid_of_mem (by decide) List.mem_cons_self rfl, tagKey, decode]
    · rfl
    · simp
  have blank : parseBody [] = .ok (.obj []) := rfl
  have found : RecordTypes.find? [tag] "Tag" = some tag := rfl
  have put : readBody [tag] (.record "Tag") [] [(.str "Key", .str "k")] = _ :=
    readBody_of_object blank (.record "Tag") [("Key", .str "k")]
  rw [decode_record found rfl, decodeFields_eq_mapM] at put
  refine put.trans ?_
  show Except.map _ ([tagKey].mapM (fieldFrom [tag] "Tag" (overlaid [] [(tagKey.wire, .str "k")]))) = _
  rw [List.mapM_cons, key]
  rfl

/-- Values from outside can change how a body is judged: an empty array, which by itself is refused
for a tag, is a tag with a key from outside. -/
theorem body_judged_by_extra :
    ¬ ∀ (types : RecordTypes) name type body data extra, types.find? name = some type →
      type.received = true → parseBody body = .ok data → (∀ members, data ≠ .obj members) →
      readBody types (.record name) body extra =
        .error (.notAnObject name (Value.ofJson data).kind) := by
  intro always
  have refused := always [tag] "Tag" tag _ _ [(.str "Key", .str "k")] rfl rfl parseBody_emptyArray nofun
  have given : [(Value.str "Key", Value.str "k")] ≠ [] := List.cons_ne_nil _ _
  have blank : parseBody [] = .ok (.obj []) := rfl
  have pairs : parseBody (Text.utf8Encode "[]") = .ok (.arr ([].map pairOf)) := parseBody_emptyArray
  rw [readBody_of_pairs pairs blank given, readBody_blank_tag] at refused
  cases refused

end Payload

end ServiceClient
