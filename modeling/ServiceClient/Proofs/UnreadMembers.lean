import Mathlib
import ServiceClient.Proofs.DataReading

/-!
Members that no reading looks at. An object that is read as a record may have more members under names
that mean nothing to the record, and more null members, without a change to what comes of it, a value or
an error. This asks that the object is read as nothing else: two fields of one name on the wire read one
member, and a name that means nothing to the one may be read by the other.
-/

namespace ServiceClient

open Value

namespace Payload

open Json

variable {types : RecordTypes} {type : WireType} {a b : Json}

/-- At some depth of the data, where a record is read, there is one more member, which is for no field
of the record or is null. A member may be read by several fields on the way to that depth; then this is
so for those that `asked` takes along with one of them. -/
inductive Adds (types : RecordTypes) (asked : RecordField → RecordField → Prop) :
    WireType → Json → Json → Prop
  | here {name : String} {type : RecordType} {before after : List (String × Json)}
      {member : String × Json} :
      types.find? name = some type → member.1 ∉ (before ++ after).map (·.1) →
      member.1 ∉ type.fields.map (·.wire) ∨ member.2 = .null →
      Adds types asked (.record name) (.obj (before ++ after)) (.obj (before ++ member :: after))
  | optional {type : WireType} {a b : Json} : Adds types asked type a b →
      Adds types asked (.optional type) a b
  | item {element : WireType} {before after : List Json} {a b : Json} :
      Adds types asked element a b →
      Adds types asked (.list element) (.arr (before ++ a :: after)) (.arr (before ++ b :: after))
  | entry {key value : WireType} {name : String} {before after : List (String × Json)} {a b : Json} :
      Adds types asked value a b →
      Adds types asked (.map key value) (.obj (before ++ (name, a) :: after))
        (.obj (before ++ (name, b) :: after))
  | field {name : String} {type : RecordType} {field : RecordField}
      {before after : List (String × Json)} {a b : Json} :
      types.find? name = some type → field ∈ type.fields →
      (∀ other ∈ type.fields, other.wire = field.wire → asked field other →
        Adds types asked other.type a b) →
      Adds types asked (.record name) (.obj (before ++ (field.wire, a) :: after))
        (.obj (before ++ (field.wire, b) :: after))

/-- One more member for every reading of the data. -/
def AddsUnread (types : RecordTypes) : WireType → Json → Json → Prop := Adds types fun _ _ => True

/-- With distinct names on the wire a member is read by one field, so one more member for a reading of
the data is one for every reading. -/
theorem addsUnread_of_adds (wires : ∀ record ∈ types, (record.fields.map (·.wire)).Nodup)
    (adds : Adds types (· = ·) type a b) : AddsUnread types type a b := by
  induction adds with
  | here found fresh unread => exact .here found fresh unread
  | optional _ ih => exact .optional ih
  | item _ ih => exact .item ih
  | entry _ ih => exact .entry ih
  | @field name type field before after a b found inside _ ih =>
    refine .field found inside fun other within same _ => ih other within same ?_
    have distinct := wires type (List.mem_of_find?_eq_some found)
    exact List.inj_on_of_nodup_map distinct inside within same.symm

theorem ne_null_of_addsUnread (adds : AddsUnread types type a b) : a ≠ .null ∧ b ≠ .null := by
  induction adds with
  | optional _ ih => exact ih
  | _ => exact ⟨nofun, nofun⟩

section Lookup

variable {name : String} {before after : List (String × Json)}

/-- A new member that is not looked for, or is null, is not found. -/
theorem present?_append_cons {member : String × Json}
    (fresh : member.1 ∉ (before ++ after).map (·.1)) (unread : member.1 ≠ name ∨ member.2 = .null) :
    present? name (before ++ member :: after) = present? name (before ++ after) := by
  obtain ⟨key, data⟩ := member
  by_cases same : key = name
  · obtain rfl : data = .null := unread.resolve_left (not_not_intro same)
    subst same
    have absent : (before ++ after).lookup key = none := by
      rw [← Option.not_isSome_iff_eq_none, Pairs.lookup_isSome_iff]
      exact fresh
    have split := absent
    rw [List.lookup_append, Option.or_eq_none_iff] at split
    rw [present?, present?, absent, List.lookup_append, split.1, List.lookup_cons_self]
    rfl
  · have other : (name == key) = false := beq_false_of_ne (Ne.symm same)
    rw [present?, present?, List.lookup_append, List.lookup_append, List.lookup_cons, other]

/-- Another value for a member is found under its name only, and there only if no member of the name
stands in front. -/
theorem present?_replace (name key : String) (a b : Json) :
    present? name (before ++ (key, a) :: after) = present? name (before ++ (key, b) :: after) ∨
      name = key ∧ before.lookup name = none := by
  by_cases same : name = key
  · cases there : before.lookup name with
    | none => exact .inr ⟨same, rfl⟩
    | some data =>
      left
      rw [present?, present?, List.lookup_append, List.lookup_append, there]
      rfl
  · left
    have other : (name == key) = false := beq_false_of_ne same
    rw [present?, present?, List.lookup_append, List.lookup_append, List.lookup_cons,
      List.lookup_cons, other]

theorem present?_of_none {data : Json} (absent : before.lookup name = none) (present : data ≠ .null) :
    present? name (before ++ (name, data) :: after) = some data := by
  rw [present?_eq_some_iff, List.lookup_append, absent, List.lookup_cons_self]
  exact ⟨rfl, present⟩

end Lookup

/-- Two objects are read as a record alike if its fields are. -/
theorem decode_record_congr {name : String} {type : RecordType} {as bs : List (String × Json)}
    (found : types.find? name = some type)
    (same : ∀ field ∈ type.fields, fieldFrom types name (ofJsonFields as) field =
      fieldFrom types name (ofJsonFields bs) field) :
    decode types (.record name) (ofJson (.obj as)) =
      decode types (.record name) (ofJson (.obj bs)) := by
  cases received : type.received with
  | true =>
    rw [decode_record_obj found received, decode_record_obj found received, Except.mapM_congr same]
  | false => rw [ofJson, ofJson, decode, decode] <;> simp [found, received]

/-- One more member that is not read changes nothing: the induction goes from the place of the member
outwards. -/
theorem decode_eq_of_addsUnread (adds : AddsUnread types type a b) :
    decode types type (ofJson a) = decode types type (ofJson b) := by
  induction adds with
  | @here name type before after member found fresh unread =>
    refine decode_record_congr found fun field inside => ?_
    have unread : member.1 ≠ field.wire ∨ member.2 = .null := by
      refine unread.imp_left fun unknown same => unknown ?_
      rw [same]
      exact List.mem_map_of_mem inside
    rw [fieldFrom_ofJsonFields, fieldFrom_ofJsonFields, present?_append_cons fresh unread]
  | optional _ ih => rw [decode_optional, decode_optional, ih]
  | @item element before after a b _ ih =>
    rw [decode_list_of_items rfl, decode_list_of_items rfl, List.mapM_append, List.mapM_append,
      List.mapM_cons, List.mapM_cons, ih]
  | @entry key value name before after a b _ ih =>
    have same (read : List (Value × Value)) :
        readEntry types key value read (.str name, ofJson a) =
          readEntry types key value read (.str name, ofJson b) := by
      rw [readEntry, readEntry, ih]
    rw [decode_map_obj, decode_map_obj]
    simp only [ofJsonFields_eq_map, List.map_append, List.map_cons, List.foldlM_append,
      List.foldlM_cons, same]
  | @field name type field before after a b found inside adds ih =>
    refine decode_record_congr found fun other within => ?_
    rw [fieldFrom_ofJsonFields, fieldFrom_ofJsonFields]
    rcases present?_replace other.wire field.wire a b with same | ⟨same, absent⟩
    · rw [same]
    -- The other field reads this member too, perhaps by another type.
    · have present := ne_null_of_addsUnread (adds other within same trivial)
      rw [same] at absent ⊢
      rw [present?_of_none absent present.1, present?_of_none absent present.2]
      dsimp only
      rw [ih other within same trivial]

/-- Members that are not read may come and go: the value or the error is the same. -/
theorem decode_eq_of_unread_edits (edits : Relation.EqvGen (AddsUnread types type) a b) :
    decode types type (ofJson a) = decode types type (ofJson b) := by
  induction edits with
  | rel _ _ adds => exact decode_eq_of_addsUnread adds
  | refl => rfl
  | symm _ _ _ ih => exact ih.symm
  | trans _ _ _ _ _ first second => exact first.trans second

/-- A tag. -/
def tagType : RecordType where
  name := "Tag"
  sent := false
  received := true
  fields := [{ name := "key", wire := "Key", type := .str, required := true }]

def tagField : RecordField := { name := "tag", wire := "Tag", type := .record "Tag" }

/-- All members of the tag of a note. -/
def wordsField : RecordField := { name := "words", wire := "Tag", type := .map .str .str }

def tagsField : RecordField := { name := "tags", wire := "Tags", type := .list (.record "Tag") }

/-- A note, whose tag is read a second time as a map. -/
def noteType : RecordType where
  name := "Note"
  sent := false
  received := true
  fields := [tagField, wordsField, tagsField]

def noteTypes : RecordTypes := [tagType, noteType]

def keyed (members : List (String × Json)) : Json := .obj (("Key", .str "k") :: members)

/-- A tag in a list loses a member, and the note gets a null one. -/
theorem note_unread_edits : Relation.EqvGen (AddsUnread noteTypes (.record "Note"))
    (.obj [("Tags", .arr [keyed [("Mood", .bool true)]])])
    (.obj [("Tags", .arr [keyed []]), ("Tag", .null)]) := by
  have tag : AddsUnread noteTypes (.record "Tag") (keyed []) (keyed [("Mood", .bool true)]) :=
    @Adds.here _ _ "Tag" tagType [("Key", .str "k")] [] ("Mood", .bool true) rfl (by decide)
      (.inl (by decide))
  have inner : AddsUnread noteTypes (.record "Note") (.obj [("Tags", .arr [keyed []])])
      (.obj [("Tags", .arr [keyed [("Mood", .bool true)]])]) := by
    refine @Adds.field _ _ "Note" noteType tagsField [] [] _ _ rfl (by simp [noteType]) ?_
    intro other inside same _
    have only : other = tagsField := by
      simp only [noteType, List.mem_cons, List.not_mem_nil, or_false] at inside
      rcases inside with rfl | rfl | rfl
      · exact absurd same (by decide)
      · exact absurd same (by decide)
      · rfl
    rw [only]
    exact @Adds.item _ _ _ [] [] _ _ tag
  have outer : AddsUnread noteTypes (.record "Note") (.obj [("Tags", .arr [keyed []])])
      (.obj [("Tags", .arr [keyed []]), ("Tag", .null)]) :=
    @Adds.here _ _ "Note" noteType [("Tags", .arr [keyed []])] [] ("Tag", .null) rfl (by decide)
      (.inr rfl)
  exact .trans _ _ _ (.symm _ _ (.rel _ _ inner)) (.rel _ _ outer)

theorem note_read_alike : Relation.EqvGen (AddsUnread noteTypes (.record "Note"))
    (.obj [("Tags", .arr [keyed [("Mood", .bool true)]])])
    (.obj [("Tags", .arr [keyed []]), ("Tag", .null)]) ∧
    decode noteTypes (.record "Note") (ofJson (.obj [("Tags", .arr [keyed [("Mood", .bool true)]])])) =
      decode noteTypes (.record "Note")
        (ofJson (.obj [("Tags", .arr [keyed []]), ("Tag", .null)])) :=
  ⟨note_unread_edits, decode_eq_of_unread_edits note_unread_edits⟩

/-- A member that means nothing to the tag of a note is among its words. -/
theorem note_reads_member_of_tag :
    Adds noteTypes (· = ·) (.record "Note") (.obj [("Tag", keyed [])])
      (.obj [("Tag", keyed [("Mood", .str "m")])]) ∧
    decode noteTypes (.record "Note") (ofJson (.obj [("Tag", keyed [])])) ≠
      decode noteTypes (.record "Note") (ofJson (.obj [("Tag", keyed [("Mood", .str "m")])])) := by
  have tag : Adds noteTypes (· = ·) (.record "Tag") (keyed []) (keyed [("Mood", .str "m")]) :=
    @Adds.here _ _ "Tag" tagType [("Key", .str "k")] [] ("Mood", .str "m") rfl (by decide)
      (.inl (by decide))
  have before : decode noteTypes (.record "Note") (ofJson (.obj [("Tag", keyed [])])) =
      .ok (.record "Note" [("tag", .record "Tag" [("key", .str "k")]),
        ("words", .map [(.str "Key", .str "k")]), ("tags", .null)]) := by cbv
  have after : decode noteTypes (.record "Note")
      (ofJson (.obj [("Tag", keyed [("Mood", .str "m")])])) =
      .ok (.record "Note" [("tag", .record "Tag" [("key", .str "k")]),
        ("words", .map [(.str "Key", .str "k"), (.str "Mood", .str "m")]), ("tags", .null)]) := by cbv
  refine ⟨@Adds.field _ _ "Note" noteType tagField [] [] _ _ rfl (by simp [noteType]) ?_, ?_⟩
  · rintro _ _ _ rfl
    exact tag
  · rw [before, after]
    simp

end Payload

end ServiceClient
