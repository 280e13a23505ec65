import ServiceClient.Module.FormWriter
import ServiceClient.Proofs.XmlLayout
import ServiceClient.Xml.Access

/-!
Where readers and writers of maps meet, and where they do not. They handle keys and values by the
functions of the same shapes. But a writer names the elements of an entry as the map says, while a
reader looks for `key` and `value` whatever the map says; and a form writer leaves out the element
around flattened entries, which no reader does.
-/

namespace ServiceClient

/-! ### Entries of other names -/

namespace Xml.Element

variable {parseKey parseValue : Element → Except AccessError Value} {keyTag valueTag tag : String}

/-- The element of an entry, from those of its key and its value. -/
def ofEntry (pair : Element × Element) : Element := .mk "entry" [] none [pair.1, pair.2]

/-- The element of a map, from those of its keys and values. -/
def ofEntries (tag : String) (pairs : List (Element × Element)) : Element :=
  .mk tag [] none (pairs.map ofEntry)

/-- Every key and every value has the name for it. -/
def AreNamed (keyTag valueTag : String) (pairs : List (Element × Element)) : Prop :=
  ∀ pair ∈ pairs, pair.1.tag = keyTag ∧ pair.2.tag = valueTag

/-- Puts the value of an entry under its key. -/
def putPair (parseKey parseValue : Element → Except AccessError Value) (done : List (Value × Value))
    (pair : Element × Element) : Except AccessError (List (Value × Value)) := do
  let v ← parseValue pair.2
  let key ← parseKey pair.1
  (Value.insertKey key v done).mapError .mismatch

theorem find?_ofEntry (name : String) (pair : Element × Element) :
    (ofEntry pair).find? name =
      if pair.1.tag = name then some pair.1 else if pair.2.tag = name then some pair.2 else none := by
  obtain ⟨key, v⟩ := pair
  by_cases isKey : key.tag = name
  · simp [ofEntry, find?, children, isKey]
  · by_cases isValue : v.tag = name
    · simp [ofEntry, find?, children, isKey, isValue]
    · simp [ofEntry, find?, children, isKey, isValue]

theorem entry_ofEntry {pair : Element × Element} (key : pair.1.tag = "key")
    (v : pair.2.tag = "value") (done : List (Value × Value)) :
    entry tag parseKey parseValue done (ofEntry pair) = putPair parseKey parseValue done pair := by
  unfold entry
  rw [find?_ofEntry, find?_ofEntry, key, v]
  rfl

theorem entry_ofEntry_swapped {pair : Element × Element} (key : pair.1.tag = "value")
    (v : pair.2.tag = "key") (done : List (Value × Value)) :
    entry tag parseKey parseValue done (ofEntry pair) =
      putPair parseKey parseValue done pair.swap := by
  unfold entry
  rw [find?_ofEntry, find?_ofEntry, key, v]
  rfl

theorem entry_ofEntry_malformed {pair : Element × Element}
    (inOrder : ¬ (pair.1.tag = "key" ∧ pair.2.tag = "value"))
    (swapped : ¬ (pair.1.tag = "value" ∧ pair.2.tag = "key")) (done : List (Value × Value)) :
    entry tag parseKey parseValue done (ofEntry pair) = .error (.malformedEntry tag) := by
  unfold entry
  rw [find?_ofEntry, find?_ofEntry]
  grind

/-- Where each entry is read as some pair, a map is read as all of these. -/
theorem entries_of_each {pairs : List (Element × Element)}
    {rearrange : Element × Element → Element × Element}
    (each : ∀ pair ∈ pairs, ∀ done, entry tag parseKey parseValue done (ofEntry pair) =
      putPair parseKey parseValue done (rearrange pair)) :
    (ofEntries tag pairs).entries parseKey parseValue =
      (pairs.map rearrange).foldlM (putPair parseKey parseValue) [] := by
  -- any entries may have been read before
  have step : ∀ (done : List (Value × Value)),
      (pairs.map ofEntry).foldlM (entry tag parseKey parseValue) done =
        (pairs.map rearrange).foldlM (putPair parseKey parseValue) done := by
    induction pairs with
    | nil => exact fun _ => rfl
    | cons pair rest ih =>
      intro done
      have first := each pair List.mem_cons_self done
      have others := ih fun other inside => each other (List.mem_cons_of_mem _ inside)
      rw [List.map_cons, List.map_cons, List.foldlM_cons, List.foldlM_cons, first]
      simp only [others]
  exact step []

/-- Entries are read if their keys are named `key` and their values `value`. -/
theorem entries_ofEntries {pairs : List (Element × Element)}
    (named : AreNamed "key" "value" pairs) :
    (ofEntries tag pairs).entries parseKey parseValue =
      pairs.foldlM (putPair parseKey parseValue) [] := by
  have same : pairs.map id = pairs := List.map_id pairs
  nth_rewrite 2 [← same]
  apply entries_of_each
  intro pair inside done
  exact entry_ofEntry (named pair inside).1 (named pair inside).2 done

/-- With the two names the other way round, keys are read as values and values as keys. -/
theorem entries_ofEntries_swapped {pairs : List (Element × Element)}
    (named : AreNamed "value" "key" pairs) :
    (ofEntries tag pairs).entries parseKey parseValue =
      (pairs.map Prod.swap).foldlM (putPair parseKey parseValue) [] := by
  apply entries_of_each
  intro pair inside done
  exact entry_ofEntry_swapped (named pair inside).1 (named pair inside).2 done

/-- Where keys and values have any other two names, no entry is read. -/
theorem entries_ofEntries_malformed {pairs : List (Element × Element)}
    (named : AreNamed keyTag valueTag pairs) (some : pairs ≠ [])
    (inOrder : ¬ (keyTag = "key" ∧ valueTag = "value"))
    (swapped : ¬ (keyTag = "value" ∧ valueTag = "key")) :
    (ofEntries tag pairs).entries parseKey parseValue = .error (.malformedEntry tag) := by
  cases pairs with
  | nil => exact absurd rfl some
  | cons pair rest =>
    obtain ⟨rfl, rfl⟩ := named pair List.mem_cons_self
    show List.foldlM _ _ (ofEntry pair :: _) = _
    rw [List.foldlM_cons, show (ofEntries tag (pair :: rest)).tag = tag from rfl,
      entry_ofEntry_malformed inOrder swapped]
    rfl

/-- Entries of given names are read back, whatever the keys and values are, if and only if the names
are those that a reader looks for. -/
theorem entries_ofEntries_iff :
    (∀ parseKey parseValue tag pairs, AreNamed keyTag valueTag pairs →
      (ofEntries tag pairs).entries parseKey parseValue =
        pairs.foldlM (putPair parseKey parseValue) []) ↔
      keyTag = "key" ∧ valueTag = "value" := by
  constructor
  · intro always
    by_contra other
    let parse : Element → Except AccessError Value := fun e => .ok (.str e.tag)
    let pair : Element × Element := (.mk keyTag [] none [], .mk valueTag [] none [])
    have named : AreNamed keyTag valueTag [pair] := by
      intro found inside
      rw [List.mem_singleton.mp inside]
      exact ⟨rfl, rfl⟩
    have read := always parse parse "map" [pair] named
    have kept : [pair].foldlM (putPair parse parse) [] = .ok [(.str keyTag, .str valueTag)] := rfl
    rw [kept] at read
    by_cases swapped : keyTag = "value" ∧ valueTag = "key"
    · obtain ⟨rfl, rfl⟩ := swapped
      have crossed : ([pair].map Prod.swap).foldlM (putPair parse parse) [] =
          .ok [(.str "key", .str "value")] := rfl
      rw [entries_ofEntries_swapped named, crossed] at read
      simp at read
    · rw [entries_ofEntries_malformed named (List.cons_ne_nil _ _) other swapped] at read
      cases read
  · rintro ⟨rfl, rfl⟩ parseKey parseValue tag pairs named
    exact entries_ofEntries named

end Xml.Element

/-! ### Readers and writers of a map -/

namespace Shape

/-- The name of the element of a key. -/
def keyTag (shape : Shape) : String := ((shape.key.map Member.locationName).getD .null).displayOr "key"

/-- The name of the element of a value. -/
def valueTag (shape : Shape) : String :=
  ((shape.value.map Member.locationName).getD .null).displayOr "value"

end Shape

namespace Service

variable {service : Service} {style : ReaderStyle} {type : String} {shape : Shape}

theorem displayOr_of_part {slot : Option Member} {part : Member}
    (present : shape.part slot = .ok part) (text : String) :
    part.locationName.displayOr text =
      ((slot.map Member.locationName).getD .null).displayOr text := by
  cases slot with
  | none => cases present
  | some member =>
    obtain rfl := Except.ok.inj present
    rfl

theorem tag_of_elementWrite {reference : Json} {write : ElementWrite} {tag : String}
    (made : service.elementWrite reference tag = .ok write) : write.tag = tag := by
  simp only [elementWrite, Except.bind_eq_ok_iff] at made
  obtain ⟨parts, -, made⟩ := made
  split at made
  case isTrue =>
    simp only [Except.bind_eq_ok_iff, Except.pure_eq_ok_iff] at made
    obtain ⟨_, -, rfl⟩ := made
    rfl
  case isFalse =>
    obtain rfl := Except.pure_eq_ok_iff.mp made
    rfl

/-- The writer of a map: its keys and values are written under the names that the map gives. -/
theorem body_of_xmlWriter? {writer : XmlWriter} (map : shape.kind? = some .map)
    (writes : service.xmlWriter? type shape = .ok (some writer)) :
    ∃ keyShape valueShape key v, shape.keyShape = .ok keyShape ∧ shape.valueShape = .ok valueShape ∧
      service.elementWrite keyShape shape.keyTag = .ok key ∧
      service.elementWrite valueShape shape.valueTag = .ok v ∧ writer.body = .map key v := by
  simp only [xmlWriter?, map, Except.bind_eq_ok_iff, Except.pure_eq_ok_iff,
    Option.some.injEq] at writes
  obtain ⟨keySlot, presentKey, valueSlot, presentValue, keyShape, givenKey, key, writesKey,
    valueShape, givenValue, v, writesValue, rfl⟩ := writes
  rw [displayOr_of_part presentKey] at writesKey
  rw [displayOr_of_part presentValue] at writesValue
  exact ⟨keyShape, valueShape, key, v, givenKey, givenValue, writesKey, writesValue, rfl⟩

/-- A reader and a writer of a map handle its keys by functions of one shape, and its values too. The
names of the elements are those of the map, and only the writer has them. -/
theorem map_codecs_agree {reader : XmlReader} {writer : XmlWriter}
    (map : shape.kind? = some .map)
    (reads : service.xmlReader? style type shape = .ok (some reader))
    (writes : service.xmlWriter? type shape = .ok (some writer)) :
    ∃ key v keyWrite valueWrite, reader.body = .map key v ∧ writer.body = .map keyWrite valueWrite ∧
      (∃ layout : ElementLayout, layout.tag = shape.keyTag ∧ layout.Parses key ∧
        layout.Writes keyWrite) ∧
      ∃ layout : ElementLayout, layout.tag = shape.valueTag ∧ layout.Parses v ∧
        layout.Writes valueWrite := by
  obtain ⟨keyShape, valueShape, keyWrite, valueWrite, givenKey, givenValue, writesKey, writesValue,
    writtenBody⟩ := body_of_xmlWriter? map writes
  simp only [xmlReader?, map, givenKey, givenValue, Except.ok_bind, Except.bind_eq_ok_iff,
    Except.pure_eq_ok_iff, Option.some.injEq] at reads
  obtain ⟨key, parsesKey, v, parsesValue, rfl⟩ := reads
  obtain ⟨keyLayout, -, keyNamed, takesKey, givesKey⟩ :=
    exists_codec_of_parserOf parsesKey writesKey false
  obtain ⟨valueLayout, -, valueNamed, takesValue, givesValue⟩ :=
    exists_codec_of_parserOf parsesValue writesValue false
  exact ⟨key, v, keyWrite, valueWrite, rfl, writtenBody, ⟨keyLayout, keyNamed, takesKey, givesKey⟩,
    ⟨valueLayout, valueNamed, takesValue, givesValue⟩⟩

/-- What the writer of a map makes is read as it stands if and only if the map names the elements of
its entries as readers do. -/
theorem map_read_iff {writer : XmlWriter} {key v : ElementWrite} (map : shape.kind? = some .map)
    (writes : service.xmlWriter? type shape = .ok (some writer)) (body : writer.body = .map key v) :
    (∀ parseKey parseValue tag pairs, Xml.Element.AreNamed key.tag v.tag pairs →
      (Xml.Element.ofEntries tag pairs).entries parseKey parseValue =
        pairs.foldlM (Xml.Element.putPair parseKey parseValue) []) ↔
      shape.keyTag = "key" ∧ shape.valueTag = "value" := by
  obtain ⟨_, _, _, _, -, -, writesKey, writesValue, same⟩ := body_of_xmlWriter? map writes
  rw [body] at same
  obtain ⟨rfl, rfl⟩ := WriterBody.map.inj same
  rw [tag_of_elementWrite writesKey, tag_of_elementWrite writesValue]
  exact Xml.Element.entries_ofEntries_iff

/-- Tags with names of their own for keys and values. -/
def tags : Shape where
  name := "Tags"
  type := .str "map"
  key := some { shape := .str "Text", locationName := .str "Name" }
  value := some { shape := .str "Text", locationName := .str "Value" }

/-- A service of tags. -/
def tagging : Service where
  metadata := { protocol := .str "rest-xml", fullName := .str "Tagging" }
  shapes := [("Tags", tags), ("Text", { name := "Text", type := .str "string" })]

/-- Readers of maps do not always look for what writers of the same maps make: no tag is read. -/
theorem map_read_elsewhere :
    ¬ ∀ (service : Service) style type shape reader writer key v, shape.kind? = some .map →
      service.xmlReader? style type shape = .ok (some reader) →
      service.xmlWriter? type shape = .ok (some writer) → writer.body = .map key v →
      ∀ parseKey parseValue tag pairs, Xml.Element.AreNamed key.tag v.tag pairs →
        (Xml.Element.ofEntries tag pairs).entries parseKey parseValue =
          pairs.foldlM (Xml.Element.putPair parseKey parseValue) [] := by
  intro always
  have map : tags.kind? = some .map := by decide
  have writes : tagging.xmlWriter? "Tags" tags =
      .ok (some ⟨"Tags", .map ⟨"Name", none⟩ ⟨"Value", none⟩⟩) := rfl
  have read := (map_read_iff map writes rfl).mp
    (always tagging ⟨true, false⟩ "Tags" tags ⟨"Tags", ⟨true, false⟩, .map .text .text⟩ _ _ _ map rfl
      writes rfl)
  exact absurd read.1 (by decide)

/-! ### Flattened maps -/

theorem key_of_formPut {reference : Json} {key : String} {put : FormPut}
    (made : service.formPut reference key = .ok put) : put.key = formKey key := by
  simp only [formPut, Except.bind_eq_ok_iff] at made
  obtain ⟨parts, -, made⟩ := made
  split at made
  case isTrue =>
    simp only [Except.bind_eq_ok_iff, Except.pure_eq_ok_iff] at made
    obtain ⟨_, -, rfl⟩ := made
    rfl
  case isFalse =>
    obtain rfl := Except.pure_eq_ok_iff.mp made
    rfl

/-- The form writer of a map: only a flattened one has its entries right under its name. -/
theorem body_of_formWriter? {writer : FormWriter} (map : shape.kind? = some .map)
    (writes : service.formWriter? type shape = .ok (some writer)) :
    ∃ key v entry, writer.body = .map key v ∧
      entry = (if shape.flattened then "\x7bname\x7d.\x7bindex\x7d"
        else "\x7bname\x7d.entry.\x7bindex\x7d") ∧
      key.key = formKey (entry ++ "." ++ shape.keyTag) ∧
      v.key = formKey (entry ++ "." ++ shape.valueTag) := by
  simp only [formWriter?, map, Except.bind_eq_ok_iff, Except.pure_eq_ok_iff,
    Option.some.injEq] at writes
  obtain ⟨keySlot, presentKey, valueSlot, presentValue, keyShape, -, key, putsKey,
    valueShape, -, v, putsValue, rfl⟩ := writes
  rw [displayOr_of_part presentKey] at putsKey
  rw [displayOr_of_part presentValue] at putsValue
  exact ⟨key, v, _, rfl, rfl, key_of_formPut putsKey, key_of_formPut putsValue⟩

/-- A member that is a map is read from one child that holds all entries, flattened or not. -/
theorem elementAccessor_of_map {ec2 : Bool} {name : String} {member : Member} {target : Shape}
    {accessor : Accessor} (defines : service.shape member.shape = .ok target)
    (map : target.kind? = some .map)
    (reads : service.elementAccessor ec2 shape name member = .ok accessor) :
    ∃ tag parser, accessor = .required tag parser ∨ accessor = .optional tag parser := by
  have wrapped : service.standsFlat member = .ok false := by
    simp [standsFlat, defines, map]
  simp only [elementAccessor, wrapped, Except.ok_bind, Bool.false_eq_true, if_false,
    Except.bind_eq_ok_iff, Except.pure_eq_ok_iff] at reads
  obtain ⟨parser, -, rfl⟩ := reads
  by_cases needed : shape.requires name = true
  · rw [if_pos needed]
    exact ⟨_, _, .inl rfl⟩
  · rw [if_neg needed]
    exact ⟨_, _, .inr rfl⟩

end Service

end ServiceClient
