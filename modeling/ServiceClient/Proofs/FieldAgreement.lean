import ServiceClient.Proofs.MemberPlaces
import ServiceClient.Proofs.NameBinding
import ServiceClient.Proofs.XmlLayout

/-!
A record and the functions that read and write it agree on its fields. A reader calls the record
with a keyword for each of its fields, in order; the writer of a form looks at each field, in order;
and the writer of an element looks at each field but those of members that travel outside the body.
So no call lacks a keyword that the record needs or has one that it does not know, and no writer
looks at an attribute that is not there.
-/

namespace ServiceClient

/-! ### Fields -/

/-- A call with some keywords makes a record of some fields: none is unknown to the record, and none
that it requires is missing. -/
structure Accepts (fields : List Field) (keywords : List String) : Prop where
  known : ∀ keyword ∈ keywords, ∃ field ∈ fields, field.name = keyword
  supplied : ∀ field ∈ fields, field.required = true → field.name ∈ keywords

theorem accepts_names (fields : List Field) : Accepts fields (fields.map (·.name)) where
  known := by
    intro keyword listed
    exact List.mem_map.mp listed
  supplied := by
    intro field listed _
    exact List.mem_map_of_mem listed

/-- The declared members without a location outside the body. -/
def Shape.unlocated (shape : Shape) : List (String × Member) :=
  shape.declared.filter (!outsideBody.contains ·.2.location)

theorem Shape.unlocated_eq {shape : Shape} : shape.unlocated = shape.writtenMembers := by
  rw [unlocated, declared, List.filter_filter]
  exact List.filter_congr fun _ _ => Bool.and_comm ..

namespace Service

/-- The functions for a structure agree with the fields of its record, whatever style they are in. -/
structure CodecsAgree (service : Service) (shape : Shape) (fields : List Field) : Prop where
  declared : fields.map (·.name) = shape.declared.map fun pair => Naming.fieldName pair.1
  reader : ∀ style type made, service.xmlReader? style type shape = .ok made →
    ∃ (reader : XmlReader) (arguments : List (String × Accessor)), made = some reader ∧
      reader.render = .ok (reader.heading ++ XmlReader.call type arguments) ∧
      arguments.map (·.1) = fields.map (·.name) ∧ Accepts fields (arguments.map (·.1))
  formWriter : ∀ type made, service.formWriter? type shape = .ok made →
    ∃ (writer : FormWriter) (looked : List FormField), made = some writer ∧
      writer.render = .ok (writer.heading ++ FormWriter.puts looked) ∧
      looked.map (·.name) = fields.map (·.name)
  xmlWriter : ∀ type made, service.xmlWriter? type shape = .ok made →
    ∃ (writer : XmlWriter) (looked : List WriterField), made = some writer ∧
      writer.render = .ok (writer.heading ++ String.join (looked.map XmlWriter.appendLines) ++
        "    return node\n") ∧
      looked.map (·.name) = (shape.unlocated.map fun pair => Naming.fieldName pair.1) ∧
      (looked.map (·.name)).Sublist (fields.map (·.name))

variable {service : Service} {shape : Shape}

theorem names_of_readerFields {style : ReaderStyle} {arguments : List (String × Accessor)}
    (made : service.readerFields style shape = .ok arguments) :
    arguments.map (·.1) = shape.declared.map fun pair => Naming.fieldName pair.1 := by
  rw [readerFields] at made
  apply Except.map_eq_of_mapM_eq_ok _ made
  rintro ⟨name, member⟩ argument done
  simp only [Except.bind_eq_ok_iff, Except.pure_eq_ok_iff] at done
  obtain ⟨_, -, rfl⟩ := done
  dsimp only

theorem names_of_formFields {looked : List FormField}
    (made : service.formFields shape = .ok looked) :
    looked.map (·.name) = shape.declared.map fun pair => Naming.fieldName pair.1 := by
  rw [formFields] at made
  apply Except.map_eq_of_mapM_eq_ok _ made
  rintro ⟨name, member⟩ field done
  simp only [Except.bind_eq_ok_iff, Except.pure_eq_ok_iff] at done
  obtain ⟨_, -, _, -, rfl⟩ := done
  dsimp only

theorem names_of_writerFields {looked : List WriterField}
    (made : service.writerFields shape = .ok looked) :
    looked.map (·.name) = shape.unlocated.map fun pair => Naming.fieldName pair.1 := by
  rw [writerFields, ← Shape.writtenMembers, ← Shape.unlocated_eq] at made
  exact Except.map_eq_of_mapM_eq_ok (fun _ _ => name_of_writerField) made

/-- The reply to a request for a letter, with members in every place. -/
def letterReply : Shape where
  name := "LetterReply"
  type := .str "structure"
  payload := .str "Body"
  required := [.str "Count"]
  members := [
    ("LetterId", { shape := .str "Text", location := .str "header" }),
    ("Owner", { shape := .str "Text", deprecated := true }),
    ("Class", { shape := .str "Text" }),
    ("Lines", { shape := .str "TextList", flattened := true }),
    ("Count", { shape := .str "Number" }),
    ("Body", { shape := .str "Text" })]

def letters : Service where
  metadata := { protocol := .str "rest-xml", fullName := .str "Letters" }
  shapes := [
    ("LetterReply", letterReply),
    ("Text", { name := "Text", type := .str "string" }),
    ("Number", { name := "Number", type := .str "integer" }),
    ("TextList", { name := "TextList", type := .str "list", member := some { shape := .str "Text" } })]

end Service

end ServiceClient
