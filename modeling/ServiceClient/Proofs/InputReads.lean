import ServiceClient.Proofs.Emission
import ServiceClient.Proofs.MemberPlaces
import ServiceClient.Proofs.NameBinding

/-!
Which attributes of its input a method reads that sends members where they say. Members in the URI,
the query string and the headers are read under the names of fields that the record of the input has.
The member that is the whole body is read whether the record has a field for it or not.
-/

namespace ServiceClient

/-! ### What lines read -/

/-- A line reads a member of the input. -/
def ReadsMember (line member : String) : Prop :=
  ∃ before after, line = before ++ inputField member ++ after

/-- The expression or statement for a member in its place. -/
def InputBinding.lines (binding : InputBinding) : Lines :=
  (binding.uriValue?.map (·.2)).toList ++ binding.queryLine?.toList ++ binding.headerLine?.toList

theorem InputBinding.lines_eq (binding : InputBinding) :
    ∃ line, binding.lines = [line] ∧ ReadsMember line binding.member := by
  obtain ⟨member, place⟩ := binding
  cases place with
  | uri label => exact ⟨_, rfl, "", "", by simp⟩
  | query name => exact ⟨_, rfl, "_params.put(params, \"" ++ name ++ "\", ", ")", rfl⟩
  | queryMap => exact ⟨_, rfl, "_params.put_all(params, ", ")", rfl⟩
  | header name => exact ⟨_, rfl, "_params.put_header(request, \"" ++ name ++ "\", ", ")", rfl⟩
  | headers start =>
    exact ⟨_, rfl, "_params.put_prefixed_headers(request, \"" ++ start ++ "\", ", ")", rfl⟩

/-- The member that is sent as the whole body. -/
def JsonPayload.member? : JsonPayload → Option String
  | octets member | text member | document member => some member
  | nothing | input _ => none

/-- The member that is sent as the whole body. -/
def XmlPayload.member? : XmlPayload → Option String
  | octets member | text member | document member _ => some member
  | nothing | input _ => none

theorem readsMember_guard (member : String) :
    ReadsMember ("if " ++ inputField member ++ " is not None:") member := ⟨_, _, rfl⟩

theorem JsonPayload.exists_line {payload : JsonPayload} {member : String}
    (sent : payload.member? = some member) : ∃ line ∈ payload.lines, ReadsMember line member := by
  cases payload with
  | nothing | input _ => cases sent
  | octets _ =>
    cases sent
    exact ⟨_, List.mem_cons_self, "request.set_payload(", ")", rfl⟩
  | text _ | document _ =>
    cases sent
    exact ⟨_, List.mem_cons_self, readsMember_guard member⟩

theorem XmlPayload.exists_line {payload : XmlPayload} {member : String}
    (sent : payload.member? = some member) : ∃ line ∈ payload.lines, ReadsMember line member := by
  cases payload with
  | nothing | input _ => cases sent
  | octets _ =>
    cases sent
    exact ⟨_, List.mem_cons_self, "request.set_payload(", ")", rfl⟩
  | text _ | document _ _ =>
    cases sent
    exact ⟨_, List.mem_cons_self, readsMember_guard member⟩

namespace MethodBody

/-- The lines that make a request of the input. -/
def requestLines : MethodBody → Lines
  | restJson bindings payload _ => bindings.flatMap (·.lines) ++ payload.lines
  | restXml bindings payload _ => bindings.flatMap (·.lines) ++ payload.lines
  | json .. | query .. => []

/-- The members of the input that these lines read one by one. -/
def reads : MethodBody → List String
  | restJson bindings payload _ => bindings.map (·.member) ++ payload.member?.toList
  | restXml bindings payload _ => bindings.map (·.member) ++ payload.member?.toList
  | json .. | query .. => []

theorem exists_line_of_parts {bindings : List InputBinding} {lines : Lines} {sent : Option String}
    {member : String} (payload : sent = some member → ∃ line ∈ lines, ReadsMember line member)
    (isRead : member ∈ bindings.map (·.member) ++ sent.toList) :
    ∃ line ∈ bindings.flatMap (·.lines) ++ lines, ReadsMember line member := by
  rcases List.mem_append.mp isRead with bound | isSent
  · obtain ⟨binding, listed, rfl⟩ := List.mem_map.mp bound
    obtain ⟨line, alone, reads⟩ := binding.lines_eq
    have inside : line ∈ binding.lines := by simp [alone]
    exact ⟨line, List.mem_append_left _ (List.mem_flatMap_of_mem listed inside), reads⟩
  · obtain ⟨line, inside, reads⟩ := payload (Option.mem_toList.mp isSent)
    exact ⟨line, List.mem_append_right _ inside, reads⟩

/-- Each of them is read in a line. -/
theorem exists_line_of_mem_reads {body : MethodBody} {member : String} (isRead : member ∈ body.reads) :
    ∃ line ∈ body.requestLines, ReadsMember line member := by
  cases body with
  | json | query => cases isRead
  | restJson bindings payload response => exact exists_line_of_parts JsonPayload.exists_line isRead
  | restXml bindings payload response => exact exists_line_of_parts XmlPayload.exists_line isRead

end MethodBody

namespace Service

variable {service : Service} {shape : Shape} {operation : Operation}

/-! ### What methods read -/

theorem member_of_jsonPayload {payload : JsonPayload} (there : operation.input.truthy = true)
    (defines : service.shape operation.input = .ok shape)
    (made : service.jsonPayload operation = .ok payload) :
    ∃ whole, shape.wholeBody? = .ok whole ∧ payload.member? = whole.map (·.1) := by
  simp only [jsonPayload, there, if_true, defines, Except.ok_bind, Except.bind_eq_ok_iff] at made
  obtain ⟨whole, found, made⟩ := made
  refine ⟨whole, found, ?_⟩
  cases whole with
  | none =>
    have plain := Except.pure_eq_ok_iff.mp made
    split at plain <;> subst plain <;> rfl
  | some pair =>
    obtain ⟨kind, -, made⟩ := Except.bind_eq_ok_iff.mp made
    split at made <;> cases made <;> rfl

theorem member_of_xmlPayload {payload : XmlPayload} (there : operation.input.truthy = true)
    (defines : service.shape operation.input = .ok shape)
    (made : service.xmlPayload operation = .ok payload) :
    ∃ whole, shape.wholeBody? = .ok whole ∧ payload.member? = whole.map (·.1) := by
  simp only [xmlPayload, there, if_true, defines, Except.ok_bind, Except.bind_eq_ok_iff] at made
  obtain ⟨whole, found, made⟩ := made
  refine ⟨whole, found, ?_⟩
  cases whole with
  | none =>
    dsimp only at made
    split at made
    · cases made
      rfl
    · simp only [Except.bind_eq_ok_iff, Except.pure_eq_ok_iff] at made
      obtain ⟨_, -, rfl⟩ := made
      rfl
  | some pair =>
    obtain ⟨kind, -, made⟩ := Except.bind_eq_ok_iff.mp made
    split at made
    · cases made
      rfl
    · cases made
      rfl
    · simp only [Except.bind_eq_ok_iff, Except.pure_eq_ok_iff] at made
      obtain ⟨_, -, _, -, rfl⟩ := made
      rfl

/-- The members that a method reads have a place in the request or are the whole body. -/
theorem reads_of_methodBody {family : Family} {head : MethodHead} {body : MethodBody}
    (rest : family = .restJson ∨ family = .restXml) (there : head.operation.input.truthy = true)
    (defines : service.shape head.operation.input = .ok shape)
    (made : service.methodBody family head = .ok body) :
    ∃ bindings whole, service.bindingsOf shape = .ok bindings ∧ shape.wholeBody? = .ok whole ∧
      body.reads = bindings.map (·.member) ++ (whole.map (·.1)).toList := by
  rcases rest with rfl | rfl <;>
    simp only [methodBody, inputBindings, there, if_true, defines, Except.ok_bind,
      Except.bind_eq_ok_iff, Except.pure_eq_ok_iff] at made
  · obtain ⟨bindings, bound, payload, sent, response, -, rfl⟩ := made
    obtain ⟨whole, found, same⟩ := member_of_jsonPayload there defines sent
    exact ⟨bindings, whole, bound, found, by rw [MethodBody.reads, same]⟩
  · obtain ⟨bindings, bound, payload, sent, response, -, rfl⟩ := made
    obtain ⟨whole, found, same⟩ := member_of_xmlPayload there defines sent
    exact ⟨bindings, whole, bound, found, by rw [MethodBody.reads, same]⟩

/-- A member with a place in the request is declared. -/
theorem declared_of_bindingsOf {bindings : List InputBinding} {binding : InputBinding}
    (made : service.bindingsOf shape = .ok bindings) (listed : binding ∈ bindings) :
    ∃ member, (binding.member, member) ∈ shape.declared := by
  obtain ⟨results, done, same⟩ := Except.bind_eq_ok_iff.mp made
  cases same
  obtain ⟨result, inside, isSome⟩ := List.mem_filterMap.mp listed
  obtain ⟨⟨name, member⟩, located, bound⟩ := Except.mem_of_mapM_eq_ok done inside
  obtain rfl : result = some binding := isSome
  have isName : binding.member = name := by cases places_of_inputBinding? bound <;> rfl
  rw [Shape.located_eq] at located
  exact ⟨member, isName ▸ (List.mem_filter.mp located).1⟩

/-- A method reads fields of the record only, unless the whole body is a deprecated member whose
field no other member has. -/
theorem reads_declared_iff {style : Style} {hasWireFields : Bool} {fields : List Field}
    {family : Family} {head : MethodHead} {body : MethodBody}
    (rest : family = .restJson ∨ family = .restXml) (there : head.operation.input.truthy = true)
    (defines : service.shape head.operation.input = .ok shape)
    (declares : service.fields style shape hasWireFields = .ok fields)
    (made : service.methodBody family head = .ok body) :
    (∀ name ∈ body.reads, Naming.fieldName name ∈ fields.map (·.name)) ↔
      ∀ name member, shape.wholeBody? = .ok (some (name, member)) → member.deprecated = true →
        ∃ other ∈ shape.declared, Naming.fieldName other.1 = Naming.fieldName name := by
  obtain ⟨bindings, whole, bound, found, reads⟩ := reads_of_methodBody rest there defines made
  have named : fields.map (·.name) = shape.declared.map fun pair => Naming.fieldName pair.1 :=
    names_of_fields declares
  rw [reads, named]
  constructor
  · intro all name member isWhole _
    obtain rfl := Except.ok.inj (found.symm.trans isWhole)
    exact List.mem_map.mp (all name (by simp))
  · intro others name isRead
    rcases List.mem_append.mp isRead with inPlace | isWhole
    · obtain ⟨binding, listed, rfl⟩ := List.mem_map.mp inPlace
      obtain ⟨member, declared⟩ := declared_of_bindingsOf bound listed
      exact List.mem_map.mpr ⟨_, declared, rfl⟩
    -- the whole body is taken from all members, the others from those that are declared
    · obtain ⟨⟨own, member⟩, rfl, same⟩ := Option.map_eq_some_iff.mp (Option.mem_toList.mp isWhole)
      obtain rfl : own = name := same
      by_cases deprecated : member.deprecated = true
      · exact List.mem_map.mpr (others _ member found deprecated)
      · have declared : (own, member) ∈ shape.declared :=
          List.mem_filter.mpr ⟨mem_of_wholeBody? found, by simpa using deprecated⟩
        exact List.mem_map.mpr ⟨_, declared, rfl⟩

/-- So it is for every method of a generated module. -/
theorem methods_read_declared_iff {settings : Settings} {generated : Generated}
    (done : service.generate settings = .ok generated) :
    ∃ family code, service.Emits ⟨family, settings⟩ generated code ∧
      (family = .restJson ∨ family = .restXml → ∀ method ∈ code.methods, ∀ shape hasWireFields fields,
        method.head.operation.input.truthy = true →
        service.shape method.head.operation.input = .ok shape →
        service.fields ⟨family, settings⟩ shape hasWireFields = .ok fields →
          ((∀ name ∈ method.body.reads, Naming.fieldName name ∈ fields.map (·.name)) ↔
            ∀ name member, shape.wholeBody? = .ok (some (name, member)) →
              member.deprecated = true →
                ∃ other ∈ shape.declared, Naming.fieldName other.1 = Naming.fieldName name)) := by
  obtain ⟨family, code, emits⟩ := emits_of_generate done
  refine ⟨family, code, emits, ?_⟩
  intro rest method listed shape hasWireFields fields there defines declares
  obtain ⟨heads, -, made⟩ := Except.bind_eq_ok_iff.mp emits.methodsMade
  obtain ⟨head, -, result⟩ := Except.mem_of_mapM_eq_ok made listed
  obtain ⟨body, bodyMade, rfl⟩ := Except.map_eq_ok_iff.mp result
  exact reads_declared_iff rest there defines declares bodyMade

/-- A note whose text is the whole body and is deprecated. -/
def datedNote : Shape where
  name := "Note"
  type := .str "structure"
  payload := .str "Body"
  members := [
    ("Id", { shape := .str "Text", location := .str "uri" }),
    ("Body", { shape := .str "Text", deprecated := true })]

def datedNotes : Service where
  metadata := {
    protocol := .str "rest-json", fullName := .str "Notes", endpointPrefix := .str "notes" }
  shapes := [("Note", datedNote), ("Text", { name := "Text", type := .str "string" })]
  operations := [("PutNote", {
    name := .str "PutNote", httpMethod := .str "PUT", requestUri := .str "/notes/\x7bId\x7d"
    input := .str "Note" })]

def datedNotesDescription : Json := .obj [
  ("metadata", .obj [("protocol", .str "rest-json"), ("serviceFullName", .str "Notes"),
    ("endpointPrefix", .str "notes")]),
  ("shapes", .obj [
    ("Note", .obj [("type", .str "structure"), ("payload", .str "Body"),
      ("members", .obj [
        ("Id", .obj [("shape", .str "Text"), ("location", .str "uri")]),
        ("Body", .obj [("shape", .str "Text"), ("deprecated", .bool true)])])]),
    ("Text", .obj [("type", .str "string")])]),
  ("operations", .obj [("PutNote", .obj [("name", .str "PutNote"),
    ("http", .obj [("method", .str "PUT"), ("requestUri", .str "/notes/\x7bId\x7d")]),
    ("input", .obj [("shape", .str "Note")])])])]

theorem datedNotes_generate : ∃ generated, datedNotes.generate {} = .ok generated := by
  have documented : Layout.service datedNotesDescription := by decide
  have typed : datedNotes.Typed := typed_of_ofJson documented (by decide)
  have followed : datedNotes.Followed := followed_iff_reach_succeeds.mpr
    ⟨{ sent := ["Text", "Note"], received := [] }, by cbv⟩
  have declared : datedNotes.Declared := by
    have each : ∀ shape ∈ datedNotes.shapes.map (·.2), shape.Declarable := by
      intro shape listed
      simp only [datedNotes, List.map_cons, List.map_nil, List.mem_cons, List.not_mem_nil,
        or_false] at listed
      rcases listed with rfl | rfl <;> exact ⟨by decide, ⟨by decide, by decide, by decide⟩⟩
    intro name shape inside _
    exact each shape (List.mem_map.mpr ⟨_, inside, rfl⟩)
  refine (generate_succeeds_iff typed Settings.typed_default).mpr
    ⟨⟨"rest-json", by decide, rfl⟩, followed, declared, ?_⟩
  intro elements
  exact absurd elements (by decide)

/-- A module is generated in which the record of the note has no field for the text, though the
method reads it. -/
theorem deprecated_wholeBody_read :
    (∃ generated, datedNotes.generate {} = .ok generated) ∧
    ∃ methods fields, datedNotes.methodList ⟨.restJson, {}⟩ = .ok methods ∧
      datedNotes.fields ⟨.restJson, {}⟩ datedNote true = .ok fields ∧
      fields.map (·.name) = ["id"] ∧
      methods.flatMap (·.body.requestLines) = ["input.id", "if input.body is not None:",
        "    request.set_content_type(\"text/plain\")",
        "    request.set_payload(input.body.encode(\"utf-8\"))"] := by
  refine ⟨datedNotes_generate, _, _, rfl, rfl, ?_, ?_⟩ <;> decide +kernel

end Service

end ServiceClient
