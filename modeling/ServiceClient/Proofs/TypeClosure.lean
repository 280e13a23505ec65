import ServiceClient.Proofs.CodecClosure
import ServiceClient.Proofs.GenerationSuccess

/-!
The types that a module names are those that it declares, but for the exceptions. A name in a
declaration stands for a shape to which the declared shape refers, a name in a method for an input or
an output. Whatever is defined and is no exception has a declaration under its name; that a reference
is defined at all is only known of shapes that travel, since the search looks at no others.
-/

namespace ServiceClient

/-- The builtin types that a synonym may stand for. -/
def builtinTypes : List String := ["bytes", "bool", "float", "int", "str"]

namespace ModuleCode

/-- The types that the text of a module declares are those of its sections. -/
theorem named_type (code : ModuleCode) :
    code.pieces.named .type = code.sections.map (·.declaration.declared) := by
  have only : KeepsNames (· == .type) := .named (by decide)
  have section_type (part : ShapeSection) :
      part.pieces.named .type = [part.declaration.declared] := by
    rcases part with ⟨shape, declaration, reader, writer⟩
    cases reader <;> cases writer <;>
      simp [ShapeSection.pieces, Pieces.gap, Pieces.broken, Declaration.wordsOf_pieces only,
        only.xmlReader, ShapeWriter.wordsOf_pieces only]
  simp [pieces, Pieces.gap, section_type, ErrorCode.wordsOf_pieces only,
    wordsOf_clientPieces only, Method.wordsOf_pieces _ only, List.map_eq_flatMap]

end ModuleCode

namespace Service

variable {service : Service}

/-- A shape is sent or received. -/
def Travels (service : Service) (name : String) : Prop :=
  ∃ start ∈ service.inputs ++ service.outputs, service.Reaches start (.str name)

/-- A type stands for the shape of a reference: it has its name and is declared, unless the shape is
an exception or is not defined. -/
structure StandsFor (service : Service) (code : ModuleCode) (type : String)
    (reference : Json) : Prop where
  named : reference.typeName = .ok type
  declared : ∀ shape, service.Defines reference shape → shape.exception = false →
    type ∈ code.pieces.named .type

/-! ### What is declared -/

theorem declared_of_declaration {style : Style} {name : String} {shape : Shape} {marks : RecordMarks}
    {declaration : Declaration} (made : service.declaration style name shape marks = .ok declaration) :
    declaration.declared = name := by
  unfold Service.declaration at made
  split at made
  case h_1 =>
    simp only [Except.bind_eq_ok_iff, Except.pure_eq_ok_iff] at made
    obtain ⟨fields, -, documentation, -, rfl⟩ := made
    rfl
  case h_2 =>
    simp only [Except.bind_eq_ok_iff, Except.pure_eq_ok_iff] at made
    obtain ⟨_, -, element, -, documentation, -, rfl⟩ := made
    rfl
  case h_3 =>
    simp only [Except.bind_eq_ok_iff, Except.pure_eq_ok_iff] at made
    obtain ⟨_, -, key, -, _, -, value, -, documentation, -, rfl⟩ := made
    rfl
  case h_4 =>
    split at made
    case h_1 =>
      simp only [Except.bind_eq_ok_iff, Except.pure_eq_ok_iff] at made
      obtain ⟨documentation, -, rfl⟩ := made
      rfl
    case h_2 => cases made

/-- A shape that is no exception is declared under its name. -/
theorem mem_named_type {style : Style} {reach : Reach} {code : ModuleCode}
    (made : service.shapeSections style reach = .ok code.sections) {name : String} {shape : Shape}
    (found : service.shapes.lookup name = some shape) (plain : shape.exception = false) :
    Naming.typeName name ∈ code.pieces.named .type := by
  have own : (name, shape) ∈ service.declaredShapes :=
    List.mem_filter.mpr ⟨Pairs.mem_of_lookup found, by simp [plain]⟩
  obtain ⟨part, listed, result⟩ := Except.result_mem_of_mapM_eq_ok made own
  simp only [shapeSection, Except.bind_eq_ok_iff, Except.pure_eq_ok_iff] at result
  obtain ⟨declaration, declared, _, -, _, -, rfl⟩ := result
  have named := declared_of_declaration declared
  rw [code.named_type]
  exact List.mem_map.mpr ⟨_, listed, named⟩

theorem standsFor_of_typeName {style : Style} {reach : Reach} {code : ModuleCode}
    (made : service.shapeSections style reach = .ok code.sections) {reference : Json} {type : String}
    (named : reference.typeName = .ok type) : service.StandsFor code type reference := by
  refine ⟨named, ?_⟩
  rintro shape ⟨name, rfl, found⟩ plain
  have same : Naming.typeName name = type := Except.ok.inj named
  rw [← same]
  exact mem_named_type made found plain

/-! ### What is named -/

/-- The builtin type of a primitive kind. -/
theorem primitive?_mem_builtinTypes {family : Family} {kind : ShapeKind} {target : String}
    {width : Option String} (primitive : primitive? family kind = some (target, width)) :
    target ∈ builtinTypes := by
  cases kind <;> cases family <;> cases primitive <;> decide

theorem typeName_of_field {style : Style} {shape : Shape} {hasWireFields : Bool} {name : String}
    {member : Member} {field : Field}
    (made : service.field style shape hasWireFields name member = .ok field) :
    member.shape.typeName = .ok field.type := by
  simp only [Service.field, Except.bind_eq_ok_iff, Except.pure_eq_ok_iff] at made
  obtain ⟨type, named, wire, -, documentation, -, rfl⟩ := made
  exact named

/-- A declaration names builtin types and those of the shapes to which its own shape refers. -/
theorem types_of_declaration {style : Style} {name : String} {shape : Shape} {marks : RecordMarks}
    {declaration : Declaration} (made : service.declaration style name shape marks = .ok declaration) :
    (∀ type ∈ declaration.pieces.named .use,
      ∃ reference, shape.RefersTo reference ∧ reference.typeName = .ok type) ∧
    ∀ type ∈ declaration.pieces.named .builtin, type ∈ builtinTypes := by
  rw [declaration.named_use]
  unfold Service.declaration at made
  split at made
  case h_1 kind =>
    simp only [Except.bind_eq_ok_iff, Except.pure_eq_ok_iff] at made
    obtain ⟨fields, fieldsMade, documentation, -, rfl⟩ := made
    refine ⟨?_, by simp [Declaration.named_builtin_record]⟩
    intro type listed
    obtain ⟨field, own, rfl⟩ := List.mem_map.mp listed
    obtain ⟨⟨memberName, member⟩, live, fieldMade⟩ := Except.mem_of_mapM_eq_ok fieldsMade own
    have inside : (memberName, member) ∈ shape.members := List.mem_of_mem_filter live
    exact ⟨member.shape, .member kind inside, typeName_of_field fieldMade⟩
  case h_2 kind =>
    simp only [Except.bind_eq_ok_iff, Except.pure_eq_ok_iff] at made
    obtain ⟨reference, given, element, named, documentation, -, rfl⟩ := made
    refine ⟨?_, by simp [Declaration.named_builtin_synonym]⟩
    intro type listed
    obtain rfl := List.mem_singleton.mp listed
    exact ⟨reference, Shape.refersTo_of_elementShape kind given, named⟩
  case h_3 kind =>
    simp only [Except.bind_eq_ok_iff, Except.pure_eq_ok_iff] at made
    obtain ⟨key, keyGiven, keyType, keyNamed, value, valueGiven, valueType, valueNamed,
      documentation, -, rfl⟩ := made
    obtain ⟨refersKey, refersValue⟩ :=
      Shape.refersTo_of_keyShape_of_valueShape kind keyGiven valueGiven
    refine ⟨?_, by simp [Declaration.named_builtin_synonym]⟩
    intro type listed
    rcases List.mem_pair.mp listed with rfl | rfl
    · exact ⟨key, refersKey, keyNamed⟩
    · exact ⟨value, refersValue, valueNamed⟩
  case h_4 =>
    split at made
    case h_1 target width primitive =>
      simp only [Except.bind_eq_ok_iff, Except.pure_eq_ok_iff] at made
      obtain ⟨documentation, -, rfl⟩ := made
      obtain ⟨kind, -, primitive⟩ := Option.bind_eq_some_iff.mp primitive
      constructor
      · intro type listed
        cases listed
      · intro type listed
        rw [Declaration.named_builtin_synonym] at listed
        obtain rfl := List.mem_singleton.mp listed
        exact primitive?_mem_builtinTypes primitive
    case h_2 => cases made

/-- What travels refers to shapes that are defined. -/
theorem defines_of_travels {reach : Reach} (done : service.reach = .ok reach) {name : String}
    (travels : service.Travels name) {shape : Shape}
    (found : service.shapes.lookup name = some shape) {reference : Json}
    (refers : shape.RefersTo reference) : ∃ target, service.Defines reference target := by
  obtain ⟨sent, received⟩ := covers_of_reach done
  obtain ⟨start, inside, reaches⟩ := travels
  have reaches : service.Reaches start reference :=
    reaches_of_leads reaches found (leads_of_refersTo refers)
  rcases List.mem_append.mp inside with input | output
  · exact sent.defines input reaches
  · exact received.defines output reaches

/-- The type of a JSON response is that of the output. -/
theorem typeName_of_jsonResponse {operation : Operation} {type body : String}
    {extras : List (String × String)}
    (made : service.jsonResponse operation = .ok (.value type body extras)) :
    operation.output.truthy = true ∧ operation.output.typeName = .ok type := by
  unfold jsonResponse at made
  split at made
  case isTrue present =>
    simp only [Except.bind_eq_ok_iff, Except.pure_eq_ok_iff, JsonResponse.value.injEq] at made
    obtain ⟨_, typed, _, -, _, -, rfl, -⟩ := made
    exact ⟨present, typed⟩
  case isFalse => cases made

theorem jsonResponse_of_methodBody {family : Family} {head : MethodHead}
    {bindings : List InputBinding} {payload : JsonPayload} {response : JsonResponse}
    (made : service.methodBody family head = .ok (.restJson bindings payload response)) :
    service.jsonResponse head.operation = .ok response := by
  cases family with
  | json => cases made
  | query => cases made
  | restJson =>
    simp only [methodBody, Except.bind_eq_ok_iff, Except.pure_eq_ok_iff] at made
    obtain ⟨_, -, _, -, answer, answered, same⟩ := made
    cases same
    exact answered
  | restXml =>
    simp only [methodBody, Except.bind_eq_ok_iff, Except.pure_eq_ok_iff, reduceCtorEq, and_false,
      exists_false] at made

/-- A method takes the type of an input and gives that of an output. -/
theorem typeName_of_methodList {style : Style} {methods : List Method}
    (made : service.methodList style = .ok methods) {method : Method} (listed : method ∈ methods)
    {type : String} (named : type ∈ method.types) :
    ∃ reference ∈ service.inputs ++ service.outputs, reference.typeName = .ok type := by
  simp only [methodList, Except.bind_eq_ok_iff] at made
  obtain ⟨heads, headsMade, made⟩ := made
  obtain ⟨head, headListed, result⟩ := Except.mem_of_mapM_eq_ok made listed
  obtain ⟨body, bodyMade, rfl⟩ := Except.map_eq_ok_iff.mp result
  obtain ⟨⟨name, operation⟩, own, headMade⟩ := Except.mem_of_mapM_eq_ok headsMade headListed
  simp only [methodHead, Except.bind_eq_ok_iff, Except.pure_eq_ok_iff] at headMade
  obtain ⟨_, -, inputType, inputMade, outputType, outputMade, _, -, _, -, _, -, _, -, rfl⟩ := headMade
  rcases List.mem_append.mp named with head | response
  · rcases List.mem_append.mp head with input | output
    · obtain rfl := Option.mem_toList.mp input
      obtain ⟨present, typed⟩ := typeName_of_ioType inputMade
      exact ⟨operation.input, List.mem_append_left _ (input_mem own present), typed⟩
    · obtain rfl := Option.mem_toList.mp output
      obtain ⟨present, typed⟩ := typeName_of_ioType outputMade
      exact ⟨operation.output, List.mem_append_right _ (output_mem own present), typed⟩
  · -- only a method with a JSON body names the type of its response
    split at response
    case h_1 bindings payload given extraBody extras isJson =>
      obtain rfl := List.mem_singleton.mp response
      have isJson : body = .restJson bindings payload (.value type extraBody extras) := isJson
      subst isJson
      have answered := jsonResponse_of_methodBody bodyMade
      obtain ⟨present, typed⟩ := typeName_of_jsonResponse answered
      exact ⟨operation.output, List.mem_append_right _ (output_mem own present), typed⟩
    case h_2 => cases response

/-! ### Modules without undeclared types -/

/-- The types that a module names stand for shapes, and those are defined wherever they are named by
a method or by the declaration of a shape that travels. -/
theorem types_stand_for_shapes {settings : Settings} {generated : Generated}
    (distinct : service.shapeNames.Nodup) (done : service.generate settings = .ok generated) :
    ∃ family code, service.Emits ⟨family, settings⟩ generated code ∧
      (∀ part ∈ code.sections, ∃ shape, service.shapes.lookup part.shape = some shape ∧
        (∀ type ∈ part.declaration.pieces.named .builtin, type ∈ builtinTypes) ∧
        ∀ type ∈ part.declaration.pieces.named .use,
          ∃ reference, shape.RefersTo reference ∧ service.StandsFor code type reference ∧
            (service.Travels part.shape → ∃ target, service.Defines reference target)) ∧
      ∀ method ∈ code.methods, ∀ type ∈ method.pieces.named .use,
        ∃ reference ∈ service.inputs ++ service.outputs,
          service.StandsFor code type reference ∧ ∃ target, service.Defines reference target := by
  obtain ⟨family, code, emits⟩ := emits_of_generate done
  obtain ⟨reach, reachDone, sectionsMade⟩ := emits.sectionsMade
  refine ⟨family, code, emits, ?_, ?_⟩
  · intro part listed
    obtain ⟨⟨name, shape⟩, own, result⟩ := Except.mem_of_mapM_eq_ok sectionsMade listed
    have found : service.shapes.lookup name = some shape :=
      Pairs.lookup_of_mem distinct (List.mem_of_mem_filter own)
    simp only [shapeSection, Except.bind_eq_ok_iff, Except.pure_eq_ok_iff] at result
    obtain ⟨declaration, declared, _, -, _, -, rfl⟩ := result
    obtain ⟨named, builtin⟩ := types_of_declaration declared
    refine ⟨shape, found, builtin, ?_⟩
    intro type inside
    obtain ⟨reference, refers, named⟩ := named type inside
    exact ⟨reference, refers, standsFor_of_typeName sectionsMade named,
      fun travels => defines_of_travels reachDone travels found refers⟩
  · intro method listed type named
    obtain ⟨reference, inside, named⟩ :=
      typeName_of_methodList emits.methodsMade listed (Method.mem_types named)
    obtain ⟨sent, received⟩ := covers_of_reach reachDone
    refine ⟨reference, inside, standsFor_of_typeName sectionsMade named, ?_⟩
    rcases List.mem_append.mp inside with input | output
    · exact sent.defines input .refl
    · exact received.defines output .refl

/-! ### Replies with an exception -/

/-- A description of replies that may hold an exception, and of a draft that nothing sends. -/
def repliesDescription : Json := .obj [
  ("metadata", .obj [("protocol", .str "json"), ("serviceFullName", .str "Replies")]),
  ("shapes", .obj [
    ("Reply", .obj [("type", .str "structure"),
      ("members", .obj [("Lines", .obj [("shape", .str "Lines")]),
        ("Failure", .obj [("shape", .str "Conflict")])])]),
    ("Lines", .obj [("type", .str "list"), ("member", .obj [("shape", .str "Text")])]),
    ("Text", .obj [("type", .str "string")]),
    ("Conflict", .obj [("type", .str "structure"), ("exception", .bool true)]),
    ("Draft", .obj [("type", .str "list"), ("member", .obj [("shape", .str "Line")])])]),
  ("operations", .obj [("Get", .obj [("output", .obj [("shape", .str "Reply")])])])]

def replies : Service where
  metadata := { protocol := .str "json", fullName := .str "Replies" }
  shapes := [
    ("Reply", {
      name := "Reply", type := .str "structure"
      members := [("Lines", { shape := .str "Lines" }), ("Failure", { shape := .str "Conflict" })] }),
    ("Lines", { name := "Lines", type := .str "list", member := some { shape := .str "Text" } }),
    ("Text", { name := "Text", type := .str "string" }),
    ("Conflict", { name := "Conflict", type := .str "structure", exception := true }),
    ("Draft", { name := "Draft", type := .str "list", member := some { shape := .str "Line" } })]
  operations := [("Get", { name := .str "Get", output := .str "Reply" })]

theorem replies_generate : ∃ generated, replies.generate {} = .ok generated := by
  have documented : Layout.service repliesDescription := by decide
  have typed : replies.Typed := typed_of_ofJson documented (by decide)
  have followed : replies.Followed := followed_iff_reach_succeeds.mpr
    ⟨{ sent := [], received := ["Text", "Lines", "Conflict", "Reply"] }, by cbv⟩
  have declared : replies.Declared := by
    have each : ∀ shape ∈ replies.shapes.map (·.2), shape.Declarable := by
      intro shape listed
      simp only [replies, List.map_cons, List.map_nil, List.mem_cons, List.not_mem_nil,
        or_false] at listed
      rcases listed with rfl | rfl | rfl | rfl | rfl <;>
        exact ⟨by decide, ⟨by decide, by decide, by decide⟩⟩
    intro name shape inside _
    exact each shape (List.mem_map.mpr ⟨_, inside, rfl⟩)
  refine (generate_succeeds_iff typed Settings.typed_default).mpr
    ⟨⟨"json", by decide, rfl⟩, followed, declared, ?_⟩
  intro elements
  exact absurd elements (by decide)

/-- The declarations of the module for the replies. -/
def repliesDeclarations : List (String × Declaration) := [
  ("Reply", .record "Reply" ["_serde.deserializable", "_dataclasses.dataclass(kw_only=True)"] [
    ⟨"lines", "Lines", false, some ⟨"Lines", none⟩, none⟩,
    ⟨"failure", "Conflict", false, some ⟨"Failure", none⟩, none⟩] none),
  ("Lines", .synonym "Lines" (.list "Text") none none),
  ("Text", .synonym "Text" (.builtin "str") none none),
  ("Draft", .synonym "Draft" (.list "Line") none none)]

section Replies

variable {family : Family} {generated : Generated} {code : ModuleCode}

theorem map_section_of_replies (emits : replies.Emits ⟨family, {}⟩ generated code) :
    code.sections.map (fun part => (part.shape, part.declaration)) = repliesDeclarations := by
  obtain ⟨reach, reachDone, sectionsMade⟩ := emits.sectionsMade
  have json : replies.families = .ok (.json, .json) := by decide
  obtain ⟨rfl, -⟩ := Prod.mk.inj (Except.ok.inj (json.symm.trans emits.families))
  have made : (replies.reach.bind (replies.shapeSections ⟨.json, {}⟩)).map
      (·.map fun part => (part.shape, part.declaration)) = .ok repliesDeclarations := by cbv
  rw [reachDone] at made
  simp only [Except.bind, sectionsMade] at made
  exact Except.ok.inj made

theorem section_of_replies (emits : replies.Emits ⟨family, {}⟩ generated code)
    {name : String} {declaration : Declaration} (listed : (name, declaration) ∈ repliesDeclarations) :
    ∃ part ∈ code.sections, part.shape = name ∧ part.declaration = declaration := by
  rw [← map_section_of_replies emits] at listed
  obtain ⟨part, inside, same⟩ := List.mem_map.mp listed
  exact ⟨part, inside, Prod.mk.inj same⟩

theorem named_type_of_replies (emits : replies.Emits ⟨family, {}⟩ generated code) :
    code.pieces.named .type = ["Reply", "Lines", "Text", "Draft"] := by
  have made := map_section_of_replies emits
  have declared := congrArg (List.map fun pair => pair.2.declared) made
  rw [List.map_map] at declared
  exact code.named_type.trans declared

end Replies

/-- In the module for the replies, each type of a reply stands for a shape that is defined, and that
of its lines is declared. -/
theorem types_stand_for_shapes_replies :
    replies.shapeNames.Nodup ∧ replies.Travels "Reply" ∧
      ∃ generated, replies.generate {} = .ok generated ∧
        ∃ family code, replies.Emits ⟨family, {}⟩ generated code ∧
          "Lines" ∈ code.pieces.named .type ∧ ∃ part ∈ code.sections, part.shape = "Reply" ∧
            part.declaration.pieces.named .use = ["Lines", "Conflict"] ∧
            ∀ type ∈ part.declaration.pieces.named .use, ∃ reference,
              replies.StandsFor code type reference ∧
                ∃ target, replies.Defines reference target := by
  have distinct : replies.shapeNames.Nodup := by decide
  have travels : replies.Travels "Reply" := ⟨.str "Reply", by decide, .refl⟩
  obtain ⟨generated, done⟩ := replies_generate
  obtain ⟨family, code, emits, named, -⟩ := types_stand_for_shapes distinct done
  obtain ⟨part, listed, isReply, same⟩ := section_of_replies emits List.mem_cons_self
  obtain ⟨shape, found, -, only⟩ := named part listed
  refine ⟨distinct, travels, generated, done, family, code, emits, ?_, part, listed, isReply, ?_, ?_⟩
  · rw [named_type_of_replies emits]
    decide
  · rw [Declaration.named_use, same]
    rfl
  · intro type inside
    obtain ⟨reference, -, stands, defined⟩ := only type inside
    rw [isReply] at defined
    exact ⟨reference, stands, defined travels⟩

/-- The module for the replies names two types that it does not declare: that of an exception, which
has a class of another name, and that of a shape which is not defined and which nothing sends. -/
theorem replies_name_undeclared_types :
    replies.shapeNames.Nodup ∧ ∃ generated, replies.generate {} = .ok generated ∧
      ∀ family code, replies.Emits ⟨family, {}⟩ generated code →
        (∃ part ∈ code.sections, part.shape = "Reply" ∧
          "Conflict" ∈ part.declaration.pieces.named .use ∧ "Conflict" ∉ code.pieces.named .type) ∧
        ∃ part ∈ code.sections, part.shape = "Draft" ∧
          "Line" ∈ part.declaration.pieces.named .use ∧ "Line" ∉ code.pieces.named .type := by
  obtain ⟨generated, done⟩ := replies_generate
  refine ⟨by decide, generated, done, ?_⟩
  intro family code emits
  rw [named_type_of_replies emits]
  constructor
  · obtain ⟨part, listed, isReply, same⟩ := section_of_replies emits List.mem_cons_self
    refine ⟨part, listed, isReply, ?_, by decide⟩
    rw [Declaration.named_use, same]
    decide
  · have last : ("Draft", Declaration.synonym "Draft" (.list "Line") none none) ∈
        repliesDeclarations := by decide
    obtain ⟨part, listed, isDraft, same⟩ := section_of_replies emits last
    refine ⟨part, listed, isDraft, ?_, by decide⟩
    rw [Declaration.named_use, same]
    decide

end Service

end ServiceClient
