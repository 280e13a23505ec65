import Mathlib
import ServiceClient.Proofs.GenerationSuccess

/-!
A generated module is closed: every reader and writer that its text calls is one that its text defines.
Calls are made in readers, writers and methods, and each of them names the function of a shape with
parts to which the caller's shape refers. Functions are defined for the shapes that are sent or received, and
those are closed under reference, so the two meet in `Service.Names`. Modules without such functions
mark their records instead, and the marks are closed in the same way.
-/

namespace ServiceClient

/-! ### The functions that a module calls -/

def ShapeWriter.calls : ShapeWriter → List String
  | form writer => writer.calls
  | xml writer => writer.calls

namespace ShapeSection

/-- The readers and writers that are called in a section. -/
def calls (part : ShapeSection) : List String :=
  part.reader.toList.flatMap XmlReader.calls ++ part.writer.toList.flatMap ShapeWriter.calls

/-- The readers and writers that a section defines. -/
def functions (part : ShapeSection) : List String :=
  part.reader.toList.map XmlReader.function ++ part.writer.toList.map ShapeWriter.function

/-- The text of the section has a decorator. -/
def IsMarked (part : ShapeSection) (decorator : String) : Prop :=
  decorator ∈ part.declaration.pieces.named .mark

end ShapeSection

/-! ### Calls and definitions in the text -/

/-- The text of a writer binds its name and calls the writers that its layout names. -/
theorem ShapeWriter.wordsOf_pieces {keep : Role → Bool} (only : KeepsNames keep)
    (writer : ShapeWriter) : writer.pieces.wordsOf keep =
      (if keep .function then [writer.function] else []) ++
        if keep .call then writer.calls else [] := by
  cases writer with
  | form writer => exact only.formWriter writer
  | xml writer => exact only.xmlWriter writer

namespace ShapeSection

theorem named_call (part : ShapeSection) : part.pieces.named .call = part.calls := by
  have only : KeepsNames (· == .call) := .named (by decide)
  rcases part with ⟨shape, declaration, reader, writer⟩
  cases reader <;> cases writer <;>
    simp [pieces, calls, Pieces.gap, Pieces.broken, Declaration.wordsOf_pieces only, only.xmlReader,
      ShapeWriter.wordsOf_pieces only]

theorem named_function (part : ShapeSection) : part.pieces.named .function = part.functions := by
  have only : KeepsNames (· == .function) := .named (by decide)
  rcases part with ⟨shape, declaration, reader, writer⟩
  cases reader <;> cases writer <;>
    simp [pieces, functions, Pieces.gap, Pieces.broken, Declaration.wordsOf_pieces only,
      only.xmlReader, ShapeWriter.wordsOf_pieces only]

end ShapeSection

theorem Method.named_call (method : Method) : method.pieces.named .call = method.calls :=
  method.wordsOf_pieces (.named (by decide))

namespace ModuleCode

/-- The calls in the text of a module are those in its sections and its methods. -/
theorem named_call (code : ModuleCode) : code.pieces.named .call =
    code.sections.flatMap ShapeSection.calls ++ code.methods.flatMap Method.calls := by
  have only : KeepsNames (· == .call) := .named (by decide)
  simp [pieces, Pieces.gap, ShapeSection.named_call, ErrorCode.wordsOf_pieces only,
    wordsOf_clientPieces only, Method.wordsOf_pieces _ only]

/-- The functions that the text of a module defines are those in its sections. -/
theorem named_function (code : ModuleCode) :
    code.pieces.named .function = code.sections.flatMap ShapeSection.functions := by
  have only : KeepsNames (· == .function) := .named (by decide)
  simp [pieces, Pieces.gap, ShapeSection.named_function, ErrorCode.wordsOf_pieces only,
    wordsOf_clientPieces only, Method.wordsOf_pieces _ only]

end ModuleCode

namespace Service

variable {service : Service}

/-- A call of the function that the shape of a reference has because it has parts. -/
def Names (service : Service) (make : String → String) (reference : Json) (call : String) : Prop :=
  ∃ name shape kind, reference = .str name ∧ service.shapes.lookup name = some shape ∧
    shape.kind? = some kind ∧ kind.hasParts ∧ call = make (Naming.typeName name)

/-! ### Calls of readers -/

theorem known_hasParts_iff {kind : Option ShapeKind} :
    (kind.map ShapeKind.hasParts).getD false = true ↔
      ∃ known, kind = some known ∧ known.hasParts := by
  cases kind <;> simp

theorem calls_ofKind (kind : Option ShapeKind) : (Parser.ofKind kind).calls = [] := by
  rcases kind with _ | kind
  · rfl
  · cases kind <;> rfl

theorem names_of_parserOf {reference : Json} {parser : Parser}
    (made : service.parserOf reference = .ok parser) :
    ∀ call ∈ parser.calls, service.Names Naming.readerName reference call := by
  simp only [parserOf, kindOf, Except.bind_eq_ok_iff, Except.map_eq_ok_iff] at made
  obtain ⟨kind, ⟨shape, defines, rfl⟩, made⟩ := made
  obtain ⟨name, rfl, found⟩ := shape_eq_ok_iff.mp defines
  intro call inside
  split at made
  case isTrue parts =>
    obtain ⟨kind, known, parts⟩ := known_hasParts_iff.mp parts
    simp only [Json.typeName, Except.ok_bind, Except.pure_eq_ok_iff] at made
    subst made
    obtain rfl := List.mem_singleton.mp inside
    exact ⟨name, shape, kind, rfl, found, known, parts, rfl⟩
  case isFalse =>
    obtain rfl := Except.pure_eq_ok_iff.mp made
    rw [calls_ofKind] at inside
    cases inside

theorem names_of_payloadAccessor {member : Member} {accessor : Accessor}
    (made : service.payloadAccessor member = .ok accessor) :
    ∀ call ∈ accessor.calls, service.Names Naming.readerName member.shape call := by
  simp only [payloadAccessor, Except.bind_eq_ok_iff] at made
  obtain ⟨kind, -, made⟩ := made
  split at made
  case h_1 =>
    obtain rfl := Except.pure_eq_ok_iff.mp made
    intro call inside
    cases inside
  case h_2 =>
    obtain rfl := Except.pure_eq_ok_iff.mp made
    intro call inside
    cases inside
  case h_3 =>
    simp only [Except.bind_eq_ok_iff, Except.pure_eq_ok_iff] at made
    obtain ⟨parser, made, rfl⟩ := made
    exact names_of_parserOf made

theorem names_of_elementAccessor {ec2 : Bool} {shape : Shape} {name : String} {member : Member}
    {accessor : Accessor} (kind : shape.kind? = some .struct)
    (inside : (name, member) ∈ shape.members)
    (made : service.elementAccessor ec2 shape name member = .ok accessor) :
    ∀ call ∈ accessor.calls,
      ∃ target, service.Leads shape target ∧ service.Names Naming.readerName target call := by
  simp only [elementAccessor, Except.bind_eq_ok_iff] at made
  obtain ⟨flat, flatDone, made⟩ := made
  split at made
  case isTrue isFlat =>
    subst isFlat
    simp only [Except.bind_eq_ok_iff, Except.pure_eq_ok_iff, shape_eq_ok_iff] at made
    obtain ⟨list, defines, part, -, element, given, parser, made, rfl⟩ := made
    intro call called
    exact ⟨element, leads_of_flat kind inside flatDone defines given,
      names_of_parserOf made call called⟩
  case isFalse =>
    simp only [Except.bind_eq_ok_iff, Except.pure_eq_ok_iff] at made
    obtain ⟨parser, made, rfl⟩ := made
    intro call called
    refine ⟨member.shape, leads_of_refersTo (.member kind inside), names_of_parserOf made call ?_⟩
    split at called <;> exact called

theorem names_of_accessor {style : ReaderStyle} {shape : Shape} {name : String} {member : Member}
    {accessor : Accessor} (kind : shape.kind? = some .struct)
    (inside : (name, member) ∈ shape.members)
    (made : service.accessor style shape name member = .ok accessor) :
    ∀ call ∈ accessor.calls,
      ∃ target, service.Leads shape target ∧ service.Names Naming.readerName target call := by
  intro call called
  unfold Service.accessor at made
  split at made
  case isTrue =>
    simp only [Except.bind_eq_ok_iff, Except.pure_eq_ok_iff] at made
    obtain ⟨kind, -, rfl⟩ := made
    simp [Accessor.calls, calls_ofKind] at called
  case isFalse =>
    split at made
    case isTrue =>
      obtain rfl := Except.pure_eq_ok_iff.mp made
      cases called
    case isFalse =>
      split at made
      case isTrue =>
        obtain rfl := Except.pure_eq_ok_iff.mp made
        cases called
      case isFalse =>
        split at made
        case isTrue =>
          exact ⟨member.shape, leads_of_refersTo (.member kind inside),
            names_of_payloadAccessor made call called⟩
        case isFalse => exact names_of_elementAccessor kind inside made call called

/-- A reader calls readers of shapes that its own shape leads to. -/
theorem names_of_xmlReader? {style : ReaderStyle} {type : String} {shape : Shape} {reader : XmlReader}
    (made : service.xmlReader? style type shape = .ok (some reader)) :
    ∀ call ∈ reader.calls,
      ∃ target, service.Leads shape target ∧ service.Names Naming.readerName target call := by
  intro call called
  unfold xmlReader? at made
  split at made
  case h_1 kind =>
    simp only [Except.bind_eq_ok_iff, Except.pure_eq_ok_iff, Option.some.injEq] at made
    obtain ⟨fields, made, rfl⟩ := made
    obtain ⟨⟨field, accessor⟩, listed, called⟩ := List.mem_flatMap.mp called
    obtain ⟨⟨name, member⟩, inside, result⟩ := Except.mem_of_mapM_eq_ok made listed
    simp only [Except.bind_eq_ok_iff, Except.pure_eq_ok_iff, Prod.mk.injEq] at result
    obtain ⟨_, result, rfl, rfl⟩ := result
    exact names_of_accessor kind (List.mem_of_mem_filter inside) result call called
  case h_2 kind =>
    simp only [Except.bind_eq_ok_iff, Except.pure_eq_ok_iff, Option.some.injEq] at made
    obtain ⟨element, present, parser, made, rfl⟩ := made
    have given : shape.member = some element := by
      unfold Shape.part at present
      split at present <;> simp_all
    exact ⟨element.shape, leads_of_refersTo (.element kind given), names_of_parserOf made call called⟩
  case h_3 kind =>
    simp only [Except.bind_eq_ok_iff, Except.pure_eq_ok_iff, Option.some.injEq] at made
    obtain ⟨key, keyGiven, keyParser, keyMade, value, valueGiven, valueParser, valueMade, rfl⟩ := made
    obtain ⟨refersKey, refersValue⟩ :=
      Shape.refersTo_of_keyShape_of_valueShape kind keyGiven valueGiven
    rcases List.mem_append.mp called with called | called
    · exact ⟨key, leads_of_refersTo refersKey, names_of_parserOf keyMade call called⟩
    · exact ⟨value, leads_of_refersTo refersValue, names_of_parserOf valueMade call called⟩
  case h_4 => cases made

/-! ### Calls of writers -/

theorem names_of_hasParts {make : String → String} {reference : Json} {type : String}
    (parts : service.hasParts reference = .ok true) (typed : reference.typeName = .ok type) :
    service.Names make reference (make type) := by
  simp only [hasParts, kindOf, Except.map_eq_ok_iff] at parts
  obtain ⟨_, ⟨shape, defines, rfl⟩, parts⟩ := parts
  obtain ⟨name, rfl, found⟩ := shape_eq_ok_iff.mp defines
  obtain ⟨kind, known, parts⟩ := known_hasParts_iff.mp parts
  obtain rfl := Except.ok.inj typed
  exact ⟨name, shape, kind, rfl, found, known, parts, rfl⟩

theorem names_of_elementWrite {reference : Json} {tag : String} {write : ElementWrite}
    (made : service.elementWrite reference tag = .ok write) :
    ∀ call ∈ write.writer.toList, service.Names Naming.writerName reference call := by
  simp only [elementWrite, Except.bind_eq_ok_iff] at made
  obtain ⟨parts, known, made⟩ := made
  intro call called
  split at made
  case isTrue holds =>
    subst holds
    simp only [Except.bind_eq_ok_iff, Except.pure_eq_ok_iff] at made
    obtain ⟨type, typed, rfl⟩ := made
    obtain rfl := List.mem_singleton.mp called
    exact names_of_hasParts known typed
  case isFalse =>
    obtain rfl := Except.pure_eq_ok_iff.mp made
    cases called

theorem names_of_writerField {shape : Shape} {name : String} {member : Member} {field : WriterField}
    (kind : shape.kind? = some .struct) (inside : (name, member) ∈ shape.members)
    (made : service.writerField name member = .ok field) :
    ∀ call ∈ field.write.writer.toList,
      ∃ target, service.Leads shape target ∧ service.Names Naming.writerName target call := by
  simp only [writerField, Except.bind_eq_ok_iff] at made
  obtain ⟨flat, flatDone, made⟩ := made
  intro call called
  split at made
  case isTrue isFlat =>
    subst isFlat
    simp only [Except.bind_eq_ok_iff, Except.pure_eq_ok_iff, shape_eq_ok_iff] at made
    obtain ⟨list, defines, element, given, part, -, write, made, rfl⟩ := made
    exact ⟨element, leads_of_flat kind inside flatDone defines given,
      names_of_elementWrite made call called⟩
  case isFalse =>
    simp only [Except.bind_eq_ok_iff, Except.pure_eq_ok_iff] at made
    obtain ⟨write, made, rfl⟩ := made
    exact ⟨member.shape, leads_of_refersTo (.member kind inside),
      names_of_elementWrite made call called⟩

/-- A writer of elements calls writers of shapes that its own shape leads to. -/
theorem names_of_xmlWriter? {type : String} {shape : Shape} {writer : XmlWriter}
    (made : service.xmlWriter? type shape = .ok (some writer)) :
    ∀ call ∈ writer.calls,
      ∃ target, service.Leads shape target ∧ service.Names Naming.writerName target call := by
  intro call called
  unfold xmlWriter? at made
  split at made
  case h_1 kind =>
    simp only [Except.bind_eq_ok_iff, Except.pure_eq_ok_iff, Option.some.injEq] at made
    obtain ⟨fields, made, rfl⟩ := made
    obtain ⟨field, listed, called⟩ := List.mem_flatMap.mp called
    obtain ⟨⟨name, member⟩, inside, result⟩ := Except.mem_of_mapM_eq_ok made listed
    exact names_of_writerField kind (List.mem_of_mem_filter inside) result call called
  case h_2 kind =>
    simp only [Except.bind_eq_ok_iff, Except.pure_eq_ok_iff, Option.some.injEq] at made
    obtain ⟨_, -, element, given, write, made, rfl⟩ := made
    exact ⟨element, leads_of_refersTo (Shape.refersTo_of_elementShape kind given),
      names_of_elementWrite made call called⟩
  case h_3 kind =>
    simp only [Except.bind_eq_ok_iff, Except.pure_eq_ok_iff, Option.some.injEq] at made
    obtain ⟨_, -, _, -, key, keyGiven, keyWrite, keyMade, value, valueGiven, valueWrite, valueMade,
      rfl⟩ := made
    obtain ⟨refersKey, refersValue⟩ :=
      Shape.refersTo_of_keyShape_of_valueShape kind keyGiven valueGiven
    rcases List.mem_append.mp called with called | called
    · exact ⟨key, leads_of_refersTo refersKey, names_of_elementWrite keyMade call called⟩
    · exact ⟨value, leads_of_refersTo refersValue, names_of_elementWrite valueMade call called⟩
  case h_4 => cases made

theorem names_of_formPut {reference : Json} {key : String} {put : FormPut}
    (made : service.formPut reference key = .ok put) :
    ∀ call ∈ put.writer.toList, service.Names Naming.writerName reference call := by
  simp only [formPut, Except.bind_eq_ok_iff] at made
  obtain ⟨parts, known, made⟩ := made
  intro call called
  split at made
  case isTrue holds =>
    subst holds
    simp only [Except.bind_eq_ok_iff, Except.pure_eq_ok_iff] at made
    obtain ⟨type, typed, rfl⟩ := made
    obtain rfl := List.mem_singleton.mp called
    exact names_of_hasParts known typed
  case isFalse =>
    obtain rfl := Except.pure_eq_ok_iff.mp made
    cases called

/-- A form writer calls writers of shapes to which its own shape refers. -/
theorem names_of_formWriter? {type : String} {shape : Shape} {writer : FormWriter}
    (made : service.formWriter? type shape = .ok (some writer)) :
    ∀ call ∈ writer.calls,
      ∃ target, service.Leads shape target ∧ service.Names Naming.writerName target call := by
  intro call called
  unfold formWriter? at made
  split at made
  case h_1 kind =>
    simp only [Except.bind_eq_ok_iff, Except.pure_eq_ok_iff, Option.some.injEq] at made
    obtain ⟨fields, made, rfl⟩ := made
    obtain ⟨field, listed, called⟩ := List.mem_flatMap.mp called
    obtain ⟨⟨name, member⟩, inside, result⟩ := Except.mem_of_mapM_eq_ok made listed
    simp only [Except.bind_eq_ok_iff, Except.pure_eq_ok_iff] at result
    obtain ⟨key, -, put, result, rfl⟩ := result
    exact ⟨member.shape, leads_of_refersTo (.member kind (List.mem_of_mem_filter inside)),
      names_of_formPut result call called⟩
  case h_2 kind =>
    simp only [Except.bind_eq_ok_iff, Except.pure_eq_ok_iff, Option.some.injEq] at made
    obtain ⟨_, -, element, given, put, made, rfl⟩ := made
    exact ⟨element, leads_of_refersTo (Shape.refersTo_of_elementShape kind given),
      names_of_formPut made call called⟩
  case h_3 kind =>
    simp only [Except.bind_eq_ok_iff, Except.pure_eq_ok_iff, Option.some.injEq] at made
    obtain ⟨_, -, _, -, key, keyGiven, keyPut, keyMade, value, valueGiven, valuePut, valueMade,
      rfl⟩ := made
    obtain ⟨refersKey, refersValue⟩ :=
      Shape.refersTo_of_keyShape_of_valueShape kind keyGiven valueGiven
    rcases List.mem_append.mp called with called | called
    · exact ⟨key, leads_of_refersTo refersKey, names_of_formPut keyMade call called⟩
    · exact ⟨value, leads_of_refersTo refersValue, names_of_formPut valueMade call called⟩
  case h_4 => cases made

theorem names_of_writer? {family : Family} {type : String} {shape : Shape} {writer : ShapeWriter}
    (made : service.writer? family type shape = .ok (some writer)) :
    ∀ call ∈ writer.calls,
      ∃ target, service.Leads shape target ∧ service.Names Naming.writerName target call := by
  unfold writer? at made
  split at made
  case h_1 =>
    simp only [Except.map_eq_ok_iff, Option.map_eq_some_iff] at made
    obtain ⟨_, made, form, rfl, rfl⟩ := made
    exact names_of_formWriter? made
  case h_2 =>
    simp only [Except.map_eq_ok_iff, Option.map_eq_some_iff] at made
    obtain ⟨_, made, xml, rfl, rfl⟩ := made
    exact names_of_xmlWriter? made
  case h_3 => cases made
  case h_4 => cases made

theorem names_of_reader? {family : Family} {type : String} {shape : Shape} {reader : XmlReader}
    (made : service.reader? family type shape = .ok (some reader)) :
    ∀ call ∈ reader.calls,
      ∃ target, service.Leads shape target ∧ service.Names Naming.readerName target call := by
  unfold reader? at made
  split at made
  case h_1 => exact names_of_xmlReader? made
  case h_2 => cases made

/-! ### Calls of a whole module -/

/-- A call of the writer of a shape that is sent, or of the reader of one that is received. -/
def Called (service : Service) (call : String) : Prop :=
  (∃ start ∈ service.inputs, ∃ target, service.Reaches start target ∧
    service.Names Naming.writerName target call) ∨
  ∃ start ∈ service.outputs, ∃ target, service.Reaches start target ∧
    service.Names Naming.readerName target call

/-- The calls in the section for a shape. -/
theorem called_of_shapeSection {style : Style} {reach : Reach} {name : String} {shape : Shape}
    {part : ShapeSection} (done : service.reach = .ok reach)
    (found : service.shapes.lookup name = some shape)
    (made : service.shapeSection style reach name shape = .ok part) :
    ∀ call ∈ part.calls, service.Called call := by
  obtain ⟨sent, received⟩ := covers_of_reach done
  simp only [shapeSection, marks, Except.bind_eq_ok_iff, Except.pure_eq_ok_iff] at made
  obtain ⟨declaration, -, reader?, readerMade, writer?, writerMade, rfl⟩ := made
  intro call called
  rcases List.mem_append.mp called with called | called
  · obtain ⟨reader, present, inside⟩ := List.mem_flatMap.mp called
    obtain rfl := Option.mem_toList.mp present
    obtain ⟨marked, readerMade⟩ := Except.guarded_eq_ok_some_iff.mp readerMade
    obtain ⟨start, output, reaches⟩ := (received.mem_iff name).mp (List.contains_iff_mem.mp marked)
    obtain ⟨target, leads, names⟩ := names_of_reader? readerMade call inside
    exact .inr ⟨start, output, target, reaches_of_leads reaches found leads, names⟩
  · obtain ⟨writer, present, inside⟩ := List.mem_flatMap.mp called
    obtain rfl := Option.mem_toList.mp present
    obtain ⟨marked, writerMade⟩ := Except.guarded_eq_ok_some_iff.mp writerMade
    obtain ⟨start, input, reaches⟩ := (sent.mem_iff name).mp (List.contains_iff_mem.mp marked)
    obtain ⟨target, leads, names⟩ := names_of_writer? writerMade call inside
    exact .inl ⟨start, input, target, reaches_of_leads reaches found leads, names⟩

/-- Every input and output is a structure. -/
def TakesStructures (service : Service) : Prop :=
  ∀ start ∈ service.inputs ++ service.outputs, ∀ shape, service.Defines start shape →
    shape.kind? = some .struct

/-- A member that is the whole body of an input has parts, or is octets or a text. -/
def SendsDocuments (service : Service) : Prop :=
  ∀ start ∈ service.inputs, ∀ shape, service.Defines start shape →
    ∀ name member, shape.wholeBody? = .ok (some (name, member)) → ∀ body,
      service.Defines member.shape body → ∃ kind, body.kind? = some kind ∧
        (kind.hasParts ∨ kind = .blob ∨ kind = .string)

/-- No exception is sent or received. -/
def SendsNoException (service : Service) : Prop :=
  ∀ start ∈ service.inputs ++ service.outputs, ∀ target, service.Reaches start target →
    ∀ shape, service.Defines target shape → shape.exception = false

theorem names_of_structure {make : String → String} {reference : Json} {shape : Shape}
    {type : String} (defines : service.Defines reference shape) (kind : shape.kind? = some .struct)
    (typed : reference.typeName = .ok type) : service.Names make reference (make type) := by
  obtain ⟨name, rfl, found⟩ := defines
  obtain rfl := Except.ok.inj typed
  exact ⟨name, shape, .struct, rfl, found, kind, rfl, rfl⟩

/-- A writer that a method calls is that of the input or of the member that is the whole body. -/
theorem called_of_xmlPayload {reach : Reach} {operation : Operation} {payload : XmlPayload}
    (done : service.reach = .ok reach) (structures : service.TakesStructures)
    (documents : service.SendsDocuments)
    (input : operation.input.truthy → operation.input ∈ service.inputs)
    (made : service.xmlPayload operation = .ok payload) :
    ∀ call ∈ payload.calls, service.Called call := by
  intro call called
  unfold xmlPayload at made
  split at made
  case isFalse =>
    obtain rfl := Except.pure_eq_ok_iff.mp made
    cases called
  case isTrue present =>
    have start := input present
    simp only [Except.bind_eq_ok_iff, shape_eq_ok_iff] at made
    obtain ⟨shape, defines, whole, wholeBody, made⟩ := made
    have struct := structures _ (List.mem_append_left _ start) shape defines
    split at made
    case h_1 name member =>
      simp only [Except.bind_eq_ok_iff] at made
      obtain ⟨kind, kindDone, made⟩ := made
      split at made
      case h_1 =>
        obtain rfl := Except.pure_eq_ok_iff.mp made
        cases called
      case h_2 =>
        obtain rfl := Except.pure_eq_ok_iff.mp made
        cases called
      case h_3 notOctets notText =>
        simp only [xmlBody, Except.bind_eq_ok_iff, Except.pure_eq_ok_iff] at made
        obtain ⟨tag, -, _, ⟨type, typed, rfl⟩, rfl⟩ := made
        obtain rfl := List.mem_singleton.mp called
        have inside := mem_of_wholeBody? wholeBody
        have reaches : service.Reaches operation.input member.shape :=
          .single ⟨shape, defines, .member struct inside⟩
        obtain ⟨body, definesBody⟩ := (covers_of_reach done).1.defines start reaches
        rw [memberKind?_of_defines definesBody, Except.ok.injEq] at kindDone
        obtain ⟨known, isKnown, parts | blob | string⟩ :=
          documents _ start shape defines name member wholeBody body definesBody
        · obtain ⟨bodyName, reference, found⟩ := definesBody
          rw [reference] at typed
          obtain rfl := Except.ok.inj typed
          exact .inl
            ⟨_, start, _, reaches, bodyName, body, known, reference, found, isKnown, parts, rfl⟩
        · exact absurd (by rw [← kindDone, isKnown, blob]) notOctets
        · exact absurd (by rw [← kindDone, isKnown, string]) notText
    case h_2 =>
      split at made
      case isTrue =>
        obtain rfl := Except.pure_eq_ok_iff.mp made
        cases called
      case isFalse =>
        simp only [xmlBody, Except.bind_eq_ok_iff, Except.pure_eq_ok_iff] at made
        obtain ⟨_, ⟨type, typed, rfl⟩, rfl⟩ := made
        obtain rfl := List.mem_singleton.mp called
        exact .inl ⟨_, start, _, .refl, names_of_structure defines struct typed⟩

theorem called_of_xmlResponse {operation : Operation} {response : XmlResponse}
    (structures : service.TakesStructures)
    (output : operation.output.truthy → operation.output ∈ service.outputs)
    (made : service.xmlResponse operation = .ok response) :
    ∀ call ∈ response.calls, service.Called call := by
  intro call called
  unfold xmlResponse at made
  split at made
  case isFalse =>
    obtain rfl := Except.pure_eq_ok_iff.mp made
    cases called
  case isTrue present =>
    have start := output present
    simp only [Except.bind_eq_ok_iff, shape_eq_ok_iff] at made
    obtain ⟨type, typed, shape, defines, whole, -, made⟩ := made
    have struct := structures _ (List.mem_append_right _ start) shape defines
    have call_eq : call = Naming.readerName type := by
      split at made
      case h_1 =>
        simp only [Except.bind_eq_ok_iff] at made
        obtain ⟨kind, -, made⟩ := made
        split at made <;> obtain rfl := Except.pure_eq_ok_iff.mp made <;>
          exact List.mem_singleton.mp called
      case h_2 =>
        obtain rfl := Except.pure_eq_ok_iff.mp made
        exact List.mem_singleton.mp called
    subst call_eq
    exact .inr ⟨_, start, _, .refl, names_of_structure defines struct typed⟩

theorem mem_functionFor {make : String → String} {type : Option String} {call : String}
    (called : call ∈ (functionFor make type).toList) :
    ∃ name, type = some name ∧ call = make name := by
  cases type with
  | none => cases called
  | some name =>
    refine ⟨name, rfl, ?_⟩
    by_cases unnamed : name.isEmpty
    · simp [functionFor, unnamed] at called
    · simpa [functionFor, unnamed] using called

/-- The calls in the method for an operation. -/
theorem called_of_method {reach : Reach} {settings : Settings} {family : Family}
    {operation : Operation} {head : MethodHead} {method : Method} (done : service.reach = .ok reach)
    (structures : service.TakesStructures)
    (documents : family = .restXml → service.SendsDocuments)
    (input : operation.input.truthy → operation.input ∈ service.inputs)
    (output : operation.output.truthy → operation.output ∈ service.outputs)
    (headMade : service.methodHead settings operation = .ok head)
    (made : service.method family head = .ok method) :
    ∀ call ∈ method.calls, service.Called call := by
  simp only [methodHead, Except.bind_eq_ok_iff, Except.pure_eq_ok_iff] at headMade
  obtain ⟨_, -, inputType, inputMade, outputType, outputMade, _, -, _, -, _, -, _, -, rfl⟩ := headMade
  obtain ⟨body, bodyMade, rfl⟩ := Except.map_eq_ok_iff.mp made
  intro call called
  cases family with
  | json =>
    obtain rfl := Except.pure_eq_ok_iff.mp bodyMade
    cases called
  | query =>
    obtain rfl := Except.pure_eq_ok_iff.mp bodyMade
    obtain ⟨sent, received⟩ := covers_of_reach done
    rcases List.mem_append.mp called with writes | reads
    · obtain ⟨type, rfl, rfl⟩ := mem_functionFor writes
      obtain ⟨present, typed⟩ := typeName_of_ioType inputMade
      obtain ⟨shape, defines⟩ := sent.defines (input present) .refl
      have struct := structures _ (List.mem_append_left _ (input present)) shape defines
      exact .inl ⟨_, input present, _, .refl, names_of_structure defines struct typed⟩
    · obtain ⟨type, rfl, rfl⟩ := mem_functionFor reads
      obtain ⟨present, typed⟩ := typeName_of_ioType outputMade
      obtain ⟨shape, defines⟩ := received.defines (output present) .refl
      have struct := structures _ (List.mem_append_right _ (output present)) shape defines
      exact .inr ⟨_, output present, _, .refl, names_of_structure defines struct typed⟩
  | restJson =>
    simp only [methodBody, Except.bind_eq_ok_iff, Except.pure_eq_ok_iff] at bodyMade
    obtain ⟨_, -, _, -, _, -, rfl⟩ := bodyMade
    cases called
  | restXml =>
    simp only [methodBody, Except.bind_eq_ok_iff, Except.pure_eq_ok_iff] at bodyMade
    obtain ⟨_, -, payload, sends, response, receives, rfl⟩ := bodyMade
    rcases List.mem_append.mp called with writes | reads
    · exact called_of_xmlPayload done structures (documents rfl) input sends call writes
    · exact called_of_xmlResponse structures output receives call reads

/-! ### The functions that a module defines -/

theorem function_of_xmlReader? {style : ReaderStyle} {type : String} {shape : Shape}
    {made : Option XmlReader} {kind : ShapeKind} (known : shape.kind? = some kind)
    (parts : kind.hasParts) (done : service.xmlReader? style type shape = .ok made) :
    ∃ reader, made = some reader ∧ reader.function = Naming.readerName type := by
  unfold xmlReader? at done
  rw [known] at done
  cases kind with
  | struct =>
    simp only [Except.bind_eq_ok_iff, Except.pure_eq_ok_iff] at done
    obtain ⟨_, -, rfl⟩ := done
    exact ⟨_, rfl, rfl⟩
  | list =>
    simp only [Except.bind_eq_ok_iff, Except.pure_eq_ok_iff] at done
    obtain ⟨_, -, _, -, rfl⟩ := done
    exact ⟨_, rfl, rfl⟩
  | map =>
    simp only [Except.bind_eq_ok_iff, Except.pure_eq_ok_iff] at done
    obtain ⟨_, -, _, -, _, -, _, -, rfl⟩ := done
    exact ⟨_, rfl, rfl⟩
  | _ => cases parts

theorem function_of_xmlWriter? {type : String} {shape : Shape} {made : Option XmlWriter}
    {kind : ShapeKind} (known : shape.kind? = some kind) (parts : kind.hasParts)
    (done : service.xmlWriter? type shape = .ok made) :
    ∃ writer, made = some writer ∧ writer.function = Naming.writerName type := by
  unfold xmlWriter? at done
  rw [known] at done
  cases kind with
  | struct =>
    simp only [Except.bind_eq_ok_iff, Except.pure_eq_ok_iff] at done
    obtain ⟨_, -, rfl⟩ := done
    exact ⟨_, rfl, rfl⟩
  | list =>
    simp only [Except.bind_eq_ok_iff, Except.pure_eq_ok_iff] at done
    obtain ⟨_, -, _, -, _, -, rfl⟩ := done
    exact ⟨_, rfl, rfl⟩
  | map =>
    simp only [Except.bind_eq_ok_iff, Except.pure_eq_ok_iff] at done
    obtain ⟨_, -, _, -, _, -, _, -, _, -, _, -, rfl⟩ := done
    exact ⟨_, rfl, rfl⟩
  | _ => cases parts

theorem function_of_formWriter? {type : String} {shape : Shape} {made : Option FormWriter}
    {kind : ShapeKind} (known : shape.kind? = some kind) (parts : kind.hasParts)
    (done : service.formWriter? type shape = .ok made) :
    ∃ writer, made = some writer ∧ writer.function = Naming.writerName type := by
  unfold formWriter? at done
  rw [known] at done
  cases kind with
  | struct =>
    simp only [Except.bind_eq_ok_iff, Except.pure_eq_ok_iff] at done
    obtain ⟨_, -, rfl⟩ := done
    exact ⟨_, rfl, rfl⟩
  | list =>
    simp only [Except.bind_eq_ok_iff, Except.pure_eq_ok_iff] at done
    obtain ⟨_, -, _, -, _, -, rfl⟩ := done
    exact ⟨_, rfl, rfl⟩
  | map =>
    simp only [Except.bind_eq_ok_iff, Except.pure_eq_ok_iff] at done
    obtain ⟨_, -, _, -, _, -, _, -, _, -, _, -, rfl⟩ := done
    exact ⟨_, rfl, rfl⟩
  | _ => cases parts

/-- Where records are not written and read by their fields, a shape with parts has a reader. -/
theorem function_of_reader? {family : Family} {type : String} {shape : Shape}
    {made : Option XmlReader} {kind : ShapeKind} (known : shape.kind? = some kind)
    (parts : kind.hasParts) (functions : family.usesWireFields = false)
    (done : service.reader? family type shape = .ok made) :
    ∃ reader, made = some reader ∧ reader.function = Naming.readerName type := by
  cases family with
  | query => exact function_of_xmlReader? known parts done
  | restXml => exact function_of_xmlReader? known parts done
  | json => cases functions
  | restJson => cases functions

theorem function_of_writer? {family : Family} {type : String} {shape : Shape}
    {made : Option ShapeWriter} {kind : ShapeKind} (known : shape.kind? = some kind)
    (parts : kind.hasParts) (functions : family.usesWireFields = false)
    (done : service.writer? family type shape = .ok made) :
    ∃ writer, made = some writer ∧ writer.function = Naming.writerName type := by
  cases family with
  | query =>
    obtain ⟨form, formDone, rfl⟩ := Except.map_eq_ok_iff.mp done
    obtain ⟨writer, rfl, named⟩ := function_of_formWriter? known parts formDone
    exact ⟨.form writer, rfl, named⟩
  | restXml =>
    obtain ⟨xml, xmlDone, rfl⟩ := Except.map_eq_ok_iff.mp done
    obtain ⟨writer, rfl, named⟩ := function_of_xmlWriter? known parts xmlDone
    exact ⟨.xml writer, rfl, named⟩
  | json => cases functions
  | restJson => cases functions

/-- Whatever is reached and is no exception has a section. -/
theorem section_of_reaches {style : Style} {reach : Reach} {sections : List ShapeSection}
    (plain : service.SendsNoException) (made : service.shapeSections style reach = .ok sections)
    {start : Json} (inside : start ∈ service.inputs ++ service.outputs) {name : String}
    {shape : Shape} (reaches : service.Reaches start (.str name))
    (found : service.shapes.lookup name = some shape) :
    ∃ part ∈ sections, service.shapeSection style reach name shape = .ok part := by
  have declared : (name, shape) ∈ service.declaredShapes := by
    refine List.mem_filter.mpr ⟨Pairs.mem_of_lookup found, ?_⟩
    simp [plain start inside _ reaches shape (defines_str.mpr found)]
  obtain ⟨part, listed, result⟩ := Except.result_mem_of_mapM_eq_ok made declared
  exact ⟨part, listed, result⟩

/-- A function that may be called is defined. -/
theorem mem_functions_of_called {style : Style} {reach : Reach} {sections : List ShapeSection}
    (done : service.reach = .ok reach) (plain : service.SendsNoException)
    (functions : style.family.usesWireFields = false)
    (made : service.shapeSections style reach = .ok sections) {call : String}
    (called : service.Called call) : call ∈ sections.flatMap ShapeSection.functions := by
  obtain ⟨sent, received⟩ := covers_of_reach done
  rcases called with ⟨start, inside, _, reaches, name, shape, kind, rfl, found, known, parts, rfl⟩ |
    ⟨start, inside, _, reaches, name, shape, kind, rfl, found, known, parts, rfl⟩
  · obtain ⟨part, listed, result⟩ :=
      section_of_reaches plain made (List.mem_append_left _ inside) reaches found
    have marked : reach.sent.contains name :=
      List.contains_iff_mem.mpr ((sent.mem_iff name).mpr ⟨start, inside, reaches⟩)
    simp only [shapeSection, marks, marked, if_true, Except.bind_eq_ok_iff,
      Except.pure_eq_ok_iff] at result
    obtain ⟨_, -, _, -, writer?, writerMade, rfl⟩ := result
    obtain ⟨writer, rfl, named⟩ := function_of_writer? known parts functions writerMade
    refine List.mem_flatMap.mpr ⟨_, listed, List.mem_append_right _ ?_⟩
    exact List.mem_singleton.mpr named.symm
  · obtain ⟨part, listed, result⟩ :=
      section_of_reaches plain made (List.mem_append_right _ inside) reaches found
    have marked : reach.received.contains name :=
      List.contains_iff_mem.mpr ((received.mem_iff name).mpr ⟨start, inside, reaches⟩)
    simp only [shapeSection, marks, marked, if_true, Except.bind_eq_ok_iff,
      Except.pure_eq_ok_iff] at result
    obtain ⟨_, -, reader?, readerMade, _, -, rfl⟩ := result
    obtain ⟨reader, rfl, named⟩ := function_of_reader? known parts functions readerMade
    refine List.mem_flatMap.mpr ⟨_, listed, List.mem_append_left _ ?_⟩
    exact List.mem_singleton.mpr named.symm

/-! ### The marks of records -/

/-- The decorator of a record that is written by its fields. -/
def sentMark : String := "_serde.serializable"

/-- The decorator of a record that is read by its fields. -/
def receivedMark : String := "_serde.deserializable"

theorem sentMark_mem_decorators_iff {family : Family} {marks : RecordMarks} :
    sentMark ∈ family.decorators marks ↔ family.usesWireFields ∧ marks.sent := by
  rcases marks with ⟨sent, received⟩
  cases family <;> cases sent <;> cases received <;> decide

theorem receivedMark_mem_decorators_iff {family : Family} {marks : RecordMarks} :
    receivedMark ∈ family.decorators marks ↔ family.usesWireFields ∧ marks.received := by
  rcases marks with ⟨sent, received⟩
  cases family <;> cases sent <;> cases received <;> decide

/-- The decorators of the record in a section. -/
theorem decorators_of_shapeSection {style : Style} {reach : Reach} {name : String} {shape : Shape}
    {part : ShapeSection} (made : service.shapeSection style reach name shape = .ok part) :
    part.shape = name ∧
      (∀ decorator, part.IsMarked decorator →
        decorator ∈ style.family.decorators (marks reach name)) ∧
      (shape.kind? = some .struct → ∀ decorator ∈ style.family.decorators (marks reach name),
        part.IsMarked decorator) := by
  simp only [shapeSection, Except.bind_eq_ok_iff, Except.pure_eq_ok_iff] at made
  obtain ⟨declaration, declared, _, -, _, -, rfl⟩ := made
  refine ⟨rfl, ?_, ?_⟩
  · intro decorator marked
    unfold ShapeSection.IsMarked at marked
    unfold Service.declaration at declared
    split at declared
    case h_1 =>
      simp only [Except.bind_eq_ok_iff, Except.pure_eq_ok_iff] at declared
      obtain ⟨_, -, _, -, rfl⟩ := declared
      rwa [Declaration.named_mark_record] at marked
    -- synonyms have no decorators
    case h_2 =>
      simp only [Except.bind_eq_ok_iff, Except.pure_eq_ok_iff] at declared
      obtain ⟨_, -, _, -, _, -, rfl⟩ := declared
      simp [Declaration.named_mark_synonym] at marked
    case h_3 =>
      simp only [Except.bind_eq_ok_iff, Except.pure_eq_ok_iff] at declared
      obtain ⟨_, -, _, -, _, -, _, -, _, -, rfl⟩ := declared
      simp [Declaration.named_mark_synonym] at marked
    case h_4 =>
      split at declared
      · simp only [Except.bind_eq_ok_iff, Except.pure_eq_ok_iff] at declared
        obtain ⟨_, -, rfl⟩ := declared
        simp [Declaration.named_mark_synonym] at marked
      · cases declared
  · intro kind decorator marked
    unfold Service.declaration at declared
    simp only [kind, Except.bind_eq_ok_iff, Except.pure_eq_ok_iff] at declared
    obtain ⟨_, -, _, -, rfl⟩ := declared
    rwa [ShapeSection.IsMarked, Declaration.named_mark_record]

/-- A record that is reached from a marked one has the same mark. -/
theorem marked_of_reaches {style : Style} {reach : Reach} {sections : List ShapeSection}
    (done : service.reach = .ok reach) (plain : service.SendsNoException)
    (made : service.shapeSections style reach = .ok sections) {decorator : String}
    (isMark : decorator ∈ [sentMark, receivedMark]) {part : ShapeSection} (listed : part ∈ sections)
    (marked : part.IsMarked decorator) {name : String} {shape : Shape}
    (reaches : service.Reaches (.str part.shape) (.str name))
    (found : service.shapes.lookup name = some shape) (struct : shape.kind? = some .struct) :
    ∃ other ∈ sections, other.shape = name ∧ other.IsMarked decorator := by
  obtain ⟨sent, received⟩ := covers_of_reach done
  obtain ⟨⟨first, firstShape⟩, -, result⟩ := Except.mem_of_mapM_eq_ok made listed
  obtain ⟨rfl, marks_of, -⟩ := decorators_of_shapeSection result
  have given := marks_of decorator marked
  rcases List.mem_pair.mp isMark with rfl | rfl
  · obtain ⟨fields, isSent⟩ := sentMark_mem_decorators_iff.mp given
    obtain ⟨start, inside, before⟩ := (sent.mem_iff _).mp (List.contains_iff_mem.mp isSent)
    obtain ⟨other, otherListed, otherMade⟩ :=
      section_of_reaches plain made (List.mem_append_left _ inside) (before.trans reaches) found
    obtain ⟨named, -, isMarked⟩ := decorators_of_shapeSection otherMade
    refine ⟨other, otherListed, named, isMarked struct _ ?_⟩
    refine sentMark_mem_decorators_iff.mpr ⟨fields, List.contains_iff_mem.mpr ?_⟩
    exact (sent.mem_iff name).mpr ⟨start, inside, before.trans reaches⟩
  · obtain ⟨fields, isReceived⟩ := receivedMark_mem_decorators_iff.mp given
    obtain ⟨start, inside, before⟩ := (received.mem_iff _).mp (List.contains_iff_mem.mp isReceived)
    obtain ⟨other, otherListed, otherMade⟩ :=
      section_of_reaches plain made (List.mem_append_right _ inside) (before.trans reaches) found
    obtain ⟨named, -, isMarked⟩ := decorators_of_shapeSection otherMade
    refine ⟨other, otherListed, named, isMarked struct _ ?_⟩
    refine receivedMark_mem_decorators_iff.mpr ⟨fields, List.contains_iff_mem.mpr ?_⟩
    exact (received.mem_iff name).mpr ⟨start, inside, before.trans reaches⟩

/-! ### Closed modules -/

theorem called_of_methodList {style : Style} {reach : Reach} {methods : List Method}
    (done : service.reach = .ok reach) (structures : service.TakesStructures)
    (documents : style.family = .restXml → service.SendsDocuments)
    (made : service.methodList style = .ok methods) :
    ∀ call ∈ methods.flatMap Method.calls, service.Called call := by
  simp only [methodList, Except.bind_eq_ok_iff] at made
  obtain ⟨heads, headsMade, made⟩ := made
  intro call called
  obtain ⟨method, listed, inside⟩ := List.mem_flatMap.mp called
  obtain ⟨head, headListed, methodMade⟩ := Except.mem_of_mapM_eq_ok made listed
  obtain ⟨⟨name, operation⟩, own, headMade⟩ := Except.mem_of_mapM_eq_ok headsMade headListed
  refine called_of_method done structures documents ?_ ?_ headMade methodMade call inside
  · intro present
    exact List.mem_filter.mpr ⟨List.mem_map.mpr ⟨_, own, rfl⟩, present⟩
  · intro present
    exact List.mem_filter.mpr ⟨List.mem_map.mpr ⟨_, own, rfl⟩, present⟩

theorem reader?_of_usesWireFields {family : Family} (fields : family.usesWireFields) {type : String}
    {shape : Shape} : service.reader? family type shape = .ok none := by
  cases family with
  | json => rfl
  | restJson => rfl
  | query => cases fields
  | restXml => cases fields

theorem writer?_of_usesWireFields {family : Family} (fields : family.usesWireFields) {type : String}
    {shape : Shape} : service.writer? family type shape = .ok none := by
  cases family with
  | json => rfl
  | restJson => rfl
  | query => cases fields
  | restXml => cases fields

/-- Modules whose records are written and read by their fields call no readers and writers. -/
theorem calls_eq_nil_of_usesWireFields {style : Style} {reach : Reach} {sections : List ShapeSection}
    {methods : List Method} (fields : style.family.usesWireFields)
    (sectionsMade : service.shapeSections style reach = .ok sections)
    (methodsMade : service.methodList style = .ok methods) :
    (∀ part ∈ sections, part.calls = []) ∧ ∀ method ∈ methods, method.calls = [] := by
  rcases style with ⟨family, settings⟩
  simp only [methodList, Except.bind_eq_ok_iff] at methodsMade
  obtain ⟨heads, -, methodsMade⟩ := methodsMade
  constructor
  · intro part listed
    obtain ⟨⟨name, shape⟩, -, made⟩ := Except.mem_of_mapM_eq_ok sectionsMade listed
    simp only [shapeSection, Except.bind_eq_ok_iff, Except.pure_eq_ok_iff] at made
    obtain ⟨declaration, -, reader, readerMade, writer, writerMade, rfl⟩ := made
    have noReader : reader = none := by
      cases reader with
      | none => rfl
      | some reader =>
        obtain ⟨-, readerMade⟩ := Except.guarded_eq_ok_some_iff.mp readerMade
        rw [reader?_of_usesWireFields fields] at readerMade
        cases readerMade
    have noWriter : writer = none := by
      cases writer with
      | none => rfl
      | some writer =>
        obtain ⟨-, writerMade⟩ := Except.guarded_eq_ok_some_iff.mp writerMade
        rw [writer?_of_usesWireFields fields] at writerMade
        cases writerMade
    subst noReader noWriter
    rfl
  · intro method listed
    obtain ⟨head, -, made⟩ := Except.mem_of_mapM_eq_ok methodsMade listed
    obtain ⟨body, bodyMade, rfl⟩ := Except.map_eq_ok_iff.mp made
    cases family with
    | json =>
      obtain rfl := Except.pure_eq_ok_iff.mp bodyMade
      rfl
    | restJson =>
      simp only [methodBody, Except.bind_eq_ok_iff, Except.pure_eq_ok_iff] at bodyMade
      obtain ⟨_, -, _, -, _, -, rfl⟩ := bodyMade
      rfl
    | query => cases fields
    | restXml => cases fields

end Service

end ServiceClient
