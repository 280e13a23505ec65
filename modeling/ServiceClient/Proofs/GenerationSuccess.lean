import ServiceClient.Proofs.Emission
import ServiceClient.Proofs.LayoutSuccess
import ServiceClient.Proofs.Protocol
import ServiceClient.Proofs.Rendering

/-!
When a module can be generated. A typed description gives a module exactly when its protocol is
served, everything that its operations reach can be followed, every shape that is declared has a
kind with its parts and, where bodies are elements, every input's document is found or named. The
search and the declarations look at all that the sections, methods and templates use later, so these
add no fault of their own.
-/

namespace ServiceClient

open Layout

/-- Settings with values of the declared types. -/
structure Settings.Typed (settings : Settings) : Prop where
  outputFile : isOptionalText settings.outputFile
  runtimePackage : isText settings.runtimePackage
  addComments : isFlag settings.addComments
  generateTests : isFlag settings.generateTests

theorem Settings.typed_default : ({} : Settings).Typed := ⟨rfl, rfl, rfl, rfl⟩

theorem Settings.warnings_succeeds {settings : Settings} (typed : settings.Typed) :
    ∃ warnings, settings.warnings = .ok warnings := by
  obtain ⟨package, packageText⟩ := isText_iff.mp typed.runtimePackage
  have packageDone : ∃ warnings, settings.packageWarnings = .ok warnings :=
    ⟨_, by simp only [packageWarnings, packageText]; rfl⟩
  have outputDone : ∃ warnings, settings.outputWarnings = .ok warnings := by
    rcases isOptionalText_iff.mp typed.outputFile with absent | ⟨path, present⟩
    · exact ⟨[], by simp [outputWarnings, absent, Json.truthy]⟩
    · exact ⟨_, by simp only [outputWarnings, present]; rfl⟩
  obtain ⟨packages, packageDone⟩ := packageDone
  obtain ⟨outputs, outputDone⟩ := outputDone
  exact ⟨packages ++ outputs, by simp [warnings, packageDone, outputDone]⟩

namespace Service

variable {service : Service}

/-- The protocol is one of those that there are components for. -/
def Served (service : Service) : Prop :=
  ∃ name ∈ ["json", "query", "ec2", "rest-json", "rest-xml"], service.metadata.protocol = .str name

/-- Everything that an input or an output reaches is defined, lists with an element and maps with a
key and a value. -/
def Followed (service : Service) : Prop :=
  ∀ start ∈ service.inputs ++ service.outputs, ∀ target, service.Reaches start target →
    ∃ shape, service.Defines target shape ∧ shape.Complete

/-- Every shape that is no exception, reached or not, can be declared. -/
def Declared (service : Service) : Prop :=
  ∀ name shape, (name, shape) ∈ service.shapes → shape.exception = false → shape.Declarable

/-- The member that is the whole body of a shape has a location name, or its own shape is defined. -/
def DocumentFound (service : Service) (shape : Shape) : Prop :=
  ∀ name member, shape.wholeBody? = .ok (some (name, member)) →
    member.locationName.truthy ∨ ∃ body, service.Defines member.shape body

/-- The document of every input is found or named. -/
def DocumentsFound (service : Service) : Prop :=
  ∀ start ∈ service.inputs, ∀ shape, service.Defines start shape → service.DocumentFound shape

/-- In an input that is a structure the search has found the document. -/
theorem documentsFound_of_structures (followed : service.Followed)
    (structures : ∀ start ∈ service.inputs, ∀ shape, service.Defines start shape →
      shape.kind? = some .struct) : service.DocumentsFound := by
  intro start inside shape defines name member whole
  have reaches : service.Reaches start member.shape :=
    .single
      ⟨shape, defines, .member (structures start inside shape defines) (mem_of_wholeBody? whole)⟩
  obtain ⟨body, definesBody, -⟩ := followed start (List.mem_append_left _ inside) _ reaches
  exact .inr ⟨body, definesBody⟩

theorem followed_iff_reach_succeeds :
    service.Followed ↔ ∃ reach, service.reach = .ok reach := by
  constructor
  · intro followed
    by_contra fails
    obtain ⟨start, inside, target, reaches, broken⟩ :=
      reach_fails_iff.mp (Except.exists_error_iff.mpr fails)
    exact broken (followed start inside target reaches)
  · rintro ⟨reach, done⟩ start inside target reaches
    by_contra broken
    obtain ⟨fault, failed⟩ := reach_fails_iff.mpr ⟨start, inside, target, reaches, broken⟩
    rw [done] at failed
    cases failed

theorem sound_of_reaches (followed : service.Followed) {start : Json} {name : String} {shape : Shape}
    (inside : start ∈ service.inputs ++ service.outputs) (reaches : service.Reaches start (.str name))
    (found : service.shapes.lookup name = some shape) : service.Sound shape := by
  intro target leads broken
  exact broken (followed start inside target (reaches_of_leads reaches found leads))

/-! ### Sections -/

/-- The section for a shape is made or fails as its declaration does. -/
theorem shapeSection_result {style : Style} {reach : Reach} {name : String} {shape : Shape}
    (followed : service.Followed) (done : service.reach = .ok reach)
    (found : service.shapes.lookup name = some shape) (typed : shape.Typed) :
    (shape.Declarable ∧ ∃ part, service.shapeSection style reach name shape = .ok part) ∨
    (¬ shape.Declarable ∧ ∃ fault, service.shapeSection style reach name shape = .error fault ∧
      fault.OfShape) := by
  obtain ⟨sent, received⟩ := covers_of_reach done
  rcases declaration_result service style (Naming.typeName name) typed (marks reach name) with
    ⟨declarable, declaration, declared⟩ | ⟨undeclarable, fault, failed, ofShape⟩
  · have reader : ∃ reader, (if (marks reach name).received then
        service.reader? style.family (Naming.typeName name) shape else .ok none) = .ok reader := by
      split
      case isTrue marked =>
        obtain ⟨start, inside, reaches⟩ :=
          (received.mem_iff name).mp (List.contains_iff_mem.mp marked)
        exact reader?_succeeds declarable.complete
          (sound_of_reaches followed (List.mem_append_right _ inside) reaches found) _ _
      case isFalse => exact ⟨none, rfl⟩
    have writer : ∃ writer, (if (marks reach name).sent then
        service.writer? style.family (Naming.typeName name) shape else .ok none) = .ok writer := by
      split
      case isTrue marked =>
        obtain ⟨start, inside, reaches⟩ := (sent.mem_iff name).mp (List.contains_iff_mem.mp marked)
        exact writer?_succeeds typed declarable.complete
          (sound_of_reaches followed (List.mem_append_left _ inside) reaches found) _ _
      case isFalse => exact ⟨none, rfl⟩
    obtain ⟨reader, readerDone⟩ := reader
    obtain ⟨writer, writerDone⟩ := writer
    exact .inl ⟨declarable, _, by
      simp only [shapeSection, declared, readerDone, writerDone, Except.ok_bind]; rfl⟩
  · exact .inr ⟨undeclarable, fault, by simp only [shapeSection, failed, Except.error_bind], ofShape⟩

/-- The sections are made exactly when every shape can be declared. -/
theorem shapeSections_result (style : Style) {reach : Reach} (typed : service.Typed)
    (followed : service.Followed) (done : service.reach = .ok reach) :
    (service.Declared ∧ ∃ sections, service.shapeSections style reach = .ok sections) ∨
    (¬ service.Declared ∧ ∃ fault, service.shapeSections style reach = .error fault ∧
      fault.OfShape) := by
  have each : ∀ name shape, (name, shape) ∈ service.declaredShapes →
      (shape.Declarable ∧ ∃ part, service.shapeSection style reach name shape = .ok part) ∨
      (¬ shape.Declarable ∧ ∃ fault, service.shapeSection style reach name shape = .error fault ∧
        fault.OfShape) := by
    intro name shape inside
    have own := List.mem_of_mem_filter inside
    exact shapeSection_result followed done (Pairs.lookup_of_mem typed.distinct own)
      (typed.shapes name shape own)
  cases result : service.shapeSections style reach with
  | ok sections =>
    refine .inl ⟨fun name shape inside plain => ?_, sections, rfl⟩
    have declared : (name, shape) ∈ service.declaredShapes :=
      List.mem_filter.mpr ⟨inside, by simp [plain]⟩
    obtain ⟨part, -, made⟩ := Except.result_mem_of_mapM_eq_ok result declared
    rcases each name shape declared with ⟨declarable, -⟩ | ⟨-, fault, failed, -⟩
    · exact declarable
    · cases made.symm.trans failed
  | error fault =>
    obtain ⟨⟨name, shape⟩, inside, failed⟩ := Except.error_of_mapM_eq_error result
    rcases each name shape inside with ⟨-, part, made⟩ | ⟨undeclarable, other, otherFailed, ofShape⟩
    · cases made.symm.trans failed
    · obtain rfl := Except.error.inj (otherFailed.symm.trans failed)
      obtain ⟨own, plain⟩ := List.mem_filter.mp inside
      exact .inr ⟨fun all => undeclarable (all name shape own (by simpa using plain)), other, rfl,
        ofShape⟩

/-! ### Methods -/

theorem defines_of_followed (followed : service.Followed) {start : Json}
    (inside : start ∈ service.inputs ++ service.outputs) : ∃ shape, service.Defines start shape := by
  obtain ⟨shape, defines, -⟩ := followed start inside start .refl
  exact ⟨shape, defines⟩

theorem shape_typed (typed : service.Typed) {reference : Json} {shape : Shape}
    (defines : service.Defines reference shape) : shape.Typed := by
  obtain ⟨name, rfl, found⟩ := defines
  exact typed.shapes name shape (Pairs.mem_of_lookup found)

theorem displayName_of_typed (typed : service.Typed) : ∃ name, service.displayName = .str name := by
  unfold displayName Json.orElse
  split
  case isTrue present =>
    exact isText_iff.mp (isText_of_isOptionalText typed.metadata.abbreviation present)
  case isFalse => exact isText_iff.mp typed.metadata.fullName

theorem ioType_succeeds {reference : Json} (optional : isOptionalText reference) :
    ∃ type, ioType reference = .ok type := by
  unfold ioType
  split
  case isTrue present =>
    obtain ⟨type, done⟩ := typeName_succeeds (isText_of_isOptionalText optional present)
    exact ⟨some type, by rw [done]; rfl⟩
  case isFalse => exact ⟨none, rfl⟩

theorem typeName_of_ioType {shape : Json} {type : String} (made : ioType shape = .ok (some type)) :
    shape.truthy ∧ shape.typeName = .ok type := by
  unfold ioType at made
  split at made
  case isTrue present =>
    simp only [Except.map_eq_ok_iff, Option.some.injEq, exists_eq_right] at made
    exact ⟨present, made⟩
  case isFalse => cases made

theorem methodName_succeeds {name : Json} (isText : isText name) :
    ∃ method, name.methodName = .ok method := by
  obtain ⟨s, rfl⟩ := isText_iff.mp isText
  exact ⟨_, rfl⟩

theorem methodHead_succeeds {operation : Operation} (typed : service.Typed)
    (operationTyped : operation.Typed) (settings : Settings) :
    ∃ head, service.methodHead settings operation = .ok head := by
  obtain ⟨name, named⟩ := displayName_of_typed typed
  obtain ⟨method, methodDone⟩ := methodName_succeeds operationTyped.name
  obtain ⟨input, inputDone⟩ := ioType_succeeds operationTyped.input
  obtain ⟨output, outputDone⟩ := ioType_succeeds operationTyped.output
  obtain ⟨documentation, documented⟩ :=
    settings.documentation_succeeds operationTyped.documentation
  have typeDone : ∃ type, service.typeName = .ok type := by
    simp [Service.typeName, named]
  obtain ⟨type, typeDone⟩ := typeDone
  have signing : ∃ signing, service.signingName = .ok signing := by
    simp only [signingName, typeDone]
    split
    · exact ⟨_, rfl⟩
    · exact ⟨_, rfl⟩
  obtain ⟨signing, signingDone⟩ := signing
  have endpoint : ∃ endpoint, service.endpointPrefix = .ok endpoint := by
    simp only [endpointPrefix, signingDone]
    split
    · exact ⟨_, rfl⟩
    · exact ⟨_, rfl⟩
  obtain ⟨endpoint, endpointDone⟩ := endpoint
  exact ⟨_, by
    simp only [methodHead, methodDone, inputDone, outputDone, documented, errorName, clientName,
      typeDone, Except.map, signingDone, endpointDone, Except.ok_bind]
    rfl⟩

theorem inputBinding?_succeeds {member : Member} (typed : member.Typed) (name : String) :
    ∃ binding, service.inputBinding? name member = .ok binding := by
  obtain ⟨kind, kindDone⟩ := memberKind?_succeeds service typed
  simp only [inputBinding?, kindDone, Except.ok_bind]
  repeat' split
  all_goals exact ⟨_, rfl⟩

theorem bindingsOf_succeeds (service : Service) {shape : Shape} (typed : shape.Typed) :
    ∃ bindings, service.bindingsOf shape = .ok bindings := by
  have each : ∀ located ∈ shape.located,
      ∃ binding, service.inputBinding? located.1 located.2 = .ok binding := fun located inside =>
    inputBinding?_succeeds (typed.members _ _ (List.mem_of_mem_filter inside)) located.1
  obtain ⟨bindings, done⟩ := Except.mapM_succeeds_iff.mpr each
  exact ⟨_, by simp only [bindingsOf, done, Except.ok_bind]; rfl⟩

section Bodies

variable {operation : Operation} (typed : service.Typed) (followed : service.Followed)

include typed followed in
theorem inputBindings_succeeds
    (input : operation.input.truthy → operation.input ∈ service.inputs) :
    ∃ bindings, service.inputBindings operation.input = .ok bindings := by
  unfold inputBindings
  split
  case isTrue present =>
    obtain ⟨shape, defines⟩ := defines_of_followed followed (List.mem_append_left _ (input present))
    obtain ⟨bindings, done⟩ := bindingsOf_succeeds service (shape_typed typed defines)
    exact ⟨bindings, by rw [shape_eq_ok_iff.mpr defines, Except.ok_bind, done]⟩
  case isFalse => exact ⟨[], rfl⟩

include typed followed in
theorem jsonPayload_succeeds (input : operation.input.truthy → operation.input ∈ service.inputs) :
    ∃ payload, service.jsonPayload operation = .ok payload := by
  unfold jsonPayload
  split
  case isTrue present =>
    obtain ⟨shape, defines⟩ := defines_of_followed followed (List.mem_append_left _ (input present))
    obtain ⟨whole, wholeDone⟩ := Shape.wholeBody?_succeeds (shape_typed typed defines)
    simp only [shape_eq_ok_iff.mpr defines, wholeDone, Except.ok_bind]
    split
    case h_1 name member =>
      have inside := mem_of_wholeBody? wholeDone
      obtain ⟨kind, kindDone⟩ :=
        memberKind?_succeeds service ((shape_typed typed defines).members _ _ inside)
      simp only [kindDone, Except.ok_bind]
      repeat' split
      all_goals exact ⟨_, rfl⟩
    case h_2 => exact ⟨_, rfl⟩
  case isFalse => exact ⟨_, rfl⟩

include typed followed in
theorem jsonResponse_succeeds
    (output : operation.output.truthy → operation.output ∈ service.outputs) :
    ∃ response, service.jsonResponse operation = .ok response := by
  unfold jsonResponse
  split
  case isTrue present =>
    obtain ⟨shape, defines⟩ := defines_of_followed followed (List.mem_append_right _ (output present))
    obtain ⟨whole, wholeDone⟩ := Shape.wholeBody?_succeeds (shape_typed typed defines)
    have extras : ∃ extras, service.jsonExtras shape = .ok extras := by
      simp only [jsonExtras, wholeDone, Except.ok_bind]
      split
      case h_1 name member =>
        have inside := mem_of_wholeBody? wholeDone
        obtain ⟨kind, kindDone⟩ :=
          memberKind?_succeeds service ((shape_typed typed defines).members _ _ inside)
        exact ⟨_, by simp only [kindDone, Except.ok_bind]; rfl⟩
      case h_2 => exact ⟨_, rfl⟩
    obtain ⟨⟨extras, body⟩, extrasDone⟩ := extras
    have shapeDone := shape_eq_ok_iff.mpr defines
    obtain ⟨name, reference, -⟩ := defines
    rw [reference] at shapeDone
    exact ⟨_, by
      simp only [reference, Json.typeName, shapeDone, extrasDone, Except.ok_bind]; rfl⟩
  case isFalse => exact ⟨_, rfl⟩

include typed followed in
theorem xmlResponse_succeeds
    (output : operation.output.truthy → operation.output ∈ service.outputs) :
    ∃ response, service.xmlResponse operation = .ok response := by
  unfold xmlResponse
  split
  case isTrue present =>
    obtain ⟨shape, defines⟩ := defines_of_followed followed (List.mem_append_right _ (output present))
    obtain ⟨whole, wholeDone⟩ := Shape.wholeBody?_succeeds (shape_typed typed defines)
    have shapeDone := shape_eq_ok_iff.mpr defines
    have shapeTyped := shape_typed typed defines
    obtain ⟨name, reference, -⟩ := defines
    rw [reference] at shapeDone
    simp only [reference, Json.typeName, shapeDone, wholeDone, Except.ok_bind]
    split
    case h_1 name member =>
      obtain ⟨kind, kindDone⟩ := memberKind?_succeeds service
        (shapeTyped.members _ _ (mem_of_wholeBody? wholeDone))
      simp only [kindDone, Except.ok_bind]
      repeat' split
      all_goals exact ⟨_, rfl⟩
    case h_2 => exact ⟨_, rfl⟩
  case isFalse => exact ⟨_, rfl⟩

omit typed followed in
theorem defines_of_memberKind? {member : Member} {kind : ShapeKind}
    (known : service.memberKind? member = .ok (some kind)) :
    ∃ shape, service.Defines member.shape shape := by
  simp only [memberKind?, Except.bind_eq_ok_iff, Except.pure_eq_ok_iff,
    Option.bind_eq_some_iff] at known
  obtain ⟨_, found, shape, rfl, -⟩ := known
  exact ⟨shape, shape_eq_ok_iff.mp (by simp [Service.shape, found])⟩

omit typed followed in
theorem wholeBodyTag_succeeds_iff (name : String) {member : Member} :
    (∃ tag, service.wholeBodyTag name member = .ok tag) ↔
      member.locationName.truthy ∨ ∃ body, service.Defines member.shape body := by
  unfold wholeBodyTag
  split
  case isTrue named => simp [named]
  case isFalse unnamed => simp [unnamed, shape_eq_ok_iff]

omit typed followed in
theorem xmlBody_succeeds (service : Service) {reference : Json} (isText : isText reference)
    (tag value : String) :
    ∃ body, service.xmlBody reference tag value = .ok body := by
  obtain ⟨type, typeDone⟩ := typeName_succeeds isText
  exact ⟨_, by simp only [xmlBody, typeDone, Except.ok_bind]; rfl⟩

omit typed followed in
theorem documentFound_iff {shape : Shape} {name : String} {member : Member}
    (whole : shape.wholeBody? = .ok (some (name, member))) :
    service.DocumentFound shape ↔
      member.locationName.truthy ∨ ∃ body, service.Defines member.shape body := by
  constructor
  · intro found
    exact found name member whole
  · intro found otherName other otherWhole
    obtain ⟨rfl, rfl⟩ := Prod.mk.inj (Option.some.inj (Except.ok.inj (whole.symm.trans otherWhole)))
    exact found

include typed followed in
/-- The only thing that a method may miss is the name of the element of an input's document. -/
theorem xmlPayload_succeeds_iff
    (input : operation.input.truthy → operation.input ∈ service.inputs) :
    (∃ payload, service.xmlPayload operation = .ok payload) ↔
      (operation.input.truthy → ∀ shape, service.Defines operation.input shape →
        service.DocumentFound shape) := by
  unfold xmlPayload
  split
  case isFalse absent => simp [absent]
  case isTrue present =>
    obtain ⟨shape, defines⟩ := defines_of_followed followed (List.mem_append_left _ (input present))
    obtain ⟨whole, wholeDone⟩ := Shape.wholeBody?_succeeds (shape_typed typed defines)
    have unique : (operation.input.truthy → ∀ other, service.Defines operation.input other →
        service.DocumentFound other) ↔ service.DocumentFound shape := by
      constructor
      · intro all
        exact all present shape defines
      · intro found _ other definesOther
        rwa [← defines_unique defines definesOther]
    rw [unique]
    simp only [shape_eq_ok_iff.mpr defines, wholeDone, Except.ok_bind]
    cases whole with
    | none =>
      have found : service.DocumentFound shape := by
        intro name member other
        cases wholeDone.symm.trans other
      obtain ⟨name, reference, -⟩ := defines
      obtain ⟨body, bodyDone⟩ := xmlBody_succeeds service (isText_iff.mpr ⟨name, reference⟩)
        (shape.locationName.displayOr operation.input.display) "input"
      refine iff_of_true ?_ found
      dsimp only
      split
      · exact ⟨_, rfl⟩
      · exact ⟨_, by rw [bodyDone]; rfl⟩
    | some document =>
      obtain ⟨name, member⟩ := document
      have memberTyped := (shape_typed typed defines).members _ _ (mem_of_wholeBody? wholeDone)
      obtain ⟨kind, kindDone⟩ := memberKind?_succeeds service memberTyped
      rw [documentFound_iff wholeDone]
      simp only [kindDone, Except.ok_bind]
      split
      case h_1 => exact iff_of_true ⟨_, rfl⟩ (.inr (defines_of_memberKind? kindDone))
      case h_2 => exact iff_of_true ⟨_, rfl⟩ (.inr (defines_of_memberKind? kindDone))
      case h_3 =>
        rw [← wholeBodyTag_succeeds_iff name]
        constructor
        · rintro ⟨payload, done⟩
          obtain ⟨tag, tagDone, -⟩ := Except.bind_eq_ok_iff.mp done
          exact ⟨tag, tagDone⟩
        · rintro ⟨tag, tagDone⟩
          obtain ⟨body, bodyDone⟩ :=
            xmlBody_succeeds service memberTyped.shape tag (inputField name)
          exact ⟨_, by simp only [tagDone, bodyDone, Except.ok_bind]; rfl⟩

end Bodies

theorem input_mem {name : String} {operation : Operation}
    (own : (name, operation) ∈ service.operations) (present : operation.input.truthy) :
    operation.input ∈ service.inputs :=
  List.mem_filter.mpr ⟨List.mem_map.mpr ⟨_, own, rfl⟩, present⟩

theorem output_mem {name : String} {operation : Operation}
    (own : (name, operation) ∈ service.operations) (present : operation.output.truthy) :
    operation.output ∈ service.outputs :=
  List.mem_filter.mpr ⟨List.mem_map.mpr ⟨_, own, rfl⟩, present⟩

/-- The method of one operation; only with XML bodies can it fail. -/
theorem method_succeeds_iff {family : Family} {settings : Settings} {name : String}
    {operation : Operation} {head : MethodHead} (typed : service.Typed) (followed : service.Followed)
    (own : (name, operation) ∈ service.operations)
    (headMade : service.methodHead settings operation = .ok head) :
    (∃ method, service.method family head = .ok method) ↔
      (family = .restXml → operation.input.truthy → ∀ shape, service.Defines operation.input shape →
        service.DocumentFound shape) := by
  simp only [methodHead, Except.bind_eq_ok_iff, Except.pure_eq_ok_iff] at headMade
  obtain ⟨_, -, inputType, -, outputType, -, _, -, _, -, _, -, _, -, rfl⟩ := headMade
  obtain ⟨bindings, bindingsDone⟩ := inputBindings_succeeds typed followed (input_mem own)
  obtain ⟨payload, payloadDone⟩ := jsonPayload_succeeds typed followed (input_mem own)
  obtain ⟨response, responseDone⟩ := jsonResponse_succeeds typed followed (output_mem own)
  obtain ⟨element, elementDone⟩ := xmlResponse_succeeds typed followed (output_mem own)
  cases family with
  | json => exact iff_of_true ⟨_, rfl⟩ (by rintro ⟨⟩)
  | query => exact iff_of_true ⟨_, rfl⟩ (by rintro ⟨⟩)
  | restJson =>
    exact iff_of_true ⟨_, by
      simp only [method, methodBody, bindingsDone, payloadDone, responseDone, Except.ok_bind]; rfl⟩
      (by rintro ⟨⟩)
  | restXml =>
    have found := xmlPayload_succeeds_iff typed followed (input_mem own)
    simp only [forall_const, ← found]
    constructor
    · rintro ⟨_, done⟩
      simp only [method, methodBody, bindingsDone, Except.map_eq_ok_iff, Except.bind_eq_ok_iff,
        Except.ok_bind] at done
      obtain ⟨_, ⟨payload, payloadDone, -⟩, -⟩ := done
      exact ⟨payload, payloadDone⟩
    · rintro ⟨payload, payloadDone⟩
      exact ⟨_, by
        simp only [method, methodBody, bindingsDone, payloadDone, elementDone, Except.ok_bind]; rfl⟩

theorem methodList_succeeds_iff (style : Style) (typed : service.Typed)
    (followed : service.Followed) :
    (∃ methods, service.methodList style = .ok methods) ↔
      (style.family = .restXml → service.DocumentsFound) := by
  have heads : ∃ heads, service.methodHeads style.settings = .ok heads := by
    refine Except.mapM_succeeds_iff.mpr ?_
    rintro ⟨name, operation⟩ own
    exact methodHead_succeeds typed (typed.operations name operation own) style.settings
  obtain ⟨heads, headsDone⟩ := heads
  simp only [methodList, headsDone, Except.ok_bind, Except.mapM_succeeds_iff]
  constructor
  · intro all elements start inside shape defines
    obtain ⟨reference, present⟩ := List.mem_filter.mp inside
    obtain ⟨⟨name, operation⟩, own, rfl⟩ := List.mem_map.mp reference
    obtain ⟨head, listed, headMade⟩ := Except.result_mem_of_mapM_eq_ok headsDone own
    exact (method_succeeds_iff typed followed own headMade).mp (all head listed) elements present
      shape defines
  · intro documents head listed
    obtain ⟨⟨name, operation⟩, own, headMade⟩ := Except.mem_of_mapM_eq_ok headsDone listed
    refine (method_succeeds_iff typed followed own headMade).mpr fun elements present => ?_
    exact documents elements operation.input (input_mem own present)

/-! ### Whole modules -/

theorem typeSection_of_shapeSections {style : Style} {reach : Reach} {sections : List ShapeSection}
    (done : service.reach = .ok reach) (made : service.shapeSections style reach = .ok sections) :
    ∃ types, service.typeSection style = .ok types := by
  obtain ⟨texts, textsDone⟩ : ∃ texts, sections.mapM ShapeSection.render = .ok texts :=
    Except.mapM_succeeds_iff.mpr fun part _ => ⟨_, part.render_eq⟩
  exact ⟨_, by simp only [typeSection, done, made, textsDone, Except.ok_bind]; rfl⟩

theorem code_of_typed {shape : Shape} (typed : shape.Typed) : ∃ code, shape.code = .str code := by
  unfold Shape.code
  split
  case isTrue present => exact isText_iff.mp (isText_of_isOptionalText typed.errorCode present)
  case isFalse => exact ⟨_, rfl⟩

theorem errorClasses_succeeds (typed : service.Typed) (settings : Settings) :
    ∃ classes, service.errorClasses settings = .ok classes ∧
      ∀ error ∈ classes, ∃ code, error.code = .str code := by
  have exception_typed : ∀ shape ∈ service.exceptions, shape.Typed := by
    intro shape inside
    obtain ⟨⟨name, own⟩, listed, rfl⟩ := List.mem_map.mp (List.mem_of_mem_filter inside)
    exact typed.shapes name own listed
  obtain ⟨classes, done⟩ : ∃ classes, service.errorClasses settings = .ok classes := by
    refine Except.mapM_succeeds_iff.mpr fun shape inside => ?_
    obtain ⟨documentation, documented⟩ :=
      settings.documentation_succeeds (exception_typed shape inside).documentation
    exact ⟨_, by simp only [documented, Except.ok_bind]; rfl⟩
  refine ⟨classes, done, fun error inside => ?_⟩
  obtain ⟨shape, listed, made⟩ := Except.mem_of_mapM_eq_ok done inside
  simp only [Except.bind_eq_ok_iff, Except.pure_eq_ok_iff] at made
  obtain ⟨_, -, rfl⟩ := made
  exact code_of_typed (exception_typed shape listed)

theorem methods_of_methodList {style : Style} {methods : List Method}
    (made : service.methodList style = .ok methods) :
    ∃ text, service.methods style = .ok text :=
  ⟨_, by
    simp only [Service.methods, made, mapM_render_of_methodList made, Except.ok_bind]
    rfl⟩

/-- Besides the sections for shapes and the methods, nothing in a module can fail. -/
theorem moduleText_succeeds {style : Style} (errors : ErrorFamily) {reach : Reach}
    {sections : List ShapeSection} {methods : List Method} (typed : service.Typed)
    (done : service.reach = .ok reach)
    (sectionsMade : service.shapeSections style reach = .ok sections)
    (methodsMade : service.methodList style = .ok methods) :
    ∃ text, service.moduleText style errors = .ok text := by
  obtain ⟨fullName, isFullName⟩ := isText_iff.mp typed.metadata.fullName
  obtain ⟨name, named⟩ := displayName_of_typed typed
  obtain ⟨opening, openingDone⟩ := opening_succeeds style.settings isFullName
  obtain ⟨imports, importsDone⟩ := style.importSection_succeeds
  obtain ⟨types, typesDone⟩ := typeSection_of_shapeSections done sectionsMade
  obtain ⟨classes, classesDone, codes⟩ := errorClasses_succeeds typed style.settings
  obtain ⟨errorText, errorsDone⟩ := errorSection_succeeds errors named classesDone codes
  obtain ⟨methodText, methodTextDone⟩ := methods_of_methodList methodsMade
  obtain ⟨client, clientDone⟩ := clientSection_succeeds named methodTextDone
  obtain ⟨clientName, clientNameDone⟩ := clientName_of_displayName named
  have operations : ∀ operation ∈ service.operations.map (·.2), ∃ method,
      operation.name.methodName = .ok method := by
    intro operation inside
    obtain ⟨⟨key, own⟩, listed, rfl⟩ := List.mem_map.mp inside
    exact methodName_succeeds (typed.operations key own listed).name
  obtain ⟨testText, testsDone⟩ := testSection_succeeds named operations
  have tests : ∃ tests, (if style.settings.generateTests.truthy then
      service.testSection.map (sectionGap ++ ·) else .ok "") = .ok tests := by
    split
    · exact ⟨_, by rw [testsDone]; rfl⟩
    · exact ⟨"", rfl⟩
  obtain ⟨tests, testsDone⟩ := tests
  exact ⟨_, by
    simp only [moduleText, openingDone, importsDone, typesDone, errorsDone, clientDone, testsDone,
      clientNameDone, Except.ok_bind]
    rfl⟩

theorem served_iff_families_succeeds (typed : service.Typed) :
    service.Served ↔ ∃ families, service.families = .ok families := by
  obtain ⟨name, protocol⟩ := isText_iff.mp typed.metadata.protocol
  rw [families_of_text protocol]
  unfold Served
  simp only [protocol, Json.str.injEq, exists_eq_right', ← lookup_servedBy_isSome_iff]
  cases servedBy.lookup name <;> simp

/-- A typed service gives a module exactly when its protocol is served, its operations can be
followed, its shapes can be declared and, for XML bodies, its documents are found. -/
theorem generate_succeeds_iff {settings : Settings} (typed : service.Typed)
    (settingsTyped : settings.Typed) :
    (∃ generated, service.generate settings = .ok generated) ↔
      service.Served ∧ service.Followed ∧ service.Declared ∧
        (service.metadata.protocol = .str "rest-xml" → service.DocumentsFound) := by
  constructor
  · rintro ⟨generated, done⟩
    obtain ⟨family, code, emits⟩ := emits_of_generate done
    have served := emits.families
    obtain ⟨reach, reachDone, sectionsMade⟩ := emits.sectionsMade
    have followed := followed_iff_reach_succeeds.mpr ⟨reach, reachDone⟩
    refine ⟨(served_iff_families_succeeds typed).mpr ⟨_, served⟩, followed, ?_, ?_⟩
    · rcases shapeSections_result ⟨family, settings⟩ typed followed reachDone with
        ⟨declared, -⟩ | ⟨-, fault, failed, -⟩
      · exact declared
      · cases sectionsMade.symm.trans failed
    · intro protocol
      refine (methodList_succeeds_iff ⟨family, settings⟩ typed followed).mp
        ⟨code.methods, emits.methodsMade⟩ ?_
      rw [families_of_text protocol] at served
      exact (Prod.mk.inj (Except.ok.inj served)).1.symm
  · rintro ⟨served, followed, declared, documents⟩
    obtain ⟨⟨family, errors⟩, familiesDone⟩ := (served_iff_families_succeeds typed).mp served
    obtain ⟨reach, reachDone⟩ := followed_iff_reach_succeeds.mp followed
    have sections : ∃ sections, service.shapeSections ⟨family, settings⟩ reach = .ok sections := by
      rcases shapeSections_result ⟨family, settings⟩ typed followed reachDone with
        ⟨-, made⟩ | ⟨undeclared, -⟩
      · exact made
      · exact absurd declared undeclared
    obtain ⟨sections, sectionsMade⟩ := sections
    have elements : family = .restXml → service.DocumentsFound := by
      rintro rfl
      exact documents (protocol_of_restXml familiesDone)
    obtain ⟨methods, methodsMade⟩ :=
      (methodList_succeeds_iff ⟨family, settings⟩ typed followed).mpr elements
    obtain ⟨⟨text, summary⟩, textDone⟩ :=
      moduleText_succeeds errors typed reachDone sectionsMade methodsMade
    obtain ⟨warnings, warningsDone⟩ := Settings.warnings_succeeds settingsTyped
    exact ⟨_, by
      simp only [generate, familiesDone, textDone, warningsDone, Except.ok_bind]; rfl⟩

/-- A protocol that is not served is the fault that is told, whatever else is wrong. -/
theorem generate_of_not_served {settings : Settings} (typed : service.Typed)
    (unserved : ¬ service.Served) :
    service.generate settings =
      .error (.unknownProtocol service.metadata.protocol Registry.builtin.allNames) := by
  obtain ⟨name, protocol⟩ := isText_iff.mp typed.metadata.protocol
  have families := families_of_text protocol
  cases found : servedBy.lookup name with
  | some families =>
    have listed := lookup_servedBy_isSome_iff.mp (by rw [found]; rfl)
    exact absurd ⟨name, listed, protocol⟩ unserved
  | none =>
    rw [found] at families
    simp only [generate, families, protocol, Except.error_bind]

/-- When the protocol is served and the operations can be followed, the first shape that cannot be
declared is what the fault is about. -/
theorem generate_of_not_declared {settings : Settings} (typed : service.Typed)
    (served : service.Served) (followed : service.Followed) (undeclared : ¬ service.Declared) :
    ∃ fault, service.generate settings = .error fault ∧ fault.OfShape := by
  obtain ⟨⟨family, errors⟩, familiesDone⟩ := (served_iff_families_succeeds typed).mp served
  obtain ⟨reach, reachDone⟩ := followed_iff_reach_succeeds.mp followed
  obtain ⟨fullName, isFullName⟩ := isText_iff.mp typed.metadata.fullName
  obtain ⟨opening, openingDone⟩ := opening_succeeds settings isFullName
  obtain ⟨imports, importsDone⟩ := Style.importSection_succeeds ⟨family, settings⟩
  rcases shapeSections_result ⟨family, settings⟩ typed followed reachDone with
    ⟨declared, -⟩ | ⟨-, fault, failed, ofShape⟩
  · exact absurd declared undeclared
  · refine ⟨fault, ?_, ofShape⟩
    simp only [generate, familiesDone, moduleText, openingDone, importsDone, typeSection, reachDone,
      failed, Except.ok_bind, Except.error_bind]

/-- The same service under another protocol. -/
def withProtocol (service : Service) (protocol : String) : Service :=
  { service with metadata := { service.metadata with protocol := .str protocol } }

theorem withProtocol_typed (typed : service.Typed) (protocol : String) :
    (service.withProtocol protocol).Typed :=
  ⟨⟨rfl, typed.metadata.fullName, typed.metadata.abbreviation⟩, typed.distinct, typed.shapes,
    typed.operations⟩

theorem generate_withProtocol_succeeds_iff {settings : Settings} (typed : service.Typed)
    (settingsTyped : settings.Typed) {protocol : String}
    (known : protocol ∈ ["json", "query", "ec2", "rest-json", "rest-xml"]) :
    (∃ generated, (service.withProtocol protocol).generate settings = .ok generated) ↔
      service.Followed ∧ service.Declared ∧ (protocol = "rest-xml" → service.DocumentsFound) := by
  have served : (service.withProtocol protocol).Served := ⟨protocol, known, rfl⟩
  rw [generate_succeeds_iff (withProtocol_typed typed protocol) settingsTyped]
  have same : (service.withProtocol protocol).metadata.protocol = .str "rest-xml" ↔
      protocol = "rest-xml" := by simp [withProtocol]
  rw [same]
  exact and_iff_right served

/-- When a description gives a module. A protocol adds no fault of its own, but for one: where an
input that is no structure has a member as its document, XML bodies need a name for its element. -/
theorem generate_succeeds_iff_of_documented (description : Json) (settings : Settings)
    (documented : Layout.service description) (settingsTyped : settings.Typed) :
    ∃ service, Service.ofJson description = .ok service ∧
      ((∃ generated, service.generate settings = .ok generated) ↔
        service.Served ∧ service.Followed ∧ service.Declared ∧
          (service.metadata.protocol = .str "rest-xml" → service.DocumentsFound)) ∧
      (¬ service.Served → service.generate settings =
        .error (.unknownProtocol service.metadata.protocol Registry.builtin.allNames)) ∧
      (service.Served → service.Followed → ¬ service.Declared →
        ∃ fault, service.generate settings = .error fault ∧ fault.OfShape) ∧
      (service.Followed → (∀ start ∈ service.inputs, ∀ shape, service.Defines start shape →
        shape.kind? = some .struct) → service.DocumentsFound) ∧
      ∀ first ∈ ["json", "query", "ec2", "rest-json", "rest-xml"],
        ∀ second ∈ ["json", "query", "ec2", "rest-json", "rest-xml"],
          (second = "rest-xml" → first = "rest-xml" ∨ service.DocumentsFound) →
          (∃ generated, (service.withProtocol first).generate settings = .ok generated) →
            ∃ generated, (service.withProtocol second).generate settings = .ok generated := by
  obtain ⟨service, read, typed⟩ := Service.ofJson_typed documented
  refine ⟨service, read, generate_succeeds_iff typed settingsTyped, generate_of_not_served typed,
    generate_of_not_declared typed, documentsFound_of_structures,
    fun first firstKnown second secondKnown allowed succeeds => ?_⟩
  obtain ⟨followed, declared, documents⟩ :=
    (generate_withProtocol_succeeds_iff typed settingsTyped firstKnown).mp succeeds
  refine (generate_withProtocol_succeeds_iff typed settingsTyped secondKnown).mpr
    ⟨followed, declared, fun elements => ?_⟩
  rcases allowed elements with same | found
  · exact documents same
  · exact found

/-- A description of a service that takes and gives notes with their replies. -/
def notesDescription : Json := .obj [
  ("metadata", .obj [("protocol", .str "rest-xml"), ("serviceFullName", .str "Notes")]),
  ("shapes", .obj [
    ("Note", .obj [("type", .str "structure"), ("payload", .str "Replies"),
      ("members", .obj [("Body", .obj [("shape", .str "Text")]),
        ("Replies", .obj [("shape", .str "NoteList")])])]),
    ("NoteList", .obj [("type", .str "list"), ("member", .obj [("shape", .str "Note")])]),
    ("Text", .obj [("type", .str "string")])]),
  ("operations", .obj [("Put", .obj [("input", .obj [("shape", .str "Note")]),
    ("output", .obj [("shape", .str "Note")])])])]

/-- The service that is read from it. -/
def notes : Service where
  metadata := { protocol := .str "rest-xml", fullName := .str "Notes" }
  shapes := [
    ("Note", {
      name := "Note", type := .str "structure", payload := .str "Replies"
      members := [("Body", { shape := .str "Text" }), ("Replies", { shape := .str "NoteList" })] }),
    ("NoteList", { name := "NoteList", type := .str "list", member := some { shape := .str "Note" } }),
    ("Text", { name := "Text", type := .str "string" })]
  operations := [("Put", { name := .str "Put", input := .str "Note", output := .str "Note" })]

theorem notes_typed : notes.Typed := by
  have documented : Layout.service notesDescription := by decide
  exact typed_of_ofJson documented (by decide)

theorem notes_conditions : notes.Served ∧ notes.Followed ∧ notes.Declared ∧ notes.DocumentsFound := by
  have followed : notes.Followed := followed_iff_reach_succeeds.mpr
    ⟨{ sent := ["Text", "NoteList", "Note"], received := ["Text", "NoteList", "Note"] }, by cbv⟩
  refine ⟨⟨"rest-xml", by decide, rfl⟩, followed, ?_, ?_⟩
  · intro name shape inside _
    have listed : shape ∈ notes.shapes.map (·.2) := List.mem_map.mpr ⟨_, inside, rfl⟩
    simp only [notes, List.map_cons, List.map_nil, List.mem_cons, List.not_mem_nil,
      or_false] at listed
    rcases listed with rfl | rfl | rfl
    · exact ⟨by decide, ⟨by decide, by decide, by decide⟩⟩
    · exact ⟨by decide, ⟨by decide, by decide, by decide⟩⟩
    · exact ⟨by decide, ⟨by decide, by decide, by decide⟩⟩
  · refine documentsFound_of_structures followed fun start inside shape defines => ?_
    have start_eq : start = .str "Note" := List.mem_singleton.mp inside
    subst start_eq
    obtain rfl := Option.some.inj (defines_str.mp defines)
    decide

theorem generate_notes_succeeds :
    Layout.service notesDescription ∧ ({} : Settings).Typed ∧
      ∃ service, Service.ofJson notesDescription = .ok service ∧
        ∃ generated, service.generate {} = .ok generated := by
  have settingsTyped := Settings.typed_default
  have documented : Layout.service notesDescription := by decide
  have read : Service.ofJson notesDescription = .ok notes := by decide
  obtain ⟨service, same, succeeds, -⟩ :=
    generate_succeeds_iff_of_documented notesDescription {} documented settingsTyped
  obtain rfl := Except.ok.inj (read.symm.trans same)
  obtain ⟨served, followed, declared, documents⟩ := notes_conditions
  exact ⟨documented, settingsTyped, notes, read,
    succeeds.mpr ⟨served, followed, declared, fun _ => documents⟩⟩

/-- Notes that are texts and still have a member as their document, of a shape that is not defined. -/
def strayDescription : Json := .obj [
  ("metadata", .obj [("protocol", .str "rest-xml"), ("serviceFullName", .str "Notes")]),
  ("shapes", .obj [
    ("Note", .obj [("type", .str "string"), ("payload", .str "Body"),
      ("members", .obj [("Body", .obj [("shape", .str "Missing")])])])]),
  ("operations", .obj [("Put", .obj [("input", .obj [("shape", .str "Note")])])])]

def strayNotes : Service where
  metadata := { protocol := .str "rest-xml", fullName := .str "Notes" }
  shapes := [
    ("Note", {
      name := "Note", type := .str "string", payload := .str "Body"
      members := [("Body", { shape := .str "Missing" })] })]
  operations := [("Put", { name := .str "Put", input := .str "Note" })]

/-- Its protocol is served, what it reaches can be followed and its shapes can be declared, and there
is no module for it, though there is one under another protocol. -/
theorem generate_strayNotes_fails :
    Layout.service strayDescription ∧ Service.ofJson strayDescription = .ok strayNotes ∧
      strayNotes.Served ∧ strayNotes.Followed ∧ strayNotes.Declared ∧
      (∃ fault, strayNotes.generate {} = .error fault) ∧
      ∃ generated, (strayNotes.withProtocol "rest-json").generate {} = .ok generated := by
  have settingsTyped := Settings.typed_default
  have documented : Layout.service strayDescription := by decide
  have read : Service.ofJson strayDescription = .ok strayNotes := by decide
  have followed : strayNotes.Followed :=
    followed_iff_reach_succeeds.mpr ⟨{ sent := ["Note"], received := [] }, by cbv⟩
  have declared : strayNotes.Declared := by
    intro name shape inside _
    obtain ⟨rfl, rfl⟩ := Prod.mk.inj (List.mem_singleton.mp inside)
    exact ⟨by decide, ⟨by decide, by decide, by decide⟩⟩
  have typed : strayNotes.Typed := by
    obtain ⟨service, same, typed⟩ := Service.ofJson_typed documented
    obtain rfl := Except.ok.inj (read.symm.trans same)
    exact typed
  refine ⟨documented, read, ⟨"rest-xml", by decide, rfl⟩, followed, declared, ?_, ?_⟩
  · refine Except.exists_error_iff.mpr fun succeeds => ?_
    obtain ⟨-, -, -, documents⟩ := (generate_succeeds_iff typed settingsTyped).mp succeeds
    have found := documents rfl (.str "Note") (by decide) _ (defines_str.mpr rfl) "Body" _ rfl
    rcases found with named | ⟨body, name, same, missing⟩
    · cases named
    · cases same
      cases missing
  · refine (generate_withProtocol_succeeds_iff typed settingsTyped (by decide)).mpr
      ⟨followed, declared, fun elements => ?_⟩
    exact absurd elements (by decide)

end Service

end ServiceClient
