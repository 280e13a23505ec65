import ServiceClient.Module.Generation
import ServiceClient.Proofs.Outcome
import ServiceClient.Proofs.Pairs
import ServiceClient.Proofs.Reachability

/-!
With comments turned off, documentation does not interfere: services that differ only in what they
document are given the same module, or fail in the same way. Every step of generation is shown to do
with a service what it does with the service without its documentation, from looking shapes up to the
text of the whole module. Where a step gives shapes, members or operations, it gives the same ones
without their documentation.
-/

namespace ServiceClient

theorem Settings.documentation_silent {settings : Settings}
    (silent : settings.addComments.truthy = false) (text : Json) :
    settings.documentation text = .ok none := by
  simp [documentation, silent]

/-! ### Descriptions without their documentation -/

def Member.undocumented (member : Member) : Member := { member with documentation := .null }

/-- A shape without its documentation and that of its parts. -/
def Shape.undocumented (shape : Shape) : Shape :=
  { shape with
    documentation := .null
    members := Pairs.mapValues Member.undocumented shape.members
    member := shape.member.map Member.undocumented
    key := shape.key.map Member.undocumented
    value := shape.value.map Member.undocumented }

def Operation.undocumented (operation : Operation) : Operation :=
  { operation with documentation := .null }

/-- A service without its documentation at every level. Services that differ in nothing else are the
same without it. -/
def Service.undocumented (service : Service) : Service :=
  { service with
    documentation := .null
    shapes := Pairs.mapValues Shape.undocumented service.shapes
    operations := Pairs.mapValues Operation.undocumented service.operations }

variable (service : Service) (shape : Shape) (member : Member) (operation : Operation)

namespace Member

@[simp] theorem shape_undocumented : member.undocumented.shape = member.shape := rfl

@[simp] theorem locationName_undocumented :
    member.undocumented.locationName = member.locationName := rfl

end Member

namespace Operation

@[simp] theorem input_undocumented : operation.undocumented.input = operation.input := rfl

@[simp] theorem output_undocumented : operation.undocumented.output = operation.output := rfl

end Operation

namespace Shape

@[simp] theorem name_undocumented : shape.undocumented.name = shape.name := rfl

@[simp] theorem type_undocumented : shape.undocumented.type = shape.type := rfl

@[simp] theorem kind?_undocumented : shape.undocumented.kind? = shape.kind? := rfl

@[simp] theorem requires_undocumented (name : String) :
    shape.undocumented.requires name = shape.requires name := rfl

@[simp] theorem locationName_undocumented :
    shape.undocumented.locationName = shape.locationName := rfl

@[simp] theorem flattened_undocumented : shape.undocumented.flattened = shape.flattened := rfl

@[simp] theorem payload_undocumented : shape.undocumented.payload = shape.payload := rfl

@[simp] theorem members_undocumented :
    shape.undocumented.members = Pairs.mapValues Member.undocumented shape.members := rfl

@[simp] theorem member_undocumented :
    shape.undocumented.member = shape.member.map Member.undocumented := rfl

@[simp] theorem key_undocumented :
    shape.undocumented.key = shape.key.map Member.undocumented := rfl

@[simp] theorem value_undocumented :
    shape.undocumented.value = shape.value.map Member.undocumented := rfl

@[simp] theorem elementShape_undocumented :
    shape.undocumented.elementShape = shape.elementShape := by
  cases slot : shape.member <;> simp [elementShape, slot]

@[simp] theorem keyShape_undocumented : shape.undocumented.keyShape = shape.keyShape := by
  cases slot : shape.key <;> simp [keyShape, slot]

@[simp] theorem valueShape_undocumented : shape.undocumented.valueShape = shape.valueShape := by
  cases slot : shape.value <;> simp [valueShape, slot]

@[simp] theorem part_undocumented (slot : Option Member) :
    shape.undocumented.part (slot.map Member.undocumented) =
      (shape.part slot).map Member.undocumented := by
  cases slot <;> rfl

/-- What is done member by member is done to the same members. -/
theorem mapM_members_undocumented {β : Type} {keep : String × Member → Bool}
    {f g : String × Member → Except Fault β}
    (kept : ∀ name member, keep (name, member.undocumented) = keep (name, member))
    (same : ∀ name member, f (name, member.undocumented) = g (name, member)) :
    (shape.undocumented.members.filter keep).mapM f = (shape.members.filter keep).mapM g := by
  rw [members_undocumented, Pairs.filter_mapValues kept]
  exact Pairs.mapM_mapValues same

@[simp] theorem references_undocumented : shape.undocumented.references = shape.references := by
  have members : shape.undocumented.members.map (·.2.shape) = shape.members.map (·.2.shape) :=
    Pairs.map_mapValues fun _ _ => rfl
  simp only [references, kind?_undocumented, members, elementShape_undocumented,
    keyShape_undocumented, valueShape_undocumented]

theorem wholeBody?_undocumented :
    shape.undocumented.wholeBody? =
      shape.wholeBody?.map (Option.map fun (name, member) => (name, member.undocumented)) := by
  simp only [wholeBody?, payload_undocumented, members_undocumented, Pairs.lookup_mapValues]
  split
  case h_1 name _ =>
    by_cases empty : name.isEmpty
    · simp [empty, Except.map]
    · simp [empty, Except.map, Function.comp_def]
  all_goals rfl

/-- What is done with the member that is the whole body is done with the same member. -/
theorem bind_wholeBody?_undocumented {β : Type} {f g : Option (String × Member) → Except Fault β}
    (shared : f none = g none)
    (whole : ∀ name member, f (some (name, member.undocumented)) = g (some (name, member))) :
    (shape.undocumented.wholeBody? >>= f) = shape.wholeBody? >>= g := by
  rw [wholeBody?_undocumented, Except.map_bind]
  refine bind_congr fun found => ?_
  cases found with
  | none => exact shared
  | some pair => exact whole pair.1 pair.2

theorem located_undocumented :
    shape.undocumented.located = Pairs.mapValues Member.undocumented shape.located :=
  Pairs.filter_mapValues fun _ _ => rfl

theorem inBody_undocumented :
    shape.undocumented.inBody = Pairs.mapValues Member.undocumented shape.inBody :=
  Pairs.filter_mapValues fun _ _ => rfl

@[simp] theorem locatedNames_undocumented :
    shape.undocumented.located.map (·.1) = shape.located.map (·.1) := by
  rw [located_undocumented]
  exact Pairs.map_mapValues fun _ _ => rfl

@[simp] theorem isEmpty_inBody_undocumented :
    shape.undocumented.inBody.isEmpty = shape.inBody.isEmpty := by
  rw [inBody_undocumented, Pairs.mapValues, List.isEmpty_map]

@[simp] theorem outputSources_undocumented :
    shape.undocumented.outputSources = shape.outputSources := by
  rw [outputSources, located_undocumented]
  exact Pairs.filterMap_mapValues fun _ _ => rfl

end Shape

namespace Service

/-! ### Looking shapes up -/

@[simp] theorem lookup_undocumented (name : String) :
    service.undocumented.shapes.lookup name =
      (service.shapes.lookup name).map Shape.undocumented :=
  Pairs.lookup_mapValues name

theorem lookup_undocumented_of_defined {name : String} {shape : Shape}
    (defined : service.shapes.lookup name = some shape) :
    service.undocumented.shapes.lookup name = some shape.undocumented := by
  rw [lookup_undocumented, defined, Option.map_some]

theorem shape?_undocumented (name : Json) :
    service.undocumented.shape? name =
      (service.shape? name).map (Option.map Shape.undocumented) := by
  cases name with
  | str name => exact congrArg Except.ok (service.lookup_undocumented name)
  | _ => rfl

@[simp] theorem shape_undocumented (name : Json) :
    service.undocumented.shape name = (service.shape name).map Shape.undocumented := by
  rw [Service.shape, Service.shape, shape?_undocumented, Except.map_bind, Except.bind_map]
  refine bind_congr fun found => ?_
  cases found <;> rfl

/-- What is done with a shape that has to be defined is done with the same shape. -/
theorem bind_shape_undocumented {β : Type} {f g : Shape → Except Fault β} (name : Json)
    (same : ∀ shape, f shape.undocumented = g shape) :
    (service.undocumented.shape name >>= f) = service.shape name >>= g := by
  rw [shape_undocumented, Except.map_bind]
  exact bind_congr same

@[simp] theorem memberKind?_undocumented :
    service.undocumented.memberKind? member.undocumented = service.memberKind? member := by
  rw [memberKind?, memberKind?, Member.shape_undocumented, shape?_undocumented, Except.map_bind]
  refine bind_congr fun found => ?_
  cases found <;> rfl

@[simp] theorem kindOf_undocumented (name : Json) :
    service.undocumented.kindOf name = service.kindOf name := by
  rw [kindOf, kindOf, shape_undocumented, Except.map_map]
  rfl

@[simp] theorem hasParts_undocumented (name : Json) :
    service.undocumented.hasParts name = service.hasParts name := by
  rw [hasParts, hasParts, kindOf_undocumented]

@[simp] theorem parserOf_undocumented (name : Json) :
    service.undocumented.parserOf name = service.parserOf name := by
  rw [parserOf, parserOf, kindOf_undocumented]

@[simp] theorem standsFlat_undocumented :
    service.undocumented.standsFlat member.undocumented = service.standsFlat member :=
  bind_shape_undocumented service member.shape fun _ => rfl

theorem exceptions_undocumented :
    service.undocumented.exceptions = service.exceptions.map Shape.undocumented := by
  rw [exceptions, show service.undocumented.shapes.map (·.2) = _ from Pairs.values_mapValues,
    List.filter_map]
  rfl

/-! ### What is sent and received -/

section Collect

variable {service} {name : String} {rest : List Json} {found : List String}

theorem collect_undefined (fresh : name ∉ found) (undefined : service.shapes.lookup name = none) :
    service.collect (.str name :: rest) found = .error (.undefinedShape name) := by
  rw [collect, if_neg fresh]
  split
  · rfl
  · simp_all

theorem collect_defined {shape : Shape} (fresh : name ∉ found)
    (defined : service.shapes.lookup name = some shape) :
    service.collect (.str name :: rest) found =
      shape.references >>= fun references =>
        service.collect (references.reverse ++ rest) (name :: found) := by
  rw [collect, if_neg fresh]
  split
  · simp_all
  · obtain rfl := Option.some.inj (defined.symm.trans ‹_›)
    cases shape.references <;> rfl

end Collect

@[simp] theorem collect_undocumented (pending : List Json) (found : List String) :
    service.undocumented.collect pending found = service.collect pending found := by
  -- both searches visit the same names, as a shape without its documentation refers to the same ones
  fun_induction service.collect pending found with
  | case1 found => rw [collect]
  | case2 found items rest => rw [collect]
  | case3 found entries rest => rw [collect]
  | case4 found name rest seen ih => rw [collect, if_pos seen, ih]
  | case5 found name rest fresh undefined =>
    apply collect_undefined fresh
    rw [lookup_undocumented, undefined, Option.map_none]
  | case6 found name rest fresh shape defined fault failed =>
    have kept := service.lookup_undocumented_of_defined defined
    rw [collect_defined fresh kept, Shape.references_undocumented, failed, Except.error_bind]
  | case7 found name rest fresh shape defined references listed ih =>
    have kept := service.lookup_undocumented_of_defined defined
    rw [collect_defined fresh kept, Shape.references_undocumented, listed, Except.ok_bind, ih]
  | case8 => rw [collect] <;> assumption

theorem reachOperation_undocumented (reach : Reach) :
    service.undocumented.reachOperation reach operation.undocumented =
      service.reachOperation reach operation := by
  simp only [reachOperation, follow, collect_undocumented, Operation.input_undocumented,
    Operation.output_undocumented]

theorem operations_undocumented :
    service.undocumented.operations.map (·.2) =
      (service.operations.map (·.2)).map Operation.undocumented :=
  Pairs.values_mapValues

@[simp] theorem reach_undocumented : service.undocumented.reach = service.reach := by
  rw [reach, reach, operations_undocumented, List.foldlM_map]
  simp only [reachOperation_undocumented]

/-! ### Readers and writers -/

@[simp] theorem payloadAccessor_undocumented :
    service.undocumented.payloadAccessor member.undocumented = service.payloadAccessor member := by
  simp [payloadAccessor]

@[simp] theorem elementAccessor_undocumented (ec2 : Bool) (name : String) :
    service.undocumented.elementAccessor ec2 shape.undocumented name member.undocumented =
      service.elementAccessor ec2 shape name member := by
  simp only [elementAccessor, standsFlat_undocumented, Member.shape_undocumented,
    shape_undocumented, Except.map_bind, Shape.member_undocumented, Shape.part_undocumented,
    Shape.elementShape_undocumented, Member.locationName_undocumented, parserOf_undocumented]
  rfl

@[simp] theorem accessor_undocumented (style : ReaderStyle) (name : String) :
    service.undocumented.accessor style shape.undocumented name member.undocumented =
      service.accessor style shape name member := by
  rw [accessor, accessor, elementAccessor_undocumented, payloadAccessor_undocumented,
    memberKind?_undocumented]
  rfl

@[simp] theorem readerFields_undocumented (style : ReaderStyle) :
    service.undocumented.readerFields style shape.undocumented =
      service.readerFields style shape :=
  shape.mapM_members_undocumented (fun _ _ => rfl) fun name member => by simp

@[simp] theorem xmlReader?_undocumented (style : ReaderStyle) (type : String) :
    service.undocumented.xmlReader? style type shape.undocumented =
      service.xmlReader? style type shape := by
  simp [xmlReader?, Except.map_bind]

@[simp] theorem elementWrite_undocumented (name : Json) (tag : String) :
    service.undocumented.elementWrite name tag = service.elementWrite name tag := by
  simp [elementWrite]

@[simp] theorem writerField_undocumented (name : String) :
    service.undocumented.writerField name member.undocumented = service.writerField name member := by
  simp [writerField, Except.map_bind]

@[simp] theorem writerFields_undocumented :
    service.undocumented.writerFields shape.undocumented = service.writerFields shape :=
  shape.mapM_members_undocumented (fun _ _ => rfl) fun name member => by simp

@[simp] theorem xmlWriter?_undocumented (type : String) :
    service.undocumented.xmlWriter? type shape.undocumented = service.xmlWriter? type shape := by
  simp [xmlWriter?, Except.map_bind]

@[simp] theorem formPut_undocumented (name : Json) (key : String) :
    service.undocumented.formPut name key = service.formPut name key := by
  simp [formPut]

@[simp] theorem formFields_undocumented :
    service.undocumented.formFields shape.undocumented = service.formFields shape :=
  shape.mapM_members_undocumented (fun _ _ => rfl) fun name member => by
    simp only [formPut_undocumented]
    rfl

@[simp] theorem itemKey_undocumented :
    service.undocumented.itemKey shape.undocumented = service.itemKey shape := by
  rw [itemKey, itemKey, Shape.member_undocumented, Shape.part_undocumented, Except.map_map]
  rfl

@[simp] theorem formWriter?_undocumented (type : String) :
    service.undocumented.formWriter? type shape.undocumented = service.formWriter? type shape := by
  simp only [formWriter?, Shape.kind?_undocumented, formFields_undocumented, itemKey_undocumented,
    Shape.key_undocumented, Shape.value_undocumented, Shape.flattened_undocumented,
    Shape.part_undocumented, Except.map_bind, Shape.elementShape_undocumented,
    Shape.keyShape_undocumented, Shape.valueShape_undocumented, formPut_undocumented,
    Member.locationName_undocumented]
  rfl

@[simp] theorem reader?_undocumented (family : Family) (type : String) :
    service.undocumented.reader? family type shape.undocumented =
      service.reader? family type shape := by
  simp only [reader?, xmlReader?_undocumented]
  rfl

@[simp] theorem writer?_undocumented (family : Family) (type : String) :
    service.undocumented.writer? family type shape.undocumented =
      service.writer? family type shape := by
  simp only [writer?, formWriter?_undocumented, xmlWriter?_undocumented]

/-! ### Where members travel -/

@[simp] theorem inputBinding?_undocumented (name : String) :
    service.undocumented.inputBinding? name member.undocumented =
      service.inputBinding? name member := by
  rw [inputBinding?, inputBinding?, memberKind?_undocumented]
  rfl

@[simp] theorem inputBindings_undocumented (input : Json) :
    service.undocumented.inputBindings input = service.inputBindings input := by
  refine ite_congr rfl (fun _ => ?_) fun _ => rfl
  refine bind_shape_undocumented service input fun shape => ?_
  refine congrArg (· >>= _) (shape.mapM_members_undocumented (fun _ _ => rfl) fun name member => ?_)
  exact inputBinding?_undocumented service member name

@[simp] theorem jsonPayload_undocumented :
    service.undocumented.jsonPayload operation.undocumented = service.jsonPayload operation := by
  refine ite_congr rfl (fun _ => ?_) fun _ => rfl
  refine bind_shape_undocumented service _ fun shape => ?_
  refine shape.bind_wholeBody?_undocumented ?_ fun name member => ?_
  · simp
  · simp

@[simp] theorem jsonExtras_undocumented :
    service.undocumented.jsonExtras shape.undocumented = service.jsonExtras shape := by
  refine shape.bind_wholeBody?_undocumented ?_ fun name member => ?_
  · simp
  · simp

@[simp] theorem jsonResponse_undocumented :
    service.undocumented.jsonResponse operation.undocumented = service.jsonResponse operation := by
  refine ite_congr rfl (fun _ => ?_) fun _ => rfl
  refine bind_congr fun type => bind_shape_undocumented service _ fun shape => ?_
  rw [jsonExtras_undocumented]

@[simp] theorem wholeBodyTag_undocumented (name : String) :
    service.undocumented.wholeBodyTag name member.undocumented =
      service.wholeBodyTag name member := by
  simp [wholeBodyTag, Except.map_map]

@[simp] theorem xmlPayload_undocumented :
    service.undocumented.xmlPayload operation.undocumented = service.xmlPayload operation := by
  refine ite_congr rfl (fun _ => ?_) fun _ => rfl
  refine bind_shape_undocumented service _ fun shape => ?_
  refine shape.bind_wholeBody?_undocumented ?_ fun name member => ?_
  · simp only [Shape.isEmpty_inBody_undocumented]
    rfl
  · simp only [memberKind?_undocumented, wholeBodyTag_undocumented]
    rfl

@[simp] theorem xmlResponse_undocumented :
    service.undocumented.xmlResponse operation.undocumented = service.xmlResponse operation := by
  refine ite_congr rfl (fun _ => ?_) fun _ => rfl
  refine bind_congr fun type => bind_shape_undocumented service _ fun shape => ?_
  refine shape.bind_wholeBody?_undocumented rfl fun name member => ?_
  simp

end Service

/-! ### Methods -/

/-- The head of the method for the same operation. -/
def MethodHead.undocumented (head : MethodHead) : MethodHead :=
  { head with operation := head.operation.undocumented }

def Method.undocumented (method : Method) : Method :=
  { method with head := method.head.undocumented }

/-- The text of a method holds what its head says and nothing else of its operation. -/
theorem Method.render_undocumented (method : Method) :
    method.undocumented.render = method.render := by
  obtain ⟨head, body⟩ := method
  cases body <;> rfl

namespace Service

theorem methodBody_undocumented (family : Family) (head : MethodHead) :
    service.undocumented.methodBody family head.undocumented = service.methodBody family head := by
  have operation : head.undocumented.operation = head.operation.undocumented := rfl
  cases family with
  | json | query => rfl
  | restJson => simp [methodBody, operation]
  | restXml => simp [methodBody, operation]

theorem method_undocumented (family : Family) (head : MethodHead) :
    service.undocumented.method family head.undocumented =
      (service.method family head).map Method.undocumented := by
  rw [method, method, methodBody_undocumented, Except.map_map]
  rfl

/-- The tests name the operations and nothing that is documented. -/
theorem testSection_undocumented : service.undocumented.testSection = service.testSection := by
  simp only [testSection, operations_undocumented, List.filter_map, List.mapM_map]
  rfl

/-! ### Sections of a module without comments -/

section Silent

variable {style : Style} (silent : style.settings.addComments.truthy = false)

include silent

theorem field_undocumented (hasWireFields : Bool) (name : String) :
    service.undocumented.field style shape.undocumented hasWireFields name member.undocumented =
      service.field style shape hasWireFields name member := by
  simp only [field, wireField, wireHint, memberKind?_undocumented,
    Settings.documentation_silent silent]
  rfl

theorem fields_undocumented (hasWireFields : Bool) :
    service.undocumented.fields style shape.undocumented hasWireFields =
      service.fields style shape hasWireFields :=
  shape.mapM_members_undocumented (fun _ _ => rfl) fun name member =>
    field_undocumented service shape member silent hasWireFields name

theorem declaration_undocumented (name : String) (marks : RecordMarks) :
    service.undocumented.declaration style name shape.undocumented marks =
      service.declaration style name shape marks := by
  simp [declaration, fields_undocumented service shape silent, Settings.documentation_silent silent]

theorem shapeSection_undocumented (reach : Reach) (name : String) :
    service.undocumented.shapeSection style reach name shape.undocumented =
      service.shapeSection style reach name shape := by
  simp [shapeSection, declaration_undocumented service shape silent]

theorem typeSection_undocumented :
    service.undocumented.typeSection style = service.typeSection style := by
  have declared : service.undocumented.declaredShapes =
      Pairs.mapValues Shape.undocumented service.declaredShapes :=
    Pairs.filter_mapValues fun _ _ => rfl
  have sections (reach : Reach) :
      service.undocumented.shapeSections style reach = service.shapeSections style reach := by
    rw [shapeSections, declared]
    exact Pairs.mapM_mapValues fun name shape =>
      shapeSection_undocumented service shape silent reach name
  simp only [typeSection, reach_undocumented, sections, declared, Pairs.length_mapValues]

theorem errorSection_undocumented (family : ErrorFamily) :
    service.undocumented.errorSection family style.settings =
      service.errorSection family style.settings := by
  have classes : service.undocumented.errorClasses style.settings =
      service.errorClasses style.settings := by
    rw [errorClasses, errorClasses, exceptions_undocumented, List.mapM_map]
    simp only [Settings.documentation_silent silent]
    rfl
  rw [errorSection, errorSection, classes]
  rfl

theorem methodHead_undocumented :
    service.undocumented.methodHead style.settings operation.undocumented =
      (service.methodHead style.settings operation).map MethodHead.undocumented := by
  simp only [methodHead, Settings.documentation_silent silent, Except.bind_map]
  rfl

theorem methodList_undocumented :
    service.undocumented.methodList style =
      (service.methodList style).map (List.map Method.undocumented) := by
  have heads : service.undocumented.methodHeads style.settings =
      (service.methodHeads style.settings).map (List.map MethodHead.undocumented) := by
    rw [methodHeads, methodHeads, Except.map_mapM]
    exact Pairs.mapM_mapValues fun name operation =>
      methodHead_undocumented service operation silent
  rw [methodList, methodList, heads, Except.map_bind, Except.bind_map]
  refine bind_congr fun heads => ?_
  rw [Except.map_mapM, List.mapM_map]
  exact Except.mapM_congr fun head _ => method_undocumented service style.family head

theorem clientSection_undocumented :
    service.undocumented.clientSection style = service.clientSection style := by
  have methods : service.undocumented.methods style = service.methods style := by
    rw [methods, methods, methodList_undocumented service silent, Except.map_bind]
    refine bind_congr fun methods => ?_
    rw [List.mapM_map, show Method.render ∘ Method.undocumented = Method.render from
      funext Method.render_undocumented]
  rw [clientSection, clientSection, methods]
  rfl

theorem moduleText_undocumented (errors : ErrorFamily) :
    service.undocumented.moduleText style errors = service.moduleText style errors := by
  have shapes : service.undocumented.shapes.length = service.shapes.length :=
    Pairs.length_mapValues
  have operations : service.undocumented.operations.length = service.operations.length :=
    Pairs.length_mapValues
  have exceptions : service.undocumented.exceptions.length = service.exceptions.length := by
    rw [exceptions_undocumented, List.length_map]
  simp only [moduleText, typeSection_undocumented service silent,
    errorSection_undocumented service silent, clientSection_undocumented service silent,
    testSection_undocumented, shapes, operations, exceptions]
  rfl

end Silent

/-- Without comments a service is generated as if it had no documentation. -/
theorem generate_undocumented {settings : Settings}
    (silent : settings.addComments.truthy = false) :
    service.undocumented.generate settings = service.generate settings := by
  refine bind_congr fun (family, errors) => ?_
  have quiet : (Style.mk family settings).settings.addComments.truthy = false := silent
  simp only [moduleText_undocumented service quiet]

/-- Services that differ only in what they document are given the same module, with the same
warnings and the same summary, or fail with the same error. -/
theorem generate_eq_of_undocumented_eq {settings : Settings} {first second : Service}
    (silent : settings.addComments.truthy = false)
    (same : first.undocumented = second.undocumented) :
    first.generate settings = second.generate settings :=
  calc first.generate settings
      = first.undocumented.generate settings := (generate_undocumented first silent).symm
    _ = second.undocumented.generate settings := by rw [same]
    _ = second.generate settings := generate_undocumented second silent

/-- A service that keeps memos, with one text wherever something is documented. -/
def memos (text : Json) : Service where
  metadata := { protocol := .str "rest-json", fullName := .str "Memos" }
  documentation := text
  shapes := [
    ("Memo", {
      name := "Memo", type := .str "structure", documentation := text
      members := [("text", { shape := .str "Text", documentation := text })] }),
    ("Text", { name := "Text", type := .str "string", documentation := text }),
    ("MemoLost", {
      name := "MemoLost", type := .str "structure", exception := true, documentation := text })]
  operations := [
    ("KeepMemo", { name := .str "KeepMemo", input := .str "Memo", documentation := text })]

theorem memos_generated_alike :
    memos (.str "Kept for good.") ≠ memos .null ∧
      (memos (.str "Kept for good.")).undocumented = (memos .null).undocumented ∧
      (memos (.str "Kept for good.")).generate { addComments := .bool false } =
        (memos .null).generate { addComments := .bool false } :=
  ⟨by decide, rfl, generate_eq_of_undocumented_eq rfl rfl⟩

end Service

end ServiceClient
