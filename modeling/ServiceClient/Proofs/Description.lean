import ServiceClient.Proofs.Outcome
import ServiceClient.Service.Reader

/-!
Descriptions whose fields have the documented types. Such a description is always read, and what is
read is typed: names and references are texts, and what may be missing is a text or null.
-/

namespace ServiceClient

/-! ### The documented layout -/

namespace Layout

def isText : Json → Bool
  | .str _ => true
  | _ => false

def isOptionalText : Json → Bool
  | .str _ | .null => true
  | _ => false

def isFlag : Json → Bool
  | .bool _ => true
  | _ => false

def isListOf (item : Json → Bool) : Json → Bool
  | .arr items => items.all item
  | _ => false

/-- An object whose values are all laid out alike, under any names. Objects have distinct names. -/
def isTableOf (value : Json → Bool) : Json → Bool
  | .obj fields => decide (fields.map (·.1)).Nodup && fields.all fun field => value field.2
  | _ => false

/-- An object with some fields that have to be there and some that may be missing. -/
def isObject (required optional : List (String × (Json → Bool))) : Json → Bool
  | .obj fields =>
    required.all (fun (name, layout) => (fields.lookup name).any layout) &&
      optional.all (fun (name, layout) => (fields.lookup name).all layout)
  | _ => false

def orNull (layout : Json → Bool) (j : Json) : Bool := j == .null || layout j

def member : Json → Bool := isObject [("shape", isText)] [
  ("documentation", isOptionalText), ("deprecated", isFlag), ("location", isOptionalText),
  ("locationName", isOptionalText), ("queryName", isOptionalText), ("flattened", isFlag)]

def shape : Json → Bool := isObject [("type", isText)] [
  ("documentation", isOptionalText), ("exception", isFlag), ("members", isTableOf member),
  ("required", isListOf isText), ("member", member), ("key", member), ("value", member),
  ("error", orNull (isObject [] [("code", isOptionalText)])), ("locationName", isOptionalText),
  ("flattened", isFlag), ("payload", isOptionalText)]

def operation : Json → Bool := isObject [] [
  ("name", isText), ("http", isObject [] [("method", isText), ("requestUri", isText)]),
  ("input", orNull (isObject [] [("shape", isOptionalText)])),
  ("output", orNull (isObject [] [("shape", isOptionalText), ("resultWrapper", isOptionalText)])),
  ("errors", isListOf (isObject [("shape", isText)] [])), ("documentation", isOptionalText),
  ("deprecated", isFlag)]

def metadata : Json → Bool := isObject [("protocol", isText), ("serviceFullName", isText)] [
  ("serviceAbbreviation", isOptionalText), ("endpointPrefix", isOptionalText),
  ("signingName", isOptionalText), ("targetPrefix", isOptionalText), ("jsonVersion", isText),
  ("apiVersion", isOptionalText),
  ("xmlNamespace", fun j => isOptionalText j || isObject [] [("uri", isOptionalText)] j)]

/-- The layout of a whole description. -/
def service : Json → Bool := isObject [("metadata", metadata)] [
  ("shapes", isTableOf shape), ("operations", isTableOf operation),
  ("documentation", isOptionalText)]

theorem isText_iff {j : Json} : isText j ↔ ∃ s, j = .str s := by
  cases j <;> simp [isText]

theorem isOptionalText_iff {j : Json} : isOptionalText j ↔ j = .null ∨ ∃ s, j = .str s := by
  cases j <;> simp [isOptionalText]

theorem isText_of_isOptionalText {j : Json} (optional : isOptionalText j) (present : j.truthy) :
    isText j := by
  rcases isOptionalText_iff.mp optional with rfl | ⟨s, rfl⟩
  · cases present
  · rfl

end Layout

/-! ### Typed services -/

open Layout

structure Member.Typed (member : Member) : Prop where
  shape : isText member.shape
  documentation : isOptionalText member.documentation
  location : isOptionalText member.location
  locationName : isOptionalText member.locationName
  queryName : isOptionalText member.queryName

structure Shape.Typed (shape : Shape) : Prop where
  type : isText shape.type
  documentation : isOptionalText shape.documentation
  members : ∀ name member, (name, member) ∈ shape.members → member.Typed
  member : ∀ member, shape.member = some member → member.Typed
  key : ∀ member, shape.key = some member → member.Typed
  value : ∀ member, shape.value = some member → member.Typed
  errorCode : isOptionalText shape.errorCode
  payload : isOptionalText shape.payload

structure Operation.Typed (operation : Operation) : Prop where
  name : isText operation.name
  input : isOptionalText operation.input
  output : isOptionalText operation.output
  documentation : isOptionalText operation.documentation

structure Metadata.Typed (metadata : Metadata) : Prop where
  protocol : isText metadata.protocol
  fullName : isText metadata.fullName
  abbreviation : isOptionalText metadata.abbreviation

structure Service.Typed (service : Service) : Prop where
  metadata : service.metadata.Typed
  distinct : (service.shapes.map (·.1)).Nodup
  shapes : ∀ name shape, (name, shape) ∈ service.shapes → shape.Typed
  operations : ∀ name operation, (name, operation) ∈ service.operations → operation.Typed

/-! ### Reading -/

namespace Layout

@[simp] theorem optional_obj (fields : List (String × Json)) (name : String) (default : Json) :
    (Json.obj fields).optional name default = .ok ((fields.lookup name).getD default) := rfl

section Fields

variable {required optional : List (String × (Json → Bool))} {fields : List (String × Json)}

theorem obj_of_isObject {j : Json} (laid : isObject required optional j) :
    ∃ fields, j = .obj fields := by
  cases j with
  | obj fields => exact ⟨fields, rfl⟩
  | _ => cases laid

theorem need_of_isObject (name : String) (layout : Json → Bool)
    (laid : isObject required optional (.obj fields)) (known : (name, layout) ∈ required) :
    ∃ value, (Json.obj fields).need name = .ok value ∧ layout value := by
  obtain ⟨present, -⟩ := Bool.and_eq_true_iff.mp laid
  have here := List.all_eq_true.mp present _ known
  obtain ⟨value, found, fits⟩ := (Option.any_eq_true _ _).mp here
  exact ⟨value, by simp [Json.need, found], fits⟩

theorem lookup_of_isObject (name : String) (layout : Json → Bool)
    (laid : isObject required optional (.obj fields)) (known : (name, layout) ∈ optional)
    {value : Json} (found : fields.lookup name = some value) : layout value := by
  obtain ⟨-, present⟩ := Bool.and_eq_true_iff.mp laid
  have here := List.all_eq_true.mp present _ known
  simpa [found] using here

theorem getD_of_isObject (name : String) (default : Json) (layout : Json → Bool)
    (laid : isObject required optional (.obj fields)) (known : (name, layout) ∈ optional)
    (absent : layout default) : layout ((fields.lookup name).getD default) := by
  cases found : fields.lookup name with
  | none => exact absent
  | some value => exact lookup_of_isObject name layout laid known found

/-- An object without required fields may be left out. -/
theorem orEmpty_of_orNull {j : Json} (laid : orNull (isObject [] optional) j) :
    ∃ fields, j.orEmpty = .obj fields ∧ isObject [] optional (.obj fields) := by
  have empty : isObject [] optional (.obj []) := by simp [isObject]
  rcases Bool.or_eq_true_iff.mp laid with null | laid
  · obtain rfl := beq_iff_eq.mp null
    exact ⟨[], rfl, empty⟩
  · obtain ⟨fields, rfl⟩ := obj_of_isObject laid
    unfold Json.orEmpty
    split
    · exact ⟨fields, rfl, laid⟩
    · exact ⟨[], rfl, empty⟩

theorem elements_of_isListOf {j : Json} {item : Json → Bool} (laid : isListOf item j) :
    ∃ items, j.elements = .ok items ∧ ∀ value ∈ items, item value := by
  cases j with
  | arr items => exact ⟨items, rfl, List.all_eq_true.mp laid⟩
  | _ => cases laid

theorem asObject_of_isTableOf {j : Json} {layout : Json → Bool} (laid : isTableOf layout j) :
    ∃ fields, j.asObject = .ok fields ∧ (fields.map (·.1)).Nodup ∧
      ∀ name value, (name, value) ∈ fields → layout value := by
  cases j with
  | obj fields =>
    obtain ⟨distinct, each⟩ := Bool.and_eq_true_iff.mp laid
    exact ⟨fields, rfl, of_decide_eq_true distinct,
      fun name value inside => List.all_eq_true.mp each _ inside⟩
  | _ => cases laid

end Fields

end Layout

/-- Reading the values of a table under their names. -/
theorem mapM_fields_succeeds {β : Type} {P : β → Prop} {fields : List (String × Json)}
    {read : String → Json → Except Fault β}
    (each : ∀ name value, (name, value) ∈ fields → ∃ b, read name value = .ok b ∧ P b) :
    ∃ results, (fields.mapM fun (name, value) => do return (name, ← read name value)) = .ok results ∧
      results.map (·.1) = fields.map (·.1) ∧ ∀ name b, (name, b) ∈ results → P b := by
  have turns : ∀ field ∈ fields, ∃ result,
      (do return (field.1, ← read field.1 field.2) : Except Fault (String × β)) = .ok result := by
    rintro ⟨name, value⟩ inside
    obtain ⟨b, done, -⟩ := each name value inside
    exact ⟨(name, b), by simp [done]⟩
  obtain ⟨results, done⟩ := Except.mapM_succeeds_iff.mpr turns
  have names : results.map (·.1) = fields.map (·.1) := by
    refine Except.map_eq_of_mapM_eq_ok ?_ done
    rintro ⟨name, value⟩ result kept
    simp only [Except.bind_eq_ok_iff, Except.pure_eq_ok_iff] at kept
    obtain ⟨_, -, rfl⟩ := kept
    rfl
  refine ⟨results, done, names, fun name b inside => ?_⟩
  obtain ⟨⟨other, value⟩, own, result⟩ := Except.mem_of_mapM_eq_ok done inside
  obtain ⟨first, read, fits⟩ := each other value own
  simp only [read, Except.ok_bind, Except.pure_eq_ok_iff, Prod.mk.injEq] at result
  obtain ⟨-, rfl⟩ := result
  exact fits

theorem Member.ofJson_typed {j : Json} (laid : Layout.member j) :
    ∃ member, Member.ofJson j = .ok member ∧ member.Typed := by
  obtain ⟨fields, rfl⟩ := obj_of_isObject laid
  obtain ⟨shape, shapeRead, isShape⟩ := need_of_isObject "shape" isText laid (by simp)
  refine ⟨_, by simp only [Member.ofJson, shapeRead, optional_obj, Except.ok_bind]; rfl, ?_⟩
  exact {
    shape := isShape
    documentation := getD_of_isObject "documentation" .null isOptionalText laid (by simp) rfl
    location := getD_of_isObject "location" .null isOptionalText laid (by simp) rfl
    locationName := getD_of_isObject "locationName" .null isOptionalText laid (by simp) rfl
    queryName := getD_of_isObject "queryName" .null isOptionalText laid (by simp) rfl }

theorem Member.slot?_typed {fields : List (String × Json)} {slot : String}
    (laid : ∀ value, fields.lookup slot = some value → Layout.member value) :
    ∃ part, Member.slot? (.obj fields) slot = .ok part ∧
      ∀ member, part = some member → member.Typed := by
  simp only [Member.slot?, Json.get?]
  cases found : fields.lookup slot with
  | none => exact ⟨none, rfl, fun _ absent => by cases absent⟩
  | some value =>
    obtain ⟨member, read, typed⟩ := Member.ofJson_typed (laid value found)
    refine ⟨some member, by simp [read], fun other present => ?_⟩
    obtain rfl := Option.some.inj present
    exact typed

theorem Shape.ofJson_typed (name : String) {j : Json} (laid : Layout.shape j) :
    ∃ shape, Shape.ofJson name j = .ok shape ∧ shape.Typed := by
  obtain ⟨fields, rfl⟩ := obj_of_isObject laid
  obtain ⟨type, typeRead, isType⟩ := need_of_isObject "type" isText laid (by simp)
  obtain ⟨membersTable, membersObject, -, eachMember⟩ := asObject_of_isTableOf
    (getD_of_isObject "members" (.obj []) (isTableOf Layout.member) laid (by simp) rfl)
  obtain ⟨members, membersRead, -, membersTyped⟩ := mapM_fields_succeeds fun name value inside =>
    Member.ofJson_typed (eachMember name value inside)
  obtain ⟨errorFields, errorObject, isError⟩ := orEmpty_of_orNull
    (getD_of_isObject "error" .null (orNull (isObject [] [("code", isOptionalText)])) laid (by simp)
      rfl)
  obtain ⟨required, requiredRead, -⟩ := elements_of_isListOf
    (getD_of_isObject "required" (.arr []) (isListOf isText) laid (by simp) rfl)
  obtain ⟨member, memberRead, memberTyped⟩ := Member.slot?_typed fun value found =>
    lookup_of_isObject "member" Layout.member laid (by simp) found
  obtain ⟨key, keyRead, keyTyped⟩ := Member.slot?_typed fun value found =>
    lookup_of_isObject "key" Layout.member laid (by simp) found
  obtain ⟨value, valueRead, valueTyped⟩ := Member.slot?_typed fun value found =>
    lookup_of_isObject "value" Layout.member laid (by simp) found
  refine ⟨_, by
    simp only [Shape.ofJson, typeRead, optional_obj, Except.ok_bind, membersObject, membersRead,
      errorObject, requiredRead, memberRead, keyRead, valueRead]
    rfl, ?_⟩
  exact {
    type := isType
    documentation := getD_of_isObject "documentation" .null isOptionalText laid (by simp) rfl
    members := membersTyped
    member := memberTyped
    key := keyTyped
    value := valueTyped
    errorCode := getD_of_isObject "code" .null isOptionalText isError (by simp) rfl
    payload := getD_of_isObject "payload" .null isOptionalText laid (by simp) rfl }

theorem Operation.ofJson_typed (name : String) {j : Json} (laid : Layout.operation j) :
    ∃ operation, Operation.ofJson name j = .ok operation ∧ operation.Typed := by
  obtain ⟨fields, rfl⟩ := obj_of_isObject laid
  obtain ⟨httpFields, httpObject⟩ := obj_of_isObject
    (getD_of_isObject "http" (.obj []) (isObject [] [("method", isText), ("requestUri", isText)]) laid
      (by simp) rfl)
  obtain ⟨inputFields, inputObject, isInput⟩ := orEmpty_of_orNull
    (getD_of_isObject "input" .null (orNull (isObject [] [("shape", isOptionalText)])) laid (by simp)
      rfl)
  obtain ⟨outputFields, outputObject, isOutput⟩ := orEmpty_of_orNull
    (getD_of_isObject "output" .null
      (orNull (isObject [] [("shape", isOptionalText), ("resultWrapper", isOptionalText)])) laid
      (by simp) rfl)
  obtain ⟨errorItems, errorsRead, eachError⟩ := elements_of_isListOf
    (getD_of_isObject "errors" (.arr []) (isListOf (isObject [("shape", isText)] [])) laid (by simp)
      rfl)
  obtain ⟨errors, errorsDone⟩ : ∃ errors, errorItems.mapM (·.need "shape") = .ok errors := by
    refine Except.mapM_succeeds_iff.mpr fun error inside => ?_
    have isError := eachError error inside
    obtain ⟨errorFields, rfl⟩ := obj_of_isObject isError
    obtain ⟨shape, read, -⟩ := need_of_isObject "shape" isText isError (by simp)
    exact ⟨shape, read⟩
  refine ⟨_, by
    simp only [Operation.ofJson, optional_obj, Except.ok_bind, httpObject, inputObject, outputObject,
      errorsRead, errorsDone]
    rfl, ?_⟩
  exact {
    name := getD_of_isObject "name" (.str name) isText laid (by simp) rfl
    input := getD_of_isObject "shape" .null isOptionalText isInput (by simp) rfl
    output := getD_of_isObject "shape" .null isOptionalText isOutput (by simp) rfl
    documentation := getD_of_isObject "documentation" .null isOptionalText laid (by simp) rfl }

theorem Metadata.ofJson_typed {j : Json} (laid : Layout.metadata j) :
    ∃ metadata, Metadata.ofJson j = .ok metadata ∧ metadata.Typed := by
  obtain ⟨fields, rfl⟩ := obj_of_isObject laid
  obtain ⟨protocol, protocolRead, isProtocol⟩ := need_of_isObject "protocol" isText laid (by simp)
  obtain ⟨fullName, fullNameRead, isFullName⟩ :=
    need_of_isObject "serviceFullName" isText laid (by simp)
  refine ⟨_, by
    simp only [Metadata.ofJson, optional_obj, Except.ok_bind, protocolRead, fullNameRead]
    rfl, ?_⟩
  exact {
    protocol := isProtocol
    fullName := isFullName
    abbreviation := getD_of_isObject "serviceAbbreviation" .null isOptionalText laid (by simp) rfl }

/-- A description with the documented types is read, and its service is typed. -/
theorem Service.ofJson_typed {j : Json} (laid : Layout.service j) :
    ∃ service, Service.ofJson j = .ok service ∧ service.Typed := by
  obtain ⟨fields, rfl⟩ := obj_of_isObject laid
  obtain ⟨metadataValue, metadataNeeded, isMetadata⟩ :=
    need_of_isObject "metadata" Layout.metadata laid (by simp)
  obtain ⟨metadata, metadataRead, metadataTyped⟩ := Metadata.ofJson_typed isMetadata
  obtain ⟨shapesTable, shapesObject, distinct, eachShape⟩ := asObject_of_isTableOf
    (getD_of_isObject "shapes" (.obj []) (isTableOf Layout.shape) laid (by simp) rfl)
  obtain ⟨shapes, shapesRead, names, shapesTyped⟩ := mapM_fields_succeeds fun name value inside =>
    Shape.ofJson_typed name (eachShape name value inside)
  obtain ⟨operationsTable, operationsObject, -, eachOperation⟩ := asObject_of_isTableOf
    (getD_of_isObject "operations" (.obj []) (isTableOf Layout.operation) laid (by simp) rfl)
  obtain ⟨operations, operationsRead, -, operationsTyped⟩ := mapM_fields_succeeds
    fun name value inside => Operation.ofJson_typed name (eachOperation name value inside)
  refine ⟨_, by
    simp only [Service.ofJson, metadataNeeded, metadataRead, optional_obj, Except.ok_bind,
      shapesObject, shapesRead, operationsObject, operationsRead]
    rfl, ?_⟩
  exact ⟨metadataTyped, names ▸ distinct, shapesTyped, operationsTyped⟩

theorem Service.typed_of_ofJson {j : Json} {service : Service} (laid : Layout.service j)
    (read : Service.ofJson j = .ok service) : service.Typed := by
  obtain ⟨other, done, typed⟩ := ofJson_typed laid
  have same : service = other := Except.ok.inj (read.symm.trans done)
  rw [same]
  exact typed

end ServiceClient
