import ServiceClient.Service.Basic

/-!
Reading a description from its JSON document. Only what is needed to lay out shapes and operations
is checked here.
-/

namespace ServiceClient

namespace Json

/-- The members of an object, of which some may be absent. -/
def asObject : Json → Except Fault (List (String × Json))
  | .obj fields => .ok fields
  | j => .error (.notAnObject j.kind)

/-- A member that may be absent. -/
def optional (j : Json) (name : String) (default : Json := .null) : Except Fault Json :=
  j.asObject.map fun fields => (fields.lookup name).getD default

/-- A member that has to be there. -/
def need (j : Json) (name : String) : Except Fault Json :=
  match j with
  | .obj fields =>
    match fields.lookup name with
    | some v => .ok v
    | none => .error (.missingKey name)
  | j => .error (.notIndexable j.kind)

/-- The elements of an array, the names of an object or the characters of a text. -/
def elements : Json → Except Fault (List Json)
  | .arr items => .ok items
  | .obj fields => .ok (fields.map fun field => .str field.1)
  | .str s => .ok (s.toList.map fun c => .str c.toString)
  | j => .error (.notIterable j.kind)

/-- A value that is absent or counts as absent is an empty object. -/
def orEmpty (j : Json) : Json := if j.truthy then j else .obj []

end Json

namespace Member

def ofJson (j : Json) : Except Fault Member := do
  return {
    shape := ← j.need "shape"
    documentation := ← j.optional "documentation"
    deprecated := (← j.optional "deprecated").truthy
    location := ← j.optional "location"
    locationName := ← j.optional "locationName"
    queryName := ← j.optional "queryName"
    flattened := (← j.optional "flattened").truthy }

/-- The reference in a slot of a shape, if the slot is there. -/
def slot? (shape : Json) (slot : String) : Except Fault (Option Member) :=
  match shape.get? slot with
  | some j => (ofJson j).map some
  | none => .ok none

end Member

def Shape.ofJson (name : String) (j : Json) : Except Fault Shape := do
  let members ← (← j.optional "members" (.obj [])).asObject
  let members ← members.mapM fun (name, member) => return (name, ← Member.ofJson member)
  let error := (← j.optional "error").orEmpty
  return {
    name
    members
    type := ← j.need "type"
    documentation := ← j.optional "documentation"
    exception := (← j.optional "exception").truthy
    required := ← (← j.optional "required" (.arr [])).elements
    member := ← Member.slot? j "member"
    key := ← Member.slot? j "key"
    value := ← Member.slot? j "value"
    errorCode := ← error.optional "code"
    locationName := ← j.optional "locationName"
    flattened := (← j.optional "flattened").truthy
    payload := ← j.optional "payload" }

def Operation.ofJson (name : String) (j : Json) : Except Fault Operation := do
  let http ← j.optional "http" (.obj [])
  let output := (← j.optional "output").orEmpty
  return {
    name := ← j.optional "name" (.str name)
    httpMethod := ← http.optional "method" (.str "POST")
    requestUri := ← http.optional "requestUri" (.str "/")
    input := ← (← j.optional "input").orEmpty.optional "shape"
    output := ← output.optional "shape"
    resultWrapper := ← output.optional "resultWrapper"
    errors := ← (← (← j.optional "errors" (.arr [])).elements).mapM (·.need "shape")
    documentation := ← j.optional "documentation"
    deprecated := (← j.optional "deprecated").truthy }

def Metadata.ofJson (j : Json) : Except Fault Metadata := do
  let namespaceField ← j.optional "xmlNamespace"
  return {
    xmlNamespace := match namespaceField with
      | .obj fields => (fields.lookup "uri").getD .null
      | other => other
    protocol := ← j.need "protocol"
    fullName := ← j.need "serviceFullName"
    abbreviation := ← j.optional "serviceAbbreviation"
    endpointPrefix := ← j.optional "endpointPrefix"
    signingName := ← j.optional "signingName"
    targetPrefix := ← j.optional "targetPrefix"
    jsonVersion := ← j.optional "jsonVersion" (.str "1.1")
    apiVersion := ← j.optional "apiVersion" }

/-- Reads a description. Documents whose metadata, shapes or operations are laid out in a way that
cannot be followed are refused. -/
def Service.ofJson (j : Json) : Except Fault Service := do
  let metadata ← Metadata.ofJson (← j.need "metadata")
  let shapes ← (← j.optional "shapes" (.obj [])).asObject
  let shapes ← shapes.mapM fun (name, shape) => return (name, ← Shape.ofJson name shape)
  let operations ← (← j.optional "operations" (.obj [])).asObject
  let operations ← operations.mapM fun (name, operation) =>
    return (name, ← Operation.ofJson name operation)
  return { metadata, shapes, operations, documentation := ← j.optional "documentation" }

end ServiceClient
