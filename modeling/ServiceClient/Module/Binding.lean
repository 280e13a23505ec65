import ServiceClient.Module.Naming

/-!
Where members of a structure travel. A member with a location is in the URI, the query string, the
headers or the status code; one member may be the whole body; the others share the body. Deprecated
members do not travel.
-/

namespace ServiceClient

namespace Shape

/-- The members with a location, in order. -/
def located (shape : Shape) : List (String × Member) :=
  shape.members.filter fun (_, member) => member.location.truthy && !member.deprecated

/-- The members that share the body, in order. -/
def inBody (shape : Shape) : List (String × Member) :=
  shape.members.filter fun (name, member) =>
    !member.location.truthy && !member.deprecated && shape.payload != .str name

end Shape

/-- A member of an input, as a method reads it. -/
def inputField (name : String) : String := "input." ++ Naming.fieldName name

/-- A place in a request that takes an input member. -/
inductive InputPlace where
  /-- A label of the URI. -/
  | uri (label : Json)
  | query (name : String)
  /-- Each entry of a map is a query parameter. -/
  | queryMap
  | header (name : String)
  /-- Each entry of a map is a header; the names are put after a common start. -/
  | headers (start : String)
  deriving DecidableEq, Repr

/-- An input member and its place. -/
structure InputBinding where
  member : String
  place : InputPlace
  deriving DecidableEq, Repr

namespace InputBinding

/-- The label and the value that fills it. -/
def uriValue? (binding : InputBinding) : Option (Json × String) :=
  match binding.place with
  | .uri label => some (label, inputField binding.member)
  | _ => none

/-- The statement that puts a query parameter. -/
def queryLine? (binding : InputBinding) : Option String :=
  match binding.place with
  | .query name => some s!"_params.put(params, \"{name}\", {inputField binding.member})"
  | .queryMap => some s!"_params.put_all(params, {inputField binding.member})"
  | _ => none

/-- The statement that puts headers. -/
def headerLine? (binding : InputBinding) : Option String :=
  match binding.place with
  | .header name => some s!"_params.put_header(request, \"{name}\", {inputField binding.member})"
  | .headers start =>
    some s!"_params.put_prefixed_headers(request, \"{start}\", {inputField binding.member})"
  | _ => none

end InputBinding

/-- The place of a located input member; some locations have none in a request. -/
def Service.inputBinding? (service : Service) (name : String) (member : Member) :
    Except Fault (Option InputBinding) := do
  let label := member.nameAt name
  if member.location = .str "uri" then return some ⟨name, .uri label⟩
  else if member.location = .str "querystring" then
    if (← service.memberKind? member) = some .map then return some ⟨name, .queryMap⟩
    else return some ⟨name, .query label.display⟩
  else if member.location = .str "header" then return some ⟨name, .header label.display⟩
  else if member.location = .str "headers" then return some ⟨name, .headers label.display⟩
  else return none

/-- The places of an input's located members, in order. -/
def Service.bindingsOf (service : Service) (shape : Shape) : Except Fault (List InputBinding) := do
  return (← shape.located.mapM fun (name, member) =>
    service.inputBinding? name member).filterMap id

/-- The places of the members of an operation's input; none without an input. -/
def Service.inputBindings (service : Service) (input : Json) : Except Fault (List InputBinding) := do
  if input.truthy then service.bindingsOf (← service.shape input) else return []

/-- Where an output member outside the body is read from. -/
inductive OutputSource where
  | header (name : String)
  | headers (start : String)
  | status
  deriving DecidableEq, Repr

/-- The expression that reads from a source. -/
def OutputSource.expression : OutputSource → String
  | header name => s!"_params.header(response, \"{name}\")"
  | headers start => s!"_params.prefixed_headers(response, \"{start}\")"
  | status => "_params.status(response)"

/-- The source of a located output member; some locations have none in a response. -/
def Member.outputSource? (member : Member) (name : String) : Option OutputSource :=
  let label := (member.nameAt name).display
  if member.location = .str "header" then some (.header label)
  else if member.location = .str "headers" then some (.headers label)
  else if member.location = .str "statusCode" then some .status
  else none

/-- The output members that are read outside the body, in order, with their expressions. -/
def Shape.outputSources (shape : Shape) : List (String × String) :=
  shape.located.filterMap fun (name, member) =>
    (member.outputSource? name).map fun source => (name, source.expression)

end ServiceClient
