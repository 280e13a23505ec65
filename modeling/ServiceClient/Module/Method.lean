import ServiceClient.Module.Binding
import ServiceClient.Module.Declaration
import ServiceClient.Module.FormWriter
import ServiceClient.Module.XmlCodec

/-!
The methods of a client class, one for each operation. `MethodHead` is what the methods of all
families share; `MethodBody` is what each family adds: how the input becomes a request and the
response an output. A method is laid out here as data; `render` gives its text.
-/

namespace ServiceClient

/-- What every method needs. -/
structure MethodHead where
  operation : Operation
  name : String
  inputType : Option String
  outputType : Option String
  documentation : Option String
  errorType : String
  signingName : Json
  endpointPrefix : Json
  deriving DecidableEq, Repr

namespace Service

/-- The type of an input or output, if there is one. -/
def ioType (shape : Json) : Except Fault (Option String) :=
  if shape.truthy then shape.typeName.map some else .ok none

def methodHead (service : Service) (settings : Settings) (operation : Operation) :
    Except Fault MethodHead := do
  return {
    operation
    name := ← operation.name.methodName
    inputType := ← ioType operation.input
    outputType := ← ioType operation.output
    documentation := ← settings.documentation operation.documentation
    errorType := ← service.errorName
    signingName := ← service.signingName
    endpointPrefix := ← service.endpointPrefix }

/-- The heads of all methods, in order. -/
def methodHeads (service : Service) (settings : Settings) : Except Fault (List MethodHead) :=
  service.operations.mapM fun (_, operation) => service.methodHead settings operation

end Service

namespace MethodHead

def scope (head : MethodHead) : Scope := [
  ("name", head.operation.name),
  ("method_name", .str head.name),
  ("input_type", optionalText head.inputType),
  ("output_type", optionalText head.outputType),
  ("documentation", optionalText head.documentation),
  ("error_type", .str head.errorType),
  ("signing_name", head.signingName),
  ("endpoint_prefix", head.endpointPrefix)]

end MethodHead

namespace Service

/-- The name of an operation in the header that selects it. -/
def target (service : Service) (operation : Operation) : Json :=
  if service.metadata.targetPrefix.truthy then
    .str (service.metadata.targetPrefix.display ++ "." ++ operation.name.display)
  else operation.name

/-- The element that the output is in, as an expression. -/
def resultWrapper (service : Service) (operation : Operation) : String :=
  if !service.speaksEc2 && operation.resultWrapper.truthy then
    "\"" ++ operation.resultWrapper.display ++ "\""
  else "None"

end Service

/-- The function for a type, unless there is no type or it has no name. -/
def functionFor (name : String → String) : Option String → Option String
  | some type => if type.isEmpty then none else some (name type)
  | none => none

/-- Statements of a method, one a line. -/
abbrev Lines := List String

/-- Statements that send a member as the whole body, unless it is missing. -/
def guarded (value : String) (lines : Lines) : Lines :=
  s!"if {value} is not None:" :: lines.map ("    " ++ ·)

/-- What a method sends as a JSON body. -/
inductive JsonPayload where
  | nothing
  /-- The octets of a member. -/
  | octets (member : String)
  /-- The text of a member. -/
  | text (member : String)
  /-- The data of a member. -/
  | document (member : String)
  /-- The data of the input without some of its members. -/
  | input (excluded : List String)
  deriving DecidableEq, Repr

def JsonPayload.lines : JsonPayload → Lines
  | nothing => []
  | octets member => [s!"request.set_payload({inputField member})"]
  | text member =>
    guarded (inputField member) [
      "request.set_content_type(\"text/plain\")",
      s!"request.set_payload({inputField member}.encode(\"utf-8\"))"]
  | document member =>
    guarded (inputField member) [
      "request.set_content_type(\"application/json\")",
      s!"request.set_payload(_serde.to_json({inputField member}))"]
  | input excluded =>
    let names := Text.intercalate ", " (excluded.map fun name => "\"" ++ name ++ "\"")
    let body :=
      if excluded.isEmpty then "request.set_payload(_serde.to_json(input))"
      else s!"request.set_payload(_serde.to_json(input, exclude=({names},)))"
    ["request.set_content_type(\"application/json\")", body]

/-- What a method makes of a JSON response. -/
inductive JsonResponse where
  | nothing
  /-- A value of a type from a body, with members that come from elsewhere. -/
  | value (type body : String) (extras : List (String × String))
  deriving DecidableEq, Repr

def JsonResponse.lines : JsonResponse → Lines
  | nothing => ["return None"]
  | value type body [] => [s!"return _serde.from_json({type}, {body})"]
  | value type body extras =>
    ["return _serde.from_json(", s!"    {type},", s!"    {body},", "    extra=\x7b"] ++
      extras.map (fun (name, expression) => s!"        \"{name}\": {expression},") ++
      ["    \x7d,", ")"]

/-- A value that is sent as an XML element. -/
structure XmlBody where
  /-- The function that writes the element. -/
  writer : String
  tag : String
  value : String
  namespaceUri : Json
  deriving DecidableEq, Repr

def XmlBody.lines (body : XmlBody) : Lines :=
  [s!"body = {body.writer}(\"{body.tag}\", {body.value})"] ++
    (if body.namespaceUri.truthy then
      [s!"body.set(\"xmlns\", \"{body.namespaceUri.display}\")"]
    else []) ++
    ["request.set_payload(_xml.to_bytes(body))"]

/-- What a method sends as an XML body. -/
inductive XmlPayload where
  | nothing
  /-- The octets of a member. -/
  | octets (member : String)
  /-- The text of a member. -/
  | text (member : String)
  /-- The element of a member. -/
  | document (member : String) (body : XmlBody)
  /-- The element of the input. -/
  | input (body : XmlBody)
  deriving DecidableEq, Repr

def XmlPayload.lines : XmlPayload → Lines
  | nothing => []
  | octets member => [s!"request.set_payload({inputField member})"]
  | text member =>
    guarded (inputField member) [s!"request.set_payload({inputField member}.encode(\"utf-8\"))"]
  | document member body => guarded (inputField member) body.lines
  | input body => body.lines

/-- What a method makes of an XML response. -/
inductive XmlResponse where
  | nothing
  /-- A reader that only looks at the response. -/
  | unparsed (reader : String)
  /-- A reader that looks at the body's root too. -/
  | parsed (reader : String)
  deriving DecidableEq, Repr

def XmlResponse.lines : XmlResponse → Lines
  | nothing => ["return None"]
  | unparsed reader => [s!"return {reader}(None, response)"]
  | parsed reader => [
    "root = _xml.parse(response.body) if response.body.strip() else None",
    s!"return {reader}(root, response)"]

namespace Service

/-- How the input of an operation becomes a JSON body. -/
def jsonPayload (service : Service) (operation : Operation) : Except Fault JsonPayload := do
  if operation.input.truthy then
    let shape ← service.shape operation.input
    match ← shape.wholeBody? with
    | some (name, member) =>
      match ← service.memberKind? member with
      | some .blob => return .octets name
      | some .string => return .text name
      | _ => return .document name
    | none => return if shape.inBody.isEmpty then .nothing else .input (shape.located.map (·.1))
  else return .nothing

/-- Output members that a method hands over besides the body, and the body it reads. -/
def jsonExtras (service : Service) (shape : Shape) :
    Except Fault (List (String × String) × String) := do
  match ← shape.wholeBody? with
  | some (name, member) =>
    let source := match ← service.memberKind? member with
      | some .blob => "response.body"
      | some .string => "response.text"
      | _ => "_serde.parse_json_body(response.body)"
    return (shape.outputSources ++ [(name, source)], "None")
  | none => return (shape.outputSources, "response.body")

/-- How a JSON response becomes the output of an operation. -/
def jsonResponse (service : Service) (operation : Operation) : Except Fault JsonResponse := do
  if operation.output.truthy then
    let type ← operation.output.typeName
    let shape ← service.shape operation.output
    let (extras, body) ← service.jsonExtras shape
    return .value type body extras
  else return .nothing

/-- A value of a shape as an XML body. -/
def xmlBody (service : Service) (shape : Json) (tag value : String) : Except Fault XmlBody := do
  return {
    writer := Naming.writerName (← shape.typeName), tag, value
    namespaceUri := service.metadata.xmlNamespace }

/-- The tag of a member that is the whole body; without a name of its own it takes the shape's. -/
def wholeBodyTag (service : Service) (name : String) (member : Member) : Except Fault String :=
  if member.locationName.truthy then .ok (member.locationName.displayOr name)
  else (service.shape member.shape).map fun shape => shape.locationName.displayOr name

/-- How the input of an operation becomes an XML body. -/
def xmlPayload (service : Service) (operation : Operation) : Except Fault XmlPayload := do
  if operation.input.truthy then
    let shape ← service.shape operation.input
    match ← shape.wholeBody? with
    | some (name, member) =>
      match ← service.memberKind? member with
      | some .blob => return .octets name
      | some .string => return .text name
      | _ =>
        let tag ← service.wholeBodyTag name member
        return .document name (← service.xmlBody member.shape tag (inputField name))
    | none =>
      if shape.inBody.isEmpty then return .nothing
      else
        let tag := shape.locationName.displayOr operation.input.display
        return .input (← service.xmlBody operation.input tag "input")
  else return .nothing

/-- How an XML response becomes the output of an operation. -/
def xmlResponse (service : Service) (operation : Operation) : Except Fault XmlResponse := do
  if operation.output.truthy then
    let reader := Naming.readerName (← operation.output.typeName)
    let shape ← service.shape operation.output
    match ← shape.wholeBody? with
    | some (_, member) =>
      match ← service.memberKind? member with
      | some .blob | some .string => return .unparsed reader
      | _ => return .parsed reader
    | none => return .parsed reader
  else return .nothing

end Service

/-- What a family adds to the head of a method. -/
inductive MethodBody where
  | json (version target : Json)
  | query (version : Json) (wrapper : String) (writer reader : Option String)
  | restJson (bindings : List InputBinding) (payload : JsonPayload) (response : JsonResponse)
  | restXml (bindings : List InputBinding) (payload : XmlPayload) (response : XmlResponse)
  deriving DecidableEq, Repr

namespace MethodBody

def template : MethodBody → Template
  | json .. => Template.jsonMethod
  | query .. => Template.queryMethod
  | restJson .. | restXml .. => Template.restMethod

/-- What a method needs that sends its input where the members say. -/
def restScope (operation : Operation) (bindings : List InputBinding) (payload response : Lines) :
    Scope := [
  ("uri_values", .arr ((bindings.filterMap (·.uriValue?)).map fun (label, value) =>
    .arr [label, .str value])),
  ("query_lines", .arr ((bindings.filterMap (·.queryLine?)).map .str)),
  ("header_lines", .arr ((bindings.filterMap (·.headerLine?)).map .str)),
  ("http_method", operation.httpMethod),
  ("request_uri", operation.requestUri),
  ("payload_lines", .arr (payload.map .str)),
  ("response_lines", .arr (response.map .str))]

/-- A function that is there, under a name. -/
def functionScope (name : String) : Option String → Scope
  | some function => [(name, .str function)]
  | none => []

def scope (operation : Operation) : MethodBody → Scope
  | json version target => [("json_version", version), ("target", target)]
  | query version wrapper writer reader =>
    [("api_version", version), ("result_wrapper", .str wrapper)] ++
      functionScope "serializer" writer ++ functionScope "deserializer" reader
  | restJson bindings payload response =>
    restScope operation bindings payload.lines response.lines
  | restXml bindings payload response =>
    restScope operation bindings payload.lines response.lines

end MethodBody

/-- A method of a client. -/
structure Method where
  head : MethodHead
  body : MethodBody
  deriving DecidableEq, Repr

def Method.render (method : Method) : Except Fault String :=
  method.body.template.render (method.head.scope ++ method.body.scope method.head.operation)

namespace Service

def methodBody (service : Service) (family : Family) (head : MethodHead) :
    Except Fault MethodBody := do
  let operation := head.operation
  match family with
  | .json => return .json service.metadata.jsonVersion (service.target operation)
  | .query =>
    return .query (service.metadata.apiVersion.orElse (.str "")) (service.resultWrapper operation)
      (functionFor Naming.writerName head.inputType) (functionFor Naming.readerName head.outputType)
  | .restJson =>
    let bindings ← service.inputBindings operation.input
    let payload ← service.jsonPayload operation
    return .restJson bindings payload (← service.jsonResponse operation)
  | .restXml =>
    let bindings ← service.inputBindings operation.input
    let payload ← service.xmlPayload operation
    return .restXml bindings payload (← service.xmlResponse operation)

/-- The method with a head. -/
def method (service : Service) (family : Family) (head : MethodHead) : Except Fault Method :=
  (service.methodBody family head).map fun body => { head, body }

/-- The methods for all operations, in order. -/
def methodList (service : Service) (style : Style) : Except Fault (List Method) := do
  let heads ← service.methodHeads style.settings
  heads.mapM (service.method style.family)

/-- The text of all methods, with an empty line between each two. -/
def methods (service : Service) (style : Style) : Except Fault String := do
  let methods ← service.methodList style
  return Text.intercalate "\n" (← methods.mapM Method.render)

end Service

end ServiceClient
