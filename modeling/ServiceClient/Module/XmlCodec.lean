import ServiceClient.Module.Naming
import ServiceClient.Template.Bundled

/-!
Functions of a module that read and write shapes as XML elements. A reader takes each member from a
child element, or from the response where members travel outside the body; a writer appends an
element for each member. What is read or written is laid out here as data; `render` gives its text.
-/

namespace ServiceClient

/-- A function that turns an element or a text into a value. -/
inductive Parser where
  | text
  | integer
  | floating
  | boolean
  | blob
  /-- The generated reader of a complex shape. -/
  | reader (function : String)
  deriving DecidableEq, Repr

namespace Parser

/-- The parser of a kind that has no parts; shapes of unknown kinds are read as text. -/
def ofKind : Option ShapeKind → Parser
  | some .blob => blob
  | some .boolean => boolean
  | some .double | some .float => floating
  | some .integer | some .long => integer
  | _ => text

def expression : Parser → String
  | text => "_xml.text"
  | integer => "_xml.integer"
  | floating => "_xml.floating"
  | boolean => "_xml.boolean"
  | blob => "_xml.blob"
  | reader function => function

end Parser

namespace Service

/-- The kind of a shape that has to be defined. -/
def kindOf (service : Service) (name : Json) : Except Fault (Option ShapeKind) :=
  (service.shape name).map Shape.kind?

/-- Whether a shape has parts and so functions of its own. -/
def hasParts (service : Service) (name : Json) : Except Fault Bool :=
  (service.kindOf name).map fun kind => (kind.map ShapeKind.hasParts).getD false

/-- The parser of a shape. -/
def parserOf (service : Service) (name : Json) : Except Fault Parser := do
  let kind ← service.kindOf name
  if (kind.map ShapeKind.hasParts).getD false then
    return .reader (Naming.readerName (← name.typeName))
  else return .ofKind kind

/-- Whether a member is a list whose elements stand directly in its parent. -/
def standsFlat (service : Service) (member : Member) : Except Fault Bool := do
  let shape ← service.shape member.shape
  return shape.kind? = some .list && (member.flattened || shape.flattened)

end Service

/-- A part of a shape, with its location name. -/
def Shape.part (shape : Shape) (slot : Option Member) : Except Fault Member :=
  match slot with
  | some member => .ok member
  | none => .error (.absentPart shape.name)

/-- The name of an element where members have small first letters. -/
def Member.uncapitalizedTag (member : Member) (name : String) : String :=
  member.locationName.displayOr
    (match name.toList with
      | [] => ""
      | c :: rest => String.ofList (Text.lowerChar c ++ rest))

/-- An expression that gives a member of an output. -/
inductive Accessor where
  | header (name : String) (parser : Parser)
  | headers (start : String)
  | status
  /-- The octets of the whole body. -/
  | bodyOctets
  /-- The text of the whole body. -/
  | bodyText
  /-- The whole body, parsed. -/
  | payload (parser : Parser)
  /-- The list of all children of a name. -/
  | flattened (tag : String) (parser : Parser)
  /-- A child that has to be there. -/
  | required (tag : String) (parser : Parser)
  | optional (tag : String) (parser : Parser)
  deriving DecidableEq, Repr

def Accessor.expression : Accessor → String
  | header name parser => s!"_params.header(response, \"{name}\", {parser.expression})"
  | headers start => s!"_params.prefixed_headers(response, \"{start}\")"
  | status => "_params.status(response)"
  | bodyOctets => "response.body if response is not None else None"
  | bodyText => "response.text if response is not None else None"
  | payload parser => s!"_xml.payload(node, {parser.expression})"
  | flattened tag parser => s!"_xml.flattened(node, \"{tag}\", {parser.expression})"
  | required tag parser => s!"_xml.required(node, \"{tag}\", {parser.expression})"
  | optional tag parser => s!"_xml.optional(node, \"{tag}\", {parser.expression})"

/-- How responses are read. -/
structure ReaderStyle where
  /-- Members may come from the response and not from the element. -/
  withResponse : Bool
  ec2 : Bool
  deriving DecidableEq, Repr

/-- What a reader builds. -/
inductive ReaderBody where
  | struct (fields : List (String × Accessor))
  | list (tag : String) (item : Parser)
  | map (key value : Parser)
  deriving DecidableEq, Repr

/-- A function that reads a shape from an element. -/
structure XmlReader where
  type : String
  style : ReaderStyle
  body : ReaderBody
  deriving DecidableEq, Repr

namespace Service

/-- The accessor of a member that is the whole body. -/
def payloadAccessor (service : Service) (member : Member) : Except Fault Accessor := do
  match ← service.memberKind? member with
  | some .blob => return .bodyOctets
  | some .string => return .bodyText
  | _ => return .payload (← service.parserOf member.shape)

/-- The accessor of a member that is in the body. -/
def elementAccessor (service : Service) (ec2 : Bool) (shape : Shape) (name : String)
    (member : Member) : Except Fault Accessor := do
  let tag := if ec2 then member.uncapitalizedTag name else member.locationName.displayOr name
  if ← service.standsFlat member then
    let list ← service.shape member.shape
    let tag := (← list.part list.member).locationName.displayOr tag
    return .flattened tag (← service.parserOf (← list.elementShape))
  else
    let parser ← service.parserOf member.shape
    return if shape.requires name then .required tag parser else .optional tag parser

/-- The accessor of a member. -/
def accessor (service : Service) (style : ReaderStyle) (shape : Shape) (name : String)
    (member : Member) : Except Fault Accessor := do
  let label := member.locationName.displayOr name
  if style.withResponse && member.location = .str "header" then
    return .header label (.ofKind (← service.memberKind? member))
  else if style.withResponse && member.location = .str "headers" then return .headers label
  else if style.withResponse && member.location = .str "statusCode" then return .status
  else if style.withResponse && shape.payload = .str name then service.payloadAccessor member
  else service.elementAccessor style.ec2 shape name member

/-- The fields that a reader fills, in order. -/
def readerFields (service : Service) (style : ReaderStyle) (shape : Shape) :
    Except Fault (List (String × Accessor)) :=
  (shape.members.filter (!·.2.deprecated)).mapM fun (name, member) => do
    return (Naming.fieldName name, ← service.accessor style shape name member)

/-- The reader of a shape, if it has parts. -/
def xmlReader? (service : Service) (style : ReaderStyle) (type : String) (shape : Shape) :
    Except Fault (Option XmlReader) := do
  match shape.kind? with
  | some .struct => return some ⟨type, style, .struct (← service.readerFields style shape)⟩
  | some .list =>
    let member ← shape.part shape.member
    return some ⟨type, style,
      .list (member.locationName.displayOr "member") (← service.parserOf member.shape)⟩
  | some .map =>
    let key ← service.parserOf (← shape.keyShape)
    let value ← service.parserOf (← shape.valueShape)
    return some ⟨type, style, .map key value⟩
  | _ => return none

end Service

namespace XmlReader

def function (reader : XmlReader) : String := Naming.readerName reader.type

def parameters (reader : XmlReader) : String :=
  match reader.body with
  | .struct _ =>
    if reader.style.withResponse then
      "node: _t.Optional[_xml.Element], response: _t.Optional[_request.HttpResponse] = None"
    else "node: _xml.Element"
  | _ => "node: _xml.Element"

def scope (reader : XmlReader) : Scope :=
  [("function", .str reader.function), ("type_name", .str reader.type),
    ("parameters", .str reader.parameters)] ++
  match reader.body with
  | .struct fields => [
      ("kind", .str "structure"),
      ("fields", .arr (fields.map fun (name, accessor) =>
        .obj [("name", .str name), ("expr", .str accessor.expression)]))]
  | .list tag item => [
      ("kind", .str "list"), ("item_tag", .str tag), ("item_parser", .str item.expression)]
  | .map key value => [
      ("kind", .str "map"), ("key_parser", .str key.expression),
      ("value_parser", .str value.expression)]

def render (reader : XmlReader) : Except Fault String := Template.xmlReader.render reader.scope

end XmlReader

/-- An element that a writer appends: written by the writer of a complex shape, or a text. -/
structure ElementWrite where
  tag : String
  writer : Option String
  deriving DecidableEq, Repr

/-- The statement that appends a value to a parent element. -/
def ElementWrite.line (write : ElementWrite) (parent value : String) : String :=
  match write.writer with
  | some function => s!"{parent}.append({function}(\"{write.tag}\", {value}))"
  | none => s!"_xml.append_text({parent}, \"{write.tag}\", {value})"

/-- A field that a writer appends; a flattened one has an element for each item. -/
structure WriterField where
  name : String
  flattened : Bool
  write : ElementWrite
  deriving DecidableEq, Repr

def WriterField.lines (field : WriterField) : List String :=
  let value := "obj." ++ field.name
  if field.flattened then
    [s!"for item in {value}:", "    " ++ field.write.line "node" "item"]
  else [field.write.line "node" value]

/-- What a writer appends. -/
inductive WriterBody where
  | struct (fields : List WriterField)
  | list (item : ElementWrite)
  | map (key value : ElementWrite)
  deriving DecidableEq, Repr

/-- A function that writes a shape as an element. -/
structure XmlWriter where
  type : String
  body : WriterBody
  deriving DecidableEq, Repr

/-- The locations outside the body. -/
def outsideBody : List Json :=
  [.str "uri", .str "querystring", .str "header", .str "headers", .str "statusCode"]

namespace Service

/-- How a shape is written as an element. -/
def elementWrite (service : Service) (shape : Json) (tag : String) : Except Fault ElementWrite := do
  if ← service.hasParts shape then
    return ⟨tag, some (Naming.writerName (← shape.typeName))⟩
  else return ⟨tag, none⟩

/-- How a member is written. -/
def writerField (service : Service) (name : String) (member : Member) :
    Except Fault WriterField := do
  let tag := member.locationName.displayOr name
  if ← service.standsFlat member then
    let list ← service.shape member.shape
    let element ← list.elementShape
    let tag := (← list.part list.member).locationName.displayOr tag
    return ⟨Naming.fieldName name, true, ← service.elementWrite element tag⟩
  else return ⟨Naming.fieldName name, false, ← service.elementWrite member.shape tag⟩

/-- The fields that a writer appends, in order: all that are not deprecated and have no location. -/
def writerFields (service : Service) (shape : Shape) : Except Fault (List WriterField) :=
  (shape.members.filter fun (_, member) =>
    !member.deprecated && !outsideBody.contains member.location).mapM fun (name, member) =>
      service.writerField name member

/-- The writer of a shape, if it has parts. -/
def xmlWriter? (service : Service) (type : String) (shape : Shape) :
    Except Fault (Option XmlWriter) := do
  match shape.kind? with
  | some .struct => return some ⟨type, .struct (← service.writerFields shape)⟩
  | some .list =>
    let tag := (← shape.part shape.member).locationName.displayOr "member"
    return some ⟨type, .list (← service.elementWrite (← shape.elementShape) tag)⟩
  | some .map =>
    let keyTag := (← shape.part shape.key).locationName.displayOr "key"
    let valueTag := (← shape.part shape.value).locationName.displayOr "value"
    let key ← service.elementWrite (← shape.keyShape) keyTag
    let value ← service.elementWrite (← shape.valueShape) valueTag
    return some ⟨type, .map key value⟩
  | _ => return none

end Service

namespace XmlWriter

def function (writer : XmlWriter) : String := Naming.writerName writer.type

def scope (writer : XmlWriter) : Scope :=
  [("function", .str writer.function), ("type_name", .str writer.type)] ++
  match writer.body with
  | .struct fields => [
      ("kind", .str "structure"),
      ("fields", .arr (fields.map fun field =>
        .obj [("name", .str field.name), ("lines", .arr (field.lines.map .str))]))]
  | .list item => [("kind", .str "list"), ("item_line", .str (item.line "node" "item"))]
  | .map key value => [
      ("kind", .str "map"), ("key_line", .str (key.line "entry" "key")),
      ("value_line", .str (value.line "entry" "value"))]

def render (writer : XmlWriter) : Except Fault String := Template.xmlWriter.render writer.scope

end XmlWriter

end ServiceClient
