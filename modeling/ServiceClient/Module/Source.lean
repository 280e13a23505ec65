import ServiceClient.Module.ErrorClass
import ServiceClient.Module.Method
import ServiceClient.Text.Tidy

/-!
The text of a module, section by section: imports, declarations with their readers and writers, error
classes, the client class and its tests.
-/

namespace ServiceClient

/-- A function of a module that writes a shape. -/
inductive ShapeWriter where
  | form (writer : FormWriter)
  | xml (writer : XmlWriter)
  deriving DecidableEq, Repr

namespace ShapeWriter

def function : ShapeWriter → String
  | form writer => writer.function
  | xml writer => writer.function

def render : ShapeWriter → Except Fault String
  | form writer => writer.render
  | xml writer => writer.render

end ShapeWriter

/-- Two line feeds stand between sections. -/
def sectionGap : String := "\n\n"

/-- A text that is there, with a break after it. -/
def broken (text : Option String) : String :=
  match text with
  | some text => if text.isEmpty then "" else text ++ sectionGap
  | none => ""

/-- What a module holds for a shape: its declaration, a reader if it is received and a writer if it is
sent, as far as the family gives it one. -/
structure ShapeSection where
  /-- The name of the shape in the description. -/
  shape : String
  declaration : Declaration
  reader : Option XmlReader
  writer : Option ShapeWriter
  deriving DecidableEq, Repr

def ShapeSection.render (part : ShapeSection) : Except Fault String := do
  let declaration ← part.declaration.render
  let reader ← part.reader.mapM XmlReader.render
  let writer ← part.writer.mapM ShapeWriter.render
  return declaration ++ sectionGap ++ broken reader ++ broken writer

/-- What the declarations of a module hold. -/
structure DeclarationCounts where
  declarations : Nat
  reach : Reach

namespace Service

/-- How the readers of a family read, if it has any. -/
def readerStyle? (service : Service) : Family → Option ReaderStyle
  | .query => some { withResponse := false, ec2 := service.speaksEc2 }
  | .restXml => some { withResponse := true, ec2 := false }
  | .json | .restJson => none

/-- The reader of a shape, if its family gives it one. -/
def reader? (service : Service) (family : Family) (type : String) (shape : Shape) :
    Except Fault (Option XmlReader) :=
  match service.readerStyle? family with
  | some style => service.xmlReader? style type shape
  | none => .ok none

/-- The writer of a shape, if its family gives it one. -/
def writer? (service : Service) (family : Family) (type : String) (shape : Shape) :
    Except Fault (Option ShapeWriter) :=
  match family with
  | .query => (service.formWriter? type shape).map (Option.map .form)
  | .restXml => (service.xmlWriter? type shape).map (Option.map .xml)
  | .json | .restJson => .ok none

/-- The text of the reader of a shape. -/
def readerText? (service : Service) (family : Family) (type : String) (shape : Shape) :
    Except Fault (Option String) := do
  (← service.reader? family type shape).mapM XmlReader.render

/-- The text of the writer of a shape. -/
def writerText? (service : Service) (family : Family) (type : String) (shape : Shape) :
    Except Fault (Option String) := do
  (← service.writer? family type shape).mapM ShapeWriter.render

/-- Whether a shape is sent and whether it is received. -/
def marks (reach : Reach) (name : String) : RecordMarks :=
  { sent := reach.sent.contains name, received := reach.received.contains name }

/-- What a module holds for the shape under a name. -/
def shapeSection (service : Service) (style : Style) (reach : Reach) (name : String)
    (shape : Shape) : Except Fault ShapeSection := do
  let type := Naming.typeName name
  let marks := marks reach name
  let declaration ← service.declaration style type shape marks
  let reader ← (if marks.received then service.reader? style.family type shape else .ok none)
  let writer ← (if marks.sent then service.writer? style.family type shape else .ok none)
  return { shape := name, declaration, reader, writer }

/-- The shapes that have declarations: exceptions become error classes. -/
def declaredShapes (service : Service) : List (String × Shape) :=
  service.shapes.filter fun (_, shape) => !shape.exception

/-- What a module holds for all declared shapes, in order. -/
def shapeSections (service : Service) (style : Style) (reach : Reach) :
    Except Fault (List ShapeSection) :=
  service.declaredShapes.mapM fun (name, shape) => service.shapeSection style reach name shape

/-- The text for all declared shapes. -/
def typeSection (service : Service) (style : Style) : Except Fault (String × DeclarationCounts) := do
  let reach ← service.reach
  let sections ← service.shapeSections style reach
  let texts ← sections.mapM ShapeSection.render
  return (String.join texts, { declarations := service.declaredShapes.length, reach })

/-- The opening of the module. -/
def opening (service : Service) (settings : Settings) : Except Fault String :=
  Template.opening.render [
    ("runtime", settings.runtimePackage),
    ("service_full_name", service.metadata.fullName),
    ("protocol", service.metadata.protocol)]

end Service

/-- The imports of a family. -/
def Style.importSection (style : Style) : Except Fault String :=
  Template.protocolImports.render [
    ("runtime", style.settings.runtimePackage),
    ("imports", .arr (style.family.imports.map fun (part, name) => .arr [.str part, .str name]))]

namespace Service

/-- The client class. -/
def clientSection (service : Service) (style : Style) : Except Fault String := do
  let client ← service.clientName
  let methods ← service.methods style
  Template.client.render [
    ("client", .str client), ("service_name", service.displayName), ("methods", .str methods)]

/-- The tests of the client. -/
def testSection (service : Service) : Except Fault String := do
  let operations := service.operations.map (·.2)
  let client ← service.clientName
  let methods ← operations.mapM fun operation => operation.name.methodName
  let noInput ← (operations.filter (!·.input.truthy)).mapM fun operation => operation.name.methodName
  Template.tests.render [
    ("client", .str client),
    ("methods", .arr (methods.map .str)),
    ("no_input_methods", .arr (noInput.map .str))]

end Service

/-- What is told about a generated module. -/
structure Summary where
  protocol : String
  service : Json
  client : String
  shapeCount : Nat
  declarationCount : Nat
  operationCount : Nat
  errorCount : Nat
  sentCount : Nat
  receivedCount : Nat
  deriving DecidableEq, Repr

/-- The entries of a summary in their order, by name. -/
def Summary.entries (summary : Summary) : List (String × Json) := [
  ("protocol", .str summary.protocol),
  ("service", summary.service),
  ("client", .str summary.client),
  ("shape_count", .int summary.shapeCount),
  ("declaration_count", .int summary.declarationCount),
  ("operation_count", .int summary.operationCount),
  ("error_count", .int summary.errorCount),
  ("serialized_count", .int summary.sentCount),
  ("deserialized_count", .int summary.receivedCount)]

namespace Service

/-- All sections of a module one after the other, and what is told about it. -/
def moduleText (service : Service) (style : Style) (errors : ErrorFamily) :
    Except Fault (String × Summary) := do
  let opening ← service.opening style.settings
  let imports ← style.importSection
  let (types, counts) ← service.typeSection style
  let errorText ← service.errorSection errors style.settings
  let client ← service.clientSection style
  let tests ← (if style.settings.generateTests.truthy then
    service.testSection.map (sectionGap ++ ·) else .ok "")
  let text := opening ++ imports ++ sectionGap ++ types ++ errorText ++ sectionGap ++ client ++ tests
  return (text, {
    protocol := style.family.protocol
    service := service.displayName
    client := ← service.clientName
    shapeCount := service.shapes.length
    declarationCount := counts.declarations
    operationCount := service.operations.length
    errorCount := service.exceptions.length
    sentCount := counts.reach.sent.length
    receivedCount := counts.reach.received.length })

end Service

end ServiceClient
