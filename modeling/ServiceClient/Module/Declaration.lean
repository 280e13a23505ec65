import ServiceClient.Module.Naming
import ServiceClient.Service.Reach
import ServiceClient.Settings
import ServiceClient.Template.Bundled

/-!
Declarations of types. A structure is a record whose fields say how they travel; every other shape
is another name for a builtin type or for a list or map of other types.
-/

namespace ServiceClient

/-- How the decorators of a record treat it. -/
structure RecordMarks where
  sent : Bool
  received : Bool
  deriving DecidableEq, Repr

namespace Family

/-- The decorators of a record, outermost first. -/
def decorators (family : Family) (marks : RecordMarks) : List String :=
  (if family.usesWireFields && marks.sent then ["_serde.serializable"] else []) ++
    (if family.usesWireFields && marks.received then ["_serde.deserializable"] else []) ++
    ["_dataclasses.dataclass(kw_only=True)"]

/-- Whether the fields of a record carry their wire names. -/
def hasWireFields (family : Family) (marks : RecordMarks) : Bool :=
  family.usesWireFields && (marks.sent || marks.received)

end Family

/-- A special treatment of a field on the wire. -/
inductive WireHint where
  /-- Octets travel as Base64 text. -/
  | blob
  /-- A missing value is left out. -/
  | leaveOut
  deriving DecidableEq, Repr

/-- How a field travels. -/
structure WireField where
  name : String
  hint : Option WireHint := none
  deriving DecidableEq, Repr

/-- A field of a record. -/
structure Field where
  name : String
  /-- The type of a value that is there. -/
  type : String
  required : Bool
  /-- None where the record is not written or read by its fields. -/
  wire : Option WireField := none
  documentation : Option String := none
  deriving DecidableEq, Repr

namespace Field

def annotation (field : Field) : String :=
  if field.required then field.type else "_t.Optional[" ++ field.type ++ "]"

/-- What the field is set to in its declaration. -/
def default? (field : Field) : Option String :=
  match field.wire with
  | none => if field.required then none else some "None"
  | some wire =>
    let arguments := ["\"" ++ wire.name ++ "\""] ++
      (if field.required then [] else ["default=None"]) ++
      (match wire.hint with
        | some .blob => ["blob=True"]
        | some .leaveOut => ["skip_none=True"]
        | none => [])
    some ("_serde.wire(" ++ Text.intercalate ", " arguments ++ ")")

end Field

/-- What a synonym stands for. -/
inductive Target where
  | builtin (name : String)
  | list (element : String)
  | map (key value : String)
  deriving DecidableEq, Repr

def Target.expression : Target → String
  | builtin name => name
  | list element => s!"_t.List[\"{element}\"]"
  | map key value => s!"_t.Dict[\"{key}\", \"{value}\"]"

/-- A declaration of a type. -/
inductive Declaration where
  | record (name : String) (decorators : List String) (fields : List Field)
    (documentation : Option String)
  | synonym (name : String) (target : Target) (comment documentation : Option String)
  deriving DecidableEq, Repr

namespace Declaration

/-- The name that is declared. -/
def declared : Declaration → String
  | record name .. => name
  | synonym name .. => name

def fieldScope (field : Field) : Json := .obj [
  ("name", .str field.name), ("annotation", .str field.annotation),
  ("default", optionalText field.default?),
  ("documentation", optionalText field.documentation)]

/-- The text of a declaration. -/
def render : Declaration → Except Fault String
  | record name decorators fields documentation =>
    Template.record.render [
      ("name", .str name),
      ("attributes", .str (Text.intercalate "\n" (decorators.map ("@" ++ ·)))),
      ("documentation", optionalText documentation),
      ("fields", .arr (fields.map fieldScope))]
  | synonym name target comment documentation =>
    Template.typeAlias.render [
      ("name", .str name), ("target", .str target.expression), ("comment", optionalText comment),
      ("documentation", optionalText documentation)]

end Declaration

/-- What declarations depend on besides the shapes. -/
structure Style where
  family : Family
  settings : Settings
  deriving DecidableEq, Repr

namespace Service

/-- The name of a member on the wire: its own, unless it has another one in the body. -/
def nameOnWire (name : String) (member : Member) : String :=
  if member.location = .null then member.locationName.displayOr name else name

/-- The treatment of a member on the wire. -/
def wireHint (service : Service) (member : Member) (required : Bool) :
    Except Fault (Option WireHint) := do
  match ← service.memberKind? member with
  | some .blob => return some .blob
  | some .boolean => return if required then none else some .leaveOut
  | _ => return none

/-- How the field of a member travels. -/
def wireField (service : Service) (name : String) (member : Member) (required : Bool) :
    Except Fault WireField := do
  return { name := nameOnWire name member, hint := ← service.wireHint member required }

/-- The field for a member. -/
def field (service : Service) (style : Style) (shape : Shape) (hasWireFields : Bool)
    (name : String) (member : Member) : Except Fault Field := do
  let type ← member.shape.typeName
  let required := shape.requires name
  let wire ← (if hasWireFields then (service.wireField name member required).map some else .ok none)
  return {
    name := Naming.fieldName name, type, required, wire
    documentation := ← style.settings.documentation member.documentation }

/-- The fields of a structure, in order; deprecated members have none. -/
def fields (service : Service) (style : Style) (shape : Shape) (hasWireFields : Bool) :
    Except Fault (List Field) :=
  (shape.members.filter (!·.2.deprecated)).mapM fun (name, member) =>
    service.field style shape hasWireFields name member

/-- The builtin type of a primitive kind, with its width where the builtin type has none. -/
def primitive? (family : Family) : ShapeKind → Option (String × Option String)
  | .blob => some ("bytes", none)
  | .boolean => some ("bool", none)
  | .double => some ("float", some "64-bit")
  | .float => some ("float", some "32-bit")
  | .integer => some ("int", some "32-bit")
  | .long => some ("int", some "64-bit")
  | .string => some ("str", none)
  | .timestamp => some (family.timeType, none)
  | .struct | .list | .map => none

/-- The declaration of a shape under a name. -/
def declaration (service : Service) (style : Style) (name : String) (shape : Shape)
    (marks : RecordMarks) : Except Fault Declaration := do
  match shape.kind? with
  | some .struct =>
    let fields ← service.fields style shape (style.family.hasWireFields marks)
    let documentation ← style.settings.documentation shape.documentation
    return .record name (style.family.decorators marks) fields documentation
  | some .list =>
    let element ← (← shape.elementShape).typeName
    let documentation ← style.settings.documentation shape.documentation
    return .synonym name (.list element) none documentation
  | some .map =>
    let key ← (← shape.keyShape).typeName
    let value ← (← shape.valueShape).typeName
    let documentation ← style.settings.documentation shape.documentation
    return .synonym name (.map key value) none documentation
  | kind =>
    match kind.bind (primitive? style.family) with
    | some (target, width) =>
      let documentation ← style.settings.documentation shape.documentation
      return .synonym name (.builtin target) width documentation
    | none => throw (.unknownKind shape.type shape.name)

end Service

end ServiceClient
