import ServiceClient.Service.Fault
import ServiceClient.Text.Case

/-!
Descriptions of services: shapes, the operations that take and give them, and settings of the whole
service. Shapes, members and operations are in the order of the description, which is the order in
which a client declares them. Fields that are only passed on keep whatever value they were given.
-/

namespace ServiceClient

/-- The kinds of shapes that a client can be generated for. -/
inductive ShapeKind where
  | struct
  | list
  | map
  | blob
  | boolean
  | double
  | float
  | integer
  | long
  | string
  | timestamp
  deriving DecidableEq, Repr

namespace ShapeKind

def name : ShapeKind → String
  | struct => "structure"
  | list => "list"
  | map => "map"
  | blob => "blob"
  | boolean => "boolean"
  | double => "double"
  | float => "float"
  | integer => "integer"
  | long => "long"
  | string => "string"
  | timestamp => "timestamp"

def all : List ShapeKind :=
  [struct, list, map, blob, boolean, double, float, integer, long, string, timestamp]

/-- The kind with the given name. -/
def ofName? (name : String) : Option ShapeKind := all.find? (·.name == name)

/-- Structures, lists and maps, whose values have parts. -/
def hasParts : ShapeKind → Bool
  | struct | list | map => true
  | _ => false

end ShapeKind

/-- A reference to a shape from a member of a structure or from the slot of a list or map. -/
structure Member where
  shape : Json
  documentation : Json := .null
  deprecated : Bool := false
  /-- Where the member travels if not in the body: `uri`, `querystring`, `header`, `headers` or
  `statusCode`. -/
  location : Json := .null
  locationName : Json := .null
  queryName : Json := .null
  flattened : Bool := false
  deriving DecidableEq, Repr

/-- A named type of data. -/
structure Shape where
  name : String
  type : Json
  documentation : Json := .null
  exception : Bool := false
  members : List (String × Member) := []
  required : List Json := []
  member : Option Member := none
  key : Option Member := none
  value : Option Member := none
  errorCode : Json := .null
  locationName : Json := .null
  flattened : Bool := false
  /-- The member that is the whole body. -/
  payload : Json := .null
  deriving DecidableEq, Repr

namespace Shape

/-- The kind, or none if clients know none of that name. -/
def kind? (shape : Shape) : Option ShapeKind :=
  match shape.type with
  | .str name => ShapeKind.ofName? name
  | _ => none

def requires (shape : Shape) (member : String) : Bool := shape.required.contains (.str member)

/-- The shape of a list's elements. -/
def elementShape (shape : Shape) : Except Fault Json :=
  match shape.member with
  | some member => .ok member.shape
  | none => .error (.noListMember shape.name)

def keyShape (shape : Shape) : Except Fault Json :=
  match shape.key with
  | some key => .ok key.shape
  | none => .error (.noMapKey shape.name)

def valueShape (shape : Shape) : Except Fault Json :=
  match shape.value with
  | some value => .ok value.shape
  | none => .error (.noMapValue shape.name)

/-- The member that is the whole body, with its name. -/
def wholeBody? (shape : Shape) : Except Fault (Option (String × Member)) :=
  match shape.payload with
  | .str name =>
    .ok (if name.isEmpty then none else (shape.members.lookup name).map fun member => (name, member))
  | .arr (_ :: _) => .error (.notAName .arr)
  | .obj (_ :: _) => .error (.notAName .obj)
  | _ => .ok none

/-- The code that stands for an exception shape on the wire. -/
def code (shape : Shape) : Json :=
  if shape.errorCode.truthy then shape.errorCode else .str shape.name

end Shape

/-- A remote call. -/
structure Operation where
  name : Json
  httpMethod : Json := .str "POST"
  requestUri : Json := .str "/"
  input : Json := .null
  output : Json := .null
  resultWrapper : Json := .null
  errors : List Json := []
  documentation : Json := .null
  deprecated : Bool := false
  deriving DecidableEq, Repr

/-- Settings of a whole service. -/
structure Metadata where
  protocol : Json
  fullName : Json
  abbreviation : Json := .null
  endpointPrefix : Json := .null
  signingName : Json := .null
  targetPrefix : Json := .null
  jsonVersion : Json := .str "1.1"
  apiVersion : Json := .null
  xmlNamespace : Json := .null
  deriving DecidableEq, Repr

/-- The description of a service. Shapes, like members, have distinct names. -/
structure Service where
  metadata : Metadata
  shapes : List (String × Shape) := []
  operations : List (String × Operation) := []
  documentation : Json := .null
  deriving DecidableEq, Repr

/-- The first of two values that counts as present, or else the second. -/
def Json.orElse (a b : Json) : Json := if a.truthy then a else b

namespace Service

/-- The name that readers of a generated module see. -/
def displayName (service : Service) : Json :=
  service.metadata.abbreviation.orElse service.metadata.fullName

/-- Vendor names that the display name may start with. -/
def vendorNames : List (List Char) := ["Amazon".toList, "AWS".toList]

/-- Drops the vendor names from the start, one after the other. -/
def dropVendors (cs : List Char) : List Char :=
  vendorNames.foldl (fun cs vendor => if vendor.isPrefixOf cs then cs.drop vendor.length else cs) cs

/-- Characters of a display name that no identifier has. -/
def isNamePunctuation (c : Char) : Bool := c ∈ " -._/()".toList

/-- The display name as part of identifiers, such as `DynamoDb` or `S3`. -/
def typeName (service : Service) : Except Fault String :=
  match service.displayName with
  | .str name =>
    .ok (String.ofList ((dropVendors name.toList).filter fun c => !isNamePunctuation c))
  | name => .error (.notText name.kind)

def clientName (service : Service) : Except Fault String :=
  service.typeName.map (· ++ "Client")

/-- The base class of the service's errors. -/
def errorName (service : Service) : Except Fault String :=
  service.clientName.map (· ++ "Error")

/-- The name that requests are signed for. -/
def signingName (service : Service) : Except Fault Json :=
  let given := service.metadata.signingName.orElse service.metadata.endpointPrefix
  if given.truthy then .ok given else service.typeName.map fun name => .str (Text.lower name)

def endpointPrefix (service : Service) : Except Fault Json :=
  if service.metadata.endpointPrefix.truthy then .ok service.metadata.endpointPrefix
  else service.signingName

/-- The shape under a name, if it is defined. -/
def shape? (service : Service) (name : Json) : Except Fault (Option Shape) :=
  match name with
  | .str name => .ok (service.shapes.lookup name)
  | .arr _ => .error (.notAName .arr)
  | .obj _ => .error (.notAName .obj)
  | _ => .ok none

/-- The shape under a name. -/
def shape (service : Service) (name : Json) : Except Fault Shape := do
  match ← service.shape? name with
  | some shape => return shape
  | none => throw (.undefinedShape name.display)

/-- The kind of the shape that a member refers to; none if that is undefined. -/
def memberKind? (service : Service) (member : Member) : Except Fault (Option ShapeKind) := do
  return (← service.shape? member.shape).bind Shape.kind?

/-- The shapes that stand for errors, in order. -/
def exceptions (service : Service) : List Shape :=
  (service.shapes.map (·.2)).filter (·.exception)

end Service

end ServiceClient
