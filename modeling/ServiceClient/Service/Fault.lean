import ServiceClient.Wire.Value

/-!
What can be wrong with a service description, found while it is read or while a client is generated
from it. Fields are read as they come, so a value of a wrong kind is a fault only where it is used.
-/

namespace ServiceClient

/-- Why a description cannot be read or no module can be made of it. -/
inductive Fault where
  /-- A member that has to be there is not. -/
  | missingKey (key : String)
  /-- A shape is referred to and not defined. -/
  | undefinedShape (name : String)
  /-- Members were asked of a value that is no object. -/
  | notAnObject (kind : Json.Kind)
  /-- Text was needed, and the value cannot be changed like one. -/
  | notText (kind : Json.Kind)
  /-- A name was to be made of a value that is no text. -/
  | unnameable (kind : Json.Kind)
  /-- A member was looked up in a value that has none. -/
  | notIndexable (kind : Json.Kind)
  /-- The elements of a value that has none were needed. -/
  | notIterable (kind : Json.Kind)
  /-- A name was needed to look something up. -/
  | notAName (kind : Json.Kind)
  /-- The location name of a list's or map's part was needed and the part is not there. -/
  | absentPart (shape : String)
  | noListMember (shape : String)
  | noMapKey (shape : String)
  | noMapValue (shape : String)
  /-- A shape is of no kind that has a declaration. -/
  | unknownKind (type : Json) (shape : String)
  | unknownProtocol (protocol : Json) (available : List String)
  /-- A template used a value that is not there or is of a wrong kind. -/
  | template (name : String)
  | noTemplate (name : String)
  deriving DecidableEq, Repr

namespace Fault

/-- The name of a kind of document in messages. -/
def kindName : Json.Kind → String
  | .null => "NoneType"
  | .bool => "bool"
  | .int => "int"
  | .float => "float"
  | .str => "str"
  | .arr => "list"
  | .obj => "dict"

/-- The wording of a fault. -/
def message : Fault → String
  | missingKey key => key
  | undefinedShape name => s!"Shape '{name}' is not defined in the service"
  | notAnObject kind => s!"'{kindName kind}' object has no attribute 'get'"
  | notText kind => s!"'{kindName kind}' object has no attribute 'replace'"
  | unnameable kind => s!"expected string or bytes-like object, got '{kindName kind}'"
  | notIndexable .str => "string indices must be integers, not 'str'"
  | notIndexable .arr => "list indices must be integers or slices, not str"
  | notIndexable kind => s!"'{kindName kind}' object is not subscriptable"
  | notIterable kind => s!"'{kindName kind}' object is not iterable"
  | notAName kind => s!"unhashable type: '{kindName kind}'"
  | absentPart _ => "'NoneType' object has no attribute 'location_name'"
  | noListMember shape => s!"Shape {shape} has no list member"
  | noMapKey shape => s!"Shape {shape} has no map key"
  | noMapValue shape => s!"Shape {shape} has no map value"
  | unknownKind type shape => s!"Unknown primitive type '{type.display}' for shape {shape}"
  | unknownProtocol protocol available =>
    s!"Unknown protocol {protocol.display}. Available: " ++ Text.intercalate ", " available
  | template name => s!"Failed to render {name}"
  | noTemplate name => s!"Template not found: {name}"

end Fault

end ServiceClient
