import ServiceClient.Wire.Value

/-!
The types of the values that payloads carry, and the records among them. A record type names each of
its fields twice: as callers know it and as it stands on the wire.
-/

namespace ServiceClient

/-- The type of a value in a payload. -/
inductive WireType where
  | str
  | int
  | float
  | bool
  | bytes
  /-- Data that is taken as it is. -/
  | any
  | list (element : WireType)
  | map (key value : WireType)
  | optional (type : WireType)
  /-- A record, by the name of its type. -/
  | record (name : String)
  deriving DecidableEq, Repr, Inhabited

/-- A field of a record. -/
structure RecordField where
  name : String
  /-- The name of the member in a payload. -/
  wire : String
  type : WireType
  required : Bool := false
  /-- The value of a field that is not required unless it is given one. -/
  initial : Value := .null
  /-- The value is octets and travels as Base64 text. -/
  blob : Bool := false
  /-- A null value is left out of payloads. -/
  skipNull : Bool := false
  deriving BEq, Repr

/-- A record type; values of it can be sent or received only where it says so. -/
structure RecordType where
  name : String
  sent : Bool
  received : Bool
  fields : List RecordField
  deriving BEq, Repr

/-- The record types that payloads may refer to. -/
abbrev RecordTypes := List RecordType

namespace RecordTypes

def find? (types : RecordTypes) (name : String) : Option RecordType :=
  List.find? (fun type => type.name == name) types

end RecordTypes

namespace RecordType

def field? (type : RecordType) (name : String) : Option RecordField :=
  type.fields.find? fun field => field.name == name

/-- A record made from values for some of the fields; none if one of the others is required or a
value is for no field. -/
def build? (type : RecordType) (given : List (String × Value)) : Option Value := do
  guard (given.all fun (name, _) => (type.field? name).isSome)
  let fields ← type.fields.mapM fun field =>
    match given.lookup field.name with
    | some v => some (field.name, v)
    | none => if field.required then none else some (field.name, field.initial)
  return .record type.name fields

end RecordType

end ServiceClient
