import ServiceClient.Module.Naming
import ServiceClient.Module.XmlCodec

/-!
Functions of a module that write shapes into a form. Each writer puts its value under a name: a
structure appends its members' keys to the name, lists and maps append numbers from one on.
-/

namespace ServiceClient

/-- A part of a value that is put into a form: by the writer of a complex shape, or as a text. -/
structure FormPut where
  /-- The expression of the parameter's name. -/
  key : String
  writer : Option String
  deriving DecidableEq, Repr

/-- The statement that puts a value. -/
def FormPut.line (put : FormPut) (value : String) : String :=
  match put.writer with
  | some function => s!"{function}(params, {put.key}, {value})"
  | none => s!"_params.put(params, {put.key}, {value})"

/-- A field that is put into a form. -/
structure FormField where
  name : String
  put : FormPut
  deriving DecidableEq, Repr

/-- What a form writer puts. -/
inductive FormBody where
  | struct (fields : List FormField)
  | list (item : FormPut)
  | map (key value : FormPut)
  deriving DecidableEq, Repr

/-- A function that writes a shape into a form. -/
structure FormWriter where
  type : String
  body : FormBody
  deriving DecidableEq, Repr

/-- A key expression: a formatted literal. -/
def formKey (text : String) : String := "f\"" ++ text ++ "\""

/-- The key of a member where names have capital first letters. -/
def Member.capitalizedKey (member : Member) (name : String) : Except Fault String :=
  if member.queryName.truthy then .ok member.queryName.display
  else (member.nameAt name).capitalized

/-- The key of a member. -/
def Member.formName (member : Member) (ec2 : Bool) (name : String) : Except Fault String :=
  if ec2 then member.capitalizedKey name else .ok (member.locationName.displayOr name)

namespace Service

/-- How a shape is put under a key. -/
def formPut (service : Service) (shape : Json) (key : String) : Except Fault FormPut := do
  if ← service.hasParts shape then
    return ⟨formKey key, some (Naming.writerName (← shape.typeName))⟩
  else return ⟨formKey key, none⟩

/-- The fields that a form writer puts, in order. -/
def formFields (service : Service) (shape : Shape) : Except Fault (List FormField) :=
  (shape.members.filter (!·.2.deprecated)).mapM fun (name, member) => do
    let key ← member.formName service.speaksEc2 name
    return ⟨Naming.fieldName name, ← service.formPut member.shape ("\x7bprefix\x7d" ++ key)⟩

/-- The key of a list's items. -/
def itemKey (service : Service) (shape : Shape) : Except Fault String :=
  if service.speaksEc2 || shape.flattened then .ok "\x7bname\x7d.\x7bindex\x7d"
  else (shape.part shape.member).map fun member =>
    "\x7bname\x7d." ++ member.locationName.displayOr "member" ++ ".\x7bindex\x7d"

/-- The form writer of a shape, if it has parts. -/
def formWriter? (service : Service) (type : String) (shape : Shape) :
    Except Fault (Option FormWriter) := do
  match shape.kind? with
  | some .struct => return some ⟨type, .struct (← service.formFields shape)⟩
  | some .list =>
    let key ← service.itemKey shape
    return some ⟨type, .list (← service.formPut (← shape.elementShape) key)⟩
  | some .map =>
    let entry := if shape.flattened then "\x7bname\x7d.\x7bindex\x7d" else "\x7bname\x7d.entry.\x7bindex\x7d"
    let keyTag := (← shape.part shape.key).locationName.displayOr "key"
    let valueTag := (← shape.part shape.value).locationName.displayOr "value"
    let key ← service.formPut (← shape.keyShape) (entry ++ "." ++ keyTag)
    let value ← service.formPut (← shape.valueShape) (entry ++ "." ++ valueTag)
    return some ⟨type, .map key value⟩
  | _ => return none

end Service

namespace FormWriter

def function (writer : FormWriter) : String := Naming.writerName writer.type

def scope (writer : FormWriter) : Scope :=
  [("function", .str writer.function), ("type_name", .str writer.type)] ++
  match writer.body with
  | .struct fields => [
      ("kind", .str "structure"),
      ("fields", .arr (fields.map fun field => .obj [
        ("name", .str field.name), ("statement", .str (field.put.line ("obj." ++ field.name)))]))]
  | .list item => [("kind", .str "list"), ("item_statement", .str (item.line "item"))]
  | .map key value => [
      ("kind", .str "map"), ("key_statement", .str (key.line "key")),
      ("value_statement", .str (value.line "value"))]

def render (writer : FormWriter) : Except Fault String := Template.formWriter.render writer.scope

end FormWriter

end ServiceClient
