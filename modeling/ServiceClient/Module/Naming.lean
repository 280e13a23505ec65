import ServiceClient.Module.Family
import ServiceClient.Naming

/-!
Names made of values of a description, which need not be texts.
-/

namespace ServiceClient

/-- The name of a member where it travels. -/
def Member.nameAt (member : Member) (name : String) : Json := member.locationName.orElse (.str name)

namespace Json

/-- A value with its first character in upper case; a value that counts as absent is empty. -/
def capitalized (j : Json) : Except Fault String :=
  match j with
  | .str s => .ok (Naming.capitalize s)
  | .arr (.str _ :: _) => .error (.unnameable .arr)
  | .arr (item :: _) => .error (.notText item.kind)
  | .obj (_ :: _) => .error (.missingKey "0")
  | j => if j.truthy then .error (.unnameable j.kind) else .ok ""

/-- The type for a shape. -/
def typeName (j : Json) : Except Fault String :=
  match j with
  | .str s => .ok (Naming.typeName s)
  | j => j.capitalized

/-- The method for an operation. -/
def methodName (j : Json) : Except Fault String :=
  match j with
  | .str s => .ok (Naming.methodName s)
  | j => .error (.unnameable j.kind)

/-- A value in the text of a module, or other text if it counts as absent. -/
def displayOr (j : Json) (text : String) : String := if j.truthy then j.display else text

end Json

end ServiceClient
