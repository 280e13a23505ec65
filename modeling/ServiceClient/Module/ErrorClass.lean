import ServiceClient.Module.Naming
import ServiceClient.Settings
import ServiceClient.Template.Bundled

/-!
The error classes of a module: one base class, one class for each exception shape, and three for
failures that no shape stands for.
-/

namespace ServiceClient

/-- The class for an exception shape. -/
structure ErrorClass where
  name : String
  /-- The code that selects the class. -/
  code : Json
  documentation : Option String
  deriving DecidableEq, Repr

/-- What the names of the classes for other failures end in. -/
def otherErrorSuffixes : List String := ["HttpDispatchError", "CredentialsError", "UnknownError"]

namespace Service

/-- The classes for the exception shapes, in order. -/
def errorClasses (service : Service) (settings : Settings) : Except Fault (List ErrorClass) :=
  service.exceptions.mapM fun shape => do
    return {
      name := Naming.errorClassName shape.name
      code := shape.code
      documentation := ← settings.documentation shape.documentation }

/-- The classes for other failures. -/
def otherErrorNames (service : Service) : Except Fault (List String) :=
  service.clientName.map fun client => otherErrorSuffixes.map (client ++ ·)

/-- The text of the error classes. -/
def errorSection (service : Service) (family : ErrorFamily) (settings : Settings) :
    Except Fault String := do
  let client ← service.clientName
  let base ← service.errorName
  let classes ← service.errorClasses settings
  Template.errors.render [
    ("base", .str base),
    ("service_name", service.displayName),
    ("parse_function", .str family.errorReader),
    ("errors", .arr (classes.map fun error => .obj [
      ("name", .str error.name), ("code", error.code),
      ("documentation", optionalText error.documentation)])),
    ("dispatch", .str (client ++ "HttpDispatchError")),
    ("credentials", .str (client ++ "CredentialsError")),
    ("unknown", .str (client ++ "UnknownError"))]

end Service

end ServiceClient
