import ServiceClient.Service.Reader
import ServiceClient.Text.Identifier
import ServiceClient.Text.Literal

/-!
Settings of a generation run. Given settings are merged over the defaults by name; a name that no
setting has is refused, a doubtful value is only warned about.
-/

namespace ServiceClient

/-- Settings keep whatever value they were given. -/
structure Settings where
  /-- Where the module is meant to go; only its ending is looked at. -/
  outputFile : Json := .null
  /-- The package that a generated module imports its support from. -/
  runtimePackage : Json := .str "shapegen.runtime"
  /-- Whether documentation is put into the module. -/
  addComments : Json := .bool true
  /-- Whether tests are put after the client. -/
  generateTests : Json := .bool true
  deriving DecidableEq, Repr

namespace Settings

/-- The names of the settings. -/
def names : List String := ["output_file", "runtime_package", "add_comments", "generate_tests"]

/-- The settings that are in force when none are given. -/
def defaults : List (String × Json) := [
  ("runtime_package", .str "shapegen.runtime"),
  ("add_comments", .bool true),
  ("generate_tests", .bool true)]

/-- The names that are no settings, in order. -/
def unknownNames (pairs : List (String × Json)) : List String :=
  ((pairs.map (·.1)).filter (· ∉ names)).mergeSort (fun a b => decide (a ≤ b))

/-- Settings of pairs; names that are not given have their first values. -/
def ofPairs (pairs : List (String × Json)) : Settings :=
  { outputFile := (pairs.lookup "output_file").getD .null
    runtimePackage := (pairs.lookup "runtime_package").getD (.str "shapegen.runtime")
    addComments := (pairs.lookup "add_comments").getD (.bool true)
    generateTests := (pairs.lookup "generate_tests").getD (.bool true) }

/-- Whether a text is a chain of identifiers joined by points. -/
def isPackageName (name : String) : Bool :=
  (Text.splitOn '.' name.toList).all fun part => Text.isIdentifier (String.ofList part)

/-- What is doubtful about settings. -/
inductive Warning where
  | runtimePackage (name : String)
  | outputFile (path : String)
  deriving DecidableEq, Repr

def Warning.message : Warning → String
  | .runtimePackage name => s!"Invalid runtime_package: {name}"
  | .outputFile path => s!"Output file is not a Python module: {path}"

def packageWarnings (settings : Settings) : Except Fault (List Warning) :=
  match settings.runtimePackage with
  | .str name => .ok (if isPackageName name then [] else [.runtimePackage name])
  | other => .error (.notText other.kind)

def outputWarnings (settings : Settings) : Except Fault (List Warning) :=
  match settings.outputFile with
  | .str path => .ok (if path.isEmpty || path.endsWith ".py" then [] else [.outputFile path])
  | other => if other.truthy then .error (.notText other.kind) else .ok []

/-- All that is doubtful about settings. -/
def warnings (settings : Settings) : Except Fault (List Warning) := do
  return (← settings.packageWarnings) ++ (← settings.outputWarnings)

/-- The escaped form of documentation, unless there is none or none is wanted. -/
def documentation (settings : Settings) (text : Json) : Except Fault (Option String) :=
  if text.truthy && settings.addComments.truthy then
    match text with
    | .str s => .ok (some (Text.Literal.escape s))
    | other => .error (.notText other.kind)
  else .ok none

end Settings

end ServiceClient
