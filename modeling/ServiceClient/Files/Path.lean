import ServiceClient.Text.Split

/-!
Paths of files. A path is shown without doubled slashes and without components that stay in place;
components that go up are kept.
-/

namespace ServiceClient

/-- A path as its root and its components. -/
structure Path where
  /-- The slashes that an absolute path starts with: one, or exactly two. -/
  root : String
  components : List String
  deriving DecidableEq, Repr

namespace Path

/-- The components of a text between slashes, without empty ones and those that stay in place. -/
def split (text : String) : List String :=
  ((Text.splitOn '/' text.toList).map String.ofList).filter fun part => !part.isEmpty && part != "."

/-- Exactly two slashes are a root of their own. -/
def rootOf (text : String) : String :=
  match text.toList with
  | '/' :: '/' :: '/' :: _ => "/"
  | '/' :: '/' :: _ => "//"
  | '/' :: _ => "/"
  | _ => ""

def ofString (text : String) : Path := { root := rootOf text, components := split text }

/-- The component that stands for the root of all files. -/
def rootComponent : String := "/"

/-- Where a path starts: in the working directory or at the root. -/
def origin (path : Path) : List String := if path.root.isEmpty then [] else [rootComponent]

def toString (path : Path) : String :=
  if path.root.isEmpty && path.components.isEmpty then "."
  else path.root ++ Text.intercalate "/" path.components

/-- The last component's ending from its last point on; a name that starts or ends with its only
point has none. -/
def suffix (path : Path) : String :=
  match path.components.getLast? with
  | none => ""
  | some name =>
    let after := name.toList.reverse.takeWhile (· != '.')
    if after.length + 1 < name.length ∧ 0 < after.length ∧ name.toList.contains '.' then
      String.ofList ('.' :: after.reverse)
    else ""

end Path

end ServiceClient
