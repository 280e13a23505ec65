import ServiceClient.Files.Path
import ServiceClient.Pairs
import ServiceClient.Text.Utf8

/-!
The files that a run of the program sees and leaves: a working directory with files and directories
in it, and nothing known around it.
-/

namespace ServiceClient

/-- What stands under a path. -/
inductive FileEntry where
  | file (content : Octets)
  | directory
  deriving DecidableEq, Repr

/-- Entries by their components below the working directory, or below the root, which is a component
of its own. Directories on the way to an entry are there without an entry of their own. -/
structure FileTree where
  entries : List (List String × FileEntry) := []
  deriving DecidableEq, Repr

namespace FileTree

/-- The entry under plain components. -/
def entry? (tree : FileTree) (components : List String) : Option FileEntry :=
  match tree.entries.lookup components with
  | some entry => some entry
  | none =>
    if components.isEmpty || tree.entries.any fun (path, _) => components.isPrefixOf path then
      some .directory
    else none

/-- A place while a path is followed: below the working directory, or some levels above it. -/
inductive Place where
  | inside (components : List String)
  | above (levels : Nat)
  deriving DecidableEq

/-- Follows one component; each place on the way has to be a directory. -/
def step (tree : FileTree) (place : Place) (component : String) : Option Place :=
  match place with
  | .above levels => if component = ".." then some (.above (levels + 1)) else none
  | .inside components =>
    if tree.entry? components = some .directory then
      if component = ".." then
        if components.isEmpty then some (.above 0)
        else if components = [Path.rootComponent] then some place
        else some (.inside components.dropLast)
      else some (.inside (components ++ [component]))
    else none

/-- The place that a path leads to. -/
def follow (tree : FileTree) (path : Path) : Option Place :=
  path.components.foldlM tree.step (.inside path.origin)

/-- What a path leads to. -/
def find? (tree : FileTree) (path : Path) : Option FileEntry :=
  match tree.follow path with
  | some (.inside components) => tree.entry? components
  | some (.above _) => some .directory
  | none => none

/-- Puts a file under a path as it was given. That fails if the path names a directory or its
directory is not there. -/
def write? (tree : FileTree) (path : String) (content : Octets) : Option FileTree :=
  match tree.follow (.ofString path) with
  | some (.inside components) =>
    if path.endsWith "/" || path.endsWith "/." || tree.entry? components = some .directory then none
    else some { entries := Pairs.insert components (.file content) tree.entries }
  | _ => none

/-- The text of a file, if it is one. -/
def text? (tree : FileTree) (path : String) : Option String :=
  match tree.find? (.ofString path) with
  | some (.file content) => some (Text.utf8DecodeLossy content)
  | _ => none

end FileTree

end ServiceClient
