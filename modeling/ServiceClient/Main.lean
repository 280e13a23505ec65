import ServiceClient.Cli.Run

/-!
The program. The files that its arguments name are read before a run, and those that the run has
changed are written after it.
-/

namespace ServiceClient.Main

/-- The entry of the file or directory with a name, if there is one. -/
def entryOf (name : String) : IO (Option FileEntry) := do
  try
    let place ← IO.FS.realPath name
    if ← place.isDir then return some .directory
    let content ← IO.FS.readBinFile name
    return some (.file content.toList)
  catch _ => return none

/-- The components that an entry stands under. -/
def componentsOf (name : String) : List String :=
  let path := Path.ofString name
  path.origin ++ path.components

/-- A name and the directory that it is in. -/
def withParent (name : String) : List String :=
  let path := Path.ofString name
  [name, ({ path with components := path.components.dropLast } : Path).toString]

/-- The names that an argument may hold: the argument, or the value of an option. -/
def namesIn (argument : String) : List String :=
  match Text.cutString '=' argument with
  | (_, some v) => [argument, v]
  | (_, none) => [argument]

/-- The entries that arguments name. -/
def treeOf (arguments : List String) : IO FileTree := do
  let names := (arguments.flatMap namesIn).flatMap withParent
  let entries ← names.filterMapM fun name => do
    return (← entryOf name).map (componentsOf name, ·)
  return { entries }

/-- The name of an entry. -/
def nameOf (components : List String) : String :=
  match components with
  | first :: rest =>
    if first = Path.rootComponent then "/" ++ Text.intercalate "/" rest
    else Text.intercalate "/" components
  | [] => "."

/-- Writes the files of a tree that are not in another as they are. -/
def writeChanges (old new : FileTree) : IO Unit :=
  new.entries.forM fun (components, entry) => do
    match entry with
    | .file content =>
      if old.entry? components ≠ some entry then
        IO.FS.writeBinFile (nameOf components) ⟨content.toArray⟩
    | .directory => return ()

/-- Runs the program: what it shows goes to standard output, and its status is the result. -/
def run (arguments : List String) : IO UInt32 := do
  let tree ← treeOf arguments
  let fetched : Fetched := .refused "there is no network"
  let (result, session) := (Cli.run arguments fetched).run.run { tree }
  writeChanges tree session.tree
  session.console.forM fun line => IO.println line
  IO.print session.output
  match result with
  | .ok ended => return UInt32.ofNat ended.status.toNat
  | .error _ => return 1

end ServiceClient.Main

/-- The command line. -/
def main (arguments : List String) : IO UInt32 := ServiceClient.Main.run arguments
