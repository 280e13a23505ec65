import ServiceClient.Cli.Arguments
import ServiceClient.Cli.Markup
import ServiceClient.Description.Loader
import ServiceClient.Module.Generation
import ServiceClient.Settings.Merge

/-!
A run of the program from its arguments to its exit status. A run starts with the files around it and
what the network would answer, and leaves files, lines on the console and text on standard output.
Status 0 is success, 1 is trouble with files or the network, 2 is a description that gives no module
or a command that cannot be understood.
-/

namespace ServiceClient.Cli

/-- What a run has left so far. -/
structure Session where
  tree : FileTree
  /-- Lines on the console, oldest first, as they are shown. -/
  console : List String := []
  output : String := ""
  deriving DecidableEq, Repr

/-- Errors that no status stands for. -/
inductive Escape where
  | fault (fault : Fault)
  | load (error : LoadError)
  | settings (error : SettingsError)
  /-- Text for the console has a closing mark without an open one. -/
  | markup
  deriving DecidableEq, Repr

/-- A step of a run. What has been left stays when an error escapes. -/
abbrev Run := ExceptT Escape (StateM Session)

/-- How a run ends: a status, and whether the arguments alone ended it. -/
structure Exit where
  status : Int
  byArguments : Bool := false
  deriving DecidableEq, Repr

/-- Shows lines as they are. -/
def showLines (lines : List String) : Run Unit :=
  modify fun session => { session with console := session.console ++ lines }

/-- Shows marked text. -/
def say (text : String) : Run Unit :=
  match Markup.plain? text with
  | some plain => showLines ((Text.splitOn '\n' plain.toList).map String.ofList)
  | none => throw .markup

/-- What the `generate` command is asked to do. -/
structure Request where
  file : Option String := none
  url : Option String := none
  output : Option String := none
  config : Option String := none
  noTests : Bool := false
  noComments : Bool := false
  plain : Bool := false
  verbose : Bool := false
  deriving DecidableEq, Repr

namespace Request

/-- The output path, unless it is empty. -/
def outputPath? (request : Request) : Option String := request.output.filter (!·.isEmpty)

/-- The settings that the arguments override. -/
def overrides (request : Request) : List (String × Json) :=
  (if request.noComments then [("add_comments", .bool false)] else []) ++
    (if request.noTests then [("generate_tests", .bool false)] else []) ++
    match request.outputPath? with
    | some path => [("output_file", .str (Path.ofString path).toString)]
    | none => []

def optionSpecs : List Arguments.Spec := [
  ⟨["-h", "--help"], .inform⟩, ⟨["--url"], .value⟩, ⟨["--output", "-o"], .value⟩,
  ⟨["--config"], .value⟩, ⟨["--no-tests"], .switch⟩, ⟨["--no-comments"], .switch⟩,
  ⟨["--stdout"], .switch⟩, ⟨["--verbose", "-v"], .switch⟩]

/-- A file and a locator exclude each other. -/
def allowed (given : Arguments.Given) (setting : Arguments.Setting) : Bool :=
  given.plain.isNone || setting.key != "--url"

/-- The request that arguments make. Exactly one source has to be named and nothing may be left. -/
def ofArguments (arguments : List String) : Except Arguments.Stop Request := do
  let given ← Arguments.read optionSpecs allowed arguments
  let last := fun key => ((given.settings.filter (·.key == key)).getLast?).bind (·.value)
  let has := fun key => given.settings.any (·.key == key)
  let url := last "--url"
  if given.extra || given.plain.isSome == url.isSome then throw .misused
  return {
    file := given.plain, url, output := last "--output", config := last "--config"
    noTests := has "--no-tests", noComments := has "--no-comments", plain := has "--stdout"
    verbose := has "--verbose" }

end Request

/-- A name with capital words. -/
def titleOf (name : String) : String :=
  Text.intercalate " " ((Text.splitOn '_' name.toList).map fun word =>
    Naming.capitalize (String.ofList word))

/-- Shows what is told about a module. -/
def showSummary (summary : Summary) : Run Unit := do
  showLines ["Generation Metadata", "Property Value"]
  summary.entries.forM fun (name, value) => say (titleOf name ++ " " ++ value.display)

def showWarnings (warnings : List Settings.Warning) : Run Unit := do
  unless warnings.isEmpty do
    showLines ["⚠️  Warnings:"]
    warnings.forM fun warning => say ("  • " ++ warning.message)

/-- Gives the module itself: as it is on standard output, or framed on the console. -/
def showCode (generated : Generated) (plain : Bool) : Run Unit := do
  if plain then
    modify fun session => { session with output := session.output ++ generated.code }
  else
    let border := String.ofList (List.replicate 30 '═')
    say s!"{border} Generated {generated.summary.client} {border}"
    showLines ((Text.splitOn '\n' generated.code.toList).map String.ofList)
    showLines [border ++ border ++ border]

/-- Whether a fault of reading a description is told as such. -/
def isMalformed : Fault → Bool
  | .notAnObject _ | .notText _ | .absentPart _ => false
  | _ => true

/-- The wording of a fault of reading: the name of a missing member is in quotes. -/
def malformedText (fault : Fault) : String :=
  match fault with
  | .missingKey key => Text.Quoted.text key
  | fault => fault.message

/-- Whether a fault says that no module can be made of the service. -/
def isUnsupported : Fault → Bool
  | .unknownKind .. | .unknownProtocol .. => true
  | _ => false

/-- Puts a file, if its directory is there. -/
def putFile (path : String) (content : String) : Run Bool := do
  match (← get).tree.write? path (Text.utf8Encode content) with
  | some tree =>
    modify fun session => { session with tree }
    return true
  | none => return false

/-- Shows all there is to tell about a generated module after the module itself. -/
def finish (request : Request) (generated : Generated) : Run Int := do
  if request.verbose then showSummary generated.summary
  showWarnings generated.warnings
  return 0

/-- Ends a run whose description gives no module. -/
def abandon (fault : Fault) : Run Int := do
  if isUnsupported fault then
    say s!"[red]✗ Generation failed:[/red] {fault.message}"
    return 2
  else throw (.fault fault)

/-- Generates the module of a service. An output file is emptied before anything is generated. -/
def generateModule (request : Request) (service : Service) (settings : Settings) : Run Int := do
  match request.outputPath? with
  | some path =>
    if ← putFile path "" then
      match service.generate settings with
      | .error fault => abandon fault
      | .ok generated =>
        let _ ← putFile path generated.code
        say s!"[green]✓[/green] Generated {generated.summary.client} saved to [cyan]{path}[/cyan]"
        finish request generated
    else
      say s!"[red]✗ Failed to write {path}[/red]"
      return 1
  | none =>
    match service.generate settings with
    | .error fault => abandon fault
    | .ok generated =>
      showCode generated request.plain
      finish request generated

/-- Carries out the `generate` command. -/
def runGenerate (request : Request) (fetched : Fetched) : Run Int := do
  let tree := (← get).tree
  match Settings.load tree [] request.config request.overrides with
  | .error error =>
    if error.isOfSettings then
      say s!"[red]✗ Error:[/red] {error.message}"
      return 1
    else throw (.settings error)
  | .ok settings =>
    match loadDescription tree fetched request.file request.url with
    | .error error =>
      if error.isLoading then
        say s!"[red]✗ Error:[/red] {error.fullMessage}"
        return 1
      else throw (.load error)
    | .ok loaded =>
      match Service.ofJson loaded.document with
      | .ok service => generateModule request service settings
      | .error fault =>
        if isMalformed fault then
          say s!"[red]✗ Malformed service description {loaded.source}:[/red] {malformedText fault}"
          return 2
        else throw (.fault fault)

/-- The protocols and what serves them. -/
def protocolRows (registry : Registry) : List String :=
  registry.protocols.filterMap fun protocol =>
    (registry.pair? protocol).map fun pair =>
      let names := registry.aliasesOf protocol
      let aliasText := if names.isEmpty then "none" else Text.intercalate ", " names
      s!"{protocol} {pair.protocol.name} {pair.errors.name} {aliasText}"

/-- Carries out the `protocols` command. -/
def runProtocols : Run Int := do
  showLines ["Supported Protocols", "Protocol Generator Error Types Aliases"]
  showLines (protocolRows Registry.builtin)
  showLines ["💡 Quick Start", "Usage: shapegen generate service.json -o client.py"]
  return 0

/-- What a whole command line asks for. -/
inductive Command where
  | help
  | generate (request : Request)
  | protocols
  deriving DecidableEq, Repr

/-- Options before the command. -/
def globalSpecs : List Arguments.Spec := [⟨["-h", "--help"], .inform⟩, ⟨["--version"], .inform⟩]

/-- Splits at the first argument that is no option: options before it, the command with its own
arguments after it. -/
def splitCommand : List (Arguments.Item × String) → List (Arguments.Item × String) × List String
  | [] => ([], [])
  | (.plain, word) :: rest => ([], word :: rest.map (·.2))
  | (.separator, word) :: rest => ([], word :: rest.map (·.2))
  | item :: rest =>
    let (options, command) := splitCommand rest
    (item :: options, command)

/-- Reads a command line. Without a command there is only help. -/
def Command.ofArguments (arguments : List String) : Except Arguments.Stop Command := do
  let items ← Arguments.classify globalSpecs arguments
  let (options, command) := splitCommand items
  let given ← Arguments.consume globalSpecs (fun _ _ => true) (options.length + 1) {} options
  let command ← match command with
    | [] => pure .help
    | "generate" :: rest => (Request.ofArguments rest).map .generate
    | "protocols" :: rest => do
      let _ ← Arguments.read [⟨["-h", "--help"], .inform⟩] (fun _ _ => true) rest
      if rest.isEmpty then pure .protocols else throw .misused
    | _ => throw .misused
  if given.extra then throw .misused
  return command

/-- Carries out a command line. -/
def run (arguments : List String) (fetched : Fetched) : Run Exit := do
  match Command.ofArguments arguments with
  | .error .misused => return { status := 2, byArguments := true }
  | .error .informed => return { status := 0, byArguments := true }
  | .ok .help => return { status := 0 }
  | .ok (.generate request) => return { status := ← runGenerate request fetched }
  | .ok .protocols => return { status := ← runProtocols }

end ServiceClient.Cli
