import ServiceClient.Files.Tree
import ServiceClient.Json.Reader
import ServiceClient.Settings

/-!
Settings from three places: defaults, a file and overrides, each put over the one before.
-/

namespace ServiceClient

/-- Why settings could not be put together. -/
inductive SettingsError where
  | fileNotFound (path : String)
  | notAJsonFile (path : String)
  | fileNotJson (path : String)
  | fileUnreadable (path : String)
  | notAnObject (path : String)
  | unknownNames (names : List String)
  /-- The octets of a file are no text. -/
  | fileNotText
  /-- A number in a file has too many digits to be read. -/
  | numberTooLong
  deriving DecidableEq, Repr

namespace SettingsError

def message : SettingsError → String
  | fileNotFound path => s!"Configuration file not found: {path}"
  | notAJsonFile path => s!"Configuration file must be JSON: {path}"
  | fileNotJson path => s!"Invalid JSON in configuration file {path}"
  | fileUnreadable path => s!"Failed to load configuration file {path}"
  | notAnObject path => s!"Configuration file must contain a JSON object: {path}"
  | unknownNames names => "Unknown configuration keys: " ++ Text.intercalate ", " names
  | fileNotText => "invalid start byte"
  | numberTooLong => Json.Problem.tooManyDigits.message

/-- Whether the error is one of settings and not of how a file is written. -/
def isOfSettings : SettingsError → Bool
  | fileNotText | numberTooLong => false
  | _ => true

end SettingsError

namespace Settings

/-- The pairs of a settings file. -/
def readFile (tree : FileTree) (path : String) : Except SettingsError (List (String × Json)) :=
  let path := Path.ofString path
  match tree.find? path with
  | none => .error (.fileNotFound path.toString)
  | some entry =>
    if Text.lower path.suffix != ".json" then .error (.notAJsonFile path.toString)
    else
      match entry with
      | .directory => .error (.fileUnreadable path.toString)
      | .file content =>
        match Text.utf8Decode? content with
        | none => .error .fileNotText
        | some text =>
          match Json.parse text with
          | .ok (.obj fields) => .ok fields
          | .ok _ => .error (.notAnObject path.toString)
          | .error error =>
            if error.problem = .tooManyDigits then .error .numberTooLong
            else .error (.fileNotJson path.toString)

/-- Settings of pairs, all of which have to be known. -/
def check (pairs : List (String × Json)) : Except SettingsError Settings :=
  match unknownNames pairs with
  | [] => .ok (ofPairs pairs)
  | names => .error (.unknownNames names)

/-- The settings in force: defaults, then a file unless its path is empty, then overrides. Without
defaults the usual ones are taken. -/
def load (tree : FileTree) (given : List (String × Json)) (file : Option String)
    (overrides : List (String × Json)) : Except SettingsError Settings := do
  let base := if given.isEmpty then defaults else given
  let base ←
    match file.filter (!·.isEmpty) with
    | some path => (readFile tree path).map (Pairs.merge base)
    | none => pure base
  check (Pairs.merge base overrides)

end Settings

end ServiceClient
