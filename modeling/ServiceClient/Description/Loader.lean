import ServiceClient.Files.Tree
import ServiceClient.Http.Url
import ServiceClient.Json.Reader
import ServiceClient.Service.Fault

/-!
Loading a description from a file or from the network. Whatever goes wrong is one of a few errors;
what is loaded is an object with metadata and shapes.
-/

namespace ServiceClient

/-- What came back for a request of a document. -/
inductive Fetched where
  | response (status : Int) (reason : Option String) (body : Octets)
  /-- A response whose body could not be read as JSON for a reason outside of it. -/
  | unreadable (status : Int) (reason : Option String)
  /-- No response came. -/
  | refused (problem : String)
  deriving DecidableEq, Repr

/-- Why a description could not be loaded. -/
inductive LoadError where
  | fileNotFound (path : String)
  | fileNotJson (path : String)
  | fileUnreadable (path : String)
  /-- The octets of a file are no text. -/
  | fileNotText
  /-- A number in a document has too many digits to be read. -/
  | numberTooLong
  | badUrl (url : String)
  /-- The authority of a locator cannot be told apart. -/
  | malformedUrl
  | fetchFailed (url problem : String)
  /-- The body of a response is no JSON; the problem names the place. -/
  | fetchedNotJson (url problem : String)
  | badJson (url : String)
  | notAnObject (source : String)
  | missingMember (source member : String)
  | twoSources
  | noSource
  deriving DecidableEq, Repr

namespace LoadError

/-- The wording of an error without what a reader of JSON adds. -/
def message : LoadError → String
  | fileNotFound path => s!"File not found: {path}"
  | fileNotJson path => s!"Invalid JSON in file {path}"
  | fileUnreadable path => s!"Error reading file {path}"
  | fileNotText => "invalid start byte"
  | numberTooLong => Json.Problem.tooManyDigits.message
  | badUrl url => s!"Invalid URL: {url}"
  | malformedUrl => "Invalid IPv6 URL"
  | fetchFailed url problem => s!"Failed to fetch {url}: {problem}"
  | fetchedNotJson url _ => s!"Failed to fetch {url}"
  | badJson url => s!"Invalid JSON from {url}"
  | notAnObject source => s!"Service description must be a JSON object: {source}"
  | missingMember source member => s!"Service description {source} has no '{member}'"
  | twoSources => "Provide either file_path or url, not both"
  | noSource => "Either file_path or url must be provided"

/-- The wording with the place of the problem where a body is no JSON. -/
def fullMessage : LoadError → String
  | fetchedNotJson url problem => s!"Failed to fetch {url}: {problem}"
  | error => error.message

/-- Whether the error belongs to loading; the others are faults of how a document is written or
asked for. -/
def isLoading : LoadError → Bool
  | fileNotText | numberTooLong | malformedUrl | twoSources | noSource => false
  | _ => true

end LoadError

/-- A document with what it was loaded from. -/
structure Loaded where
  source : String
  document : Json
  deriving DecidableEq, Repr

/-- The members that a description has to have. -/
def neededMembers : List String := ["metadata", "shapes"]

/-- Accepts an object that has the members of a description. -/
def Loaded.check (source : String) (document : Json) : Except LoadError Loaded :=
  match document with
  | .obj fields =>
    match neededMembers.find? fun member => !(fields.any (·.1 == member)) with
    | some member => .error (.missingMember source member)
    | none => .ok { source, document }
  | _ => .error (.notAnObject source)

/-- Loads a description from a file. -/
def loadFile (tree : FileTree) (path : String) : Except LoadError Loaded :=
  let path := Path.ofString path
  match tree.find? path with
  | none => .error (.fileNotFound path.toString)
  | some .directory => .error (.fileUnreadable path.toString)
  | some (.file content) =>
    match Text.utf8Decode? content with
    | none => .error .fileNotText
    | some text =>
      match Json.parse text with
      | .ok document => Loaded.check path.toString document
      | .error error =>
        if error.problem = .tooManyDigits then .error .numberTooLong
        else .error (.fileNotJson path.toString)

/-- Whether a locator names a host to ask over the network. -/
def isNetworkUrl (url : Url) : Bool :=
  (url.scheme == "http" || url.scheme == "https") && !url.authority.isEmpty

/-- What a status says is wrong, if it does. -/
def statusProblem? (url : String) (status : Int) (reason : Option String) : Option String :=
  let side? :=
    if 400 ≤ status ∧ status < 500 then some "Client"
    else if 500 ≤ status ∧ status < 600 then some "Server"
    else none
  side?.map fun side => s!"{status} {side} Error: " ++ reason.getD "None" ++ s!" for url: {url}"

/-- The text of a body in the encoding that it seems to have. -/
def bodyText (body : Octets) : String :=
  (Json.decodeProperOctets? body).getD (Text.utf8DecodeLossy body)

/-- Loads a description from the network, given what comes back. -/
def loadUrl (url : String) (fetched : Fetched) : Except LoadError Loaded :=
  match Url.split? url with
  | none => .error .malformedUrl
  | some parts =>
    if !isNetworkUrl parts then .error (.badUrl url)
    else
      match fetched with
      | .refused problem => .error (.fetchFailed url problem)
      | .unreadable status reason =>
        match statusProblem? url status reason with
        | some problem => .error (.fetchFailed url problem)
        | none => .error (.badJson url)
      | .response status reason body =>
        match statusProblem? url status reason with
        | some problem => .error (.fetchFailed url problem)
        | none =>
          let text := bodyText body
          match Json.parse text with
          | .ok document => Loaded.check url document
          | .error error =>
            if error.problem = .tooManyDigits then .error (.badJson url)
            else .error (.fetchedNotJson url (error.message text))

/-- Whether a locator is asked for at all. -/
def isAsked (url : String) : Bool := ((Url.split? url).map isNetworkUrl).getD false

/-- The seconds that a request of a document may take. -/
def fetchTimeout : Nat := 30

/-- Loads a description from exactly one source. Empty ones do not count. -/
def loadDescription (tree : FileTree) (fetched : Fetched) (path url : Option String) :
    Except LoadError Loaded :=
  match path.filter (!·.isEmpty), url.filter (!·.isEmpty) with
  | some _, some _ => .error .twoSources
  | some path, none => loadFile tree path
  | none, some url => loadUrl url fetched
  | none, none => .error .noSource

end ServiceClient
