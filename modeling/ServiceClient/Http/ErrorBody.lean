import ServiceClient.Http.Response
import ServiceClient.Json.Reader
import ServiceClient.Text.Blank
import ServiceClient.Xml.Reader

/-!
The code and the message of a failed request, from its response. Services that speak JSON may put
the code into a header; those that speak XML put both into elements of any depth.
-/

namespace ServiceClient

/-- What a failed response says. The message of a JSON body is whatever stands there. -/
structure ErrorInfo where
  code : String
  message : Json
  deriving Repr

namespace ErrorInfo

/-- A code that is no text. -/
structure CodeNotText where
  found : Json

/-- The code proper: what follows the last `#` before the first `:`. -/
def bareCode (code : String) : String :=
  let head := (Text.cut ':' code.toList).1
  String.ofList ((Text.splitOn '#' head).getLast?.getD [])

/-- The data of a JSON body. A blank body is an empty object, and so is one that is no JSON. -/
def bodyData (body : Octets) : Json :=
  if body.all fun b => Text.isPlainBlank (Char.ofNat b.toNat) then .obj []
  else (Json.parseOctets? body).getD (.obj [])

/-- The first member of the given names that counts as present; an empty text if there is none. -/
def firstMember (data : Json) (names : List String) : Json :=
  ((names.filterMap (data.get? ·)).find? Json.truthy).getD (.str "")

def codeHeader : String := "x-amzn-ErrorType"
def codeMembers : List String := ["__type", "code", "Code"]
def messageMembers : List String := ["message", "Message"]

/-- The code before it is stripped: the header, or else a member of the body. -/
def fullCode (r : Response) : Json :=
  let fromHeader := (r.headers.get? codeHeader).getD ""
  if fromHeader.isEmpty then firstMember (bodyData r.body) codeMembers else .str fromHeader

/-- Reads a failed response with a JSON body. -/
def ofJsonResponse (r : Response) : Except CodeNotText ErrorInfo :=
  match fullCode r with
  | .str code => .ok ⟨bareCode code, firstMember (bodyData r.body) messageMembers⟩
  | other => .error ⟨other⟩

/-- The local part of a tag, which may have a namespace in braces before it. -/
def localPart (tag : String) : String :=
  match Text.cutString '}' tag with
  | (_, some name) => name
  | (name, none) => name

/-- What a search of a document has found so far; an empty text stands for nothing. -/
structure Findings where
  code : String := ""
  message : String := ""
  deriving DecidableEq, Repr

/-- Takes note of the trimmed text of an element that holds what is not found yet. -/
def Findings.note (found : Findings) (e : Xml.Element) : Findings :=
  let name := localPart e.tag
  let text := Text.trim (e.text.getD "")
  if name = "Code" ∧ found.code.isEmpty then { found with code := text }
  else if name = "Message" ∧ found.message.isEmpty then { found with message := text }
  else found

/-- Reads a failed response with an XML body; one that is no XML is the message. -/
def ofXmlResponse (r : Response) : Except Xml.ReadError ErrorInfo :=
  match Xml.Element.read r.body Xml.Scope.elementName? with
  | .ok root =>
    let found := root.inOrder.foldl Findings.note {}
    .ok ⟨found.code, .str found.message⟩
  | .error .notWellFormed => .ok ⟨"", .str r.text⟩
  | .error e => .error e

end ErrorInfo

end ServiceClient
