import ServiceClient.Codec.Sha256
import ServiceClient.Http.Request
import ServiceClient.Http.Url
import ServiceClient.Text.Case

/-!
Signatures over requests. The signed text names the method, the path, the query, the headers and the
digest of the payload, each in one canonical form; the key is derived from the secret, the day, the
region and the service. Requests to the object store sign their path as it is and carry the digest
of the payload in a header.
-/

namespace ServiceClient

namespace Signature

def algorithm : String := "AWS4-HMAC-SHA256"

/-- Headers that may change on the way are not signed. -/
def unsignedHeaders : List String := ["expect", "transfer-encoding", "user-agent", "x-amzn-trace-id"]

def hexDigest (octets : Octets) : String := Text.hexText (Sha256.digest octets)

/-- The objects of this service have paths of their own. -/
def isObjectStore (service : String) : Bool := service == "s3"

/-- Resolves the dot segments of a path and drops its empty ones; what is left is in reverse order. -/
def resolveSegments (segments : List (List Char)) : List (List Char) :=
  segments.foldl (fun kept segment =>
    if segment = [] ∨ segment = ['.'] then kept
    else if segment = ['.', '.'] then kept.drop 1
    else segment :: kept) []

/-- A path without dot segments and repeated slashes. -/
def normalizePath (path : List Char) : List Char :=
  match path with
  | [] => ['/']
  | first :: _ =>
    let kept := (resolveSegments (Text.splitOn '/' path)).reverse
    let start := if first = '/' then ['/'] else []
    let stop := if path.getLast? = some '/' ∧ ¬ kept.isEmpty then ['/'] else []
    start ++ Text.joinWith '/' kept ++ stop

def canonicalPath (service path : String) : String :=
  if isObjectStore service then path
  else Percent.encode "/~" (String.ofList (normalizePath path.toList))

/-- The pairs of a query in their order. -/
def canonicalQuery (query : String) : String :=
  if query.isEmpty then ""
  else
    let pairs := (Text.splitOn '&' query.toList).map fun piece =>
      let (name, v) := Text.cut '=' piece
      (String.ofList name, String.ofList (v.getD []))
    let sorted := pairs.mergeSort fun a b =>
      decide (a.1 < b.1) || (a.1 == b.1 && !decide (b.2 < a.2))
    Text.intercalate "&" (sorted.map fun (name, v) => name ++ "=" ++ v)

/-- A header's value with single spaces between its words. -/
def headerText : Value → Except RequestError String
  | .str s => .ok (Text.intercalate " " ((Text.words s.toList).map String.ofList))
  | .bytes octets =>
    if octets.all fun b => Text.isPlainBlank (Char.ofNat b.toNat) then .ok ""
    else .error .octetsInHeader
  | _ => .error .notHeaderText

/-- The headers to sign by their names in lower case; the host is among them. -/
def headersToSign (headers : Parameters) (host : Option String) :
    Except RequestError (List (String × Value)) := do
  let named ← headers.mapM fun (name, v) =>
    match name with
    | .str s => .ok (Text.lower s, v)
    | .bytes _ => .error .octetsInHeader
    | _ => .error .notHeaderText
  let kept := named.filter fun (name, _) => !unsignedHeaders.contains name
  let hostValue : Value := match host with
    | some h => .str h
    | none => .null
  return if (kept.lookup "host").isSome then kept else kept ++ [("host", hostValue)]

def sortedNames (names : List String) : List String :=
  names.eraseDups.mergeSort fun a b => !decide (b < a)

/-- A line for each header name; the values of one name are joined by commas. -/
def canonicalHeaders (headers : List (String × Value)) : Except RequestError String := do
  let lines ← (sortedNames (headers.map (·.1))).mapM fun name => do
    let values ← (headers.filter (·.1 == name)).mapM fun (_, v) => headerText v
    return name ++ ":" ++ Text.intercalate "," values
  return Text.intercalate "\n" lines

def signedHeaders (headers : List (String × Value)) : String :=
  let names := (headers.map (·.1)).eraseDups.map Text.trim
  Text.intercalate ";" (names.mergeSort fun a b => !decide (b < a))

/-- The time of a signature as `YYYYMMDDThhmmssZ`. -/
abbrev Time := String

def day (time : Time) : String := String.ofList (time.toList.take 8)

/-- What a signature is good for: one day, one region and one service. -/
def scope (r : Request) (time : Time) : String :=
  Text.intercalate "/" [day time, r.region.name, r.service, "aws4_request"]

/-- The key that signs within a scope. -/
def key (r : Request) (secret : String) (time : Time) : Octets :=
  [day time, r.region.name, r.service, "aws4_request"].foldl
    (fun key part => Sha256.keyed key (Text.utf8Encode part)) (Text.utf8Encode ("AWS4" ++ secret))

/-- Removes a header whatever the case of its letters. -/
def dropHeader (name : String) (headers : Parameters) : Parameters :=
  headers.filter fun (n, _) =>
    match n with
    | .str s => Text.lower s != Text.lower name
    | _ => true

/-- Puts a header at the end in place of those of its name. -/
def refreshHeader (name v : String) (headers : Parameters) : Parameters :=
  dropHeader name headers ++ [(.str name, .str v)]

/-- The first header of a name whatever the case of its letters. -/
def findHeader? (name : String) (headers : Parameters) : Option Value :=
  (headers.find? fun (n, _) =>
    match n with
    | .str s => Text.lower s == Text.lower name
    | _ => false).map (·.2)

def authorizationHeader : String := "Authorization"
def dateHeader : String := "X-Amz-Date"
def tokenHeader : String := "X-Amz-Security-Token"
def digestHeader : String := "X-Amz-Content-SHA256"

/-- The headers of a request with those that its signature calls for. -/
def preparedHeaders (r : Request) (c : Credentials) (time : Time) : Parameters :=
  let headers := refreshHeader dateHeader time (dropHeader authorizationHeader r.headers)
  let token := c.sessionToken.getD ""
  let headers := if token.isEmpty then headers else refreshHeader tokenHeader token headers
  if isObjectStore r.service then
    refreshHeader digestHeader (hexDigest (r.payload.getD [])) headers
  else headers

/-- The digest that is signed: the one in the headers if there is one, else that of the payload. -/
def payloadDigest (r : Request) (headers : Parameters) : Except RequestError String :=
  match findHeader? digestHeader headers with
  | some (.str s) => .ok s
  | some _ => .error .octetsInHeader
  | none => .ok (hexDigest (r.payload.getD []))

/-- The canonical form of a request with the given headers. -/
def canonicalRequest (r : Request) (url : Url) (headers : Parameters)
    (signed : List (String × Value)) : Except RequestError String := do
  return Text.intercalate "\n" [r.method, canonicalPath r.service url.path, canonicalQuery url.query,
    (← canonicalHeaders signed) ++ "\n", signedHeaders signed, ← payloadDigest r headers]

end Signature

/-- Signs a request at a time: the headers get the date, the token and the signature. -/
def Request.sign (r : Request) (c : Credentials) (time : Signature.Time) :
    Except RequestError Request := do
  let address ← r.url
  let headers := Signature.preparedHeaders r c time
  let names := headers.map (·.1)
  if names.any fun n => n.kind != .str && n.kind != .bytes then throw .notHeaderText
  let url ← match Url.split? address with
    | some url => pure url
    | none => throw .malformedUrl
  let host ← match url.signedHost with
    | some host => pure host
    | none => throw .malformedUrl
  let signed ← Signature.headersToSign headers host
  let canonical ← Signature.canonicalRequest r url headers signed
  let text := Text.intercalate "\n" [Signature.algorithm, time, Signature.scope r time,
    Signature.hexDigest (Text.utf8Encode canonical)]
  let signature := Text.hexText
    (Sha256.keyed (Signature.key r c.secretAccessKey time) (Text.utf8Encode text))
  let scope := c.accessKeyId ++ "/" ++ Signature.scope r time
  let line := s!"{Signature.algorithm} Credential={scope}, " ++
    s!"SignedHeaders={Signature.signedHeaders signed}, Signature={signature}"
  return { r with headers := headers ++ [(.str Signature.authorizationHeader, .str line)] }

end ServiceClient
