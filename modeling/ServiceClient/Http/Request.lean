import ServiceClient.Codec.Percent
import ServiceClient.Http.Parameters
import ServiceClient.Http.Region
import ServiceClient.Text.Case
import ServiceClient.Wire.KeyOrder

/-!
Requests to a service in a region: the parts that a call fills in, and the address they make. The
signature over them is in `Http.Signature`.
-/

namespace ServiceClient

/-- A request that is not sent yet. -/
structure Request where
  method : String
  /-- The name that the service signs under. -/
  service : String
  region : Region
  path : String
  /-- The name of the service in the host. -/
  endpointName : String
  params : Parameters := []
  headers : Parameters := []
  payload : Option Octets := none

/-- Why a request has no address or cannot be signed. -/
inductive RequestError where
  /-- Names of parameters that have no order. -/
  | noOrder
  /-- A name or value of a parameter that is no text. -/
  | notText
  /-- A name or value of a header, or the host, that is no text. -/
  | notHeaderText
  /-- A header of octets. -/
  | octetsInHeader
  | malformedUrl
  deriving DecidableEq, Repr

namespace Request

/-- A request for a path. What follows the first question mark of the path are parameters. -/
def new (method service : String) (region : Region) (path : String)
    (endpointName : Option String := none) : Request :=
  let (path, query) := Text.cutString '?' path
  let name := endpointName.getD ""
  { method := Text.upper method
    service, region
    path := if path.isEmpty then "/" else path
    endpointName := if name.isEmpty then service else name
    params := (Percent.decodeForm (query.getD "")).foldl
      (fun params (name, value) => Value.insertEntry (.str name) (.str value) params) [] }

/-- The text of a request in messages. -/
def display (r : Request) : String :=
  s!"SignedRequest({r.method} {r.service} {r.region.name} {r.path})"

/-- Sets a parameter if its name can be one. -/
def setParameter (r : Request) (name v : Value) : Except Mismatch Request :=
  (r.params.set name v).map fun params => { r with params }

/-- Puts the entries of a value over the parameters. Those before one that is none stay set. -/
def setParameters (r : Request) (values : Value) : Request × Option Mismatch :=
  let (params, e) := Value.putEntries r.params values
  ({ r with params }, e)

def setHeader (r : Request) (name v : Value) : Except Mismatch Request :=
  (r.headers.set name v).map fun headers => { r with headers }

/-- Sets a header to the text of a value; null leaves it as it is. -/
def setHeaderText (r : Request) (name v : Value) : Except Mismatch Request :=
  if v.isNull then .ok r
  else
    match v.scalarText? with
    | some text => r.setHeader name (.str text)
    | none => .error .numeral

/-- Sets a header for each entry of a map, its name put after a text. -/
def setHeaderTexts (r : Request) (start : String) (values : Value) : Except Mismatch Request :=
  if !values.truthy then .ok r
  else
    match values with
    | .map entries => entries.foldlM (fun r (name, v) => r.setHeaderText (.str (start ++ name.display)) v) r
    | _ => .error .noEntries

def withContentType (r : Request) (contentType : String) : Request :=
  { r with headers := Value.insertEntry (.str "Content-Type") (.str contentType) r.headers }

def formContentType : String := "application/x-www-form-urlencoded; charset=utf-8"

/-- A name or value of a form. -/
def formPart : Value → String
  | .bytes octets => Percent.formEncodeOctets octets
  | v => Percent.formEncode v.display

/-- The body that carries parameters as a form, ordered by name. -/
def formBody (values : Value) : Except Mismatch Octets :=
  match values with
  | .map entries =>
    match Value.sortByKey? entries with
    | some sorted => .ok (Text.utf8Encode (Text.intercalate "&" (sorted.map fun (name, v) =>
        formPart name ++ "=" ++ formPart v)))
    | none => .error .noKey
  | _ => .error .noEntries

/-- Sends values as a form. The content type is set even if the values make no form. -/
def setForm (r : Request) (values : Value) : Request × Option Mismatch :=
  let r := r.withContentType formContentType
  match formBody values with
  | .ok body => ({ r with payload := some body }, none)
  | .error e => (r, some e)

/-- The base of the request's address. -/
def endpoint (r : Request) : String := r.region.baseUrl r.endpointName

/-- A name or value of a query. -/
def queryPart : Value → Except RequestError String
  | .str s => .ok (Percent.encode "" s)
  | .bytes octets => .ok (Percent.encodeOctets octets)
  | _ => .error .notText

/-- The parameters as a query, ordered by name. -/
def query (r : Request) : Except RequestError String :=
  match Value.sortByKey? r.params with
  | none => .error .noOrder
  | some sorted => do
    let parts ← sorted.mapM fun (name, v) => do
      return (← queryPart name) ++ "=" ++ (← queryPart v)
    return Text.intercalate "&" parts

/-- The address: endpoint, path, and the query if there are parameters. -/
def url (r : Request) : Except RequestError String := do
  let base := r.endpoint ++ Percent.encode "/%" r.path
  if r.params.isEmpty then return base
  else return base ++ "?" ++ (← r.query)

end Request

end ServiceClient
