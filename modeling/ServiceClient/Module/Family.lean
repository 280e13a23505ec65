import ServiceClient.Service.Basic

/-!
Families of protocols. A protocol's family decides how a client writes requests and reads responses;
one protocol may be served by the family of another.
-/

namespace ServiceClient

/-- How a client's requests and responses are laid out. -/
inductive Family where
  /-- JSON bodies, the operation named in a header. -/
  | json
  /-- Form bodies and XML responses; also serves `ec2`. -/
  | query
  /-- Members in the URI, the query string, headers and a JSON body. -/
  | restJson
  /-- Members in the URI, the query string, headers and an XML body. -/
  | restXml
  deriving DecidableEq, Repr

/-- How a client's error responses are read. -/
inductive ErrorFamily where
  | json
  | xml
  deriving DecidableEq, Repr

namespace Family

/-- The protocol that the family is named for. -/
def protocol : Family → String
  | json => "json"
  | query => "query"
  | restJson => "rest-json"
  | restXml => "rest-xml"

/-- The parts of the support package that a module imports, with their names there. -/
def imports : Family → List (String × String)
  | json => [("serialization", "_serde")]
  | query => [("params", "_params"), ("xml_payload", "_xml")]
  | restJson => [("params", "_params"), ("serialization", "_serde")]
  | restXml => [("params", "_params"), ("xml_payload", "_xml")]

/-- Whether records are written and read through the wire names of their fields. -/
def usesWireFields : Family → Bool
  | json | restJson => true
  | query | restXml => false

/-- The type of a timestamp: seconds in JSON, text in XML. -/
def timeType (family : Family) : String :=
  if family.usesWireFields then "float" else "str"

end Family

/-- The function that reads the code and the message of an error response. -/
def ErrorFamily.errorReader : ErrorFamily → String
  | json => "_errors.parse_json_error"
  | xml => "_errors.parse_xml_error"

/-- Whether a service speaks `ec2`, the query protocol with its own numbering and names. -/
def Service.speaksEc2 (service : Service) : Bool := service.metadata.protocol == .str "ec2"

end ServiceClient
