import ServiceClient.Codec.Base64
import ServiceClient.Wire.Value

/-!
The text of scalars in query strings, headers, form bodies and XML.
-/

namespace ServiceClient

/-- Truth values are `true` and `false`, octets are Base64 and whole doubles have no fraction. -/
def Value.scalarText : Value → String
  | .bool b => if b then "true" else "false"
  | .bytes octets => Base64.encode octets
  | .float x =>
    match x.isWhole, x.truncate? with
    | true, some n => toString n
    | _, _ => (Value.float x).display
  | v => v.display

/-- The text of a scalar. A whole number of more digits than a text may give it has none. -/
def Value.scalarText? (v : Value) : Option String := if v.writable then some v.scalarText else none

end ServiceClient
