import ServiceClient.Http.Request
import ServiceClient.Http.Response

/-!
Sending requests. What goes over the wire is a `Message`; whoever carries it answers with a response
or tells why there is none.
-/

namespace ServiceClient

/-- A request as it goes over the wire. -/
structure Message where
  method : String
  url : String
  headers : Parameters
  payload : Option Octets
  timeout : Value

def Request.message (r : Request) (timeout : Value) : Except RequestError Message :=
  r.url.map fun url => { method := r.method, url, headers := r.headers, payload := r.payload, timeout }

/-- Why there is no response. -/
inductive CarrierFailure where
  /-- The request could not be sent, or nothing came back. -/
  | unanswered (problem : String)
  /-- The carrier itself failed. -/
  | broken (kind problem : String)
  deriving DecidableEq, Repr

/-- Why a request was not answered. -/
inductive DispatchError where
  | unanswered (sent problem : String)
  | broken (kind problem : String)
  | request (e : RequestError)
  deriving DecidableEq, Repr

def DispatchError.message : DispatchError → String
  | .unanswered sent problem => s!"Failed to dispatch {sent}: {problem}"
  | .broken _ problem => problem
  | .request _ => ""

/-- What becomes of a request when the carrier answers it. -/
def Request.answer (r : Request) : Except CarrierFailure Response → Except DispatchError Response
  | .ok response => .ok response
  | .error (.unanswered problem) => .error (.unanswered r.display problem)
  | .error (.broken kind problem) => .error (.broken kind problem)

/-- Sends a request through a carrier. -/
def Request.dispatch (r : Request) (timeout : Value)
    (carrier : Message → Except CarrierFailure Response) : Except DispatchError Response := do
  let message ← (r.message timeout).mapError .request
  r.answer (carrier message)

end ServiceClient
