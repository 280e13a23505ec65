import ServiceClient.Pairs
import ServiceClient.Text.Blank
import ServiceClient.Text.Quoted

/-!
Where requests go and who signs them: regions with their endpoints, credentials, and what the
environment of a process says about both.
-/

namespace ServiceClient

/-- A region of a service, with an endpoint of its own if it is pinned to one. -/
structure Region where
  name : String
  endpoint : Option String := none
  deriving DecidableEq, Repr

namespace Region

/-- The domain that the endpoints of a region belong to. -/
def domain (r : Region) : String :=
  if r.name.startsWith "cn-" then "amazonaws.com.cn" else "amazonaws.com"

/-- The base of all addresses: the region's own endpoint without slashes at its end, or a host named
for the service and the region. -/
def baseUrl (r : Region) (service : String) : String :=
  let own := r.endpoint.getD ""
  if own.isEmpty then s!"https://{service}.{r.name}.{r.domain}"
  else String.ofList (Text.dropEnd (· == '/') own.toList)

end Region

/-- The variables of a process. -/
abbrev Environment := List (String × String)

/-- A variable that is set to something. -/
def Environment.nonempty? (env : Environment) (name : String) : Option String :=
  (env.lookup name).filter (!·.isEmpty)

/-- The region that the environment names. -/
def Environment.region (env : Environment) : Region :=
  ⟨((env.nonempty? "AWS_DEFAULT_REGION").or (env.nonempty? "AWS_REGION")).getD "us-east-1", none⟩

/-- The keys that requests are signed with. -/
structure Credentials where
  accessKeyId : String
  secretAccessKey : String
  sessionToken : Option String := none
  deriving DecidableEq, Repr

/-- The text of credentials, without their secrets. -/
def Credentials.display (c : Credentials) : String :=
  s!"AwsCredentials(access_key_id={Text.Quoted.text c.accessKeyId})"

/-- One of the keys is not set. -/
inductive CredentialFault where
  | keysNotSet
  deriving DecidableEq, Repr

def CredentialFault.message : CredentialFault → String
  | .keysNotSet => "AWS_ACCESS_KEY_ID and AWS_SECRET_ACCESS_KEY must both be set"

/-- The credentials that the environment holds. -/
def Environment.credentials (env : Environment) : Except CredentialFault Credentials :=
  match env.nonempty? "AWS_ACCESS_KEY_ID", env.nonempty? "AWS_SECRET_ACCESS_KEY" with
  | some id, some secret => .ok ⟨id, secret, env.lookup "AWS_SESSION_TOKEN"⟩
  | _, _ => .error .keysNotSet

end ServiceClient
