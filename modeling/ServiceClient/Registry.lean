import ServiceClient.Module.Family
import ServiceClient.Pairs
import ServiceClient.Text.Split

/-!
The registry of protocols. Each protocol has a pair of components, one that lays out requests and
responses and one that reads errors; other names may point to a protocol. Names are compared
exactly.
-/

namespace ServiceClient

/-- What can be offered to a registry. -/
inductive Component where
  | family (family : Family)
  /-- A protocol component of no family. -/
  | protocolBase
  | errors (family : ErrorFamily)
  /-- An error component of no family. -/
  | errorBase
  /-- Something that is neither. -/
  | other
  deriving DecidableEq, Repr

namespace Component

def isProtocol : Component → Bool
  | family _ | protocolBase => true
  | _ => false

def readsErrors : Component → Bool
  | errors _ | errorBase => true
  | _ => false

def name : Component → String
  | family .json => "JsonGenerator"
  | family .query => "QueryGenerator"
  | family .restJson => "RestJsonGenerator"
  | family .restXml => "RestXmlGenerator"
  | protocolBase => "ProtocolGenerator"
  | errors .json => "JsonErrorTypes"
  | errors .xml => "XmlErrorTypes"
  | errorBase => "ErrorTypeGenerator"
  | other => "object"

end Component

/-- The components that serve a protocol. -/
structure Pair where
  protocol : Component
  errors : Component
  deriving DecidableEq, Repr

/-- Protocols with their pairs, and aliases with the protocols that they point to. -/
structure Registry where
  pairs : List (String × Pair) := []
  aliases : List (String × String) := []
  deriving DecidableEq, Repr

/-- Why a registration is refused. -/
inductive RegistrationError where
  | notAProtocol
  | readsNoErrors
  | aliasIsProtocol (name : String)
  | aliasTaken (name owner : String)
  deriving DecidableEq, Repr

def RegistrationError.message : RegistrationError → String
  | notAProtocol => "Generator class must inherit from ProtocolGenerator"
  | readsNoErrors => "Error type class must inherit from ErrorTypeGenerator"
  | aliasIsProtocol name => s!"Alias '{name}' conflicts with existing protocol"
  | aliasTaken name owner => s!"Alias '{name}' already points to '{owner}'"

namespace Registry

/-- Names in order, each once. -/
def sorted (names : List String) : List String :=
  (Pairs.distinct (names.map fun name => (name, ()))).map (·.1) |>.mergeSort (fun a b => decide (a ≤ b))

def hasProtocol (registry : Registry) (name : String) : Bool :=
  registry.pairs.any (·.1 == name)

/-- Why an alias cannot be added, if it cannot. -/
def aliasConflict? (registry : Registry) (protocol name : String) : Option RegistrationError :=
  if registry.hasProtocol name then some (.aliasIsProtocol name)
  else
    match registry.aliases.lookup name with
    | some owner => if owner = protocol then none else some (.aliasTaken name owner)
    | none => none

/-- Adds aliases one after the other. The first one that conflicts ends it; those before it stay. -/
def addAliases (registry : Registry) (protocol : String) (replace : Bool) :
    List String → Registry × Option RegistrationError
  | [] => (registry, none)
  | name :: rest =>
    if name = protocol then registry.addAliases protocol replace rest
    else
      match if replace then none else registry.aliasConflict? protocol name with
      | some error => (registry, some error)
      | none =>
        { registry with aliases := Pairs.insert name protocol registry.aliases }.addAliases
          protocol replace rest

/-- Registers a pair for a protocol. A protocol that is there is left alone unless it is to be
replaced. -/
def register (registry : Registry) (protocol : String) (pair : Pair) (aliases : List String)
    (replace : Bool) : Registry × Option RegistrationError :=
  if !pair.protocol.isProtocol then (registry, some .notAProtocol)
  else if !pair.errors.readsErrors then (registry, some .readsNoErrors)
  else if registry.hasProtocol protocol && !replace then (registry, none)
  else
    { registry with pairs := Pairs.insert protocol pair registry.pairs }.addAliases
      protocol replace aliases

/-- Removes a protocol and the aliases that point to it. -/
def unregister (registry : Registry) (protocol : String) : Registry :=
  { pairs := registry.pairs.filter (·.1 != protocol)
    aliases := registry.aliases.filter (·.2 != protocol) }

/-- The names of the protocols, in order. -/
def protocols (registry : Registry) : List String := sorted (registry.pairs.map (·.1))

/-- The aliases of a protocol, in order. -/
def aliasesOf (registry : Registry) (protocol : String) : List String :=
  sorted ((registry.aliases.filter (·.2 == protocol)).map (·.1))

/-- All names that are served, in order. -/
def allNames (registry : Registry) : List String :=
  sorted (registry.pairs.map (·.1) ++ registry.aliases.map (·.1))

def serves (registry : Registry) (name : String) : Bool :=
  registry.hasProtocol name || registry.aliases.any (·.1 == name)

/-- The pair that serves a name; an alias goes before a protocol of the same name. -/
def pair? (registry : Registry) (name : String) : Option Pair :=
  registry.pairs.lookup ((registry.aliases.lookup name).getD name)

/-- The pair that serves a protocol of a description. -/
def pair (registry : Registry) (protocol : Json) : Except Fault Pair :=
  match protocol with
  | .arr _ => .error (.notAName .arr)
  | .obj _ => .error (.notAName .obj)
  | .str name =>
    match registry.pair? name with
    | some pair => .ok pair
    | none => .error (.unknownProtocol protocol registry.allNames)
  | _ => .error (.unknownProtocol protocol registry.allNames)

/-- The registry of the protocols that are always there. -/
def builtin : Registry :=
  let registry : Registry := {}
  let registry := (registry.register "json" ⟨.family .json, .errors .json⟩ [] false).1
  let registry := (registry.register "query" ⟨.family .query, .errors .xml⟩ ["ec2"] false).1
  let registry := (registry.register "rest-json" ⟨.family .restJson, .errors .json⟩ [] false).1
  (registry.register "rest-xml" ⟨.family .restXml, .errors .xml⟩ [] false).1

end Registry

end ServiceClient
