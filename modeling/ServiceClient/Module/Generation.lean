import ServiceClient.Module.Source
import ServiceClient.Registry

/-!
Generating a client module from a description: its protocol selects the components, the sections are
put together and the text is made tidy.
-/

namespace ServiceClient

/-- A generated module. -/
structure Generated where
  code : String
  warnings : List Settings.Warning
  summary : Summary
  deriving DecidableEq, Repr

/-- The families of a pair. Components of no family lay out nothing. -/
def Pair.families? (pair : Pair) : Option (Family × ErrorFamily) :=
  match pair.protocol, pair.errors with
  | .family family, .errors errors => some (family, errors)
  | _, _ => none

namespace Service

/-- The families that serve a service among the builtin protocols. -/
def families (service : Service) : Except Fault (Family × ErrorFamily) := do
  let pair ← Registry.builtin.pair service.metadata.protocol
  match pair.families? with
  | some families => return families
  | none => throw (.unknownProtocol service.metadata.protocol Registry.builtin.allNames)

/-- Generates the module of a service. -/
def generate (service : Service) (settings : Settings) : Except Fault Generated := do
  let (family, errors) ← service.families
  let (text, summary) ← service.moduleText { family, settings } errors
  return { code := Text.tidy text, warnings := ← settings.warnings, summary }

end Service

/-- Generates the module of a description. -/
def generateFromJson (description : Json) (settings : Settings) : Except Fault Generated := do
  (← Service.ofJson description).generate settings

end ServiceClient
