import ServiceClient.Module.Generation
import ServiceClient.Proofs.Outcome

/-!
The protocols that are served, and by which family. The registry is looked up by text, first among
its other names and then among its protocols; here the result is one table.
-/

namespace ServiceClient

/-- The families that serve a protocol. -/
def servedBy : List (String × Family × ErrorFamily) := [
  ("json", .json, .json), ("query", .query, .xml), ("ec2", .query, .xml),
  ("rest-json", .restJson, .json), ("rest-xml", .restXml, .xml)]

theorem Registry.builtin_eq : Registry.builtin = {
    pairs := [("json", ⟨.family .json, .errors .json⟩), ("query", ⟨.family .query, .errors .xml⟩),
      ("rest-json", ⟨.family .restJson, .errors .json⟩),
      ("rest-xml", ⟨.family .restXml, .errors .xml⟩)]
    aliases := [("ec2", "query")] } := by
  decide

theorem Registry.pair?_builtin (name : String) :
    Registry.builtin.pair? name =
      (servedBy.lookup name).map fun (family, errors) => ⟨.family family, .errors errors⟩ := by
  rw [Registry.builtin_eq, Registry.pair?, servedBy]
  by_cases other : name = "ec2"
  · subst other
    rfl
  · simp only [List.lookup_cons, List.lookup_nil, beq_false_of_ne other, Option.getD_none]
    repeat' split
    all_goals rfl

theorem lookup_servedBy_isSome_iff {name : String} :
    (servedBy.lookup name).isSome ↔ name ∈ ["json", "query", "ec2", "rest-json", "rest-xml"] := by
  simp [servedBy, List.lookup_isSome_iff]

namespace Service

variable {service : Service}

theorem families_of_text {name : String} (protocol : service.metadata.protocol = .str name) :
    service.families = match servedBy.lookup name with
      | some families => .ok families
      | none => .error (.unknownProtocol (.str name) Registry.builtin.allNames) := by
  rw [families, protocol, Registry.pair, Registry.pair?_builtin]
  cases servedBy.lookup name <;> rfl

theorem lookup_of_families {families : Family × ErrorFamily}
    (served : service.families = .ok families) :
    ∃ name, service.metadata.protocol = .str name ∧ servedBy.lookup name = some families := by
  cases protocol : service.metadata.protocol with
  | str name =>
    rw [families_of_text protocol] at served
    cases found : servedBy.lookup name with
    | none =>
      rw [found] at served
      cases served
    | some other =>
      rw [found] at served
      exact ⟨name, rfl, by rw [found, Except.ok.inj served]⟩
  | _ => simp [Service.families, protocol, Registry.pair] at served

theorem protocol_of_restXml {errors : ErrorFamily}
    (served : service.families = .ok (.restXml, errors)) :
    service.metadata.protocol = .str "rest-xml" := by
  obtain ⟨name, protocol, found⟩ := lookup_of_families served
  rw [protocol]
  simp only [servedBy, List.lookup_cons, List.lookup_nil] at found
  repeat' split at found
  all_goals simp_all

end Service

end ServiceClient
