import ServiceClient.Module.Generation
import ServiceClient.Proofs.Outcome
import ServiceClient.Proofs.TemplateTyping

/-!
The sections around the types and the methods of a module can be rendered. For each template there
is a context that it passes, and the scope that a section makes for it fits that context. Only a few
values have to be texts: those that a template changes before it puts them in their place.
-/

namespace ServiceClient

open Template (Context render_of_check)

theorem Style.importSection_succeeds (style : Style) : ∃ text, style.importSection = .ok text := by
  refine render_of_check [("runtime", .any), ("imports", .list .pair)] rfl ?_
  exact .cons (.any _) (.cons (.map fun part => .pair _ _) .nil)

namespace Service

variable {service : Service}

theorem opening_succeeds (settings : Settings) {fullName : String}
    (named : service.metadata.fullName = .str fullName) :
    ∃ text, service.opening settings = .ok text := by
  refine render_of_check [("runtime", .any), ("service_full_name", .text), ("protocol", .any)] rfl ?_
  rw [named]
  exact .cons (.any _) (.cons (.text _) (.cons (.any _) .nil))

theorem clientName_of_displayName {name : String} (named : service.displayName = .str name) :
    ∃ client, service.clientName = .ok client := by
  simp [clientName, typeName, named, Except.map]

def errorsContext : Context := [
  ("base", .any), ("service_name", .text), ("parse_function", .any),
  ("errors", .list (.record [("name", .any), ("code", .text), ("documentation", .any)])),
  ("dispatch", .any), ("credentials", .any), ("unknown", .any)]

theorem errorSection_succeeds (family : ErrorFamily) {settings : Settings} {name : String}
    {classes : List ErrorClass} (named : service.displayName = .str name)
    (classesMade : service.errorClasses settings = .ok classes)
    (codes : ∀ error ∈ classes, ∃ code, error.code = .str code) :
    ∃ text, service.errorSection family settings = .ok text := by
  obtain ⟨client, clientDone⟩ := clientName_of_displayName named
  simp only [errorSection, errorName, clientDone, Except.map, Except.ok_bind, classesMade, named]
  refine render_of_check errorsContext rfl ?_
  refine .cons (.any _) (.cons (.text _) (.cons (.any _) (.cons ?_ (.cons (.any _) (.cons (.any _)
    (.cons (.any _) .nil))))))
  refine .list fun value inside => ?_
  obtain ⟨error, listed, rfl⟩ := List.mem_map.mp inside
  obtain ⟨code, isText⟩ := codes error listed
  rw [isText]
  exact .ofScope (.cons (.any _) (.cons (.text _) (.cons (.any _) .nil)))

theorem clientSection_succeeds {style : Style} {name methods : String}
    (named : service.displayName = .str name) (methodsDone : service.methods style = .ok methods) :
    ∃ text, service.clientSection style = .ok text := by
  obtain ⟨client, clientDone⟩ := clientName_of_displayName named
  simp only [clientSection, clientDone, Except.ok_bind, methodsDone, named]
  refine render_of_check [("client", .any), ("service_name", .text), ("methods", .any)] rfl ?_
  exact .cons (.any _) (.cons (.text _) (.cons (.any _) .nil))

theorem testSection_succeeds {name : String} (named : service.displayName = .str name)
    (operations : ∀ operation ∈ service.operations.map (·.2), ∃ method,
      operation.name.methodName = .ok method) : ∃ text, service.testSection = .ok text := by
  obtain ⟨client, clientDone⟩ := clientName_of_displayName named
  obtain ⟨methods, methodsDone⟩ := Except.mapM_succeeds_iff.mpr operations
  obtain ⟨noInput, noInputDone⟩ := Except.mapM_succeeds_iff.mpr fun operation inside =>
    operations operation (List.mem_of_mem_filter (p := (!·.input.truthy)) inside)
  simp only [testSection, clientDone, Except.ok_bind, methodsDone, noInputDone]
  refine render_of_check
    [("client", .text), ("methods", .list .any), ("no_input_methods", .list .any)]
    rfl ?_
  exact .cons (.text _) (.cons (.map fun method => .any _) (.cons (.map fun method => .any _) .nil))

end Service

end ServiceClient
