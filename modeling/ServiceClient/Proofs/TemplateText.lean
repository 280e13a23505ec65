import ServiceClient.Proofs.CodeTable

/-!
What a template writes, piece by piece. `Template.Writes` follows the pieces of a template in a scope
that is known; from it comes the whole text.
-/

namespace ServiceClient.Template

/-- The pieces of a template are written as a text. -/
def Writes (scope : Scope) (nodes : List Node) (text : String) : Prop :=
  renderAll scope nodes = some text

namespace Writes

variable {scope : Scope} {nodes yes no : List Node} {value : Expr} {v : Json} {s more : String}

theorem nil : Writes scope [] "" := by
  rw [Writes, renderAll]

theorem cons {node : Node} (first : node.render scope = some s) (rest : Writes scope nodes more) :
    Writes scope (node :: nodes) (s ++ more) := by
  rw [Writes] at rest ⊢
  rw [renderAll, first, rest]
  rfl

theorem text (rest : Writes scope nodes more) : Writes scope (.text s :: nodes) (s ++ more) :=
  cons (render_text scope s) rest

theorem put (known : value.eval scope = some v) (rest : Writes scope nodes more) :
    Writes scope (.put value :: nodes) (v.display ++ more) := by
  apply cons _ rest
  rw [render_put, known, Option.map_some]

theorem test_of_present (known : value.eval scope = some v) (present : v.truthy = true)
    (branch : Writes scope yes s) (rest : Writes scope nodes more) :
    Writes scope (.test value yes no :: nodes) (s ++ more) := by
  apply cons _ rest
  rw [Writes] at branch
  simp only [Node.render, known, present, if_true, branch]

theorem test_of_absent (known : value.eval scope = some v) (absent : v.truthy = false)
    (branch : Writes scope no s) (rest : Writes scope nodes more) :
    Writes scope (.test value yes no :: nodes) (s ++ more) := by
  apply cons _ rest
  rw [Writes] at branch
  simp only [Node.render, known, absent, Bool.false_eq_true, if_false, branch]

/-- Once for each item of a list, with the item or its parts under names. -/
theorem each {α : Type} {items : List α} {names : List String} {body : List Node} (item : α → Json)
    (line : α → String) (bound : α → Scope)
    (known : value.eval scope = some (.arr (items.map item)))
    (binds : ∀ a, Template.bind names (item a) = some (bound a))
    (lines : ∀ a ∈ items, Writes (bound a ++ scope) body (line a))
    (rest : Writes scope nodes more) :
    Writes scope (.each names value body :: nodes) (String.join (items.map line) ++ more) := by
  have all : (items.map item).mapM (renderItem names body scope) = some (items.map line) := by
    clear known
    induction items with
    | nil => rfl
    | cons a others ih =>
      obtain ⟨here, later⟩ := List.forall_mem_cons.mp lines
      have first : renderItem names body scope (item a) = some (line a) := by
        rw [renderItem, binds]
        exact here
      simp [first, ih later]
  apply cons _ rest
  rw [render_each known, all, Option.map_some]

end Writes

/-- The text of a template whose pieces are known. -/
theorem render_of_writes {template : Template} {scope : Scope} {text : String}
    (written : Writes scope template.nodes text) : template.render scope = .ok text := by
  rw [Writes] at written
  rw [Template.render, written]

end ServiceClient.Template
