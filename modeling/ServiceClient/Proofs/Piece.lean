import Mathlib.Data.List.Basic
import ServiceClient.Proofs.TemplateText

/-!
Texts of a module in pieces. A piece tells what its words do in the module: whether they bind a name,
use one that is bound elsewhere, or neither. `Template.Spells` follows the nodes of a template as
`Template.Writes` does, and gives the pieces of the text that they write.
-/

namespace ServiceClient

/-- What the words of a piece do. -/
inductive Role where
  /-- They are the module's own, whatever it is generated from. -/
  | fixed
  /-- They come from the description and name nothing in the module. -/
  | data
  /-- They bind the name of a type. -/
  | type
  /-- They bind the name of a reader or a writer. -/
  | function
  | errorClass
  | client
  /-- They bind a field of a record. -/
  | field
  /-- They bind a method of the client. -/
  | method
  /-- They are a decorator of a record. -/
  | mark
  /-- They name a type. -/
  | use
  /-- They name a type of the language. -/
  | builtin
  /-- They name an error class. -/
  | error
  /-- They call a reader or a writer or hand it over. -/
  | call
  deriving DecidableEq, Repr

/-- Whether words bind a name at the top level of a module. -/
def Role.bindsTop : Role → Bool
  | type | function | errorClass | client => true
  | _ => false

section BindsTop

@[simp] theorem Role.bindsTop_type : Role.type.bindsTop = true := rfl

@[simp] theorem Role.bindsTop_function : Role.function.bindsTop = true := rfl

@[simp] theorem Role.bindsTop_errorClass : Role.errorClass.bindsTop = true := rfl

@[simp] theorem Role.bindsTop_client : Role.client.bindsTop = true := rfl

@[simp] theorem Role.bindsTop_method : Role.method.bindsTop = false := rfl

@[simp] theorem Role.bindsTop_call : Role.call.bindsTop = false := rfl

end BindsTop

/-- Words in the text of a module. -/
structure Piece where
  role : Role
  text : String
  deriving DecidableEq, Repr

instance : Coe String Piece := ⟨Piece.mk .fixed⟩

abbrev Pieces := List Piece

/-- Of all words, those without a name of the module are dropped. -/
structure DropsText (keep : Role → Bool) : Prop where
  fixed : keep .fixed = false
  data : keep .data = false

/-- Only names that are bound outside records and calls may be kept. -/
structure KeepsNames (keep : Role → Bool) : Prop extends DropsText keep where
  field : keep .field = false
  mark : keep .mark = false
  use : keep .use = false
  builtin : keep .builtin = false
  error : keep .error = false

theorem KeepsNames.named {role : Role}
    (isName : role ∈ [Role.type, .function, .errorClass, .client, .method, .call]) :
    KeepsNames (· == role) := by
  simp only [List.mem_cons, List.not_mem_nil, or_false] at isName
  rcases isName with rfl | rfl | rfl | rfl | rfl | rfl <;>
    exact ⟨⟨rfl, rfl⟩, rfl, rfl, rfl, rfl, rfl⟩

theorem KeepsNames.bindsTop : KeepsNames Role.bindsTop := ⟨⟨rfl, rfl⟩, rfl, rfl, rfl, rfl, rfl⟩

namespace Pieces

/-- The text in pieces. -/
def spell (pieces : Pieces) : String := String.join (pieces.map (·.text))

/-- The words whose roles are kept, in order. -/
def wordsOf (pieces : Pieces) (keep : Role → Bool) : List String :=
  (pieces.filter (keep ·.role)).map (·.text)

/-- The words that do one thing, in order. -/
abbrev named (pieces : Pieces) (role : Role) : List String := pieces.wordsOf (· == role)

/-- The names that are bound at the top level of a module, in order. -/
abbrev topNames (pieces : Pieces) : List String := pieces.wordsOf (·.bindsTop)

/-- Pieces for a text that may be missing; an empty one counts as missing. -/
def given (text : Option String) (words : String → Pieces) (otherwise : Pieces := []) : Pieces :=
  match text with
  | some s => if s.isEmpty then otherwise else words s
  | none => otherwise

def newline : Piece := "\n"

/-- A line with its indentation. -/
def line (indent : String) (words : Pieces) : Pieces := ⟨.fixed, indent⟩ :: (words ++ [newline])

section Lemmas

variable {keep : Role → Bool}

@[simp] theorem spell_nil : spell [] = "" := rfl

@[simp] theorem spell_cons (piece : Piece) (rest : Pieces) :
    spell (piece :: rest) = piece.text ++ spell rest := by
  simp [spell]

@[simp] theorem spell_append (first rest : Pieces) :
    spell (first ++ rest) = spell first ++ spell rest := by
  simp [spell]

theorem spell_flatMap {α : Type} (items : List α) (line : α → Pieces) :
    spell (items.flatMap line) = String.join (items.map fun a => spell (line a)) := by
  induction items with
  | nil => rfl
  | cons a rest ih => simp [ih]

@[simp] theorem wordsOf_nil : wordsOf [] keep = [] := rfl

@[simp] theorem wordsOf_cons (piece : Piece) (rest : Pieces) : wordsOf (piece :: rest) keep =
    if keep piece.role then piece.text :: wordsOf rest keep else wordsOf rest keep := by
  by_cases kept : keep piece.role = true <;> simp [wordsOf, kept]

@[simp] theorem wordsOf_append (first rest : Pieces) :
    wordsOf (first ++ rest) keep = wordsOf first keep ++ wordsOf rest keep := by
  simp [wordsOf]

@[simp] theorem wordsOf_flatMap {α : Type} (items : List α) (line : α → Pieces) :
    wordsOf (items.flatMap line) keep = items.flatMap fun a => wordsOf (line a) keep := by
  induction items with
  | nil => rfl
  | cons a rest ih => simp [ih]

/-- Items without words. -/
@[simp] theorem flatMap_nil {α β : Type} (items : List α) :
    (items.flatMap fun _ => ([] : List β)) = [] :=
  List.flatMap_eq_nil_iff.mpr fun _ _ => rfl

@[simp] theorem wordsOf_line (indent : String) (words : Pieces) (plain : keep .fixed = false) :
    wordsOf (line indent words) keep = wordsOf words keep := by
  simp [line, newline, plain]

theorem mem_wordsOf_given {text : Option String} {words : String → Pieces} {name : String}
    {otherwise : Pieces} (none : wordsOf otherwise keep = [])
    (inside : name ∈ wordsOf (given text words otherwise) keep) :
    ∃ s, text = some s ∧ s.isEmpty = false ∧ name ∈ wordsOf (words s) keep := by
  cases text with
  | none => simp [given, none] at inside
  | some s =>
    cases empty : s.isEmpty with
    | true => simp [given, empty, none] at inside
    | false => exact ⟨s, rfl, empty, by simpa [given, empty] using inside⟩

/-- A part that may be missing has no such words if neither it nor its substitute has some. -/
theorem wordsOf_given_or {text : Option String} {words : String → Pieces} {otherwise : Pieces}
    (silent : ∀ s, wordsOf (words s) keep = []) (none : wordsOf otherwise keep = []) :
    wordsOf (given text words otherwise) keep = [] := by
  rw [List.eq_nil_iff_forall_not_mem]
  intro name inside
  obtain ⟨s, -, -, inside⟩ := mem_wordsOf_given none inside
  rw [silent] at inside
  cases inside

@[simp] theorem wordsOf_given {text : Option String} {words : String → Pieces}
    (silent : ∀ s, wordsOf (words s) keep = []) : wordsOf (given text words) keep = [] :=
  wordsOf_given_or silent rfl

end Lemmas

end Pieces

namespace Template

open Pieces (spell given)

/-- Nodes of a template write the text of pieces. -/
def Spells (scope : Scope) (nodes : List Node) (pieces : Pieces) : Prop :=
  Writes scope nodes (spell pieces)

theorem truthy_optionalText (text : Option String) :
    (optionalText text).truthy = (text.map (!·.isEmpty)).getD false := by
  cases text <;> rfl

namespace Spells

variable {scope : Scope} {nodes yes no : List Node} {value : Expr} {v : Json} {s : String}
  {role : Role} {first rest : Pieces}

theorem nil : Spells scope [] [] := Writes.nil

/-- The text is written, in whatever pieces. -/
theorem of_writes (written : Writes scope nodes s) (same : s = spell first) :
    Spells scope nodes first := by
  rwa [Spells, ← same]

/-- Nothing is left of what stood before. -/
theorem skip (after : Spells scope nodes rest) : Spells scope nodes ([] ++ rest) := after

/-- Nothing follows. -/
theorem last (spelled : Spells scope nodes (first ++ [])) : Spells scope nodes first :=
  List.append_nil first ▸ spelled

theorem text (after : Spells scope nodes rest) :
    Spells scope (.text s :: nodes) (⟨.fixed, s⟩ :: rest) := by
  rw [Spells, Pieces.spell_cons]
  exact Writes.text after

/-- A text in its place. -/
theorem put (known : value.eval scope = some (.str s)) (after : Spells scope nodes rest) :
    Spells scope (.put value :: nodes) (⟨role, s⟩ :: rest) := by
  rw [Spells, Pieces.spell_cons]
  exact Writes.put known after

/-- A value in its place, which need not be a text. -/
theorem putShown (known : value.eval scope = some v) (after : Spells scope nodes rest) :
    Spells scope (.put value :: nodes) (⟨role, v.display⟩ :: rest) := by
  rw [Spells, Pieces.spell_cons]
  exact Writes.put known after

/-- A text in its place that is in pieces itself. -/
theorem putPieces (known : value.eval scope = some (.str (spell first)))
    (after : Spells scope nodes rest) : Spells scope (.put value :: nodes) (first ++ rest) := by
  rw [Spells, Pieces.spell_append]
  exact Writes.put known after

/-- A line with its indentation. -/
theorem line {indent : String} (known : value.eval scope = some (.str (spell first)))
    (after : Spells scope nodes rest) :
    Spells scope (.text indent :: .put value :: .text "\n" :: nodes)
      (Pieces.line indent first ++ rest) := by
  rw [Pieces.line, List.cons_append, List.append_assoc]
  exact text (putPieces known (text after))

theorem test_of_present (known : value.eval scope = some v) (present : v.truthy = true)
    (branch : Spells scope yes first) (after : Spells scope nodes rest) :
    Spells scope (.test value yes no :: nodes) (first ++ rest) := by
  rw [Spells, Pieces.spell_append]
  exact Writes.test_of_present known present branch after

theorem test_of_absent (known : value.eval scope = some v) (absent : v.truthy = false)
    (branch : Spells scope no first) (after : Spells scope nodes rest) :
    Spells scope (.test value yes no :: nodes) (first ++ rest) := by
  rw [Spells, Pieces.spell_append]
  exact Writes.test_of_absent known absent branch after

/-- A text in its place that may be missing elsewhere. -/
theorem putGiven {text : Option String} (known : value.eval scope = some (optionalText text))
    (there : text = some s) (after : Spells scope nodes rest) :
    Spells scope (.put value :: nodes) (⟨role, s⟩ :: rest) :=
  put (by rw [known, there]; rfl) after

/-- A text in its place, or another one if it is missing. -/
theorem putOr {text : Option String} {other : String}
    (known : value.eval scope = some (optionalText text)) (after : Spells scope nodes rest) :
    Spells scope (.put (.orText value other) :: nodes)
      (Pieces.given text (fun s => [⟨role, s⟩]) [⟨.fixed, other⟩] ++ rest) := by
  have chosen : (Expr.orText value other).eval scope =
      some (.str (spell (Pieces.given text (fun s => [⟨role, s⟩]) [⟨.fixed, other⟩]))) := by
    rw [Expr.eval, known, Option.map_some]
    cases text with
    | none => simp [optionalText, Json.orElse, Json.truthy, Pieces.given]
    | some s =>
      cases empty : s.isEmpty <;>
        simp [optionalText, Json.orElse, Json.truthy, Pieces.given, empty]
  exact putPieces chosen after

/-- A part that depends on whether a text is there. -/
theorem given {text : Option String} {words : String → Pieces} {otherwise : Pieces}
    (known : value.eval scope = some (optionalText text))
    (branch : ∀ s, text = some s → s.isEmpty = false → Spells scope yes (words s))
    (other : Spells scope no otherwise) (after : Spells scope nodes rest) :
    Spells scope (.test value yes no :: nodes) (Pieces.given text words otherwise ++ rest) := by
  cases text with
  | none => exact test_of_absent known rfl other after
  | some s =>
    cases empty : s.isEmpty with
    | true =>
      simp only [Pieces.given, empty, if_true]
      refine test_of_absent known ?_ other after
      simp [truthy_optionalText, empty]
    | false =>
      simp only [Pieces.given, empty, Bool.false_eq_true, if_false]
      refine test_of_present known ?_ (branch s rfl empty) after
      simp [truthy_optionalText, empty]

/-- A part that depends on whether a list has items. -/
theorem ifAny {α : Type} {items : List α} (item : α → Json) {some none : Pieces}
    (known : value.eval scope = .some (.arr (items.map item)))
    (any : Spells scope yes some) (empty : Spells scope no none) (after : Spells scope nodes rest) :
    Spells scope (.test value yes no :: nodes)
      ((if items.isEmpty then none else some) ++ rest) := by
  cases items with
  | nil => exact test_of_absent known rfl empty after
  | cons a others => exact test_of_present known rfl any after

/-- Once for each item of a list, with the item or its parts under names. -/
theorem each {α : Type} {items : List α} {names : List String} {body : List Node} (item : α → Json)
    (words : α → Pieces) (bound : α → Scope)
    (known : value.eval scope = some (.arr (items.map item)))
    (binds : ∀ a, Template.bind names (item a) = some (bound a))
    (lines : ∀ a ∈ items, Spells (bound a ++ scope) body (words a))
    (after : Spells scope nodes rest) :
    Spells scope (.each names value body :: nodes) (items.flatMap words ++ rest) := by
  rw [Spells, Pieces.spell_append, Pieces.spell_flatMap]
  exact Writes.each item (fun a => spell (words a)) bound known binds lines after

/-- Lines with their indentation. -/
theorem lines {indent : String} {words : List Pieces}
    (known : value.eval scope = some (.arr (words.map fun line => .str (spell line))))
    (after : Spells scope nodes rest) :
    Spells scope (.each ["line"] value [.text indent, .put (.name "line"), .text "\n"] :: nodes)
      (words.flatMap (Pieces.line indent) ++ rest) :=
  each _ (Pieces.line indent) _ known (fun _ => rfl) (fun _ _ => last (line rfl nil)) after

end Spells

/-- The text of a template whose pieces are known. -/
theorem render_of_spells {template : Template} {scope : Scope} {pieces : Pieces}
    (spelled : Spells scope template.nodes pieces) : template.render scope = .ok (spell pieces) :=
  render_of_writes spelled

end Template

end ServiceClient
