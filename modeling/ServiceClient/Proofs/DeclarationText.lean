import ServiceClient.Module.Declaration
import ServiceClient.Proofs.Piece

/-!
The texts of declarations, in pieces: which type a declaration binds, with which decorators and
fields, and which other types it names.
-/

namespace ServiceClient

open Pieces (spell given newline)
open Template (Spells Writes render_of_spells)

namespace Field

/-- The type of a field, which is optional unless a value is required. -/
def annotationPieces (field : Field) : Pieces :=
  if field.required then [⟨.use, field.type⟩] else ["_t.Optional[", ⟨.use, field.type⟩, "]"]

theorem annotation_eq (field : Field) : field.annotation = spell field.annotationPieces := by
  by_cases required : field.required = true <;>
    simp [ annotation, annotationPieces, required, String.append_assoc]

/-- The line of a field, with its documentation below. -/
def pieces (field : Field) : Pieces :=
  "    " :: ⟨.field, field.name⟩ :: ": " :: (field.annotationPieces ++
    (given field.default? (fun s => [" = ", ⟨.data, s⟩]) ++ newline ::
      given field.documentation fun s => ["    \"\"\"", ⟨.data, s⟩, "\"\"\"\n"]))

theorem spells (scope : Scope) (field : Field) :
    Spells (("field", Declaration.fieldScope field) :: scope) [
      .text "    ", .put (.field "field" "name"), .text ": ",
      .put (.field "field" "annotation"),
      .test (.field "field" "default")
        [.text " = ", .put (.field "field" "default")]
        [],
      .text "\n",
      .test (.field "field" "documentation")
        [.text "    \"\"\"", .put (.field "field" "documentation"), .text "\"\"\"\n"]
        []] field.pieces :=
  .text (.put rfl (.text (.putPieces (congrArg (some ∘ Json.str) field.annotation_eq)
    (.given rfl (fun _ there _ => .text (.putGiven rfl there .nil)) .nil (.text
      (.last (.given rfl (fun _ there _ => .text (.putGiven rfl there (.text .nil))) .nil .nil)))))))

end Field

namespace Target

def pieces : Target → Pieces
  | builtin name => [⟨.builtin, name⟩]
  | list element => ["_t.List[\"", ⟨.use, element⟩, "\"]"]
  | map key value => ["_t.Dict[\"", ⟨.use, key⟩, "\", \"", ⟨.use, value⟩, "\"]"]

theorem expression_eq (target : Target) : target.expression = spell target.pieces := by
  cases target <;> simp [expression, pieces, toString, String.append_assoc]

end Target

namespace Declaration

def markPieces (decorator : String) : Pieces := ["@", ⟨.mark, decorator⟩, "\n"]

/-- The fields of a record, apart from its documentation if there is one. -/
def fieldsPieces (documentation : Option String) (fields : List Field) : Pieces :=
  if fields.isEmpty then ["    pass\n"]
  else given documentation (fun _ => ["\n"]) ++ fields.flatMap Field.pieces

def pieces : Declaration → Pieces
  | record name decorators fields documentation =>
    decorators.flatMap markPieces ++ ("class " : Piece) :: ⟨.type, name⟩ :: ":\n" ::
      (given documentation (fun s => ["    \"\"\"", ⟨.data, s⟩, "\"\"\"\n"]) ++
        fieldsPieces documentation fields)
  | synonym name target comment documentation =>
    ⟨.type, name⟩ :: " = " :: (target.pieces ++
      (given comment (fun s => ["  # ", ⟨.data, s⟩]) ++ newline ::
        given documentation fun s => ["\"\"\"", ⟨.data, s⟩, "\"\"\"\n"]))

/-- Decorators stand one a line. -/
theorem intercalate_decorators (first : String) (rest : List String) :
    Text.intercalate "\n" ((first :: rest).map ("@" ++ ·)) ++ "\n" =
      spell ((first :: rest).flatMap markPieces) := by
  induction rest generalizing first with
  | nil => simp [Text.intercalate, markPieces, String.append_assoc]
  | cons second others ih =>
    rw [List.flatMap_cons, Pieces.spell_append, ← ih second]
    simp [Text.intercalate, markPieces, String.intercalate_cons_cons, String.append_assoc]

theorem spells_decorators {scope : Scope} {nodes : List Template.Node} {rest : Pieces}
    (decorators : List String) (known : scope.lookup "attributes" =
      some (.str (Text.intercalate "\n" (decorators.map ("@" ++ ·)))))
    (after : Spells scope nodes rest) :
    Spells scope (.test (.name "attributes") [.put (.name "attributes"), .text "\n"] [] :: nodes)
      (decorators.flatMap markPieces ++ rest) := by
  cases decorators with
  | nil => exact .test_of_absent known rfl .nil after
  | cons first others =>
    have written : Writes scope [.put (.name "attributes"), .text "\n"] _ := .put known (.text .nil)
    refine .test_of_present known ?_ (.of_writes written ?_) after
    · rw [List.map_cons, Text.intercalate]
      simp [Json.truthy]
    · rw [← intercalate_decorators, String.append_empty]
      rfl

/-- The text of a declaration is that of its pieces. -/
theorem render_eq (declaration : Declaration) :
    declaration.render = .ok (spell declaration.pieces) := by
  rcases declaration with ⟨name, decorators, fields, documentation⟩ |
    ⟨name, target, comment, documentation⟩
  · refine render_of_spells (spells_decorators decorators rfl (.text (.put rfl (.text ?_))))
    refine .given rfl (fun _ there _ => .text (.putGiven rfl there (.text .nil))) .nil
      (.last (.ifAny fieldScope rfl ?_ (.text .nil) .nil))
    refine .given rfl (fun _ _ _ => .text .nil) .nil (.last ?_)
    exact .each fieldScope Field.pieces _ rfl (fun _ => rfl) (fun field _ => Field.spells _ field)
      .nil
  · exact render_of_spells (.put rfl (.text (.putPieces
      (congrArg (some ∘ Json.str) target.expression_eq)
      (.given rfl (fun _ there _ => .text (.putGiven rfl there .nil)) .nil (.text
        (.last (.given rfl (fun _ there _ => .text (.putGiven rfl there (.text .nil))) .nil .nil)))))))

/-! ### What the words of declarations do -/

section Words

variable {keep : Role → Bool} {name : String} {decorators : List String} {fields : List Field}
  {target : Target} {comment documentation : Option String}

theorem wordsOf_field (drops : DropsText keep) (field : Field) :
    field.pieces.wordsOf keep =
      (if keep .field then [field.name] else []) ++ if keep .use then [field.type] else [] := by
  by_cases required : field.required = true <;> by_cases binds : keep .field = true <;>
    simp [Field.pieces, Field.annotationPieces, newline, required, binds, drops.fixed,
      drops.data]

theorem wordsOf_fields (fixed : keep .fixed = false) :
    (fieldsPieces documentation fields).wordsOf keep =
      fields.flatMap fun field => field.pieces.wordsOf keep := by
  cases fields <;> simp [fieldsPieces, fixed]

/-- A declaration binds its own name and no other outside records. -/
theorem wordsOf_pieces (only : KeepsNames keep) (declaration : Declaration) :
    declaration.pieces.wordsOf keep = if keep .type then [declaration.declared] else [] := by
  cases declaration with
  | record name decorators fields documentation =>
    by_cases binds : keep .type = true <;>
      simp [pieces, markPieces, declared, wordsOf_fields only.fixed,
        wordsOf_field only.toDropsText, binds, only.fixed, only.data, only.mark, only.field,
        only.use]
  | synonym name target comment documentation =>
    cases target <;>
      simp [pieces, Target.pieces, declared, newline, only.fixed, only.data, only.use, only.builtin]

/-- The decorators of a record. -/
theorem named_mark_record :
    (record name decorators fields documentation).pieces.named .mark = decorators := by
  have drops : DropsText (· == .mark) := ⟨rfl, rfl⟩
  simp [pieces, markPieces, wordsOf_fields, wordsOf_field drops]

theorem named_mark_synonym : (synonym name target comment documentation).pieces.named .mark = [] := by
  cases target <;> simp [pieces, Target.pieces, newline]

/-- The fields of a record. -/
theorem named_field_record :
    (record name decorators fields documentation).pieces.named .field = fields.map (·.name) := by
  have drops : DropsText (· == .field) := ⟨rfl, rfl⟩
  simp [pieces, markPieces, wordsOf_fields, wordsOf_field drops, List.map_eq_flatMap]

/-- The types that a declaration names. -/
def types : Declaration → List String
  | record _ _ fields _ => fields.map (·.type)
  | synonym _ (.list element) _ _ => [element]
  | synonym _ (.map key value) _ _ => [key, value]
  | synonym _ (.builtin _) _ _ => []

theorem named_use (declaration : Declaration) : declaration.pieces.named .use = declaration.types := by
  have drops : DropsText (· == .use) := ⟨rfl, rfl⟩
  cases declaration with
  | record name decorators fields documentation =>
    simp [pieces, types, markPieces, wordsOf_fields, wordsOf_field drops, List.map_eq_flatMap]
  | synonym name target comment documentation =>
    cases target <;> simp [pieces, types, Target.pieces, newline]

theorem named_builtin_record :
    (record name decorators fields documentation).pieces.named .builtin = [] := by
  have drops : DropsText (· == .builtin) := ⟨rfl, rfl⟩
  simp [pieces, markPieces, wordsOf_fields, wordsOf_field drops]

theorem named_builtin_synonym : (synonym name target comment documentation).pieces.named .builtin =
    match target with
    | .builtin type => [type]
    | _ => [] := by
  cases target <;> simp [pieces, Target.pieces, newline]

end Words

end Declaration

end ServiceClient
