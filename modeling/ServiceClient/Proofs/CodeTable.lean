import ServiceClient.Module.ErrorClass
import ServiceClient.Proofs.LiteralText
import ServiceClient.Proofs.Outcome

/-!
The error classes of a module end in a table from codes to classes. Each exception shape has a line
there, whose literal is read as the code of the shape, be there quotes or backslashes in it.
-/

namespace ServiceClient

theorem Json.display_str (s : String) : (Json.str s).display = s := rfl

namespace Template

theorem renderAll_append (scope : Scope) (first others : List Node) :
    renderAll scope (first ++ others) =
      (renderAll scope first).bind fun s => (renderAll scope others).map (s ++ ·) := by
  induction first with
  | nil => simp [renderAll]
  | cons node rest ih =>
    rw [List.cons_append, renderAll, renderAll, ih]
    cases node.render scope with
    | none => rfl
    | some s =>
      cases renderAll scope rest with
      | none => rfl
      | some more => cases renderAll scope others <;> simp [String.append_assoc]

theorem render_text (scope : Scope) (text : String) : (Node.text text).render scope = some text := by
  rw [Node.render]

theorem render_put (scope : Scope) (value : Expr) :
    (Node.put value).render scope = (value.eval scope).map Json.display := by
  rw [Node.render]

/-- Only a text can be changed before it is put in its place. -/
theorem text_of_eval_filtered {scope : Scope} {value : Expr} {filter : Filter} {result : Json}
    (done : (Expr.filtered value filter).eval scope = some result) :
    ∃ s, value.eval scope = some (.str s) ∧ result = .str (filter.apply s) := by
  rw [Expr.eval] at done
  split at done
  · rename_i s found
    exact ⟨s, found, (Option.some.inj done).symm⟩
  · cases done

/-- What is written for one element of a list. -/
def renderItem (names : List String) (body : List Node) (scope : Scope) (item : Json) : Option String :=
  match bind names item with
  | none => none
  | some bound => renderAll (bound ++ scope) body

theorem render_each {scope : Scope} {source : Expr} {items : List Json}
    (isList : source.eval scope = some (.arr items)) (names : List String) (body : List Node) :
    (Node.each names source body).render scope =
      (items.mapM (renderItem names body scope)).map String.join := by
  rw [Node.render, isList]
  rfl

end Template

/-- The line of the table of codes for an error class. -/
def ErrorClass.codeLine (error : ErrorClass) (code : String) : String :=
  "    \"" ++ Text.Literal.escape code ++ "\": " ++ error.name ++ ",\n"

/-- The table from codes to error classes with these lines. -/
def codeTable (base : String) (lines : List String) : String :=
  "ERROR_CODES: _t.Dict[str, _t.Type[" ++ base ++ "]] = \x7b\n" ++ String.join lines ++ "\x7d\n"

/-- An error class as a template sees it. -/
def ErrorClass.item (error : ErrorClass) : Json :=
  .obj [("name", .str error.name), ("code", error.code),
    ("documentation", optionalText error.documentation)]

/-- Lines of the table for classes, whose codes are texts. -/
def TableLines (classes : List ErrorClass) (lines : List String) : Prop :=
  List.Forall₂ (fun error line => ∃ code, error.code = .str code ∧ line = error.codeLine code)
    classes lines

namespace Template

/-- What a template writes for a line of the table. -/
def lineNodes : List Node := [
  .text "    \"", .put (.filtered (.field "error" "code") .doc), .text "\": ",
  .put (.field "error" "name"), .text ",\n"]

/-- What a template writes for the table. -/
def tableNodes : List Node := [
  .text "ERROR_CODES: _t.Dict[str, _t.Type[", .put (.name "base"), .text "]] = \x7b\n",
  .each ["error"] (.name "errors") lineNodes,
  .text "\x7d\n"]

theorem errors_nodes : ∃ first, errors.nodes = first ++ tableNodes :=
  ⟨errors.nodes.dropLast.dropLast.dropLast.dropLast.dropLast, rfl⟩

theorem codeLine_of_render {scope : Scope} {error : ErrorClass} {line : String}
    (rendered : renderAll (("error", error.item) :: scope) lineNodes = some line) :
    ∃ code, error.code = .str code ∧ line = error.codeLine code := by
  have isName : Expr.eval (("error", error.item) :: scope) (.field "error" "name") =
      some (.str error.name) := rfl
  simp only [lineNodes, renderAll, render_text, render_put, isName] at rendered
  cases escaped : Expr.eval (("error", error.item) :: scope)
      (.filtered (.field "error" "code") .doc) with
  | none => simp [escaped] at rendered
  | some result =>
    obtain ⟨code, found, rfl⟩ := text_of_eval_filtered escaped
    have isCode : error.code = .str code := Option.some.inj found
    refine ⟨code, isCode, ?_⟩
    simp only [escaped, Filter.apply, Option.map_some, Option.some.injEq, Json.display_str] at rendered
    rw [← rendered]
    simp only [ErrorClass.codeLine, String.append_assoc, String.append_empty]

theorem tableLines_of_render {scope : Scope} {classes : List ErrorClass} {lines : List String}
    (rendered : (classes.map ErrorClass.item).mapM (renderItem ["error"] lineNodes scope) = some lines) :
    TableLines classes lines := by
  induction classes generalizing lines with
  | nil =>
    obtain rfl := Option.some.inj rendered
    exact .nil
  | cons error rest ih =>
    rw [List.map_cons, List.mapM_cons] at rendered
    obtain ⟨line, first, others⟩ := Option.bind_eq_some_iff.mp rendered
    obtain ⟨more, later, same⟩ := Option.bind_eq_some_iff.mp others
    obtain rfl := Option.some.inj same
    exact .cons (codeLine_of_render first) (ih later)

theorem codeTable_of_render {scope : Scope} {classes : List ErrorClass} {base text : String}
    (rendered : renderAll scope tableNodes = some text) (isBase : scope.lookup "base" = some (.str base))
    (isErrors : scope.lookup "errors" = some (.arr (classes.map ErrorClass.item))) :
    ∃ lines, text = codeTable base lines ∧ TableLines classes lines := by
  have isList : (Expr.name "errors").eval scope = some (.arr (classes.map ErrorClass.item)) := isErrors
  have isText : (Expr.name "base").eval scope = some (.str base) := isBase
  simp only [tableNodes, renderAll, render_each isList, render_text, render_put, isText,
    Option.map_some] at rendered
  cases made : (classes.map ErrorClass.item).mapM (renderItem ["error"] lineNodes scope) with
  | none => simp [made] at rendered
  | some lines =>
    refine ⟨lines, ?_, tableLines_of_render made⟩
    simp only [made, Option.map_some] at rendered
    have same := Option.some.inj rendered
    rw [Json.display_str] at same
    apply same.symm.trans
    unfold codeTable
    simp only [String.append_assoc]
    rfl

end Template

theorem TableLines.exists_line {classes : List ErrorClass} {lines : List String}
    (all : TableLines classes lines) {error : ErrorClass} (listed : error ∈ classes) :
    ∃ code, error.code = .str code ∧ error.codeLine code ∈ lines := by
  induction all with
  | nil => cases listed
  | cons first _ ih =>
    rcases List.mem_cons.mp listed with rfl | later
    · obtain ⟨code, isCode, rfl⟩ := first
      exact ⟨code, isCode, List.mem_cons_self⟩
    · obtain ⟨code, isCode, inside⟩ := ih later
      exact ⟨code, isCode, List.mem_cons_of_mem _ inside⟩

/-- The literal of a line ends where the name of the class follows, and is read as the code. -/
theorem ErrorClass.first?_codeLine (error : ErrorClass) (code : String) :
    Text.Literal.first? (error.codeLine code) =
      some (code.toList, (": " ++ error.name ++ ",\n").toList) := by
  have parts : (error.codeLine code).toList = "    ".toList ++ '"' ::
      ((Text.Literal.escape code).toList ++ '"' :: (": " ++ error.name ++ ",\n").toList) := by
    simp [codeLine]
  have blank : ∀ c ∈ "    ".toList, (c != '"') = true := by simp
  rw [Text.Literal.first?, parts, List.dropWhile_append_of_pos blank]
  exact Text.Literal.scan_escape Nat.one_pos code _

/-- Whether the text of the error classes ends in a table in which the literal of a line is read as
`code`, with the class `name` after it. -/
def MapsCode (text code name : String) : Prop :=
  ∃ before base lines line, text = before ++ codeTable base lines ∧ line ∈ lines ∧
    Text.Literal.first? line = some (code.toList, (": " ++ name ++ ",\n").toList)

namespace Service

variable {service : Service} {settings : Settings} {classes : List ErrorClass}

/-- The section of the error classes ends in the table from their codes to them. -/
theorem codeTable_of_errorSection {family : ErrorFamily} {text : String}
    (rendered : service.errorSection family settings = .ok text) :
    ∃ classes before base lines, service.errorClasses settings = .ok classes ∧
      text = before ++ codeTable base lines ∧ TableLines classes lines := by
  simp only [errorSection, Except.bind_eq_ok_iff] at rendered
  obtain ⟨client, -, base, -, classes, made, rendered⟩ := rendered
  unfold Template.render at rendered
  split at rendered
  case h_2 => cases rendered
  case h_1 result whole =>
    obtain rfl := Except.ok.inj rendered
    obtain ⟨first, nodes⟩ := Template.errors_nodes
    rw [nodes, Template.renderAll_append] at whole
    obtain ⟨before, -, rest⟩ := Option.bind_eq_some_iff.mp whole
    obtain ⟨table, ends, rfl⟩ := Option.map_eq_some_iff.mp rest
    obtain ⟨lines, rfl, all⟩ := Template.codeTable_of_render ends rfl rfl
    exact ⟨_, before, base, lines, made, rfl, all⟩

theorem code_of_errorClasses (made : service.errorClasses settings = .ok classes) {shape : Shape}
    (listed : shape ∈ service.exceptions) :
    ∃ error ∈ classes, error.name = Naming.errorClassName shape.name ∧ error.code = shape.code := by
  obtain ⟨error, inside, done⟩ := Except.result_mem_of_mapM_eq_ok made listed
  simp only [Except.bind_eq_ok_iff, Except.pure_eq_ok_iff] at done
  obtain ⟨_, -, rfl⟩ := done
  exact ⟨_, inside, rfl, rfl⟩

/-- The table of a module maps the code of each exception shape to the class of the shape. -/
theorem mapsCode_of_errorSection {family : ErrorFamily} {text code : String} {shape : Shape}
    (rendered : service.errorSection family settings = .ok text) (listed : shape ∈ service.exceptions)
    (isCode : shape.code = .str code) : MapsCode text code (Naming.errorClassName shape.name) := by
  obtain ⟨classes, before, base, lines, made, isText, all⟩ := codeTable_of_errorSection rendered
  obtain ⟨error, inside, isName, isWire⟩ := code_of_errorClasses made listed
  obtain ⟨wire, isText', hasLine⟩ := all.exists_line inside
  obtain rfl : wire = code := by
    apply Json.str.inj
    rw [← isText', ← isCode, isWire]
  refine ⟨before, base, lines, error.codeLine wire, isText, hasLine, ?_⟩
  rw [← isName]
  exact error.first?_codeLine wire

end Service

end ServiceClient
