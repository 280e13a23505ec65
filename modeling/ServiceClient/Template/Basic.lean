import ServiceClient.Naming
import ServiceClient.Service.Reader

/-!
Templates for the sections of a generated module. A template is text with places for values, tests
on values and repetitions over lists. Whatever it uses has to be in its scope: a name that a branch
reaches and that is not there is a fault of the whole template.
-/

namespace ServiceClient

/-- The names that a template sees, the nearest first. -/
abbrev Scope := List (String × Json)

/-- A text that may be missing, as a value in a scope. -/
def optionalText (text : Option String) : Json :=
  match text with
  | some text => .str text
  | none => .null

namespace Template

/-- What can be done to a text before it is put in its place. -/
inductive Filter where
  /-- Escape it for a literal. -/
  | doc
  /-- Make a snake case name of it. -/
  | snakeCase
  deriving DecidableEq, Repr

def Filter.apply : Filter → String → String
  | .doc, s => Text.Literal.escape s
  | .snakeCase, s => Naming.snakeCase s

/-- A value in a template. -/
inductive Expr where
  | name (x : String)
  | field (x part : String)
  /-- The value, or a text if it counts as absent. -/
  | orText (value : Expr) (text : String)
  | filtered (value : Expr) (filter : Filter)
  /-- Whether the value is the text. -/
  | isText (value : Expr) (text : String)
  deriving DecidableEq, Repr

/-- The value in a scope; none if something that it needs is not there. -/
def Expr.eval (scope : Scope) : Expr → Option Json
  | .name x => scope.lookup x
  | .field x part => scope.lookup x >>= Json.get? part
  | .orText value text => (value.eval scope).map fun v => v.orElse (.str text)
  | .filtered value filter =>
    match value.eval scope with
    | some (.str s) => some (.str (filter.apply s))
    | _ => none
  | .isText value text => (value.eval scope).map fun v => .bool (v == .str text)

/-- A piece of a template. -/
inductive Node where
  | text (text : String)
  | put (value : Expr)
  | test (value : Expr) (yes no : List Node)
  /-- Once for each element; an element has as many parts as there are names. -/
  | each (names : List String) (source : Expr) (body : List Node)

/-- Names for an element: one name takes it whole, more names take its parts. -/
def bind (names : List String) (item : Json) : Option Scope :=
  match names with
  | [name] => some [(name, item)]
  | names =>
    match item.elements with
    | .ok parts => if parts.length = names.length then some (names.zip parts) else none
    | .error _ => none

mutual

def Node.render (scope : Scope) : Node → Option String
  | .text text => some text
  | .put value => (value.eval scope).map Json.display
  | .test value yes no =>
    match value.eval scope with
    | none => none
    | some v => if v.truthy then renderAll scope yes else renderAll scope no
  | .each names source body =>
    match source.eval scope with
    | none => none
    | some v =>
      match v.elements with
      | .error _ => none
      | .ok items =>
        (items.mapM fun item =>
          match bind names item with
          | none => none
          | some bound => renderAll (bound ++ scope) body).map String.join

/-- The pieces one after the other. -/
def renderAll (scope : Scope) : List Node → Option String
  | [] => some ""
  | node :: rest =>
    match node.render scope with
    | none => none
    | some s => (renderAll scope rest).map (s ++ ·)

end

end Template

/-- A named template. -/
structure Template where
  name : String
  nodes : List Template.Node

/-- The text of a template in a scope. -/
def Template.render (template : Template) (scope : Scope) : Except Fault String :=
  match Template.renderAll scope template.nodes with
  | some text => .ok text
  | none => .error (.template template.name)

end ServiceClient
