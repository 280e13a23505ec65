import ServiceClient.Xml.Element
import ServiceClient.Xml.Token

/-!
Building elements from tokens. Prefixes have to be declared. The names of elements lose theirs or, like
those of attributes, have the namespace in braces instead.
-/

namespace ServiceClient.Xml

/-- The namespaces that prefixes stand for, innermost first; the default one has no prefix. -/
abbrev Scope := List (String × String)

/-- The host that the reserved namespaces are named after. -/
def reservedHost : String := "www.w3.org"

/-- The namespace of the prefix `xml`. -/
def xmlNamespace : String := s!"http://{reservedHost}/XML/1998/namespace"

/-- The namespace of the attributes that declare namespaces. -/
def declarationNamespace : String := s!"http://{reservedHost}/2000/xmlns/"

/-- The prefix that needs no declaration. -/
def Scope.initial : Scope := [("xml", xmlNamespace)]

/-- A name in two parts; the prefix is empty if there is none. -/
def splitName (name : String) : String × String :=
  match Text.cutString ':' name with
  | (start, some rest) => (start, rest)
  | (name, none) => ("", name)

/-- The prefix that an attribute declares; the default namespace has the empty one. -/
def declared? (name : String) : Option String :=
  match splitName name with
  | ("xmlns", p) => some p
  | ("", "xmlns") => some ""
  | _ => none

/-- Whether a prefix may stand for a namespace. -/
def mayDeclare (p uri : String) : Bool :=
  !(uri.isEmpty && !p.isEmpty) && p != "xmlns" && ((p == "xml") == (uri == xmlNamespace)) &&
    uri != declarationNamespace && !uri.contains '}'

/-- The scope within a tag. -/
def Scope.enter? (scope : Scope) (attributes : List (String × String)) : Option Scope :=
  attributes.foldlM (fun scope (name, uri) =>
    match declared? name with
    | some p => if mayDeclare p uri then some ((p, uri) :: scope) else none
    | none => some scope) scope

/-- The local part of an element's name, if its prefix is declared. -/
def Scope.localName? (scope : Scope) (name : String) : Option String :=
  match splitName name with
  | ("", name) => some name
  | (p, name) => if (scope.lookup p).isSome then some name else none

/-- A name with its namespace in braces. -/
def inNamespace (uri name : String) : String := "\x7b" ++ uri ++ "\x7d" ++ name

/-- The full name of an attribute, if its prefix is declared. -/
def Scope.attributeName? (scope : Scope) (name : String) : Option String :=
  match splitName name with
  | ("", name) => some name
  | (p, name) => (scope.lookup p).map (inNamespace · name)

/-- The full name of an element, if its prefix is declared; one without a prefix is in the default
namespace, if there is any. -/
def Scope.elementName? (scope : Scope) (name : String) : Option String :=
  match splitName name with
  | ("", name) =>
    let uri := (scope.lookup "").getD ""
    some (if uri.isEmpty then name else inNamespace uri name)
  | (p, name) => (scope.lookup p).map (inNamespace · name)

/-- How the name of an element becomes its tag in a scope. -/
abbrev Tagging := Scope → String → Option String

/-- The attributes of an element without those that declare namespaces. -/
def Scope.attributes? (scope : Scope) (attributes : List (String × String)) :
    Option (List (String × String)) :=
  (attributes.filter fun (name, _) => (declared? name).isNone).mapM fun (name, v) =>
    (scope.attributeName? name).map (·, v)

/-- An element whose end tag is still to come. -/
structure OpenElement where
  /-- The name as it is written. -/
  name : String
  scope : Scope
  tag : String
  attributes : List (String × String)
  text : Option String := none
  /-- The children so far, last first. -/
  children : List Element := []

namespace OpenElement

def close (e : OpenElement) : Element := .mk e.tag e.attributes e.text e.children.reverse

/-- Text before the first child is the element's; text after it is dropped. -/
def addText (cs : List Char) (e : OpenElement) : OpenElement :=
  if cs.isEmpty || !e.children.isEmpty then e
  else { e with text := some (e.text.getD "" ++ String.ofList cs) }

def addChild (child : Element) (e : OpenElement) : OpenElement :=
  { e with children := child :: e.children }

end OpenElement

/-- A document that is read in part: the open elements, innermost first, and the root once it is
closed. -/
structure Building where
  stack : List OpenElement := []
  root : Option Element := none

namespace Building

def open? (b : Building) (name : String) (attributes : List (String × List Char))
    (tagOf : Tagging := Scope.localName?) : Option Building := do
  guard (b.root.isNone && (attributes.map (·.1)).Nodup)
  let attributes := attributes.map fun (n, v) => (n, String.ofList v)
  let outer := (b.stack.head?.map (·.scope)).getD Scope.initial
  let scope ← outer.enter? attributes
  let tag ← tagOf scope name
  let attributes ← scope.attributes? attributes
  guard (attributes.map (·.1)).Nodup
  return { b with stack := { name, scope, tag, attributes } :: b.stack }

def close? (b : Building) (name : String) : Option Building :=
  match b.stack with
  | [] => none
  | e :: rest =>
    if e.name = name then
      match rest with
      | [] => some { stack := [], root := some e.close }
      | outer :: rest => some { b with stack := outer.addChild e.close :: rest }
    else none

/-- Text around the root is white space. -/
def text? (b : Building) (cs : List Char) : Option Building :=
  match b.stack with
  | [] => if cs.all isSpace then some b else none
  | e :: rest => some { b with stack := e.addText cs :: rest }

def data? (b : Building) (cs : List Char) : Option Building :=
  match b.stack with
  | [] => none
  | e :: rest => some { b with stack := e.addText cs :: rest }

def step? (b : Building) (t : Token) (tagOf : Tagging := Scope.localName?) : Option Building :=
  match t with
  | .openTag name attributes => b.open? name attributes tagOf
  | .closeTag name => b.close? name
  | .text cs => b.text? cs
  | .data cs => b.data? cs
  | .entity _ => none

end Building

/-- The root element of the tokens of a document. -/
def Element.ofTokens? (ts : List Token) (tagOf : Tagging := Scope.localName?) : Option Element := do
  let b ← ts.foldlM (fun (b : Building) t => b.step? t tagOf) {}
  guard b.stack.isEmpty
  b.root

end ServiceClient.Xml
