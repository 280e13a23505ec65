import ServiceClient.Pairs
import ServiceClient.Wire.Scalar

/-!
XML elements and their written form. Tags and attributes are plain names; the text of an element is
what stands before its first child.
-/

namespace ServiceClient.Xml

/-- An element of a document. -/
inductive Element where
  | mk (tag : String) (attributes : List (String × String)) (text : Option String)
    (children : List Element)
  deriving Repr, Inhabited

namespace Element

def tag : Element → String
  | .mk tag _ _ _ => tag

def attributes : Element → List (String × String)
  | .mk _ attributes _ _ => attributes

def text : Element → Option String
  | .mk _ _ text _ => text

def children : Element → List Element
  | .mk _ _ _ children => children

end Element

/-- The markup for a character in text. -/
def escapeTextChar : Char → List Char
  | '&' => "&amp;".toList
  | '<' => "&lt;".toList
  | '>' => "&gt;".toList
  | c => [c]

/-- The markup for a character in an attribute. -/
def escapeAttributeChar : Char → List Char
  | '"' => "&quot;".toList
  | '\r' => "&#13;".toList
  | '\n' => "&#10;".toList
  | '\t' => "&#09;".toList
  | c => escapeTextChar c

def escapeText (s : String) : List Char := s.toList.flatMap escapeTextChar

def escapeAttribute (s : String) : List Char := s.toList.flatMap escapeAttributeChar

def writeAttributes (attributes : List (String × String)) : List Char :=
  attributes.flatMap fun (name, v) =>
    ' ' :: name.toList ++ '=' :: '"' :: escapeAttribute v ++ ['"']

namespace Element

mutual

/-- The markup of an element; one without text and children has no end tag. -/
def writeChars : Element → List Char
  | .mk tag attributes text children =>
    let opened := '<' :: tag.toList ++ writeAttributes attributes
    if (text.getD "").isEmpty && children.isEmpty then opened ++ " />".toList
    else
      opened ++ '>' :: escapeText (text.getD "") ++ writeAll children ++
        '<' :: '/' :: tag.toList ++ ['>']

def writeAll : List Element → List Char
  | [] => []
  | e :: rest => writeChars e ++ writeAll rest

end

def write (e : Element) : String := String.ofList e.writeChars

mutual

/-- The element and all within it, in the order of their tags in the document. -/
def inOrder : Element → List Element
  | .mk tag attributes text children =>
    .mk tag attributes text children :: allInOrder children

def allInOrder : List Element → List Element
  | [] => []
  | e :: rest => inOrder e ++ allInOrder rest

end

/-- The element at the end of a path of child numbers. -/
def at? (e : Element) : List Nat → Option Element
  | [] => some e
  | i :: path => (e.children[i]?).bind (·.at? path)

/-- Changes the element at the end of a path of child numbers. -/
def modify (change : Element → Element) : List Nat → Element → Element
  | [], e => change e
  | i :: path, .mk tag attributes text children =>
    .mk tag attributes text (children.modify i (modify change path))

/-- Sets an attribute: one that is there keeps its place. -/
def setAttribute (name v : String) (e : Element) : Element :=
  .mk e.tag (Pairs.insert name v e.attributes) e.text e.children

/-- An element without content, in a namespace if one is given. -/
def new (tag : String) (namespaceUri : Option String := none) : Element :=
  let uri := namespaceUri.getD ""
  .mk tag (if uri.isEmpty then [] else [("xmlns", uri)]) none []

/-- Puts a child after the others. -/
def addChild (child e : Element) : Element :=
  .mk e.tag e.attributes e.text (e.children ++ [child])

/-- Puts a child with a text after the others. -/
def addText (tag text : String) (e : Element) : Element :=
  addChild (.mk tag [] (some text) []) e

/-- Puts a child with the text of a scalar after the others of the element at the end of a path. A
missing value puts none, and a whole number of more digits than a text may give it has no text. -/
def appendScalar? (path : List Nat) (tag : String) (v : Value) (e : Element) : Option Element :=
  if v.isNull then some e
  else if v.writable then some (e.modify (addText tag v.scalarText) path)
  else none

end Element

end ServiceClient.Xml
