import ServiceClient.Wire.Convert
import ServiceClient.Xml.Element

/-!
Reading values out of elements. A member is `required` or `optional`, a list either wraps its items
in an element of its own or is `flattened` into the element around it, and a map is a list of
entries with a key and a value each.
-/

namespace ServiceClient.Xml

/-- Why elements do not hold a value. -/
inductive AccessError where
  /-- There is no element to hold a required member. -/
  | noBody (member : String)
  | noMember (tag member : String)
  | malformedEntry (tag : String)
  | noResult (wrapper : String)
  | mismatch (e : Mismatch)
  /-- A text where an element is called for. -/
  | notAnElement
  /-- A number where entries are called for. -/
  | notEntries
  deriving DecidableEq, Repr

def AccessError.message : AccessError → String
  | .noBody member => s!"Response has no body, <{member}> is required"
  | .noMember tag member => s!"<{tag}> has no required <{member}> element"
  | .malformedEntry tag => s!"Malformed map entry in <{tag}>"
  | .noResult wrapper => s!"Response has no <{wrapper}> element"
  | .mismatch _ | .notAnElement | .notEntries => ""

namespace Element

variable {α β : Type}

/-- The first child with a tag. -/
def find? (name : String) (e : Element) : Option Element :=
  e.children.find? fun child => child.tag == name

/-- The children with a tag. -/
def findAll (name : String) (e : Element) : List Element :=
  e.children.filter fun child => child.tag == name

/-- The element that holds an operation's output: the root, or the wrapper in it. -/
def result (root : Element) : Option String → Except AccessError Element
  | none => .ok root
  | some wrapper =>
    if root.tag = wrapper then .ok root
    else
      match root.find? wrapper with
      | some e => .ok e
      | none => .error (.noResult wrapper)

/-- A member that has to be there. -/
def required (node : Option Element) (name : String) (parse : Element → Except AccessError α) :
    Except AccessError α :=
  match node with
  | none => .error (.noBody name)
  | some e =>
    match e.find? name with
    | none => .error (.noMember e.tag name)
    | some child => parse child

/-- A member that may be absent. -/
def optional (node : Option Element) (name : String) (parse : Element → Except AccessError α) :
    Except AccessError (Option α) :=
  match node.bind (·.find? name) with
  | none => .ok none
  | some child => (parse child).map some

/-- The items of a list that stand directly in an element; absent if there is none. -/
def flattened (node : Option Element) (name : String) (parse : Element → Except AccessError α) :
    Except AccessError (Option (List α)) :=
  match node with
  | none => .ok none
  | some e =>
    let found := e.findAll name
    if found.isEmpty then .ok none else (found.mapM parse).map some

/-- A member that is the element itself. -/
def payload (node : Option Element) (parse : Element → Except AccessError α) :
    Except AccessError (Option α) :=
  match node with
  | none => .ok none
  | some e => (parse e).map some

/-- The items of a list that has an element of its own. -/
def items (e : Element) (name : String) (parse : Element → Except AccessError α) :
    Except AccessError (List α) :=
  (e.findAll name).mapM parse

/-- One entry of a map put into those before it; the value is read before the key. -/
def entry (tag : String) (parseKey parseValue : Element → Except AccessError Value)
    (done : List (Value × Value)) (e : Element) : Except AccessError (List (Value × Value)) :=
  match e.find? "key", e.find? "value" with
  | some key, some v => do
    let v ← parseValue v
    let key ← parseKey key
    (Value.insertKey key v done).mapError .mismatch
  | _, _ => .error (.malformedEntry tag)

/-- The entries of a map. -/
def entries (e : Element) (parseKey parseValue : Element → Except AccessError Value) :
    Except AccessError (List (Value × Value)) :=
  e.children.foldlM (entry e.tag parseKey parseValue) []

end Element

/-- How the value of an element, or of a header, is read. -/
inductive Parser where
  | text
  | integer
  | floating
  | boolean
  | blob
  | items (name : String) (item : Parser)
  | entries (key value : Parser)
  deriving DecidableEq, Repr, Inhabited

namespace Parser

/-- A number's text is trimmed first. -/
def number {α : Type} (make : α → Value) (read? : List Char → Option α) (s : String) :
    Except Mismatch Value :=
  match read? (Text.trimBoth Text.isBlank s.toList) with
  | some x => .ok (make x)
  | none => .error .numeral

/-- What a parser of containers makes of a number. -/
def ofNumber : Parser → AccessError
  | .entries _ _ => .notEntries
  | _ => .notAnElement

/-- The value of a text. A text has no items, and its characters are no entries. -/
def ofText (p : Parser) (s : String) : Except AccessError Value :=
  match p with
  | .text => .ok (.str s)
  | .integer => (number .int Numeral.readInt? s).mapError .mismatch
  | .floating => (number .float Numeral.readFloat? s).mapError .mismatch
  | .boolean => .ok (.bool (Value.isTrueText (Text.trim s)))
  | .blob => ((Base64.decode s).map Value.bytes).mapError fun e => .mismatch (.base64 e)
  | .items _ _ => .error .notAnElement
  | .entries _ v => if s.isEmpty then .ok (.map []) else .error v.ofNumber

/-- The value of an element. -/
def ofElement : Parser → Element → Except AccessError Value
  | .items name item, e => (e.items name item.ofElement).map .list
  | .entries key v, e => (e.entries key.ofElement v.ofElement).map .map
  | p, e => p.ofText (e.text.getD "")

end Parser

end ServiceClient.Xml
