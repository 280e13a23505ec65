import ServiceClient.Text.Hex
import ServiceClient.Text.Split
import ServiceClient.Xml.Character

/-!
The tokens of an XML document's content: tags, text and references to entities. Comments and
processing instructions leave no token.
-/

namespace ServiceClient.Xml

/-- A piece of content. The values of attributes are as they are written. -/
inductive Token where
  | openTag (name : String) (attributes : List (String × List Char))
  | closeTag (name : String)
  /-- Text as it is written. -/
  | text (cs : List Char)
  /-- Text from a reference or a literal section, which only an element may hold. -/
  | data (cs : List Char)
  | entity (name : String)
  deriving DecidableEq, Repr

/-- What a reference refers to. -/
inductive Reference where
  | char (c : Char)
  | entity (name : String)
  deriving DecidableEq, Repr

namespace Token

/-- The number of digits in a base. -/
def digitsValue (base : Nat) (ds : List Char) : Nat :=
  ds.foldl (fun n d => n * base + (Text.hexValue? d).getD 0) 0

/-- The character with a number, if a document may hold it. -/
def charOf? (n : Nat) : Option Char :=
  if n.isValidChar && isDocumentChar (Char.ofNat n) then some (Char.ofNat n) else none

/-- What stands between `&` and `;`. -/
def referenceOf? (body : List Char) : Option Reference :=
  match body with
  | '#' :: 'x' :: ds =>
    if !ds.isEmpty && ds.all fun d => (Text.hexValue? d).isSome then
      (charOf? (digitsValue 16 ds)).map .char
    else none
  | '#' :: ds =>
    if !ds.isEmpty && ds.all Char.isDigit then (charOf? (digitsValue 10 ds)).map .char else none
  | name => if isPlainName name then some (.entity (String.ofList name)) else none

/-- A reference from after its `&` on. -/
def reference? (cs : List Char) : Option (Reference × List Char) :=
  match Text.cut ';' cs with
  | (body, some rest) => (referenceOf? body).map (·, rest)
  | _ => none

/-- The rest after a comment, from after `<!--` on; two hyphens only end it. -/
def afterComment? : List Char → Option (List Char)
  | '-' :: '-' :: rest =>
    match rest with
    | '>' :: rest => some rest
    | _ => none
  | _ :: rest => afterComment? rest
  | [] => none

/-- The rest after a processing instruction's end. -/
def afterInstruction? : List Char → Option (List Char)
  | '?' :: '>' :: rest => some rest
  | _ :: rest => afterInstruction? rest
  | [] => none

/-- The rest after a processing instruction, from after `<?` on. -/
def instruction? (cs : List Char) : Option (List Char) :=
  let target := cs.takeWhile isNameChar
  let rest := cs.dropWhile isNameChar
  if isPlainName target && target.map Char.toLower != ['x', 'm', 'l'] then
    match rest with
    | '?' :: '>' :: rest => some rest
    | c :: rest => if isSpace c then afterInstruction? rest else none
    | [] => none
  else none

/-- The text of a literal section, from after its start on, and the rest. -/
def section? : List Char → Option (List Char × List Char)
  | ']' :: ']' :: '>' :: rest => some ([], rest)
  | c :: rest => (section? rest).map fun (cs, rest) => (c :: cs, rest)
  | [] => none

def isQualifiedChar (c : Char) : Bool := c == ':' || isNameChar c

/-- Whether a text is a name with at most one prefix. -/
def isQualifiedName (cs : List Char) : Bool :=
  let parts := Text.splitOn ':' cs
  parts.length ≤ 2 && parts.all isPlainName

/-- A name and what follows it. -/
def name? (cs : List Char) : Option (String × List Char) :=
  let name := cs.takeWhile isQualifiedChar
  if isQualifiedName name then some (String.ofList name, cs.dropWhile isQualifiedChar) else none

/-- A text in quotes of either kind, and what follows it. -/
def quoted? : List Char → Option (List Char × List Char)
  | q :: rest =>
    if q = '"' ∨ q = '\'' then
      match Text.cut q rest with
      | (body, some rest) => some (body, rest)
      | _ => none
    else none
  | [] => none

/-- An attribute and what follows it. -/
def attribute? (cs : List Char) : Option ((String × List Char) × List Char) := do
  let (name, rest) ← name? cs
  match rest.dropWhile isSpace with
  | '=' :: rest =>
    let (v, rest) ← quoted? (rest.dropWhile isSpace)
    return ((name, v), rest)
  | _ => none

/-- The attributes of a tag up to its end, whether the end closes the element, and what follows. -/
def attributes? (cs : List Char) : Option (List (String × List Char) × Bool × List Char) :=
  let inner := cs.dropWhile isSpace
  match inner with
  | '>' :: rest => some ([], false, rest)
  | '/' :: '>' :: rest => some ([], true, rest)
  | _ =>
    if inner.length < cs.length then
      match attribute? inner with
      | some (a, rest) =>
        if rest.length < cs.length then
          (attributes? rest).map fun (as, closed, rest) => (a :: as, closed, rest)
        else none
      | none => none
    else none
termination_by cs.length

/-- Whether text holds the end mark of a literal section. -/
def hasSectionEnd : List Char → Bool
  | ']' :: ']' :: '>' :: _ => true
  | _ :: rest => hasSectionEnd rest
  | [] => false

/-- Text goes on up to the next markup. -/
def isTextChar (c : Char) : Bool := c != '<' && c != '&'

/-- The tokens of the first piece of content, and the rest. -/
def next? (cs : List Char) : Option (List Token × List Char) :=
  match cs with
  | '<' :: '/' :: rest =>
    let name := rest.takeWhile isQualifiedChar
    match (rest.dropWhile isQualifiedChar).dropWhile isSpace with
    | '>' :: rest => some ([.closeTag (String.ofList name)], rest)
    | _ => none
  | '<' :: '!' :: '-' :: '-' :: rest => (afterComment? rest).map ([], ·)
  | '<' :: '!' :: '[' :: 'C' :: 'D' :: 'A' :: 'T' :: 'A' :: '[' :: rest =>
    (section? rest).map fun (cs, rest) => ([.data cs], rest)
  | '<' :: '?' :: rest => (instruction? rest).map ([], ·)
  | '<' :: rest => do
    let (name, rest) ← name? rest
    let (attributes, closed, rest) ← attributes? rest
    let opened := Token.openTag name attributes
    return (if closed then [opened, .closeTag name] else [opened], rest)
  | '&' :: rest =>
    match reference? rest with
    | some (.char c, rest) => some ([.data [c]], rest)
    | some (.entity name, rest) => some ([.entity name], rest)
    | none => none
  | cs =>
    let run := cs.takeWhile isTextChar
    if hasSectionEnd run then none else some ([.text run], cs.dropWhile isTextChar)

/-- The tokens of content. -/
def ofContent (cs : List Char) : Option (List Token) :=
  if cs.isEmpty then some []
  else
    match next? cs with
    | some (ts, rest) => if rest.length < cs.length then (ofContent rest).map (ts ++ ·) else none
    | none => none
termination_by cs.length

/-- The entities that need no declaration. -/
def predefined? : String → Option Char
  | "lt" => some '<'
  | "gt" => some '>'
  | "amp" => some '&'
  | "quot" => some '"'
  | "apos" => some '\''
  | _ => none

end Token

/-- Declared entities and the text that each stands for. -/
abbrev Entities := List (String × List Char)

namespace Token

/-- Whether tags close what they open. -/
def isBalanced (ts : List Token) : Bool :=
  go 0 ts
where
  go : Nat → List Token → Bool
    | depth, [] => depth == 0
    | depth, .openTag _ _ :: rest => go (depth + 1) rest
    | 0, .closeTag _ :: _ => false
    | depth + 1, .closeTag _ :: rest => go depth rest
    | depth, _ :: rest => go depth rest

/-- The text of an attribute's value: white space is spaces, references are resolved through at most
`depth` entities. -/
def attributeText? (depth : Nat) (entities : Entities) (cs : List Char) : Option (List Char) :=
  match cs with
  | [] => some []
  | '<' :: _ => none
  | '&' :: rest =>
    match reference? rest with
    | none => none
    | some (r, after) =>
      if after.length ≤ rest.length then do
        let start ← match r with
          | .char c => some [c]
          | .entity name =>
            match predefined? name, depth with
            | some c, _ => some [c]
            | none, 0 => none
            | none, depth + 1 =>
              (entities.lookup name).bind
                (attributeText? depth (entities.filter (·.1 != name)))
        return start ++ (← attributeText? depth entities after)
      else none
  | c :: rest => (attributeText? depth entities rest).map ((if isSpace c then ' ' else c) :: ·)
termination_by (depth, cs.length)

/-- A token without references, going through at most `depth` entities. An entity closes what it
opens, and it cannot be used within itself. -/
def expandOne? (depth : Nat) (entities : Entities) (t : Token) : Option (List Token) :=
  match t with
  | .openTag name attributes => do
    let attributes ← attributes.mapM fun (n, v) => (attributeText? depth entities v).map (n, ·)
    return [.openTag name attributes]
  | .entity name =>
    match predefined? name, depth with
    | some c, _ => some [.data [c]]
    | none, 0 => none
    | none, depth + 1 => do
      let body ← entities.lookup name
      let inner ← ofContent body
      if isBalanced inner then
        let parts ← inner.mapM (expandOne? depth (entities.filter (·.1 != name)))
        return parts.flatten.map fun
          | .text cs => .data cs
          | t => t
      else none
  | t => some [t]
termination_by depth

/-- Tokens without references. -/
def expand? (entities : Entities) (ts : List Token) : Option (List Token) :=
  (ts.mapM (expandOne? entities.length entities)).map List.flatten

end Token

end ServiceClient.Xml
