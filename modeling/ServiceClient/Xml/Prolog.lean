import ServiceClient.Xml.Token

/-!
What stands before the root of an XML document: the declaration, comments and processing
instructions, and a document type with the entities that it declares.
-/

namespace ServiceClient.Xml

/-- What the declaration of a document says about its encoding. -/
structure Declaration where
  encoding : Option String
  deriving DecidableEq, Repr

namespace Declaration

def isValueChar (c : Char) : Bool := c.isAlphanum || c == '.' || c == '_' || c == '-'

/-- The named values in a declaration; each has white space in front. -/
def values? (cs : List Char) : Option (List (String × List Char)) :=
  let inner := cs.dropWhile isSpace
  if inner.isEmpty then some []
  else if inner.length < cs.length then
    let isNameEnd := fun c => isSpace c || c == '='
    let name := inner.takeWhile (!isNameEnd ·)
    match (inner.dropWhile (!isNameEnd ·)).dropWhile isSpace with
    | '=' :: rest =>
      match Token.quoted? (rest.dropWhile isSpace) with
      | some (v, rest) =>
        if rest.length < cs.length then
          if !name.isEmpty && v.all isValueChar then
            (values? rest).map ((String.ofList name, v) :: ·)
          else none
        else none
      | none => none
    | _ => none
  else none
termination_by cs.length

/-- The names of encodings start with a letter. -/
def encoding? (v : List Char) : Option (Option String) :=
  if (v.head?.map Char.isAlpha).getD false then some (some (String.ofList v)) else none

def isStandalone (v : List Char) : Bool := v == "yes".toList || v == "no".toList

/-- The version comes first, then the encoding, then whether the document stands alone. -/
def ofValues? : List (String × List Char) → Option Declaration
  | [("version", _)] => some ⟨none⟩
  | [("version", _), ("encoding", e)] => (encoding? e).map (⟨·⟩)
  | [("version", _), ("standalone", s)] => if isStandalone s then some ⟨none⟩ else none
  | [("version", _), ("encoding", e), ("standalone", s)] =>
    if isStandalone s then (encoding? e).map (⟨·⟩) else none
  | _ => none

/-- What stands before the end of an instruction, and what follows it. -/
def body? : List Char → Option (List Char × List Char)
  | '?' :: '>' :: rest => some ([], rest)
  | c :: rest => (body? rest).map fun (cs, rest) => (c :: cs, rest)
  | [] => none

/-- The declaration at the start of a document, if there is one, and what follows it. -/
def read? (cs : List Char) : Option (Declaration × List Char) :=
  match cs with
  | '<' :: '?' :: 'x' :: 'm' :: 'l' :: rest =>
    if (rest.head?.map Token.isQualifiedChar).getD false then some (⟨none⟩, cs)
    else do
      let (body, rest) ← body? rest
      let declaration ← values? body >>= ofValues?
      return (declaration, rest)
  | _ => some (⟨none⟩, cs)

end Declaration

/-- The rest after white space, comments and processing instructions. -/
def skipMisc? (cs : List Char) : Option (List Char) :=
  let after := match cs with
    | '<' :: '!' :: '-' :: '-' :: rest => some (Token.afterComment? rest)
    | '<' :: '?' :: rest => some (Token.instruction? rest)
    | c :: rest => if isSpace c then some (some rest) else none
    | [] => none
  match after with
  | none => some cs
  | some none => none
  | some (some rest) => if rest.length < cs.length then skipMisc? rest else none
termination_by cs.length

namespace DocumentType

/-- Drops white space, of which there must be some. -/
def space? : List Char → Option (List Char)
  | c :: rest => if isSpace c then some (rest.dropWhile isSpace) else none
  | [] => none

def isPublicIdChar (c : Char) : Bool :=
  c.isAlphanum || " \r\n-'()+,./:=?;!*#@$_%".contains c

/-- The rest after the identifiers of an external part; there need not be any. -/
def externalId? (cs : List Char) : Option (List Char) :=
  match cs with
  | 'S' :: 'Y' :: 'S' :: 'T' :: 'E' :: 'M' :: rest => do
    let (_, rest) ← Token.quoted? (← space? rest)
    return rest
  | 'P' :: 'U' :: 'B' :: 'L' :: 'I' :: 'C' :: rest => do
    let (id, rest) ← Token.quoted? (← space? rest)
    guard (id.all isPublicIdChar)
    let (_, rest) ← Token.quoted? (← space? rest)
    return rest
  | cs => some cs

/-- The text that an entity stands for: references to characters are resolved, others are kept. -/
def entityText? (cs : List Char) : Option (List Char) :=
  match cs with
  | [] => some []
  | '%' :: _ => none
  | '&' :: rest =>
    match Token.reference? rest with
    | none => none
    | some (r, after) =>
      if after.length ≤ rest.length then
        let start := match r with
          | .char c => [c]
          | .entity name => '&' :: name.toList ++ [';']
        (entityText? after).map (start ++ ·)
      else none
  | c :: rest => (entityText? rest).map (c :: ·)
termination_by cs.length

/-- The rest after a declaration's end, which no quotes hold. -/
def afterDeclaration? (cs : List Char) : Option (List Char) :=
  match cs with
  | [] => none
  | '>' :: rest => some rest
  | c :: rest =>
    if c = '"' ∨ c = '\'' then
      match Text.cut c rest with
      | (_, some after) => if after.length ≤ rest.length then afterDeclaration? after else none
      | _ => none
    else if c = '<' then none
    else afterDeclaration? rest
termination_by cs.length

/-- An entity's declaration, from after its keyword on: the entity, if documents can refer to it,
and the rest. -/
def entity? (cs : List Char) : Option (Option (String × List Char) × List Char) := do
  let inner ← space? cs
  match inner with
  | '%' :: _ => return (none, ← afterDeclaration? inner)
  | _ =>
    let name := inner.takeWhile isNameChar
    guard (isPlainName name)
    let rest ← space? (inner.dropWhile isNameChar)
    match Token.quoted? rest with
    | some (v, rest) =>
      let text ← entityText? v
      match rest.dropWhile isSpace with
      | '>' :: rest => return (some (String.ofList name, text), rest)
      | _ => none
    | none => return (none, ← afterDeclaration? rest)

/-- The first piece of the declarations in brackets: the entity that it declares, if any, and the
rest. -/
def nextDeclaration? (cs : List Char) : Option (Option (String × List Char) × List Char) :=
  match cs with
  | '<' :: '!' :: '-' :: '-' :: rest => (Token.afterComment? rest).map (none, ·)
  | '<' :: '?' :: rest => (Token.instruction? rest).map (none, ·)
  | '<' :: '!' :: 'E' :: 'N' :: 'T' :: 'I' :: 'T' :: 'Y' :: rest => entity? rest
  | '<' :: '!' :: rest =>
    let keyword := String.ofList (rest.takeWhile Char.isAlpha)
    if ["ELEMENT", "ATTLIST", "NOTATION"].contains keyword then
      (afterDeclaration? rest).map (none, ·)
    else none
  | '%' :: rest =>
    match Text.cut ';' rest with
    | (name, some rest) => if isPlainName name then some (none, rest) else none
    | _ => none
  | c :: rest => if isSpace c then some (none, rest) else none
  | [] => none

/-- The entities declared in brackets, the first declaration of a name counting, and the rest after
the closing bracket. -/
def declarations? (entities : Entities) (cs : List Char) : Option (Entities × List Char) :=
  match cs with
  | ']' :: rest => some (entities, rest)
  | cs =>
    match nextDeclaration? cs with
    | none => none
    | some (entity, rest) =>
      if rest.length < cs.length then
        let entities := match entity with
          | some (name, text) =>
            if (entities.lookup name).isSome then entities else entities ++ [(name, text)]
          | none => entities
        declarations? entities rest
      else none
termination_by cs.length

/-- A document type from after its keyword on: the entities it declares, and the rest. -/
def read? (cs : List Char) : Option (Entities × List Char) := do
  let (_, rest) ← Token.name? (← space? cs)
  let inner := rest.dropWhile isSpace
  let rest ← if inner.length < rest.length then externalId? inner else some rest
  let (entities, rest) ← match rest.dropWhile isSpace with
    | '[' :: rest => declarations? [] rest
    | rest => some ([], rest)
  match rest.dropWhile isSpace with
  | '>' :: rest => return (entities, rest)
  | _ => none

end DocumentType

/-- The entities declared before the root, and the content from the root on. -/
def prolog? (cs : List Char) : Option (Entities × List Char) := do
  let rest ← skipMisc? cs
  match rest with
  | '<' :: '!' :: 'D' :: 'O' :: 'C' :: 'T' :: 'Y' :: 'P' :: 'E' :: rest => do
    let (entities, rest) ← DocumentType.read? rest
    return (entities, ← skipMisc? rest)
  | rest => return ([], rest)

end ServiceClient.Xml
