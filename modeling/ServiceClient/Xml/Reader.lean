import ServiceClient.Xml.CodePage
import ServiceClient.Xml.Prolog
import ServiceClient.Xml.Tree

/-!
Reading XML documents from octets. The encoding is told by a byte order mark or by the declaration;
lines end with a line feed however they are written.
-/

namespace ServiceClient.Xml

/-- The encoding that the first octets tell, and how many of them are its mark. -/
def detectEncoding (bs : Octets) : Encoding × Nat :=
  match bs with
  | 0xFE :: 0xFF :: _ => (.utf16 .big, 2)
  | 0xFF :: 0xFE :: _ => (.utf16 .little, 2)
  | 0xEF :: 0xBB :: 0xBF :: _ => (.utf8, 3)
  | 0 :: _ :: _ => (.utf16 .big, 0)
  | _ :: 0 :: _ => (.utf16 .little, 0)
  | _ => (.utf8, 0)

/-- The encoding of a document whose declaration names one, by what the first octets told. -/
def declaredEncoding (detected : Encoding) (name : String) : Except ReadError Encoding :=
  match detected, String.ofList (name.toList.map Char.toLower) with
  | .utf16 order, "utf-16" => .ok (.utf16 order)
  | .utf16 .big, "utf-16be" => .ok detected
  | .utf16 .little, "utf-16le" => .ok detected
  | .utf16 _, "utf-8" | .utf16 _, "iso-8859-1" | .utf16 _, "us-ascii" | .utf16 _, "utf-16be"
  | .utf16 _, "utf-16le" => .error .notWellFormed
  | _, "utf-8" => .ok .utf8
  | _, "iso-8859-1" => .ok .latin1
  | _, "us-ascii" => .ok .ascii
  | _, "utf-16" | _, "utf-16be" | _, "utf-16le" => .error .notWellFormed
  | _, _ => Encoding.ofName name

/-- The characters of octets as far as a declaration needs them. -/
def Encoding.glance (bs : Octets) : Encoding → List Char
  | .utf16 order =>
    let whole := bs.take (bs.length - bs.length % 2)
    ((Text.units16? order whole).map Text.utf16Characters).getD []
  | _ => bs.map fun b => Char.ofNat b.toNat

/-- The characters of a document, its encoding found out. -/
def decode (bs : Octets) : Except ReadError (List Char) := do
  let (detected, mark) := detectEncoding bs
  let body := bs.drop mark
  match Declaration.read? (detected.glance body) with
  | none => throw .notWellFormed
  | some (declaration, _) =>
    let encoding ← match declaration.encoding with
      | some name => declaredEncoding detected name
      | none => pure detected
    match encoding.decode? body with
    | some cs => return cs
    | none => throw .notWellFormed

/-- Characters with a line feed at the end of each line. -/
def unifyLines : List Char → List Char
  | '\r' :: '\n' :: rest => '\n' :: unifyLines rest
  | '\r' :: rest => '\n' :: unifyLines rest
  | c :: rest => c :: unifyLines rest
  | [] => []

/-- The tokens of a document from its root on, without references. -/
def Token.ofDocument? (cs : List Char) : Option (List Token) := do
  guard (cs.all isDocumentChar)
  let (_, rest) ← Declaration.read? (unifyLines cs)
  let (entities, content) ← prolog? rest
  Token.ofContent content >>= Token.expand? entities

/-- The root element of a document. -/
def Element.ofChars? (cs : List Char) (tagOf : Tagging := Scope.localName?) : Option Element := do
  Element.ofTokens? (← Token.ofDocument? cs) tagOf

/-- Reads a document. The tags are local names, unless they are asked for in another form. -/
def Element.read (bs : Octets) (tagOf : Tagging := Scope.localName?) : Except ReadError Element := do
  match Element.ofChars? (← decode bs) tagOf with
  | some root => return root
  | none => throw .notWellFormed

end ServiceClient.Xml
