import ServiceClient.Text.Hex
import ServiceClient.Text.Split
import ServiceClient.Text.Utf8

/-!
Percent-encoding of text through its UTF-8 octets, and the form encoding built on it, where a space
is a plus sign and pairs are joined by `=` and `&`.
-/

namespace ServiceClient.Percent

/-- Letters, digits and `-`, `_`, `.`, `~` are never encoded. -/
def isUnreserved (c : Char) : Bool :=
  c.isAlphanum || c == '-' || c == '_' || c == '.' || c == '~'

/-- An octet as a percent sign and two upper case digits. -/
def escapeOctet (b : UInt8) : List Char :=
  '%' :: (Text.hexDigits 2 b.toNat).map Char.toUpper

/-- Characters of the class stay, the octets of all others are escaped. -/
def encodeChars (keep : Char → Bool) (cs : List Char) : List Char :=
  cs.flatMap fun c =>
    if keep c then [c] else (String.utf8EncodeChar c).flatMap escapeOctet

/-- Percent-encodes a text; the characters of `safe` stay as well as the unreserved ones. -/
def encode (safe : String) (s : String) : String :=
  String.ofList (encodeChars (fun c => isUnreserved c || safe.contains c) s.toList)

/-- Percent-encodes octets that need not be text. -/
def encodeOctets (bs : Octets) : String :=
  String.ofList (bs.flatMap fun b =>
    let c := Char.ofNat b.toNat
    if isUnreserved c then [c] else escapeOctet b)

/-- The octets of ASCII text with its escapes resolved; a percent sign without two digits after it
stands for itself. -/
def unescape : List Char → Octets
  | [] => []
  | '%' :: high :: low :: rest =>
    match Text.hexValue? high, Text.hexValue? low with
    | some h, some l => UInt8.ofNat (16 * h + l) :: unescape rest
    | _, _ => 0x25 :: unescape (high :: low :: rest)
  | c :: rest => String.utf8EncodeChar c ++ unescape rest
termination_by cs => cs.length

/-- Maximal runs of ASCII characters and of others, each marked by whether it is ASCII. -/
def asciiRuns : List Char → List (Bool × List Char)
  | [] => []
  | c :: rest =>
    let ascii := decide (c.toNat < 128)
    match asciiRuns rest with
    | (mark, run) :: runs =>
      if mark = ascii then (mark, c :: run) :: runs else (ascii, [c]) :: (mark, run) :: runs
    | [] => [(ascii, [c])]

/-- Resolves the escapes of a text as UTF-8; each run of ASCII characters is read by itself, and
what is no UTF-8 becomes U+FFFD. -/
def decode (s : String) : String :=
  if s.contains '%' then
    String.join ((asciiRuns s.toList).map fun (ascii, run) =>
      if ascii then Text.utf8DecodeLossy (unescape run) else String.ofList run)
  else s

/-- One name or value of a form: spaces are plus signs. -/
def formEncode (s : String) : String :=
  String.ofList ((encodeChars (fun c => isUnreserved c || c == ' ') s.toList).map
    fun c => if c = ' ' then '+' else c)

/-- Octets as one name or value of a form. -/
def formEncodeOctets (bs : Octets) : String :=
  String.ofList (bs.flatMap fun b =>
    let c := Char.ofNat b.toNat
    if c = ' ' then ['+'] else if isUnreserved c then [c] else escapeOctet b)

def formDecode (s : String) : String :=
  decode (String.ofList (s.toList.map fun c => if c = '+' then ' ' else c))

/-- Pairs as a form. -/
def encodeForm (pairs : List (String × String)) : String :=
  Text.intercalate "&" (pairs.map fun (name, value) => formEncode name ++ "=" ++ formEncode value)

/-- The pairs of a form; empty pieces are skipped and a piece without `=` has an empty value. -/
def decodeForm (s : String) : List (String × String) :=
  ((Text.splitOn '&' s.toList).filter (!·.isEmpty)).map fun piece =>
    let (name, value) := Text.cut '=' piece
    (formDecode (String.ofList name), formDecode (String.ofList (value.getD [])))

end ServiceClient.Percent
