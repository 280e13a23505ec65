import ServiceClient.Json.Basic
import ServiceClient.Pairs
import ServiceClient.Text.Hex
import ServiceClient.Text.Utf8

/-!
Reading JSON text. White space is space, tab, line feed and carriage return; control characters are
refused in strings; `NaN`, `Infinity` and `-Infinity` are numbers. A problem is reported with the
place where it was met.
-/

namespace ServiceClient.Json

/-- What can be wrong with a text. -/
inductive Problem where
  | expectingValue
  | expectingName
  | expectingColon
  | expectingComma
  | unterminatedString
  | controlCharacter
  | badEscape
  | badUnicodeEscape
  | extraData
  | byteOrderMark
  | tooManyDigits
  deriving DecidableEq, Repr

def Problem.message : Problem → String
  | .expectingValue => "Expecting value"
  | .expectingName => "Expecting property name enclosed in double quotes"
  | .expectingColon => "Expecting ':' delimiter"
  | .expectingComma => "Expecting ',' delimiter"
  | .unterminatedString => "Unterminated string starting at"
  | .controlCharacter => "Invalid control character at"
  | .badEscape => "Invalid \\escape"
  | .badUnicodeEscape => "Invalid \\uXXXX escape"
  | .extraData => "Extra data"
  | .byteOrderMark => "Unexpected UTF-8 BOM (decode using utf-8-sig)"
  | .tooManyDigits => "Exceeds the limit (4300 digits) for integer string conversion"

/-- A problem and the number of characters before it. -/
structure ReadError where
  problem : Problem
  position : Nat
  deriving DecidableEq, Repr

/-- The problem with its line, its column and its place in the text. -/
def ReadError.message (e : ReadError) (text : String) : String :=
  let before := text.toList.take e.position
  let line := before.count '\n' + 1
  let column := (before.reverse.takeWhile (· != '\n')).length + 1
  s!"{e.problem.message}: line {line} column {column} (char {e.position})"

namespace Reader

/-- A problem and what was left of the text there. -/
abbrev Failure := Problem × List Char

def isSpace (c : Char) : Bool := c == ' ' || c == '\t' || c == '\n' || c == '\r'

def skipSpace (cs : List Char) : List Char := cs.dropWhile isSpace

/-- The number of four hexadecimal digits. -/
def hex4? : List Char → Option (Nat × List Char)
  | a :: b :: c :: d :: rest => do
    let a ← Text.hexValue? a
    let b ← Text.hexValue? b
    let c ← Text.hexValue? c
    let d ← Text.hexValue? d
    return (((a * 16 + b) * 16 + c) * 16 + d, rest)
  | _ => none

/-- The character of a one-letter escape. -/
def simpleEscape? : Char → Option Char
  | '"' => some '"'
  | '\\' => some '\\'
  | '/' => some '/'
  | 'b' => some '\x08'
  | 'f' => some '\x0c'
  | 'n' => some '\n'
  | 'r' => some '\r'
  | 't' => some '\t'
  | _ => none

/-- A code unit as a character; half of a surrogate pair is none. -/
def unitChar (n : Nat) : Char :=
  if Text.isHighSurrogate n || Text.isLowSurrogate n then Text.replacement else Char.ofNat n

/-- The escape after `\u`: two escapes that form a surrogate pair are one character. Something has
to follow the digits. -/
def unicodeEscape (cs : List Char) : Option (Char × List Char) :=
  match hex4? cs with
  | none | some (_, []) => none
  | some (n, rest) =>
    match rest with
    | '\\' :: 'u' :: more =>
      if Text.isHighSurrogate n && 4 < more.length then
        match hex4? more with
        | none => none
        | some (low, after) =>
          if Text.isLowSurrogate low then some (Text.joinSurrogates n low, after)
          else some (unitChar n, rest)
      else some (unitChar n, rest)
    | _ => some (unitChar n, rest)

/-- The rest of a string after its opening quote; `opened` is the text from that quote on and `acc`
the characters read, last first. -/
def string (opened : List Char) : Nat → List Char → List Char → Except Failure (String × List Char)
  | 0, _, _ => .error (.unterminatedString, opened)
  | fuel + 1, acc, cs =>
    match cs with
    | [] => .error (.unterminatedString, opened)
    | '"' :: rest => .ok (String.ofList acc.reverse, rest)
    | '\\' :: [] => .error (.unterminatedString, opened)
    | '\\' :: 'u' :: rest =>
      match unicodeEscape rest with
      | some (c, rest) => string opened fuel (c :: acc) rest
      | none => .error (.badUnicodeEscape, 'u' :: rest)
    | '\\' :: c :: rest =>
      match simpleEscape? c with
      | some e => string opened fuel (e :: acc) rest
      | none => .error (.badEscape, cs)
    | c :: rest =>
      if c.toNat < 0x20 then .error (.controlCharacter, cs)
      else string opened fuel (c :: acc) rest

def digitsValue (ds : List Char) : Nat := ds.foldl (fun n d => n * 10 + (d.toNat - 48)) 0

/-- The most digits that an integer may have. -/
def maxDigits : Nat := 4300

/-- The fraction after a point, if there is one with at least one digit. -/
def fraction (cs : List Char) : List Char × List Char :=
  match cs with
  | '.' :: rest =>
    let ds := rest.takeWhile Char.isDigit
    if ds.isEmpty then ([], cs) else (ds, rest.dropWhile Char.isDigit)
  | _ => ([], cs)

/-- The exponent after `e` or `E`, if there is one with at least one digit. -/
def exponent (cs : List Char) : Option Int × List Char :=
  match cs with
  | e :: rest =>
    if e = 'e' ∨ e = 'E' then
      let (negative, body) : Bool × List Char := match rest with
        | '-' :: r => (true, r)
        | '+' :: r => (false, r)
        | r => (false, r)
      let ds := body.takeWhile Char.isDigit
      if ds.isEmpty then (none, cs)
      else
        let n : Int := digitsValue ds
        (some (if negative then -n else n), body.dropWhile Char.isDigit)
    else (none, cs)
  | [] => (none, cs)

/-- A number from its digits on; `start` is the text from its sign on. -/
def number (start : List Char) (negative : Bool) (cs : List Char) : Except Failure (Json × List Char) :=
  match cs with
  | [] => .error (.expectingValue, start)
  | d :: rest =>
    if ¬ d.isDigit then .error (.expectingValue, start)
    else
      let whole := if d = '0' then ['0'] else cs.takeWhile Char.isDigit
      let after := if d = '0' then rest else cs.dropWhile Char.isDigit
      let (places, after) := fraction after
      let (power, after) := exponent after
      if places.isEmpty ∧ power.isNone then
        if maxDigits < whole.length then .error (.tooManyDigits, start)
        else
          let n : Int := digitsValue whole
          .ok (.int (if negative then -n else n), after)
      else
        let scale := power.getD 0 - places.length
        .ok (.float (.ofDecimal negative (digitsValue (whole ++ places)) scale), after)

/-- A value that is no container and no string. -/
def scalar (cs : List Char) : Except Failure (Json × List Char) :=
  match cs with
  | 'n' :: 'u' :: 'l' :: 'l' :: rest => .ok (.null, rest)
  | 't' :: 'r' :: 'u' :: 'e' :: rest => .ok (.bool true, rest)
  | 'f' :: 'a' :: 'l' :: 's' :: 'e' :: rest => .ok (.bool false, rest)
  | 'N' :: 'a' :: 'N' :: rest => .ok (.float .nan, rest)
  | 'I' :: 'n' :: 'f' :: 'i' :: 'n' :: 'i' :: 't' :: 'y' :: rest => .ok (.float (.infinity false), rest)
  | '-' :: 'I' :: 'n' :: 'f' :: 'i' :: 'n' :: 'i' :: 't' :: 'y' :: rest =>
    .ok (.float (.infinity true), rest)
  | '-' :: rest => number cs true rest
  | _ => number cs false cs

mutual

/-- One value without white space around it. -/
def value : Nat → List Char → Except Failure (Json × List Char)
  | 0, cs => .error (.expectingValue, cs)
  | fuel + 1, cs =>
    match cs with
    | '"' :: rest => do
      let (s, rest) ← string cs rest.length.succ [] rest
      return (.str s, rest)
    | '[' :: rest =>
      match skipSpace rest with
      | ']' :: rest => .ok (.arr [], rest)
      | inner => elements fuel [] inner
    | '{' :: rest =>
      match skipSpace rest with
      | '}' :: rest => .ok (.obj [], rest)
      | inner => members fuel [] inner
    | _ => scalar cs

/-- The elements of an array from a value on; those read are in `acc`, last first. -/
def elements : Nat → List Json → List Char → Except Failure (Json × List Char)
  | 0, _, cs => .error (.expectingValue, cs)
  | fuel + 1, acc, cs => do
    let (v, rest) ← value fuel cs
    match skipSpace rest with
    | ']' :: rest => return (.arr (v :: acc).reverse, rest)
    | ',' :: rest => elements fuel (v :: acc) (skipSpace rest)
    | rest => .error (.expectingComma, rest)

/-- The members of an object from a name on; those read are in `acc`, last first. -/
def members : Nat → List (String × Json) → List Char → Except Failure (Json × List Char)
  | 0, _, cs => .error (.expectingName, cs)
  | fuel + 1, acc, cs =>
    match cs with
    | '"' :: rest => do
      let (name, rest) ← string cs rest.length.succ [] rest
      match skipSpace rest with
      | ':' :: rest => do
        let (v, rest) ← value fuel (skipSpace rest)
        match skipSpace rest with
        | '}' :: rest => return (.obj (Pairs.distinct ((name, v) :: acc).reverse), rest)
        | ',' :: rest => members fuel ((name, v) :: acc) (skipSpace rest)
        | rest => .error (.expectingComma, rest)
      | rest => .error (.expectingColon, rest)
    | _ => .error (.expectingName, cs)

end

/-- One value with white space around it and nothing else. -/
def document (cs : List Char) : Except Failure Json :=
  match cs with
  | '\uFEFF' :: _ => .error (.byteOrderMark, cs)
  | _ => do
    let (v, rest) ← value (cs.length + 1) (skipSpace cs)
    match skipSpace rest with
    | [] => return v
    | rest => .error (.extraData, rest)

end Reader

/-- Reads a text. -/
def parse (text : String) : Except ReadError Json :=
  (Reader.document text.toList).mapError fun (problem, rest) =>
    ⟨problem, text.toList.length - rest.length⟩

/-- The encodings that JSON octets may have. -/
inductive Encoding where
  | utf8
  | utf16 (order : Text.ByteOrder)
  | utf32 (order : Text.ByteOrder)
  deriving DecidableEq

/-- The byte order marks, longer ones before their beginnings, and the encodings that they tell. -/
def byteOrderMarks : List (Octets × Encoding) := [
  ([0x00, 0x00, 0xFE, 0xFF], .utf32 .big),
  ([0xFF, 0xFE, 0x00, 0x00], .utf32 .little),
  ([0xFE, 0xFF], .utf16 .big),
  ([0xFF, 0xFE], .utf16 .little),
  ([0xEF, 0xBB, 0xBF], .utf8)]

/-- The encoding that the places of the zero octets among the first four tell. -/
def encodingByZeros : Octets → Encoding
  | a :: b :: c :: d :: _ =>
    if a = 0 then if b ≠ 0 then .utf16 .big else .utf32 .big
    else if b = 0 then if c ≠ 0 ∨ d ≠ 0 then .utf16 .little else .utf32 .little
    else .utf8
  | [a, b] => if a = 0 then .utf16 .big else if b = 0 then .utf16 .little else .utf8
  | _ => .utf8

/-- The encoding of octets and how many of them are its mark, which decides if there is one. -/
def detectEncoding (bs : Octets) : Encoding × Nat :=
  match byteOrderMarks.find? fun mark => mark.1.isPrefixOf bs with
  | some (mark, encoding) => (encoding, mark.length)
  | none => (encodingByZeros bs, 0)

/-- The text of octets in an encoding, U+FFFD standing for each surrogate without its partner. -/
def Encoding.read? (body : Octets) : Encoding → Option String
  | .utf8 => Text.utf8Decode? (Text.replaceSurrogates body)
  | .utf16 order => (Text.units16? order body).map (String.ofList ∘ Text.utf16Characters)
  | .utf32 order => (Text.units32? order body >>= Text.utf32Characters?).map String.ofList

/-- Whether no surrogate stands without its partner in octets. -/
def Encoding.isProper (body : Octets) : Encoding → Bool
  | .utf8 => Text.replaceSurrogates body == body
  | .utf16 order => ((Text.units16? order body).map (!Text.hasLoneSurrogate ·)).getD false
  | .utf32 order =>
    ((Text.units32? order body).map (·.all fun n =>
      !Text.isHighSurrogate n && !Text.isLowSurrogate n)).getD false

/-- The text of JSON octets in whichever encoding they have. -/
def decodeOctets? (bs : Octets) : Option String :=
  let (encoding, mark) := detectEncoding bs
  encoding.read? (bs.drop mark)

/-- As `decodeOctets?`, but without surrogates. -/
def decodeProperOctets? (bs : Octets) : Option String :=
  let (encoding, mark) := detectEncoding bs
  if encoding.isProper (bs.drop mark) then decodeOctets? bs else none

/-- Reads octets; none if they are no text or the text is no JSON. -/
def parseOctets? (bs : Octets) : Option Json := do
  let text ← decodeOctets? bs
  (parse text).toOption

end ServiceClient.Json
