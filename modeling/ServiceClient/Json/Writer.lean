import ServiceClient.Json.Basic
import ServiceClient.Number.Shortest
import ServiceClient.Text.Hex

/-!
Writing JSON text in ASCII: a space after each comma and each colon, and an escape for every
character outside ASCII.
-/

namespace ServiceClient.Json

/-- A code unit as an escape of four digits. -/
def unitEscape (n : Nat) : List Char := '\\' :: 'u' :: Text.hexDigits 4 n

/-- A character inside a string; one beyond 16 bits is written as a surrogate pair. -/
def writeChar (c : Char) : List Char :=
  if c = '"' then ['\\', '"']
  else if c = '\\' then ['\\', '\\']
  else if c = '\n' then ['\\', 'n']
  else if c = '\r' then ['\\', 'r']
  else if c = '\t' then ['\\', 't']
  else if c = '\x08' then ['\\', 'b']
  else if c = '\x0c' then ['\\', 'f']
  else if ' ' ≤ c ∧ c ≤ '~' then [c]
  else if c.toNat < 0x10000 then unitEscape c.toNat
  else
    let n := c.toNat - 0x10000
    unitEscape (0xD800 + n / 1024) ++ unitEscape (0xDC00 + n % 1024)

def writeString (s : String) : String :=
  String.ofList ('"' :: s.toList.flatMap writeChar ++ ['"'])

mutual

/-- The text of a document. -/
def write : Json → String
  | .null => "null"
  | .bool b => if b then "true" else "false"
  | .int n => toString n
  | .float x => x.text Binary64.inJson
  | .str s => writeString s
  | .arr items => "[" ++ writeItems items ++ "]"
  | .obj fields => "\x7b" ++ writeFields fields ++ "\x7d"

def writeItems : List Json → String
  | [] => ""
  | [item] => write item
  | item :: rest => write item ++ ", " ++ writeItems rest

def writeFields : List (String × Json) → String
  | [] => ""
  | [(name, v)] => writeString name ++ ": " ++ write v
  | (name, v) :: rest => writeString name ++ ": " ++ write v ++ ", " ++ writeFields rest

end

end ServiceClient.Json
