import ServiceClient.Text.Hex
import ServiceClient.Text.Printable

/-!
Quoted text as it is shown inside displayed lists and maps: single quotes, or double quotes when
only single ones occur inside; characters that cannot be printed are escapes of their code.
-/

namespace ServiceClient.Text.Quoted

/-- The quote that needs the fewest escapes. -/
def quoteFor (cs : List Char) : Char :=
  if '\'' ∈ cs ∧ '"' ∉ cs then '"' else '\''

/-- The escape of a code in the shortest form that holds it. -/
def codeEscape (n : Nat) : List Char :=
  if n < 0x100 then '\\' :: 'x' :: hexDigits 2 n
  else if n < 0x10000 then '\\' :: 'u' :: hexDigits 4 n
  else '\\' :: 'U' :: hexDigits 8 n

/-- One character between quotes. -/
def character (quote : Char) (isShown : Char → Bool) (c : Char) : List Char :=
  if c = quote ∨ c = '\\' then ['\\', c]
  else if c = '\t' then ['\\', 't']
  else if c = '\n' then ['\\', 'n']
  else if c = '\r' then ['\\', 'r']
  else if isShown c then [c]
  else codeEscape c.toNat

def encode (isShown : Char → Bool) (cs : List Char) : List Char :=
  let quote := quoteFor cs
  quote :: cs.flatMap (character quote isShown) ++ [quote]

/-- A text in quotes. -/
def text (s : String) : String := String.ofList (encode isPrintable s.toList)

/-- Octets in quotes: printable ASCII is shown, all else is an escape. -/
def octets (bs : List UInt8) : String :=
  String.ofList
    ('b' :: encode (fun c => ' ' ≤ c && c ≤ '~') (bs.map fun b => Char.ofNat b.toNat))

end ServiceClient.Text.Quoted
