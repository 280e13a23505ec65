import ServiceClient.Number.Binary64
import ServiceClient.Text.Blank
import ServiceClient.Text.Digit

/-!
Numerals as people write them into a text: white space around them, a sign, digits of any script and
single underscores between digits. `readInt?` reads whole numbers and `readFloat?` decimals with a
point and an exponent, and the names of the values that are no finite numbers.
-/

namespace ServiceClient.Numeral

/-- One character in ASCII: white space becomes a space and a digit of any script its ASCII digit;
what has no such form becomes a character that no numeral holds. -/
def plainChar (c : Char) : Char :=
  if c.toNat < 127 then c
  else if Text.isBlank c then ' '
  else
    match Text.digitValue? c with
    | some d => Nat.digitChar d
    | none => '?'

/-- The numeral proper in ASCII. -/
def plain (cs : List Char) : List Char := Text.trimBoth Text.isPlainBlank (cs.map plainChar)

/-- The sign in front, true for minus, and what follows it. -/
def sign : List Char → Bool × List Char
  | '-' :: rest => (true, rest)
  | '+' :: rest => (false, rest)
  | cs => (false, cs)

/-- Drops the underscores from a numeral; none if one stands anywhere but between two digits. The
flag tells whether a digit stands right in front. -/
def dropUnderscores? (afterDigit : Bool) : List Char → Option (List Char)
  | [] => some []
  | '_' :: rest =>
    if afterDigit && (rest.head?.map Char.isDigit).getD false then dropUnderscores? false rest
    else none
  | c :: rest => (dropUnderscores? c.isDigit rest).map (c :: ·)

def digitsValue (ds : List Char) : Nat := ds.foldl (fun n d => n * 10 + (d.toNat - 48)) 0

/-- The most digits that a whole number may have. -/
def maxDigits : Nat := 4300

/-- The least whole number that has more. -/
def limit : Nat := Nat.pow 10 maxDigits

/-- Reads a whole number. -/
def readInt? (cs : List Char) : Option Int := do
  let (negative, body) := sign (plain cs)
  let ds ← dropUnderscores? false body
  guard (!ds.isEmpty && ds.all Char.isDigit && ds.length ≤ maxDigits)
  let n : Int := digitsValue ds
  return if negative then -n else n

/-- The exponent after a mantissa: nothing at all, or `e` with a whole number. -/
def exponent? : List Char → Option Int
  | [] => some 0
  | e :: rest =>
    let (negative, ds) := sign rest
    if e.toLower = 'e' ∧ !ds.isEmpty ∧ ds.all Char.isDigit then
      let n : Int := digitsValue ds
      some (if negative then -n else n)
    else none

/-- The digits after a point, if there is one, and what follows them. -/
def places : List Char → List Char × List Char
  | '.' :: rest => (rest.takeWhile Char.isDigit, rest.dropWhile Char.isDigit)
  | cs => ([], cs)

/-- Reads a decimal without a sign. -/
def decimal? (negative : Bool) (cs : List Char) : Option Binary64 := do
  let whole := cs.takeWhile Char.isDigit
  let (fraction, rest) := places (cs.dropWhile Char.isDigit)
  guard (!(whole ++ fraction).isEmpty)
  let power ← exponent? rest
  return .ofDecimal negative (digitsValue (whole ++ fraction)) (power - fraction.length)

/-- Reads a decimal, an infinity or the value that is no number, in any case of letters. -/
def readFloat? (cs : List Char) : Option Binary64 := do
  let (negative, body) := sign (plain cs)
  let name := String.ofList (body.map Char.toLower)
  if name = "inf" ∨ name = "infinity" then return .infinity negative
  if name = "nan" then return .nan
  decimal? negative (← dropUnderscores? false body)

end ServiceClient.Numeral
