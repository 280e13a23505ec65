/-!
Hexadecimal digits.
-/

namespace ServiceClient.Text

/-- The value of a hexadecimal digit in either case. -/
def hexValue? (c : Char) : Option Nat :=
  if '0' ≤ c ∧ c ≤ '9' then some (c.toNat - 48)
  else if 'a' ≤ c ∧ c ≤ 'f' then some (c.toNat - 87)
  else if 'A' ≤ c ∧ c ≤ 'F' then some (c.toNat - 55)
  else none

/-- The last `width` hexadecimal digits of a number, in lower case. -/
def hexDigits : Nat → Nat → List Char
  | 0, _ => []
  | width + 1, n => hexDigits width (n / 16) ++ [Nat.digitChar (n % 16)]

/-- Octets as pairs of digits. -/
def hexText (octets : List UInt8) : String :=
  String.ofList (octets.flatMap fun b => hexDigits 2 b.toNat)

/-- Reads pairs of digits. -/
def readHex? : List Char → Option (List UInt8)
  | [] => some []
  | high :: low :: rest => do
    let h ← hexValue? high
    let l ← hexValue? low
    let octets ← readHex? rest
    return UInt8.ofNat (16 * h + l) :: octets
  | [_] => none

end ServiceClient.Text
