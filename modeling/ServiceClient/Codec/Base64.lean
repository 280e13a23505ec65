import ServiceClient.Text.Utf8

/-!
Base64 with the standard alphabet and padding. Reading is lenient: characters outside the alphabet
are skipped, and padding that completes a group ends the text.
-/

namespace ServiceClient.Base64

/-- The character for six bits. -/
def symbol (n : Nat) : Char :=
  if n < 26 then Char.ofNat (65 + n)
  else if n < 52 then Char.ofNat (71 + n)
  else if n < 62 then Char.ofNat (n - 4)
  else if n = 62 then '+'
  else '/'

/-- The six bits of a character of the alphabet. -/
def symbolValue? (c : Char) : Option Nat :=
  if 'A' ≤ c ∧ c ≤ 'Z' then some (c.toNat - 65)
  else if 'a' ≤ c ∧ c ≤ 'z' then some (c.toNat - 71)
  else if '0' ≤ c ∧ c ≤ '9' then some (c.toNat + 4)
  else if c = '+' then some 62
  else if c = '/' then some 63
  else none

/-- Three octets become four characters; one or two are padded. -/
def encodeChars : Octets → List Char
  | [] => []
  | [a] => [symbol (a.toNat / 4), symbol (a.toNat % 4 * 16), '=', '=']
  | [a, b] =>
    [symbol (a.toNat / 4), symbol (a.toNat % 4 * 16 + b.toNat / 16), symbol (b.toNat % 16 * 4), '=']
  | a :: b :: c :: rest =>
    symbol (a.toNat / 4) :: symbol (a.toNat % 4 * 16 + b.toNat / 16) ::
      symbol (b.toNat % 16 * 4 + c.toNat / 64) :: symbol (c.toNat % 64) :: encodeChars rest

def encode (bs : Octets) : String := String.ofList (encodeChars bs)

/-- Why a text is no Base64. -/
inductive Error where
  /-- A character outside ASCII. -/
  | notAscii
  /-- The last group is incomplete and not padded. -/
  | badPadding
  deriving DecidableEq, Repr

/-- The bits of the current group that no octet has taken yet. -/
inductive Group where
  | start
  | one (rest : Nat)
  | two (rest : Nat)
  | three (rest : Nat)
  deriving DecidableEq, Repr

def Group.size : Group → Nat
  | .start => 0
  | .one _ => 1
  | .two _ => 2
  | .three _ => 3

/-- Reads on in a group, with the number of padding characters seen since the last symbol. -/
def decodeFrom : Group → Nat → List Char → Except Error Octets
  | .start, _, [] => .ok []
  | _, _, [] => .error .badPadding
  | group, pads, c :: cs =>
    if c = '=' then
      if 2 ≤ group.size then
        if 4 ≤ group.size + (pads + 1) then .ok [] else decodeFrom group (pads + 1) cs
      else decodeFrom group pads cs
    else
      match symbolValue? c with
      | none => decodeFrom group pads cs
      | some n =>
        match group with
        | .start => decodeFrom (.one n) 0 cs
        | .one r => (decodeFrom (.two (n % 16)) 0 cs).map (UInt8.ofNat (r * 4 + n / 16) :: ·)
        | .two r => (decodeFrom (.three (n % 4)) 0 cs).map (UInt8.ofNat (r * 16 + n / 4) :: ·)
        | .three r => (decodeFrom .start 0 cs).map (UInt8.ofNat (r * 64 + n) :: ·)

def decode (s : String) : Except Error Octets :=
  if s.toList.all (·.toNat < 128) then decodeFrom .start 0 s.toList else .error .notAscii

end ServiceClient.Base64
