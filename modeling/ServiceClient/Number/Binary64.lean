/-!
Double-precision numbers as the 64 bits of their interchange format, so that every question about
one is a question about natural numbers. The exact value of a finite double is `m * 2 ^ q`;
`ofRatio` goes the other way and rounds a quotient to the nearest double, ties to even.
-/

namespace ServiceClient

/-- A double-precision number, given by its sign, exponent and fraction bits. -/
structure Binary64 where
  bits : UInt64
  deriving DecidableEq, Repr, Inhabited

namespace Binary64

/-- What the bits of a double stand for; a finite one is `± m * 2 ^ q`. -/
inductive Reading where
  | nan
  | infinite (negative : Bool)
  | finite (negative : Bool) (m : Nat) (q : Int)
  deriving DecidableEq, Repr

/-- The number of bit patterns below the first infinite one. -/
def infiniteField : Nat := 2047 * Nat.pow 2 52

def signBit : Nat := Nat.pow 2 63

/-- The bits without the sign. -/
def magnitude (x : Binary64) : Nat := x.bits.toNat % signBit

def negative (x : Binary64) : Bool := signBit ≤ x.bits.toNat

/-- The double with the given sign and magnitude bits. -/
def ofMagnitude (negative : Bool) (field : Nat) : Binary64 :=
  ⟨UInt64.ofNat (if negative then signBit + field else field)⟩

def nan : Binary64 := ⟨0x7FF8000000000000⟩

def infinity (negative : Bool) : Binary64 := ofMagnitude negative infiniteField

def zero (negative : Bool) : Binary64 := ofMagnitude negative 0

/-- The exact meaning of the bits: a zero exponent field marks a subnormal number, a full one an
infinity or a number that is none. -/
def reading (x : Binary64) : Reading :=
  let field := x.magnitude
  let exponent : Nat := field / Nat.pow 2 52
  let fraction : Nat := field % Nat.pow 2 52
  if exponent = 2047 then
    if fraction = 0 then .infinite x.negative else .nan
  else if exponent = 0 then .finite x.negative fraction (-1074)
  else .finite x.negative (fraction + Nat.pow 2 52) ((exponent : Int) - 1075)

/-- The quotient rounded to the nearest natural number, a half going to the even neighbour. -/
def roundHalfEven (num den : Nat) : Nat :=
  let floor := num / den
  let rest := num % den
  if 2 * rest < den then floor
  else if den < 2 * rest then floor + 1
  else if floor % 2 = 0 then floor else floor + 1

/-- The two natural numbers whose quotient is `num / den * 2 ^ (-e)`. -/
def scaleDown (num den : Nat) (e : Int) : Nat × Nat :=
  if 0 ≤ e then (num, den * Nat.pow 2 e.toNat) else (num * Nat.pow 2 (-e).toNat, den)

/-- The double nearest to `± num / den`, ties to even; too large a value is infinite. -/
def ofRatio (negative : Bool) (num den : Nat) : Binary64 :=
  if num = 0 then zero negative
  else
    let guess : Int := (num.log2 : Int) - den.log2 - 52
    let scaled := scaleDown num den guess
    let fitted := if scaled.1 < Nat.pow 2 52 * scaled.2 then guess - 1 else guess
    let exponent := max fitted (-1074)
    let (n, d) := scaleDown num den exponent
    let field := (exponent + 1074).toNat * Nat.pow 2 52 + roundHalfEven n d
    if infiniteField ≤ field then infinity negative else ofMagnitude negative field

/-- The number of decimal digits of `n`; zero has one. -/
def digitCount (n : Nat) : Nat := (Nat.toDigits 10 n).length

/-- The double nearest to `± digits * 10 ^ exponent`. Exponents that are far out of range are
answered without building the power. -/
def ofDecimal (negative : Bool) (digits : Nat) (exponent : Int) : Binary64 :=
  if digits = 0 then zero negative
  else
    let top := exponent + digitCount digits
    if 400 < top then infinity negative
    else if top < -400 then zero negative
    else if 0 ≤ exponent then ofRatio negative (digits * Nat.pow 10 exponent.toNat) 1
    else ofRatio negative digits (Nat.pow 10 (-exponent).toNat)

/-- The double nearest to an integer, unless that is out of range. -/
def ofInt? (n : Int) : Option Binary64 :=
  let x := ofRatio (n < 0) n.natAbs 1
  if x.magnitude < infiniteField then some x else none

/-- The integer part of a finite double. -/
def truncate? (x : Binary64) : Option Int :=
  match x.reading with
  | .finite negative m q =>
    let size : Nat := if 0 ≤ q then m * Nat.pow 2 q.toNat else m / Nat.pow 2 (-q).toNat
    some (if negative then -(size : Int) else size)
  | _ => none

/-- Whether the double is a finite whole number. -/
def isWhole (x : Binary64) : Bool :=
  match x.reading with
  | .finite _ m q => decide (0 ≤ q) || m % Nat.pow 2 (-q).toNat == 0
  | _ => false

def isNaN (x : Binary64) : Bool := infiniteField < x.magnitude

/-- Numeric equality: the two zeros are equal and a number that is none differs from itself. -/
def numEq (x y : Binary64) : Bool :=
  !x.isNaN && (x == y || (x.magnitude == 0 && y.magnitude == 0))

/-- Numeric equality with an integer. -/
def eqInt (x : Binary64) (n : Int) : Bool :=
  x.isWhole && x.truncate? == some n

/-- Whether the double is zero of either sign. -/
def isZero (x : Binary64) : Bool := x.magnitude == 0

/-- Whether `x ≤ 0`; false for a number that is none. -/
def nonPositive (x : Binary64) : Bool := x.isZero || (x.negative && !x.isNaN)

end Binary64

end ServiceClient
