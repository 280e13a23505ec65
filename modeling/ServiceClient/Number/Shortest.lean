import ServiceClient.Number.Binary64

/-!
The decimal text of a double: the fewest significant digits that read back as the same double, and
of those the nearest to its value. `Spelling` holds the choices that a format makes around the
digits.
-/

namespace ServiceClient

namespace Binary64

/-- A decimal `digits * 10 ^ exponent`. -/
structure Decimal where
  digits : Nat
  exponent : Int
  deriving DecidableEq, Repr

/-- The numbers that round to a finite double: four times its value is `4 * m * 2 ^ q`, and the
bounds stand half a step below and above, a quarter step below where the binade changes. -/
structure Interval where
  low : Nat
  value : Nat
  high : Nat
  /-- All three are in units of `1 / unit`. -/
  unit : Nat
  closed : Bool

def interval (m : Nat) (q : Int) : Interval :=
  let lowStep := if m = Nat.pow 2 52 ∧ -1074 < q then 1 else 2
  let up := if 0 ≤ q then Nat.pow 2 q.toNat else 1
  let down := if 0 ≤ q then 1 else Nat.pow 2 (-q).toNat
  { low := (4 * m - lowStep) * up, value := 4 * m * up, high := (4 * m + 2) * up,
    unit := 4 * down, closed := m % 2 = 0 }

/-- Whether `d * 10 ^ e` lies in the interval. -/
def Interval.holds (i : Interval) (d : Nat) (e : Int) : Bool :=
  let x := if 0 ≤ e then d * Nat.pow 10 e.toNat * i.unit else d * i.unit
  let scale := if 0 ≤ e then 1 else Nat.pow 10 (-e).toNat
  let low := i.low * scale
  let high := i.high * scale
  if i.closed then low ≤ x && x ≤ high else low < x && x < high

/-- The neighbour of the value on the grid of multiples of `10 ^ e` that reads back, the nearer one
if both do. -/
def Interval.onGrid? (i : Interval) (e : Int) : Option Decimal :=
  let num := if 0 ≤ e then i.value else i.value * Nat.pow 10 (-e).toNat
  let den := if 0 ≤ e then i.unit * Nat.pow 10 e.toNat else i.unit
  let below := num / den
  let rest := num % den
  let above := if rest = 0 then below else below + 1
  match i.holds below e && 0 < below, i.holds above e with
  | true, true =>
    if 2 * rest < den then some ⟨below, e⟩
    else if den < 2 * rest then some ⟨above, e⟩
    else some ⟨if below % 2 = 0 then below else above, e⟩
  | true, false => some ⟨below, e⟩
  | false, true => some ⟨above, e⟩
  | false, false => none

/-- The exponent of the leading digit of `num / den`: the largest `k` with `10 ^ k ≤ num / den`. -/
def leadingExponent (num den : Nat) : Int :=
  if den ≤ num then (digitCount (num / den) : Int) - 1
  else
    let k := digitCount (den / num)
    if den ≤ num * Nat.pow 10 (k - 1) then 1 - (k : Int) else -(k : Int)

/-- Tries grids from one digit on; seventeen digits always suffice. -/
def Interval.search (i : Interval) (lead : Int) : Nat → Nat → Decimal
  | 0, _ => ⟨0, 0⟩
  | fuel + 1, count =>
    (i.onGrid? (lead + 1 - count)).getD (i.search lead fuel (count + 1))

/-- The shortest decimal that reads back as the positive double `m * 2 ^ q`. -/
def shortest (m : Nat) (q : Int) : Decimal :=
  let i := interval m q
  i.search (leadingExponent i.value i.unit) 18 1

/-- Drops trailing zeros of the digits, keeping the value. -/
def Decimal.trim (d : Decimal) : Nat → Decimal
  | 0 => d
  | fuel + 1 =>
    if d.digits ≠ 0 ∧ d.digits % 10 = 0 then Decimal.trim ⟨d.digits / 10, d.exponent + 1⟩ fuel else d

/-- The names a format has for doubles that are no finite numbers. -/
structure Spelling where
  nan : String
  infinity : String

/-- The names in displayed text. -/
def displayed : Spelling := { nan := "nan", infinity := "inf" }

/-- The names in JSON text. -/
def inJson : Spelling := { nan := "NaN", infinity := "Infinity" }

/-- An exponent with its sign and at least two digits. -/
def exponentText (e : Int) : String :=
  let digits := toString e.natAbs
  "e" ++ (if e < 0 then "-" else "+") ++ (if digits.length < 2 then "0" ++ digits else digits)

/-- The digits with a point: positional while the leading digit's exponent is from -4 up to 15, with
at least one digit after the point; otherwise one digit before the point and an exponent. -/
def Decimal.text (d : Decimal) : String :=
  let digits := Nat.toDigits 10 d.digits
  let count := digits.length
  let lead : Int := d.exponent + count - 1
  if -4 ≤ lead ∧ lead < 16 then
    if lead < 0 then
      "0." ++ String.ofList (List.replicate (-lead - 1).toNat '0' ++ digits)
    else
      let whole := lead.toNat + 1
      let padded := digits ++ List.replicate (whole - count) '0'
      let places := padded.drop whole
      String.ofList (padded.take whole) ++ "." ++
        String.ofList (if places.isEmpty then ['0'] else places)
  else
    match digits with
    | [] => ""
    | first :: rest =>
      String.ofList [first] ++ (if rest.isEmpty then "" else "." ++ String.ofList rest) ++
        exponentText lead

/-- The text of a double. -/
def text (names : Spelling) (x : Binary64) : String :=
  match x.reading with
  | .nan => names.nan
  | .infinite negative => (if negative then "-" else "") ++ names.infinity
  | .finite negative m q =>
    (if negative then "-" else "") ++
      (if m = 0 then "0.0" else ((shortest m q).trim 20).text)

end Binary64

end ServiceClient
