import ServiceClient.Codec.Base64
import ServiceClient.Number.Numeral
import ServiceClient.Text.Case
import ServiceClient.Wire.Value

/-!
Reading a value as one of another kind: as a number, a truth value, octets, the items of a list or
the entries of a map. Each reading takes more than the kind it makes; `Mismatch` tells what it
cannot take.
-/

namespace ServiceClient

/-- Why a value cannot be read as one of another kind. -/
inductive Mismatch where
  /-- A text that is no numeral, or no number at all where a whole one is called for. -/
  | numeral
  /-- A value of a kind that holds no number. -/
  | noNumber
  /-- A number beyond the range. -/
  | outOfRange
  | base64 (e : Base64.Error)
  /-- A number that is no octet, or a negative count of octets. -/
  | noOctet
  /-- A value of a kind that holds no octets. -/
  | noOctets
  /-- A value without items. -/
  | noItems
  /-- A value without entries. -/
  | noEntries
  /-- A sequence that is not a key and a value. -/
  | noPair
  /-- A value that cannot be a key. -/
  | noKey
  deriving DecidableEq, Repr

namespace Value

/-- The items of a value: of a list or tuple its own, of a map the keys, of a text the characters
and of octets the numbers. -/
def items : Value → Except Mismatch (List Value)
  | .list items | .tuple items => .ok items
  | .map entries => .ok (entries.map (·.1))
  | .str s => .ok (s.toList.map fun c => .str (String.singleton c))
  | .bytes octets => .ok (octets.map fun b => .int b.toNat)
  | _ => .error .noItems

/-- Octets as text for a numeral; octets outside ASCII are in none. -/
def numeralChars (octets : Octets) : List Char :=
  octets.map fun b => if b.toNat < 127 then Char.ofNat b.toNat else '?'

/-- The whole number that a value stands for; the fraction of a double is dropped. -/
def toInt : Value → Except Mismatch Int
  | .bool b => .ok (if b then 1 else 0)
  | .int n => .ok n
  | .float x =>
    match x.truncate? with
    | some n => .ok n
    | none => .error (if x.isNaN then .numeral else .outOfRange)
  | .str s => ofOption (Numeral.readInt? s.toList)
  | .bytes octets => ofOption (Numeral.readInt? (numeralChars octets))
  | _ => .error .noNumber
where
  ofOption : Option Int → Except Mismatch Int
    | some n => .ok n
    | none => .error .numeral

/-- The double that a value stands for. -/
def toFloat : Value → Except Mismatch Binary64
  | .bool b => ofInt (if b then 1 else 0)
  | .int n => ofInt n
  | .float x => .ok x
  | .str s => ofOption (Numeral.readFloat? s.toList)
  | .bytes octets => ofOption (Numeral.readFloat? (numeralChars octets))
  | _ => .error .noNumber
where
  ofInt (n : Int) : Except Mismatch Binary64 :=
    match Binary64.ofInt? n with
    | some x => .ok x
    | none => .error .outOfRange
  ofOption : Option Binary64 → Except Mismatch Binary64
    | some x => .ok x
    | none => .error .numeral

/-- Whether a text spells `true`, in any case of letters. -/
def isTrueText (s : String) : Bool := Text.lower s == "true"

/-- A text is true if it spells so, any other value if it counts as present. -/
def toBool : Value → Bool
  | .str s => isTrueText s
  | v => v.truthy

/-- The octet that a value stands for as an item. -/
def toOctet : Value → Except Mismatch UInt8
  | .bool b => .ok (if b then 1 else 0)
  | .int n => if 0 ≤ n ∧ n < 256 then .ok (UInt8.ofNat n.toNat) else .error .noOctet
  | _ => .error .noOctets

/-- Octets from a value that is no text: a number counts zeros, and items are octets. -/
def toOctets : Value → Except Mismatch Octets
  | .bool b => .ok (if b then [0] else [])
  | .int n =>
    if n < -(Nat.pow 2 63 : Nat) ∨ (Nat.pow 2 63 : Nat) ≤ n then .error .outOfRange
    else if n < 0 then .error .noOctet
    else .ok (List.replicate n.toNat 0)
  | .bytes octets => .ok octets
  | .str _ => .error .noOctets
  | v =>
    match v.items with
    | .ok items => items.mapM toOctet
    | .error _ => .error .noOctets

/-- The octets of a value: a text is Base64. -/
def toBlob : Value → Except Mismatch Octets
  | .str s => (Base64.decode s).mapError .base64
  | v => v.toOctets

/-- Puts an entry into a map if the key can be one. -/
def insertKey (key v : Value) (entries : List (Value × Value)) :
    Except Mismatch (List (Value × Value)) :=
  if key.isKey then .ok (insertEntry key v entries) else .error .noKey

/-- Puts a sequence of a key and a value into a map. -/
def insertPair (entries : List (Value × Value)) (pair : Value) :
    Except Mismatch (List (Value × Value)) :=
  match pair.items with
  | .ok [key, v] => insertKey key v entries
  | .ok _ => .error .noPair
  | .error e => .error e

/-- Puts the items of a list into a map as pairs, up to the first that is none. -/
def insertPairs (entries : List (Value × Value)) :
    List Value → List (Value × Value) × Option Mismatch
  | [] => (entries, none)
  | pair :: rest =>
    match insertPair entries pair with
    | .ok entries => insertPairs entries rest
    | .error e => (entries, some e)

/-- Puts a value's entries over those of a map: the entries of a map, or items that are pairs. -/
def putEntries (entries : List (Value × Value)) (v : Value) : List (Value × Value) × Option Mismatch :=
  match v with
  | .map new => (new.foldl (fun entries (key, v) => insertEntry key v entries) entries, none)
  | v =>
    match v.items with
    | .ok items => insertPairs entries items
    | .error e => (entries, some e)

/-- The entries of a value: those of a map, or items that are pairs. -/
def toEntries (v : Value) : Except Mismatch (List (Value × Value)) :=
  match putEntries [] v with
  | (entries, none) => .ok entries
  | (_, some e) => .error e

end Value

end ServiceClient
