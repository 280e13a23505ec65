import ServiceClient.Wire.Value

/-!
The order of keys. Texts are ordered by their characters, octets by their numbers, numbers by size
and tuples item by item; keys of different kinds have no order.
-/

namespace ServiceClient.Value

/-- Where a number stands: below, among or above the finite ones, and there in units that make every
finite double whole. -/
def place? : Int ⊕ Binary64 → Option (Int × Int)
  | .inl n => some (0, n * Nat.pow 2 1074)
  | .inr x =>
    match x.reading with
    | .nan => none
    | .infinite negative => some (if negative then -1 else 1, 0)
    | .finite negative m q =>
      let size : Nat := m * Nat.pow 2 (q + 1074).toNat
      some (0, if negative then -(size : Int) else size)

/-- Whether a number is less than another; never with one that is no number. -/
def numberLt (x y : Int ⊕ Binary64) : Bool :=
  match place? x, place? y with
  | some a, some b => a.1 < b.1 || (a.1 == b.1 && a.2 < b.2)
  | _, _ => false

mutual

/-- Whether a key comes before another; none if they have no order. -/
def keyLt? : Value → Value → Option Bool
  | .str a, .str b => some (decide (a < b))
  | .bytes a, .bytes b => some (decide (a < b))
  | .tuple a, .tuple b => keysLt? a b
  | a, b => do return numberLt (← a.asNumber?) (← b.asNumber?)

def keysLt? : List Value → List Value → Option Bool
  | [], [] => some false
  | [], _ :: _ => some true
  | _ :: _, [] => some false
  | a :: as, b :: bs => if sameKey a b then keysLt? as bs else keyLt? a b

end

/-- Entries in the order of their keys; none if two keys have no order. -/
def sortByKey? {β : Type} (entries : List (Value × β)) : Option (List (Value × β)) :=
  let keys := entries.map (·.1)
  let ordered := (List.range keys.length).all fun i =>
    (keys.drop (i + 1)).all fun b => (keys[i]?.bind (keyLt? · b)).isSome
  if ordered then some (entries.mergeSort fun a b => !(keyLt? b.1 a.1).getD false) else none

end ServiceClient.Value
