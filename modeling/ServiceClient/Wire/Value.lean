import ServiceClient.Json.Basic
import ServiceClient.Number.Numeral
import ServiceClient.Number.Shortest
import ServiceClient.Text.Quoted
import ServiceClient.Text.Split
import ServiceClient.Text.Utf8

/-!
The values that a client's callers hand over and get back: JSON data, octets, tuples, maps with keys
of any scalar kind, and records. `display` is their text where no format prescribes one.
-/

namespace ServiceClient

/-- A value at the interface of a client. The keys of a map are distinct by `Value.sameKey`; a
record has all the fields of its type, in order. -/
inductive Value where
  | null
  | bool (b : Bool)
  | int (n : Int)
  | float (x : Binary64)
  | str (s : String)
  | bytes (octets : Octets)
  | list (items : List Value)
  | tuple (items : List Value)
  | map (entries : List (Value × Value))
  | record (type : String) (fields : List (String × Value))
  deriving Repr, Inhabited, BEq

namespace Value

def isNull : Value → Bool
  | .null => true
  | _ => false

mutual

/-- JSON data as a value. -/
def ofJson : Json → Value
  | .null => .null
  | .bool b => .bool b
  | .int n => .int n
  | .float x => .float x
  | .str s => .str s
  | .arr items => .list (ofJsonItems items)
  | .obj fields => .map (ofJsonFields fields)

def ofJsonItems : List Json → List Value
  | [] => []
  | item :: rest => ofJson item :: ofJsonItems rest

def ofJsonFields : List (String × Json) → List (Value × Value)
  | [] => []
  | (name, v) :: rest => (.str name, ofJson v) :: ofJsonFields rest

end

/-- The kinds of values. -/
inductive Kind where
  | null
  | bool
  | int
  | float
  | str
  | bytes
  | list
  | tuple
  | map
  | record (type : String)
  deriving DecidableEq, Repr

def kind : Value → Kind
  | .null => .null
  | .bool _ => .bool
  | .int _ => .int
  | .float _ => .float
  | .str _ => .str
  | .bytes _ => .bytes
  | .list _ => .list
  | .tuple _ => .tuple
  | .map _ => .map
  | .record type _ => .record type

/-- The name of a kind in messages. -/
def Kind.name : Kind → String
  | .null => "NoneType"
  | .bool => "bool"
  | .int => "int"
  | .float => "float"
  | .str => "str"
  | .bytes => "bytes"
  | .list => "list"
  | .tuple => "tuple"
  | .map => "dict"
  | .record type => type

/-- Whether a value counts as present: not null, false, zero or empty. -/
def truthy : Value → Bool
  | .null => false
  | .bool b => b
  | .int n => n != 0
  | .float x => !x.isZero
  | .str s => !s.isEmpty
  | .bytes octets => !octets.isEmpty
  | .list items => !items.isEmpty
  | .tuple items => !items.isEmpty
  | .map entries => !entries.isEmpty
  | .record _ _ => true

/-- Truth values count as the numbers one and zero. -/
def asNumber? : Value → Option (Int ⊕ Binary64)
  | .bool b => some (.inl (if b then 1 else 0))
  | .int n => some (.inl n)
  | .float x => some (.inr x)
  | _ => none

/-- Numeric equality across truth values, integers and doubles. -/
def sameNumber : Int ⊕ Binary64 → Int ⊕ Binary64 → Bool
  | .inl m, .inl n => m == n
  | .inl m, .inr y => y.eqInt m
  | .inr x, .inl n => x.eqInt n
  | .inr x, .inr y => x.numEq y

mutual

/-- Whether two keys name the same entry of a map: numbers by their value, tuples item by item. -/
def sameKey : Value → Value → Bool
  | .tuple a, .tuple b => sameKeys a b
  | .str a, .str b => a == b
  | .bytes a, .bytes b => a == b
  | .null, .null => true
  | a, b =>
    match a.asNumber?, b.asNumber? with
    | some x, some y => sameNumber x y
    | _, _ => false

def sameKeys : List Value → List Value → Bool
  | [], [] => true
  | a :: as, b :: bs => sameKey a b && sameKeys as bs
  | _, _ => false

end

/-- Values that may be keys. -/
def isKey : Value → Bool
  | .list _ | .map _ | .record _ _ => false
  | .tuple items => keys items
  | _ => true
where
  keys : List Value → Bool
    | [] => true
    | v :: rest => isKey v && keys rest

/-- Puts an entry into a map: a key that is there keeps its place and gets the new value. -/
def insertEntry {β : Type} (key : Value) (v : β) : List (Value × β) → List (Value × β)
  | [] => [(key, v)]
  | (k, old) :: rest =>
    if sameKey k key then (k, v) :: rest else (k, old) :: insertEntry key v rest

/-- The entry of a map under a key. -/
def findEntry? {β : Type} (key : Value) (entries : List (Value × β)) : Option β :=
  (entries.find? fun entry => sameKey entry.1 key).map (·.2)

mutual

/-- The text of a value inside a container: texts are in quotes. -/
def shown : Value → String
  | .null => "None"
  | .bool b => if b then "True" else "False"
  | .int n => toString n
  | .float x => x.text Binary64.displayed
  | .str s => Text.Quoted.text s
  | .bytes octets => Text.Quoted.octets octets
  | .list items => "[" ++ Text.intercalate ", " (shownItems items) ++ "]"
  | .tuple items =>
    "(" ++ Text.intercalate ", " (shownItems items) ++ (if items.length = 1 then ",)" else ")")
  | .map entries => "\x7b" ++ Text.intercalate ", " (shownEntries entries) ++ "\x7d"
  | .record type fields => type ++ "(" ++ Text.intercalate ", " (shownFields fields) ++ ")"

def shownItems : List Value → List String
  | [] => []
  | item :: rest => shown item :: shownItems rest

def shownEntries : List (Value × Value) → List String
  | [] => []
  | (key, v) :: rest => (shown key ++ ": " ++ shown v) :: shownEntries rest

def shownFields : List (String × Value) → List String
  | [] => []
  | (name, v) :: rest => (name ++ "=" ++ shown v) :: shownFields rest

end

/-- The text of a value by itself: a text is its own. -/
def display : Value → String
  | .str s => s
  | v => shown v

/-- Whether the whole numbers in a key have no more digits than a text may give them. -/
def writable : Value → Bool
  | .int n => n.natAbs < Numeral.limit
  | .tuple items => all items
  | _ => true
where
  all : List Value → Bool
    | [] => true
    | v :: rest => writable v && all rest

/-- The text of a key. -/
def keyText? (key : Value) : Option String := if key.writable then some key.display else none

end Value

/-- The text of a document where one is put into other text. -/
def Json.display (j : Json) : String := (Value.ofJson j).display

end ServiceClient
