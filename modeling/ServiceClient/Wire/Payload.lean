import ServiceClient.Json.Reader
import ServiceClient.Json.Writer
import ServiceClient.Wire.Convert
import ServiceClient.Wire.RecordType

/-!
JSON payloads. `encode` turns values into JSON data by the declarations of their records, `decode`
turns JSON data into values of a type, and `writeBody` and `readBody` do the same with the text of a
message.
-/

namespace ServiceClient.Payload

/-- Why a value cannot be sent. -/
inductive EncodeError where
  | notSent (type : String)
  | mismatch (e : Mismatch)
  deriving DecidableEq, Repr

def EncodeError.message : EncodeError → String
  | .notSent type => s!"{type} is not serializable"
  | .mismatch _ => ""

/-- The member of a payload for a field; none if it is left out. -/
def encodeField (field : RecordField) (v : Value) (plain : Except EncodeError Json) :
    Except EncodeError (Option (String × Json)) :=
  if v.isNull && field.skipNull then .ok none
  else if !v.isNull && field.blob then
    match v.toOctets with
    | .ok octets => .ok (some (field.wire, .str (Base64.encode octets)))
    | .error e => .error (.mismatch e)
  else plain.map fun data => some (field.wire, data)

/-- The name of a map's member. -/
def textOf (key : Value) : Except EncodeError String :=
  match key.keyText? with
  | some text => .ok text
  | none => .error (.mismatch .numeral)

mutual

/-- The JSON data of a value: octets are Base64 text, tuples are lists, the keys of a map are their
texts, and the members of a record have their wire names. Of members of one name the last value
counts. -/
def encode (types : RecordTypes) : Value → Except EncodeError Json
  | .null => .ok .null
  | .bool b => .ok (.bool b)
  | .int n => .ok (.int n)
  | .float x => .ok (.float x)
  | .str s => .ok (.str s)
  | .bytes octets => .ok (.str (Base64.encode octets))
  | .list items => (encodeItems types items).map .arr
  | .tuple items => (encodeItems types items).map .arr
  | .map entries => (encodeEntries types entries).map fun members => .obj (Pairs.distinct members)
  | .record name fields =>
    match types.find? name with
    | none => .error (.notSent name)
    | some type =>
      if type.sent then
        (encodeFields types type fields).map fun members => .obj (Pairs.distinct members)
      else .error (.notSent name)

def encodeItems (types : RecordTypes) : List Value → Except EncodeError (List Json)
  | [] => .ok []
  | item :: rest => do return (← encode types item) :: (← encodeItems types rest)

def encodeEntries (types : RecordTypes) :
    List (Value × Value) → Except EncodeError (List (String × Json))
  | [] => .ok []
  | (key, v) :: rest => do
    let text ← textOf key
    return (text, ← encode types v) :: (← encodeEntries types rest)

def encodeFields (types : RecordTypes) (type : RecordType) :
    List (String × Value) → Except EncodeError (List (String × Json))
  | [] => .ok []
  | (name, v) :: rest =>
    match type.field? name with
    | none => encodeFields types type rest
    | some field => do
      let member ← encodeField field v (encode types v)
      return member.toList ++ (← encodeFields types type rest)

end

/-- Leaves members out of an object. -/
def without (data : Json) (names : List String) : Json :=
  match data with
  | .obj members => .obj (members.filter fun (name, _) => !names.contains name)
  | data => data

/-- The body that carries a value, without some of its members. -/
def writeBody (types : RecordTypes) (v : Value) (excluded : List String) : Except EncodeError String :=
  (encode types v).map fun data => Json.write (without data excluded)

/-- Why data is no value of a type. -/
inductive DecodeError where
  | invalidBody
  | notReceived (type : String)
  | notAnObject (type : String) (got : Value.Kind)
  | missingMember (member type : String)
  | mismatch (e : Mismatch)
  deriving DecidableEq, Repr

def DecodeError.message : DecodeError → String
  | .invalidBody => "Invalid JSON body"
  | .notReceived type => s!"{type} is not deserializable"
  | .notAnObject type got => s!"Expected an object for {type}, got {got.name}"
  | .missingMember member type => s!"Missing required member '{member}' for {type}"
  | .mismatch _ => ""

mutual

/-- How deep the containers of a value are nested. -/
def depth : Value → Nat
  | .list items | .tuple items => depthItems items + 1
  | .map entries => depthEntries entries + 1
  | _ => 0

def depthItems : List Value → Nat
  | [] => 0
  | v :: rest => max (depth v) (depthItems rest)

def depthEntries : List (Value × Value) → Nat
  | [] => 0
  | (key, v) :: rest => max (max (depth key) (depth v)) (depthEntries rest)

end

/-- The value of a member of an object, unless it is absent or null. -/
def member? (name : String) (entries : List (Value × Value)) : Option Value :=
  (Value.findEntry? (.str name) entries).filter (!·.isNull)

theorem depthItems_map_scalar {α : Type} (f : α → Value) (hf : ∀ x, depth (f x) = 0) (xs : List α) :
    depthItems (xs.map f) = 0 := by
  induction xs with
  | nil => rfl
  | cons x rest ih => simp [depthItems, hf, ih]

theorem depthItems_le_of_items {data : Value} {items : List Value} (h : data.items = .ok items) :
    depthItems items ≤ depth data := by
  cases data <;> simp only [Value.items, Except.ok.injEq, reduceCtorEq] at h <;> subst h
  case list | tuple => simp [depth]
  case str s => rw [depthItems_map_scalar _ fun _ => rfl]; simp
  case bytes octets => rw [depthItems_map_scalar _ fun _ => rfl]; simp
  case map entries =>
    rw [depth]
    induction entries with
    | nil => simp [depthItems]
    | cons entry rest ih => simp only [List.map_cons, depthItems, depthEntries] at ih ⊢; omega

theorem depth_member? {name : String} {entries : List (Value × Value)} {v : Value}
    (h : member? name entries = some v) : depth v ≤ depthEntries entries := by
  simp only [member?, Value.findEntry?, Option.filter_eq_some_iff, Option.map_eq_some_iff] at h
  obtain ⟨⟨⟨key, w⟩, hf, rfl⟩, -⟩ := h
  have hm := List.mem_of_find?_eq_some hf
  clear hf
  induction entries with
  | nil => simp at hm
  | cons entry rest ih =>
    rw [depthEntries]
    rcases List.mem_cons.1 hm with h | h
    · cases h; omega
    · have := ih h; omega

theorem one_le_sizeOf (type : WireType) : 1 ≤ sizeOf type := by
  cases type with
  | list element => rw [WireType.list.sizeOf_spec]; omega
  | map key value => rw [WireType.map.sizeOf_spec]; omega
  | optional type => rw [WireType.optional.sizeOf_spec]; omega
  | record name => rw [WireType.record.sizeOf_spec]; omega
  | _ => exact Nat.le_refl _

theorem sizeOf_type_lt (field : RecordField) : sizeOf field.type < sizeOf field := by
  obtain ⟨name, wire, type, required, initial, blob, skipNull⟩ := field
  rw [RecordField.mk.sizeOf_spec]
  show sizeOf type < _
  omega

/-- A reading of a scalar as a value. -/
def scalar {α : Type} (make : α → Value) : Except Mismatch α → Except DecodeError Value
  | .ok x => .ok (make x)
  | .error e => .error (.mismatch e)

/-- The value that stands for a field without a member. -/
def absent (record : String) (field : RecordField) : Except DecodeError (String × Value) :=
  if field.required then .error (.missingMember field.wire record) else .ok (field.name, field.initial)

/-- A first measure that does not grow and a second that shrinks. -/
theorem lex_of_le {a b : Nat} {c d : Nat × Nat} (h : a ≤ b) (hr : Prod.Lex (· < ·) (· < ·) c d) :
    Prod.Lex (· < ·) (Prod.Lex (· < ·) (· < ·)) (a, c) (b, d) := by
  rcases Nat.lt_or_eq_of_le h with h | rfl
  · exact .left _ _ h
  · exact .right _ hr

mutual

/-- A value of a type from data. Null is null whatever the type. Scalars are read from any value that
stands for one, lists from any value with items; members that a record does not declare are ignored,
and a null member counts as absent. -/
def decode (types : RecordTypes) : WireType → Value → Except DecodeError Value
  | _, .null => .ok .null
  | .optional type, data => decode types type data
  | .list element, data =>
    match _h : data.items with
    | .error e => .error (.mismatch e)
    | .ok items => (decodeItems types element items).map .list
  | .map key value, .map entries => (decodeEntries types key value [] entries).map .map
  | .map _ _, _ => .error (.mismatch .noEntries)
  | .record name, data =>
    match types.find? name with
    | none => .error (.notReceived name)
    | some type =>
      if !type.received then .error (.notReceived name)
      else
        match data with
        | .map entries => (decodeFields types name entries type.fields).map (.record name)
        | data => .error (.notAnObject name data.kind)
  | .bytes, data => scalar .bytes data.toBlob
  | .bool, data => .ok (.bool data.toBool)
  | .int, data => scalar .int data.toInt
  | .float, data => scalar .float data.toFloat
  | .str, data => .ok (.str data.display)
  | .any, data => .ok data
termination_by type data => (depth data, sizeOf type, 0)
decreasing_by
  · exact lex_of_le (Nat.le_refl _) (.left _ _ (by rw [WireType.optional.sizeOf_spec]; omega))
  · exact lex_of_le (depthItems_le_of_items _h) (.left _ _ (by rw [WireType.list.sizeOf_spec]; omega))
  · exact .left _ _ (Nat.lt_succ_self _)
  · exact .left _ _ (Nat.lt_succ_self _)

def decodeItems (types : RecordTypes) (element : WireType) :
    List Value → Except DecodeError (List Value)
  | [] => .ok []
  | item :: rest => do return (← decode types element item) :: (← decodeItems types element rest)
termination_by items => (depthItems items, sizeOf element, items.length + 1)
decreasing_by
  · exact lex_of_le (by rw [depthItems]; omega) (.right _ (Nat.succ_pos _))
  · exact lex_of_le (by rw [depthItems]; omega) (.right _ (Nat.lt_succ_self _))

/-- Decodes entry by entry into a map. -/
def decodeEntries (types : RecordTypes) (key value : WireType) (done : List (Value × Value)) :
    List (Value × Value) → Except DecodeError (List (Value × Value))
  | [] => .ok done
  | (k, v) :: rest => do
    let k ← decode types key k
    let v ← decode types value v
    decodeEntries types key value (← (Value.insertKey k v done).mapError .mismatch) rest
termination_by entries => (depthEntries entries, sizeOf key + sizeOf value, entries.length + 1)
decreasing_by
  · exact lex_of_le (by rw [depthEntries]; omega) (.left _ _ (by have := one_le_sizeOf value; omega))
  · exact lex_of_le (by rw [depthEntries]; omega) (.left _ _ (by have := one_le_sizeOf key; omega))
  · exact lex_of_le (by rw [depthEntries]; omega) (.right _ (Nat.lt_succ_self _))

def decodeFields (types : RecordTypes) (record : String) (entries : List (Value × Value)) :
    List RecordField → Except DecodeError (List (String × Value))
  | [] => .ok []
  | field :: rest =>
    match _h : member? field.wire entries with
    | some v => do
      let v ← decode types field.type v
      return (field.name, v) :: (← decodeFields types record entries rest)
    | none => do
      let first ← absent record field
      return first :: (← decodeFields types record entries rest)
termination_by fields => (depthEntries entries, sizeOf fields, 0)
decreasing_by
  · refine lex_of_le (depth_member? _h) (.left _ _ ?_)
    have := sizeOf_type_lt field
    rw [List.cons.sizeOf_spec]
    omega
  · exact lex_of_le (Nat.le_refl _) (.left _ _ (by rw [List.cons.sizeOf_spec]; omega))
  · exact lex_of_le (Nat.le_refl _) (.left _ _ (by rw [List.cons.sizeOf_spec]; omega))

end

/-- The data of a body; a body that is blank is an empty object. -/
def parseBody (body : Octets) : Except DecodeError Json :=
  if body.all fun b => Text.isPlainBlank (Char.ofNat b.toNat) then .ok (.obj [])
  else
    match Json.parseOctets? body with
    | some data => .ok data
    | none => .error .invalidBody

/-- Puts values from outside a body over its data; null values are left out. -/
def overlay (data : Value) (extra : List (Value × Value)) : Except Mismatch Value :=
  if extra.isEmpty then .ok data
  else data.toEntries.map fun entries =>
    .map ((extra.filter fun (_, v) => !v.isNull).foldl
      (fun entries (key, v) => Value.insertEntry key v entries) entries)

/-- The value of a type that a body carries, with values from outside the body put over its
members. -/
def readBody (types : RecordTypes) (type : WireType) (body : Octets) (extra : List (Value × Value)) :
    Except DecodeError Value := do
  let data ← parseBody body
  let data ← (overlay (.ofJson data) extra).mapError .mismatch
  decode types type data

end ServiceClient.Payload
