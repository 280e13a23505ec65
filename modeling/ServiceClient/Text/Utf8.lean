/-!
Octets and text. `utf8Encode` writes the shortest form of each character, `utf8Decode?` reads
exactly that and `utf8DecodeLossy` puts U+FFFD for each maximal part that no character could start
with. The wider encodings are read by `decodeUnits?`.
-/

namespace ServiceClient

/-- A sequence of octets. -/
abbrev Octets := List UInt8

namespace Text

def utf8Encode (s : String) : Octets := s.toList.flatMap String.utf8EncodeChar

/-- Continuation octets that a first octet calls for, and the range of the first of them. -/
structure Utf8Lead where
  more : Nat
  low : Nat
  high : Nat
  /-- The bits that the first octet gives. -/
  bits : Nat

def utf8Lead? (b : Nat) : Option Utf8Lead :=
  if b < 0x80 then some ⟨0, 0, 0, b⟩
  else if b < 0xC2 then none
  else if b < 0xE0 then some ⟨1, 0x80, 0xBF, b - 0xC0⟩
  else if b = 0xE0 then some ⟨2, 0xA0, 0xBF, 0⟩
  else if b = 0xED then some ⟨2, 0x80, 0x9F, 0xD⟩
  else if b < 0xF0 then some ⟨2, 0x80, 0xBF, b - 0xE0⟩
  else if b = 0xF0 then some ⟨3, 0x90, 0xBF, 0⟩
  else if b < 0xF4 then some ⟨3, 0x80, 0xBF, b - 0xF0⟩
  else if b = 0xF4 then some ⟨3, 0x80, 0x8F, 4⟩
  else none

/-- Reads the continuation octets of one character. The octets that fit are consumed even when one
is missing after them. -/
def utf8More : Nat → Nat → Nat → Nat → Octets → Option Nat × Octets
  | 0, _, _, code, rest => (some code, rest)
  | _ + 1, _, _, _, [] => (none, [])
  | more + 1, low, high, code, b :: rest =>
    if low ≤ b.toNat ∧ b.toNat ≤ high then
      utf8More more 0x80 0xBF (code * 64 + (b.toNat - 0x80)) rest
    else (none, b :: rest)

theorem utf8More_length (more low high code : Nat) (bs : Octets) :
    (utf8More more low high code bs).2.length ≤ bs.length := by
  induction more generalizing low high code bs with
  | zero => simp [utf8More]
  | succ more ih =>
    cases bs with
    | nil => simp [utf8More]
    | cons b rest =>
      rw [utf8More]
      split
      · exact Nat.le_trans (ih _ _ _ _) (by simp)
      · simp

/-- The first character, or none for a part that is ill-formed, and the rest. -/
def utf8Step (b : UInt8) (rest : Octets) : Option Char × Octets :=
  match utf8Lead? b.toNat with
  | none => (none, rest)
  | some lead =>
    let (code, rest) := utf8More lead.more lead.low lead.high lead.bits rest
    (code.map Char.ofNat, rest)

theorem utf8Step_length (b : UInt8) (rest : Octets) :
    (utf8Step b rest).2.length < rest.length + 1 := by
  unfold utf8Step
  split
  · simp
  · exact Nat.lt_succ_of_le (utf8More_length _ _ _ _ _)

/-- The characters of the octets, with none for each ill-formed part. -/
def utf8Parts : Octets → List (Option Char)
  | [] => []
  | b :: rest => (utf8Step b rest).1 :: utf8Parts (utf8Step b rest).2
termination_by bs => bs.length
decreasing_by exact utf8Step_length b rest

/-- The text of well-formed octets. -/
def utf8Decode? (bs : Octets) : Option String :=
  ((utf8Parts bs).mapM id).map String.ofList

/-- The character that stands for what cannot be read. -/
def replacement : Char := '\uFFFD'

/-- The text of any octets, U+FFFD standing for each ill-formed part. -/
def utf8DecodeLossy (bs : Octets) : String :=
  String.ofList ((utf8Parts bs).map (·.getD replacement))

/-- Octets with those of U+FFFD for those of each surrogate, which is no character but has octets. -/
def replaceSurrogates : Octets → Octets
  | a :: b :: c :: rest =>
    if a = 0xED ∧ (0xA0 ≤ b ∧ b ≤ 0xBF) ∧ (0x80 ≤ c ∧ c ≤ 0xBF) then
      0xEF :: 0xBF :: 0xBD :: replaceSurrogates rest
    else a :: replaceSurrogates (b :: c :: rest)
  | bs => bs

/-- The order of the octets in a code unit. -/
inductive ByteOrder where
  | big
  | little
  deriving DecidableEq

def ByteOrder.value : ByteOrder → Octets → Nat
  | .big, bs => bs.foldl (fun n b => n * 256 + b.toNat) 0
  | .little, bs => bs.foldr (fun b n => n * 256 + b.toNat) 0

/-- Code units of two octets each. -/
def units16? (order : ByteOrder) : Octets → Option (List Nat)
  | [] => some []
  | a :: b :: rest => (units16? order rest).map (order.value [a, b] :: ·)
  | _ => none

/-- Code units of four octets each. -/
def units32? (order : ByteOrder) : Octets → Option (List Nat)
  | [] => some []
  | a :: b :: c :: d :: rest => (units32? order rest).map (order.value [a, b, c, d] :: ·)
  | _ => none

def isHighSurrogate (n : Nat) : Bool := 0xD800 ≤ n && n < 0xDC00

def isLowSurrogate (n : Nat) : Bool := 0xDC00 ≤ n && n < 0xE000

/-- The character of a surrogate pair. -/
def joinSurrogates (high low : Nat) : Char :=
  Char.ofNat (0x10000 + (high - 0xD800) * 1024 + (low - 0xDC00))

/-- Whether a surrogate stands without its partner among 16-bit units. -/
def hasLoneSurrogate : List Nat → Bool
  | [] => false
  | [n] => isHighSurrogate n || isLowSurrogate n
  | n :: next :: rest =>
    if isHighSurrogate n && isLowSurrogate next then hasLoneSurrogate rest
    else isHighSurrogate n || isLowSurrogate n || hasLoneSurrogate (next :: rest)

/-- Characters of 16-bit units; a surrogate without its partner cannot be a character. -/
def utf16Characters : List Nat → List Char
  | [] => []
  | [n] => [if isHighSurrogate n || isLowSurrogate n then replacement else Char.ofNat n]
  | n :: next :: rest =>
    if isHighSurrogate n && isLowSurrogate next then joinSurrogates n next :: utf16Characters rest
    else
      (if isHighSurrogate n || isLowSurrogate n then replacement else Char.ofNat n) ::
        utf16Characters (next :: rest)

/-- Characters of 32-bit units; none if a unit is out of range. -/
def utf32Characters? (units : List Nat) : Option (List Char) :=
  units.mapM fun n =>
    if 0x110000 ≤ n then none
    else some (if isHighSurrogate n || isLowSurrogate n then replacement else Char.ofNat n)

end Text

end ServiceClient
