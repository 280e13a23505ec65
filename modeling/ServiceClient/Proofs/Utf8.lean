import Mathlib.Tactic.IntervalCases
import ServiceClient.Text.Utf8

/-!
Octets of a text are read back as the text, and no other octets are read as one. The first octet of a
character fixes how many follow and the range of the next one; each of those that follow adds six
bits.
-/

namespace ServiceClient.Text

/-! ### One octet -/

/-- An octet in its range after the first one of a character adds six bits. -/
theorem utf8More_six {more low high code n : Nat} {rest : Octets} (small : n < 64)
    (atLeast : low ≤ n + 128) (atMost : n + 128 ≤ high) :
    utf8More (more + 1) low high code (UInt8.ofNat (n + 128) :: rest) =
      utf8More more 0x80 0xBF (code * 64 + n) rest := by
  have octet : (UInt8.ofNat (n + 128)).toNat = n + 128 := by
    rw [UInt8.toNat_ofNat', Nat.mod_eq_of_lt (by omega)]
  rw [utf8More, octet, if_pos ⟨atLeast, atMost⟩, Nat.add_sub_cancel]

theorem utf8Lead?_two {n : Nat} (atLeast : 2 ≤ n) (small : n < 32) :
    utf8Lead? (UInt8.ofNat (n + 192)).toNat = some ⟨1, 0x80, 0xBF, n⟩ := by
  interval_cases n <;> rfl

/-- Characters below U+0800 have shorter forms, and surrogates are no characters. -/
theorem utf8Lead?_three {n : Nat} (small : n < 16) :
    utf8Lead? (UInt8.ofNat (n + 224)).toNat =
      some ⟨2, if n = 0 then 0xA0 else 0x80, if n = 13 then 0x9F else 0xBF, n⟩ := by
  interval_cases n <;> rfl

/-- Characters below U+10000 have shorter forms, and there are none above U+10FFFF. -/
theorem utf8Lead?_four {n : Nat} (small : n < 5) :
    utf8Lead? (UInt8.ofNat (n + 240)).toNat =
      some ⟨3, if n = 0 then 0x90 else 0x80, if n = 4 then 0x8F else 0xBF, n⟩ := by
  interval_cases n <;> rfl

theorem toNat_ofNat_octet (b : UInt8) : (Char.ofNat b.toNat).toNat = b.toNat := by
  have small := b.toNat_lt
  have valid : b.toNat.isValidChar := .inl (by omega)
  rw [show Char.ofNat b.toNat = Char.ofNatAux b.toNat valid from dif_pos valid]
  rfl

/-! ### One character -/

variable {v : Nat}

theorem utf8Step_one (small : v ≤ 127) (rest : Octets) :
    utf8Step (UInt8.ofNat v) rest = (some (Char.ofNat v), rest) := by
  have lead : utf8Lead? (UInt8.ofNat v).toNat = some ⟨0, 0, 0, v⟩ := by
    rw [UInt8.toNat_ofNat', Nat.mod_eq_of_lt (by omega), utf8Lead?, if_pos (by omega)]
  rw [utf8Step, lead]
  rfl

theorem utf8Step_two (large : 127 < v) (small : v ≤ 2047) (rest : Octets) :
    utf8Step (UInt8.ofNat (v / 64 % 32 + 192)) (UInt8.ofNat (v % 64 + 128) :: rest) =
      (some (Char.ofNat v), rest) := by
  have code : v / 64 % 32 * 64 + v % 64 = v := by omega
  rw [utf8Step, utf8Lead?_two (by omega) (by omega)]
  dsimp only
  rw [utf8More_six (by omega) (by omega) (by omega), utf8More, code]
  rfl

theorem utf8Step_three (large : 2047 < v) (small : v ≤ 65535) (valid : v < 0xD800 ∨ 0xDFFF < v)
    (rest : Octets) :
    utf8Step (UInt8.ofNat (v / 4096 % 16 + 224))
        (UInt8.ofNat (v / 64 % 64 + 128) :: UInt8.ofNat (v % 64 + 128) :: rest) =
      (some (Char.ofNat v), rest) := by
  have code : (v / 4096 % 16 * 64 + v / 64 % 64) * 64 + v % 64 = v := by omega
  have atLeast : (if v / 4096 % 16 = 0 then 0xA0 else 0x80) ≤ v / 64 % 64 + 128 := by
    split <;> omega
  have atMost : v / 64 % 64 + 128 ≤ if v / 4096 % 16 = 13 then 0x9F else 0xBF := by
    split <;> omega
  rw [utf8Step, utf8Lead?_three (by omega)]
  dsimp only
  rw [utf8More_six (by omega) atLeast atMost, utf8More_six (by omega) (by omega) (by omega),
    utf8More, code]
  rfl

theorem utf8Step_four (large : 65535 < v) (small : v < 0x110000) (rest : Octets) :
    utf8Step (UInt8.ofNat (v / 262144 % 8 + 240))
        (UInt8.ofNat (v / 4096 % 64 + 128) :: UInt8.ofNat (v / 64 % 64 + 128) ::
          UInt8.ofNat (v % 64 + 128) :: rest) =
      (some (Char.ofNat v), rest) := by
  have code : ((v / 262144 % 8 * 64 + v / 4096 % 64) * 64 + v / 64 % 64) * 64 + v % 64 = v := by
    omega
  have atLeast : (if v / 262144 % 8 = 0 then 0x90 else 0x80) ≤ v / 4096 % 64 + 128 := by
    split <;> omega
  have atMost : v / 4096 % 64 + 128 ≤ if v / 262144 % 8 = 4 then 0x8F else 0xBF := by
    split <;> omega
  rw [utf8Step, utf8Lead?_four (by omega)]
  dsimp only
  rw [utf8More_six (by omega) atLeast atMost, utf8More_six (by omega) (by omega) (by omega),
    utf8More_six (by omega) (by omega) (by omega), utf8More, code]
  rfl

theorem utf8Parts_of_step {b : UInt8} {bs rest : Octets} {c : Option Char}
    (step : utf8Step b bs = (c, rest)) : utf8Parts (b :: bs) = c :: utf8Parts rest := by
  rw [utf8Parts, step]

/-- Octets that begin with those of a character are read as the character and what the rest is. -/
theorem utf8Parts_encodeChar (c : Char) (rest : Octets) :
    utf8Parts (String.utf8EncodeChar c ++ rest) = some c :: utf8Parts rest := by
  have valid : c.val.toNat < 0xD800 ∨ 0xDFFF < c.val.toNat ∧ c.val.toNat < 0x110000 := c.valid
  have back : Char.ofNat c.val.toNat = c := Char.ofNat_toNat c
  rw [String.utf8EncodeChar]
  -- the form of a character is as short as its number allows
  split_ifs with one two three
  · have step := utf8Parts_of_step (utf8Step_one one rest)
    rwa [back] at step
  · have step := utf8Parts_of_step (utf8Step_two (by omega) two rest)
    rwa [back] at step
  · have step := utf8Parts_of_step (utf8Step_three (by omega) three (by omega) rest)
    rwa [back] at step
  · have step := utf8Parts_of_step (utf8Step_four (v := c.val.toNat) (by omega) (by omega) rest)
    rwa [back] at step

/-! ### One character read -/

/-- A character goes on with octets in their ranges. -/
theorem utf8More_succ_eq_some {more low high code n : Nat} {bs rest : Octets}
    (read : utf8More (more + 1) low high code bs = (some n, rest)) :
    ∃ b tail, bs = b :: tail ∧ low ≤ b.toNat ∧ b.toNat ≤ high ∧
      utf8More more 0x80 0xBF (code * 64 + (b.toNat - 0x80)) tail = (some n, rest) := by
  cases bs with
  | nil => simp [utf8More] at read
  | cons b tail =>
    rw [utf8More] at read
    split at read
    case isTrue inRange => exact ⟨b, tail, rfl, inRange.1, inRange.2, read⟩
    case isFalse => simp at read

theorem utf8More_zero_eq_some {low high code n : Nat} {bs rest : Octets}
    (read : utf8More 0 low high code bs = (some n, rest)) : n = code ∧ bs = rest := by
  simp only [utf8More, Prod.mk.injEq, Option.some.injEq] at read
  exact ⟨read.1.symm, read.2⟩

/-- The form of the character with a number. -/
theorem encodeChar_ofNat {n : Nat} (valid : n < 0xD800 ∨ 0xDFFF < n ∧ n < 0x110000) :
    String.utf8EncodeChar (Char.ofNat n) =
      if n ≤ 127 then [UInt8.ofNat n]
      else if n ≤ 2047 then [UInt8.ofNat (n / 64 % 32 + 192), UInt8.ofNat (n % 64 + 128)]
      else if n ≤ 65535 then
        [UInt8.ofNat (n / 4096 % 16 + 224), UInt8.ofNat (n / 64 % 64 + 128),
          UInt8.ofNat (n % 64 + 128)]
      else
        [UInt8.ofNat (n / 262144 % 8 + 240), UInt8.ofNat (n / 4096 % 64 + 128),
          UInt8.ofNat (n / 64 % 64 + 128), UInt8.ofNat (n % 64 + 128)] := by
  have number : (Char.ofNat n).val.toNat = n := by
    rw [Char.ofNat, dif_pos (show n.isValidChar from valid)]
    rfl
  rw [String.utf8EncodeChar, number]

theorem ofNat_eq_of_toNat {b : UInt8} {n : Nat} (same : n = b.toNat) : UInt8.ofNat n = b := by
  rw [same, UInt8.ofNat_toNat]

section Forms

variable {first second third fourth : UInt8} {n : Nat}

theorem encodeChar_one (small : first.toNat < 0x80) :
    String.utf8EncodeChar (Char.ofNat first.toNat) = [first] := by
  rw [encodeChar_ofNat (by omega), if_pos (by omega), UInt8.ofNat_toNat]

theorem encodeChar_two (atLeast : 0xC2 ≤ first.toNat) (below : first.toNat < 0xE0)
    (low : 0x80 ≤ second.toNat) (high : second.toNat ≤ 0xBF)
    (number : n = (first.toNat - 0xC0) * 64 + (second.toNat - 0x80)) :
    String.utf8EncodeChar (Char.ofNat n) = [first, second] := by
  rw [encodeChar_ofNat (by omega), if_neg (by omega), if_pos (by omega),
    ofNat_eq_of_toNat (b := first) (by omega), ofNat_eq_of_toNat (b := second) (by omega)]

theorem encodeChar_three (atLeast : 0xE0 ≤ first.toNat) (below : first.toNat < 0xF0)
    (low : (if first.toNat = 0xE0 then 0xA0 else 0x80) ≤ second.toNat)
    (high : second.toNat ≤ if first.toNat = 0xED then 0x9F else 0xBF)
    (lowThird : 0x80 ≤ third.toNat) (highThird : third.toNat ≤ 0xBF)
    (number : n = ((first.toNat - 0xE0) * 64 + (second.toNat - 0x80)) * 64 + (third.toNat - 0x80)) :
    String.utf8EncodeChar (Char.ofNat n) = [first, second, third] := by
  split at low <;> split at high <;>
  rw [encodeChar_ofNat (by omega), if_neg (by omega), if_neg (by omega), if_pos (by omega),
    ofNat_eq_of_toNat (b := first) (by omega), ofNat_eq_of_toNat (b := second) (by omega),
    ofNat_eq_of_toNat (b := third) (by omega)]

theorem encodeChar_four (atLeast : 0xF0 ≤ first.toNat) (atMost : first.toNat ≤ 0xF4)
    (low : (if first.toNat = 0xF0 then 0x90 else 0x80) ≤ second.toNat)
    (high : second.toNat ≤ if first.toNat = 0xF4 then 0x8F else 0xBF)
    (lowThird : 0x80 ≤ third.toNat) (highThird : third.toNat ≤ 0xBF)
    (lowFourth : 0x80 ≤ fourth.toNat) (highFourth : fourth.toNat ≤ 0xBF)
    (number : n = (((first.toNat - 0xF0) * 64 + (second.toNat - 0x80)) * 64 +
      (third.toNat - 0x80)) * 64 + (fourth.toNat - 0x80)) :
    String.utf8EncodeChar (Char.ofNat n) = [first, second, third, fourth] := by
  split at low <;> split at high <;>
  rw [encodeChar_ofNat (by omega), if_neg (by omega), if_neg (by omega), if_neg (by omega),
    ofNat_eq_of_toNat (b := first) (by omega), ofNat_eq_of_toNat (b := second) (by omega),
    ofNat_eq_of_toNat (b := third) (by omega), ofNat_eq_of_toNat (b := fourth) (by omega)]

end Forms

/-- The first octets of characters of one, two, three and four octets. -/
theorem utf8Lead?_eq_some {b : Nat} {lead : Utf8Lead} (leads : utf8Lead? b = some lead) :
    (b < 0x80 ∧ lead = ⟨0, 0, 0, b⟩) ∨
    (0xC2 ≤ b ∧ b < 0xE0 ∧ lead = ⟨1, 0x80, 0xBF, b - 0xC0⟩) ∨
    (0xE0 ≤ b ∧ b < 0xF0 ∧
      lead = ⟨2, if b = 0xE0 then 0xA0 else 0x80, if b = 0xED then 0x9F else 0xBF, b - 0xE0⟩) ∨
    (0xF0 ≤ b ∧ b ≤ 0xF4 ∧
      lead = ⟨3, if b = 0xF0 then 0x90 else 0x80, if b = 0xF4 then 0x8F else 0xBF, b - 0xF0⟩) := by
  unfold utf8Lead? at leads
  split_ifs at leads <;> obtain rfl := Option.some.inj leads
  · exact .inl ⟨by omega, rfl⟩
  · exact .inr (.inl ⟨by omega, by omega, rfl⟩)
  · exact .inr (.inr (.inl ⟨by omega, by omega, by simp [*]⟩))
  · exact .inr (.inr (.inl ⟨by omega, by omega, by simp [*]⟩))
  · exact .inr (.inr (.inl ⟨by omega, by omega, by simp [*]⟩))
  · exact .inr (.inr (.inr ⟨by omega, by omega, by simp [*]⟩))
  · exact .inr (.inr (.inr ⟨by omega, by omega, by rw [if_neg (by omega), if_neg (by omega)]⟩))
  · exact .inr (.inr (.inr ⟨by omega, by omega, by simp [*]⟩))

/-- The octets that one step takes are those of the character that it gives. -/
theorem eq_encodeChar_of_utf8Step {b : UInt8} {bs rest : Octets} {c : Char}
    (step : utf8Step b bs = (some c, rest)) : b :: bs = String.utf8EncodeChar c ++ rest := by
  unfold utf8Step at step
  split at step
  case h_1 => simp at step
  case h_2 lead leads =>
    cases found : utf8More lead.more lead.low lead.high lead.bits bs with
    | mk code after =>
      simp only [found, Prod.mk.injEq, Option.map_eq_some_iff] at step
      obtain ⟨⟨n, rfl, rfl⟩, rfl⟩ := step
      rcases utf8Lead?_eq_some leads with
        ⟨small, rfl⟩ | ⟨atLeast, below, rfl⟩ | ⟨atLeast, below, rfl⟩ | ⟨atLeast, atMost, rfl⟩
      · obtain ⟨rfl, rfl⟩ := utf8More_zero_eq_some found
        rw [encodeChar_one small]
        rfl
      · obtain ⟨second, bs, rfl, low, high, found⟩ := utf8More_succ_eq_some found
        obtain ⟨number, rfl⟩ := utf8More_zero_eq_some found
        rw [encodeChar_two atLeast below low high number]
        rfl
      · obtain ⟨second, bs, rfl, low, high, found⟩ := utf8More_succ_eq_some found
        obtain ⟨third, bs, rfl, lowThird, highThird, found⟩ := utf8More_succ_eq_some found
        obtain ⟨number, rfl⟩ := utf8More_zero_eq_some found
        rw [encodeChar_three atLeast below low high lowThird highThird number]
        rfl
      · obtain ⟨second, bs, rfl, low, high, found⟩ := utf8More_succ_eq_some found
        obtain ⟨third, bs, rfl, lowThird, highThird, found⟩ := utf8More_succ_eq_some found
        obtain ⟨fourth, bs, rfl, lowFourth, highFourth, found⟩ := utf8More_succ_eq_some found
        obtain ⟨number, rfl⟩ := utf8More_zero_eq_some found
        rw [encodeChar_four atLeast atMost low high lowThird highThird lowFourth highFourth number]
        rfl

theorem toNat_of_isAlphanum {c : Char} (alphanumeric : c.isAlphanum) :
    48 ≤ c.toNat ∧ c.toNat ≤ 122 := by
  have ranges : c.isAlphanum = (decide (65 ≤ c.val ∧ c.val ≤ 90) ||
      decide (97 ≤ c.val) && decide (c.val ≤ 122) ||
      decide (48 ≤ c.val) && decide (c.val ≤ 57)) := rfl
  rw [ranges] at alphanumeric
  simp only [Bool.or_eq_true, Bool.and_eq_true, decide_eq_true_eq, UInt32.le_iff_toNat_le,
    UInt32.reduceToNat, Char.toNat_val] at alphanumeric
  omega

/-- The octets of a character from `@` on begin with none below that of `@`. -/
theorem utf8EncodeChar_starts {c : Char} (high : 64 ≤ c.toNat) :
    ∃ b more, String.utf8EncodeChar c = b :: more ∧ 64 ≤ b.toNat := by
  have number : c.val.toNat = c.toNat := rfl
  rw [String.utf8EncodeChar]
  split_ifs with one two three
  all_goals
    refine ⟨_, _, rfl, ?_⟩
    rw [UInt8.toNat_ofNat']
    omega

/-! ### Texts -/

theorem utf8Parts_utf8Encode (s : String) : utf8Parts (utf8Encode s) = s.toList.map some := by
  rw [utf8Encode]
  induction s.toList with
  | nil => rw [List.flatMap_nil, utf8Parts, List.map_nil]
  | cons c rest ih => rw [List.flatMap_cons, utf8Parts_encodeChar, ih, List.map_cons]

theorem mapM_id_eq_some_iff {parts : List (Option Char)} {cs : List Char} :
    parts.mapM id = some cs ↔ parts = cs.map some := by
  induction parts generalizing cs with
  | nil => cases cs <;> simp
  | cons part rest ih =>
    cases cs with
    | nil => simp [Option.bind_eq_some_iff]
    | cons c cs => simp [Option.bind_eq_some_iff, ih]

/-- The octets of a text are well-formed, and they are those of no other text. -/
theorem utf8Decode?_utf8Encode (s : String) : utf8Decode? (utf8Encode s) = some s := by
  rw [utf8Decode?, utf8Parts_utf8Encode, mapM_id_eq_some_iff.mpr rfl, Option.map_some,
    String.ofList_toList]

theorem eq_utf8Encode_of_utf8Parts {bs : Octets} {cs : List Char}
    (parts : utf8Parts bs = cs.map some) : bs = cs.flatMap String.utf8EncodeChar := by
  fun_induction utf8Parts bs generalizing cs with
  | case1 =>
    cases cs with
    | nil => rfl
    | cons c cs => cases parts
  | case2 b bs ih =>
    cases cs with
    | nil => cases parts
    | cons c cs =>
      obtain ⟨first, others⟩ := List.cons.inj parts
      rw [eq_encodeChar_of_utf8Step (Prod.ext first rfl), List.flatMap_cons, ← ih others]

/-- Octets are read as a text if they are its form, and only then. -/
theorem utf8Decode?_eq_some_iff {bs : Octets} {s : String} :
    utf8Decode? bs = some s ↔ bs = utf8Encode s := by
  constructor
  · intro decoded
    obtain ⟨cs, parts, rfl⟩ := Option.map_eq_some_iff.mp decoded
    rw [utf8Encode, String.toList_ofList]
    exact eq_utf8Encode_of_utf8Parts (mapM_id_eq_some_iff.mp parts)
  · rintro rfl
    exact utf8Decode?_utf8Encode s

theorem replaceSurrogates_of_ascii {bs : Octets} (ascii : ∀ b ∈ bs, b.toNat < 128) :
    replaceSurrogates bs = bs := by
  fun_induction replaceSurrogates bs with
  | case1 a b c rest surrogate ih =>
    have small := ascii a List.mem_cons_self
    rw [surrogate.1] at small
    exact absurd small (by decide)
  | case2 a b c rest _ ih => rw [ih fun b inside => ascii b (List.mem_cons_of_mem a inside)]
  | case3 bs _ => rfl

/-- Octets below 128 are the characters of their numbers. -/
theorem utf8Decode?_of_ascii {bs : Octets} (ascii : ∀ b ∈ bs, b.toNat < 128) :
    utf8Decode? bs = some (String.ofList (bs.map fun b => Char.ofNat b.toNat)) := by
  have written : utf8Encode (String.ofList (bs.map fun b => Char.ofNat b.toNat)) = bs := by
    rw [utf8Encode, String.toList_ofList, List.flatMap_map]
    induction bs with
    | nil => rfl
    | cons b rest ih =>
      obtain ⟨first, others⟩ := List.forall_mem_cons.mp ascii
      rw [List.flatMap_cons, encodeChar_one first, ih others]
      rfl
  rw [← utf8Decode?_utf8Encode, written]

theorem utf8DecodeLossy_utf8Encode (s : String) : utf8DecodeLossy (utf8Encode s) = s := by
  rw [utf8DecodeLossy, utf8Parts_utf8Encode, List.map_map]
  exact (congrArg String.ofList (List.map_id s.toList)).trans String.ofList_toList

end ServiceClient.Text
