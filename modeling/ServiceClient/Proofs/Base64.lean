import ServiceClient.Codec.Base64

/-!
Base64 text gives back the octets that it was made from.
-/

namespace ServiceClient.Base64

theorem symbolValue?_symbol {n : Nat} (small : n < 64) : symbolValue? (symbol n) = some n := by
  revert n
  decide

theorem symbol_ne_padding {n : Nat} (small : n < 64) : symbol n ≠ '=' := by
  revert n
  decide

theorem symbol_visible {n : Nat} (small : n < 64) : 32 ≤ (symbol n).toNat ∧ (symbol n).toNat < 128 := by
  revert n
  decide

section Step

variable (pads : Nat) {n : Nat} (small : n < 64) (cs : List Char)
include small

theorem decodeFrom_start : decodeFrom .start pads (symbol n :: cs) = decodeFrom (.one n) 0 cs := by
  rw [decodeFrom, if_neg (symbol_ne_padding small), symbolValue?_symbol small]

theorem decodeFrom_one (rest : Nat) : decodeFrom (.one rest) pads (symbol n :: cs) =
    (decodeFrom (.two (n % 16)) 0 cs).map (UInt8.ofNat (rest * 4 + n / 16) :: ·) := by
  rw [decodeFrom, if_neg (symbol_ne_padding small), symbolValue?_symbol small]

theorem decodeFrom_two (rest : Nat) : decodeFrom (.two rest) pads (symbol n :: cs) =
    (decodeFrom (.three (n % 4)) 0 cs).map (UInt8.ofNat (rest * 16 + n / 4) :: ·) := by
  rw [decodeFrom, if_neg (symbol_ne_padding small), symbolValue?_symbol small]

theorem decodeFrom_three (rest : Nat) : decodeFrom (.three rest) pads (symbol n :: cs) =
    (decodeFrom .start 0 cs).map (UInt8.ofNat (rest * 64 + n) :: ·) := by
  rw [decodeFrom, if_neg (symbol_ne_padding small), symbolValue?_symbol small]

end Step

theorem ofNat_eq (octet : UInt8) {n : Nat} (same : n = octet.toNat) : UInt8.ofNat n = octet := by
  subst same
  exact UInt8.ofNat_toNat

/-- Reading takes the groups one by one: after four symbols, or where padding completes a group, no
bits are pending. -/
theorem decodeFrom_encodeChars (octets : Octets) :
    decodeFrom .start 0 (encodeChars octets) = .ok octets := by
  induction octets using encodeChars.induct with
  | case1 => rfl
  | case2 a =>
    have high := a.toNat_lt
    have done (rest : Nat) : decodeFrom (.two rest) 0 ['=', '='] = .ok [] := rfl
    rw [encodeChars, decodeFrom_start _ (by omega), decodeFrom_one _ (by omega), done]
    simp only [Except.map]
    rw [ofNat_eq a (by omega)]
  | case3 a b =>
    have high := a.toNat_lt
    have middle := b.toNat_lt
    have done (rest : Nat) : decodeFrom (.three rest) 0 ['='] = .ok [] := rfl
    rw [encodeChars, decodeFrom_start _ (by omega), decodeFrom_one _ (by omega),
      decodeFrom_two _ (by omega), done]
    simp only [Except.map]
    rw [ofNat_eq a (by omega), ofNat_eq b (by omega)]
  | case4 a b c rest ih =>
    have high := a.toNat_lt
    have middle := b.toNat_lt
    have low := c.toNat_lt
    rw [encodeChars, decodeFrom_start _ (by omega), decodeFrom_one _ (by omega),
      decodeFrom_two _ (by omega), decodeFrom_three _ (by omega), ih]
    simp only [Except.map]
    rw [ofNat_eq a (by omega), ofNat_eq b (by omega), ofNat_eq c (by omega)]

theorem encodeChars_visible (octets : Octets) :
    ∀ c ∈ encodeChars octets, 32 ≤ c.toNat ∧ c.toNat < 128 := by
  induction octets using encodeChars.induct with
  | case1 => simp [encodeChars]
  | case2 a =>
    have high := a.toNat_lt
    simp only [encodeChars, List.forall_mem_cons]
    exact ⟨symbol_visible (by omega), symbol_visible (by omega), by decide, by decide, by simp⟩
  | case3 a b =>
    have high := a.toNat_lt
    have middle := b.toNat_lt
    simp only [encodeChars, List.forall_mem_cons]
    exact ⟨symbol_visible (by omega), symbol_visible (by omega), symbol_visible (by omega), by decide,
      by simp⟩
  | case4 a b c rest ih =>
    have high := a.toNat_lt
    have middle := b.toNat_lt
    have low := c.toNat_lt
    simp only [encodeChars, List.forall_mem_cons]
    exact ⟨symbol_visible (by omega), symbol_visible (by omega), symbol_visible (by omega),
      symbol_visible (by omega), ih⟩

/-- Octets survive their Base64 text. -/
theorem decode_encode (octets : Octets) : decode (encode octets) = .ok octets := by
  have ascii : (encode octets).toList.all (·.toNat < 128) = true := by
    simpa [encode] using fun c inside => (encodeChars_visible octets c inside).2
  rw [decode, if_pos ascii, encode, String.toList_ofList]
  exact decodeFrom_encodeChars octets

end ServiceClient.Base64
