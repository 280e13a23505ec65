import ServiceClient.Http.Response

/-!
Header lines are found by their names in whatever case, and a line that is put is the one found.
-/

namespace ServiceClient

namespace Text

/-- Whether two texts are the same but for the case of the letters of ASCII. -/
def SameLetters (a b : String) : Prop := a.toList.map Char.toLower = b.toList.map Char.toLower

theorem ascii_of_toLower {c : Char} (ascii : c.toLower.toNat < 128) : c.toNat < 128 := by
  unfold Char.toLower at ascii
  split at ascii
  · rename_i upper
    have small : c.val ≤ 'Z'.val := upper.2
    have bound : c.toNat ≤ 90 := small
    omega
  · exact ascii

theorem lowerAfter_of_ascii {cs : List Char} (ascii : ∀ c ∈ cs, c.toNat < 128) (before : List Char) :
    lowerAfter before cs = cs.map Char.toLower := by
  induction cs generalizing before with
  | nil => rfl
  | cons c rest ih =>
    obtain ⟨first, others⟩ := List.forall_mem_cons.mp ascii
    have noSigma : c.toNat ≠ 931 := by omega
    rw [lowerAfter, ih others]
    simp [noSigma, lowerChar, first]

/-- A name of ASCII and one that differs from it in the case of letters only are the same in lower
case. -/
theorem lower_of_sameLetters {a b : String} (same : SameLetters a b)
    (ascii : b.toList.all fun c => c.toLower.toNat < 128) : lower a = lower b := by
  simp only [List.all_eq_true, decide_eq_true_eq] at ascii
  have asciiLeft : ∀ c ∈ a.toList, c.toNat < 128 := by
    intro c inside
    have lowered : c.toLower ∈ b.toList.map Char.toLower := same ▸ List.mem_map_of_mem inside
    obtain ⟨d, listed, isLowered⟩ := List.mem_map.mp lowered
    apply ascii_of_toLower
    rw [← isLowered]
    exact ascii d listed
  have asciiRight : ∀ c ∈ b.toList, c.toNat < 128 := by
    intro c inside
    apply ascii_of_toLower
    exact ascii c inside
  rw [lower, lower, lowerAfter_of_ascii asciiLeft, lowerAfter_of_ascii asciiRight, same]

end Text

namespace Headers

theorem sameName_iff {a b : String} : sameName a b = true ↔ Text.lower a = Text.lower b := beq_iff_eq

/-- A header line that is put is found under its name, and the others are as before. -/
theorem get?_insert (name v other : String) (headers : Headers) :
    (headers.insert name v).get? other =
      if sameName name other then some v else headers.get? other := by
  induction headers with
  | nil =>
    by_cases found : sameName name other
    · simp [insert, get?, found]
    · simp [insert, get?, found]
  | cons line rest ih =>
    obtain ⟨n, old⟩ := line
    by_cases replaced : sameName n name
    · have alike : sameName n other = sameName name other := by
        rw [sameName, sameName, sameName_iff.mp replaced]
      rw [insert, if_pos replaced]
      by_cases found : sameName name other
      · simp [get?, found]
      · simp [get?, found, alike]
    · rw [insert, if_neg replaced]
      by_cases there : sameName n other
      · have apart : ¬ sameName name other := by
          intro found
          apply replaced
          rw [sameName_iff] at there found ⊢
          rw [there, found]
        simp [get?, there, apart]
      · simpa [get?, there] using ih

end Headers

end ServiceClient
