import ServiceClient.Number.Numeral

/-!
A whole number is read back from its own text, unless the text has too many digits to be read.
-/

namespace ServiceClient.Numeral

theorem toNat_of_isDigit {c : Char} (digit : c.isDigit) : 48 ≤ c.toNat ∧ c.toNat ≤ 57 :=
  Char.isDigit_iff_toNat.mp digit

theorem plainChar_of_isDigit {c : Char} (digit : c.isDigit) : plainChar c = c := by
  have range := toNat_of_isDigit digit
  rw [plainChar, if_pos (by omega)]

theorem not_isPlainBlank_of_isDigit {c : Char} (digit : c.isDigit) :
    Text.isPlainBlank c = false := by
  have range := toNat_of_isDigit digit
  have noSpace : c ≠ ' ' := by
    rintro rfl
    exact absurd range (by decide)
  have noReturn : ¬ c ≤ '\r' := by
    intro below
    have : c.toNat ≤ 13 := below
    omega
  simp [Text.isPlainBlank, noSpace, noReturn]

theorem trimBoth_of_not {p : Char → Bool} {cs : List Char} (kept : ∀ c ∈ cs, p c = false) :
    Text.trimBoth p cs = cs := by
  have stays {ds : List Char} (all : ∀ c ∈ ds, p c = false) : ds.dropWhile p = ds := by
    cases ds with
    | nil => rfl
    | cons c rest => rw [List.dropWhile_cons_of_neg (by simp [all c List.mem_cons_self])]
  rw [Text.trimBoth, Text.dropEnd, stays kept, stays (fun c inside => kept c (by simpa using inside)),
    List.reverse_reverse]

/-- A numeral that is written in ASCII digits stands for itself. -/
theorem plain_of_digits {ds : List Char} (digits : ∀ d ∈ ds, d.isDigit) : plain ds = ds := by
  have same : ds.map plainChar = ds := by
    rw [List.map_congr_left fun d inside => plainChar_of_isDigit (digits d inside)]
    exact List.map_id' ds
  rw [plain, same, trimBoth_of_not fun d inside => not_isPlainBlank_of_isDigit (digits d inside)]

theorem plain_of_minus {ds : List Char} (digits : ∀ d ∈ ds, d.isDigit) :
    plain ('-' :: ds) = '-' :: ds := by
  have same : ('-' :: ds).map plainChar = '-' :: ds := by
    rw [List.map_cons, List.map_congr_left fun d inside => plainChar_of_isDigit (digits d inside),
      List.map_id']
    rfl
  rw [plain, same, trimBoth_of_not]
  intro c inside
  rcases List.mem_cons.mp inside with rfl | inside
  · decide
  · exact not_isPlainBlank_of_isDigit (digits c inside)

theorem sign_of_digits {ds : List Char} (digits : ∀ d ∈ ds, d.isDigit) :
    sign ds = (false, ds) := by
  cases ds with
  | nil => rfl
  | cons d rest =>
    have range := toNat_of_isDigit (digits d List.mem_cons_self)
    refine sign.eq_3 _ (fun tail minus => ?_) (fun tail plus => ?_)
    · cases minus
      exact absurd range (by decide)
    · cases plus
      exact absurd range (by decide)

theorem dropUnderscores?_of_digits {ds : List Char} (digits : ∀ d ∈ ds, d.isDigit)
    (afterDigit : Bool) : dropUnderscores? afterDigit ds = some ds := by
  induction ds generalizing afterDigit with
  | nil => rfl
  | cons d rest ih =>
    have range := toNat_of_isDigit (digits d List.mem_cons_self)
    have noUnderscore : d ≠ '_' := by
      rintro rfl
      exact absurd range (by decide)
    rw [dropUnderscores?.eq_3 afterDigit d rest (fun h => noUnderscore h),
      ih fun c inside => digits c (List.mem_cons_of_mem _ inside)]
    rfl

/-- Digits after a sign are read unless they are too many. -/
theorem readInt?_of_sign {cs ds : List Char} {negative : Bool}
    (signed : sign (plain cs) = (negative, ds)) (digits : ∀ d ∈ ds, d.isDigit) (filled : ds ≠ []) :
    readInt? cs = if ds.length ≤ maxDigits then
      some (if negative then -(digitsValue ds : Int) else digitsValue ds) else none := by
  have accepted : (!ds.isEmpty && ds.all Char.isDigit && ds.length ≤ maxDigits) =
      decide (ds.length ≤ maxDigits) := by
    have all : ds.all Char.isDigit = true := List.all_eq_true.mpr digits
    have some : ds.isEmpty = false := by simpa using filled
    rw [all, some]
    rfl
  unfold readInt?
  rw [signed]
  dsimp only
  rw [dropUnderscores?_of_digits digits, Option.bind_eq_bind, Option.bind_some, accepted]
  by_cases short : ds.length ≤ maxDigits
  · rw [decide_eq_true short, if_pos short]
    rfl
  · rw [decide_eq_false short, if_neg short]
    rfl

theorem isDigit_of_mem_toDigits {n : Nat} {d : Char} (inside : d ∈ Nat.toDigits 10 n) : d.isDigit :=
  Nat.isDigit_of_mem_toDigits (by decide) (by decide) inside

theorem digitsValue_toDigits (n : Nat) : digitsValue (Nat.toDigits 10 n) = n := by
  have same : ∀ (ds : List Char) (start : Nat),
      ds.foldl (fun n d => n * 10 + (d.toNat - 48)) start = Nat.ofDigitChars 10 ds start := by
    intro ds start
    rw [Nat.ofDigitChars_eq_foldl]
    simp only [Nat.mul_comm]
    rfl
  rw [digitsValue, same, Nat.ofDigitChars_ten_toDigits]

theorem length_toDigits_iff (n : Nat) : (Nat.toDigits 10 n).length ≤ maxDigits ↔ n < limit := by
  have some : 0 < maxDigits := by decide
  unfold limit
  -- The power is too large to be computed.
  generalize maxDigits = digits at some ⊢
  exact Nat.length_toDigits_le_iff (by decide) some

theorem toList_toString (n : Int) : (toString n).toList =
    if n < 0 then '-' :: Nat.toDigits 10 n.natAbs else Nat.toDigits 10 n.natAbs := by
  cases n with
  | ofNat m =>
    have notNegative : ¬ (Int.ofNat m < 0) := by simp
    rw [if_neg notNegative]
    show (Nat.repr m).toList = _
    rw [Nat.toList_repr]
    rfl
  | negSucc m =>
    rw [if_pos (Int.negSucc_lt_zero m)]
    show ("-" ++ Nat.repr (m + 1)).toList = _
    rw [String.toList_append, Nat.toList_repr]
    rfl

theorem toNat_of_mem_toString {n : Int} {c : Char} (inside : c ∈ (toString n).toList) :
    45 ≤ c.toNat ∧ c.toNat ≤ 57 := by
  have digit (d : Char) (listed : d ∈ Nat.toDigits 10 n.natAbs) : 45 ≤ d.toNat ∧ d.toNat ≤ 57 := by
    have range := toNat_of_isDigit (isDigit_of_mem_toDigits listed)
    omega
  rw [toList_toString] at inside
  by_cases negative : n < 0
  · rw [if_pos negative] at inside
    rcases List.mem_cons.mp inside with rfl | listed
    · decide
    · exact digit c listed
  · rw [if_neg negative] at inside
    exact digit c inside

/-- Exactly the whole numbers of at most `maxDigits` digits are read back from their texts. -/
theorem readInt?_toString (n : Int) :
    readInt? (toString n).toList = if n.natAbs < limit then some n else none := by
  have digits : ∀ d ∈ Nat.toDigits 10 n.natAbs, d.isDigit := fun d inside =>
    isDigit_of_mem_toDigits inside
  rw [toList_toString]
  by_cases negative : n < 0
  · have signed : sign (plain ('-' :: Nat.toDigits 10 n.natAbs)) =
        (true, Nat.toDigits 10 n.natAbs) := by
      rw [plain_of_minus digits]
      rfl
    have back : -(n.natAbs : Int) = n := by omega
    rw [if_pos negative, readInt?_of_sign signed digits Nat.toDigits_ne_nil, digitsValue_toDigits]
    simp only [length_toDigits_iff, back, if_true]
  · have signed : sign (plain (Nat.toDigits 10 n.natAbs)) = (false, Nat.toDigits 10 n.natAbs) := by
      rw [plain_of_digits digits, sign_of_digits digits]
    have back : (n.natAbs : Int) = n := by omega
    rw [if_neg negative, readInt?_of_sign signed digits Nat.toDigits_ne_nil, digitsValue_toDigits]
    simp only [length_toDigits_iff, back, Bool.false_eq_true, if_false]

end ServiceClient.Numeral
