import ServiceClient.Proofs.Substitution

/-!
The rule of snake case. A name in snake case spells the letters and digits of a text in small letters.
Whether an underscore comes between two that follow each other depends on their places and on nothing
but the character after them. What else the passes put, drop or join leaves no trace.
-/

namespace ServiceClient.Naming

/-! ### The rule -/

/-- The letters and digits of a text, each with its place, where the first place of the text is `n`. -/
def wordPlaces (n : Nat) (cs : List Char) : List (Char × Nat) :=
  (cs.zipIdx n).filter fun a => isWordChar a.1

/-- Whether an underscore comes between two letters or digits that follow each other in a text:
something else stands between them, or a capital comes after a small letter or a digit, or it is the
last of several capitals before a small letter. -/
def Parted (cs : List Char) (a b : Char × Nat) : Prop :=
  b.2 ≠ a.2 + 1 ∨ (a.1.isLower ∨ a.1.isDigit) ∧ b.1.isUpper ∨
    a.1.isUpper ∧ b.1.isUpper ∧ cs[b.2 + 1]?.any Char.isLower

instance (cs : List Char) (a b : Char × Nat) : Decidable (Parted cs a b) :=
  inferInstanceAs (Decidable (_ ∨ _ ∧ _ ∨ _ ∧ _ ∧ _))

/-- The second of two letters or digits, with what comes between them. -/
def spellNext (cs : List Char) (a b : Char × Nat) : List Char :=
  if Parted cs a b then ['_', b.1.toLower] else [b.1.toLower]

/-- All but the first of some letters and digits. -/
def spellAfter (cs : List Char) (first : Char × Nat) (later : List (Char × Nat)) : List Char :=
  ((first :: later).zip later).flatMap fun (a, b) => spellNext cs a b

variable {cs rest : List Char} {c d : Char} {n : Nat}

theorem wordPlaces_cons_of_isWordChar (word : isWordChar c) :
    wordPlaces n (c :: rest) = (c, n) :: wordPlaces (n + 1) rest := by
  rw [wordPlaces, List.zipIdx_cons]
  exact List.filter_cons_of_pos word

theorem wordPlaces_cons_of_not (other : ¬ isWordChar c) :
    wordPlaces n (c :: rest) = wordPlaces (n + 1) rest := by
  rw [wordPlaces, List.zipIdx_cons]
  exact List.filter_cons_of_neg other

theorem spellAfter_cons (cs : List Char) (a b : Char × Nat) (later : List (Char × Nat)) :
    spellAfter cs a (b :: later) = spellNext cs a b ++ spellAfter cs b later := rfl

/-! ### What the passes put into a text -/

/-- Whether the passes put an underscore after a character that comes before a text. -/
def setsApart (c : Char) (rest : List Char) : Bool :=
  c.isUpper && startsWord rest || (c.isLower || c.isDigit) && rest.head?.any Char.isUpper

/-- A text as the passes leave it before the underscores are squeezed. -/
def spaced (cs : List Char) : List Char :=
  (splitHumps (splitCapitalRuns (maskOthers cs))).map Char.toLower

theorem head?_splitCapitalRuns (cs : List Char) : (splitCapitalRuns cs).head? = cs.head? := by
  cases cs with
  | nil => rfl
  | cons c rest =>
    rw [splitCapitalRuns_cons]
    split <;> rfl

/-- The second pass finds no hump where the first has put an underscore. -/
theorem splitHumps_splitCapitalRuns_cons (c : Char) (rest : List Char) :
    splitHumps (splitCapitalRuns (c :: rest)) =
      c :: ((if setsApart c rest then ['_'] else []) ++ splitHumps (splitCapitalRuns rest)) := by
  rw [splitCapitalRuns_cons, setsApart]
  cases c.isUpper && startsWord rest with
  | true =>
    have noHump : ('_' :: splitCapitalRuns rest).head?.any Char.isUpper = false := rfl
    have noStart : ('_'.isLower || '_'.isDigit) = false := by decide
    rw [Bool.true_or, if_pos rfl, if_pos rfl, splitHumps_cons, noHump, Bool.and_false,
      if_neg Bool.false_ne_true, splitHumps_cons, noStart, Bool.false_and, if_neg Bool.false_ne_true]
    rfl
  | false =>
    rw [Bool.false_or, if_neg Bool.false_ne_true, splitHumps_cons, head?_splitCapitalRuns]
    split <;> rfl

theorem maskOthers_cons_of_isWordChar (word : isWordChar c) :
    maskOthers (c :: rest) = c :: maskOthers rest := by
  rw [maskOthers, List.map_cons, word, Bool.true_or, if_pos rfl]
  rfl

theorem maskOthers_cons_of_not (other : ¬ isWordChar c) :
    maskOthers (c :: rest) = '_' :: maskOthers rest := by
  have masked : isWordChar c = false := by simpa using other
  rw [maskOthers, List.map_cons, masked, Bool.false_or]
  split
  · rename_i same
    rw [eq_of_beq same]
    rfl
  · rfl

/-- Letters are not masked, and nothing is masked by a letter. -/
theorem exists_maskOthers_cons (c : Char) :
    ∃ d, (∀ rest, maskOthers (c :: rest) = d :: maskOthers rest) ∧
      d.isUpper = c.isUpper ∧ d.isLower = c.isLower := by
  by_cases word : isWordChar c
  · exact ⟨c, fun _ => maskOthers_cons_of_isWordChar word, rfl, rfl⟩
  · refine ⟨'_', fun _ => maskOthers_cons_of_not word, ?_⟩
    simp only [isWordChar, Char.isAlphanum, Char.isAlpha, Bool.or_eq_true, not_or,
      Bool.not_eq_true] at word
    exact ⟨word.1.1.symm, word.1.2.symm⟩

theorem setsApart_maskOthers (c : Char) (rest : List Char) :
    setsApart c (maskOthers rest) = setsApart c rest := by
  match rest with
  | [] => rfl
  | [a] =>
    obtain ⟨a', masked, upper, -⟩ := exists_maskOthers_cons a
    rw [setsApart, setsApart, masked]
    simp only [List.head?_cons, Option.any_some, upper]
    rfl
  | a :: b :: rest =>
    obtain ⟨a', masked, upper, -⟩ := exists_maskOthers_cons a
    obtain ⟨b', maskedNext, -, lower⟩ := exists_maskOthers_cons b
    rw [setsApart, setsApart, masked, maskedNext, startsWord, startsWord]
    simp only [List.head?_cons, Option.any_some, upper, lower]

theorem spaced_cons_of_isWordChar (word : isWordChar c) :
    spaced (c :: rest) = c.toLower :: ((if setsApart c rest then ['_'] else []) ++ spaced rest) := by
  rw [spaced, maskOthers_cons_of_isWordChar word, splitHumps_splitCapitalRuns_cons,
    setsApart_maskOthers, List.map_cons, List.map_append, spaced]
  split <;> rfl

theorem spaced_cons_of_not (other : ¬ isWordChar c) : spaced (c :: rest) = '_' :: spaced rest := by
  have never (cs : List Char) : setsApart '_' cs = false := rfl
  rw [spaced, maskOthers_cons_of_not other, splitHumps_splitCapitalRuns_cons, never]
  rfl

/-! ### What squeezing and dropping leave -/

theorem isDigit_toLower (c : Char) : c.toLower.isDigit = c.isDigit := by
  by_cases upper : c.isUpper
  · have lower : c.toLower.isLower := by
      rw [Char.isLower_toLower_eq_isAlpha, Char.isAlpha, upper, Bool.true_or]
    have notLowered : c.toLower.isDigit = false := by grind [Char.isLower, Char.isDigit]
    have noDigit : c.isDigit = false := by grind [Char.isUpper, Char.isDigit]
    rw [notLowered, noDigit]
  · rw [Char.toLower_eq_of_not_isUpper upper]

theorem toLower_ne_underscore (word : isWordChar c) : c.toLower ≠ '_' := by
  have lowered : isWordChar c.toLower := by
    rwa [isWordChar, Char.isAlphanum, Char.isAlpha_toLower_eq_isAlpha, isDigit_toLower]
  intro same
  rw [same] at lowered
  exact absurd lowered (by decide)

/-- Underscores on both sides of another character are squeezed each on their side. -/
theorem squeezeUnderscores_cons_of_ne (other : c ≠ '_') (rest : List Char) :
    squeezeUnderscores (c :: rest) = c :: squeezeUnderscores rest := by
  rw [squeezeUnderscores_cons, if_neg fun both => other both.1]

theorem rdropWhile_append_cons {α : Type} {p : α → Bool} {rest : List α} {a : α} (front : List α)
    (stays : ¬ p a) : (front ++ a :: rest).rdropWhile p = front ++ a :: rest.rdropWhile p := by
  induction rest using List.reverseRecOn with
  | nil => rw [List.rdropWhile_concat, if_neg stays, List.rdropWhile_nil]
  | append_singleton rest last ih =>
    rw [← List.cons_append, ← List.append_assoc, List.rdropWhile_concat, List.rdropWhile_concat, ih]
    split
    · rfl
    · rw [List.append_assoc, List.cons_append]

/-- A letter or digit with at most one underscore before it stays as it is. -/
theorem trimmed_cons {gap : List Char} (word : isWordChar c) (atMostOne : gap = [] ∨ gap = ['_']) :
    (squeezeUnderscores (gap ++ c.toLower :: rest)).rdropWhile isUnderscore =
      gap ++ c.toLower :: (squeezeUnderscores rest).rdropWhile isUnderscore := by
  have other := toLower_ne_underscore word
  have squeezed : squeezeUnderscores (gap ++ c.toLower :: rest) =
      gap ++ c.toLower :: squeezeUnderscores rest := by
    rcases atMostOne with rfl | rfl
    · exact squeezeUnderscores_cons_of_ne other rest
    · rw [List.singleton_append, squeezeUnderscores_cons, List.head?_cons,
        if_neg fun both => other (Option.some.inj both.2), squeezeUnderscores_cons_of_ne other rest]
      rfl
  rw [squeezed, rdropWhile_append_cons]
  exact fun underscore => other (eq_of_beq underscore)

theorem drop_succ (there : cs.drop n = d :: rest) : cs.drop (n + 1) = rest := by
  rw [← List.tail_drop, there, List.tail_cons]

/-- The rule looks where the passes look. -/
theorem parted_iff {i : Nat} (there : cs.drop n = d :: rest) :
    Parted cs (c, i) (d, n) ↔ n ≠ i + 1 ∨ setsApart c (d :: rest) := by
  have after : cs[n + 1]? = rest.head? := by
    rw [← List.head?_drop, drop_succ there]
  have word : startsWord (d :: rest) = (d.isUpper && rest.head?.any Char.isLower) := by
    cases rest with
    | nil => exact (Bool.and_false _).symm
    | cons e others => rfl
  rw [Parted, after, setsApart, word, List.head?_cons, Option.any_some]
  simp only [Bool.or_eq_true, Bool.and_eq_true]
  rw [or_comm (a := (c.isLower ∨ c.isDigit) ∧ d.isUpper)]

/-- What is left of a text that comes after a character at place `i`, with an underscore in front if the
text does not follow at once or is set apart from the character. -/
theorem trimmed_spaced {i : Nat} (there : cs.drop n = rest) (before : i < n) :
    (squeezeUnderscores ((if n ≠ i + 1 ∨ setsApart c rest then ['_'] else []) ++
      spaced rest)).rdropWhile isUnderscore = spellAfter cs (c, i) (wordPlaces n rest) := by
  induction rest generalizing c i n with
  | nil => split <;> rfl
  | cons d rest ih =>
    have next := drop_succ there
    by_cases word : isWordChar d
    · -- `d` is the character before the rest, which follows it at once
      have later := ih (c := d) next (Nat.lt_succ_self n)
      simp only [ne_eq, not_true, false_or] at later
      rw [spaced_cons_of_isWordChar word, trimmed_cons word (by split <;> simp), later,
        wordPlaces_cons_of_isWordChar word, spellAfter_cons, spellNext]
      simp only [parted_iff there]
      split <;> rfl
    · -- the underscore for `d` is squeezed into the gap, which stays open for what comes after `d`
      have later := ih (c := c) next (Nat.lt_succ_of_lt before)
      have apart : n + 1 ≠ i + 1 := by omega
      rw [if_pos (.inl apart)] at later
      rw [spaced_cons_of_not word, wordPlaces_cons_of_not word, ← later]
      split
      · rw [List.singleton_append, squeezeUnderscores_cons, if_pos ⟨rfl, rfl⟩]
        rfl
      · rfl

theorem stripUnderscores_underscore (cs : List Char) :
    stripUnderscores (squeezeUnderscores ('_' :: cs)) = stripUnderscores (squeezeUnderscores cs) := by
  rw [squeezeUnderscores_cons]
  split <;> rfl

/-- A text as the passes leave it begins with its first letter or digit. -/
theorem stripUnderscores_spaced (there : cs.drop n = rest) :
    stripUnderscores (squeezeUnderscores (spaced rest)) =
      match wordPlaces n rest with
      | [] => []
      | first :: later => first.1.toLower :: spellAfter cs first later := by
  induction rest generalizing n with
  | nil => rfl
  | cons d rest ih =>
    have next := drop_succ there
    by_cases word : isWordChar d
    · have other : ¬ isUnderscore d.toLower := fun same =>
        toLower_ne_underscore word (eq_of_beq same)
      have later := trimmed_spaced (c := d) next (Nat.lt_succ_self n)
      simp only [ne_eq, not_true, false_or] at later
      rw [wordPlaces_cons_of_isWordChar word]
      dsimp only
      rw [← later, spaced_cons_of_isWordChar word,
        squeezeUnderscores_cons_of_ne (toLower_ne_underscore word), stripUnderscores,
        List.dropWhile_cons_of_neg other]
      exact rdropWhile_append_cons [] other
    · rw [spaced_cons_of_not word, wordPlaces_cons_of_not word, stripUnderscores_underscore, ih next]

/-- A name in snake case is what the substitutions leave of a text, and spells its letters and digits:
each once, in their order and in small letters, with an underscore between two just where the rule
parts them and one before a digit in front. A text without any has the name `field`. -/
theorem snakeCase_spelled (name : String) :
    (snakeCase name).toList = asIdentifier (stripUnderscores (substituted name.toList)) ∧
      (snakeCase name).toList =
        match wordPlaces 0 name.toList with
        | [] => ['f', 'i', 'e', 'l', 'd']
        | first :: later =>
          (if first.1.isDigit then ['_'] else []) ++
            first.1.toLower :: spellAfter name.toList first later := by
  have characters : (snakeCase name).toList = snakeChars name.toList := String.toList_ofList
  refine ⟨characters.trans (snakeChars_eq_substituted _), characters.trans ?_⟩
  have spelled := stripUnderscores_spaced (n := 0) (List.drop_zero (l := name.toList))
  rw [snakeChars, ← spaced, spelled]
  cases wordPlaces 0 name.toList with
  | nil => rfl
  | cons first later =>
    dsimp only
    rw [asIdentifier, isDigit_toLower]
    split <;> rfl

end ServiceClient.Naming
