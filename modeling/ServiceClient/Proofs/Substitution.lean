import Mathlib
import ServiceClient.Naming

/-!
The passes of a snake case name as substitutions. A substitution takes the first match of its pattern,
goes on after it, and so looks at no character of a match again; a repetition in a pattern takes all it
can and gives back only what the rest of the pattern needs. The passes look at each character with those
after it instead. Both come to the same: what a match uses up hides no other match.
-/

namespace ServiceClient

namespace Text

/-- A pattern with what is put for its matches: for a match at the front of a text, what is put there
and what comes after the match. -/
structure Substitution where
  front? : List Char → Option (List Char × List Char)
  /-- No match is empty. -/
  shorter : ∀ {cs put rest}, front? cs = some (put, rest) → rest.length < cs.length

/-- Substitutes all matches from left to right. -/
def Substitution.apply (substitution : Substitution) : List Char → List Char
  | [] => []
  | c :: cs =>
    match _match : substitution.front? (c :: cs) with
    | some (put, rest) => put ++ substitution.apply rest
    | none => c :: substitution.apply cs
termination_by cs => cs.length
decreasing_by
  · exact substitution.shorter _match
  · exact Nat.lt_succ_self _

/-- A function that does with each match, and with each character where none begins, what a
substitution does. -/
theorem Substitution.eq_apply {substitution : Substitution} {f : List Char → List Char}
    (nil : f [] = [])
    (put : ∀ {cs put rest}, substitution.front? cs = some (put, rest) → f cs = put ++ f rest)
    (keep : ∀ {c cs}, substitution.front? (c :: cs) = none → f (c :: cs) = c :: f cs)
    (cs : List Char) : f cs = substitution.apply cs := by
  fun_induction substitution.apply cs with
  | case1 => exact nil
  | case2 c cs new rest found ih => rw [put found, ih]
  | case3 c cs absent ih => rw [keep absent, ih]

variable {p : Char → Bool} {goesOn : List Char → Bool}

/-- The longest run of a class at the front of a text after which a pattern goes on, and what comes
after the run. -/
def longest? (p : Char → Bool) (goesOn : List Char → Bool) :
    List Char → Option (List Char × List Char)
  | [] => none
  | c :: rest =>
    if p c then
      match longest? p goesOn rest with
      | some (more, after) => some (c :: more, after)
      | none => if goesOn rest then some ([c], rest) else none
    else none

theorem of_longest?_eq_some {cs run after : List Char}
    (found : longest? p goesOn cs = some (run, after)) :
    goesOn after ∧ run ≠ [] ∧ (∀ c ∈ run, p c) ∧ cs = run ++ after := by
  fun_induction longest? p goesOn cs generalizing run after with
  | case1 => cases found
  | case2 c rest inClass more others longer ih =>
    obtain ⟨rfl, rfl⟩ := Prod.mk.inj (Option.some.inj found)
    obtain ⟨follows, -, all, rfl⟩ := ih longer
    exact ⟨follows, List.cons_ne_nil c more, List.forall_mem_cons.mpr ⟨inClass, all⟩, rfl⟩
  | case3 c rest inClass _ follows =>
    obtain ⟨rfl, rfl⟩ := Prod.mk.inj (Option.some.inj found)
    exact ⟨follows, List.cons_ne_nil c [], List.forall_mem_singleton.mpr inClass, rfl⟩
  | case4 => cases found
  | case5 => cases found

theorem length_of_longest?_eq_some {cs run after : List Char}
    (found : longest? p goesOn cs = some (run, after)) : after.length < cs.length := by
  obtain ⟨-, filled, -, rfl⟩ := of_longest?_eq_some found
  have one := List.length_pos_iff.mpr filled
  rw [List.length_append]
  omega

/-- A run of one character is enough. -/
theorem not_of_longest?_eq_none {c : Char} {rest : List Char}
    (absent : longest? p goesOn (c :: rest) = none) : ¬ (p c ∧ goesOn rest) := by
  rintro ⟨inClass, follows⟩
  rw [longest?, if_pos inClass] at absent
  split at absent
  · cases absent
  · rw [if_pos follows] at absent
    cases absent

end Text

open Text

namespace Naming

variable {cs rest run after : List Char}

/-! ### The passes, a character at a time -/

/-- Whether a text begins with a capital and a small letter after it. -/
def startsWord : List Char → Bool
  | a :: b :: _ => a.isUpper && b.isLower
  | _ => false

theorem splitCapitalRuns_cons (a : Char) (rest : List Char) : splitCapitalRuns (a :: rest) =
    if a.isUpper && startsWord rest then a :: '_' :: splitCapitalRuns rest
    else a :: splitCapitalRuns rest := by
  match rest with
  | [] => simp [splitCapitalRuns, startsWord]
  | [b] => simp [splitCapitalRuns, startsWord]
  | b :: c :: others => rw [splitCapitalRuns, startsWord, Bool.and_assoc]

theorem splitHumps_cons (a : Char) (rest : List Char) : splitHumps (a :: rest) =
    if (a.isLower || a.isDigit) && rest.head?.any Char.isUpper then a :: '_' :: splitHumps rest
    else a :: splitHumps rest := by
  cases rest with
  | nil => simp [splitHumps]
  | cons b others => rw [splitHumps, List.head?_cons, Option.any_some]

theorem squeezeUnderscores_cons (a : Char) (rest : List Char) : squeezeUnderscores (a :: rest) =
    if a = '_' ∧ rest.head? = some '_' then squeezeUnderscores rest
    else a :: squeezeUnderscores rest := by
  cases rest with
  | nil => simp [squeezeUnderscores]
  | cons b others => simp only [squeezeUnderscores, List.head?_cons, Option.some.injEq]

/-! ### The passes as substitutions -/

/-- Puts an underscore for a character that is no ASCII letter, digit or underscore. -/
def otherChars : Substitution where
  front?
    | [] => none
    | c :: rest => if isWordChar c || c == '_' then none else some (['_'], rest)
  shorter := by
    intro cs put rest found
    split at found
    · cases found
    · split at found
      · cases found
      · obtain ⟨rfl, rfl⟩ := Prod.mk.inj (Option.some.inj found)
        exact Nat.lt_succ_self _

/-- Puts an underscore between a run of capitals and a capital with a small letter after it. -/
def capitalRuns : Substitution where
  front? cs := (longest? Char.isUpper startsWord cs).map fun (run, after) =>
    (run ++ '_' :: after.take 2, after.drop 2)
  shorter := by
    intro cs put rest found
    obtain ⟨⟨run, after⟩, longest, same⟩ := Option.map_eq_some_iff.mp found
    obtain ⟨-, rfl⟩ := Prod.mk.inj same
    rw [List.length_drop]
    exact Nat.lt_of_le_of_lt (Nat.sub_le _ _) (length_of_longest?_eq_some longest)

/-- Puts an underscore between a small letter or a digit and a capital. -/
def humps : Substitution where
  front?
    | a :: b :: rest =>
      if (a.isLower || a.isDigit) && b.isUpper then some ([a, '_', b], rest) else none
    | _ => none
  shorter := by
    intro cs put rest found
    split at found
    · split at found
      · obtain ⟨rfl, rfl⟩ := Prod.mk.inj (Option.some.inj found)
        exact Nat.lt_succ_of_lt (Nat.lt_succ_self _)
      · cases found
    · cases found

/-- Puts one underscore for a run of underscores. -/
def underscoreRuns : Substitution where
  front? cs := (longest? isUnderscore (fun _ => true) cs).map fun (_, after) => (['_'], after)
  shorter := by
    intro cs put rest found
    obtain ⟨⟨run, after⟩, longest, same⟩ := Option.map_eq_some_iff.mp found
    obtain ⟨-, rfl⟩ := Prod.mk.inj same
    exact length_of_longest?_eq_some longest

theorem maskOthers_eq_apply (cs : List Char) : maskOthers cs = otherChars.apply cs := by
  refine Substitution.eq_apply rfl ?_ ?_ cs
  · intro cs put rest found
    match cs with
    | c :: cs =>
      simp only [otherChars] at found
      split at found
      · cases found
      · rename_i masked
        obtain ⟨rfl, rfl⟩ := Prod.mk.inj (Option.some.inj found)
        rw [maskOthers, List.map_cons, if_neg masked]
        rfl
  · intro c cs absent
    simp only [otherChars] at absent
    split at absent
    · rename_i kept
      rw [maskOthers, List.map_cons, if_pos kept]
      rfl
    · cases absent

/-- A word begins with a capital, and so does not begin at the character before it. -/
theorem startsWord_cons_of_isUpper (a : Char) (upper : rest.head?.any Char.isUpper) :
    startsWord (a :: rest) = false := by
  cases rest with
  | nil => rfl
  | cons b others =>
    have notLower : b.isLower = false := by simpa using Char.not_isLower_of_isUpper upper
    rw [startsWord, notLower, Bool.and_false]

theorem isUpper_of_startsWord (word : startsWord cs) : cs.head?.any Char.isUpper := by
  match cs with
  | a :: b :: rest => exact (Bool.and_eq_true_iff.mp word).1

/-- Inside a run of capitals no word begins, so the pass sets apart the last of them only. -/
theorem splitCapitalRuns_of_longest
    (found : longest? Char.isUpper startsWord cs = some (run, after)) :
    splitCapitalRuns cs = run ++ '_' :: splitCapitalRuns after := by
  fun_induction longest? Char.isUpper startsWord cs generalizing run after with
  | case1 => cases found
  | case2 c rest upper more others longer ih =>
    obtain ⟨rfl, rfl⟩ := Prod.mk.inj (Option.some.inj found)
    obtain ⟨follows, filled, capitals, rfl⟩ := of_longest?_eq_some longer
    obtain ⟨first, more, rfl⟩ := List.exists_cons_of_ne_nil filled
    have capital : (more ++ others).head?.any Char.isUpper := by
      cases more with
      | nil => exact isUpper_of_startsWord follows
      | cons second more => exact capitals second (by simp)
    have inside : startsWord ((first :: more) ++ others) = false :=
      startsWord_cons_of_isUpper first capital
    rw [splitCapitalRuns_cons, inside, Bool.and_false, if_neg Bool.false_ne_true, ih longer]
    rfl
  | case3 c rest upper _ follows =>
    obtain ⟨rfl, rfl⟩ := Prod.mk.inj (Option.some.inj found)
    rw [splitCapitalRuns_cons, upper, follows]
    rfl
  | case4 => cases found
  | case5 => cases found

/-- Where a word begins, its first two characters stay together. -/
theorem splitCapitalRuns_of_startsWord (word : startsWord cs) :
    splitCapitalRuns cs = cs.take 2 ++ splitCapitalRuns (cs.drop 2) := by
  match cs with
  | a :: b :: rest =>
    obtain ⟨upper, lower⟩ := Bool.and_eq_true_iff.mp word
    have notUpper : b.isUpper = false := by simpa using Char.not_isUpper_of_isLower lower
    have inside : startsWord (b :: rest) = false := by
      cases rest with
      | nil => rfl
      | cons c others => rw [startsWord, notUpper, Bool.false_and]
    rw [splitCapitalRuns_cons, inside, Bool.and_false, if_neg Bool.false_ne_true,
      splitCapitalRuns_cons, notUpper, Bool.false_and, if_neg Bool.false_ne_true]
    rfl

theorem splitCapitalRuns_eq_apply (cs : List Char) :
    splitCapitalRuns cs = capitalRuns.apply cs := by
  refine Substitution.eq_apply rfl ?_ ?_ cs
  · intro cs put rest found
    obtain ⟨⟨run, after⟩, longest, same⟩ := Option.map_eq_some_iff.mp found
    obtain ⟨rfl, rfl⟩ := Prod.mk.inj same
    have word := (of_longest?_eq_some longest).1
    rw [splitCapitalRuns_of_longest longest, splitCapitalRuns_of_startsWord word,
      List.append_assoc, List.cons_append]
  · intro c cs absent
    have apart := not_of_longest?_eq_none (Option.map_eq_none_iff.mp absent)
    rw [splitCapitalRuns_cons, if_neg]
    rwa [Bool.and_eq_true]

/-- A capital that ends a match begins no other. -/
theorem splitHumps_eq_apply (cs : List Char) : splitHumps cs = humps.apply cs := by
  refine Substitution.eq_apply rfl ?_ ?_ cs
  · intro cs put rest found
    match cs with
    | a :: b :: cs =>
      simp only [humps] at found
      split at found
      · rename_i hump
        obtain ⟨rfl, rfl⟩ := Prod.mk.inj (Option.some.inj found)
        have capital : b.isUpper := (Bool.and_eq_true_iff.mp hump).2
        have noStart : (b.isLower || b.isDigit) = false := by
          grind [Char.isUpper, Char.isLower, Char.isDigit]
        rw [splitHumps_cons, List.head?_cons, Option.any_some, if_pos hump, splitHumps_cons,
          noStart, Bool.false_and, if_neg Bool.false_ne_true]
        rfl
      · cases found
  · intro c cs absent
    cases cs with
    | nil => rfl
    | cons b cs =>
      simp only [humps] at absent
      split at absent
      · cases absent
      · rename_i apart
        rw [splitHumps_cons, List.head?_cons, Option.any_some, if_neg apart]

theorem squeezeUnderscores_of_longest
    (found : longest? isUnderscore (fun _ => true) cs = some (run, after)) :
    squeezeUnderscores cs = '_' :: squeezeUnderscores after := by
  fun_induction longest? isUnderscore (fun _ => true) cs generalizing run after with
  | case1 => cases found
  | case2 c rest underscore more others longer ih =>
    obtain ⟨rfl, rfl⟩ := Prod.mk.inj (Option.some.inj found)
    obtain ⟨-, filled, underscores, rfl⟩ := of_longest?_eq_some longer
    obtain ⟨first, more, rfl⟩ := List.exists_cons_of_ne_nil filled
    have next : first = '_' := eq_of_beq (underscores first List.mem_cons_self)
    rw [squeezeUnderscores_cons, if_pos ⟨eq_of_beq underscore, congrArg some next⟩, ih longer]
  | case3 c rest underscore absent =>
    obtain ⟨rfl, rfl⟩ := Prod.mk.inj (Option.some.inj found)
    obtain rfl := eq_of_beq underscore
    rw [squeezeUnderscores_cons, if_neg]
    rintro ⟨-, next⟩
    obtain ⟨others, rfl⟩ := List.head?_eq_some_iff.mp next
    exact not_of_longest?_eq_none absent ⟨rfl, rfl⟩
  | case4 _ _ _ _ impossible => exact absurd rfl impossible
  | case5 => cases found

theorem squeezeUnderscores_eq_apply (cs : List Char) :
    squeezeUnderscores cs = underscoreRuns.apply cs := by
  refine Substitution.eq_apply rfl ?_ ?_ cs
  · intro cs put rest found
    obtain ⟨⟨run, after⟩, longest, same⟩ := Option.map_eq_some_iff.mp found
    obtain ⟨rfl, rfl⟩ := Prod.mk.inj same
    exact squeezeUnderscores_of_longest longest
  · intro c cs absent
    have other := not_of_longest?_eq_none (Option.map_eq_none_iff.mp absent)
    rw [squeezeUnderscores_cons, if_neg]
    rintro ⟨rfl, -⟩
    exact other ⟨rfl, rfl⟩

/-- What the substitutions leave of a text, before the underscores at its ends are dropped. -/
def substituted (cs : List Char) : List Char :=
  underscoreRuns.apply ((humps.apply (capitalRuns.apply (otherChars.apply cs))).map Char.toLower)

/-- The passes of a snake case name are substitutions, one after the other. -/
theorem snakeChars_eq_substituted (cs : List Char) :
    snakeChars cs = asIdentifier (stripUnderscores (substituted cs)) := by
  rw [snakeChars, substituted, maskOthers_eq_apply, splitCapitalRuns_eq_apply, splitHumps_eq_apply,
    squeezeUnderscores_eq_apply]

/-- A match takes the small letter after the last capital of a run, which begins no other match. -/
example : substituted "ABCdEFGh-12X".toList = "ab_cd_ef_gh_12_x".toList := by cbv

end Naming

end ServiceClient
