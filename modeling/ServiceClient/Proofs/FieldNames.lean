import ServiceClient.Proofs.SnakeCase
import ServiceClient.Proofs.TidyText

/-!
Names of fields and methods. A name in snake case is a core that neither begins nor ends with an
underscore and has no two together, with one underscore before it if it begins with a digit. An
underscore that is put at an end, for a digit or for a reserved word, is dropped when the name is put
in snake case again, and then put again: a name is its own name.
-/

namespace ServiceClient.Naming

variable {c : Char} {cs rest core : List Char}

/-! ### Cores -/

/-- No two underscores stand together. -/
abbrev SingleUnderscores (cs : List Char) : Prop := cs.IsChain fun a b => ¬ (a = '_' ∧ b = '_')

/-- A text of small letters and digits with single underscores between them. -/
structure IsCore (cs : List Char) : Prop where
  filled : cs ≠ []
  plain : ∀ c ∈ cs, c.isLower ∨ c.isDigit ∨ c = '_'
  single : SingleUnderscores cs
  starts : cs.head? ≠ some '_'
  ends : cs.getLast? ≠ some '_'

theorem toLower_plain (word : isWordChar c) : c.toLower.isLower ∨ c.toLower.isDigit := by
  rw [Char.isLower_toLower_eq_isAlpha, isDigit_toLower]
  rwa [isWordChar, Char.isAlphanum, Bool.or_eq_true] at word

theorem isCore_singleton (word : isWordChar c) : IsCore [c.toLower] where
  filled := List.cons_ne_nil _ _
  plain := List.forall_mem_singleton.mpr ((toLower_plain word).imp_right .inl)
  single := List.isChain_singleton _
  starts := fun same => toLower_ne_underscore word (Option.some.inj same)
  ends := fun same => toLower_ne_underscore word (Option.some.inj same)

/-- A letter or digit goes before a core, with at most one underscore between them. -/
theorem IsCore.cons (isCore : IsCore core) (word : isWordChar c) {gap : List Char}
    (atMostOne : gap = [] ∨ gap = ['_']) : IsCore (c.toLower :: (gap ++ core)) := by
  obtain ⟨first, others, rfl⟩ := List.exists_cons_of_ne_nil isCore.filled
  have other := toLower_ne_underscore word
  have firstOther : first ≠ '_' := fun same => isCore.starts (congrArg some same)
  have plainFirst := (toLower_plain word).imp_right (Or.inl (b := c.toLower = '_'))
  constructor
  · exact List.cons_ne_nil _ _
  · rcases atMostOne with rfl | rfl
    · exact List.forall_mem_cons.mpr ⟨plainFirst, isCore.plain⟩
    · refine List.forall_mem_cons.mpr ⟨plainFirst, List.forall_mem_cons.mpr ⟨?_, isCore.plain⟩⟩
      exact .inr (.inr rfl)
  · rcases atMostOne with rfl | rfl
    · exact List.isChain_cons_cons.mpr ⟨fun both => other both.1, isCore.single⟩
    · refine List.isChain_cons_cons.mpr ⟨fun both => other both.1, ?_⟩
      exact List.isChain_cons_cons.mpr ⟨fun both => firstOther both.2, isCore.single⟩
  · exact fun same => other (Option.some.inj same)
  · rcases atMostOne with rfl | rfl
    · exact isCore.ends
    · exact isCore.ends

theorem isWordChar_of_mem_wordPlaces {n : Nat} {a : Char × Nat} (listed : a ∈ wordPlaces n cs) :
    isWordChar a.1 :=
  (List.mem_filter.mp listed).2

theorem isCore_spelled {first : Char × Nat} {later : List (Char × Nat)}
    (words : ∀ a ∈ first :: later, isWordChar a.1) :
    IsCore (first.1.toLower :: spellAfter cs first later) := by
  induction later generalizing first with
  | nil => exact isCore_singleton (words first List.mem_cons_self)
  | cons next later ih =>
    obtain ⟨word, others⟩ := List.forall_mem_cons.mp words
    rw [spellAfter_cons, spellNext]
    split
    · exact (ih others).cons word (.inr rfl)
    · exact (ih others).cons word (.inl rfl)

theorem isCore_field : IsCore ['f', 'i', 'e', 'l', 'd'] where
  filled := by decide
  plain := by simp
  single := by decide
  starts := by decide
  ends := by decide

/-- A name in snake case is a core made an identifier. -/
theorem exists_core (cs : List Char) : ∃ core, IsCore core ∧ snakeChars cs = asIdentifier core := by
  have spelled := stripUnderscores_spaced (n := 0) (List.drop_zero (l := cs))
  rw [snakeChars, ← spaced, spelled]
  cases places : wordPlaces 0 cs with
  | nil => exact ⟨_, isCore_field, rfl⟩
  | cons first later =>
    refine ⟨_, isCore_spelled fun a listed => ?_, rfl⟩
    rw [← places] at listed
    exact isWordChar_of_mem_wordPlaces listed

theorem IsCore.asIdentifier_eq (isCore : IsCore core) :
    ∃ lead, (lead = [] ∨ lead = ['_']) ∧ asIdentifier core = lead ++ core := by
  obtain ⟨first, others, rfl⟩ := List.exists_cons_of_ne_nil isCore.filled
  rw [asIdentifier]
  split
  · exact ⟨['_'], .inr rfl, rfl⟩
  · exact ⟨[], .inl rfl, rfl⟩

/-! ### Cores in snake case -/

theorem not_isUpper_of_plain (plain : c.isLower ∨ c.isDigit ∨ c = '_') : c.isUpper = false := by
  rcases plain with lower | digit | rfl
  · simpa using Char.not_isUpper_of_isLower lower
  · grind [Char.isUpper, Char.isDigit]
  · decide

/-- Without capitals nothing is set apart. -/
theorem setsApart_of_plain (plain : ∀ d ∈ c :: rest, d.isLower ∨ d.isDigit ∨ d = '_') :
    setsApart c rest = false := by
  obtain ⟨first, others⟩ := List.forall_mem_cons.mp plain
  rw [setsApart, not_isUpper_of_plain first, Bool.false_and, Bool.false_or]
  cases rest with
  | nil => exact Bool.and_false _
  | cons d rest =>
    rw [List.head?_cons, Option.any_some, not_isUpper_of_plain (others d List.mem_cons_self),
      Bool.and_false]

theorem spaced_of_plain (plain : ∀ c ∈ cs, c.isLower ∨ c.isDigit ∨ c = '_') : spaced cs = cs := by
  induction cs with
  | nil => rfl
  | cons c rest ih =>
    obtain ⟨first, others⟩ := List.forall_mem_cons.mp plain
    by_cases word : isWordChar c
    · have lowered : c.toLower = c :=
        Char.toLower_eq_of_not_isUpper (by simp [not_isUpper_of_plain first])
      rw [spaced_cons_of_isWordChar word, setsApart_of_plain plain, ih others, lowered]
      rfl
    · have underscore : c = '_' := by
        rcases first with lower | digit | same
        · simp [isWordChar, Char.isAlphanum, Char.isAlpha, lower] at word
        · simp [isWordChar, Char.isAlphanum, digit] at word
        · exact same
      rw [spaced_cons_of_not word, ih others, underscore]

theorem squeezeUnderscores_of_single (single : SingleUnderscores cs) : squeezeUnderscores cs = cs := by
  induction cs with
  | nil => rfl
  | cons c rest ih =>
    obtain ⟨first, others⟩ := List.isChain_cons.mp single
    rw [squeezeUnderscores_cons, ih others, if_neg]
    rintro ⟨underscore, next⟩
    exact first _ next ⟨underscore, rfl⟩

/-- Underscores at the ends of a core are dropped, and no others. -/
theorem IsCore.stripUnderscores_eq (isCore : IsCore core) {lead trail : List Char}
    (before : ∀ c ∈ lead, isUnderscore c) (after : ∀ c ∈ trail, isUnderscore c) :
    stripUnderscores (lead ++ core ++ trail) = core := by
  obtain ⟨first, others, rfl⟩ := List.exists_cons_of_ne_nil isCore.filled
  have stays : ¬ isUnderscore first := fun same => isCore.starts (congrArg some (eq_of_beq same))
  obtain ⟨last, isLast⟩ := Option.isSome_iff_exists.mp
    (List.getLast?_isSome.mpr (List.cons_ne_nil first others))
  have lastStays : isUnderscore last = false :=
    beq_false_of_ne fun same => isCore.ends (same ▸ isLast)
  rw [stripUnderscores, List.append_assoc, List.dropWhile_append_of_pos before, List.cons_append,
    List.dropWhile_cons_of_neg stays, ← List.cons_append]
  exact Text.rdropWhile_append_of_last isLast lastStays after

/-- Single underscores at the ends of a core change nothing. -/
theorem IsCore.snakeChars_eq (isCore : IsCore core) {lead trail : List Char}
    (before : lead = [] ∨ lead = ['_']) (after : trail = [] ∨ trail = ['_']) :
    snakeChars (lead ++ core ++ trail) = asIdentifier core := by
  have underscores {ends : List Char} (atMostOne : ends = [] ∨ ends = ['_']) :
      ∀ c ∈ ends, c = '_' := by
    rcases atMostOne with rfl | rfl <;> simp
  have plain : ∀ c ∈ lead ++ core ++ trail, c.isLower ∨ c.isDigit ∨ c = '_' := by
    intro c inside
    simp only [List.mem_append] at inside
    rcases inside with (front | inner) | back
    · exact .inr (.inr (underscores before c front))
    · exact isCore.plain c inner
    · exact .inr (.inr (underscores after c back))
  have single {ends : List Char} (atMostOne : ends = [] ∨ ends = ['_']) :
      SingleUnderscores ends := by
    rcases atMostOne with rfl | rfl <;> simp
  have together : SingleUnderscores (lead ++ core ++ trail) := by
    refine List.isChain_append.mpr
      ⟨List.isChain_append.mpr ⟨single before, isCore.single, ?_⟩, single after, ?_⟩
    · intro x _ y first both
      exact isCore.starts (both.2 ▸ first)
    · intro x last y _ both
      rw [List.getLast?_append_of_ne_nil _ isCore.filled] at last
      exact isCore.ends (both.1 ▸ last)
  rw [snakeChars, ← spaced, spaced_of_plain plain, squeezeUnderscores_of_single together,
    isCore.stripUnderscores_eq]
  · exact fun c inside => beq_iff_eq.mpr (underscores before c inside)
  · exact fun c inside => beq_iff_eq.mpr (underscores after c inside)

/-- Putting a name in snake case again, also with an underscore after it, changes nothing. -/
theorem snakeChars_append (cs : List Char) {trail : List Char} (after : trail = [] ∨ trail = ['_']) :
    snakeChars (snakeChars cs ++ trail) = snakeChars cs := by
  obtain ⟨core, isCore, made⟩ := exists_core cs
  obtain ⟨lead, before, named⟩ := isCore.asIdentifier_eq
  rw [made]
  conv_lhs => rw [named]
  exact isCore.snakeChars_eq before after

/-! ### Names in snake case -/

/-- Names in snake case have no capitals. -/
theorem snakeChars_plain (inside : c ∈ snakeChars cs) : c.isLower ∨ c.isDigit ∨ c = '_' := by
  obtain ⟨core, isCore, made⟩ := exists_core cs
  obtain ⟨lead, before, named⟩ := isCore.asIdentifier_eq
  rw [made, named, List.mem_append] at inside
  rcases inside with front | inner
  · rcases before with rfl | rfl
    · cases front
    · exact .inr (.inr (List.mem_singleton.mp front))
  · exact isCore.plain c inner

/-- Names in snake case begin with no digit. -/
theorem snakeChars_starts (cs : List Char) : ∃ d rest, snakeChars cs = d :: rest ∧ ¬ d.isDigit := by
  obtain ⟨core, isCore, made⟩ := exists_core cs
  obtain ⟨first, others, rfl⟩ := List.exists_cons_of_ne_nil isCore.filled
  rw [made, asIdentifier]
  by_cases digit : first.isDigit
  · exact ⟨'_', first :: others, if_pos digit, by decide⟩
  · exact ⟨first, others, if_neg digit, digit⟩

/-- No name in snake case ends in an underscore. -/
theorem getLast?_snakeChars (cs : List Char) : (snakeChars cs).getLast? ≠ some '_' := by
  obtain ⟨core, isCore, made⟩ := exists_core cs
  obtain ⟨lead, -, named⟩ := isCore.asIdentifier_eq
  rw [made, named, List.getLast?_append_of_ne_nil _ isCore.filled]
  exact isCore.ends

/-! ### Fields -/

/-- A name that fields and methods may have. -/
structure IsFieldName (name : String) : Prop where
  filled : name ≠ ""
  plain : ∀ c ∈ name.toList, c.isLower ∨ c.isDigit ∨ c = '_'
  starts : ∀ c, name.toList.head? = some c → ¬ c.isDigit
  free : name ∉ reservedWords

/-- A field has the name in snake case, with an underscore after it if that is reserved. -/
theorem toList_fieldName (name : String) : ∃ trail, (trail = [] ∨ trail = ['_']) ∧
    (fieldName name).toList = snakeChars name.toList ++ trail := by
  by_cases reserved : snakeCase name ∈ reservedWords
  · refine ⟨['_'], .inr rfl, ?_⟩
    rw [fieldName, if_pos reserved, String.toList_append, snakeCase, String.toList_ofList]
    rfl
  · refine ⟨[], .inl rfl, ?_⟩
    rw [fieldName, if_neg reserved, snakeCase, String.toList_ofList, List.append_nil]

theorem snakeCase_fieldName (name : String) : snakeCase (fieldName name) = snakeCase name := by
  obtain ⟨trail, after, characters⟩ := toList_fieldName name
  rw [snakeCase, characters, snakeChars_append _ after, snakeCase]

theorem snakeCase_snakeCase (name : String) : snakeCase (snakeCase name) = snakeCase name := by
  have again := snakeChars_append name.toList (.inl rfl)
  rw [List.append_nil] at again
  rw [snakeCase, snakeCase, String.toList_ofList, again]

/-- No reserved word ends in an underscore, so the one that is put is enough. -/
theorem fieldName_not_mem_reservedWords (name : String) : fieldName name ∉ reservedWords := by
  by_cases reserved : snakeCase name ∈ reservedWords
  · rw [fieldName, if_pos reserved]
    intro still
    have noneEnds : ∀ word ∈ reservedWords, word.toList.getLast? ≠ some '_' := by decide
    apply noneEnds _ still
    rw [String.toList_append, List.getLast?_append]
    rfl
  · rwa [fieldName, if_neg reserved]

theorem isFieldName_fieldName (name : String) : IsFieldName (fieldName name) := by
  obtain ⟨trail, after, characters⟩ := toList_fieldName name
  obtain ⟨first, rest, begins, noDigit⟩ := snakeChars_starts name.toList
  refine ⟨?_, ?_, ?_, fieldName_not_mem_reservedWords name⟩
  · rintro empty
    rw [empty, begins] at characters
    cases characters
  · intro c inside
    rw [characters, List.mem_append] at inside
    rcases inside with inner | back
    · exact snakeChars_plain inner
    · rcases after with rfl | rfl
      · cases back
      · exact .inr (.inr (List.mem_singleton.mp back))
  · intro c isFirst
    rw [characters, begins, List.cons_append, List.head?_cons] at isFirst
    obtain rfl := Option.some.inj isFirst
    exact noDigit

/-- Names of fields and methods can be used, and are their own names: what is put at their ends is
dropped and put again. -/
theorem field_names_usable (name : String) :
    IsFieldName (fieldName name) ∧ IsFieldName (methodName name) ∧
      fieldName (fieldName name) = fieldName name ∧
      snakeCase (snakeCase name) = snakeCase name ∧
      snakeCase (fieldName name) = snakeCase name := by
  have again : fieldName (fieldName name) = fieldName name := by
    rw [fieldName, snakeCase_fieldName, ← fieldName]
  exact ⟨isFieldName_fieldName name, isFieldName_fieldName name, again, snakeCase_snakeCase name,
    snakeCase_fieldName name⟩

end ServiceClient.Naming
