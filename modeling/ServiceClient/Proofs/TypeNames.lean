import ServiceClient.Proofs.NameBinding
import ServiceClient.Proofs.Utf8

/-!
Type names and field names. A type name has no underscores and, if the name of the shape begins with a
letter, begins with a capital, is its own type name and is no field name. A name that begins with an
underscore is put in upper case there, where nothing changes, and loses the underscore afterwards: its
type name begins with whatever comes next, and may be a field name.
-/

namespace ServiceClient.Naming

/-! ### Names -/

/-- A name of ASCII letters, digits and underscores, with a letter and no digit in front. -/
structure IsName (name : String) : Prop where
  characters : ∀ c ∈ name.toList, c.isAlphanum ∨ c = '_'
  letter : ∃ c ∈ name.toList, c.isAlpha
  start : ∀ c, name.toList.head? = some c → ¬ c.isDigit

/-- Whether a name begins with a capital. -/
def BeginsUpper (name : String) : Prop := ∃ c, name.toList.head? = some c ∧ c.isUpper

/-- Whether a name begins with a small letter. -/
def BeginsLower (name : String) : Prop := ∃ c, name.toList.head? = some c ∧ c.isLower

/-- A name of small letters and digits that begins with a letter and is not reserved. -/
structure IsFieldWord (name : String) : Prop where
  begins : BeginsLower name
  plain : ∀ c ∈ name.toList, c.isLower ∨ c.isDigit
  free : name ∉ reservedWords

theorem not_beginsLower_of_beginsUpper {name : String} (upper : BeginsUpper name) :
    ¬ BeginsLower name := by
  obtain ⟨c, first, isUpper⟩ := upper
  rintro ⟨d, first', isLower⟩
  obtain rfl := Option.some.inj (first.symm.trans first')
  exact Char.not_isLower_of_isUpper isUpper isLower

/-! ### Capitals -/

theorem not_isDigit_of_isLower {c : Char} (lower : c.isLower) : ¬ c.isDigit := by
  grind [Char.isLower, Char.isDigit]

theorem upperChar_of_isAlphanum {c : Char} (plain : c.isAlphanum) : Text.upperChar c = [c.toUpper] := by
  have bound := Text.toNat_of_isAlphanum plain
  rw [Text.upperChar, if_pos (by omega)]

/-- The characters of a capitalised name without its underscores. -/
def typeChars (name : String) : List Char := (capitalize name).toList.filter (· != '_')

variable {name shape : String} {c : Char} {rest : List Char}

theorem typeChars_of_underscore (chars : name.toList = '_' :: rest) :
    typeChars name = rest.filter (· != '_') := by
  have same : Text.upperChar '_' = ['_'] := by decide
  rw [typeChars, capitalize, chars]
  simp [same]

theorem typeChars_of_isAlphanum (chars : name.toList = c :: rest) (plain : c.isAlphanum) :
    typeChars name = c.toUpper :: rest.filter (· != '_') := by
  have kept : (c.toUpper != '_') = true := by
    rw [bne_iff_ne]
    intro same
    by_cases lower : c.isLower
    · have upper : c.toUpper.isUpper := by
        rw [Char.isUpper_toUpper_eq_isAlpha, Char.isAlpha, lower, Bool.or_true]
      rw [same] at upper
      exact absurd upper (by decide)
    · rw [Char.toUpper_eq_of_not_isLower lower] at same
      rw [same] at plain
      exact absurd plain (by decide)
  rw [typeChars, capitalize, chars]
  simp [upperChar_of_isAlphanum plain, kept]

/-! ### Clashes -/

theorem typeName_eq (shape : String) : typeName shape =
    (typeNameClashes.lookup (String.ofList (typeChars shape))).getD
      (String.ofList (typeChars shape)) := rfl

/-- The types that are put in the place of others clash with none themselves. -/
theorem lookup_typeName (shape : String) : typeNameClashes.lookup (typeName shape) = none := by
  rw [typeName_eq]
  cases found : typeNameClashes.lookup (String.ofList (typeChars shape)) with
  | none => exact found
  | some other =>
    have resolved : ∀ pair ∈ typeNameClashes, typeNameClashes.lookup pair.2 = none := by decide
    exact resolved _ (Pairs.mem_of_lookup found)

/-- A type that is put in the place of another begins with a capital, and so does the other. -/
theorem typeName_cases (shape : String) : (typeName shape).toList = typeChars shape ∨
    BeginsUpper (typeName shape) ∧ BeginsUpper (String.ofList (typeChars shape)) := by
  rw [typeName_eq]
  cases found : typeNameClashes.lookup (String.ofList (typeChars shape)) with
  | none => exact .inl String.toList_ofList
  | some other =>
    have capitals : ∀ pair ∈ typeNameClashes, (pair.1.toList.head?.any Char.isUpper) ∧
        (pair.2.toList.head?.any Char.isUpper) := by decide
    obtain ⟨first, second⟩ := capitals _ (Pairs.mem_of_lookup found)
    rw [Option.any_eq_true] at first second
    exact .inr ⟨second, first⟩

theorem beginsUpper_typeName_iff (shape : String) :
    BeginsUpper (typeName shape) ↔ BeginsUpper (String.ofList (typeChars shape)) := by
  rcases typeName_cases shape with same | ⟨both, typed⟩
  · rw [BeginsUpper, same, BeginsUpper, String.toList_ofList]
  · exact iff_of_true both typed

/-- A name without underscores that begins with no small letter and does not clash is its own type. -/
theorem typeName_eq_self_iff (chars : name.toList = c :: rest) (plain : c.isAlphanum)
    (noUnderscore : '_' ∉ name.toList) (free : typeNameClashes.lookup name = none) :
    typeName name = name ↔ ¬ BeginsLower name := by
  have kept : rest.filter (· != '_') = rest := by
    rw [List.filter_eq_self]
    intro d inside
    rw [bne_iff_ne]
    rintro rfl
    exact noUnderscore (chars ▸ List.mem_cons_of_mem c inside)
  have made := typeChars_of_isAlphanum chars plain
  rw [kept] at made
  by_cases lower : c.isLower
  · have begins : BeginsLower name := ⟨c, by rw [chars]; rfl, lower⟩
    refine iff_of_false ?_ (not_not_intro begins)
    intro same
    refine not_beginsLower_of_beginsUpper ?_ begins
    rw [← same, beginsUpper_typeName_iff, made]
    refine ⟨c.toUpper, by simp, ?_⟩
    rw [Char.isUpper_toUpper_eq_isAlpha, Char.isAlpha, lower, Bool.or_true]
  · rw [Char.toUpper_eq_of_not_isLower lower, ← chars] at made
    refine iff_of_true ?_ ?_
    · rw [typeName_eq, made, String.ofList_toList, free, Option.getD_none]
    · rintro ⟨d, first, isLower⟩
      rw [chars] at first
      obtain rfl := Option.some.inj first
      exact lower isLower

/-! ### Fields -/

theorem isAlphanum_of_plain (plain : c.isLower ∨ c.isDigit) : c.isAlphanum := by
  rw [Char.isAlphanum, Char.isAlpha]
  rcases plain with lower | digit
  · rw [lower, Bool.or_true, Bool.true_or]
  · rw [digit, Bool.or_true]

/-- A name of small letters and digits that begins with a letter is in snake case already. -/
theorem snakeChars_of_plain (plain : ∀ d ∈ c :: rest, d.isLower ∨ d.isDigit) (starts : c.isLower) :
    snakeChars (c :: rest) = c :: rest := by
  have noUnderscore : '_' ∉ c :: rest := by
    intro inside
    exact absurd (plain '_' inside) (by decide)
  have single : SingleUnderscores (c :: rest) := by
    apply List.Pairwise.isChain
    apply List.pairwise_of_forall_mem_list
    rintro a inside b - ⟨rfl, -⟩
    exact noUnderscore inside
  have isCore : IsCore (c :: rest) :=
    { filled := List.cons_ne_nil c rest
      plain := fun d inside => (plain d inside).imp_right .inl
      single := single
      starts := fun first => noUnderscore (List.mem_of_head? first)
      ends := fun last => noUnderscore (List.mem_of_getLast? last) }
  have same := isCore.snakeChars_eq (.inl rfl) (.inl rfl)
  rwa [List.nil_append, List.append_nil, asIdentifier, if_neg (not_isDigit_of_isLower starts)] at same

/-- A field with the name of a type. -/
theorem isFieldWord_of_fieldName {member : String} (same : fieldName member = typeName shape) :
    IsFieldWord (typeName shape) := by
  have noUnderscore := underscore_not_mem_typeName shape
  rw [← same] at noUnderscore ⊢
  have free : snakeCase member ∉ reservedWords := by
    intro reserved
    apply noUnderscore
    rw [fieldName]
    simp [reserved]
  have isField : fieldName member = snakeCase member := by simp only [fieldName, free, if_false]
  rw [isField] at noUnderscore ⊢
  have plain : ∀ c ∈ (snakeCase member).toList, c.isLower ∨ c.isDigit := by
    intro c inside
    rw [snakeCase, String.toList_ofList] at inside
    rcases snakeChars_plain inside with lower | digit | rfl
    · exact .inl lower
    · exact .inr digit
    · exact absurd inside (by rwa [snakeCase, String.toList_ofList] at noUnderscore)
  obtain ⟨d, rest, chars, noDigit⟩ := snakeChars_starts member.toList
  have isChars : (snakeCase member).toList = d :: rest := by rw [snakeCase, String.toList_ofList, chars]
  have first : (snakeCase member).toList.head? = some d := by rw [isChars, List.head?_cons]
  have lower : d.isLower := (plain d (isChars ▸ List.mem_cons_self)).resolve_right noDigit
  exact ⟨⟨d, first, lower⟩, plain, free⟩

/-- A name of that form is its own field. -/
theorem fieldName_of_isFieldWord (word : IsFieldWord name) : IsName name ∧ fieldName name = name := by
  obtain ⟨c, first, lower⟩ := word.begins
  obtain ⟨rest, chars⟩ := List.head?_eq_some_iff.mp first
  have plain := word.plain
  rw [chars] at plain
  have isSnake : snakeCase name = name := by
    rw [snakeCase, chars, snakeChars_of_plain plain lower, ← chars, String.ofList_toList]
  constructor
  · refine ⟨fun d inside => .inl (isAlphanum_of_plain (word.plain d inside)), ⟨c, ?_, ?_⟩, ?_⟩
    · rw [chars]
      exact List.mem_cons_self
    · rw [Char.isAlpha, lower, Bool.or_true]
    · intro d first'
      obtain rfl := Option.some.inj (first.symm.trans first')
      exact not_isDigit_of_isLower lower
  · rw [fieldName, isSnake, if_neg word.free]

/-! ### Types and fields -/

/-- A name begins with an underscore or with a letter. -/
theorem IsName.starts (named : IsName name) :
    ∃ c rest, name.toList = c :: rest ∧ (c = '_' ∨ c.isAlpha) := by
  obtain ⟨letter, listed, -⟩ := named.letter
  cases chars : name.toList with
  | nil =>
    rw [chars] at listed
    cases listed
  | cons c rest =>
    refine ⟨c, rest, rfl, ?_⟩
    rcases named.characters c (by rw [chars]; exact List.mem_cons_self) with plain | underscore
    · have noDigit := named.start c (by rw [chars]; rfl)
      rw [Char.isAlphanum, Bool.or_eq_true] at plain
      exact .inr (plain.resolve_right noDigit)
    · exact .inl underscore

theorem typeChars_of_isAlpha (chars : name.toList = c :: rest) (letter : c.isAlpha) :
    typeChars name = c.toUpper :: rest.filter (· != '_') ∧ c.toUpper.isUpper := by
  have plain : c.isAlphanum := by rw [Char.isAlphanum, letter, Bool.true_or]
  rw [Char.isUpper_toUpper_eq_isAlpha]
  exact ⟨typeChars_of_isAlphanum chars plain, letter⟩

theorem isAlphanum_of_isUpper (upper : c.isUpper) : c.isAlphanum := by
  rw [Char.isAlphanum, Char.isAlpha, upper, Bool.true_or, Bool.true_or]

/-- A name that begins with an underscore has its letter after it, and what is kept of the rest begins
with a letter or a digit. -/
theorem IsName.kept_starts (named : IsName name) (chars : name.toList = '_' :: rest) :
    ∃ c others, rest.filter (· != '_') = c :: others ∧ c.isAlphanum := by
  obtain ⟨letter, listed, isLetter⟩ := named.letter
  have apart : letter ≠ '_' := by
    rintro rfl
    exact absurd isLetter (by decide)
  have later : letter ∈ rest := by
    rw [chars] at listed
    exact (List.mem_cons.mp listed).resolve_left apart
  have kept : letter ∈ rest.filter (· != '_') := List.mem_filter.mpr ⟨later, bne_iff_ne.mpr apart⟩
  obtain ⟨c, others, left⟩ := List.exists_cons_of_ne_nil (List.ne_nil_of_mem kept)
  have inside : c ∈ rest.filter (· != '_') := left ▸ List.mem_cons_self
  rw [List.mem_filter, bne_iff_ne] at inside
  have plain := named.characters c (chars ▸ List.mem_cons_of_mem _ inside.1)
  exact ⟨c, others, left, plain.resolve_right inside.2⟩

/-- A type is not empty, and begins with a letter or a digit. -/
theorem IsName.typeName_starts (named : IsName shape) :
    ∃ c rest, (typeName shape).toList = c :: rest ∧ c.isAlphanum := by
  rcases typeName_cases shape with isChars | ⟨⟨c, first, upper⟩, -⟩
  · rw [isChars]
    obtain ⟨c, rest, chars, underscore | letter⟩ := named.starts
    · subst underscore
      rw [typeChars_of_underscore chars]
      exact named.kept_starts chars
    · obtain ⟨made, upper⟩ := typeChars_of_isAlpha chars letter
      exact ⟨_, _, made, isAlphanum_of_isUpper upper⟩
  · obtain ⟨rest, chars⟩ := List.head?_eq_some_iff.mp first
    exact ⟨c, rest, chars, isAlphanum_of_isUpper upper⟩

/-- If the name of a shape begins with a letter, its type begins with a capital. -/
theorem beginsUpper_typeName (chars : shape.toList = c :: rest) (letter : c.isAlpha) :
    BeginsUpper (typeName shape) := by
  obtain ⟨made, upper⟩ := typeChars_of_isAlpha chars letter
  rw [beginsUpper_typeName_iff, made]
  exact ⟨c.toUpper, by simp, upper⟩

/-- What holds of the type of a shape: it has no underscores. It begins with a capital just where the
name of the shape does not begin with an underscore, or a capital is what comes after the underscores
there. It is its own type just where it does not begin with a small letter, and it is the field of some
member just where it has the form of one. -/
theorem typeName_of_isName (named : IsName shape) :
    '_' ∉ (typeName shape).toList ∧
      (BeginsUpper (typeName shape) ↔ shape.toList.head? ≠ some '_' ∨
        BeginsUpper (String.ofList (shape.toList.filter (· != '_')))) ∧
      (typeName (typeName shape) = typeName shape ↔ ¬ BeginsLower (typeName shape)) ∧
      ((∃ member, IsName member ∧ fieldName member = typeName shape) ↔
        IsFieldWord (typeName shape)) := by
  refine ⟨underscore_not_mem_typeName shape, ?_, ?_, ?_⟩
  · obtain ⟨c, rest, chars, underscore | letter⟩ := named.starts
    · subst underscore
      have left : shape.toList.filter (· != '_') = rest.filter (· != '_') := by
        rw [chars]
        rfl
      rw [beginsUpper_typeName_iff, typeChars_of_underscore chars, left]
      simp [chars]
    · refine iff_of_true (beginsUpper_typeName chars letter) (.inl ?_)
      rw [chars]
      rintro same
      obtain rfl := Option.some.inj same
      exact absurd letter (by decide)
  · obtain ⟨c, rest, chars, plain⟩ := named.typeName_starts
    exact typeName_eq_self_iff chars plain (underscore_not_mem_typeName shape) (lookup_typeName shape)
  · constructor
    · rintro ⟨member, -, same⟩
      exact isFieldWord_of_fieldName same
    · intro word
      obtain ⟨isName, same⟩ := fieldName_of_isFieldWord word
      exact ⟨typeName shape, isName, same⟩

/-- After an underscore a small letter stays small, and the type is a field. -/
example : typeName "__string" = "string" ∧ typeName "string" = "String" ∧
    fieldName "string" = "string" := by
  decide

/-- The type of a shape whose name begins with a letter begins with a capital, is its own type and is no
field. -/
theorem typeName_of_letter (named : IsName shape) (chars : shape.toList = c :: rest)
    (letter : c.isAlpha) : BeginsUpper (typeName shape) ∧ typeName (typeName shape) = typeName shape ∧
      ∀ member, fieldName member ≠ typeName shape := by
  have upper := beginsUpper_typeName chars letter
  have noLower := not_beginsLower_of_beginsUpper upper
  refine ⟨upper, (typeName_of_isName named).2.2.1.mpr noLower, ?_⟩
  intro member same
  exact noLower (isFieldWord_of_fieldName same).begins

end ServiceClient.Naming
