import ServiceClient.Module.ErrorClass
import ServiceClient.Proofs.Outcome
import ServiceClient.Text.Identifier

/-!
Which display names make identifiers of the client and of its error classes. A type name keeps
whatever is no vendor's name and none of six signs, so other signs of a display name stay in all of
these classes, and a digit that comes first stays there.
-/

namespace ServiceClient

namespace Text

/-! ### Identifiers of ASCII characters -/

/-- Ranges that begin above a character do not count. -/
theorem inRanges_append_of_above {low high : List (Nat × Nat)} {bound : Nat} {c : Char}
    (above : ∀ range ∈ high, bound ≤ range.1) (below : c.toNat < bound) :
    inRanges (low ++ high) c = inRanges low c := by
  have outside : high.any (fun range => range.1 ≤ c.toNat && c.toNat ≤ range.2) = false := by
    rw [List.any_eq_false]
    intro range listed
    have start := above range listed
    simp only [Bool.and_eq_true, decide_eq_true_eq, not_and]
    omega
  rw [inRanges, List.any_append, outside, Bool.or_false, inRanges]

theorem isAlpha_iff {c : Char} :
    c.isAlpha = true ↔ (65 ≤ c.toNat ∧ c.toNat ≤ 90) ∨ (97 ≤ c.toNat ∧ c.toNat ≤ 122) := by
  have ranges : c.isAlpha = (decide (65 ≤ c.val ∧ c.val ≤ 90) ||
      decide (97 ≤ c.val) && decide (c.val ≤ 122)) := rfl
  simp only [ranges, Bool.or_eq_true, Bool.and_eq_true, decide_eq_true_eq, UInt32.le_iff_toNat_le,
    UInt32.reduceToNat, Char.toNat_val]

theorem isDigit_iff {c : Char} : c.isDigit = true ↔ 48 ≤ c.toNat ∧ c.toNat ≤ 57 :=
  Char.isDigit_iff_toNat

theorem eq_underscore_iff {c : Char} : c = '_' ↔ c.toNat = 95 := Char.toNat_inj.symm

theorem isIdentifierStart_iff {c : Char} (ascii : c.toNat < 128) :
    isIdentifierStart c = true ↔ c.isAlpha = true ∨ c = '_' := by
  have parts : identifierStartRanges = [(65, 90), (95, 95), (97, 122)] ++ identifierStartRanges.drop 3 :=
    rfl
  rw [isIdentifierStart, parts, inRanges_append_of_above (by decide +kernel) ascii, isAlpha_iff,
    eq_underscore_iff]
  simp only [inRanges, List.any_cons, List.any_nil, Bool.or_false, Bool.or_eq_true,
    Bool.and_eq_true, decide_eq_true_eq]
  omega

theorem isIdentifierContinue_iff {c : Char} (ascii : c.toNat < 128) :
    isIdentifierContinue c = true ↔ c.isAlphanum = true ∨ c = '_' := by
  have parts : identifierOnlyContinueRanges = [(48, 57)] ++ identifierOnlyContinueRanges.drop 1 :=
    rfl
  rw [isIdentifierContinue, Bool.or_eq_true, isIdentifierStart_iff ascii, parts,
    inRanges_append_of_above (by decide +kernel) ascii, Char.isAlphanum, Bool.or_eq_true, isDigit_iff]
  simp only [inRanges, List.any_cons, List.any_nil, Bool.or_false, Bool.and_eq_true,
    decide_eq_true_eq]
  exact or_right_comm

theorem not_isDigit_of_start {c : Char} (start : c.isAlpha = true ∨ c = '_') : ¬ c.isDigit = true := by
  rw [isAlpha_iff, eq_underscore_iff] at start
  rw [isDigit_iff]
  omega

/-- A text before an identifier makes an identifier with it if it goes on and starts like one. -/
theorem isIdentifier_append_iff {s word : String} (ascii : ∀ c ∈ s.toList, c.toNat < 128)
    (isWord : isIdentifier word = true) : isIdentifier (s ++ word) = true ↔
      (∀ c ∈ s.toList, c.isAlphanum = true ∨ c = '_') ∧
        ∀ c, s.toList.head? = some c → ¬ c.isDigit = true := by
  have wordContinues : ∀ c ∈ word.toList, isIdentifierContinue c = true := by
    unfold isIdentifier at isWord
    split at isWord
    case h_1 => cases isWord
    case h_2 first rest chars =>
      obtain ⟨starts, continues⟩ := Bool.and_eq_true_iff.mp isWord
      rw [chars]
      intro c inside
      rcases List.mem_cons.mp inside with rfl | later
      · rw [isIdentifierContinue, starts, Bool.true_or]
      · exact List.all_eq_true.mp continues c later
  cases chars : s.toList with
  -- the word itself comes first, which may start so
  | nil =>
    have same : (s ++ word).toList = word.toList := by rw [String.toList_append, chars, List.nil_append]
    rw [String.toList_inj.mp same]
    simp [isWord]
  | cons first rest =>
    rw [chars] at ascii
    have firstAscii := ascii first List.mem_cons_self
    have whole : (s ++ word).toList = first :: (rest ++ word.toList) := by
      rw [String.toList_append, chars, List.cons_append]
    have tail : (∀ c ∈ rest, isIdentifierContinue c = true) ↔
        ∀ c ∈ rest, c.isAlphanum = true ∨ c = '_' := by
      refine forall₂_congr fun c inside => ?_
      exact isIdentifierContinue_iff (ascii c (List.mem_cons_of_mem _ inside))
    have starts : isIdentifierStart first = true ↔
        (first.isAlphanum = true ∨ first = '_') ∧ ¬ first.isDigit = true := by
      rw [isIdentifierStart_iff firstAscii]
      constructor
      · intro start
        refine ⟨?_, not_isDigit_of_start start⟩
        exact start.imp_left fun alpha => by rw [Char.isAlphanum, alpha, Bool.true_or]
      · rintro ⟨alphanumeric | underscore, noDigit⟩
        · rw [Char.isAlphanum, Bool.or_eq_true] at alphanumeric
          exact .inl (alphanumeric.resolve_right noDigit)
        · exact .inr underscore
    have allWord : word.toList.all isIdentifierContinue = true := List.all_eq_true.mpr wordContinues
    rw [isIdentifier, whole]
    simp only [List.all_append, allWord, Bool.and_true, Bool.and_eq_true, List.all_eq_true, tail,
      starts, List.forall_mem_cons, List.head?_cons, Option.some.injEq, forall_eq']
    exact and_right_comm

end Text

namespace Service

variable {service : Service} {name : String}

/-! ### Display names -/

/-- The classes that every module has: the client, the base class of its errors and the classes for
failures that no shape stands for. -/
def classNames (service : Service) : Except Fault (List String) := do
  return (← service.clientName) :: (← service.errorName) :: (← service.otherErrorNames)

/-- All that a display name has besides a vendor's name are letters, digits and signs that are left
out. -/
def HasPlainName (name : String) : Prop :=
  ∀ c ∈ dropVendors name.toList, c.isAlphanum = true ∨ isNamePunctuation c = true

/-- What the names of these classes end in, after the type name of the service. -/
def classSuffixes : List String :=
  ["Client", "ClientError", "ClientHttpDispatchError", "ClientCredentialsError", "ClientUnknownError"]

theorem classNames_of_typeName {type : String} (made : service.typeName = .ok type) :
    service.classNames = .ok (classSuffixes.map (type ++ ·)) := by
  have client : service.clientName = .ok (type ++ "Client") := by
    rw [clientName, made]
    rfl
  simp [classNames, client, errorName, otherErrorNames, otherErrorSuffixes, classSuffixes,
    Except.map, Except.ok_bind, String.append_assoc]

instance : Decidable (HasPlainName name) :=
  inferInstanceAs (Decidable (∀ c ∈ dropVendors name.toList, _))

/-- The characters of a display name that stay in a type name. -/
def keptChars (name : String) : List Char :=
  (dropVendors name.toList).filter fun c => !isNamePunctuation c

theorem dropVendors_subset (cs : List Char) : dropVendors cs ⊆ cs := by
  have each : ∀ (cs vendor : List Char),
      (if vendor.isPrefixOf cs then cs.drop vendor.length else cs) ⊆ cs := by
    intro cs vendor
    split
    · exact List.drop_subset _ _
    · exact List.Subset.refl _
  exact List.Subset.trans (each _ _) (each _ _)

theorem keptChars_subset (name : String) : keptChars name ⊆ name.toList := by
  intro c inside
  exact dropVendors_subset _ (List.mem_filter.mp inside).1

/-- The characters that stay are letters, digits and underscores if the name is plain. -/
theorem hasPlainName_iff : HasPlainName name ↔
    ∀ c ∈ keptChars name, c.isAlphanum = true ∨ c = '_' := by
  constructor
  · intro plain c inside
    obtain ⟨inName, kept⟩ := List.mem_filter.mp inside
    exact .inl ((plain c inName).resolve_right (by simpa using kept))
  · intro words c inName
    by_cases dropped : isNamePunctuation c = true
    · exact .inr dropped
    have inside : c ∈ keptChars name := List.mem_filter.mpr ⟨inName, by simpa using dropped⟩
    rcases words c inside with alphanumeric | rfl
    · exact .inl alphanumeric
    · exact .inr (by decide)

/-- A type name has letters, digits and underscores only if the display name is plain, and then the
client and its error classes are identifiers but for a digit at the start. -/
theorem classNames_identifiers_iff (named : service.displayName = .str name)
    (ascii : ∀ c ∈ name.toList, c.toNat < 128) :
    ∃ type classes, service.typeName = .ok type ∧ service.classNames = .ok classes ∧
      ((∀ c ∈ type.toList, c.isAlphanum = true ∨ c = '_') ↔ HasPlainName name) ∧
      ((∀ className ∈ classes, Text.isIdentifier className = true) ↔
        HasPlainName name ∧ ∀ c, type.toList.head? = some c → ¬ c.isDigit = true) := by
  have made : service.typeName = .ok (String.ofList (keptChars name)) := by
    rw [typeName, named]
    rfl
  have words : ∀ suffix ∈ classSuffixes, Text.isIdentifier suffix = true := by decide +kernel
  have kept : ∀ c ∈ (String.ofList (keptChars name)).toList, c.toNat < 128 := by
    intro c inside
    rw [String.toList_ofList] at inside
    exact ascii c (keptChars_subset name inside)
  have plain : (∀ c ∈ (String.ofList (keptChars name)).toList, c.isAlphanum = true ∨ c = '_') ↔
      HasPlainName name := by
    rw [String.toList_ofList, hasPlainName_iff]
  refine ⟨_, _, made, classNames_of_typeName made, plain, ?_⟩
  rw [← plain]
  constructor
  · intro identifiers
    have first : "Client" ∈ classSuffixes := List.mem_cons_self
    have client := identifiers _ (List.mem_map_of_mem first)
    exact (Text.isIdentifier_append_iff kept (words _ first)).mp client
  · intro conditions className listed
    obtain ⟨suffix, known, rfl⟩ := List.mem_map.mp listed
    exact (Text.isIdentifier_append_iff kept (words suffix known)).mpr conditions

/-- A service whose display name has a colon between letters. -/
def rePostPrivate : Service where
  metadata := { protocol := .str "rest-json", fullName := .str "AWS re:Post Private" }

/-- The colon of a display name stays in the type name, and no class of the module is an identifier. -/
theorem colon_stays_in_classNames :
    rePostPrivate.typeName = .ok "re:PostPrivate" ∧
    rePostPrivate.classNames = .ok ["re:PostPrivateClient", "re:PostPrivateClientError",
      "re:PostPrivateClientHttpDispatchError", "re:PostPrivateClientCredentialsError",
      "re:PostPrivateClientUnknownError"] ∧
    ∀ className ∈ ["re:PostPrivateClient", "re:PostPrivateClientError",
      "re:PostPrivateClientHttpDispatchError", "re:PostPrivateClientCredentialsError",
      "re:PostPrivateClientUnknownError"], Text.isIdentifier className = false := by
  refine ⟨?_, ?_, ?_⟩ <;> decide +kernel

/-- Both vendors are dropped, and the digit after them stays first. -/
example : ({ metadata := { protocol := .str "json", fullName := .str "AmazonAWS 2Go" } } :
    Service).typeName = .ok "2Go" ∧ Text.isIdentifier "2GoClient" = false := by decide +kernel

end Service

end ServiceClient
