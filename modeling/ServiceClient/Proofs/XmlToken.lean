import Mathlib.Data.List.TakeWhile
import ServiceClient.Xml.Reader

/-!
The tokens of markup. The characters of a name are apart from those that markup is made of, so a name
ends where it was put to end; an escaped text has no markup of its own, and its references stand for the
characters that were escaped.
-/

namespace ServiceClient.Xml

/-! ### Characters -/

theorem toNat_of_inRanges {ranges : List (Nat × Nat)} {low high : Nat} {c : Char}
    (within : ∀ range ∈ ranges, low ≤ range.1 ∧ range.2 ≤ high) (inside : Text.inRanges ranges c) :
    low ≤ c.toNat ∧ c.toNat ≤ high := by
  obtain ⟨range, listed, holds⟩ := List.any_eq_true.mp inside
  rw [Bool.and_eq_true, decide_eq_true_eq, decide_eq_true_eq] at holds
  have bounds := within range listed
  omega

theorem toNat_of_isNameStart {c : Char} (starts : isNameStart c) : 65 ≤ c.toNat ∧ c.toNat ≤ 55203 :=
  toNat_of_inRanges (by decide +kernel) starts

theorem toNat_of_isNameChar {c : Char} (inName : isNameChar c) : 45 ≤ c.toNat ∧ c.toNat ≤ 55203 := by
  rw [isNameChar, Bool.or_eq_true] at inName
  rcases inName with starts | more
  · have range := toNat_of_isNameStart starts
    omega
  · exact toNat_of_inRanges (by decide +kernel) more

theorem isDocumentChar_of_isNameChar {c : Char} (inName : isNameChar c) : isDocumentChar c := by
  have bounds := toNat_of_isNameChar inName
  simp only [isDocumentChar, Bool.or_eq_true, Bool.and_eq_true, decide_eq_true_eq, bne_iff_ne]
  exact .inr ⟨⟨by omega, by omega⟩, by omega⟩

/-- A character of a name is none that names do not have. -/
theorem ne_of_isNameChar {c other : Char} (inName : isNameChar c) (foreign : isNameChar other = false) :
    c ≠ other := by
  rintro rfl
  rw [inName] at foreign
  cases foreign

theorem isSpace_of_isNameChar {c : Char} (inName : isNameChar c) : isSpace c = false := by
  have bounds := toNat_of_isNameChar inName
  by_contra blank
  rw [Bool.not_eq_false] at blank
  simp only [isSpace, Bool.or_eq_true, beq_iff_eq] at blank
  rcases blank with ((rfl | rfl) | rfl) | rfl
  all_goals exact absurd bounds.1 (by decide)

theorem isNameChar_of_isNameStart {c : Char} (starts : isNameStart c) : isNameChar c := by
  rw [isNameChar, starts, Bool.true_or]

theorem isPlainName_iff {cs : List Char} :
    isPlainName cs ↔ ∃ c rest, cs = c :: rest ∧ isNameStart c ∧ ∀ d ∈ rest, isNameChar d := by
  cases cs with
  | nil => simp [isPlainName]
  | cons c rest =>
    constructor
    · intro plain
      simp only [isPlainName, List.head?_cons, Option.map_some, Option.getD_some, List.all_cons,
        Bool.and_eq_true, List.all_eq_true] at plain
      exact ⟨c, rest, rfl, plain.1, plain.2.2⟩
    · rintro ⟨_, _, same, starts, more⟩
      obtain ⟨rfl, rfl⟩ := List.cons.inj same
      simp only [isPlainName, List.head?_cons, Option.map_some, Option.getD_some, List.all_cons,
        Bool.and_eq_true, List.all_eq_true]
      exact ⟨starts, isNameChar_of_isNameStart starts, more⟩

theorem isNameChar_of_isPlainName {cs : List Char} (plain : isPlainName cs) {c : Char} (inside : c ∈ cs) :
    isNameChar c :=
  List.all_eq_true.mp (Bool.and_eq_true_iff.mp plain).2 c inside

namespace Token

/-! ### Names -/

theorem takeWhile_name {cs : List Char} (plain : isPlainName cs) {d : Char}
    (ends : isQualifiedChar d = false) (rest : List Char) :
    (cs ++ d :: rest).takeWhile isQualifiedChar = cs := by
  rw [List.takeWhile_append_of_pos, List.takeWhile_cons_of_neg (by simp [ends]), List.append_nil]
  intro c inside
  rw [isQualifiedChar, isNameChar_of_isPlainName plain inside, Bool.or_true]

theorem dropWhile_name {cs : List Char} (plain : isPlainName cs) {d : Char}
    (ends : isQualifiedChar d = false) (rest : List Char) :
    (cs ++ d :: rest).dropWhile isQualifiedChar = d :: rest := by
  rw [List.dropWhile_append_of_pos, List.dropWhile_cons_of_neg (by simp [ends])]
  intro c inside
  rw [isQualifiedChar, isNameChar_of_isPlainName plain inside, Bool.or_true]

theorem not_mem_of_isPlainName {cs : List Char} (plain : isPlainName cs) {c : Char}
    (foreign : isNameChar c = false) : c ∉ cs := by
  intro inside
  exact ne_of_isNameChar (isNameChar_of_isPlainName plain inside) foreign rfl

/-- A name that is written ends where it was put to end. -/
theorem name?_append {name : String} (plain : isPlainName name.toList) {d : Char}
    (ends : isQualifiedChar d = false) (rest : List Char) :
    name? (name.toList ++ d :: rest) = some (name, d :: rest) := by
  have noColon : ':' ∉ name.toList := not_mem_of_isPlainName plain (by decide)
  have qualified : isQualifiedName name.toList := by
    simp [isQualifiedName, Text.splitOn_of_not_mem noColon, plain]
  unfold name?
  rw [takeWhile_name plain ends, dropWhile_name plain ends]
  simp only [qualified, if_true, String.ofList_toList]

/-! ### References -/

/-- A reference that needs no declaration, and the character that it stands for. -/
structure StandsFor (body : List Char) (c : Char) : Prop where
  plain : body.all fun d => d.isAlphanum || d == '#'
  refers : ∃ reference, referenceOf? body = some reference ∧
    (reference = .char c ∨ ∃ name, reference = .entity name ∧ predefined? name = some c)

theorem reference?_append {body : List Char} {c : Char} (stands : StandsFor body c) (rest : List Char) :
    ∃ reference, reference? (body ++ ';' :: rest) = some (reference, rest) ∧
      (reference = .char c ∨ ∃ name, reference = .entity name ∧ predefined? name = some c) := by
  obtain ⟨reference, refers, resolved⟩ := stands.refers
  have ended : ';' ∉ body := by
    intro inside
    exact absurd (List.all_eq_true.mp stands.plain _ inside) (by decide)
  refine ⟨reference, ?_, resolved⟩
  rw [reference?, Text.cut_append ended]
  simp only [refers, Option.map_some]

/-- A character of a text is written as a reference that stands for it, or as itself. -/
theorem escapeTextChar_cases (c : Char) :
    (∃ body, StandsFor body c ∧ escapeTextChar c = '&' :: (body ++ [';'])) ∨
      escapeTextChar c = [c] ∧ c ≠ '&' ∧ c ≠ '<' ∧ c ≠ '>' := by
  have entity (name : String) (plain : name.toList.all fun d => d.isAlphanum || d == '#')
      (refers : referenceOf? name.toList = some (.entity name)) (known : predefined? name = some c) :
      StandsFor name.toList c := ⟨plain, _, refers, .inr ⟨name, rfl, known⟩⟩
  unfold escapeTextChar
  split
  case h_1 => exact .inl ⟨_, entity "amp" (by decide) (by decide) (by decide), rfl⟩
  case h_2 => exact .inl ⟨_, entity "lt" (by decide) (by decide) (by decide), rfl⟩
  case h_3 => exact .inl ⟨_, entity "gt" (by decide) (by decide) (by decide), rfl⟩
  case h_4 noAmpersand noLess noGreater => exact .inr ⟨rfl, noAmpersand, noLess, noGreater⟩

/-- A character of an attribute is written as a reference that stands for it, or as itself. -/
theorem escapeAttributeChar_cases (c : Char) :
    (∃ body, StandsFor body c ∧ escapeAttributeChar c = '&' :: (body ++ [';'])) ∨
      escapeAttributeChar c = [c] ∧ c ≠ '&' ∧ c ≠ '<' ∧ c ≠ '"' ∧ (isSpace c → c = ' ') := by
  unfold escapeAttributeChar
  split
  case h_1 => exact .inl ⟨"quot".toList, ⟨by decide, _, rfl, .inr ⟨"quot", rfl, rfl⟩⟩, rfl⟩
  case h_2 => exact .inl ⟨"#13".toList, ⟨by decide, _, rfl, .inl rfl⟩, rfl⟩
  case h_3 => exact .inl ⟨"#10".toList, ⟨by decide, _, rfl, .inl rfl⟩, rfl⟩
  case h_4 => exact .inl ⟨"#09".toList, ⟨by decide, _, rfl, .inl rfl⟩, rfl⟩
  case h_5 noQuote noReturn noLineFeed noTab =>
    refine (escapeTextChar_cases c).imp_right ?_
    rintro ⟨written, noAmpersand, noLess, -⟩
    refine ⟨written, noAmpersand, noLess, noQuote, fun blank => ?_⟩
    simp only [isSpace, Bool.or_eq_true, beq_iff_eq] at blank
    rcases blank with ((isSpace | isTab) | isLineFeed) | isReturn
    · exact isSpace
    · exact absurd isTab noTab
    · exact absurd isLineFeed noLineFeed
    · exact absurd isReturn noReturn

/-! ### Attributes -/

theorem attributeText?_reference {body : List Char} {c : Char} (stands : StandsFor body c)
    (depth : Nat) (entities : Entities) (rest : List Char) :
    attributeText? depth entities ('&' :: (body ++ ';' :: rest)) =
      (attributeText? depth entities rest).map (c :: ·) := by
  have shorter : rest.length ≤ (body ++ ';' :: rest).length := by
    rw [List.length_append, List.length_cons]
    omega
  obtain ⟨reference, read, resolved⟩ := reference?_append stands rest
  rw [attributeText?, read]
  simp only [shorter, if_true]
  rcases resolved with rfl | ⟨name, rfl, known⟩
  · cases attributeText? depth entities rest <;> rfl
  · simp only [known]
    cases attributeText? depth entities rest <;> rfl

theorem attributeText?_plain {c : Char} (noTag : c ≠ '<') (noReference : c ≠ '&')
    (noBreak : isSpace c → c = ' ') (depth : Nat) (entities : Entities) (rest : List Char) :
    attributeText? depth entities (c :: rest) =
      (attributeText? depth entities rest).map (c :: ·) := by
  rw [attributeText?]
  · by_cases blank : isSpace c
    · rw [if_pos blank, noBreak blank]
    · rw [if_neg blank]
  · exact noTag
  · exact noReference

/-- The value of an attribute is read as what was written. -/
theorem attributeText?_escapeAttribute (depth : Nat) (entities : Entities) (text : String) :
    attributeText? depth entities (escapeAttribute text) = some text.toList := by
  unfold escapeAttribute
  induction text.toList with
  | nil => rw [List.flatMap_nil, attributeText?]
  | cons c rest ih =>
    rw [List.flatMap_cons]
    rcases escapeAttributeChar_cases c with ⟨body, stands, written⟩ |
      ⟨written, noReference, noTag, -, noBreak⟩
    · rw [written, List.cons_append, List.append_assoc, List.singleton_append,
        attributeText?_reference stands, ih, Option.map_some]
    · rw [written, List.singleton_append, attributeText?_plain noTag noReference noBreak, ih,
        Option.map_some]

/-- Markup of references. -/
def isReferenceChar (c : Char) : Bool := c.isAlphanum || c == '#' || c == '&' || c == ';'

theorem StandsFor.isReferenceChar {body : List Char} {c d : Char} (stands : StandsFor body c)
    (inside : d ∈ '&' :: (body ++ [';'])) : isReferenceChar d := by
  simp only [List.mem_cons, List.mem_append, List.not_mem_nil, or_false] at inside
  rcases inside with rfl | inside | rfl
  · decide
  · have plain := List.all_eq_true.mp stands.plain d inside
    rw [Token.isReferenceChar, plain]
    rfl
  · decide

theorem mem_escapeText {text : String} {d : Char} (inside : d ∈ escapeText text) :
    isReferenceChar d ∨ d ∈ text.toList ∧ d ≠ '<' ∧ d ≠ '>' := by
  obtain ⟨c, listed, inside⟩ := List.mem_flatMap.mp inside
  rcases escapeTextChar_cases c with ⟨body, stands, written⟩ | ⟨written, -, noTag, noEnd⟩
  · rw [written] at inside
    exact .inl (stands.isReferenceChar inside)
  · rw [written] at inside
    obtain rfl := List.mem_singleton.mp inside
    exact .inr ⟨listed, noTag, noEnd⟩

theorem mem_escapeAttribute {text : String} {d : Char} (inside : d ∈ escapeAttribute text) :
    isReferenceChar d ∨ d ∈ text.toList ∧ d ≠ '"' ∧ (isSpace d → d = ' ') := by
  obtain ⟨c, listed, inside⟩ := List.mem_flatMap.mp inside
  rcases escapeAttributeChar_cases c with ⟨body, stands, written⟩ | ⟨written, -, -, noQuote, noBreak⟩
  · rw [written] at inside
    exact .inl (stands.isReferenceChar inside)
  · rw [written] at inside
    obtain rfl := List.mem_singleton.mp inside
    exact .inr ⟨listed, noQuote, noBreak⟩

theorem quote_not_mem_escapeAttribute (text : String) : '"' ∉ escapeAttribute text := by
  intro inside
  rcases mem_escapeAttribute inside with reference | ⟨-, noQuote, -⟩
  · exact absurd reference (by decide)
  · exact noQuote rfl

/-- An attribute that is written is read, up to the quote that was put to end it. -/
theorem attribute?_append {name : String} (plain : isPlainName name.toList) (text : String)
    (rest : List Char) :
    attribute? (name.toList ++ '=' :: '"' :: (escapeAttribute text ++ '"' :: rest)) =
      some ((name, escapeAttribute text), rest) := by
  have quoted : quoted? ('"' :: (escapeAttribute text ++ '"' :: rest)) =
      some (escapeAttribute text, rest) := by
    rw [quoted?, if_pos (.inl rfl), Text.cut_append (quote_not_mem_escapeAttribute text)]
  have noSpace (c : Char) (more : List Char) (visible : isSpace c = false) :
      (c :: more).dropWhile isSpace = c :: more := List.dropWhile_cons_of_neg (by simp [visible])
  unfold attribute?
  rw [name?_append plain (by decide)]
  simp only [Option.bind_eq_bind, Option.bind_some, noSpace '=' _ (by decide),
    noSpace '"' _ (by decide), quoted, Option.pure_def]

theorem attributes?_attribute {name : String} (plain : isPlainName name.toList) (text : String)
    (rest : List Char) :
    attributes? (' ' :: (name.toList ++ '=' :: '"' :: (escapeAttribute text ++ '"' :: rest))) =
      (attributes? rest).map fun (attributes, closed, after) =>
        ((name, escapeAttribute text) :: attributes, closed, after) := by
  have read := attribute?_append plain text rest
  obtain ⟨c, more, isName, starts, -⟩ := isPlainName_iff.mp plain
  have visible : isSpace c = false := isSpace_of_isNameChar (isNameChar_of_isNameStart starts)
  have noEnd : c ≠ '>' := ne_of_isNameChar (isNameChar_of_isNameStart starts) (by decide)
  have noSlash : c ≠ '/' := ne_of_isNameChar (isNameChar_of_isNameStart starts) (by decide)
  rw [isName, List.cons_append] at read ⊢
  have inner : (' ' :: c :: (more ++ '=' :: '"' :: (escapeAttribute text ++ '"' :: rest))).dropWhile
      isSpace = c :: (more ++ '=' :: '"' :: (escapeAttribute text ++ '"' :: rest)) := by
    rw [List.dropWhile_cons_of_pos (by decide), List.dropWhile_cons_of_neg (by simp [visible])]
  have shorter : (c :: (more ++ '=' :: '"' :: (escapeAttribute text ++ '"' :: rest))).length <
      (' ' :: c :: (more ++ '=' :: '"' :: (escapeAttribute text ++ '"' :: rest))).length := by
    simp
  have restShorter : rest.length <
      (' ' :: c :: (more ++ '=' :: '"' :: (escapeAttribute text ++ '"' :: rest))).length := by
    simp only [List.length_cons, List.length_append]
    omega
  rw [attributes?, inner]
  split
  case h_1 same => exact absurd (List.cons.inj same).1 noEnd
  case h_2 same => exact absurd (List.cons.inj same).1 noSlash
  case h_3 => simp only [shorter, restShorter, if_true, read]

theorem attributes?_end (rest : List Char) : attributes? ('>' :: rest) = some ([], false, rest) := by
  rw [attributes?, List.dropWhile_cons_of_neg (by decide)]
  rfl

theorem attributes?_closed (rest : List Char) :
    attributes? (' ' :: '/' :: '>' :: rest) = some ([], true, rest) := by
  rw [attributes?, List.dropWhile_cons_of_pos (by decide), List.dropWhile_cons_of_neg (by decide)]
  rfl

/-- The attributes of a tag are read as they are written, up to the end of the tag. -/
theorem attributes?_writeAttributes {attributes : List (String × String)}
    (plain : ∀ pair ∈ attributes, isPlainName pair.1.toList) {tail rest : List Char} {closed : Bool}
    (ends : attributes? tail = some ([], closed, rest)) :
    attributes? (writeAttributes attributes ++ tail) =
      some (attributes.map fun pair => (pair.1, escapeAttribute pair.2), closed, rest) := by
  induction attributes with
  | nil => exact ends
  | cons pair others ih =>
    have later := ih fun other listed => plain other (List.mem_cons_of_mem _ listed)
    have written : writeAttributes (pair :: others) ++ tail = ' ' :: (pair.1.toList ++ '=' :: '"' ::
        (escapeAttribute pair.2 ++ '"' :: (writeAttributes others ++ tail))) := by
      simp [writeAttributes]
    rw [written, attributes?_attribute (plain pair List.mem_cons_self), later]
    rfl

/-! ### Pieces of content -/

/-- An opening tag and, if it closes itself, the closing one. -/
theorem next?_openTag {tag : String} (named : isPlainName tag.toList)
    {attributes : List (String × String)} (plain : ∀ pair ∈ attributes, isPlainName pair.1.toList)
    {d : Char} {tail rest : List Char} {closed : Bool}
    (ends : attributes? (d :: tail) = some ([], closed, rest)) (visible : isQualifiedChar d = false) :
    next? ('<' :: (tag.toList ++ (writeAttributes attributes ++ d :: tail))) =
      some (.openTag tag (attributes.map fun pair => (pair.1, escapeAttribute pair.2)) ::
        (if closed then [.closeTag tag] else []), rest) := by
  have nameEnds : ∃ first more, writeAttributes attributes ++ d :: tail = first :: more ∧
      isQualifiedChar first = false := by
    cases attributes with
    | nil => exact ⟨d, tail, rfl, visible⟩
    | cons pair others => exact ⟨' ', _, rfl, by decide⟩
  have read := attributes?_writeAttributes plain ends
  obtain ⟨first, more, shape, notInName⟩ := nameEnds
  have name : name? (tag.toList ++ (writeAttributes attributes ++ d :: tail)) =
      some (tag, writeAttributes attributes ++ d :: tail) := by
    rw [shape]
    exact name?_append named notInName more
  obtain ⟨c, others, isName, starts, -⟩ := isPlainName_iff.mp named
  have inName : isNameChar c := isNameChar_of_isNameStart starts
  have noSlash : c ≠ '/' := ne_of_isNameChar inName (by decide)
  have noBang : c ≠ '!' := ne_of_isNameChar inName (by decide)
  have noQuestion : c ≠ '?' := ne_of_isNameChar inName (by decide)
  rw [isName] at name ⊢
  unfold next?
  split
  case h_1 same => exact absurd (List.cons.inj (List.cons.inj same).2).1 noSlash
  case h_2 same => exact absurd (List.cons.inj (List.cons.inj same).2).1 noBang
  case h_3 same => exact absurd (List.cons.inj (List.cons.inj same).2).1 noBang
  case h_4 same => exact absurd (List.cons.inj (List.cons.inj same).2).1 noQuestion
  case h_5 same =>
    obtain rfl := (List.cons.inj same).2
    simp only [name, read, Option.bind_eq_bind, Option.bind_some, Option.pure_def]
    cases closed <;> rfl
  case h_6 same => exact absurd (List.cons.inj same).1 (by decide)
  case h_7 noTag _ => exact absurd rfl (noTag _)

theorem next?_closeTag {tag : String} (named : isPlainName tag.toList) (rest : List Char) :
    next? ('<' :: '/' :: (tag.toList ++ '>' :: rest)) = some ([.closeTag tag], rest) := by
  rw [next?, takeWhile_name named (by decide), dropWhile_name named (by decide),
    List.dropWhile_cons_of_neg (by decide)]
  simp only [String.ofList_toList]

/-- A reference in text is a token that is expanded to its character. -/
theorem next?_reference {body : List Char} {c : Char} (stands : StandsFor body c) (rest : List Char) :
    ∃ token, next? ('&' :: (body ++ ';' :: rest)) = some ([token], rest) ∧
      expandOne? 0 [] token = some [.data [c]] := by
  obtain ⟨reference, read, resolved⟩ := reference?_append stands rest
  rw [next?, read]
  rcases resolved with rfl | ⟨name, rfl, known⟩
  · exact ⟨.data [c], rfl, by unfold expandOne?; rfl⟩
  · refine ⟨.entity name, rfl, ?_⟩
    unfold expandOne?
    rw [known]

theorem hasSectionEnd_of_not_mem {cs : List Char} (absent : '>' ∉ cs) : hasSectionEnd cs = false := by
  fun_induction hasSectionEnd cs with
  | case1 rest => simp at absent
  | case2 c rest _ ih => exact ih fun inside => absent (List.mem_cons_of_mem c inside)
  | case3 => rfl

/-- Text without markup goes up to the next markup. -/
theorem next?_text {c d : Char} {run rest : List Char} (plain : ∀ x ∈ c :: run, isTextChar x)
    (noEnd : '>' ∉ c :: run) (markup : isTextChar d = false) :
    next? (c :: run ++ d :: rest) = some ([.text (c :: run)], d :: rest) := by
  have taken : (c :: run ++ d :: rest).takeWhile isTextChar = c :: run := by
    rw [List.takeWhile_append_of_pos plain, List.takeWhile_cons_of_neg (by simp [markup]),
      List.append_nil]
  have dropped : (c :: run ++ d :: rest).dropWhile isTextChar = d :: rest := by
    rw [List.dropWhile_append_of_pos plain, List.dropWhile_cons_of_neg (by simp [markup])]
  have first := plain c List.mem_cons_self
  have noTag : c ≠ '<' := by
    rintro rfl
    exact absurd first (by decide)
  have noReference : c ≠ '&' := by
    rintro rfl
    exact absurd first (by decide)
  rw [List.cons_append] at taken dropped ⊢
  unfold next?
  split
  case h_7 =>
    rw [taken, dropped]
    dsimp only
    rw [hasSectionEnd_of_not_mem noEnd]
    rfl
  case h_6 same => exact absurd (List.cons.inj same).1 noReference
  all_goals
    rename_i same
    exact absurd (List.cons.inj same).1 noTag

/-! ### Tokens without references -/

theorem expandOne?_openTag (tag : String) (attributes : List (String × String)) :
    expandOne? 0 [] (.openTag tag (attributes.map fun pair => (pair.1, escapeAttribute pair.2))) =
      some [.openTag tag (attributes.map fun pair => (pair.1, pair.2.toList))] := by
  have resolved : (attributes.map fun pair => (pair.1, escapeAttribute pair.2)).mapM
      (fun pair => (attributeText? 0 [] pair.2).map (pair.1, ·)) =
        some (attributes.map fun pair => (pair.1, pair.2.toList)) := by
    induction attributes with
    | nil => rfl
    | cons pair others ih =>
      rw [List.map_cons, List.mapM_cons, ih, attributeText?_escapeAttribute]
      rfl
  unfold expandOne?
  simp only [resolved, Option.bind_eq_bind, Option.bind_some, Option.pure_def]

theorem expandOne?_closeTag (tag : String) :
    expandOne? 0 [] (.closeTag tag) = some [.closeTag tag] := by
  unfold expandOne?
  rfl

theorem expandOne?_text (cs : List Char) : expandOne? 0 [] (.text cs) = some [.text cs] := by
  unfold expandOne?
  rfl

end Token

end ServiceClient.Xml
