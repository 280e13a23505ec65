import Mathlib.Data.List.Induction
import ServiceClient.Module.Method

/-!
Text of a description between double quotes. An escaped text always ends at the closing quote of its
literal and is read as itself. A name that a module quotes as it stands, in a statement, a field or an
expression, is read as itself just where it has no quote and no backslash that takes another
character's meaning; what else a description holds there changes the code.
-/

namespace ServiceClient

namespace Text.Literal

/-! ### Literals -/

theorem scan_backslash {quotes : Nat} {c : Char} (special : c = '\\' ∨ c = '"') (rest : List Char) :
    scan quotes ('\\' :: c :: rest) = (scan quotes rest).map fun (content, after) =>
      (c :: content, after) := by
  rw [scan]
  simp only [special, if_true]

theorem scan_plain {quotes : Nat} {c : Char} (closed : 0 < quotes) (noBackslash : c ≠ '\\')
    (noQuote : c ≠ '"') (rest : List Char) :
    scan quotes (c :: rest) = (scan quotes rest).map fun (content, after) =>
      (c :: content, after) := by
  obtain ⟨more, rfl⟩ : ∃ more, quotes = more + 1 := ⟨quotes - 1, by omega⟩
  have goesOn : (c :: rest).take (more + 1) ≠ List.replicate (more + 1) '"' := by
    rw [List.take_succ_cons, List.replicate_succ]
    exact fun same => noQuote (List.cons.inj same).1
  rw [scan.eq_3 _ _ _ (fun _ _ same _ => noBackslash same)]
  exact if_neg goesOn

theorem scan_closing {quotes : Nat} (closed : 0 < quotes) (rest : List Char) :
    scan quotes (List.replicate quotes '"' ++ rest) = some ([], rest) := by
  obtain ⟨more, rfl⟩ : ∃ more, quotes = more + 1 := ⟨quotes - 1, by omega⟩
  have taken : (List.replicate (more + 1) '"' ++ rest).take (more + 1) =
      List.replicate (more + 1) '"' := List.take_left' (List.length_replicate ..)
  have dropped : (List.replicate (more + 1) '"' ++ rest).drop (more + 1) = rest :=
    List.drop_left' (List.length_replicate ..)
  have first : List.replicate (more + 1) '"' ++ rest = '"' :: (List.replicate more '"' ++ rest) := by
    rw [List.replicate_succ, List.cons_append]
  rw [first] at taken dropped ⊢
  rw [scan.eq_3 _ _ _ (fun _ _ same _ => absurd same (by decide)), if_pos taken, dropped]

/-- The content of a literal, the quotes that close it and what follows fit into the text. -/
theorem length_of_scan {quotes : Nat} {cs content after : List Char}
    (read : scan quotes cs = some (content, after)) :
    content.length + quotes + after.length ≤ cs.length := by
  fun_induction scan quotes cs generalizing content after with
  | case1 none =>
    obtain ⟨rfl, rfl⟩ := Prod.mk.inj (Option.some.inj read)
    simp [none]
  | case2 => cases read
  | case3 c rest ih =>
    obtain ⟨⟨inner, others⟩, found, same⟩ := Option.map_eq_some_iff.mp read
    obtain ⟨rfl, rfl⟩ := Prod.mk.inj same
    have fits := ih found
    split <;> simp only [List.length_cons] <;> omega
  | case4 c rest _ closing =>
    obtain ⟨rfl, rfl⟩ := Prod.mk.inj (Option.some.inj read)
    have enough := congrArg List.length closing
    simp only [List.length_take, List.length_replicate] at enough
    simp only [List.length_drop, List.length_nil]
    omega
  | case5 c rest _ _ ih =>
    obtain ⟨⟨inner, others⟩, found, same⟩ := Option.map_eq_some_iff.mp read
    obtain ⟨rfl, rfl⟩ := Prod.mk.inj same
    have fits := ih found
    simp only [List.length_cons]
    omega

/-- A literal that is closed stays closed where it is, whatever follows. -/
theorem scan_append {quotes : Nat} (closed : 0 < quotes) {cs content after : List Char}
    (read : scan quotes cs = some (content, after)) (more : List Char) :
    scan quotes (cs ++ more) = some (content, after ++ more) := by
  fun_induction scan quotes cs generalizing content after with
  | case1 zero => omega
  | case2 => cases read
  | case3 c rest ih =>
    obtain ⟨⟨inner, others⟩, found, same⟩ := Option.map_eq_some_iff.mp read
    obtain ⟨rfl, rfl⟩ := Prod.mk.inj same
    rw [List.cons_append, List.cons_append, scan, ih found]
    rfl
  | case4 c rest _ closing =>
    obtain ⟨rfl, rfl⟩ := Prod.mk.inj (Option.some.inj read)
    have parts : c :: rest = List.replicate quotes '"' ++ (c :: rest).drop quotes := by
      rw [← closing, List.take_append_drop]
    rw [parts, List.append_assoc, scan_closing closed, ← parts]
  | case5 c rest alone goesOn ih =>
    obtain ⟨⟨inner, others⟩, found, same⟩ := Option.map_eq_some_iff.mp read
    obtain ⟨rfl, rfl⟩ := Prod.mk.inj same
    have fits := length_of_scan found
    obtain ⟨d, later, rfl⟩ : ∃ d later, rest = d :: later :=
      List.exists_cons_of_length_pos (by omega)
    have sameStart : (c :: d :: later ++ more).take quotes = (c :: d :: later).take quotes :=
      List.take_append_of_le_length (by rw [List.length_cons]; omega)
    rw [List.cons_append] at sameStart ⊢
    rw [scan.eq_3 _ _ _ fun _ _ backslash _ => alone d later backslash rfl, sameStart,
      if_neg goesOn, ih found]
    rfl

/-- Before the quotes that close it are complete, a literal is open. -/
theorem scan_take {quotes : Nat} (closed : 0 < quotes) {cs content : List Char}
    (read : scan quotes cs = some (content, [])) {n : Nat} (short : n < cs.length) :
    scan quotes (cs.take n) = none := by
  rw [Option.eq_none_iff_forall_ne_some]
  rintro ⟨inner, after⟩ early
  have longer := scan_append closed early (cs.drop n)
  rw [List.take_append_drop, read] at longer
  have nothing := (Prod.mk.inj (Option.some.inj longer)).2
  have rest : cs.drop n = [] := (List.append_eq_nil_iff.mp nothing.symm).2
  have all := List.drop_eq_nil_iff.mp rest
  omega

/-! ### Escaped text -/

/-- A character as it stands inside a literal. -/
def escapeChar (c : Char) : List Char := if c = '\\' ∨ c = '"' then ['\\', c] else [c]

/-- Backslashes that are put for quotes are not escaped again. -/
theorem toList_escape (text : String) : (escape text).toList = text.toList.flatMap escapeChar := by
  rw [escape, String.toList_ofList, escapeEach, escapeEach, List.flatMap_assoc]
  apply congrArg (text.toList.flatMap ·)
  funext c
  by_cases backslash : c = '\\'
  · subst backslash
    rfl
  · by_cases quote : c = '"'
    · subst quote
      rfl
    · simp [escapeChar, backslash, quote]

/-- One character of an escaped text is read as that character. -/
theorem scan_escapeChar {quotes : Nat} (closed : 0 < quotes) (c : Char) (rest : List Char) :
    scan quotes (escapeChar c ++ rest) = (scan quotes rest).map fun (content, after) =>
      (c :: content, after) := by
  by_cases special : c = '\\' ∨ c = '"'
  · rw [escapeChar, if_pos special]
    exact scan_backslash special rest
  · have plain := not_or.mp special
    rw [escapeChar, if_neg special]
    exact scan_plain closed plain.1 plain.2 rest

/-- An escaped text ends at the quotes that close its literal, and is read as itself. -/
theorem scan_escape {quotes : Nat} (closed : 0 < quotes) (text : String) (rest : List Char) :
    scan quotes ((escape text).toList ++ (List.replicate quotes '"' ++ rest)) =
      some (text.toList, rest) := by
  rw [toList_escape]
  induction text.toList with
  | nil => exact scan_closing closed rest
  | cons c cs ih =>
    rw [List.flatMap_cons, List.append_assoc, scan_escapeChar closed, ih]
    rfl

/-- The literal of an escaped text ends at the quotes that close it, whatever comes after them, and is
read as the text; before these quotes are complete it is open. -/
def ReadsBack (quotes : Nat) (text : String) : Prop :=
  let literal := (escape text).toList ++ List.replicate quotes '"'
  (∀ rest, scan quotes (literal ++ rest) = some (text.toList, rest)) ∧
    ∀ n < literal.length, scan quotes (literal.take n) = none

theorem readsBack_of_pos {quotes : Nat} (closed : 0 < quotes) (text : String) :
    ReadsBack quotes text := by
  have read (rest : List Char) :
      scan quotes ((escape text).toList ++ List.replicate quotes '"' ++ rest) =
        some (text.toList, rest) := by
    rw [List.append_assoc, scan_escape closed]
  have whole := read []
  rw [List.append_nil] at whole
  exact ⟨read, fun n short => scan_take closed whole short⟩

/-- A text that is escaped between three double quotes, or between single ones, ends at the quotes
that are put after it and not before, and is read as itself. So no two texts are escaped alike. -/
theorem escaped_text_read_back :
    (∀ text, ReadsBack 3 text ∧ ReadsBack 1 text) ∧ Function.Injective escape := by
  constructor
  · intro text
    exact ⟨readsBack_of_pos (by decide) text, readsBack_of_pos Nat.one_pos text⟩
  · intro first second alike
    have read := scan_escape Nat.one_pos first []
    rw [alike, scan_escape Nat.one_pos second []] at read
    exact String.toList_injective (Prod.mk.inj (Option.some.inj read)).1.symm

/-- A text with runs of quotes and backslashes, the last of them at its end. -/
example : scan 3 ((escape "a\"\"\"\\\"\\").toList ++ ['"', '"', '"', ')']) =
    some ("a\"\"\"\\\"\\".toList, [')']) := by decide +kernel

/-! ### Text as it stands -/

/-- Whether a text may stand in a literal as it is: it has no double quote, and after each backslash
comes a character that is no backslash. -/
def isPlain : List Char → Bool
  | [] => true
  | c :: rest => c != '"' && (c != '\\' || rest.head?.any (· != '\\')) && isPlain rest

theorem scan_cons_eq_some_iff {c : Char} {cs content after : List Char} (noBackslash : c ≠ '\\')
    (noQuote : c ≠ '"') :
    scan 1 (c :: cs) = some (c :: content, after) ↔ scan 1 cs = some (content, after) := by
  rw [scan_plain Nat.one_pos noBackslash noQuote, Option.map_eq_some_iff]
  constructor
  · rintro ⟨⟨inner, others⟩, found, same⟩
    simp only [Prod.mk.injEq, List.cons.injEq, true_and] at same
    obtain ⟨rfl, rfl⟩ := same
    exact found
  · intro found
    exact ⟨(content, after), found, rfl⟩

/-- A backslash before a backslash or a quote is lost. -/
theorem scan_backslash_ne {c : Char} (special : c = '\\' ∨ c = '"') (cs rest : List Char) :
    scan 1 ('\\' :: c :: (cs ++ '"' :: rest)) ≠ some ('\\' :: c :: cs, rest) := by
  rw [scan_backslash special]
  intro read
  obtain ⟨⟨content, after⟩, found, same⟩ := Option.map_eq_some_iff.mp read
  obtain ⟨longer, rfl⟩ := Prod.mk.inj same
  have shorter := length_of_scan found
  have asLong := congrArg List.length longer
  simp only [List.length_append, List.length_cons] at shorter asLong
  omega

/-- A text that stands in a literal as it is, is read as itself just where it is plain. -/
theorem scan_eq_self_iff (cs rest : List Char) :
    scan 1 (cs ++ '"' :: rest) = some (cs, rest) ↔ isPlain cs := by
  have quoted (more : List Char) : scan 1 ('"' :: more) = some ([], more) :=
    scan_closing Nat.one_pos more
  induction cs using List.twoStepInduction with
  | nil => exact iff_of_true (quoted rest) rfl
  | singleton x =>
    by_cases backslash : x = '\\'
    · subst backslash
      refine iff_of_false ?_ (by decide)
      intro read
      rw [List.singleton_append, scan_backslash (.inr rfl)] at read
      obtain ⟨⟨content, after⟩, -, same⟩ := Option.map_eq_some_iff.mp read
      exact absurd (List.cons.inj (Prod.mk.inj same).1).1 (by decide)
    · by_cases quote : x = '"'
      · subst quote
        exact iff_of_false (by simp [quoted]) (by decide)
      · rw [List.singleton_append, scan_cons_eq_some_iff backslash quote]
        exact iff_of_true (quoted rest) (by simp [isPlain, backslash, quote])
  | cons_cons x y xs ih₁ ih₂ =>
    have afterPair : scan 1 (xs ++ '"' :: rest) = some (xs, rest) ↔ isPlain xs := ih₁
    have afterOne : scan 1 (y :: xs ++ '"' :: rest) = some (y :: xs, rest) ↔ isPlain (y :: xs) :=
      ih₂ y
    by_cases backslash : x = '\\'
    · subst backslash
      by_cases special : y = '\\' ∨ y = '"'
      · refine iff_of_false (scan_backslash_ne special xs rest) ?_
        rcases special with rfl | rfl <;> simp [isPlain]
      · have apart := not_or.mp special
        have pair : scan 1 ('\\' :: y :: (xs ++ '"' :: rest)) =
            (scan 1 (xs ++ '"' :: rest)).map fun (content, after) =>
              ('\\' :: y :: content, after) := by
          rw [scan]
          simp only [special, if_false]
        rw [List.cons_append, List.cons_append, pair]
        have inner : isPlain ('\\' :: y :: xs) ↔ isPlain xs := by
          simp [isPlain, apart]
        rw [inner, ← afterPair, Option.map_eq_some_iff]
        constructor
        · rintro ⟨⟨content, after⟩, found, same⟩
          simp only [Prod.mk.injEq, List.cons.injEq, true_and] at same
          obtain ⟨rfl, rfl⟩ := same
          exact found
        · exact fun found => ⟨_, found, rfl⟩
    · by_cases quote : x = '"'
      · subst quote
        exact iff_of_false (by simp [quoted]) (by simp [isPlain])
      · rw [List.cons_append, scan_cons_eq_some_iff backslash quote, afterOne]
        simp [isPlain, backslash, quote]

/-- The first literal of a line, and what follows it. -/
def first? (line : String) : Option (List Char × List Char) :=
  scan 1 ((line.toList.dropWhile (· != '"')).drop 1)

/-- A line whose first literal holds a text as it stands. -/
def Quotes (line text : String) : Prop :=
  ∃ before after : String, '"' ∉ before.toList ∧
    line.toList = before.toList ++ '"' :: (text.toList ++ '"' :: after.toList)

/-- The literal of a text that is quoted as it stands ends at the quote that closes it, and is read as
the text, just where the text is plain. -/
theorem Quotes.read_iff {line text : String} (quotes : Quotes line text) :
    ∃ before after : String,
      line.toList = before.toList ++ '"' :: (text.toList ++ '"' :: after.toList) ∧
        (first? line = some (text.toList, after.toList) ↔ isPlain text.toList) := by
  obtain ⟨before, after, opens, parts⟩ := quotes
  refine ⟨before, after, parts, ?_⟩
  have unquoted : ∀ c ∈ before.toList, (c != '"') = true := by
    intro c inside
    rw [bne_iff_ne]
    rintro rfl
    exact opens inside
  rw [first?, parts, List.dropWhile_append_of_pos unquoted]
  exact scan_eq_self_iff text.toList after.toList

/-- A text whose only double quote is its last character. -/
def opensLiteral (opening : String) : Bool :=
  opening.toList.getLast? == some '"' && !opening.toList.dropLast.contains '"'

theorem quotes_of_opens {opening closing : String} (opens : opensLiteral opening)
    (closes : closing.toList.head? = some '"') (text : String) :
    Quotes (opening ++ text ++ closing) text := by
  simp only [opensLiteral, Bool.and_eq_true, beq_iff_eq, Bool.not_eq_true', List.contains_eq_mem,
    decide_eq_false_iff_not] at opens
  obtain ⟨last, onlyLast⟩ := opens
  obtain ⟨before, isOpening⟩ := List.getLast?_eq_some_iff.mp last
  obtain ⟨after, isClosing⟩ := List.head?_eq_some_iff.mp closes
  rw [isOpening, List.dropLast_concat] at onlyLast
  refine ⟨String.ofList before, String.ofList after, ?_, ?_⟩
  · rwa [String.toList_ofList]
  · simp only [String.toList_append, String.toList_ofList, isOpening, isClosing, List.append_assoc,
      List.cons_append, List.nil_append]

theorem Quotes.append {line text : String} (quotes : Quotes line text) (more : String) :
    Quotes (line ++ more) text := by
  obtain ⟨before, after, opens, parts⟩ := quotes
  refine ⟨before, after ++ more, opens, ?_⟩
  simp only [String.toList_append, parts, List.append_assoc, List.cons_append]

end Text.Literal

open Text.Literal

/-! ### Names in statements and expressions -/

theorem InputBinding.quotes_line {binding : InputBinding} {name line : String}
    (places : (binding.place = .query name ∧ binding.queryLine? = some line) ∨
      (binding.place ∈ [.header name, .headers name] ∧ binding.headerLine? = some line)) :
    Quotes line name := by
  obtain ⟨member, place⟩ := binding
  simp only [List.mem_cons, List.not_mem_nil, or_false] at places
  rcases places with ⟨rfl, puts⟩ | ⟨rfl | rfl, puts⟩
  all_goals
    obtain rfl := Option.some.inj puts
    exact ((quotes_of_opens (by decide) (by decide) name).append _).append _

/-- A source that is a header, or the headers with a common start, quotes its name. -/
theorem OutputSource.quotes_expression {source : OutputSource} {name : String}
    (named : source = .header name ∨ source = .headers name) : Quotes source.expression name := by
  rcases named with rfl | rfl
  · exact quotes_of_opens (by decide) (by decide) name
  · exact quotes_of_opens (by decide) (by decide) name

theorem Accessor.quotes_expression {accessor : Accessor} {name : String} {parser : Parser}
    (named : accessor ∈ [.header name parser, .headers name, .flattened name parser,
      .required name parser, .optional name parser]) : Quotes accessor.expression name := by
  simp only [List.mem_cons, List.not_mem_nil, or_false] at named
  rcases named with rfl | rfl | rfl | rfl | rfl
  · exact ((quotes_of_opens (by decide) (by decide) name).append _).append _
  · exact quotes_of_opens (by decide) (by decide) name
  · exact ((quotes_of_opens (by decide) (by decide) name).append _).append _
  · exact ((quotes_of_opens (by decide) (by decide) name).append _).append _
  · exact ((quotes_of_opens (by decide) (by decide) name).append _).append _

/-- The wire name of a field is the first argument of its default. -/
theorem Field.quotes_default? {field : Field} {wire : WireField} {line : String}
    (travels : field.wire = some wire) (sets : field.default? = some line) :
    Quotes line wire.name := by
  rw [Field.default?, travels] at sets
  obtain rfl := Option.some.inj sets
  rw [List.append_assoc, List.singleton_append]
  generalize (if field.required then [] else ["default=None"]) ++ _ = others
  have first : ∃ after : List Char, (Text.intercalate ", " (("\"" ++ wire.name ++ "\"") :: others)).toList =
      '"' :: (wire.name.toList ++ '"' :: after) := by
    rw [Text.intercalate, String.toList_intercalate, List.map_cons]
    cases others with
    | nil => exact ⟨[], by simp⟩
    | cons second more =>
      rw [List.map_cons, List.intercalate_cons_cons]
      exact ⟨_, by simp; rfl⟩
  obtain ⟨after, first⟩ := first
  refine ⟨"_serde.wire(", String.ofList after ++ ")", by decide, ?_⟩
  simp only [String.toList_append, first, String.toList_ofList, List.append_assoc, List.cons_append]

/-- The tag of an element is the first text in the statement that writes it. -/
theorem ElementWrite.quotes_line {write : ElementWrite} {parent value : String}
    (plainParent : '"' ∉ parent.toList)
    (plainWriter : ∀ function, write.writer = some function → '"' ∉ function.toList) :
    Quotes (write.line parent value) write.tag := by
  obtain ⟨tag, writer⟩ := write
  cases writer with
  | none =>
    refine ⟨"_xml.append_text(" ++ parent ++ ", ", ", " ++ value ++ ")", ?_, ?_⟩
    · simpa using plainParent
    · simp [ElementWrite.line, toString]
  | some function =>
    refine ⟨parent ++ ".append(" ++ function ++ "(", ", " ++ value ++ "))", ?_, ?_⟩
    · simpa using ⟨plainParent, plainWriter function rfl⟩
    · simp [ElementWrite.line, toString]

/-- The lines of a module that quote a name of the description. -/
inductive QuotedIn (name : String) : String → Prop
  | input {binding : InputBinding} {line : String}
      (places : (binding.place = .query name ∧ binding.queryLine? = some line) ∨
        (binding.place ∈ [.header name, .headers name] ∧ binding.headerLine? = some line)) :
      QuotedIn name line
  | output {source : OutputSource} (named : source = .header name ∨ source = .headers name) :
      QuotedIn name source.expression
  | accessor {accessor : Accessor} {parser : Parser}
      (named : accessor ∈ [.header name parser, .headers name, .flattened name parser,
        .required name parser, .optional name parser]) : QuotedIn name accessor.expression
  | field {field : Field} {wire : WireField} {line : String} (named : wire.name = name)
      (travels : field.wire = some wire) (sets : field.default? = some line) : QuotedIn name line
  | element {write : ElementWrite} {parent value : String} (named : write.tag = name)
      (plainParent : '"' ∉ parent.toList)
      (plainWriter : ∀ function, write.writer = some function → '"' ∉ function.toList) :
      QuotedIn name (write.line parent value)

/-- A name of the description ends at the quote that closes it, and is read as itself, just where it is
plain. -/
theorem quoted_name_read_iff {name line : String} (quoted : QuotedIn name line) :
    ∃ before after : String,
      line.toList = before.toList ++ '"' :: (name.toList ++ '"' :: after.toList) ∧
        (first? line = some (name.toList, after.toList) ↔ isPlain name.toList) := by
  refine Quotes.read_iff ?_
  cases quoted with
  | input places => exact InputBinding.quotes_line places
  | output named => exact OutputSource.quotes_expression named
  | accessor named => exact Accessor.quotes_expression named
  | field named travels sets =>
    rw [← named]
    exact Field.quotes_default? travels sets
  | element named plainParent plainWriter =>
    rw [← named]
    exact ElementWrite.quotes_line plainParent plainWriter

/-- The name of a query parameter that closes its own literal. -/
example : (⟨"Words", .query "a\"b"⟩ : InputBinding).queryLine?.bind first? =
    some (['a'], "b\", input.words)".toList) := by decide +kernel

end ServiceClient
