import Mathlib.Data.List.TakeWhile
import ServiceClient.Http.UriTemplate
import ServiceClient.Proofs.RequestParameters

/-!
Values of labels stay in their place. What a template is filled with consists of characters that need
no escape and of escapes, so that neither the template nor a request for the filled path takes any of
it for a separator or a label.
-/

namespace ServiceClient

/-! ### Scalars -/

namespace Value

/-- Null, truth values, numbers, texts and octets. -/
def isScalar : Value → Bool
  | .list _ | .tuple _ | .map _ | .record _ _ => false
  | _ => true

/-- The only scalars without a text are whole numbers of too many digits. -/
theorem scalarText?_eq_none_iff {v : Value} (scalar : v.isScalar = true) :
    v.scalarText? = none ↔ ∃ n, v = .int n ∧ Numeral.limit ≤ n.natAbs := by
  rw [scalarText?]
  cases v with
  | int n => simp [writable]
  | list | tuple | map | record => cases scalar
  | _ => simp [writable]

theorem scalarText?_eq_some {v : Value} {text : String} (given : v.scalarText? = some text) :
    text = v.scalarText := by
  unfold scalarText? at given
  split at given
  · exact (Option.some.inj given).symm
  · cases given

end Value

namespace UriTemplate

variable {template uri : String} {values : List (Value × Value)} {l : UriLabel} {c : Char}
  {cs rest : List Char}

/-! ### Templates -/

/-- The characters of a template that a piece was read from. -/
def source : UriPiece → List Char
  | .literal c => [c]
  | .label l => '{' :: l.name.toList ++ (if l.greedy then ['+', '}'] else ['}'])

theorem source_of_label? (opens : label? cs = some (l, rest)) :
    source (.label l) ++ rest = '{' :: cs := by
  have split := List.takeWhile_append_dropWhile (p := isLabelChar) (l := cs)
  simp only [label?] at opens
  split at opens
  · cases opens
  · split at opens
    all_goals cases opens
    all_goals
      rename_i ends
      rw [ends] at split
      simpa [source] using split

/-- The pieces of a template make it up. -/
theorem flatMap_source_pieces (cs : List Char) : (pieces cs).flatMap source = cs := by
  fun_induction pieces cs with
  | case1 => rfl
  | case2 rest l after opens ih =>
    rw [List.flatMap_cons, ih]
    exact source_of_label? opens
  | case3 rest _ ih => rw [List.flatMap_cons, ih]; rfl
  | case4 c rest _ ih => rw [List.flatMap_cons, ih]; rfl

/-! ### Labels -/

/-- The value for a label. -/
def valueFor (values : List (Value × Value)) (l : UriLabel) : Option Value :=
  Value.findEntry? (.str l.name) values

/-- A label that nothing can be put in place of: its value is absent or null, or it is a whole number
of too many digits. -/
def Lacks (values : List (Value × Value)) (l : UriLabel) : Prop :=
  valueFor values l = none ∨ valueFor values l = some .null ∨
    ∃ n : Int, valueFor values l = some (.int n) ∧ Numeral.limit ≤ n.natAbs

/-- What a piece of a template stands for. -/
def meaning (values : List (Value × Value)) : UriPiece → List Char
  | .literal c => [c]
  | .label l => ((valueFor values l).elim "" Value.scalarText).toList

/-- The characters that need no escape in place of a label. -/
def keptIn (l : UriLabel) (c : Char) : Bool := Percent.isUnreserved c || l.greedy && c == '/'

/-- What stands in a path for a piece of its template. -/
def expansion (values : List (Value × Value)) : UriPiece → List Char
  | .literal c => [c]
  | .label l => Percent.encodeChars (keptIn l) (meaning values (.label l))

theorem toList_encode_safeIn (l : UriLabel) (s : String) :
    (Percent.encode (safeIn l) s).toList = Percent.encodeChars (keptIn l) s.toList := by
  have same : (fun c => Percent.isUnreserved c || (safeIn l).contains c) = keptIn l := by
    funext c
    cases greedy : l.greedy <;> simp [keptIn, safeIn, greedy, beq_eq_decide]
  rw [Percent.encode, String.toList_ofList, same]

theorem valueFor_scalar (scalars : ∀ entry ∈ values, entry.2.isScalar = true) {v : Value}
    (given : valueFor values l = some v) : v.isScalar = true := by
  obtain ⟨entry, found, rfl⟩ := Option.map_eq_some_iff.mp given
  exact scalars entry (List.mem_of_find?_eq_some found)

theorem fill_of_lacks (lacks : Lacks values l) :
    ∃ e, fill template values (.label l) = .error e := by
  rcases lacks with absent | null | ⟨n, whole, large⟩
  · exact ⟨.missing l.name template, by rw [fill, ← valueFor, absent]⟩
  · exact ⟨.missing l.name template, by rw [fill, ← valueFor, null]⟩
  · have noText : (Value.int n).scalarText? = none :=
      (Value.scalarText?_eq_none_iff rfl).mpr ⟨n, rfl, large⟩
    exact ⟨.noText, by rw [fill, ← valueFor, whole]; simp only [noText]⟩

theorem fill_of_not_lacks (scalars : ∀ entry ∈ values, entry.2.isScalar = true)
    (filled : ¬ Lacks values l) :
    fill template values (.label l) = .ok (expansion values (.label l)) := by
  simp only [Lacks, not_or, not_exists, not_and, not_le] at filled
  obtain ⟨there, present, small⟩ := filled
  obtain ⟨v, given⟩ := Option.ne_none_iff_exists'.mp there
  have notNull : v ≠ .null := fun null => present (null ▸ given)
  obtain ⟨text, hasText⟩ : ∃ text, v.scalarText? = some text := by
    refine Option.ne_none_iff_exists'.mp fun noText => ?_
    obtain ⟨n, rfl, large⟩ :=
      (Value.scalarText?_eq_none_iff (valueFor_scalar scalars given)).mp noText
    exact absurd large (Nat.not_le.mpr (small n given))
  rw [fill, ← valueFor, given]
  simp only [hasText]
  rw [toList_encode_safeIn, Value.scalarText?_eq_some hasText, expansion, meaning, given]
  rfl

/-- A template whose labels all have a value with a text is filled. -/
theorem expand_of_filled (scalars : ∀ entry ∈ values, entry.2.isScalar = true)
    (filled : ∀ l, .label l ∈ pieces template.toList → ¬ Lacks values l) :
    expand template values =
      .ok (String.ofList ((pieces template.toList).flatMap (expansion values))) := by
  have parts : (pieces template.toList).mapM (fill template values) =
      .ok ((pieces template.toList).map (expansion values)) := by
    refine Except.mapM_eq_ok_iff.mpr (List.forall₂_map_right_iff.mpr (List.forall₂_same.mpr ?_))
    intro piece inside
    cases piece with
    | literal c => rfl
    | label l => exact fill_of_not_lacks scalars (filled l inside)
  rw [expand, parts, List.flatMap_def]
  rfl

theorem expand_of_lacks (inside : .label l ∈ pieces template.toList) (lacks : Lacks values l) :
    ∃ e, expand template values = .error e := by
  rw [Except.exists_error_iff]
  rintro ⟨uri, done⟩
  obtain ⟨parts, each, -⟩ := Except.map_eq_ok_iff.mp done
  obtain ⟨part, -, made⟩ := Except.result_mem_of_mapM_eq_ok each inside
  obtain ⟨e, failed⟩ := fill_of_lacks lacks
  rw [failed] at made
  cases made

/-- A template is filled unless one of its labels has no value with a text. -/
theorem expand_fails_iff (scalars : ∀ entry ∈ values, entry.2.isScalar = true) :
    (∃ e, expand template values = .error e) ↔
      ∃ l, .label l ∈ pieces template.toList ∧ Lacks values l := by
  constructor
  · rintro ⟨e, failed⟩
    by_contra none
    rw [expand_of_filled scalars fun l inside lacks => none ⟨l, inside, lacks⟩] at failed
    cases failed
  · rintro ⟨l, inside, lacks⟩
    exact expand_of_lacks inside lacks

theorem not_lacks_of_expand (done : expand template values = .ok uri)
    (inside : .label l ∈ pieces template.toList) : ¬ Lacks values l := by
  intro lacks
  obtain ⟨e, failed⟩ := expand_of_lacks inside lacks
  rw [failed] at done
  cases done

theorem toList_of_expand (scalars : ∀ entry ∈ values, entry.2.isScalar = true)
    (done : expand template values = .ok uri) :
    uri.toList = (pieces template.toList).flatMap (expansion values) := by
  rw [expand_of_filled scalars fun l => not_lacks_of_expand done] at done
  rw [← Except.ok.inj done, String.toList_ofList]

/-- The octets of what stands for a label are those of the text of its value. -/
theorem unescape_expansion (values : List (Value × Value)) (l : UriLabel) :
    Percent.unescape (expansion values (.label l)) =
      (meaning values (.label l)).flatMap String.utf8EncodeChar :=
  Percent.unescape_encodeChars (by simp [keptIn, show Percent.isUnreserved '%' = false by decide]) _

/-- What is put in place of a label is a text of its value, in which all characters are escaped that
might be taken for anything else. -/
structure Fills (values : List (Value × Value)) (l : UriLabel) : Prop where
  given : ∃ v, valueFor values l = some v ∧ v ≠ .null ∧
    Text.utf8Decode? (Percent.unescape (expansion values (.label l))) = some v.scalarText
  escaped : Percent.Escaped (keptIn l) (expansion values (.label l))

theorem fills_of_not_lacks (filled : ¬ Lacks values l) : Fills values l where
  given := by
    simp only [Lacks, not_or] at filled
    obtain ⟨there, present, -⟩ := filled
    obtain ⟨v, given⟩ := Option.ne_none_iff_exists'.mp there
    refine ⟨v, given, fun null => present (null ▸ given), ?_⟩
    have text : meaning values (.label l) = v.scalarText.toList := by rw [meaning, given]; rfl
    rw [unescape_expansion, text]
    exact Text.utf8Decode?_utf8Encode v.scalarText
  escaped := Percent.escaped_encodeChars _ _

/-! ### Requests for filled templates -/

/-- The characters that need no escape in a path. -/
def keptInPath (c : Char) : Bool := Percent.isUnreserved c || c == '/'

theorem ascii_of_keptInPath {c : Char} (kept : keptInPath c = true) : c.toNat < 128 := by
  rcases Bool.or_eq_true_iff.mp kept with unreserved | slash
  · exact Percent.ascii_of_isUnreserved unreserved
  · rw [beq_iff_eq.mp slash]
    decide

/-- The pieces of a template before its question mark. -/
def pathPieces (template : String) : List UriPiece :=
  (pieces template.toList).takeWhile (· != .literal '?')

/-- The pieces of a template after its question mark. -/
def queryPieces (template : String) : List UriPiece :=
  ((pieces template.toList).dropWhile (· != .literal '?')).tail

/-- A template of a path whose own characters need no escape, but for one question mark. -/
structure IsPlain (template : String) : Prop where
  absolute : template.toList.head? = some '/'
  literals : ∀ c, .literal c ∈ pieces template.toList → c = '?' ∨ keptInPath c = true
  oneMark : (pieces template.toList).count (.literal '?') ≤ 1

/-- The slashes in the values of greedy labels. -/
def slashesIn (values : List (Value × Value)) : UriPiece → Nat
  | .literal _ => 0
  | .label l => if l.greedy then (meaning values (.label l)).count '/' else 0

/-- The name of the only parameter that a filled template may have: the part after the question mark,
unless there is nothing in it. -/
def parameter? (values : List (Value × Value)) (template : String) : Option String :=
  if (queryPieces template).flatMap (expansion values) = [] then none
  else some (String.ofList ((queryPieces template).flatMap (meaning values)))

/-- What follows the path in an address with at most one parameter, whose value is empty. -/
def addressEnd : Option String → String
  | none => ""
  | some name => "?" ++ Percent.encode "" name ++ "="

/-- A request keeps the places of a template: it is cut at the template's question mark, the path has
the slashes of the template and those of greedy labels, and the path stands in the address as it
is. -/
structure KeepsPlaces (values : List (Value × Value)) (template : String) (r : Request) : Prop where
  path : r.path.toList = (pathPieces template).flatMap (expansion values)
  slashes : r.path.toList.count '/' =
    (pathPieces template).count (.literal '/') + ((pathPieces template).map (slashesIn values)).sum
  params : r.params = Parameters.ofTexts ((parameter? values template).toList.map fun name => (name, ""))
  url : r.url = .ok (r.endpoint ++ r.path ++ addressEnd (parameter? values template))
  noFragment : '#' ∉ (r.path ++ addressEnd (parameter? values template)).toList

section Plain

variable {items : List UriPiece}

/-- Pieces of a path or a query. -/
def ArePlain (items : List UriPiece) : Prop := ∀ c, .literal c ∈ items → keptInPath c = true

theorem pieces_split (template : String) :
    pieces template.toList = pathPieces template ∧ queryPieces template = [] ∨
    pieces template.toList = pathPieces template ++ .literal '?' :: queryPieces template := by
  have split := List.takeWhile_append_dropWhile (p := (· != .literal '?')) (l := pieces template.toList)
  have stops := List.head?_dropWhile_not (· != UriPiece.literal '?') (pieces template.toList)
  cases later : (pieces template.toList).dropWhile (· != .literal '?') with
  | nil =>
    rw [later, List.append_nil] at split
    exact .inl ⟨split.symm, by rw [queryPieces, later]; rfl⟩
  | cons piece rest =>
    rw [later] at split stops
    have mark : piece = .literal '?' := by simpa using stops
    refine .inr ?_
    rw [queryPieces, later, ← mark]
    exact split.symm

theorem plain_pathPieces (plain : IsPlain template) : ArePlain (pathPieces template) := by
  intro c inside
  have there : .literal c ∈ pieces template.toList := (List.takeWhile_sublist _).subset inside
  have other := List.mem_takeWhile_imp (p := (· != UriPiece.literal '?')) inside
  rcases plain.literals c there with rfl | kept
  · simp at other
  · exact kept

/-- The only question mark of a plain template is not behind itself. -/
theorem plain_queryPieces (plain : IsPlain template) : ArePlain (queryPieces template) := by
  intro c inside
  rcases pieces_split template with ⟨-, none⟩ | split
  · rw [none] at inside
    cases inside
  · have there : .literal c ∈ pieces template.toList := by simp [split, inside]
    rcases plain.literals c there with rfl | kept
    · have marks := plain.oneMark
      have second := List.count_pos_iff.mpr inside
      rw [split, List.count_append, List.count_cons_self] at marks
      omega
    · exact kept

theorem escaped_piece {piece : UriPiece} (plain : ∀ c, .literal c = piece → keptInPath c = true) :
    Percent.Escaped keptInPath (expansion values piece) := by
  cases piece with
  | literal c => exact .kept (plain c rfl) .nil
  | label l =>
    refine (Percent.escaped_encodeChars _ _).mono fun c kept => ?_
    simp only [keptIn, keptInPath, Bool.or_eq_true, Bool.and_eq_true] at kept ⊢
    exact kept.imp_right And.right

theorem unescape_piece {piece : UriPiece} (plain : ∀ c, .literal c = piece → keptInPath c = true) :
    Percent.unescape (expansion values piece) =
      (meaning values piece).flatMap String.utf8EncodeChar := by
  cases piece with
  | literal c =>
    have other : c ≠ '%' := Percent.ne_percent_of_kept (by decide) (plain c rfl)
    rw [expansion, Percent.unescape_cons other, meaning, Percent.unescape, List.flatMap_singleton,
      List.append_nil]
  | label l => exact unescape_expansion values l

theorem escaped_of_plain (plain : ArePlain items) :
    Percent.Escaped keptInPath (items.flatMap (expansion values)) := by
  induction items with
  | nil => exact .nil
  | cons piece rest ih =>
    rw [List.flatMap_cons]
    exact (escaped_piece fun c same => plain c (same ▸ List.mem_cons_self)).append
      (ih fun c inside => plain c (List.mem_cons_of_mem _ inside))

theorem unescape_of_plain (plain : ArePlain items) :
    Percent.unescape (items.flatMap (expansion values)) =
      (items.flatMap (meaning values)).flatMap String.utf8EncodeChar := by
  induction items with
  | nil => rw [List.flatMap_nil, List.flatMap_nil, List.flatMap_nil, Percent.unescape]
  | cons piece rest ih =>
    have first : ∀ c, .literal c = piece → keptInPath c = true :=
      fun c same => plain c (same ▸ List.mem_cons_self)
    have later := ih fun c inside => plain c (List.mem_cons_of_mem _ inside)
    rw [List.flatMap_cons, (escaped_piece first).unescape_append (by decide), unescape_piece first,
      later, List.flatMap_cons, List.flatMap_append]

theorem count_expansion (values : List (Value × Value)) (piece : UriPiece) :
    (expansion values piece).count '/' = [piece].count (.literal '/') + slashesIn values piece := by
  cases piece with
  | literal c => by_cases slash : c = '/' <;> simp [expansion, slashesIn, slash]
  | label l =>
    rw [expansion, slashesIn]
    cases greedy : l.greedy with
    | true =>
      rw [Percent.count_encodeChars_of_kept (by simp [keptIn, greedy]) (by decide)]
      simp
    | false =>
      have none : '/' ∉ Percent.encodeChars (keptIn l) (meaning values (.label l)) :=
        Percent.not_mem_encodeChars
          (by simp [keptIn, greedy, show Percent.isUnreserved '/' = false by decide]) (by decide) _
      rw [List.count_eq_zero.mpr none]
      simp

/-- Slashes are those of the template and those in the values of greedy labels. -/
theorem count_slashes (values : List (Value × Value)) (items : List UriPiece) :
    (items.flatMap (expansion values)).count '/' =
      items.count (.literal '/') + (items.map (slashesIn values)).sum := by
  induction items with
  | nil => rfl
  | cons piece rest ih =>
    have split : ([piece] ++ rest).count (.literal '/') =
      [piece].count (.literal '/') + rest.count (.literal '/') := List.count_append
    rw [List.singleton_append] at split
    rw [List.flatMap_cons, List.count_append, count_expansion, ih, List.map_cons, List.sum_cons, split]
    omega

/-- Text of a path or a query holds no separator but slashes. -/
theorem not_mem_of_plain {separator : Char} (plain : ArePlain items)
    (dropped : keptInPath separator = false) (other : separator ∉ Percent.escapeChars) :
    separator ∉ items.flatMap (expansion values) :=
  (escaped_of_plain plain).not_mem dropped other

/-- Text of a path or a query is read as what its pieces stand for. -/
theorem formDecode_of_plain (plain : ArePlain items) :
    Percent.formDecode (String.ofList (items.flatMap (expansion values))) =
      String.ofList (items.flatMap (meaning values)) := by
  have plus : '+' ∉ items.flatMap (expansion values) :=
    not_mem_of_plain plain (by decide) (by decide)
  have noSpace : ∀ c ∈ items.flatMap (expansion values), (if c = '+' then ' ' else c) = c :=
    fun c inside => if_neg fun same : c = '+' => plus (same ▸ inside)
  have escaped : Percent.Escaped keptInPath (items.flatMap (expansion values)) :=
    escaped_of_plain plain
  have octets : Percent.unescape (items.flatMap (expansion values)) =
      Text.utf8Encode (String.ofList (items.flatMap (meaning values))) := by
    rw [unescape_of_plain plain, Text.utf8Encode, String.toList_ofList]
  rw [Percent.formDecode, String.toList_ofList, List.map_congr_left noSpace, List.map_id',
    Percent.decode_of_ascii (escaped.ascii fun c => ascii_of_keptInPath), octets,
    Text.utf8DecodeLossy_utf8Encode]

/-- A query without separators is the name of a parameter. -/
theorem decodeForm_of_plain (plain : ArePlain items)
    (some : items.flatMap (expansion values) ≠ []) :
    Percent.decodeForm (String.ofList (items.flatMap (expansion values))) =
      [(String.ofList (items.flatMap (meaning values)), "")] := by
  have ampersand : '&' ∉ items.flatMap (expansion values) :=
    not_mem_of_plain plain (by decide) (by decide)
  have equals : '=' ∉ items.flatMap (expansion values) :=
    not_mem_of_plain plain (by decide) (by decide)
  have nothing : Percent.formDecode (String.ofList []) = "" := by
    simp [Percent.formDecode, Percent.decode]
  rw [Percent.decodeForm, String.toList_ofList, Text.splitOn_of_not_mem ampersand,
    List.filter_cons_of_pos (by simpa using some), List.filter_nil, List.map_singleton,
    Text.cut_of_not_mem equals]
  simp only [Option.getD_none, formDecode_of_plain plain, nothing]

end Plain

section Request

variable (method service : String) (region : Region) (endpointName : Option String)

theorem cut_of_plain (plain : IsPlain template)
    (filled : uri.toList = (pieces template.toList).flatMap (expansion values)) :
    ∃ query, Text.cutString '?' uri =
        (String.ofList ((pathPieces template).flatMap (expansion values)), query) ∧
      query.getD "" = String.ofList ((queryPieces template).flatMap (expansion values)) := by
  have absent : '?' ∉ (pathPieces template).flatMap (expansion values) :=
    not_mem_of_plain (plain_pathPieces plain) (by decide) (by decide)
  rcases pieces_split template with ⟨whole, nothing⟩ | split
  · rw [whole] at filled
    refine ⟨none, ?_, ?_⟩
    · rw [Text.cutString_of_not_mem (filled ▸ absent), ← filled, String.ofList_toList]
    · rw [nothing]
      rfl
  · rw [split, List.flatMap_append, List.flatMap_cons, expansion] at filled
    refine ⟨some (String.ofList ((queryPieces template).flatMap (expansion values))), ?_, rfl⟩
    rw [Text.cutString, filled, List.singleton_append, Text.cut_append absent]
    rfl

theorem expansion_of_absolute (values : List (Value × Value)) (plain : IsPlain template) :
    ∃ rest, (pathPieces template).flatMap (expansion values) = '/' :: rest := by
  obtain ⟨rest, first⟩ := List.head?_eq_some_iff.mp plain.absolute
  have slash : pieces template.toList = .literal '/' :: pieces rest := by
    rw [first, pieces, if_neg (by decide)]
  rw [pathPieces, slash, List.takeWhile_cons_of_pos (by decide)]
  exact ⟨_, rfl⟩

/-- The parameters of a request for a filled template. -/
theorem new_hasParameter (plain : IsPlain template)
    (filled : uri.toList = (pieces template.toList).flatMap (expansion values)) :
    (Request.new method service region uri endpointName).HasTexts
      ((parameter? values template).toList.map fun name => (name, "")) := by
  obtain ⟨query, cut, rest⟩ := cut_of_plain plain filled
  have texts := Request.new_hasTexts method service region uri endpointName
  rw [Request.pathPairs, cut, rest] at texts
  rw [parameter?]
  by_cases nothing : (queryPieces template).flatMap (expansion values) = []
  · rw [if_pos nothing]
    rw [nothing] at texts
    exact texts
  · rw [if_neg nothing]
    rw [decodeForm_of_plain (plain_queryPieces plain) nothing] at texts
    exact texts

/-- An escaped path is not escaped again. -/
theorem encode_escaped {path : String} (escaped : Percent.Escaped keptInPath path.toList) :
    Percent.encode "/%" path = path := by
  have kept : ∀ c ∈ path.toList, (Percent.isUnreserved c || "/%".contains c) = true := by
    intro c inside
    rcases escaped.mem inside with plain | escape
    · rcases Bool.or_eq_true_iff.mp plain with unreserved | slash
      · simp [unreserved]
      · simp [beq_iff_eq.mp slash]
    · have all : Percent.escapeChars.all (fun c => Percent.isUnreserved c || c == '%') = true := by
        decide
      rcases Bool.or_eq_true_iff.mp (List.all_eq_true.mp all c escape) with unreserved | percent
      · simp [unreserved]
      · simp [beq_iff_eq.mp percent]
  rw [Percent.encode, Percent.encodeChars_of_kept kept, String.ofList_toList]

theorem url_of_parameter? {r : Request} {name? : Option String}
    (texts : r.HasTexts (name?.toList.map fun name => (name, "")))
    (escaped : Percent.Escaped keptInPath r.path.toList) :
    r.url = .ok (r.endpoint ++ r.path ++ addressEnd name?) := by
  rw [Request.url, encode_escaped escaped, Request.query_of_texts texts, texts.texts]
  cases name? with
  | none =>
    rw [addressEnd, String.append_empty]
    rfl
  | some name =>
    have nothing : Percent.encode "" "" = "" := rfl
    have query : Percent.joinPairs (Percent.encode "") (Parameters.inOrder [(name, "")]) =
        Percent.encode "" name ++ "=" := by
      rw [Parameters.inOrder, List.mergeSort_singleton, Percent.joinPairs, List.map_singleton,
        Text.intercalate, String.intercalate_singleton]
      dsimp only
      rw [nothing, String.append_empty]
    rw [Option.toList_some, List.map_singleton, query, addressEnd]
    exact congrArg Except.ok (by simp only [String.append_assoc])

/-- A request for a filled template keeps its places. -/
theorem new_keepsPlaces (plain : IsPlain template)
    (filled : uri.toList = (pieces template.toList).flatMap (expansion values)) :
    KeepsPlaces values template (Request.new method service region uri endpointName) := by
  obtain ⟨query, cut, -⟩ := cut_of_plain plain filled
  obtain ⟨rest, absolute⟩ := expansion_of_absolute values plain
  have path : (Request.new method service region uri endpointName).path =
      String.ofList ((pathPieces template).flatMap (expansion values)) := by
    have some : (String.ofList ((pathPieces template).flatMap (expansion values))).isEmpty = false := by
      rw [absolute]
      simp
    rw [Request.new, cut]
    simp [some]
  have texts := new_hasParameter method service region endpointName plain filled
  have escaped : Percent.Escaped keptInPath
      (Request.new method service region uri endpointName).path.toList := by
    rw [path, String.toList_ofList]
    exact escaped_of_plain (plain_pathPieces plain)
  exact {
    path := by rw [path, String.toList_ofList]
    slashes := by rw [path, String.toList_ofList, count_slashes]
    params := texts.texts
    url := url_of_parameter? texts escaped
    noFragment := by
      rw [String.toList_append, List.mem_append, not_or]
      refine ⟨escaped.not_mem (by decide) (by decide), ?_⟩
      cases parameter? values template with
      | none => simp [addressEnd]
      | some name =>
        have inName : '#' ∉ (Percent.encode "" name).toList :=
          Percent.not_mem_encode (by decide) (by decide) name
        simp [addressEnd, inName] }

end Request

/-- Every label of a template stays in its place: the template is filled unless a value is missing, its
own text stays as it is, no character of a value is taken for anything else, and a request for it
keeps the places of the template. -/
theorem labels_stay_in_place (template : String) (values : List (Value × Value))
    (scalars : ∀ entry ∈ values, entry.2.isScalar = true) :
    ((∃ e, expand template values = .error e) ↔
      ∃ l, .label l ∈ pieces template.toList ∧ Lacks values l) ∧
    ∀ uri, expand template values = .ok uri →
      (pieces template.toList).flatMap source = template.toList ∧
      uri.toList = (pieces template.toList).flatMap (expansion values) ∧
      (∀ l, .label l ∈ pieces template.toList → Fills values l) ∧
      (IsPlain template → ∀ method service region endpointName,
        KeepsPlaces values template (Request.new method service region uri endpointName)) := by
  refine ⟨expand_fails_iff scalars, fun uri done => ?_⟩
  have filled := toList_of_expand scalars done
  refine ⟨flatMap_source_pieces _, filled, fun l inside => ?_, ?_⟩
  · exact fills_of_not_lacks (not_lacks_of_expand done inside)
  · intro plain method service region endpointName
    exact new_keepsPlaces method service region endpointName plain filled

/-- A template with a label of each kind, before and after its question mark. -/
def noteTemplate : String := "/\x7bOwner\x7d/\x7bPath+\x7d?\x7bFlag\x7d"

/-- Values for it, with separators and with a label of the template in them. -/
def noteValues : List (Value × Value) := [
  (.str "Owner", .str "a/b?\x7bPath\x7d"), (.str "Path", .str "c/ü#"), (.str "Flag", .bool true)]

theorem pieces_noteTemplate : pieces noteTemplate.toList = [
    .literal '/', .label ⟨"Owner", false⟩, .literal '/', .label ⟨"Path", true⟩, .literal '?',
    .label ⟨"Flag", false⟩] := by
  decide +kernel

theorem isPlain_noteTemplate : IsPlain noteTemplate where
  absolute := by decide
  literals := by
    intro c inside
    simp only [pieces_noteTemplate, List.mem_cons, UriPiece.literal.injEq, reduceCtorEq,
      List.not_mem_nil, or_false, false_or] at inside
    rcases inside with rfl | rfl | rfl <;> decide
  oneMark := by
    rw [pieces_noteTemplate]
    decide

/-- The template with its values in place. -/
def noteUri : String := "/a%2Fb%3F%7BPath%7D/c/%C3%BC%23?true"

theorem noteValues_scalar : ∀ entry ∈ noteValues, entry.2.isScalar = true := by decide

theorem expand_noteTemplate : expand noteTemplate noteValues = .ok noteUri := by
  have filled : ∀ l, .label l ∈ pieces noteTemplate.toList → ¬ Lacks noteValues l := by
    intro l inside
    simp only [pieces_noteTemplate, List.mem_cons, UriPiece.label.injEq, reduceCtorEq,
      List.not_mem_nil, or_false, false_or] at inside
    rcases inside with rfl | rfl | rfl <;> rintro (absent | null | ⟨n, whole, -⟩)
    all_goals first | cases absent | cases null | cases whole
  have same : (pieces noteTemplate.toList).flatMap (expansion noteValues) = noteUri.toList := by
    rw [pieces_noteTemplate]
    decide
  rw [expand_of_filled noteValues_scalar filled, same, String.ofList_toList]

/-- The owner's slash, question mark and label stay in the first segment, and the path goes on to the
question mark of the template. -/
theorem labels_stay_in_place_noteTemplate :
    expand noteTemplate noteValues = .ok noteUri ∧
    noteTemplate.toList = (pieces noteTemplate.toList).flatMap source ∧
    noteUri.toList = (pieces noteTemplate.toList).flatMap (expansion noteValues) ∧
    Fills noteValues ⟨"Owner", false⟩ ∧ Fills noteValues ⟨"Path", true⟩ ∧
    Fills noteValues ⟨"Flag", false⟩ ∧
    KeepsPlaces noteValues noteTemplate (Request.new "get" "notes" ⟨"eu-west-1", none⟩ noteUri) := by
  obtain ⟨-, done⟩ := labels_stay_in_place noteTemplate noteValues noteValues_scalar
  obtain ⟨made, filled, labels, places⟩ := done noteUri expand_noteTemplate
  simp only [pieces_noteTemplate] at labels
  exact ⟨expand_noteTemplate, made.symm, filled, labels _ (by decide), labels _ (by decide),
    labels _ (by decide), places isPlain_noteTemplate _ _ _ _⟩

/-- A template for the things of a size. -/
def sizeTemplate : String := "/sizes/\x7bSize\x7d"

/-- The least size of more digits than a text may give a number. -/
def sizeValues : List (Value × Value) := [(.str "Size", .int Numeral.limit)]

/-- A template is not filled with a number of too many digits, though no value is absent or null. -/
theorem fails_on_numeral :
    ¬ ∀ template values, (∀ entry ∈ values, entry.2.isScalar = true) →
      ((∃ e, expand template values = .error e) ↔ ∃ l, .label l ∈ pieces template.toList ∧
        (valueFor values l = none ∨ valueFor values l = some .null)) := by
  intro claimed
  have scalars : ∀ entry ∈ sizeValues, entry.2.isScalar = true := by
    intro entry inside
    rw [List.mem_singleton.mp inside]
    rfl
  have read : pieces sizeTemplate.toList =
      ("/sizes/".toList.map .literal) ++ [.label ⟨"Size", false⟩] := by
    decide +kernel
  have size : valueFor sizeValues ⟨"Size", false⟩ = some (.int Numeral.limit) := rfl
  have large : Numeral.limit ≤ (Numeral.limit : Int).natAbs := (Int.natAbs_natCast _).ge
  have lacks : Lacks sizeValues ⟨"Size", false⟩ := .inr (.inr ⟨_, size, large⟩)
  have failed := (expand_fails_iff scalars).mpr ⟨_, by rw [read]; simp, lacks⟩
  obtain ⟨l, inside, missing⟩ := (claimed sizeTemplate sizeValues scalars).mp failed
  have only : l = ⟨"Size", false⟩ := by
    rw [read] at inside
    simpa using inside
  rw [only, size] at missing
  rcases missing with absent | null
  · cases absent
  · cases null

end UriTemplate

end ServiceClient
