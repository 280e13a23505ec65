import Mathlib
import ServiceClient.Http.Request
import ServiceClient.Proofs.Outcome
import ServiceClient.Proofs.Pairs
import ServiceClient.Proofs.Percent

/-!
The address of a request and the body of a form lose nothing of the names and values in them. They
hold all of them in the order of the names, and a reader that knows no more than the separators and
the escapes gets them back, whatever characters they are made of.
-/

namespace ServiceClient

/-- Texts as parameters. -/
def Parameters.ofTexts (pairs : List (String × String)) : Parameters :=
  pairs.map fun (name, v) => (.str name, .str v)

/-- Pairs in the order of their names, which are distinct. -/
structure SortedByName (items pairs : List (String × String)) : Prop where
  same : items.Perm pairs
  ordered : items.Pairwise fun a b => a.1 < b.1

namespace Parameters

variable {pairs : List (String × String)}

/-! ### Setting texts -/

theorem insertEntry_ofTexts (name v : String) (pairs : List (String × String)) :
    Value.insertEntry (.str name) (.str v) (ofTexts pairs) = ofTexts (Pairs.insert name v pairs) := by
  induction pairs with
  | nil => rfl
  | cons pair rest ih =>
    obtain ⟨key, old⟩ := pair
    have unfolded : ofTexts ((key, old) :: rest) = (.str key, .str old) :: ofTexts rest := rfl
    rw [unfolded, Value.insertEntry, Pairs.insert, Value.sameKey]
    by_cases same : key = name
    · simp [same, ofTexts]
    · simp only [beq_false_of_ne same, Bool.false_eq_true, if_false]
      rw [ih]
      rfl

theorem insertEntries_ofTexts (pairs new : List (String × String)) :
    new.foldl (fun params (name, v) => Value.insertEntry (.str name) (.str v) params)
        (ofTexts pairs) = ofTexts (Pairs.merge pairs new) := by
  induction new generalizing pairs with
  | nil => rfl
  | cons pair rest ih =>
    have later := ih (Pairs.insert pair.1 pair.2 pairs)
    rw [← insertEntry_ofTexts] at later
    exact later

theorem set_ofTexts (name v : String) (pairs : List (String × String)) :
    (ofTexts pairs).set (.str name) (.str v) = .ok (ofTexts (Pairs.insert name v pairs)) := by
  rw [← insertEntry_ofTexts]
  rfl

theorem putEntries_ofTexts (pairs new : List (String × String)) :
    Value.putEntries (ofTexts pairs) (.map (ofTexts new)) =
      (ofTexts (Pairs.merge pairs new), none) := by
  have entries : ofTexts new = new.map fun (name, v) => (.str name, .str v) := rfl
  rw [← insertEntries_ofTexts, Value.putEntries, entries, List.foldl_map]

/-! ### The order of names -/

/-- The pairs in the order of their names. -/
def inOrder (pairs : List (String × String)) : List (String × String) :=
  pairs.mergeSort fun a b => decide (a.1 ≤ b.1)

/-- Entries whose keys all have an order are put into it. -/
theorem sortByKey?_of_comparable {β : Type} {entries : List (Value × β)}
    (comparable : ∀ a ∈ entries.map (·.1), ∀ b ∈ entries.map (·.1), (Value.keyLt? a b).isSome = true) :
    Value.sortByKey? entries =
      some (entries.mergeSort fun a b => !(Value.keyLt? b.1 a.1).getD false) := by
  rw [Value.sortByKey?]
  refine if_pos (List.all_eq_true.mpr fun i within => List.all_eq_true.mpr fun b later => ?_)
  have there := List.getElem?_eq_getElem (List.mem_range.mp within)
  rw [there, Option.bind_some]
  exact comparable _ (List.mem_of_getElem? there) b (List.mem_of_mem_drop later)

theorem sortByKey?_ofTexts (pairs : List (String × String)) :
    Value.sortByKey? (ofTexts pairs) = some (ofTexts (inOrder pairs)) := by
  have isText : ∀ key ∈ (ofTexts pairs).map (·.1), ∃ name, key = .str name := by
    intro key inside
    obtain ⟨_, listed, rfl⟩ := List.mem_map.mp inside
    obtain ⟨pair, -, rfl⟩ := List.mem_map.mp listed
    exact ⟨pair.1, rfl⟩
  have comparable : ∀ a ∈ (ofTexts pairs).map (·.1), ∀ b ∈ (ofTexts pairs).map (·.1),
      (Value.keyLt? a b).isSome = true := by
    intro a first b second
    obtain ⟨name, rfl⟩ := isText a first
    obtain ⟨other, rfl⟩ := isText b second
    rfl
  have order : ∀ a ∈ pairs, ∀ b ∈ pairs, decide (a.1 ≤ b.1) =
      !(Value.keyLt? (.str b.1) (.str a.1)).getD false := by
    intro a _ b _
    rw [Value.keyLt?, Option.getD_some, ← decide_not]
    exact decide_eq_decide.mpr String.not_lt.symm
  rw [sortByKey?_of_comparable comparable, inOrder]
  exact congrArg some (List.map_mergeSort order).symm

theorem sortedByName_inOrder (distinct : (pairs.map (·.1)).Nodup) :
    SortedByName (inOrder pairs) pairs := by
  have same : (inOrder pairs).Perm pairs := List.mergeSort_perm pairs _
  have ordered : (inOrder pairs).Pairwise fun a b => a.1 ≤ b.1 := by
    refine (List.pairwise_mergeSort ?_ ?_ pairs).imp fun {a b} => of_decide_eq_true
    · intro a b c first second
      exact decide_eq_true (String.le_trans (of_decide_eq_true first) (of_decide_eq_true second))
    · intro a b
      rcases String.le_total a.1 b.1 with before | after
      · simp [before]
      · simp [after]
  have apart : (inOrder pairs).Pairwise fun a b => a.1 ≠ b.1 :=
    List.pairwise_map.mp ((same.map Prod.fst).nodup_iff.mpr distinct)
  exact ⟨same, (ordered.and apart).imp fun both => Std.lt_of_le_of_ne both.1 both.2⟩

end Parameters

/-! ### Changes of a request -/

/-- A change of a request by names and values that are texts. -/
inductive Edit where
  | parameter (name v : String)
  | parameters (entries : List (String × String))
  | header (name v : String)
  | contentType (v : String)
  | payload (octets : Option Octets)
  deriving DecidableEq, Repr

/-- What a change makes of a request. -/
def Edit.apply (edit : Edit) (r : Request) : Except Mismatch Request :=
  match edit with
  | parameter name v => r.setParameter (.str name) (.str v)
  | parameters entries =>
    match r.setParameters (.map (Parameters.ofTexts entries)) with
    | (r, none) => .ok r
    | (_, some e) => .error e
  | header name v => r.setHeader (.str name) (.str v)
  | contentType v => .ok (r.withContentType v)
  | payload octets => .ok { r with payload := octets }

/-- What a change makes of parameters that are texts. -/
def Edit.pairs (pairs : List (String × String)) : Edit → List (String × String)
  | parameter name v => Pairs.insert name v pairs
  | parameters entries => Pairs.merge pairs entries
  | header .. | contentType _ | payload _ => pairs

namespace Request

variable {r : Request} {pairs : List (String × String)}

/-- The parameters of a request are texts, under distinct names. -/
structure HasTexts (r : Request) (pairs : List (String × String)) : Prop where
  texts : r.params = Parameters.ofTexts pairs
  distinct : (pairs.map (·.1)).Nodup

/-- The parameters in the query of a path, of those with one name the last one. -/
def pathPairs (path : String) : List (String × String) :=
  Pairs.distinct (Percent.decodeForm ((Text.cutString '?' path).2.getD ""))

theorem new_hasTexts (method service : String) (region : Region) (path : String)
    (endpointName : Option String) :
    (new method service region path endpointName).HasTexts (pathPairs path) where
  texts := Parameters.insertEntries_ofTexts [] _
  distinct := Pairs.nodup_distinct _

/-- A change succeeds, does to the parameters what it does to their texts, and leaves the endpoint
alone. -/
theorem apply_hasTexts (texts : r.HasTexts pairs) (edit : Edit) :
    ∃ after, edit.apply r = .ok after ∧ after.HasTexts (edit.pairs pairs) ∧
      after.endpoint = r.endpoint := by
  cases edit with
  | parameter name v =>
    have set := Parameters.set_ofTexts name v pairs
    rw [← texts.texts] at set
    refine ⟨{ r with params := Parameters.ofTexts (Pairs.insert name v pairs) }, ?_,
      ⟨rfl, Pairs.nodup_insert texts.distinct name v⟩, rfl⟩
    rw [Edit.apply, setParameter, set]
    rfl
  | parameters entries =>
    have put := Parameters.putEntries_ofTexts pairs entries
    rw [← texts.texts] at put
    refine ⟨{ r with params := Parameters.ofTexts (Pairs.merge pairs entries) }, ?_,
      ⟨rfl, Pairs.nodup_merge texts.distinct entries⟩, rfl⟩
    rw [Edit.apply, setParameters, put]
  | header name v => exact ⟨_, rfl, ⟨texts.texts, texts.distinct⟩, rfl⟩
  | contentType v => exact ⟨_, rfl, ⟨texts.texts, texts.distinct⟩, rfl⟩
  | payload octets => exact ⟨_, rfl, ⟨texts.texts, texts.distinct⟩, rfl⟩

/-- The request after changes. -/
def edited (r : Request) (edits : List Edit) : Except Mismatch Request :=
  edits.foldlM (fun r edit => edit.apply r) r

theorem edited_hasTexts (texts : r.HasTexts pairs) (edits : List Edit) :
    ∃ after, r.edited edits = .ok after ∧ after.HasTexts (edits.foldl Edit.pairs pairs) ∧
      after.endpoint = r.endpoint := by
  induction edits generalizing r pairs with
  | nil => exact ⟨r, rfl, texts, rfl⟩
  | cons edit rest ih =>
    obtain ⟨next, applied, nextTexts, same⟩ := apply_hasTexts texts edit
    obtain ⟨after, done, afterTexts, again⟩ := ih nextTexts
    refine ⟨after, ?_, afterTexts, again.trans same⟩
    rw [edited, List.foldlM_cons, applied]
    exact done

/-! ### Addresses -/

/-- A name and its value: the parts around the first equals sign, each of which is the octets of a
text, some of them escaped. -/
def readPiece? (piece : List Char) : Option (String × String) := do
  let (name, v) := Text.cut '=' piece
  let v ← v
  return (← Text.utf8Decode? (Percent.unescape name), ← Text.utf8Decode? (Percent.unescape v))

/-- The names and values of a query, which ampersands set apart. -/
def queryItems? (query : String) : Option (List (String × String)) :=
  (Text.splitOn '&' query.toList).mapM readPiece?

/-- An address tells names and values: it has a query if there are any, the query holds them in this
order, and a request for a path with that query has them as its parameters. -/
structure AddressTells (url : String) (items : List (String × String)) : Prop where
  noFragment : '#' ∉ url.toList
  hasQuery : '?' ∈ url.toList ↔ items ≠ []
  read : ∀ query, (Text.cutString '?' url).2 = some query → queryItems? query = some items
  again : ∀ method service region endpointName,
    (new method service region ("/p?" ++ (Text.cutString '?' url).2.getD "") endpointName).params =
      Parameters.ofTexts items

theorem readPiece?_pieceOf (pair : String × String) :
    readPiece? (Percent.pieceOf (Percent.encode "") pair) = some pair := by
  rw [readPiece?, Percent.cut_pieceOf Percent.formSafe_encode]
  simp only [Option.bind_eq_bind, Option.bind_some, Percent.utf8Decode?_unescape_encode]
  rfl

theorem queryItems?_joinPairs {items : List (String × String)} (nonempty : items ≠ []) :
    queryItems? (Percent.joinPairs (Percent.encode "") items) = some items := by
  rw [queryItems?, Percent.splitOn_joinPairs Percent.formSafe_encode nonempty]
  clear nonempty
  induction items with
  | nil => rfl
  | cons pair rest ih => rw [List.map_cons, List.mapM_cons, readPiece?_pieceOf, ih]; rfl

/-- The parameters of a path are those that the query after it holds. -/
theorem new_params_of_query {items : List (String × String)} (distinct : (items.map (·.1)).Nodup)
    (method service : String) (region : Region) (endpointName : Option String) :
    (new method service region ("/p?" ++ Percent.joinPairs (Percent.encode "") items)
      endpointName).params = Parameters.ofTexts items := by
  have cut : Text.cutString '?' ("/p?" ++ Percent.joinPairs (Percent.encode "") items) =
      ("/p", some (Percent.joinPairs (Percent.encode "") items)) := by
    have path : "/p?" = "/p" ++ String.singleton '?' := by decide
    rw [path]
    exact Text.cutString_append (by decide) _
  have texts := (new_hasTexts method service region
    ("/p?" ++ Percent.joinPairs (Percent.encode "") items) endpointName).texts
  rw [pathPairs, cut, Option.getD_some, Percent.decodeForm_joinPairs Percent.formSafe_encode,
    Pairs.distinct_of_nodup distinct] at texts
  exact texts

section Tells

variable {base : String} (noQuery : '?' ∉ base.toList) (noFragment : '#' ∉ base.toList)

include noQuery noFragment

theorem addressTells_nothing : AddressTells base [] where
  noFragment := noFragment
  hasQuery := by simp [noQuery]
  read := by
    intro query after
    rw [Text.cutString_of_not_mem noQuery] at after
    cases after
  again := by
    intro method service region endpointName
    have noItems : Percent.joinPairs (Percent.encode "") [] = "" := rfl
    have distinct : (([] : List (String × String)).map (·.1)).Nodup := List.nodup_nil
    have params := new_params_of_query distinct method service region endpointName
    rw [noItems] at params
    rw [Text.cutString_of_not_mem noQuery, Option.getD_none]
    exact params

theorem addressTells_query {items : List (String × String)} (nonempty : items ≠ [])
    (distinct : (items.map (·.1)).Nodup) :
    AddressTells (base ++ "?" ++ Percent.joinPairs (Percent.encode "") items) items where
  noFragment := by
    have inQuery : '#' ∉ (Percent.joinPairs (Percent.encode "") items).toList :=
      Percent.not_mem_joinPairs (by decide) (by decide)
        (Percent.not_mem_encode (by decide) (by decide)) items
    simp [noFragment, inQuery]
  hasQuery := by simp [nonempty]
  read := by
    intro query after
    have cut := Text.cutString_append noQuery (Percent.joinPairs (Percent.encode "") items)
    rw [show "?" = String.singleton '?' from rfl, cut] at after
    rw [← Option.some.inj after]
    exact queryItems?_joinPairs nonempty
  again := by
    have cut := Text.cutString_append noQuery (Percent.joinPairs (Percent.encode "") items)
    rw [show "?" = String.singleton '?' from rfl, cut, Option.getD_some]
    exact new_params_of_query distinct

end Tells

theorem mapM_queryPart_ofTexts (items : List (String × String)) :
    ((Parameters.ofTexts items).mapM fun (name, v) => do
      return (← queryPart name) ++ "=" ++ (← queryPart v)) =
    .ok (items.map fun (name, v) => Percent.encode "" name ++ "=" ++ Percent.encode "" v) := by
  rw [Parameters.ofTexts, List.mapM_map]
  exact List.mapM_pure

theorem query_of_texts (texts : r.HasTexts pairs) : r.query =
    .ok (Percent.joinPairs (Percent.encode "") (Parameters.inOrder pairs)) := by
  rw [query, texts.texts, Parameters.sortByKey?_ofTexts]
  dsimp only
  rw [mapM_queryPart_ofTexts]
  rfl

theorem not_mem_encodePath {c : Char} (reserved : Percent.isUnreserved c = false)
    (other : c ∉ Percent.escapeChars) (separator : c ≠ '/') (path : String) :
    c ∉ (Percent.encode "/%" path).toList := by
  have percent : c ≠ '%' := by
    rintro rfl
    exact other (by decide)
  rw [Percent.encode, String.toList_ofList]
  exact Percent.not_mem_encodeChars (by simp [reserved, separator, percent]) other path.toList

/-- The address of a request tells its parameters, in the order of their names. -/
theorem addressTells_of_texts (texts : r.HasTexts pairs) (noQuery : '?' ∉ r.endpoint.toList)
    (noFragment : '#' ∉ r.endpoint.toList) :
    ∃ url, r.url = .ok url ∧ AddressTells url (Parameters.inOrder pairs) := by
  have sorted := Parameters.sortedByName_inOrder texts.distinct
  have noQuery : '?' ∉ (r.endpoint ++ Percent.encode "/%" r.path).toList := by
    simp [noQuery, not_mem_encodePath (c := '?') (by decide) (by decide) (by decide)]
  have noFragment : '#' ∉ (r.endpoint ++ Percent.encode "/%" r.path).toList := by
    simp [noFragment, not_mem_encodePath (c := '#') (by decide) (by decide) (by decide)]
  -- without parameters there is no question mark, and so no query to read back
  by_cases none : pairs = []
  · have noItems : Parameters.inOrder pairs = [] := List.Perm.eq_nil (none ▸ sorted.same)
    refine ⟨r.endpoint ++ Percent.encode "/%" r.path, ?_, ?_⟩
    · rw [url, texts.texts, none]
      rfl
    · rw [noItems]
      exact addressTells_nothing noQuery noFragment
  · have nonempty : Parameters.inOrder pairs ≠ [] := fun noItems =>
      none (List.Perm.nil_eq (noItems ▸ sorted.same)).symm
    have distinct : ((Parameters.inOrder pairs).map (·.1)).Nodup :=
      (sorted.same.map Prod.fst).nodup_iff.mpr texts.distinct
    refine ⟨_, ?_, addressTells_query noQuery noFragment nonempty distinct⟩
    rw [url, query_of_texts texts, texts.texts, if_neg (by simpa [Parameters.ofTexts] using none)]
    rfl

/-! ### Forms -/

/-- The body of a form holds names and values in the order of the names. -/
theorem formBody_ofTexts (entries : List (String × String)) :
    formBody (.map (Parameters.ofTexts entries)) =
      .ok (Text.utf8Encode (Percent.encodeForm (Parameters.inOrder entries))) := by
  rw [formBody]
  dsimp only
  rw [Parameters.sortByKey?_ofTexts]
  dsimp only
  rw [Parameters.ofTexts, List.map_map]
  rfl

/-- Whatever texts a request is made and changed by, its parameters are those of its path with the
changes, and its address tells them; and whatever texts a form is made of, its body is read back as
them, empty ones too. -/
theorem parameters_read_back (method service : String) (region : Region) (path : String)
    (endpointName : Option String) (edits : List Edit) (r : Request)
    (entries : List (String × String)) (distinct : (entries.map (·.1)).Nodup)
    (noQuery : '?' ∉ (new method service region path endpointName).endpoint.toList)
    (noFragment : '#' ∉ (new method service region path endpointName).endpoint.toList) :
    (∃ after items url,
      (new method service region path endpointName).edited edits = .ok after ∧
      after.HasTexts (edits.foldl Edit.pairs (pathPairs path)) ∧
      SortedByName items (edits.foldl Edit.pairs (pathPairs path)) ∧
      after.url = .ok url ∧ AddressTells url items) ∧
    ∃ items body form,
      SortedByName items entries ∧
      r.setForm (.map (Parameters.ofTexts entries)) =
        ({ r.withContentType formContentType with payload := some body }, none) ∧
      Text.utf8Decode? body = some form ∧ Percent.decodeForm form = items := by
  constructor
  · obtain ⟨after, done, texts, same⟩ :=
      edited_hasTexts (new_hasTexts method service region path endpointName) edits
    rw [← same] at noQuery noFragment
    obtain ⟨url, made, tells⟩ := addressTells_of_texts texts noQuery noFragment
    exact ⟨after, _, url, done, texts, Parameters.sortedByName_inOrder texts.distinct, made, tells⟩
  · refine ⟨Parameters.inOrder entries, _, _, Parameters.sortedByName_inOrder distinct, ?_,
      Text.utf8Decode?_utf8Encode _, Percent.decodeForm_joinPairs Percent.formSafe_formEncode _⟩
    rw [setForm, formBody_ofTexts]
    rfl

/-- A search for notes, at an endpoint of its own. -/
def noteSearch : Request :=
  new "get" "notes" ⟨"eu-west-1", some "http://localhost:8080/"⟩ "/notes?tag=a%20b+c&empty="

/-- The address of the search still tells its parameters once it has one more, whose name is not
ASCII and whose value is made of separators, and another, which is empty; so does the body of a form
of such texts. -/
theorem parameters_read_back_noteSearch :
    (∃ after items url,
      noteSearch.edited [.parameters [("größe", "&=#?"), ("", "")], .contentType "text/plain",
        .parameter "tag" "100%"] = .ok after ∧
      after.HasTexts [("tag", "100%"), ("empty", ""), ("größe", "&=#?"), ("", "")] ∧
      SortedByName items [("tag", "100%"), ("empty", ""), ("größe", "&=#?"), ("", "")] ∧
      after.url = .ok url ∧ AddressTells url items) ∧
    ∃ items body form,
      SortedByName items [("größe", "&=#?"), ("", ""), ("a b", "1+1")] ∧
      noteSearch.setForm
          (.map (Parameters.ofTexts [("größe", "&=#?"), ("", ""), ("a b", "1+1")])) =
        ({ noteSearch.withContentType formContentType with payload := some body }, none) ∧
      Text.utf8Decode? body = some form ∧ Percent.decodeForm form = items := by
  have distinct : ([("größe", "&=#?"), ("", ""), ("a b", "1+1")].map (·.1)).Nodup := by decide
  have noQuery : '?' ∉ noteSearch.endpoint.toList := by decide
  have noFragment : '#' ∉ noteSearch.endpoint.toList := by decide
  have changed : [("tag", "100%"), ("empty", ""), ("größe", "&=#?"), ("", "")] =
      List.foldl Edit.pairs (pathPairs "/notes?tag=a%20b+c&empty=")
        [.parameters [("größe", "&=#?"), ("", "")], .contentType "text/plain",
          .parameter "tag" "100%"] := by cbv
  rw [changed]
  exact parameters_read_back _ _ _ _ _ _ noteSearch _ distinct noQuery noFragment

end Request

end ServiceClient
