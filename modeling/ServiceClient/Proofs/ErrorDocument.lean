import Mathlib
import ServiceClient.Http.ErrorBody
import ServiceClient.Proofs.Pairs
import ServiceClient.Proofs.XmlNamespaces

/-!
The code and the message in a document. Each is the text of the first element of its name that has more
than white space, in the order of the document, whatever stands under the other name. The search looks
at full names, and their local parts are the same in whatever namespaces the elements are.
-/

namespace ServiceClient

/-! ### Full names -/

namespace ErrorInfo

theorem localPart_of_not_mem {name : String} (absent : '\x7d' ∉ name.toList) : localPart name = name := by
  rw [localPart, Text.cutString_of_not_mem absent]

theorem localPart_inNamespace {uri : String} (absent : '\x7d' ∉ uri.toList) (name : String) :
    localPart (Xml.inNamespace uri name) = name := by
  have opened : '\x7d' ∉ ("\x7b" ++ uri).toList := by
    rw [String.toList_append, List.mem_append, not_or]
    exact ⟨by decide, absent⟩
  have whole : Xml.inNamespace uri name = ("\x7b" ++ uri) ++ String.singleton '\x7d' ++ name := by
    simp only [Xml.inNamespace, String.append_assoc]
    rfl
  rw [localPart, whole, Text.cutString_append opened]

end ErrorInfo

namespace Xml

/-- The local part of a name has no characters of its own. -/
theorem mem_of_mem_splitName {name : String} {c : Char} (inside : c ∈ (splitName name).2.toList) :
    c ∈ name.toList := by
  by_cases prefixed : ':' ∈ name.toList
  · obtain ⟨before, after, parts, absent⟩ := List.eq_append_cons_of_mem prefixed
    rw [splitName, Text.cutString, parts, Text.cut_append absent] at inside
    rw [parts]
    simp only [Option.map_some, String.toList_ofList] at inside
    exact List.mem_append_right before (List.mem_cons_of_mem ':' inside)
  · rwa [splitName, Text.cutString_of_not_mem prefixed] at inside

theorem Scope.BraceFree.lookup {scope : Scope} (free : scope.BraceFree) {p uri : String}
    (found : scope.lookup p = some uri) : '\x7d' ∉ uri.toList :=
  free (p, uri) (Pairs.mem_of_lookup found)

/-- The local part is what follows the brace of the namespace, which has none itself. -/
theorem Scope.tells_elementName? : Tagging.Tells Scope.elementName? ErrorInfo.localPart := by
  intro scope name tag free absent named
  have bare : '\x7d' ∉ (splitName name).2.toList := fun inside => absent (mem_of_mem_splitName inside)
  unfold Scope.elementName? at named
  split at named
  case h_1 part same =>
    rw [same] at bare ⊢
    obtain rfl := Option.some.inj named
    split
    · exact ErrorInfo.localPart_of_not_mem bare
    · apply ErrorInfo.localPart_inNamespace
      cases found : scope.lookup "" with
      | none => exact List.not_mem_nil
      | some uri => exact free.lookup found
  case h_2 p part _ same =>
    rw [same]
    obtain ⟨uri, found, rfl⟩ := Option.map_eq_some_iff.mp named
    exact ErrorInfo.localPart_inNamespace (free.lookup found) part

theorem Scope.sameNames_elementName? : Tagging.SameNames Scope.localName? Scope.elementName? := by
  intro scope name
  unfold Scope.localName? Scope.elementName?
  split
  · rfl
  · rename_i p part _ _
    rw [Option.isSome_map]
    cases scope.lookup p <;> rfl

/-! ### The order of a document -/

/-- Whether a path of child numbers leads to what comes earlier in a document than another path's end:
an element comes before those within it, and children come in their order. -/
def Before (path other : List Nat) : Prop := List.Lex (· < ·) path other

theorem not_before_nil (path : List Nat) : ¬ Before path [] := List.not_lex_nil

theorem before_cons_iff {i j : Nat} {path other : List Nat} :
    Before (i :: path) (j :: other) ↔ i < j ∨ i = j ∧ Before path other :=
  List.cons_lex_cons_iff

theorem eq_of_not_before {path other : List Nat} (first : ¬ Before path other)
    (second : ¬ Before other path) : path = other :=
  List.le_antisymm second first

/-! ### The first element with a name and a text -/

namespace Element

variable {e root : Element} {name text : String} {p : Element → Bool}

/-- The text of an element without the white space around it. -/
def trimmed (e : Element) : String := Text.trim (e.text.getD "")

/-- Whether an element has a name and a text that is more than white space. -/
def isUsable (name : String) (e : Element) : Bool := e.tag == name && e.trimmed != ""

theorem mem_allInOrder {child : Element} {children : List Element} (listed : child ∈ children)
    (inside : e ∈ child.inOrder) : e ∈ allInOrder children := by
  induction children with
  | nil => cases listed
  | cons first rest ih =>
    rw [allInOrder, List.mem_append]
    rcases List.mem_cons.mp listed with rfl | later
    · exact .inl inside
    · exact .inr (ih later)

/-- Every element that a path leads to comes up. -/
theorem mem_inOrder_of_at? {path : List Nat} (there : root.at? path = some e) : e ∈ root.inOrder := by
  obtain ⟨tag, attributes, text, children⟩ := root
  rw [inOrder]
  induction path generalizing tag attributes text children with
  | nil =>
    obtain rfl := Option.some.inj there
    exact List.mem_cons_self
  | cons i rest ih =>
    obtain ⟨⟨tag', attributes', text', children'⟩, listed, deeper⟩ := Option.bind_eq_some_iff.mp there
    apply List.mem_cons_of_mem
    apply mem_allInOrder (List.mem_of_getElem? listed)
    rw [inOrder]
    exact ih _ _ _ _ deeper

mutual

/-- The first element to come up is the one that no other's path comes before. -/
theorem find?_inOrder : ∀ {root e : Element}, root.inOrder.find? p = some e →
    ∃ path, root.at? path = some e ∧
      ∀ path' e', root.at? path' = some e' → p e' → ¬ Before path' path
  | .mk tag attributes text children, e, found => by
    rw [inOrder, List.find?_cons] at found
    split at found
    · exact ⟨[], found, fun path' _ _ _ => not_before_nil path'⟩
    · rename_i other
      obtain ⟨i, path, there, noEarlier⟩ := find?_allInOrder found
      refine ⟨i :: path, there, ?_⟩
      intro path' e' there' holds
      cases path' with
      | nil =>
        obtain rfl := Option.some.inj there'
        rw [other] at holds
        cases holds
      | cons j more => exact noEarlier j more e' there' holds

theorem find?_allInOrder : ∀ {children : List Element} {e : Element},
    (allInOrder children).find? p = some e →
      ∃ (i : Nat) (path : List Nat), (children[i]?.bind fun child => child.at? path) = some e ∧
        ∀ (j : Nat) (path' : List Nat) (e' : Element),
          (children[j]?.bind fun child => child.at? path') = some e' → p e' →
            ¬ Before (j :: path') (i :: path)
  | [], _, found => by cases found
  | first :: rest, e, found => by
    rw [allInOrder, List.find?_append] at found
    cases here : first.inOrder.find? p with
    | some e₀ =>
      rw [here, Option.some_or] at found
      obtain rfl := Option.some.inj found
      obtain ⟨path, there, noEarlier⟩ := find?_inOrder here
      refine ⟨0, path, there, ?_⟩
      intro j path' e' there' holds
      rw [before_cons_iff]
      rintro (below | ⟨rfl, inner⟩)
      · exact Nat.not_lt_zero j below
      · exact noEarlier path' e' there' holds inner
    | none =>
      rw [here, Option.none_or] at found
      obtain ⟨i, path, there, noEarlier⟩ := find?_allInOrder found
      refine ⟨i + 1, path, there, ?_⟩
      intro j path' e' there' holds
      cases j with
      | zero => exact absurd holds (List.find?_eq_none.mp here e' (mem_inOrder_of_at? there'))
      | succ j =>
        have within := noEarlier j path' e' there' holds
        rw [before_cons_iff] at within ⊢
        rwa [Nat.add_lt_add_iff_right, Nat.add_right_cancel_iff]

end

/-- `text` is the trimmed text of the first element with this name and a text that is more than white
space, in the order of the document; it is empty if there is none. -/
def FirstText (root : Element) (name text : String) : Prop :=
  (∃ path e, root.at? path = some e ∧ e.isUsable name ∧ text = e.trimmed ∧
    ∀ path' e', root.at? path' = some e' → e'.isUsable name → ¬ Before path' path) ∨
  (text = "" ∧ ∀ path e, root.at? path = some e → ¬ e.isUsable name)

theorem FirstText.unique {other : String} (first : root.FirstText name text)
    (again : root.FirstText name other) : text = other := by
  rcases first with ⟨path, e, there, usable, rfl, noEarlier⟩ | ⟨rfl, none⟩
  · rcases again with ⟨path', e', there', usable', rfl, noEarlier'⟩ | ⟨-, none⟩
    · have same : path = path' :=
        eq_of_not_before (noEarlier' path e there usable) (noEarlier path' e' there' usable')
      rw [same] at there
      obtain rfl := Option.some.inj (there.symm.trans there')
      rfl
    · exact absurd usable (none path e there)
  · rcases again with ⟨path', e', there', usable', -, -⟩ | ⟨rfl, -⟩
    · exact absurd usable' (none path' e' there')
    · rfl

/-- The text that a search finds among these elements. -/
def firstText (name : String) (es : List Element) : String :=
  ((es.find? (isUsable name)).map trimmed).getD ""

theorem firstText_cons (name : String) (e : Element) (es : List Element) :
    firstText name (e :: es) = if e.isUsable name then e.trimmed else firstText name es := by
  rw [firstText, List.find?_cons, firstText]
  cases e.isUsable name <;> rfl

theorem firstText_inOrder (root : Element) (name : String) :
    root.FirstText name (firstText name root.inOrder) := by
  unfold firstText
  cases found : root.inOrder.find? (isUsable name) with
  | none =>
    refine .inr ⟨rfl, ?_⟩
    intro path e there
    exact List.find?_eq_none.mp found e (mem_inOrder_of_at? there)
  | some e =>
    obtain ⟨path, there, noEarlier⟩ := find?_inOrder found
    exact .inl ⟨path, e, there, List.find?_some found, rfl, noEarlier⟩

/-! ### Renaming -/

variable {rename : String → String}

theorem trimmed_plain (e : Element) : (e.plain rename).trimmed = e.trimmed := by
  rw [trimmed, text_plain, trimmed]

theorem isUsable_plain_iff (e : Element) :
    (e.plain rename).isUsable name ↔ rename e.tag = name ∧ e.trimmed ≠ "" := by
  rw [isUsable, tag_plain, trimmed_plain, Bool.and_eq_true, beq_iff_eq, bne_iff_ne]

mutual

theorem inOrder_plain : ∀ e : Element, (e.plain rename).inOrder = e.inOrder.map (plain rename)
  | .mk tag attributes text children => by
    rw [plain, inOrder, inOrder, List.map_cons, allInOrder_plain children, plain]

theorem allInOrder_plain : ∀ es : List Element,
    allInOrder (plainAll rename es) = (allInOrder es).map (plain rename)
  | [] => rfl
  | e :: rest => by
    rw [plainAll, allInOrder, allInOrder, List.map_append, inOrder_plain e, allInOrder_plain rest]

end

/-- Attributes do not matter. -/
theorem firstText_plain (root : Element) (text : String) :
    (root.plain id).FirstText name text ↔ root.FirstText name text := by
  have usable (e : Element) : (e.plain id).isUsable name ↔ e.isUsable name := by
    rw [isUsable_plain_iff, isUsable, Bool.and_eq_true, beq_iff_eq, bne_iff_ne, id]
  simp only [FirstText, at?_plain, Option.map_eq_some_iff, exists_exists_and_eq_and, forall_exists_index,
    and_imp, forall_apply_eq_imp_iff₂, usable, trimmed_plain]

end Element

end Xml

namespace ErrorInfo

open Xml (Element)

/-! ### The search -/

theorem code_note (found : Findings) (e : Element) : (found.note e).code =
    if found.code = "" ∧ localPart e.tag = "Code" then e.trimmed else found.code := by
  unfold Findings.note
  by_cases isCode : localPart e.tag = "Code"
  · by_cases empty : found.code = ""
    · simp [isCode, empty, Element.trimmed]
    · simp [isCode, empty]
  · simp only [isCode, false_and, and_false, if_false]
    split <;> rfl

theorem message_note (found : Findings) (e : Element) : (found.note e).message =
    if found.message = "" ∧ localPart e.tag = "Message" then e.trimmed else found.message := by
  unfold Findings.note
  by_cases isMessage : localPart e.tag = "Message"
  · by_cases empty : found.message = ""
    · simp [isMessage, empty, Element.trimmed]
    · simp [isMessage, empty]
  · simp only [isMessage, false_and, and_false, if_false]
    split <;> rfl

/-- What is looked for under one name is the first text there, whatever is looked for under others. -/
theorem foldl_note {get : Findings → String} {name : String}
    (step : ∀ found e, get (found.note e) =
      if get found = "" ∧ localPart e.tag = name then e.trimmed else get found)
    (es : List Element) (found : Findings) : get (es.foldl Findings.note found) =
      if get found = "" then Element.firstText name (es.map (Element.plain localPart)) else get found := by
  induction es generalizing found with
  | nil =>
    rw [List.foldl_nil]
    split
    · assumption
    · rfl
  | cons e rest ih =>
    rw [List.foldl_cons, ih, step, List.map_cons, Element.firstText_cons, Element.trimmed_plain]
    simp only [Element.isUsable_plain_iff]
    by_cases empty : get found = ""
    · by_cases named : localPart e.tag = name
      · by_cases blank : e.trimmed = ""
        · simp [empty, named, blank]
        · simp [empty, named, blank]
      · simp [empty, named]
    · simp [empty]

/-- A document that is read gives the first texts under both names. -/
theorem ofXmlResponse_of_read {r : Response} {full : Element}
    (read : Element.read r.body Xml.Scope.elementName? = .ok full) :
    ofXmlResponse r = .ok ⟨Element.firstText "Code" (full.plain localPart).inOrder,
      .str (Element.firstText "Message" (full.plain localPart).inOrder)⟩ := by
  rw [ofXmlResponse, read, Element.inOrder_plain]
  dsimp only
  rw [foldl_note code_note, foldl_note message_note]
  rfl

/-- In a document that is read, the code and the message are the texts of the first elements of their
names that have any, each on its own account. A document that differs in the namespaces of its elements
only, and is read, gives the same. -/
theorem xml_errors_found_first {r : Response} {root : Element} (read : Element.read r.body = .ok root) :
    ∃ code message, ofXmlResponse r = .ok ⟨code, .str message⟩ ∧ root.FirstText "Code" code ∧
      root.FirstText "Message" message ∧
      ∀ r' root', Element.read r'.body = .ok root' → Xml.SameContent r.body r'.body →
        ofXmlResponse r' = .ok ⟨code, .str message⟩ := by
  obtain ⟨full, readFull⟩ := Element.read_of_sameNames Xml.Scope.sameNames_elementName? read
  have same : full.plain localPart = root.plain id :=
    Element.plain_eq_of_sameContent Xml.Scope.tells_elementName? Xml.Scope.tells_localName? readFull read
      (Xml.SameContent.refl_of_read read)
  refine ⟨_, _, ofXmlResponse_of_read readFull, ?_, ?_, ?_⟩
  · rw [same, ← Element.firstText_plain]
    exact Element.firstText_inOrder ..
  · rw [same, ← Element.firstText_plain]
    exact Element.firstText_inOrder ..
  · intro r' root' read' content
    obtain ⟨full', readFull'⟩ := Element.read_of_sameNames Xml.Scope.sameNames_elementName? read'
    have same' : full.plain localPart = full'.plain localPart :=
      Element.plain_eq_of_sameContent Xml.Scope.tells_elementName? Xml.Scope.tells_elementName? readFull
        readFull' content
    rw [ofXmlResponse_of_read readFull', same']

/-- A reply in a namespace, whose first code is empty. -/
def prefixedReply : Response :=
  ⟨403, Text.utf8Encode "<e:E xmlns:e=\"u\"><Code/><e:Code>X</e:Code></e:E>", []⟩

/-- The same reply in no namespace. -/
def plainReply : Response := ⟨403, Text.utf8Encode "<E><Code/><Code>X</Code></E>", []⟩

/-- The element of both replies. -/
def repliedElement : Element :=
  .mk "E" [] none [.mk "Code" [] none [], .mk "Code" [] (some "X") []]

theorem tokens_prefixedReply : ∃ cs, Xml.decode prefixedReply.body = .ok cs ∧
    Xml.Token.ofDocument? cs = some [.openTag "e:E" [("xmlns:e", ['u'])], .openTag "Code" [],
      .closeTag "Code", .openTag "e:Code" [], .text ['X'], .closeTag "e:Code", .closeTag "e:E"] := by
  refine ⟨_, Xml.decode_utf8Encode (c := 'e') rfl (by decide), ?_⟩
  cbv

theorem tokens_plainReply : ∃ cs, Xml.decode plainReply.body = .ok cs ∧
    Xml.Token.ofDocument? cs = some [.openTag "E" [], .openTag "Code" [], .closeTag "Code",
      .openTag "Code" [], .text ['X'], .closeTag "Code", .closeTag "E"] := by
  refine ⟨_, Xml.decode_utf8Encode (c := 'E') rfl (by decide), ?_⟩
  cbv

theorem errors_found_in_both_replies :
    Element.read prefixedReply.body = .ok repliedElement ∧
      Element.read plainReply.body = .ok repliedElement ∧
      Xml.SameContent prefixedReply.body plainReply.body ∧
      ofXmlResponse prefixedReply = .ok ⟨"X", .str ""⟩ ∧
      ofXmlResponse plainReply = .ok ⟨"X", .str ""⟩ := by
  obtain ⟨cs, decoded, tokens⟩ := tokens_prefixedReply
  obtain ⟨cs', decoded', tokens'⟩ := tokens_plainReply
  have read : Element.read prefixedReply.body = .ok repliedElement :=
    Element.read_eq_ok_iff.mpr ⟨cs, decoded, _, tokens, by cbv⟩
  have read' : Element.read plainReply.body = .ok repliedElement :=
    Element.read_eq_ok_iff.mpr ⟨cs', decoded', _, tokens', by cbv⟩
  have content : Xml.SameContent prefixedReply.body plainReply.body := by
    refine ⟨_, Xml.plainTokens?_of_tokens decoded tokens, ?_⟩
    rw [Xml.plainTokens?_of_tokens decoded' tokens']
    cbv
  obtain ⟨code, message, found, isCode, isMessage, same⟩ := xml_errors_found_first read
  obtain rfl : code = "X" := isCode.unique (repliedElement.firstText_inOrder "Code")
  obtain rfl : message = "" := isMessage.unique (repliedElement.firstText_inOrder "Message")
  exact ⟨read, read', content, found, same plainReply repliedElement read' content⟩

/-- A reply in an encoding with more than one octet for some characters, though all of its own are of
one. -/
def shiftJisReply : Response :=
  ⟨403, Text.utf8Encode "<?xml version=\"1.0\" encoding=\"shift_jis\"?><E><Code>Denied</Code></E>", []⟩

/-- A document in such an encoding is not read as one that is malformed: it fails. -/
theorem ofXmlResponse_shiftJisReply : ofXmlResponse shiftJisReply = .error .multiByteEncoding := by
  have decoded : Xml.decode shiftJisReply.body = .error .multiByteEncoding := by decide +kernel
  rw [ofXmlResponse, Element.read, decoded]
  rfl

end ErrorInfo

end ServiceClient
