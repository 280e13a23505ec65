import ServiceClient.Proofs.Outcome
import ServiceClient.Proofs.Utf8
import ServiceClient.Proofs.XmlToken

/-!
Reading the markup of elements. A document that is read in part takes the markup of an element piece
by piece: the tag, the text, the children and the end. What it has then is the element without what
reading drops, its namespace and the difference between an empty text and none.
-/

namespace ServiceClient.Xml

/-! ### Elements that are written and read -/

/-- A namespace that a document may declare. -/
structure IsNamespace (uri : String) : Prop where
  characters : uri.toList.all isDocumentChar
  noBrace : '\x7d' ∉ uri.toList
  notReserved : uri ≠ xmlNamespace ∧ uri ≠ declarationNamespace

/-- Characters of documents; a carriage return would be read as a line feed. -/
def IsContent (cs : List Char) : Prop := ∀ c ∈ cs, isDocumentChar c ∧ c ≠ '\r'

-- only the characters of the text are looked at, not all that there are
instance (cs : List Char) : Decidable (IsContent cs) := List.decidableBAll _ cs

/-- Attributes that only declare the namespace of their element. -/
def Declares (attributes : List (String × String)) : Prop :=
  attributes = [] ∨ ∃ uri, attributes = [("xmlns", uri)] ∧ IsNamespace uri

namespace Element

/-- Names are plain, texts are those of documents, and attributes only declare a namespace. -/
inductive Writable : Element → Prop
  | mk {tag : String} {attributes : List (String × String)} {text : Option String}
      {children : List Element} (named : isPlainName tag.toList) (declares : Declares attributes)
      (content : IsContent (text.getD "").toList) (inner : ∀ child ∈ children, Writable child) :
      Writable (.mk tag attributes text children)

mutual

/-- What is read of an element: no attributes, and no empty texts. -/
def bare : Element → Element
  | .mk tag _ text children =>
    .mk tag [] (if (text.getD "").isEmpty then none else text) (bareAll children)

def bareAll : List Element → List Element
  | [] => []
  | e :: rest => bare e :: bareAll rest

end

theorem bareAll_eq_map (children : List Element) : bareAll children = children.map bare := by
  induction children with
  | nil => rfl
  | cons e rest ih => rw [bareAll, ih, List.map_cons]

end Element

/-! ### Declaring a namespace -/

theorem splitName_of_isPlainName {name : String} (plain : isPlainName name.toList) :
    splitName name = ("", name) := by
  have noColon : ':' ∉ name.toList := Token.not_mem_of_isPlainName plain (by decide)
  rw [splitName, Text.cutString_of_not_mem noColon]

theorem localName?_of_isPlainName {name : String} (plain : isPlainName name.toList) (scope : Scope) :
    scope.localName? name = some name := by
  unfold Scope.localName?
  rw [splitName_of_isPlainName plain]
  rfl

theorem mayDeclare_of_isNamespace {uri : String} (isNamespace : IsNamespace uri) :
    mayDeclare "" uri := by
  have noBrace : uri.contains '}' = false := by
    rw [String.contains_char_eq, decide_eq_false isNamespace.noBrace]
  have notXml : (uri == xmlNamespace) = false := beq_false_of_ne isNamespace.notReserved.1
  have notDeclaration : (uri != declarationNamespace) = true :=
    bne_iff_ne.mpr isNamespace.notReserved.2
  simp [mayDeclare, noBrace, notXml, notDeclaration]

theorem plain_of_declares {attributes : List (String × String)} (declares : Declares attributes) :
    ∀ pair ∈ attributes, isPlainName pair.1.toList := by
  rcases declares with rfl | ⟨uri, rfl, -⟩
  · intro pair listed
    cases listed
  · intro pair listed
    rw [List.mem_singleton.mp listed]
    show isPlainName "xmlns".toList
    decide

/-- The declaration of a namespace is taken, and it leaves no attribute. -/
theorem enter?_of_declares {attributes : List (String × String)} (declares : Declares attributes)
    (outer : Scope) : ∃ scope, outer.enter? attributes = some scope ∧
      scope.attributes? attributes = some [] := by
  have declaring : declared? "xmlns" = some "" := by decide
  rcases declares with rfl | ⟨uri, rfl, isNamespace⟩
  · exact ⟨outer, rfl, rfl⟩
  · refine ⟨("", uri) :: outer, ?_, ?_⟩
    · simp [Scope.enter?, declaring, mayDeclare_of_isNamespace isNamespace]
    · simp [Scope.attributes?, declaring]

/-! ### Documents read in part -/

namespace OpenElement

/-- An element of which only the tag is read. -/
def start (tag : String) (scope : Scope) : OpenElement := { name := tag, scope, tag, attributes := [] }

variable {e : OpenElement}

theorem addText_nil (e : OpenElement) : e.addText [] = e := rfl

theorem children_addText (cs : List Char) : (e.addText cs).children = e.children := by
  rw [addText]
  split <;> rfl

/-- Text that comes in two parts. -/
theorem addText_addText (first : e.children = []) (cs ds : List Char) :
    (e.addText cs).addText ds = e.addText (cs ++ ds) := by
  by_cases noStart : cs = []
  · rw [noStart, addText_nil, List.nil_append]
  · by_cases noEnd : ds = []
    · rw [noEnd, addText_nil, List.append_nil]
    · simp [addText, first, noStart, noEnd, String.append_assoc]

/-- The text of an element that has not begun is what is read of it. -/
theorem addText_start (tag text : String) (scope : Scope) :
    (start tag scope).addText text.toList =
      ⟨tag, scope, tag, [], if text.isEmpty then none else some text, []⟩ := by
  by_cases noText : text = ""
  · rw [noText]
    rfl
  · simp [addText, start, noText]

end OpenElement

namespace Building

variable {b after : Building} {e : OpenElement}

/-- A document with one more open element. -/
def push (e : OpenElement) (b : Building) : Building := { b with stack := e :: b.stack }

/-- A document with a closed element: the root, or a child of the innermost open element. -/
def put (closed : Element) (b : Building) : Building :=
  match b.stack with
  | [] => { stack := [], root := some closed }
  | outer :: rest => { b with stack := outer.addChild closed :: rest }

theorem put_push (closed : Element) : (b.push e).put closed = b.push (e.addChild closed) := rfl

theorem step?_text (cs : List Char) : (b.push e).step? (.text cs) = some (b.push (e.addText cs)) := rfl

theorem step?_data (cs : List Char) : (b.push e).step? (.data cs) = some (b.push (e.addText cs)) := rfl

theorem step?_closeTag : (b.push e).step? (.closeTag e.name) = some (b.put e.close) := by
  show (b.push e).close? e.name = _
  unfold close? push put
  dsimp only
  rw [if_pos rfl]
  cases b.stack <;> rfl

theorem step?_openTag (unclosed : b.root = none) {tag : String} (named : isPlainName tag.toList)
    {attributes : List (String × String)} (declares : Declares attributes) :
    ∃ scope, b.step? (.openTag tag (attributes.map fun pair => (pair.1, pair.2.toList))) =
      some (b.push (.start tag scope)) := by
  have distinct : (attributes.map (·.1)).Nodup := by
    rcases declares with rfl | ⟨uri, rfl, -⟩
    · exact List.nodup_nil
    · exact List.nodup_cons.mpr ⟨List.not_mem_nil, List.nodup_nil⟩
  have back : (attributes.map fun pair => (pair.1, pair.2.toList)).map
      (fun pair => (pair.1, String.ofList pair.2)) = attributes := by
    rw [List.map_map]
    exact List.map_id'' (fun pair => by simp) attributes
  have names : (attributes.map fun pair => (pair.1, pair.2.toList)).map (·.1) =
      attributes.map (·.1) := by
    rw [List.map_map]
    rfl
  obtain ⟨scope, entered, left⟩ :=
    enter?_of_declares declares ((b.stack.head?.map (·.scope)).getD Scope.initial)
  refine ⟨scope, ?_⟩
  show b.open? tag _ = _
  simp [open?, unclosed, back, names, distinct, entered, left, localName?_of_isPlainName named, push,
    OpenElement.start]

/-- A document after more content, without entities of its own. -/
def feed (b : Building) (cs : List Char) : Option Building := do
  let tokens ← Token.ofContent cs >>= Token.expand? []
  tokens.foldlM step? b

theorem feed_nil (b : Building) : b.feed [] = some b := by
  have noTokens : Token.ofContent [] = some [] := by
    rw [Token.ofContent]
    rfl
  rw [feed, noTokens]
  rfl

/-- A piece of content is taken before what follows it. -/
theorem feed_of_next {cs rest : List Char} {tokens expanded : List Token}
    (next : Token.next? cs = some (tokens, rest)) (shorter : rest.length < cs.length)
    (expands : Token.expand? [] tokens = some expanded) (taken : expanded.foldlM step? b = some after) :
    b.feed cs = after.feed rest := by
  have some : cs.isEmpty = false := by
    cases cs with
    | nil => simp at shorter
    | cons c more => rfl
  have content : Token.ofContent cs = (Token.ofContent rest).map (tokens ++ ·) := by
    rw [Token.ofContent, some]
    simp only [next, shorter, if_true, Bool.false_eq_true, if_false]
  rw [feed, feed, content]
  cases Token.ofContent rest with
  | none => rfl
  | some others =>
    have all : Token.expand? [] (tokens ++ others) =
        (Token.expand? [] others).map (expanded ++ ·) := by
      unfold Token.expand? at expands ⊢
      obtain ⟨parts, done, rfl⟩ := Option.map_eq_some_iff.mp expands
      rw [List.mapM_append, done]
      cases others.mapM (Token.expandOne? [].length []) with
      | none => rfl
      | some later => simp
    simp only [Option.map_some, Option.bind_eq_bind, Option.bind_some, all]
    cases Token.expand? [] others with
    | none => rfl
    | some later =>
      simp only [Option.map_some, Option.bind_some, List.foldlM_append, taken]
      rfl

/-- A piece of content that is one token. -/
theorem feed_of_token {cs rest : List Char} {written token : Token}
    (next : Token.next? cs = some ([written], rest)) (shorter : rest.length < cs.length)
    (expands : Token.expandOne? 0 [] written = some [token]) (taken : b.step? token = some after) :
    b.feed cs = after.feed rest := by
  have one : Token.expand? [] [written] = some [token] := by
    rw [Token.expand?, List.mapM_cons, List.length_nil, expands]
    rfl
  apply feed_of_next next shorter one
  rw [List.foldlM_cons, taken]
  rfl

/-! ### Tags -/

/-- The tag of an element with content opens it. -/
theorem feed_openTag (unclosed : b.root = none) {tag : String} (named : isPlainName tag.toList)
    {attributes : List (String × String)} (declares : Declares attributes) (rest : List Char) :
    ∃ scope, b.feed ('<' :: (tag.toList ++ (writeAttributes attributes ++ '>' :: rest))) =
      (b.push (.start tag scope)).feed rest := by
  obtain ⟨scope, opened⟩ := step?_openTag unclosed named declares
  have next := Token.next?_openTag named (plain_of_declares declares) (Token.attributes?_end rest)
    (by decide)
  refine ⟨scope, feed_of_token next ?_ (Token.expandOne?_openTag tag attributes) opened⟩
  simp only [List.length_cons, List.length_append]
  omega

/-- The tag of an element without content opens and closes it. -/
theorem feed_closedTag (unclosed : b.root = none) {tag : String} (named : isPlainName tag.toList)
    {attributes : List (String × String)} (declares : Declares attributes) (rest : List Char) :
    b.feed ('<' :: (tag.toList ++ (writeAttributes attributes ++ ' ' :: '/' :: '>' :: rest))) =
      (b.put (.mk tag [] none [])).feed rest := by
  obtain ⟨scope, opened⟩ := step?_openTag unclosed named declares
  have next := Token.next?_openTag named (plain_of_declares declares) (Token.attributes?_closed rest)
    (by decide)
  have closed : (b.push (.start tag scope)).step? (.closeTag tag) = some (b.put (.mk tag [] none [])) :=
    step?_closeTag
  have expands : Token.expand? [] [.openTag tag (attributes.map fun pair =>
      (pair.1, escapeAttribute pair.2)), .closeTag tag] =
        some [.openTag tag (attributes.map fun pair => (pair.1, pair.2.toList)), .closeTag tag] := by
    rw [Token.expand?, List.mapM_cons, List.mapM_cons, List.length_nil, Token.expandOne?_openTag,
      Token.expandOne?_closeTag]
    rfl
  apply feed_of_next next _ expands
  · rw [List.foldlM_cons, opened, Option.bind_eq_bind, Option.bind_some, List.foldlM_cons, closed]
    rfl
  · simp only [List.length_cons, List.length_append]
    omega

theorem feed_endTag (named : isPlainName e.name.toList) (rest : List Char) :
    (b.push e).feed ('<' :: '/' :: (e.name.toList ++ '>' :: rest)) = (b.put e.close).feed rest := by
  apply feed_of_token (Token.next?_closeTag named rest) _ (Token.expandOne?_closeTag e.name)
    step?_closeTag
  simp only [List.length_cons, List.length_append]
  omega

/-! ### Text -/

theorem feed_run {run : List Char} (plain : ∀ c ∈ run, Token.isTextChar c) (noEnd : '>' ∉ run)
    {d : Char} (markup : Token.isTextChar d = false) (rest : List Char) :
    (b.push e).feed (run ++ d :: rest) = (b.push (e.addText run)).feed (d :: rest) := by
  cases run with
  | nil => rfl
  | cons c more =>
    apply feed_of_token (Token.next?_text plain noEnd markup) _ (Token.expandOne?_text _) (step?_text _)
    simp only [List.length_cons, List.length_append]
    omega

theorem feed_reference {body : List Char} {c : Char} (stands : Token.StandsFor body c)
    (rest : List Char) :
    (b.push e).feed ('&' :: (body ++ ';' :: rest)) = (b.push (e.addText [c])).feed rest := by
  obtain ⟨token, next, expands⟩ := Token.next?_reference stands rest
  apply feed_of_token next _ expands (step?_data [c])
  simp only [List.length_cons, List.length_append]
  omega

/-- An escaped text is taken as the text. The induction carries the characters that a run of plain
text has so far, which are taken together when the run ends. -/
theorem feed_escaped (first : e.children = []) (run cs : List Char)
    (plain : ∀ c ∈ run, Token.isTextChar c) (noEnd : '>' ∉ run) (rest : List Char) :
    (b.push e).feed (run ++ (cs.flatMap escapeTextChar ++ '<' :: rest)) =
      (b.push (e.addText (run ++ cs))).feed ('<' :: rest) := by
  induction cs generalizing run e with
  | nil =>
    rw [List.flatMap_nil, List.nil_append, List.append_nil]
    exact feed_run plain noEnd (by decide) rest
  | cons c more ih =>
    rw [List.flatMap_cons]
    rcases Token.escapeTextChar_cases c with ⟨body, stands, written⟩ |
      ⟨written, noReference, noTag, notEnd⟩
    · have shape : run ++ ('&' :: (body ++ [';']) ++ more.flatMap escapeTextChar ++ '<' :: rest) =
          run ++ '&' :: (body ++ ';' :: (more.flatMap escapeTextChar ++ '<' :: rest)) := by simp
      have still : (e.addText run).children = [] := (OpenElement.children_addText run).trans first
      have later := ih (e := (e.addText run).addText [c])
        ((OpenElement.children_addText [c]).trans still) [] nofun List.not_mem_nil
      rw [List.nil_append, List.nil_append] at later
      rw [written, shape, feed_run plain noEnd (by decide), feed_reference stands, later,
        OpenElement.addText_addText still, OpenElement.addText_addText first]
      rfl
    · have shape : run ++ ([c] ++ more.flatMap escapeTextChar ++ '<' :: rest) =
          (run ++ [c]) ++ (more.flatMap escapeTextChar ++ '<' :: rest) := by simp
      have plainOne : Token.isTextChar c := by simp [Token.isTextChar, noReference, noTag]
      rw [written, shape, ih first, List.append_assoc, List.singleton_append]
      · intro d inside
        rcases List.mem_append.mp inside with before | last
        · exact plain d before
        · rwa [List.mem_singleton.mp last]
      · intro inside
        rcases List.mem_append.mp inside with before | last
        · exact noEnd before
        · exact notEnd (List.mem_singleton.mp last).symm

theorem feed_escapeText (first : e.children = []) (text : String) (rest : List Char) :
    (b.push e).feed (escapeText text ++ '<' :: rest) =
      (b.push (e.addText text.toList)).feed ('<' :: rest) :=
  feed_escaped first [] text.toList nofun List.not_mem_nil rest

/-! ### Elements -/

/-- Children that are each taken are taken together, after those that were there. -/
theorem feed_writeAll {children : List Element}
    (each : ∀ child ∈ children, ∀ (b : Building) (rest : List Char), b.root = none →
      b.feed (child.writeChars ++ rest) = (b.put child.bare).feed rest)
    (unclosed : b.root = none) (rest : List Char) :
    (b.push e).feed (Element.writeAll children ++ rest) =
      (b.push { e with children := (children.map Element.bare).reverse ++ e.children }).feed rest := by
  induction children generalizing e with
  | nil => rfl
  | cons child others ih =>
    have one := each child List.mem_cons_self (b.push e) (Element.writeAll others ++ rest) unclosed
    have later := ih (e := e.addChild child.bare) fun other listed =>
      each other (List.mem_cons_of_mem child listed)
    rw [Element.writeAll, List.append_assoc, one, put_push, later]
    simp [OpenElement.addChild]

/-- What follows the text of an element is markup. -/
theorem writeAll_starts (children : List Element) (rest : List Char) :
    ∃ more, Element.writeAll children ++ '<' :: rest = '<' :: more := by
  cases children with
  | nil => exact ⟨rest, rfl⟩
  | cons child others =>
    obtain ⟨_, _, _, _⟩ := child
    rw [Element.writeAll, Element.writeChars]
    split <;> exact ⟨_, rfl⟩

/-- The markup of an element is taken as the element without what reading drops. -/
theorem feed_writeChars {written : Element} (writable : written.Writable) (b : Building)
    (rest : List Char) (unclosed : b.root = none) :
    b.feed (written.writeChars ++ rest) = (b.put written.bare).feed rest := by
  induction writable generalizing b rest with
  | @mk tag attributes text children named declares content inner ih =>
    rw [Element.writeChars, Element.bare, Element.bareAll_eq_map]
    split
    case isTrue empty =>
      obtain ⟨noText, noChildren⟩ := Bool.and_eq_true_iff.mp empty
      obtain rfl := List.isEmpty_iff.mp noChildren
      have shape : '<' :: tag.toList ++ writeAttributes attributes ++ " />".toList ++ rest =
          '<' :: (tag.toList ++ (writeAttributes attributes ++ ' ' :: '/' :: '>' :: rest)) := by simp
      rw [shape, feed_closedTag unclosed named declares, if_pos noText]
      rfl
    case isFalse =>
      let escaped := escapeText (text.getD "")
      let ending := '/' :: (tag.toList ++ '>' :: rest)
      have shape : '<' :: tag.toList ++ writeAttributes attributes ++ '>' :: escaped ++
          Element.writeAll children ++ '<' :: '/' :: tag.toList ++ ['>'] ++ rest =
            '<' :: (tag.toList ++ (writeAttributes attributes ++
              '>' :: (escaped ++ (Element.writeAll children ++ '<' :: ending)))) := by simp [ending]
      obtain ⟨scope, opened⟩ := feed_openTag (b := b) unclosed named declares
        (escaped ++ (Element.writeAll children ++ '<' :: ending))
      obtain ⟨more, starts⟩ := writeAll_starts children ending
      have ended := feed_endTag (b := b) (e := ⟨tag, scope, tag, [],
        if (text.getD "").isEmpty then none else text, (children.map Element.bare).reverse⟩)
        named rest
      have sameText : (if (text.getD "").isEmpty then none else some (text.getD "")) =
          if (text.getD "").isEmpty then none else text := by
        cases text <;> rfl
      rw [shape, opened, starts, feed_escapeText rfl, ← starts, feed_writeAll ih unclosed,
        OpenElement.addText_start, sameText]
      simpa only [OpenElement.close, List.append_nil, List.reverse_reverse] using ended

end Building

/-! ### The characters of markup -/

theorem isContent_append {cs ds : List Char} (first : IsContent cs) (second : IsContent ds) :
    IsContent (cs ++ ds) := by
  intro c inside
  rcases List.mem_append.mp inside with before | later
  · exact first c before
  · exact second c later

theorem isContent_cons {c : Char} {cs : List Char} (one : isDocumentChar c ∧ c ≠ '\r')
    (more : IsContent cs) : IsContent (c :: cs) := by
  intro d inside
  rcases List.mem_cons.mp inside with rfl | later
  · exact one
  · exact more d later

theorem isDocumentChar_of_visible {c : Char} (visible : 32 ≤ c.toNat ∧ c.toNat < 128) :
    isDocumentChar c ∧ c ≠ '\r' := by
  constructor
  · simp only [isDocumentChar, Bool.or_eq_true, Bool.and_eq_true, decide_eq_true_eq, bne_iff_ne]
    exact .inr ⟨⟨by omega, by omega⟩, by omega⟩
  · rintro rfl
    exact absurd visible.1 (by decide)

theorem isContent_of_visible {cs : List Char} (visible : ∀ c ∈ cs, 32 ≤ c.toNat ∧ c.toNat < 128) :
    IsContent cs := by
  intro c inside
  exact isDocumentChar_of_visible (visible c inside)

theorem isContent_of_isPlainName {cs : List Char} (plain : isPlainName cs) : IsContent cs := by
  intro c inside
  have inName := isNameChar_of_isPlainName plain inside
  exact ⟨isDocumentChar_of_isNameChar inName, ne_of_isNameChar inName (by decide)⟩

theorem toNat_of_isReferenceChar {c : Char} (reference : Token.isReferenceChar c) :
    32 ≤ c.toNat ∧ c.toNat < 128 := by
  simp only [Token.isReferenceChar, Bool.or_eq_true, beq_iff_eq] at reference
  rcases reference with ((alphanumeric | rfl) | rfl) | rfl
  · have range := Text.toNat_of_isAlphanum alphanumeric
    omega
  all_goals decide

theorem isContent_escapeText {text : String} (content : IsContent text.toList) :
    IsContent (escapeText text) := by
  intro c inside
  rcases Token.mem_escapeText inside with reference | ⟨inText, -⟩
  · exact isDocumentChar_of_visible (toNat_of_isReferenceChar reference)
  · exact content c inText

theorem isContent_writeAttributes {attributes : List (String × String)}
    (declares : Declares attributes) : IsContent (writeAttributes attributes) := by
  rcases declares with rfl | ⟨uri, rfl, isNamespace⟩
  · intro c inside
    cases inside
  · have quoted : IsContent (escapeAttribute uri) := by
      intro c inside
      rcases Token.mem_escapeAttribute inside with reference | ⟨inUri, -, noBreak⟩
      · exact isDocumentChar_of_visible (toNat_of_isReferenceChar reference)
      · refine ⟨List.all_eq_true.mp isNamespace.characters c inUri, ?_⟩
        rintro rfl
        exact absurd (noBreak (by decide)) (by decide)
    have shape : writeAttributes [("xmlns", uri)] =
        " xmlns=\"".toList ++ (escapeAttribute uri ++ ['"']) := by
      simp [writeAttributes]
    rw [shape]
    exact isContent_append (by decide)
      (isContent_append quoted (by decide))

theorem isContent_writeAll {children : List Element}
    (each : ∀ child ∈ children, IsContent child.writeChars) : IsContent (Element.writeAll children) := by
  induction children with
  | nil =>
    intro c inside
    cases inside
  | cons child others ih =>
    rw [Element.writeAll]
    exact isContent_append (each child List.mem_cons_self)
      (ih fun other listed => each other (List.mem_cons_of_mem child listed))

theorem isContent_writeChars {e : Element} (writable : e.Writable) : IsContent e.writeChars := by
  induction writable with
  | @mk tag attributes text children named declares content inner ih =>
    have name := isContent_of_isPlainName named
    have opened : IsContent ('<' :: tag.toList ++ writeAttributes attributes) :=
      isContent_append (isContent_cons (by decide) name) (isContent_writeAttributes declares)
    rw [Element.writeChars]
    split
    case isTrue => exact isContent_append opened (by decide)
    case isFalse =>
      have ending : IsContent ('<' :: '/' :: tag.toList ++ ['>']) :=
        isContent_append (isContent_cons (by decide) (isContent_cons (by decide) name))
          (by decide)
      have within : IsContent ('>' :: escapeText (text.getD "") ++ Element.writeAll children) :=
        isContent_append (isContent_cons (by decide) (isContent_escapeText content))
          (isContent_writeAll ih)
      have all := isContent_append (isContent_append opened within) ending
      simpa only [List.append_assoc, List.cons_append] using all

/-- The markup of an element begins with its tag. -/
theorem writeChars_starts {e : Element} (writable : e.Writable) :
    ∃ c rest, e.writeChars = '<' :: c :: rest ∧ isNameStart c := by
  obtain ⟨named, -, -, -⟩ := writable
  rename_i tag attributes text children
  obtain ⟨c, more, isName, starts, -⟩ := isPlainName_iff.mp named
  rw [Element.writeChars, isName]
  split <;> exact ⟨c, _, rfl, starts⟩

/-! ### Whole documents -/

theorem unifyLines_of_isContent {cs : List Char} (content : IsContent cs) : unifyLines cs = cs := by
  induction cs with
  | nil => rfl
  | cons c rest ih =>
    have noReturn : c ≠ '\r' := (content c List.mem_cons_self).2
    have later := ih fun d inside => content d (List.mem_cons_of_mem c inside)
    unfold unifyLines
    split
    case h_1 same => exact absurd (List.cons.inj same).1 noReturn
    case h_2 same => exact absurd (List.cons.inj same).1 noReturn
    case h_3 same =>
      obtain ⟨rfl, rfl⟩ := List.cons.inj same
      rw [later]
    case h_4 same => cases same

theorem read?_of_starts {c : Char} (noQuestion : c ≠ '?') (rest : List Char) :
    Declaration.read? ('<' :: c :: rest) = some (⟨none⟩, '<' :: c :: rest) := by
  unfold Declaration.read?
  split
  case h_1 same => exact absurd (List.cons.inj (List.cons.inj same).2).1 noQuestion
  case h_2 => rfl

theorem skipMisc?_of_starts {c : Char} (noQuestion : c ≠ '?') (noBang : c ≠ '!') (rest : List Char) :
    skipMisc? ('<' :: c :: rest) = some ('<' :: c :: rest) := by
  unfold skipMisc?
  split
  case h_1 same => exact absurd (List.cons.inj (List.cons.inj same).2).1 noBang
  case h_2 same => exact absurd (List.cons.inj (List.cons.inj same).2).1 noQuestion
  case h_3 same =>
    obtain ⟨rfl, rfl⟩ := List.cons.inj same
    rfl
  case h_4 same => cases same

theorem prolog?_of_starts {c : Char} (noQuestion : c ≠ '?') (noBang : c ≠ '!') (rest : List Char) :
    prolog? ('<' :: c :: rest) = some ([], '<' :: c :: rest) := by
  unfold prolog?
  rw [skipMisc?_of_starts noQuestion noBang, Option.bind_eq_bind, Option.bind_some]
  split
  case h_1 same => exact absurd (List.cons.inj (List.cons.inj same).2).1 noBang
  case h_2 => rfl

/-- The octets of a tag are no byte order mark and have no zero, so they are taken for UTF-8. -/
theorem decode_utf8Encode {text : String} {c : Char} {rest : List Char}
    (shape : text.toList = '<' :: c :: rest) (starts : isNameStart c) :
    decode (Text.utf8Encode text) = .ok text.toList := by
  have range := toNat_of_isNameStart starts
  obtain ⟨b, more, encoded, large⟩ := Text.utf8EncodeChar_starts (c := c) (by omega)
  have tag : String.utf8EncodeChar '<' = [0x3C] := by decide
  have octets : Text.utf8Encode text = 0x3C :: b :: (more ++ rest.flatMap String.utf8EncodeChar) := by
    rw [Text.utf8Encode, shape, List.flatMap_cons, List.flatMap_cons, encoded, tag]
    rfl
  have detected : detectEncoding (Text.utf8Encode text) = (.utf8, 0) := by
    have noZero : b ≠ 0 := by
      rintro rfl
      exact absurd large (by decide)
    rw [octets]
    unfold detectEncoding
    split
    case h_5 same => exact absurd (List.cons.inj (List.cons.inj same).2).1 noZero
    case h_6 => rfl
    all_goals
      rename_i same
      exact absurd (List.cons.inj same).1 (by decide)
  have undeclared : Declaration.read? ((Text.utf8Encode text).map fun b => Char.ofNat b.toNat) =
      some (⟨none⟩, (Text.utf8Encode text).map fun b => Char.ofNat b.toNat) := by
    rw [octets]
    apply read?_of_starts
    intro isQuestion
    have number : b.toNat = 63 := (Text.toNat_ofNat_octet b).symm.trans (congrArg Char.toNat isQuestion)
    omega
  unfold decode
  rw [detected]
  simp only [List.drop_zero, Encoding.glance, undeclared, pure_bind, Encoding.decode?,
    Text.utf8Decode?_utf8Encode, Option.map_some]
  rfl

namespace Element

/-- A document that is written is read, without what reading drops. -/
theorem read_write {e : Element} (writable : e.Writable) :
    Element.read (Text.utf8Encode e.write) = .ok e.bare := by
  have characters : e.write.toList = e.writeChars := String.toList_ofList
  obtain ⟨c, rest, shape, starts⟩ := writeChars_starts writable
  have content := isContent_writeChars writable
  have inName := isNameChar_of_isNameStart starts
  have noQuestion : c ≠ '?' := ne_of_isNameChar inName (by decide)
  have noBang : c ≠ '!' := ne_of_isNameChar inName (by decide)
  have documentChars : e.writeChars.all isDocumentChar := by
    rw [List.all_eq_true]
    intro d inside
    exact (content d inside).1
  have taken : ({} : Building).feed e.writeChars = some { stack := [], root := some e.bare } := by
    have fed := Building.feed_writeChars writable {} [] rfl
    rwa [List.append_nil, Building.feed_nil] at fed
  obtain ⟨tokens, tokenized, built⟩ := Option.bind_eq_some_iff.mp taken
  have markup : Token.ofDocument? e.writeChars = some tokens := by
    unfold Token.ofDocument?
    rw [documentChars, unifyLines_of_isContent content, shape, read?_of_starts noQuestion]
    simp only [guard_true, Option.pure_def, Option.bind_eq_bind, Option.bind_some,
      prolog?_of_starts noQuestion noBang]
    rw [Option.bind_eq_bind] at tokenized
    rw [← shape, tokenized]
  have read : Element.ofChars? e.writeChars = some e.bare := by
    rw [Element.ofChars?, markup, Option.bind_eq_bind, Option.bind_some, Element.ofTokens?, built]
    rfl
  rw [Element.read, decode_utf8Encode (characters.trans shape) starts, characters, Except.ok_bind, read]
  rfl

end Element

end ServiceClient.Xml
