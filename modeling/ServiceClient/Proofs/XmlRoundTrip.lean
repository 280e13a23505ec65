import Mathlib.Data.List.ReduceOption
import ServiceClient.Proofs.Base64
import ServiceClient.Proofs.Numeral
import ServiceClient.Proofs.Payload
import ServiceClient.Proofs.XmlReading
import ServiceClient.Xml.Access

/-!
Trees that are put together are read back. Every child that a scalar was put into keeps its text
while the tree grows, and reading a document keeps the text of every element; so the parsers make of
the document the scalars that were put in.
-/

namespace ServiceClient.Xml

/-! ### Scalars -/

namespace Parser

/-- The scalars that a parser is for. -/
inductive Reads : Parser → Value → Prop
  | integer (n : Int) : Reads .integer (.int n)
  | boolean (b : Bool) : Reads .boolean (.bool b)
  | blob (octets : Octets) : Reads .blob (.bytes octets)
  | text {s : String} (content : IsContent s.toList) : Reads .text (.str s)

variable {p : Parser} {a b v : Value}

theorem isBlank_of_visible {c : Char} (visible : 33 ≤ c.toNat) (ascii : c.toNat < 128) :
    Text.isBlank c = false := by
  rw [Bool.eq_false_iff]
  intro blank
  obtain ⟨range, listed, holds⟩ := List.any_eq_true.mp blank
  rw [Bool.and_eq_true, decide_eq_true_eq, decide_eq_true_eq] at holds
  have apart : ∀ range ∈ Text.blankRanges, range.2 < 33 ∨ 128 ≤ range.1 := by decide
  have bounds := apart range listed
  omega

theorem number_toString {n : Int} (writable : (Value.int n).writable) :
    number .int Numeral.readInt? (toString n) = .ok (.int n) := by
  have visible : ∀ c ∈ (toString n).toList, Text.isBlank c = false := by
    intro c inside
    have range := Numeral.toNat_of_mem_toString inside
    exact isBlank_of_visible (by omega) (by omega)
  rw [Value.writable, decide_eq_true_eq] at writable
  unfold number
  rw [Numeral.trimBoth_of_not visible, Numeral.readInt?_toString, if_pos writable]

/-- The text of a scalar is read as the scalar. -/
theorem ofText_scalarText (reads : p.Reads v) (writable : v.writable) :
    p.ofText v.scalarText = .ok v := by
  cases reads with
  | integer n =>
    have text : (Value.int n).scalarText = toString n := rfl
    rw [text, ofText, number_toString writable]
    rfl
  | boolean b => cases b <;> rfl
  | blob octets =>
    have text : (Value.bytes octets).scalarText = Base64.encode octets := rfl
    rw [text, ofText, Base64.decode_encode]
    rfl
  | text => rfl

theorem isContent_scalarText (reads : p.Reads v) : IsContent v.scalarText.toList := by
  cases reads with
  | integer n =>
    apply isContent_of_visible
    intro c inside
    have range := Numeral.toNat_of_mem_toString (n := n) inside
    omega
  | boolean b => cases b <;> decide
  | blob octets =>
    apply isContent_of_visible
    intro c inside
    rw [show (Value.bytes octets).scalarText = Base64.encode octets from rfl, Base64.encode,
      String.toList_ofList] at inside
    exact Base64.encodeChars_visible octets c inside
  | text content => exact content

theorem isKey_of_reads (reads : p.Reads v) : v.isKey := by
  cases reads <;> rfl

/-- Scalars of one parser are one key only if they are the same. -/
theorem sameKey_of_reads (first : p.Reads a) (second : p.Reads b) (other : a ≠ b) :
    Value.sameKey a b = false := by
  cases first with
  | integer m =>
    obtain ⟨n⟩ := second
    simpa [Value.sameKey, Value.asNumber?, Value.sameNumber] using other
  | boolean m =>
    cases second with
    | boolean n => cases m <;> cases n <;> first | rfl | exact absurd rfl other
  | blob octets =>
    obtain ⟨others⟩ := second
    simpa [Value.sameKey] using other
  | text =>
    obtain ⟨-⟩ := second
    simpa [Value.sameKey] using other

theorem keys_apart {pairs : List (Value × Value)} (reads : ∀ pair ∈ pairs, p.Reads pair.1)
    (distinct : (pairs.map (·.1)).Nodup) :
    pairs.Pairwise fun first second => Value.sameKey first.1 second.1 = false := by
  apply (List.pairwise_map.mp distinct).imp_of_mem
  intro first second listed later other
  exact sameKey_of_reads (reads first listed) (reads second later) other

end Parser

namespace Element

/-! ### What reading keeps of an element -/

variable {root node child e : Element} {path q : List Nat} {name tag : String}

theorem tag_bare (e : Element) : e.bare.tag = e.tag := by
  obtain ⟨tag, attributes, text, children⟩ := e
  rw [bare]
  rfl

theorem text_bare (e : Element) : e.bare.text.getD "" = e.text.getD "" := by
  obtain ⟨tag, attributes, text, children⟩ := e
  rw [bare]
  show (if (text.getD "").isEmpty then none else text).getD "" = text.getD ""
  split
  case isTrue empty => exact (String.isEmpty_iff.mp empty).symm
  case isFalse => rfl

theorem children_bare (e : Element) : e.bare.children = e.children.map bare := by
  obtain ⟨tag, attributes, text, children⟩ := e
  rw [bare, bareAll_eq_map]
  rfl

theorem findAll_bare (name : String) (e : Element) : e.bare.findAll name = (e.findAll name).map bare := by
  have tags : ((fun child : Element => child.tag == name) ∘ bare) = fun child => child.tag == name := by
    funext child
    exact congrArg (· == name) (tag_bare child)
  rw [findAll, findAll, children_bare, List.filter_map, tags]

theorem at?_bare (e : Element) (path : List Nat) : e.bare.at? path = (e.at? path).map bare := by
  induction path generalizing e with
  | nil => rfl
  | cons i rest ih =>
    rw [at?, at?, children_bare, List.getElem?_map]
    cases e.children[i]? with
    | none => rfl
    | some child => exact ih child

/-- The end of a path is found from any element on it. -/
theorem at?_append (there : root.at? path = some node) (q : List Nat) :
    root.at? (path ++ q) = node.at? q := by
  induction path generalizing root with
  | nil =>
    obtain rfl := Option.some.inj there
    rfl
  | cons i rest ih =>
    obtain ⟨inner, listed, deeper⟩ := Option.bind_eq_some_iff.mp there
    rw [List.cons_append, at?, listed]
    exact ih deeper

theorem find?_eq_head? (name : String) (e : Element) : e.find? name = (e.findAll name).head? := by
  rw [find?, findAll, List.head?_filter]

/-! ### Growing trees -/

/-- Two elements that a parser of scalars reads alike. -/
def Alike (a b : Element) : Prop := a.tag = b.tag ∧ a.text = b.text

theorem alike_modify {change : Element → Element} (keeps : ∀ e, Alike e (change e)) (path : List Nat)
    (e : Element) : Alike e (e.modify change path) := by
  cases path with
  | nil => exact keeps e
  | cons i rest =>
    obtain ⟨tag, attributes, text, children⟩ := e
    exact ⟨rfl, rfl⟩

theorem alike_addChild (child e : Element) : Alike e (addChild child e) := ⟨rfl, rfl⟩

theorem forall₂_alike_refl (children : List Element) : List.Forall₂ Alike children children :=
  List.forall₂_same.mpr fun _ _ => ⟨rfl, rfl⟩

theorem forall₂_alike_modify {change : Element → Element} (keeps : ∀ e, Alike e (change e)) (i : Nat)
    (children : List Element) : List.Forall₂ Alike children (children.modify i change) := by
  induction children generalizing i with
  | nil => cases i <;> exact .nil
  | cons child rest ih =>
    cases i with
    | zero => exact .cons (keeps child) (forall₂_alike_refl rest)
    | succ i => exact .cons ⟨rfl, rfl⟩ (ih i)

/-- An element that was there is there when a child is put in at the end of a path. Only the element
at the end of the path has one child more. -/
theorem at?_modify_addChild (path : List Nat) (child : Element) (found : root.at? q = some node) :
    ∃ after, (root.modify (addChild child) path).at? q = some after ∧
      (q = path → after = addChild child node) ∧
      (q ≠ path → Alike node after ∧ List.Forall₂ Alike node.children after.children) := by
  induction path generalizing root q with
  | nil =>
    cases q with
    | nil =>
      obtain rfl := Option.some.inj found
      exact ⟨_, rfl, fun _ => rfl, fun other => absurd rfl other⟩
    | cons i rest =>
      obtain ⟨inner, listed, deeper⟩ := Option.bind_eq_some_iff.mp found
      have inside : i < root.children.length := (List.getElem?_eq_some_iff.mp listed).1
      refine ⟨node, ?_, nofun, fun _ => ⟨⟨rfl, rfl⟩, forall₂_alike_refl _⟩⟩
      show ((root.children ++ [child])[i]?).bind _ = some node
      rw [List.getElem?_append_left inside, listed]
      exact deeper
  | cons i path ih =>
    obtain ⟨tag, attributes, text, children⟩ := root
    cases q with
    | nil =>
      obtain rfl := Option.some.inj found
      refine ⟨_, rfl, nofun, fun _ => ⟨⟨rfl, rfl⟩, ?_⟩⟩
      exact forall₂_alike_modify (alike_modify (alike_addChild child) path) i children
    | cons j rest =>
      obtain ⟨inner, listed, deeper⟩ := Option.bind_eq_some_iff.mp found
      have listed : children[j]? = some inner := listed
      show ∃ after, ((children.modify i (modify (addChild child) path))[j]?).bind _ = some after ∧ _
      rw [List.getElem?_modify, listed]
      by_cases same : i = j
      · subst same
        obtain ⟨after, there, here, elsewhere⟩ := ih deeper
        refine ⟨after, by simpa using there, fun same => here (List.cons.inj same).2, ?_⟩
        intro other
        exact elsewhere fun same => other (by rw [same])
      · refine ⟨node, by simpa [same] using deeper, ?_, fun _ => ⟨⟨rfl, rfl⟩, forall₂_alike_refl _⟩⟩
        intro equal
        exact absurd (List.cons.inj equal).1.symm same

/-- An element that was not there is in the child that is put in. -/
theorem at?_modify_addChild_of_none (there : root.at? path = some node) (missing : root.at? q = none)
    {after : Element} (found : (root.modify (addChild child) path).at? q = some after) :
    ∃ rest, q = path ++ node.children.length :: rest ∧ child.at? rest = some after := by
  induction path generalizing root q with
  | nil =>
    obtain rfl := Option.some.inj there
    cases q with
    | nil => cases missing
    | cons i rest =>
      obtain ⟨inner, listed, deeper⟩ := Option.bind_eq_some_iff.mp found
      have listed : (root.children ++ [child])[i]? = some inner := listed
      by_cases inside : i < root.children.length
      · rw [List.getElem?_append_left inside] at listed
        rw [at?, listed] at missing
        exact absurd (missing.symm.trans deeper) nofun
      · obtain ⟨last, rfl⟩ : i = root.children.length ∧ inner = child := by
          rw [List.getElem?_append_right (by omega), List.getElem?_singleton] at listed
          split at listed
          case isTrue first => exact ⟨by omega, (Option.some.inj listed).symm⟩
          case isFalse => cases listed
        subst last
        exact ⟨rest, rfl, deeper⟩
  | cons i path ih =>
    obtain ⟨tag, attributes, text, children⟩ := root
    obtain ⟨inner, listed, deeper⟩ := Option.bind_eq_some_iff.mp there
    have listed : children[i]? = some inner := listed
    cases q with
    | nil => cases missing
    | cons j rest =>
      have missing : (children[j]?).bind (·.at? rest) = none := missing
      have found : ((children.modify i (modify (addChild child) path))[j]?).bind (·.at? rest) =
          some after := found
      rw [List.getElem?_modify] at found
      by_cases same : i = j
      · subst same
        rw [listed] at missing found
        obtain ⟨more, rfl, put⟩ := ih deeper missing (by simpa using found)
        exact ⟨more, rfl, put⟩
      · simp only [if_neg same, Option.map_eq_map, Option.map_id'] at found
        exact absurd (missing.symm.trans found) nofun

/-- No element is lost when a child is put in. -/
theorem at?_eq_none_of_modify (missing : (root.modify (addChild child) path).at? q = none) :
    root.at? q = none := by
  cases old : root.at? q with
  | none => rfl
  | some n =>
    obtain ⟨_, still, -, -⟩ := at?_modify_addChild path child old
    exact absurd (missing.symm.trans still) nofun

/-- The child is where it was put, with all that is in it. -/
theorem at?_put (there : root.at? path = some node) (child : Element) (rest : List Nat) :
    (root.modify (addChild child) path).at? (path ++ node.children.length :: rest) = child.at? rest := by
  obtain ⟨after, grown, here, -⟩ := at?_modify_addChild path child there
  obtain rfl := here rfl
  have last : (node.children ++ [child])[node.children.length]? = some child := by
    rw [List.getElem?_append_right (Nat.le_refl _), Nat.sub_self]
    rfl
  rw [at?_append grown]
  show ((node.children ++ [child])[node.children.length]?).bind _ = _
  rw [last]
  rfl

theorem writable_modify {change : Element → Element} (keeps : ∀ e, e.Writable → (change e).Writable)
    (path : List Nat) (writable : root.Writable) : (root.modify change path).Writable := by
  induction path generalizing root with
  | nil => exact keeps root writable
  | cons i path ih =>
    obtain ⟨named, declares, content, inner⟩ := writable
    refine .mk named declares content fun child listed => ?_
    obtain ⟨j, found⟩ := List.mem_iff_getElem?.mp listed
    rw [List.getElem?_modify] at found
    obtain ⟨old, there, rfl⟩ := Option.map_eq_some_iff.mp found
    have writable := inner old (List.mem_of_getElem? there)
    by_cases same : i = j
    · rw [if_pos same]
      exact ih writable
    · rw [if_neg same]
      exact writable

theorem writable_addChild (child_writable : child.Writable) (writable : e.Writable) :
    (addChild child e).Writable := by
  obtain ⟨named, declares, content, inner⟩ := writable
  refine .mk named declares content fun other listed => ?_
  rcases List.mem_append.mp listed with before | last
  · exact inner other before
  · rwa [List.mem_singleton.mp last]

end Element

/-! ### Trees and what was put into them -/

/-- The scalars that were put into a tree, in order: the path of an element, the name that the scalar
has in it, and the scalar. -/
abbrev Log := List (List Nat × String × Value)

namespace Log

/-- The scalars that an element was given under a name. -/
def values (log : Log) (path : List Nat) (name : String) : List Value :=
  log.filterMap fun (place, tag, v) => if place = path ∧ tag = name then some v else none

/-- The scalars of a tree that is put in at the end of a path. -/
def under (log : Log) (path : List Nat) : Log := log.map fun (place, tag, v) => (path ++ place, tag, v)

end Log

namespace Element

/-- Trees that begin with an element and grow by children, by scalars and by other trees. Missing
values leave no trace. -/
inductive Built : Element → Log → Prop
  | new {tag : String} {uri : Option String} (named : isPlainName tag.toList)
      (declares : ∀ uri' ∈ uri, IsNamespace uri') : Built (.new tag uri) []
  | child {root node : Element} {log : Log} (path : List Nat) (tag : String) (built : Built root log)
      (there : root.at? path = some node) (named : isPlainName tag.toList) :
      Built (root.modify (addChild (.new tag)) path) log
  | scalar {root node next : Element} {log : Log} {p : Parser} {v : Value} (path : List Nat)
      (tag : String) (built : Built root log) (there : root.at? path = some node)
      (named : isPlainName tag.toList) (reads : p.Reads v)
      (put : root.appendScalar? path tag v = some next) : Built next (log ++ [(path, tag, v)])
  | missing {root next : Element} {log : Log} (path : List Nat) (tag : String) (built : Built root log)
      (put : root.appendScalar? path tag .null = some next) : Built next log
  | tree {root node inner : Element} {log more : Log} (path : List Nat) (built : Built root log)
      (there : root.at? path = some node) (inside : Built inner more) :
      Built (root.modify (addChild inner) path) (log ++ more.under (path ++ [node.children.length]))

/-- A child that a scalar was put into. -/
def Holds (child : Element) (v : Value) : Prop := child.text = some v.scalarText ∧ v.writable

/-- The scalar that a child was made for, if there was one, is in it. -/
def Origin (child : Element) (v : Option Value) : Prop := ∀ v' ∈ v, child.Holds v'

/-- What holds of a tree while it grows. -/
structure Sound (root : Element) (log : Log) : Prop where
  writable : root.Writable
  /-- Only elements that are there were given scalars. -/
  present : ∀ q name, root.at? q = none → log.values q name = []
  /-- The scalars of an element are those of its children, in order. -/
  traced : ∀ q node name, root.at? q = some node →
    ∃ origins, List.Forall₂ Origin (node.findAll name) origins ∧
      origins.reduceOption = log.values q name

end Element

namespace Log

variable {path q : List Nat} {name tag : String}

theorem values_append (log more : Log) (path : List Nat) (name : String) :
    Log.values (log ++ more) path name = log.values path name ++ Log.values more path name := by
  rw [Log.values, List.filterMap_append]
  rfl

/-- One entry, or none, tells of one name in one element. -/
theorem values_entry (v : Option Value) (place path : List Nat) (tag name : String) :
    Log.values (v.toList.map fun v' => (place, tag, v')) path name =
      if place = path ∧ tag = name then v.toList else [] := by
  cases v with
  | none => simp [Log.values]
  | some v =>
    by_cases told : place = path ∧ tag = name
    · simp [Log.values, told]
    · simp [Log.values, told]

theorem values_under (log : Log) (path q : List Nat) (name : String) :
    (log.under path).values (path ++ q) name = log.values q name := by
  rw [Log.values, Log.values, under, List.filterMap_map]
  simp only [Function.comp_def, List.append_cancel_left_eq]

theorem values_under_elsewhere (log : Log) (name : String) (elsewhere : ∀ rest, q ≠ path ++ rest) :
    (log.under path).values q name = [] := by
  rw [Log.values, under, List.filterMap_map, List.filterMap_eq_nil_iff]
  intro entry listed
  exact if_neg fun told => elsewhere entry.1 told.1.symm

end Log

namespace Element

variable {root node child e : Element} {path q : List Nat} {name tag : String} {log more : Log}

theorem forall₂_findAll {as bs : List Element} (alike : List.Forall₂ Alike as bs) (name : String) :
    List.Forall₂ Alike (as.filter fun child => child.tag == name)
      (bs.filter fun child => child.tag == name) := by
  induction alike with
  | nil => exact .nil
  | @cons first second firsts seconds same _ ih =>
    by_cases named : first.tag = name
    · have other : second.tag = name := same.1.symm.trans named
      simpa [List.filter_cons, named, other] using List.Forall₂.cons same ih
    · have other : ¬ second.tag = name := fun equal => named (same.1.trans equal)
      simpa [List.filter_cons, named, other] using ih

theorem origin_of_alike {a b : Element} (alike : Alike a b) {v : Option Value} (origin : Origin a v) :
    Origin b v := by
  intro v' given
  obtain ⟨text, writable⟩ := origin v' given
  exact ⟨alike.2.symm.trans text, writable⟩

theorem forall₂_origin_of_alike {as bs : List Element} {origins : List (Option Value)}
    (alike : List.Forall₂ Alike as bs) (traced : List.Forall₂ Origin as origins) :
    List.Forall₂ Origin bs origins := by
  induction alike generalizing origins with
  | nil => exact traced
  | cons same _ ih =>
    obtain ⟨⟩ | ⟨origin, others⟩ := traced
    exact .cons (origin_of_alike same origin) (ih others)

theorem findAll_addChild (child e : Element) (name : String) :
    (addChild child e).findAll name = e.findAll name ++ if child.tag = name then [child] else [] := by
  by_cases named : child.tag = name
  · simp [findAll, addChild, children, List.filter_append, named]
  · simp [findAll, addChild, children, List.filter_append, named]

/-- The scalars of an element with one child more. -/
theorem traced_addChild {v : Option Value} {origins : List (Option Value)} (origin : Origin child v)
    (traced : List.Forall₂ Origin (node.findAll name) origins) :
    ∃ more, List.Forall₂ Origin ((addChild child node).findAll name) more ∧
      more.reduceOption = origins.reduceOption ++ if child.tag = name then v.toList else [] := by
  rw [findAll_addChild]
  by_cases named : child.tag = name
  · rw [if_pos named, if_pos named]
    refine ⟨origins ++ [v], List.rel_append traced (.cons origin .nil), ?_⟩
    rw [List.reduceOption_append]
    cases v <;> rfl
  · rw [if_neg named, if_neg named, List.append_nil, List.append_nil]
    exact ⟨origins, traced, rfl⟩

/-- A tree grows by another one, whose root a scalar may have been put into. -/
theorem Sound.add {v : Option Value} (sound : Sound root log) (there : root.at? path = some node)
    (inner : Sound child more) (origin : Origin child v) :
    Sound (root.modify (addChild child) path)
      (log ++ ((v.toList.map fun v' => (path, child.tag, v')) ++
        more.under (path ++ [node.children.length]))) where
  writable := writable_modify (fun _ => writable_addChild inner.writable) path sound.writable
  present := by
    intro q name missing
    have before : root.at? q = none := at?_eq_none_of_modify missing
    have elsewhere : ¬ (path = q ∧ child.tag = name) := by
      rintro ⟨rfl, -⟩
      exact absurd (before.symm.trans there) nofun
    have within : (more.under (path ++ [node.children.length])).values q name = [] := by
      by_cases deeper : ∃ rest, q = path ++ [node.children.length] ++ rest
      · obtain ⟨rest, rfl⟩ := deeper
        rw [Log.values_under]
        rw [List.append_assoc, List.singleton_append, at?_put there] at missing
        exact inner.present rest name missing
      · exact Log.values_under_elsewhere more name fun rest same => deeper ⟨rest, same⟩
    rw [Log.values_append, Log.values_append, Log.values_entry, if_neg elsewhere, within,
      sound.present q name before]
    rfl
  traced := by
    intro q after name found
    rw [Log.values_append, Log.values_append, Log.values_entry]
    cases old : root.at? q with
    | none =>
      obtain ⟨rest, rfl, deeper⟩ := at?_modify_addChild_of_none there old found
      have elsewhere : ¬ (path = path ++ node.children.length :: rest ∧ child.tag = name) := by simp
      have shape : path ++ node.children.length :: rest = path ++ [node.children.length] ++ rest := by simp
      rw [if_neg elsewhere, sound.present _ name old, shape, Log.values_under]
      exact inner.traced rest after name deeper
    | some n =>
      obtain ⟨origins, traced, values⟩ := sound.traced q n name old
      obtain ⟨_, still, here, elsewhere⟩ := at?_modify_addChild path child old
      obtain rfl := Option.some.inj (still.symm.trans found)
      have outside : ∀ rest, q ≠ path ++ [node.children.length] ++ rest := by
        rintro rest rfl
        rw [List.append_assoc, at?_append there, List.singleton_append, at?,
          List.getElem?_eq_none (Nat.le_refl _)] at old
        cases old
      rw [Log.values_under_elsewhere more name outside, List.append_nil]
      by_cases same : q = path
      · subst same
        rw [here rfl, ← values]
        simpa only [true_and] using traced_addChild origin traced
      · have alike := (elsewhere same).2
        rw [if_neg (fun both => same both.1.symm), List.append_nil]
        exact ⟨origins, forall₂_origin_of_alike (forall₂_findAll alike name) traced, values⟩

theorem writable_new {uri : Option String} (named : isPlainName tag.toList)
    (declares : ∀ uri' ∈ uri, IsNamespace uri') : (Element.new tag uri).Writable := by
  refine .mk named ?_ ?_ nofun
  · cases uri with
    | none => exact .inl rfl
    | some uri =>
      show Declares (if uri.isEmpty then [] else [("xmlns", uri)])
      split
      case isTrue => exact .inl rfl
      case isFalse => exact .inr ⟨uri, rfl, declares uri rfl⟩
  · intro c inside
    cases inside

/-- A scalar is put into a tree as a child with its text, unless it is too large to have one. -/
theorem appendScalar?_eq_some_iff {next : Element} {p : Parser} {v : Value} (reads : p.Reads v) :
    root.appendScalar? path tag v = some next ↔
      v.writable ∧ root.modify (addChild (.mk tag [] (some v.scalarText) [])) path = next := by
  have present : v.isNull = false := by cases reads <;> rfl
  unfold appendScalar?
  rw [present, if_neg Bool.false_ne_true]
  by_cases writable : v.writable
  · rw [if_pos writable, Option.some_inj, and_iff_right writable]
    rfl
  · rw [if_neg writable]
    simp [writable]

theorem sound_of_childless (writable : e.Writable) (childless : e.children = []) : Sound e [] where
  writable := writable
  present := fun _ _ _ => rfl
  traced := by
    intro q node name found
    refine ⟨[], ?_, rfl⟩
    cases q with
    | nil =>
      obtain rfl := Option.some.inj found
      rw [findAll, childless, List.filter_nil]
      exact .nil
    | cons i rest =>
      rw [at?, childless] at found
      cases found

/-- Trees that are built are sound. -/
theorem sound_of_built (built : Built root log) : Sound root log := by
  have nothing (e : Element) : Origin e none := fun _ given => by cases given
  induction built with
  | new named declares => exact sound_of_childless (writable_new named declares) rfl
  | child path tag built there named ih =>
    have plain : (Element.new tag).Writable := writable_new named fun _ given => by cases given
    have grown := ih.add there (sound_of_childless plain rfl) (nothing _)
    rwa [Option.toList_none, List.map_nil, List.nil_append, Log.under, List.map_nil,
      List.append_nil] at grown
  | @scalar root node next log p v path tag built there named reads put ih =>
    obtain ⟨writable, rfl⟩ := (appendScalar?_eq_some_iff reads).mp put
    have leaf : (Element.mk tag [] (some v.scalarText) []).Writable :=
      .mk named (.inl rfl) (Parser.isContent_scalarText reads) nofun
    have origin : Origin (.mk tag [] (some v.scalarText) []) (some v) := by
      intro v' given
      obtain rfl := Option.mem_some_iff.mp given
      exact ⟨rfl, writable⟩
    have grown := ih.add there (sound_of_childless leaf rfl) origin
    rwa [Log.under, List.map_nil, List.append_nil] at grown
  | missing path tag built put ih =>
    obtain rfl := Option.some.inj put
    exact ih
  | tree path built there inside ih inner =>
    have grown := ih.add there inner (nothing _)
    rwa [Option.toList_none, List.map_nil, List.nil_append] at grown

/-- Scalars that have a text can be put in. -/
theorem Built.put {p : Parser} {v : Value} (path : List Nat) (tag : String)
    (there : root.at? path = some node) (named : isPlainName tag.toList) (reads : p.Reads v)
    (writable : v.writable) (built : Built root log) :
    Built (root.modify (addChild (.mk tag [] (some v.scalarText) [])) path)
      (log ++ [(path, tag, v)]) :=
  .scalar path tag built there named reads ((appendScalar?_eq_some_iff reads).mpr ⟨writable, rfl⟩)

/-! ### Reading what was put in -/

/-- The children of a name are those that these scalars were put into. -/
def Wrote (log : Log) (path : List Nat) (node : Element) (name : String) (vs : List Value) : Prop :=
  log.values path name = vs ∧ (node.findAll name).length = vs.length

/-- The children are entries, each with a key and a value that were put into it. -/
def WroteEntries (log : Log) (path : List Nat) (node : Element) (pairs : List (Value × Value)) : Prop :=
  node.children.length = pairs.length ∧
    ∀ i entry pair, node.children[i]? = some entry → pairs[i]? = some pair →
      Wrote log (path ++ [i]) entry "key" [pair.1] ∧ Wrote log (path ++ [i]) entry "value" [pair.2]

variable {p : Parser} {v : Value} {vs : List Value}

theorem forall₂_holds {children : List Element} {origins : List (Option Value)}
    (traced : List.Forall₂ Origin children origins)
    (all : children.length = origins.reduceOption.length) :
    List.Forall₂ Holds children origins.reduceOption := by
  induction traced with
  | nil => exact .nil
  | @cons child origin children origins first others ih =>
    cases origin with
    | none =>
      -- one of the children has no scalar, so there are too few of them
      have fewer := List.reduceOption_length_le origins
      have same := others.length_eq
      rw [List.reduceOption_cons_of_none, List.length_cons] at all
      omega
    | some v =>
      rw [List.reduceOption_cons_of_some, List.length_cons, List.length_cons] at all
      rw [List.reduceOption_cons_of_some]
      exact .cons (first v rfl) (ih (by omega))

theorem Sound.holds (sound : Sound root log) (there : root.at? path = some node)
    (wrote : Wrote log path node name vs) : List.Forall₂ Holds (node.findAll name) vs := by
  obtain ⟨origins, traced, values⟩ := sound.traced path node name there
  obtain ⟨rfl, count⟩ := wrote
  rw [← values] at count ⊢
  exact forall₂_holds traced count

theorem ofElement_of_holds (reads : p.Reads v) (holds : child.Holds v) : p.ofElement child.bare = .ok v := by
  have text : child.bare.text.getD "" = v.scalarText := by
    rw [text_bare, holds.1]
    rfl
  have scalar : p.ofElement child.bare = p.ofText (child.bare.text.getD "") := by
    cases reads <;> rfl
  rw [scalar, text, Parser.ofText_scalarText reads holds.2]

theorem mapM_ofElement {children : List Element} (reads : ∀ v ∈ vs, p.Reads v)
    (holds : List.Forall₂ Holds children vs) : (children.map bare).mapM p.ofElement = .ok vs := by
  rw [Except.mapM_eq_ok_iff, List.forall₂_map_left_iff]
  induction holds with
  | nil => exact .nil
  | @cons child v children vs first _ ih =>
    exact .cons (ofElement_of_holds (reads v List.mem_cons_self) first)
      (ih fun other listed => reads other (List.mem_cons_of_mem v listed))

theorem Sound.only_child (sound : Sound root log) (there : root.at? path = some node)
    (wrote : Wrote log path node name [v]) : ∃ child, node.findAll name = [child] ∧ child.Holds v := by
  obtain ⟨child, _, holds, none, only⟩ := List.forall₂_cons_right_iff.mp (sound.holds there wrote)
  rw [List.forall₂_nil_right_iff.mp none] at only
  exact ⟨child, only, holds⟩

theorem find?_bare (name : String) (e : Element) : e.bare.find? name = (e.find? name).map bare := by
  rw [find?_eq_head?, find?_eq_head?, findAll_bare, List.head?_map]

/-- The only child of a name is found, and it is read as the scalar that was put into it. -/
theorem Sound.found (sound : Sound root log) (there : root.at? path = some node)
    (wrote : Wrote log path node name [v]) (reads : p.Reads v) :
    ∃ child, node.bare.find? name = some child ∧ p.ofElement child = .ok v := by
  obtain ⟨child, only, holds⟩ := sound.only_child there wrote
  refine ⟨child.bare, ?_, ofElement_of_holds reads holds⟩
  rw [find?_bare, find?_eq_head?, only]
  rfl

theorem find?_eq_none_iff (name : String) (e : Element) : e.find? name = none ↔ e.findAll name = [] := by
  rw [find?_eq_head?, List.head?_eq_none_iff]

/-- The children that were written as the entries of a map are its entries, in order. -/
theorem Sound.entries_found {q : Parser} (sound : Sound root log) (there : root.at? path = some node)
    {pairs : List (Value × Value)} (wrote : WroteEntries log path node pairs)
    (reads : ∀ pair ∈ pairs, p.Reads pair.1 ∧ q.Reads pair.2) :
    List.Forall₂ (fun e pair => (∃ key, e.find? "key" = some key ∧ p.ofElement key = .ok pair.1) ∧
      ∃ v, e.find? "value" = some v ∧ q.ofElement v = .ok pair.2) (node.children.map bare) pairs := by
  obtain ⟨count, each⟩ := wrote
  rw [List.forall₂_map_left_iff, List.forall₂_iff_get]
  refine ⟨count, fun i inside inPairs => ?_⟩
  have entry : node.children[i]? = some (node.children.get ⟨i, inside⟩) :=
    List.getElem?_eq_getElem inside
  have pair : pairs[i]? = some (pairs.get ⟨i, inPairs⟩) := List.getElem?_eq_getElem inPairs
  have inTree : root.at? (path ++ [i]) = some (node.children.get ⟨i, inside⟩) := by
    rw [at?_append there, at?, entry]
    rfl
  obtain ⟨key, v⟩ := each i _ _ entry pair
  obtain ⟨keyReads, valueReads⟩ := reads _ (List.get_mem pairs ⟨i, inPairs⟩)
  exact ⟨sound.found inTree key keyReads, sound.found inTree v valueReads⟩

/-- Entries whose keys are distinct are read one after the other. -/
theorem entries_eq_ok {parseKey parseValue : Element → Except AccessError Value} {children : List Element}
    {pairs : List (Value × Value)} (tag : String) (done : List (Value × Value))
    (each : List.Forall₂ (fun e pair => (∃ key, e.find? "key" = some key ∧ parseKey key = .ok pair.1) ∧
      ∃ v, e.find? "value" = some v ∧ parseValue v = .ok pair.2) children pairs)
    (keys : ∀ pair ∈ pairs, pair.1.isKey)
    (distinct : (done ++ pairs).Pairwise fun first second => Value.sameKey first.1 second.1 = false) :
    children.foldlM (entry tag parseKey parseValue) done = .ok (done ++ pairs) := by
  induction each generalizing done with
  | nil =>
    rw [List.append_nil]
    rfl
  | @cons e pair children pairs first _ ih =>
    obtain ⟨⟨key, keyFound, keyRead⟩, v, valueFound, valueRead⟩ := first
    have fresh : ∀ old ∈ done, Value.sameKey old.1 pair.1 = false := fun old inside =>
      (List.pairwise_append.mp distinct).2.2 old inside pair List.mem_cons_self
    have put : entry tag parseKey parseValue done e = .ok (done ++ [pair]) := by
      unfold entry
      rw [keyFound, valueFound]
      simp only [valueRead, keyRead, Except.ok_bind]
      rw [Value.insertKey, if_pos (keys pair List.mem_cons_self),
        Payload.insertEntry_of_fresh fresh]
      rfl
    have later := ih (done ++ [pair]) (fun other inside => keys other (List.mem_cons_of_mem _ inside))
      (by simpa using distinct)
    rw [List.foldlM_cons, put, Except.ok_bind, later, List.append_assoc, List.singleton_append]

/-- What reading makes of an element of a tree that was built. -/
structure ReadBack (log : Log) (path : List Nat) (node back : Element) : Prop where
  tag : back.tag = node.tag
  text : back.text.getD "" = node.text.getD ""
  children : back.children.map Element.tag = node.children.map Element.tag
  required : ∀ (name : String) (p : Parser) (v : Value), Wrote log path node name [v] → p.Reads v →
    Element.required (some back) name p.ofElement = .ok v
  optional : ∀ (name : String) (p : Parser) (v : Value), Wrote log path node name [v] → p.Reads v →
    Element.optional (some back) name p.ofElement = .ok (some v)
  absent : ∀ (name : String) (p : Parser), node.findAll name = [] →
    Element.optional (some back) name p.ofElement = .ok none
  flattened : ∀ (name : String) (p : Parser) (vs : List Value), vs ≠ [] → Wrote log path node name vs →
    (∀ v ∈ vs, p.Reads v) → Element.flattened (some back) name p.ofElement = .ok (some vs)
  flattened_none : ∀ (name : String) (p : Parser),
    Element.flattened (some back) name p.ofElement = .ok none ↔ node.findAll name = []
  items : ∀ (name : String) (p : Parser) (vs : List Value), Wrote log path node name vs →
    (∀ v ∈ vs, p.Reads v) → back.items name p.ofElement = .ok vs
  entries : ∀ (p q : Parser) (pairs : List (Value × Value)), WroteEntries log path node pairs →
    (∀ pair ∈ pairs, p.Reads pair.1 ∧ q.Reads pair.2) → (pairs.map (·.1)).Nodup →
    back.entries p.ofElement q.ofElement = .ok pairs

theorem Sound.readBack (sound : Sound root log) (there : root.at? path = some node) :
    ReadBack log path node node.bare where
  tag := tag_bare node
  text := text_bare node
  children := by
    rw [children_bare, List.map_map]
    exact List.map_congr_left fun child _ => tag_bare child
  required := by
    intro name p v wrote reads
    obtain ⟨child, found, read⟩ := sound.found there wrote reads
    unfold Element.required
    simp only [found]
    exact read
  optional := by
    intro name p v wrote reads
    obtain ⟨child, found, read⟩ := sound.found there wrote reads
    unfold Element.optional
    rw [Option.bind_some, found]
    show (p.ofElement child).map some = _
    rw [read]
    rfl
  absent := by
    intro name p none
    unfold Element.optional
    rw [Option.bind_some, find?_bare, (find?_eq_none_iff name node).mpr none]
    rfl
  flattened := by
    intro name p vs some wrote reads
    have holds := sound.holds there wrote
    have read := mapM_ofElement reads holds
    have found : ¬ ((node.findAll name).map bare).isEmpty := by
      rw [List.isEmpty_iff, List.map_eq_nil_iff]
      intro none
      rw [none] at holds
      exact some (List.forall₂_nil_left_iff.mp holds)
    unfold Element.flattened
    simp only [findAll_bare, if_neg found, read]
    rfl
  flattened_none := by
    intro name p
    unfold Element.flattened
    simp only [findAll_bare, List.isEmpty_iff, List.map_eq_nil_iff]
    by_cases none : node.findAll name = []
    · simp [none]
    · rw [if_neg none]
      simp [none, Except.map_eq_ok_iff]
  items := by
    intro name p vs wrote reads
    rw [Element.items, findAll_bare]
    exact mapM_ofElement reads (sound.holds there wrote)
  entries := by
    intro p q pairs wrote reads distinct
    rw [Element.entries, children_bare]
    refine entries_eq_ok _ [] (sound.entries_found there wrote reads) ?_ ?_
    · intro pair listed
      exact Parser.isKey_of_reads (reads pair listed).1
    · rw [List.nil_append]
      exact Parser.keys_apart (fun pair listed => (reads pair listed).1) distinct

/-- A document of a tree that was built is read as a tree of the same tags and texts, and the parsers
of scalars, of lists and of maps make of it what was put in. A missing value leaves the tree as it
is. -/
theorem built_read_back (built : Built root log) :
    (∃ got, Element.read (Text.utf8Encode root.write) = .ok got ∧
      ∀ path node, root.at? path = some node →
        ∃ back, got.at? path = some back ∧ ReadBack log path node back) ∧
    ∀ path tag, root.appendScalar? path tag .null = some root := by
  have sound := sound_of_built built
  refine ⟨⟨root.bare, read_write sound.writable, ?_⟩, fun path tag => rfl⟩
  intro path node there
  refine ⟨node.bare, ?_, sound.readBack there⟩
  rw [at?_bare, there]
  rfl

/-- A tree with a namespace, a text of markup characters, a list and a map. -/
def tagging : Element :=
  .mk "Tagging" [("xmlns", "http://example.com/doc/")] none [
    .mk "Name" [] (some "<a> & b") [],
    .mk "Items" [] none [.mk "member" [] (some "1") [], .mk "member" [] (some "-2") []],
    .mk "Flags" [] none [
      .mk "entry" [] none [.mk "key" [] (some "on") [], .mk "value" [] (some "true") []]]]

def taggingLog : Log := [
  ([], "Name", .str "<a> & b"), ([1], "member", .int 1), ([1], "member", .int (-2)),
  ([2, 0], "key", .str "on"), ([2, 0], "value", .bool true)]

theorem built_tagging : Built tagging taggingLog := by
  have isNamespace : IsNamespace "http://example.com/doc/" :=
    ⟨by decide +kernel, by decide +kernel, by decide +kernel⟩
  have start : Built (.new "Tagging" (some "http://example.com/doc/")) [] := by
    refine .new (by decide +kernel) fun uri given => ?_
    obtain rfl := Option.mem_some_iff.mp given
    exact isNamespace
  have name : Parser.Reads .text (.str "<a> & b") := .text (by decide +kernel)
  have key : Parser.Reads .text (.str "on") := .text (by decide +kernel)
  have one := start.put [] "Name" rfl (by decide +kernel) name rfl
  have two := Built.child [] "Items" one rfl (by decide +kernel)
  have three := two.put [1] "member" rfl (by decide +kernel) (.integer 1) (by decide +kernel)
  have four := three.put [1] "member" rfl (by decide +kernel) (.integer (-2)) (by decide +kernel)
  have five := Built.child [] "Flags" four rfl (by decide +kernel)
  have six := Built.child [2] "entry" five rfl (by decide +kernel)
  have seven := six.put [2, 0] "key" rfl (by decide +kernel) key rfl
  exact seven.put [2, 0] "value" rfl (by decide +kernel) (.boolean true) rfl

theorem built_read_back_tagging : ∃ got, Element.read (Text.utf8Encode tagging.write) = .ok got ∧
    Element.required (some got) "Name" Parser.text.ofElement = .ok (.str "<a> & b") ∧
    Element.optional (some got) "Missing" Parser.text.ofElement = .ok none ∧
    (∃ items, got.at? [1] = some items ∧
      items.items "member" Parser.integer.ofElement = .ok [.int 1, .int (-2)]) ∧
    ∃ flags, got.at? [2] = some flags ∧
      flags.entries Parser.text.ofElement Parser.boolean.ofElement = .ok [(.str "on", .bool true)] := by
  obtain ⟨⟨got, read, back⟩, -⟩ := built_read_back built_tagging
  obtain ⟨root, there, top⟩ := back [] tagging rfl
  obtain ⟨items, itemsThere, list⟩ := back [1] _ rfl
  obtain ⟨flags, flagsThere, map⟩ := back [2] _ rfl
  obtain rfl := Option.some.inj there
  refine ⟨got, read, ?_, ?_, ⟨items, itemsThere, ?_⟩, flags, flagsThere, ?_⟩
  · exact top.required "Name" .text (.str "<a> & b") ⟨rfl, rfl⟩ (.text (by decide +kernel))
  · exact top.absent "Missing" .text rfl
  · apply list.items "member" .integer _ ⟨rfl, rfl⟩
    rintro v (_ | ⟨_, _ | ⟨_, ⟨⟩⟩⟩)
    · exact .integer 1
    · exact .integer (-2)
  · apply map.entries .text .boolean
    · refine ⟨rfl, ?_⟩
      rintro (_ | i) entry pair here written
      · obtain rfl := Option.some.inj here
        obtain rfl := Option.some.inj written
        exact ⟨⟨rfl, rfl⟩, rfl, rfl⟩
      · cases written
    · intro pair listed
      obtain rfl := List.mem_singleton.mp listed
      exact ⟨.text (by decide +kernel), .boolean true⟩
    · exact List.nodup_cons.mpr ⟨List.not_mem_nil, List.nodup_nil⟩

end Element

end ServiceClient.Xml
