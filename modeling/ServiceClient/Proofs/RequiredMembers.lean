import ServiceClient.Module.Declaration
import ServiceClient.Module.XmlCodec
import ServiceClient.Proofs.Outcome
import ServiceClient.Xml.Access

/-!
What readers make of a required member that an element does not hold. A member with an element of its
own is an error where that element is missing. A list whose items stand directly in the element of
the structure is read without a look at whether it is required: where it has no items, there is no
value for its field.
-/

namespace ServiceClient

namespace Xml.Parser

theorem number_ne_null {α : Type} {make : α → Value} (values : ∀ a, make a ≠ .null)
    (read? : List Char → Option α) (s : String) : number make read? s ≠ .ok .null := by
  unfold number
  split
  · simp [values]
  · simp

/-- What is read from a text is there. -/
theorem ofText_ne_null (parser : Parser) (s : String) : parser.ofText s ≠ .ok .null := by
  cases parser with
  | text | boolean | items => simp [ofText]
  | integer | floating =>
    rw [ofText, ne_eq, Except.mapError_eq_ok_iff]
    exact number_ne_null (by simp) _ _
  | blob => simp [ofText, Except.mapError_eq_ok_iff]
  | entries key v =>
    rw [ofText]
    split <;> simp

/-- What is read from an element is there. -/
theorem ofElement_ne_null (parser : Parser) (e : Element) : parser.ofElement e ≠ .ok .null := by
  cases parser with
  | items | entries => simp [ofElement]
  | text | integer | floating | boolean | blob => exact ofText_ne_null _ _

end Xml.Parser

/-- The readers that a module has for shapes, by their names. -/
abbrev Readers := String → Xml.Element → Except Xml.AccessError Value

/-- Readers give values that are there, if any. -/
def Readers.GiveValues (readers : Readers) : Prop :=
  ∀ function e, readers function e ≠ .ok .null

/-- What a parser makes of an element, with the readers of its module. -/
def Parser.read (readers : Readers) : Parser → Xml.Element → Except Xml.AccessError Value
  | text => Xml.Parser.text.ofElement
  | integer => Xml.Parser.integer.ofElement
  | floating => Xml.Parser.floating.ofElement
  | boolean => Xml.Parser.boolean.ofElement
  | blob => Xml.Parser.blob.ofElement
  | reader function => readers function

theorem Parser.read_ne_null {readers : Readers} (give : readers.GiveValues) (parser : Parser)
    (e : Xml.Element) : parser.read readers e ≠ .ok .null := by
  cases parser with
  | reader function => exact give function e
  | text | integer | floating | boolean | blob => exact Xml.Parser.ofElement_ne_null _ e

namespace Accessor

variable {readers : Readers} {node : Option Xml.Element} {tag : String} {parser : Parser}

/-- The value of a member that is read from an element; null stands for none. -/
def ofElement? (readers : Readers) (node : Option Xml.Element) :
    Accessor → Option (Except Xml.AccessError Value)
  | payload parser => some ((Xml.Element.payload node (parser.read readers)).map (·.getD .null))
  | flattened tag parser =>
    some ((Xml.Element.flattened node tag (parser.read readers)).map fun items =>
      (items.map Value.list).getD .null)
  | required tag parser => some (Xml.Element.required node tag (parser.read readers))
  | optional tag parser =>
    some ((Xml.Element.optional node tag (parser.read readers)).map (·.getD .null))
  | header .. | headers _ | status | bodyOctets | bodyText => none

/-- The children that an accessor looks for. -/
def found (node : Option Xml.Element) : Accessor → List Xml.Element
  | flattened tag _ | required tag _ | optional tag _ => (node.map (·.findAll tag)).getD []
  | header .. | headers _ | status | bodyOctets | bodyText | payload _ => []

/-- A child that has to be there is there, or there is an error. -/
theorem required_ne_null (give : readers.GiveValues) :
    Xml.Element.required node tag (parser.read readers) ≠ .ok .null := by
  unfold Xml.Element.required
  split
  · simp
  · split
    · simp
    · exact parser.read_ne_null give _

/-- A list that stands flat is there if it has an item. -/
theorem flattened_eq_null_iff :
    (flattened tag parser).ofElement? readers node = some (.ok .null) ↔
      (flattened tag parser).found node = [] := by
  rw [ofElement?, found, Option.some.injEq, Except.map_eq_ok_iff]
  cases node with
  | none => simp [Xml.Element.flattened]
  | some e =>
    rw [Xml.Element.flattened, Option.map_some, Option.getD_some]
    cases items : e.findAll tag with
    | nil => simp
    | cons first rest =>
      simp only [List.isEmpty_cons, Bool.false_eq_true, if_false, Except.map_eq_ok_iff,
        reduceCtorEq, iff_false]
      rintro ⟨_, ⟨values, -, rfl⟩, null⟩
      cases null

end Accessor

namespace Service

variable {service : Service} {shape : Shape} {name : String} {member : Member}

/-- A required member in the element of its structure stands flat, or it has to be there. -/
theorem accessor_of_required {style : ReaderStyle} {made : Accessor}
    (needed : shape.requires name = true) (inside : member.location ∉ outsideBody)
    (shared : shape.payload ≠ .str name)
    (reads : service.accessor style shape name member = .ok made) :
    ∃ tag parser, (service.standsFlat member = .ok true ∧ made = .flattened tag parser) ∨
      (service.standsFlat member = .ok false ∧ made = .required tag parser) := by
  simp only [outsideBody, List.mem_cons, List.not_mem_nil, or_false, not_or] at inside
  obtain ⟨-, -, header, headers, status⟩ := inside
  -- the member is in none of the places that are tried before the element
  simp only [accessor, header, headers, status, shared, decide_false, Bool.and_false,
    Bool.false_eq_true, if_false] at reads
  simp only [elementAccessor, Except.bind_eq_ok_iff, needed, if_true] at reads
  obtain ⟨flat, stands, reads⟩ := reads
  cases flat with
  | true =>
    simp only [if_true, Except.bind_eq_ok_iff, Except.pure_eq_ok_iff] at reads
    obtain ⟨_, -, _, -, _, -, parser, -, rfl⟩ := reads
    exact ⟨_, parser, .inl ⟨stands, rfl⟩⟩
  | false =>
    simp only [Bool.false_eq_true, if_false, Except.bind_eq_ok_iff, Except.pure_eq_ok_iff] at reads
    obtain ⟨parser, -, rfl⟩ := reads
    exact ⟨_, parser, .inr ⟨stands, rfl⟩⟩

/-- A required member in the element of its structure has no value, without an error, just where it
is a list that stands flat and there is no element for it. -/
theorem required_missing_iff {style : ReaderStyle} {made : Accessor} {readers : Readers}
    (give : readers.GiveValues) (needed : shape.requires name = true)
    (inside : member.location ∉ outsideBody) (shared : shape.payload ≠ .str name)
    (reads : service.accessor style shape name member = .ok made) (node : Option Xml.Element) :
    ∃ flat outcome, service.standsFlat member = .ok flat ∧
      made.ofElement? readers node = some outcome ∧
      (outcome = .ok .null ↔ flat = true ∧ made.found node = []) := by
  obtain ⟨tag, parser, ⟨stands, rfl⟩ | ⟨stands, rfl⟩⟩ :=
    accessor_of_required needed inside shared reads
  · have missing : (Accessor.flattened tag parser).ofElement? readers node = some (.ok .null) ↔
        (Accessor.flattened tag parser).found node = [] := Accessor.flattened_eq_null_iff
    refine ⟨true, _, stands, rfl, ?_⟩
    rw [← missing, eq_self, true_and]
    exact Option.some_inj.symm
  · refine ⟨false, _, stands, rfl, ?_⟩
    simpa using Accessor.required_ne_null give

/-- A reply with the lines of a note, each in an element of its own. -/
def linesReply : Shape where
  name := "Reply"
  type := .str "structure"
  required := [.str "Lines"]
  members := [("Lines", { shape := .str "LineList" })]

def noteLines : Service where
  metadata := { protocol := .str "rest-xml", fullName := .str "Notes" }
  shapes := [
    ("Reply", linesReply),
    ("LineList", {
      name := "LineList", type := .str "list", flattened := true
      member := some { shape := .str "Text", locationName := .str "Line" } }),
    ("Text", { name := "Text", type := .str "string" })]

/-- A reply without lines, or none at all, has no value for its lines, which the record requires. -/
theorem required_list_missing :
    ∃ fields made, noteLines.fields ⟨.restXml, {}⟩ linesReply false = .ok fields ∧
      fields.map (fun field => (field.name, field.annotation)) = [("lines", "LineList")] ∧
      noteLines.accessor ⟨true, false⟩ linesReply "Lines" { shape := .str "LineList" } = .ok made ∧
      made.expression = "_xml.flattened(node, \"Line\", _xml.text)" ∧
      ∀ readers, made.ofElement? readers (some (.mk "Reply" [] none [])) = some (.ok .null) ∧
        made.ofElement? readers none = some (.ok .null) := by
  have reads : noteLines.accessor ⟨true, false⟩ linesReply "Lines" { shape := .str "LineList" } =
      .ok (.flattened "Line" .text) := by decide +kernel
  refine ⟨_, _, rfl, by decide +kernel, reads, by decide +kernel, ?_⟩
  intro readers
  exact ⟨Accessor.flattened_eq_null_iff.mpr rfl, Accessor.flattened_eq_null_iff.mpr rfl⟩

end Service

end ServiceClient
