import ServiceClient.Module.Source
import ServiceClient.Proofs.Description
import ServiceClient.Proofs.References

/-!
What it takes to lay out the section of a shape. A declaration needs a kind and the parts of that
kind. A reader or a writer looks references up, and what it looks up is what its shape leads to, so
it is made whenever the shape is complete and nothing that it leads to is broken.
-/

namespace ServiceClient

open Layout

/-- A shape has one of the kinds that can be declared, with the parts of that kind. -/
structure Shape.Declarable (shape : Shape) : Prop where
  known : shape.kind?.isSome
  complete : shape.Complete

/-- A fault of a shape itself: its kind is not known, or a part of it is not there. -/
inductive Fault.OfShape : Fault → Prop where
  | unknownKind (type : Json) (shape : String) : OfShape (.unknownKind type shape)
  | noListMember (shape : String) : OfShape (.noListMember shape)
  | noMapKey (shape : String) : OfShape (.noMapKey shape)
  | noMapValue (shape : String) : OfShape (.noMapValue shape)

/-! ### Texts -/

theorem Settings.documentation_succeeds (settings : Settings) {text : Json}
    (optional : isOptionalText text) :
    ∃ documentation, settings.documentation text = .ok documentation := by
  rcases isOptionalText_iff.mp optional with rfl | ⟨s, rfl⟩
  · exact ⟨none, rfl⟩
  · unfold Settings.documentation
    split
    · exact ⟨_, rfl⟩
    · exact ⟨_, rfl⟩

theorem typeName_succeeds {reference : Json} (isText : isText reference) :
    ∃ type, reference.typeName = .ok type := by
  obtain ⟨name, rfl⟩ := isText_iff.mp isText
  exact ⟨_, rfl⟩

theorem Shape.wholeBody?_succeeds {shape : Shape} (typed : shape.Typed) :
    ∃ whole, shape.wholeBody? = .ok whole := by
  rcases isOptionalText_iff.mp typed.payload with payload | ⟨s, payload⟩
  · exact ⟨none, by simp [Shape.wholeBody?, payload]⟩
  · exact ⟨_, by simp only [Shape.wholeBody?, payload]; rfl⟩

theorem Member.formName_succeeds {member : Member} (typed : member.Typed) (ec2 : Bool)
    (name : String) : ∃ key, member.formName ec2 name = .ok key := by
  unfold Member.formName
  split
  · unfold Member.capitalizedKey
    split
    · exact ⟨_, rfl⟩
    · unfold Member.nameAt Json.orElse
      split
      case isTrue present =>
        obtain ⟨s, isText⟩ := isText_iff.mp (isText_of_isOptionalText typed.locationName present)
        exact ⟨Naming.capitalize s, by rw [isText]; rfl⟩
      case isFalse => exact ⟨_, rfl⟩
  · exact ⟨_, rfl⟩

theorem Shape.part_of_complete {shape : Shape} {slot : Option Member} (present : slot.isSome) :
    ∃ member, shape.part slot = .ok member ∧ slot = some member := by
  obtain ⟨member, rfl⟩ := Option.isSome_iff_exists.mp present
  exact ⟨member, rfl, rfl⟩

theorem Shape.elementShape_of_complete {shape : Shape} (complete : shape.Complete)
    (kind : shape.kind? = some .list) : ∃ reference, shape.elementShape = .ok reference := by
  obtain ⟨element, present⟩ := Option.isSome_iff_exists.mp (complete.element kind)
  exact ⟨element.shape, by simp [Shape.elementShape, present]⟩

theorem Shape.keyShape_of_complete {shape : Shape} (complete : shape.Complete)
    (kind : shape.kind? = some .map) : ∃ reference, shape.keyShape = .ok reference := by
  obtain ⟨key, present⟩ := Option.isSome_iff_exists.mp (complete.key kind)
  exact ⟨key.shape, by simp [Shape.keyShape, present]⟩

theorem Shape.valueShape_of_complete {shape : Shape} (complete : shape.Complete)
    (kind : shape.kind? = some .map) : ∃ reference, shape.valueShape = .ok reference := by
  obtain ⟨value, present⟩ := Option.isSome_iff_exists.mp (complete.value kind)
  exact ⟨value.shape, by simp [Shape.valueShape, present]⟩

namespace Service

variable {service : Service}

/-! ### Looking up -/

theorem memberKind?_succeeds (service : Service) {member : Member} (typed : member.Typed) :
    ∃ kind, service.memberKind? member = .ok kind := by
  obtain ⟨name, reference⟩ := isText_iff.mp typed.shape
  exact ⟨_, by simp only [memberKind?, shape?, reference, Except.ok_bind]; rfl⟩

theorem kindOf_of_defines {reference : Json} {shape : Shape}
    (defines : service.Defines reference shape) : service.kindOf reference = .ok shape.kind? := by
  simp [kindOf, shape_eq_ok_iff.mpr defines]

/-- Everything that a shape leads to can be followed. -/
def Sound (service : Service) (shape : Shape) : Prop :=
  ∀ target, service.Leads shape target → ¬ service.Broken target

theorem Sound.defines {shape : Shape} (sound : service.Sound shape) {target : Json}
    (leads : service.Leads shape target) :
    ∃ other, service.Defines target other ∧ other.Complete :=
  not_not.mp (sound target leads)

theorem parserOf_succeeds {reference : Json} {shape : Shape}
    (defines : service.Defines reference shape) :
    ∃ parser, service.parserOf reference = .ok parser := by
  obtain ⟨name, rfl, -⟩ := id defines
  simp only [parserOf, kindOf_of_defines defines, Except.ok_bind]
  split
  · exact ⟨_, rfl⟩
  · exact ⟨_, rfl⟩

theorem hasParts_succeeds {reference : Json} {shape : Shape}
    (defines : service.Defines reference shape) : ∃ parts, service.hasParts reference = .ok parts :=
  ⟨_, by simp only [hasParts, kindOf_of_defines defines]; rfl⟩

/-- A flat member's list, its element and that element's shape. -/
theorem flat_parts {shape : Shape} (sound : service.Sound shape)
    (kind : shape.kind? = some .struct) {name : String} {member : Member}
    (inside : (name, member) ∈ shape.members) (flat : service.standsFlat member = .ok true) :
    ∃ list part element elementShape, service.shape member.shape = .ok list ∧
      list.part list.member = .ok part ∧ list.elementShape = .ok element ∧
      service.Defines element elementShape := by
  obtain ⟨list, defines, isFlat⟩ := standsFlat_eq_ok_iff.mp flat
  have isList : list.kind? = some .list := by
    simp only [Bool.and_eq_true, decide_eq_true_eq] at isFlat
    exact isFlat.1
  obtain ⟨other, definesOther, complete⟩ := sound.defines (leads_of_refersTo (.member kind inside))
  obtain rfl := defines_unique defines definesOther
  obtain ⟨part, partGiven, -⟩ := list.part_of_complete (complete.element isList)
  obtain ⟨element, given⟩ := Shape.elementShape_of_complete complete isList
  obtain ⟨elementShape, definesElement, -⟩ :=
    sound.defines (leads_of_flat kind inside flat defines given)
  exact ⟨list, part, element, elementShape, shape_eq_ok_iff.mpr defines, partGiven, given,
    definesElement⟩

theorem standsFlat_succeeds {member : Member} {shape : Shape}
    (defines : service.Defines member.shape shape) : ∃ flat, service.standsFlat member = .ok flat :=
  ⟨_, standsFlat_eq_ok_iff.mpr ⟨shape, defines, rfl⟩⟩

/-! ### Readers -/

section Codecs

variable {shape : Shape} (typed : shape.Typed) (complete : shape.Complete)
  (sound : service.Sound shape)

include sound in
theorem elementAccessor_succeeds (ec2 : Bool) (kind : shape.kind? = some .struct) {name : String}
    {member : Member} (inside : (name, member) ∈ shape.members) :
    ∃ accessor, service.elementAccessor ec2 shape name member = .ok accessor := by
  obtain ⟨target, defines, -⟩ := sound.defines (leads_of_refersTo (.member kind inside))
  obtain ⟨flat, flatDone⟩ := standsFlat_succeeds defines
  obtain ⟨own, ownDone⟩ := parserOf_succeeds defines
  cases flat with
  | true =>
    obtain ⟨list, part, element, elementShape, listDone, partDone, elementDone, definesElement⟩ :=
      flat_parts sound kind inside flatDone
    obtain ⟨parser, parserDone⟩ := parserOf_succeeds definesElement
    exact ⟨_, by
      simp only [elementAccessor, flatDone, Except.ok_bind, if_true, listDone, partDone, elementDone,
        parserDone]
      rfl⟩
  | false => exact ⟨_, by simp only [elementAccessor, flatDone, Except.ok_bind, ownDone]; rfl⟩

include sound in
theorem accessor_succeeds (style : ReaderStyle) (kind : shape.kind? = some .struct) {name : String}
    {member : Member} (inside : (name, member) ∈ shape.members) :
    ∃ accessor, service.accessor style shape name member = .ok accessor := by
  obtain ⟨target, defines, -⟩ := sound.defines (leads_of_refersTo (.member kind inside))
  obtain ⟨parser, parserDone⟩ := parserOf_succeeds defines
  have kindDone := memberKind?_of_defines defines
  have payload : ∃ accessor, service.payloadAccessor member = .ok accessor := by
    simp only [payloadAccessor, kindDone, Except.ok_bind, parserDone]
    split
    · exact ⟨_, rfl⟩
    · exact ⟨_, rfl⟩
    · exact ⟨_, rfl⟩
  unfold Service.accessor
  simp only [kindDone, Except.ok_bind]
  split
  · exact ⟨_, rfl⟩
  split
  · exact ⟨_, rfl⟩
  split
  · exact ⟨_, rfl⟩
  split
  · exact payload
  · exact elementAccessor_succeeds sound style.ec2 kind inside

include complete sound in
theorem xmlReader?_succeeds (style : ReaderStyle) (type : String) :
    ∃ reader, service.xmlReader? style type shape = .ok reader := by
  unfold Service.xmlReader?
  split
  case h_1 kind =>
    have fields : ∃ fields, service.readerFields style shape = .ok fields := by
      refine Except.mapM_succeeds_iff.mpr ?_
      rintro ⟨name, member⟩ inside
      obtain ⟨accessor, done⟩ :=
        accessor_succeeds sound style kind (List.mem_of_mem_filter inside)
      exact ⟨_, by simp only [done, Except.ok_bind]; rfl⟩
    obtain ⟨fields, done⟩ := fields
    exact ⟨_, by simp only [done, Except.ok_bind]; rfl⟩
  case h_2 kind =>
    obtain ⟨element, elementDone, present⟩ := shape.part_of_complete (complete.element kind)
    obtain ⟨target, defines, -⟩ := sound.defines (leads_of_refersTo (.element kind present))
    obtain ⟨parser, parserDone⟩ := parserOf_succeeds defines
    exact ⟨_, by simp only [elementDone, Except.ok_bind, parserDone]; rfl⟩
  case h_3 kind =>
    obtain ⟨key, keyDone⟩ := Shape.keyShape_of_complete complete kind
    obtain ⟨value, valueDone⟩ := Shape.valueShape_of_complete complete kind
    obtain ⟨refersKey, refersValue⟩ :=
      Shape.refersTo_of_keyShape_of_valueShape kind keyDone valueDone
    obtain ⟨keyTarget, definesKey, -⟩ := sound.defines (leads_of_refersTo refersKey)
    obtain ⟨valueTarget, definesValue, -⟩ := sound.defines (leads_of_refersTo refersValue)
    obtain ⟨keyParser, keyParserDone⟩ := parserOf_succeeds definesKey
    obtain ⟨valueParser, valueParserDone⟩ := parserOf_succeeds definesValue
    exact ⟨_, by
      simp only [keyDone, valueDone, Except.ok_bind, keyParserDone, valueParserDone]; rfl⟩
  case h_4 => exact ⟨none, rfl⟩

/-! ### Writers -/

omit typed complete sound in
theorem elementWrite_succeeds {reference : Json} {target : Shape}
    (defines : service.Defines reference target) (tag : String) :
    ∃ write, service.elementWrite reference tag = .ok write := by
  obtain ⟨parts, done⟩ := hasParts_succeeds defines
  obtain ⟨name, rfl, -⟩ := defines
  simp only [elementWrite, done, Except.ok_bind]
  split
  · exact ⟨_, rfl⟩
  · exact ⟨_, rfl⟩

include sound in
theorem writerField_succeeds (kind : shape.kind? = some .struct) {name : String} {member : Member}
    (inside : (name, member) ∈ shape.members) :
    ∃ field, service.writerField name member = .ok field := by
  obtain ⟨target, defines, -⟩ := sound.defines (leads_of_refersTo (.member kind inside))
  obtain ⟨flat, flatDone⟩ := standsFlat_succeeds defines
  cases flat with
  | true =>
    obtain ⟨list, part, element, elementShape, listDone, partDone, elementDone, definesElement⟩ :=
      flat_parts sound kind inside flatDone
    obtain ⟨write, writeDone⟩ := elementWrite_succeeds definesElement
      (part.locationName.displayOr (member.locationName.displayOr name))
    exact ⟨_, by
      simp only [writerField, flatDone, Except.ok_bind, if_true, listDone, partDone, elementDone,
        writeDone]
      rfl⟩
  | false =>
    obtain ⟨write, writeDone⟩ :=
      elementWrite_succeeds defines (member.locationName.displayOr name)
    exact ⟨_, by simp only [writerField, flatDone, Except.ok_bind, writeDone]; rfl⟩

include complete sound in
theorem xmlWriter?_succeeds (type : String) :
    ∃ writer, service.xmlWriter? type shape = .ok writer := by
  unfold Service.xmlWriter?
  split
  case h_1 kind =>
    have fields : ∃ fields, service.writerFields shape = .ok fields := by
      refine Except.mapM_succeeds_iff.mpr ?_
      rintro ⟨name, member⟩ inside
      exact writerField_succeeds sound kind (List.mem_of_mem_filter inside)
    obtain ⟨fields, done⟩ := fields
    exact ⟨_, by simp only [done, Except.ok_bind]; rfl⟩
  case h_2 kind =>
    obtain ⟨part, partDone, -⟩ := shape.part_of_complete (complete.element kind)
    obtain ⟨element, elementDone⟩ := Shape.elementShape_of_complete complete kind
    obtain ⟨target, defines, -⟩ := sound.defines
      (leads_of_refersTo (Shape.refersTo_of_elementShape kind elementDone))
    obtain ⟨write, writeDone⟩ :=
      elementWrite_succeeds defines (part.locationName.displayOr "member")
    exact ⟨_, by simp only [partDone, elementDone, Except.ok_bind, writeDone]; rfl⟩
  case h_3 kind =>
    obtain ⟨keyPart, keyPartDone, -⟩ := shape.part_of_complete (complete.key kind)
    obtain ⟨valuePart, valuePartDone, -⟩ := shape.part_of_complete (complete.value kind)
    obtain ⟨key, keyDone⟩ := Shape.keyShape_of_complete complete kind
    obtain ⟨value, valueDone⟩ := Shape.valueShape_of_complete complete kind
    obtain ⟨refersKey, refersValue⟩ :=
      Shape.refersTo_of_keyShape_of_valueShape kind keyDone valueDone
    obtain ⟨keyTarget, definesKey, -⟩ := sound.defines (leads_of_refersTo refersKey)
    obtain ⟨valueTarget, definesValue, -⟩ := sound.defines (leads_of_refersTo refersValue)
    obtain ⟨keyWrite, keyWriteDone⟩ :=
      elementWrite_succeeds definesKey (keyPart.locationName.displayOr "key")
    obtain ⟨valueWrite, valueWriteDone⟩ :=
      elementWrite_succeeds definesValue (valuePart.locationName.displayOr "value")
    exact ⟨_, by
      simp only [keyPartDone, valuePartDone, keyDone, valueDone, Except.ok_bind, keyWriteDone,
        valueWriteDone]
      rfl⟩
  case h_4 => exact ⟨none, rfl⟩

omit typed complete sound in
theorem formPut_succeeds {reference : Json} {target : Shape}
    (defines : service.Defines reference target) (key : String) :
    ∃ put, service.formPut reference key = .ok put := by
  obtain ⟨parts, done⟩ := hasParts_succeeds defines
  obtain ⟨name, rfl, -⟩ := defines
  simp only [formPut, done, Except.ok_bind]
  split
  · exact ⟨_, rfl⟩
  · exact ⟨_, rfl⟩

omit sound in
include complete in
theorem itemKey_succeeds (service : Service) (kind : shape.kind? = some .list) :
    ∃ key, service.itemKey shape = .ok key := by
  obtain ⟨part, partDone, -⟩ := shape.part_of_complete (complete.element kind)
  unfold Service.itemKey
  split
  · exact ⟨_, rfl⟩
  · exact ⟨_, by rw [partDone]; rfl⟩

include typed complete sound in
theorem formWriter?_succeeds (type : String) :
    ∃ writer, service.formWriter? type shape = .ok writer := by
  unfold Service.formWriter?
  split
  case h_1 kind =>
    have fields : ∃ fields, service.formFields shape = .ok fields := by
      refine Except.mapM_succeeds_iff.mpr ?_
      rintro ⟨name, member⟩ filtered
      have inside := List.mem_of_mem_filter filtered
      obtain ⟨key, keyDone⟩ :=
        Member.formName_succeeds (typed.members name member inside) service.speaksEc2 name
      obtain ⟨target, defines, -⟩ := sound.defines (leads_of_refersTo (.member kind inside))
      obtain ⟨put, putDone⟩ := formPut_succeeds defines ("\x7bprefix\x7d" ++ key)
      exact ⟨_, by simp only [keyDone, Except.ok_bind, putDone]; rfl⟩
    obtain ⟨fields, done⟩ := fields
    exact ⟨_, by simp only [done, Except.ok_bind]; rfl⟩
  case h_2 kind =>
    obtain ⟨key, keyDone⟩ := itemKey_succeeds complete service kind
    obtain ⟨element, elementDone⟩ := Shape.elementShape_of_complete complete kind
    obtain ⟨target, defines, -⟩ := sound.defines
      (leads_of_refersTo (Shape.refersTo_of_elementShape kind elementDone))
    obtain ⟨put, putDone⟩ := formPut_succeeds defines key
    exact ⟨_, by simp only [keyDone, elementDone, Except.ok_bind, putDone]; rfl⟩
  case h_3 kind =>
    obtain ⟨keyPart, keyPartDone, -⟩ := shape.part_of_complete (complete.key kind)
    obtain ⟨valuePart, valuePartDone, -⟩ := shape.part_of_complete (complete.value kind)
    obtain ⟨key, keyDone⟩ := Shape.keyShape_of_complete complete kind
    obtain ⟨value, valueDone⟩ := Shape.valueShape_of_complete complete kind
    obtain ⟨refersKey, refersValue⟩ :=
      Shape.refersTo_of_keyShape_of_valueShape kind keyDone valueDone
    obtain ⟨keyTarget, definesKey, -⟩ := sound.defines (leads_of_refersTo refersKey)
    obtain ⟨valueTarget, definesValue, -⟩ := sound.defines (leads_of_refersTo refersValue)
    have keyPut := formPut_succeeds definesKey
    have valuePut := formPut_succeeds definesValue
    simp only [keyPartDone, valuePartDone, keyDone, valueDone, Except.ok_bind]
    obtain ⟨first, firstDone⟩ := keyPut _
    obtain ⟨second, secondDone⟩ := valuePut _
    exact ⟨_, by rw [firstDone, Except.ok_bind, secondDone]; rfl⟩
  case h_4 => exact ⟨none, rfl⟩

include complete sound in
theorem reader?_succeeds (family : Family) (type : String) :
    ∃ reader, service.reader? family type shape = .ok reader := by
  unfold Service.reader?
  split
  case h_1 style _ => exact xmlReader?_succeeds complete sound style type
  case h_2 => exact ⟨none, rfl⟩

include typed complete sound in
theorem writer?_succeeds (family : Family) (type : String) :
    ∃ writer, service.writer? family type shape = .ok writer := by
  obtain ⟨form, formDone⟩ := formWriter?_succeeds typed complete sound type
  obtain ⟨xml, xmlDone⟩ := xmlWriter?_succeeds complete sound type
  cases family with
  | query => exact ⟨_, by simp only [Service.writer?, formDone]; rfl⟩
  | restXml => exact ⟨_, by simp only [Service.writer?, xmlDone]; rfl⟩
  | json => exact ⟨none, rfl⟩
  | restJson => exact ⟨none, rfl⟩

end Codecs

/-! ### Declarations -/

theorem fields_succeeds (service : Service) (style : Style) {shape : Shape} (typed : shape.Typed)
    (wire : Bool) :
    ∃ fields, service.fields style shape wire = .ok fields := by
  refine Except.mapM_succeeds_iff.mpr ?_
  rintro ⟨name, member⟩ inside
  have memberTyped := typed.members name member (List.mem_of_mem_filter inside)
  obtain ⟨type, typeDone⟩ := typeName_succeeds memberTyped.shape
  obtain ⟨kind, kindDone⟩ := memberKind?_succeeds service memberTyped
  obtain ⟨documentation, documented⟩ :=
    style.settings.documentation_succeeds memberTyped.documentation
  have hint : ∃ hint, service.wireHint member (shape.requires name) = .ok hint := by
    simp only [wireHint, kindDone, Except.ok_bind]
    split
    · exact ⟨_, rfl⟩
    · exact ⟨_, rfl⟩
    · exact ⟨_, rfl⟩
  obtain ⟨hint, hintDone⟩ := hint
  simp only [field, typeDone, wireField, hintDone, documented, Except.ok_bind]
  split
  · exact ⟨_, rfl⟩
  · exact ⟨_, rfl⟩

theorem declarable_of_kind {shape : Shape} {kind : ShapeKind} (known : shape.kind? = some kind)
    (noList : kind ≠ .list) (noMap : kind ≠ .map) : shape.Declarable where
  known := by rw [known]; rfl
  complete := by
    constructor <;> intro other <;> rw [known] at other <;> cases other
    · exact absurd rfl noList
    · exact absurd rfl noMap
    · exact absurd rfl noMap

/-- A declaration is made or it fails by a fault of the shape. -/
theorem declaration_result (service : Service) (style : Style) (name : String) {shape : Shape}
    (typed : shape.Typed)
    (marks : RecordMarks) :
    (shape.Declarable ∧ ∃ declaration,
      service.declaration style name shape marks = .ok declaration) ∨
    (¬ shape.Declarable ∧ ∃ fault, service.declaration style name shape marks = .error fault ∧
      fault.OfShape) := by
  obtain ⟨documentation, documented⟩ := style.settings.documentation_succeeds typed.documentation
  unfold Service.declaration
  split
  case h_1 kind =>
    obtain ⟨fields, fieldsDone⟩ :=
      fields_succeeds service style typed (style.family.hasWireFields marks)
    refine .inl ⟨declarable_of_kind kind (by decide) (by decide), ?_⟩
    exact ⟨_, by simp only [fieldsDone, documented, Except.ok_bind]; rfl⟩
  case h_2 kind =>
    cases present : shape.member with
    | none =>
      refine .inr ⟨fun declarable => ?_, .noListMember shape.name, ?_, .noListMember _⟩
      · simpa [present] using declarable.complete.element kind
      · simp [Shape.elementShape, present]
    | some element =>
      obtain ⟨type, typeDone⟩ := typeName_succeeds (typed.member element present).shape
      refine .inl ⟨⟨by rw [kind]; rfl, ?_⟩, ?_⟩
      · constructor <;> intro other
        · rw [present]; rfl
        · rw [kind] at other; cases other
        · rw [kind] at other; cases other
      · exact ⟨_, by
          simp only [Shape.elementShape, present, typeDone, documented, Except.ok_bind]; rfl⟩
  case h_3 kind =>
    cases hasKey : shape.key with
    | none =>
      refine .inr ⟨fun declarable => ?_, .noMapKey shape.name, ?_, .noMapKey _⟩
      · simpa [hasKey] using declarable.complete.key kind
      · simp [Shape.keyShape, hasKey]
    | some key =>
      obtain ⟨keyType, keyDone⟩ := typeName_succeeds (typed.key key hasKey).shape
      cases hasValue : shape.value with
      | none =>
        refine .inr ⟨fun declarable => ?_, .noMapValue shape.name, ?_, .noMapValue _⟩
        · simpa [hasValue] using declarable.complete.value kind
        · simp [Shape.keyShape, Shape.valueShape, hasKey, hasValue, keyDone]
      | some value =>
        obtain ⟨valueType, valueDone⟩ := typeName_succeeds (typed.value value hasValue).shape
        refine .inl ⟨⟨by rw [kind]; rfl, ?_⟩, ?_⟩
        · constructor <;> intro other
          · rw [kind] at other; cases other
          · rw [hasKey]; rfl
          · rw [hasValue]; rfl
        · exact ⟨_, by
            simp only [Shape.keyShape, Shape.valueShape, hasKey, hasValue, keyDone, valueDone,
              documented, Except.ok_bind]
            rfl⟩
  case h_4 noStruct noList noMap =>
    cases known : shape.kind? with
    | none =>
      refine .inr ⟨fun declarable => ?_, .unknownKind shape.type shape.name, rfl, .unknownKind _ _⟩
      simpa [known] using declarable.known
    | some kind =>
      refine .inl ⟨declarable_of_kind known ?_ ?_, ?_⟩
      · rintro rfl
        exact noList known
      · rintro rfl
        exact noMap known
      · cases kind with
        | struct => exact absurd known noStruct
        | list => exact absurd known noList
        | map => exact absurd known noMap
        | _ => exact ⟨_, by simp only [Option.bind_some, primitive?, documented, Except.ok_bind]; rfl⟩

end Service

end ServiceClient
