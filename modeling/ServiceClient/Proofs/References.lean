import ServiceClient.Module.XmlCodec
import ServiceClient.Proofs.Reachability

/-!
Looking references up while a module is laid out. What a shape leads to is reached from wherever the
shape is reached, also where a flattened list is passed over and its elements stand in the parent.
-/

namespace ServiceClient

section Parts

variable {shape : Shape} {reference key value : Json}

theorem Shape.refersTo_of_elementShape (kind : shape.kind? = some .list)
    (given : shape.elementShape = .ok reference) : shape.RefersTo reference := by
  unfold Shape.elementShape at given
  split at given
  case h_1 element present =>
    obtain rfl := Except.ok.inj given
    exact .element kind present
  case h_2 => cases given

theorem Shape.refersTo_of_keyShape_of_valueShape (kind : shape.kind? = some .map)
    (keyGiven : shape.keyShape = .ok key) (valueGiven : shape.valueShape = .ok value) :
    shape.RefersTo key ∧ shape.RefersTo value := by
  unfold Shape.keyShape at keyGiven
  unfold Shape.valueShape at valueGiven
  split at keyGiven
  case h_1 hasKey =>
    split at valueGiven
    case h_1 hasValue =>
      obtain rfl := Except.ok.inj keyGiven
      obtain rfl := Except.ok.inj valueGiven
      exact ⟨.key kind hasKey hasValue, .value kind hasKey hasValue⟩
    case h_2 => cases valueGiven
  case h_2 => cases keyGiven

end Parts

theorem mem_of_wholeBody? {shape : Shape} {name : String} {member : Member}
    (whole : shape.wholeBody? = .ok (some (name, member))) : (name, member) ∈ shape.members := by
  unfold Shape.wholeBody? at whole
  split at whole <;> try cases whole
  case h_1 =>
    simp only [Except.ok.injEq] at whole
    split at whole
    case isTrue => cases whole
    case isFalse =>
      obtain ⟨_, found, same⟩ := Option.map_eq_some_iff.mp whole
      cases same
      exact Pairs.mem_of_lookup found

namespace Service

variable {service : Service}

theorem shape_eq_ok_iff {reference : Json} {shape : Shape} :
    service.shape reference = .ok shape ↔ service.Defines reference shape := by
  unfold Service.shape Service.shape? Defines
  cases reference with
  | str name => cases found : service.shapes.lookup name <;> simp [found]
  | _ => simp

/-- What a shape leads to in one step or more. -/
def Leads (service : Service) (shape : Shape) (target : Json) : Prop :=
  ∃ first, shape.RefersTo first ∧ service.Reaches first target

theorem leads_of_refersTo {shape : Shape} {target : Json} (refers : shape.RefersTo target) :
    service.Leads shape target :=
  ⟨target, refers, .refl⟩

/-- A flattened list is passed over: its elements stand in the parent. -/
theorem leads_of_refersTo_of_defines {shape list : Shape} {reference target : Json}
    (refers : shape.RefersTo reference) (defines : service.Defines reference list)
    (element : list.RefersTo target) : service.Leads shape target :=
  ⟨reference, refers, .single ⟨list, defines, element⟩⟩

theorem reaches_of_leads {start target : Json} {name : String} {shape : Shape}
    (reaches : service.Reaches start (.str name)) (found : service.shapes.lookup name = some shape)
    (leads : service.Leads shape target) : service.Reaches start target := by
  obtain ⟨first, refers, others⟩ := leads
  exact (reaches.tail ⟨shape, defines_str.mpr found, refers⟩).trans others

theorem Covers.defines {starts : List Json} {found : List String}
    (covers : service.Covers starts found) {start target : Json} (inside : start ∈ starts)
    (reaches : service.Reaches start target) : ∃ shape, service.Defines target shape := by
  obtain ⟨shape, defines, -⟩ := not_not.mp (covers.not_broken inside reaches)
  exact ⟨shape, defines⟩

theorem memberKind?_of_defines {member : Member} {shape : Shape}
    (defines : service.Defines member.shape shape) :
    service.memberKind? member = .ok shape.kind? := by
  obtain ⟨name, reference, found⟩ := defines
  simp [memberKind?, shape?, reference, found]

theorem standsFlat_eq_ok_iff {member : Member} {flat : Bool} :
    service.standsFlat member = .ok flat ↔ ∃ shape, service.Defines member.shape shape ∧
      (shape.kind? = some .list && (member.flattened || shape.flattened)) = flat := by
  simp only [standsFlat, Except.bind_eq_ok_iff, Except.pure_eq_ok_iff, shape_eq_ok_iff]

/-- The elements of a flat member are two steps away from its structure. -/
theorem leads_of_flat {shape list : Shape} {name : String} {member : Member} {element : Json}
    (kind : shape.kind? = some .struct) (inside : (name, member) ∈ shape.members)
    (flat : service.standsFlat member = .ok true) (defines : service.Defines member.shape list)
    (given : list.elementShape = .ok element) : service.Leads shape element := by
  obtain ⟨other, definesOther, flat⟩ := standsFlat_eq_ok_iff.mp flat
  obtain rfl := defines_unique defines definesOther
  have isList : list.kind? = some .list := by
    simp only [Bool.and_eq_true, decide_eq_true_eq] at flat
    exact flat.1
  exact leads_of_refersTo_of_defines (.member kind inside) defines
    (Shape.refersTo_of_elementShape isList given)

end Service

end ServiceClient
