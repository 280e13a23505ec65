import ServiceClient.Module.XmlCodec
import ServiceClient.Proofs.GenerationSuccess
import ServiceClient.Proofs.JsonBinding
import ServiceClient.Proofs.XmlLayout

/-!
No member of a structure is lost, and none travels twice. The declared members are those with a
location, those that share the body and the one that the payload names; of an input, each member with
a location has one place in a request, and the text of the body's writer appends each member that
shares it once.
-/

namespace ServiceClient

/-- Items of either of two classes that have none in common. -/
theorem filter_append_perm_of_disjoint {α : Type} {p q : α → Bool} {items : List α}
    (disjoint : ∀ a ∈ items, p a = true → q a = false) :
    (items.filter p ++ items.filter q).Perm (items.filter fun a => p a || q a) := by
  have first : (items.filter fun a => p a || q a).filter p = items.filter p := by
    rw [List.filter_filter]
    refine List.filter_congr fun a _ => ?_
    cases p a <;> simp
  have second : (items.filter fun a => p a || q a).filter (!p ·) = items.filter q := by
    rw [List.filter_filter]
    refine List.filter_congr fun a inside => ?_
    cases holds : p a with
    | true => simp [disjoint a inside holds]
    | false => simp
  have both := List.filter_append_perm p (items.filter fun a => p a || q a)
  rwa [first, second] at both

namespace Shape

variable {shape : Shape} {name : String} {member : Member}

/-! ### The ways of members -/

/-- The member without a location that the shape's payload names. -/
def asPayload (shape : Shape) : List (String × Member) :=
  shape.members.filter fun (name, member) =>
    !member.location.truthy && !member.deprecated && shape.payload == .str name

/-- Every declared member is in one of three lists, each of which is in order, and at most one is the
payload. -/
structure TravelsOnce (shape : Shape) : Prop where
  each : (shape.located ++ shape.inBody ++ shape.asPayload).Perm shape.declared
  located : shape.located.Sublist shape.declared
  inBody : shape.inBody.Sublist shape.declared
  asPayload : shape.asPayload.Sublist shape.declared
  atMostOne : shape.asPayload.length ≤ 1

theorem located_eq : shape.located = shape.declared.filter (·.2.location.truthy) :=
  (List.filter_filter ..).symm

theorem inBody_eq : shape.inBody = shape.declared.filter fun (name, member) =>
    !member.location.truthy && shape.payload != .str name := by
  rw [inBody, declared, List.filter_filter]
  exact List.filter_congr fun _ _ => Bool.and_right_comm ..

theorem asPayload_eq : shape.asPayload = shape.declared.filter fun (name, member) =>
    !member.location.truthy && shape.payload == .str name := by
  rw [asPayload, declared, List.filter_filter]
  exact List.filter_congr fun _ _ => Bool.and_right_comm ..

theorem payload_of_mem_asPayload (inside : (name, member) ∈ shape.asPayload) :
    shape.payload = .str name := by
  obtain ⟨-, holds⟩ := List.mem_filter.mp inside
  exact beq_iff_eq.mp (Bool.and_eq_true_iff.mp holds).2

/-- Only one name is the payload, and names are distinct. -/
theorem length_asPayload_le (distinct : (shape.members.map (·.1)).Nodup) :
    shape.asPayload.length ≤ 1 := by
  have apart : (shape.asPayload.map (·.1)).Nodup := distinct.sublist (List.filter_sublist.map _)
  match listed : shape.asPayload with
  | [] | [_] => simp
  | first :: second :: rest =>
    have one : shape.payload = .str first.1 :=
      payload_of_mem_asPayload (show first ∈ shape.asPayload by simp [listed])
    have other : shape.payload = .str second.1 :=
      payload_of_mem_asPayload (show second ∈ shape.asPayload by simp [listed])
    have same : first.1 = second.1 := Json.str.inj (one.symm.trans other)
    simp [listed, same] at apart

theorem travelsOnce (distinct : (shape.members.map (·.1)).Nodup) : shape.TravelsOnce where
  each := by
    have unlocated : (shape.inBody ++ shape.asPayload).Perm
        (shape.declared.filter (!·.2.location.truthy)) := by
      rw [inBody_eq, asPayload_eq]
      refine (filter_append_perm_of_disjoint ?_).trans (.of_eq (List.filter_congr ?_))
      · intro pair _ sharing
        simp_all
      · intro pair _
        dsimp only [bne]
        cases pair.2.location.truthy <;> cases shape.payload == .str pair.1 <;> rfl
    rw [located_eq, List.append_assoc]
    exact (unlocated.append_left _).trans (List.filter_append_perm _ _)
  located := located_eq ▸ List.filter_sublist
  inBody := inBody_eq ▸ List.filter_sublist
  asPayload := asPayload_eq ▸ List.filter_sublist
  atMostOne := length_asPayload_le distinct

/-- Where no member is the whole body, none without a location is named by the payload. -/
theorem asPayload_eq_nil (without : shape.wholeBody? = .ok none) (nonempty : shape.payload ≠ .str "") :
    shape.asPayload = [] := by
  refine List.eq_nil_iff_forall_not_mem.mpr fun (name, member) inside => ?_
  have payload := payload_of_mem_asPayload inside
  have named : name ≠ "" := by
    rintro rfl
    exact nonempty payload
  exact payload_ne_of_mem without (List.mem_of_mem_filter inside) named payload

/-! ### Locations -/

/-- The declared members have locations that requests and responses have places for, or none. -/
def HasPlainLocations (shape : Shape) : Prop :=
  ∀ pair ∈ shape.declared, pair.2.location.truthy = true → pair.2.location ∈ outsideBody

instance : Decidable shape.HasPlainLocations :=
  inferInstanceAs (Decidable (∀ pair ∈ shape.declared,
    pair.2.location.truthy = true → pair.2.location ∈ outsideBody))

/-- The members with one of some locations, in order. -/
def locatedAt (shape : Shape) (locations : List Json) : List (String × Member) :=
  shape.located.filter fun pair => locations.contains pair.2.location

theorem locatedAt_append_perm {some others : List Json} (disjoint : some.Disjoint others) :
    (shape.locatedAt some ++ shape.locatedAt others).Perm (shape.locatedAt (some ++ others)) := by
  refine (filter_append_perm_of_disjoint ?_).trans (.of_eq (List.filter_congr ?_))
  · intro pair _ inside
    simpa using disjoint (List.contains_iff_mem.mp inside)
  · intro pair _
    simp

/-- Every member with a location has one of those that requests and responses have places for. -/
theorem locatedAt_outsideBody (plain : shape.HasPlainLocations) :
    shape.locatedAt outsideBody = shape.located := by
  refine List.filter_eq_self.mpr fun pair inside => List.contains_iff_mem.mpr ?_
  rw [located_eq] at inside
  obtain ⟨declared, located⟩ := List.mem_filter.mp inside
  exact plain pair declared located

end Shape

namespace Service

variable {service : Service} {shape : Shape} {name : String} {member : Member}

/-! ### Requests -/

/-- The statement for a member in the query string. The entries of a map are parameters of their
own. -/
def queryLine (service : Service) (name : String) (member : Member) : String :=
  if service.memberKind? member = .ok (some .map) then
    s!"_params.put_all(params, {inputField name})"
  else
    s!"_params.put(params, \"{(member.nameAt name).display}\", {inputField name})"

/-- The statement for a member in the headers. -/
def headerLine (name : String) (member : Member) : String :=
  let label := (member.nameAt name).display
  if member.location = .str "header" then
    s!"_params.put_header(request, \"{label}\", {inputField name})"
  else s!"_params.put_prefixed_headers(request, \"{label}\", {inputField name})"

/-- Each member with a location has one place in a request, unless it is the status code, and in each
kind of place members are in order. -/
structure BindsOnce (service : Service) (shape : Shape) (bindings : List InputBinding) : Prop where
  each : (shape.locatedAt [.str "uri"] ++ shape.locatedAt [.str "querystring"] ++
    shape.locatedAt [.str "header", .str "headers"] ++ shape.locatedAt [.str "statusCode"]).Perm
      shape.located
  uriValues : bindings.filterMap (·.uriValue?) =
    (shape.locatedAt [.str "uri"]).map fun (name, member) => (member.nameAt name, inputField name)
  queryLines : bindings.filterMap (·.queryLine?) =
    (shape.locatedAt [.str "querystring"]).map fun (name, member) => service.queryLine name member
  headerLines : bindings.filterMap (·.headerLine?) =
    (shape.locatedAt [.str "header", .str "headers"]).map fun (name, member) =>
      headerLine name member

/-- What the place of a member with a location can be. -/
inductive Places (service : Service) (name : String) (member : Member) : Option InputBinding → Prop
  | uri (here : member.location = .str "uri") :
    Places service name member (some ⟨name, .uri (member.nameAt name)⟩)
  | queryMap (here : member.location = .str "querystring")
    (kind : service.memberKind? member = .ok (some .map)) :
    Places service name member (some ⟨name, .queryMap⟩)
  | query (here : member.location = .str "querystring")
    (kind : service.memberKind? member ≠ .ok (some .map)) :
    Places service name member (some ⟨name, .query (member.nameAt name).display⟩)
  | header (here : member.location = .str "header") :
    Places service name member (some ⟨name, .header (member.nameAt name).display⟩)
  | headers (here : member.location = .str "headers") :
    Places service name member (some ⟨name, .headers (member.nameAt name).display⟩)
  | nowhere (elsewhere : member.location ∉
      [.str "uri", .str "querystring", .str "header", .str "headers"]) :
    Places service name member none

theorem places_of_inputBinding? {binding : Option InputBinding}
    (bound : service.inputBinding? name member = .ok binding) :
    service.Places name member binding := by
  unfold inputBinding? at bound
  by_cases uri : member.location = .str "uri"
  · rw [if_pos uri] at bound
    cases bound
    exact .uri uri
  rw [if_neg uri] at bound
  by_cases query : member.location = .str "querystring"
  · rw [if_pos query] at bound
    obtain ⟨kind, known, bound⟩ := Except.bind_eq_ok_iff.mp bound
    by_cases map : kind = some .map
    · rw [if_pos map] at bound
      cases bound
      exact .queryMap query (known.trans (congrArg _ map))
    · rw [if_neg map] at bound
      cases bound
      exact .query query (by simpa [known] using map)
  rw [if_neg query] at bound
  by_cases header : member.location = .str "header"
  · rw [if_pos header] at bound
    cases bound
    exact .header header
  rw [if_neg header] at bound
  by_cases headers : member.location = .str "headers"
  · rw [if_pos headers] at bound
    cases bound
    exact .headers headers
  · rw [if_neg headers] at bound
    cases bound
    exact .nowhere (by simp [uri, query, header, headers])

/-- What the places of members have in common with a list of the request, item by item. -/
theorem filterMap_of_places {γ : Type} {items : List (String × Member)}
    {results : List (Option InputBinding)} {part? : InputBinding → Option γ}
    {part : String × Member → γ} {locations : List Json}
    (done : (items.mapM fun (name, member) => service.inputBinding? name member) = .ok results)
    (parts : ∀ name member binding, service.Places name member binding →
      binding.bind part? = if locations.contains member.location then some (part (name, member))
        else none) :
    (results.filterMap id).filterMap part? =
      (items.filter fun pair => locations.contains pair.2.location).map part := by
  have same := Except.map_eq_of_mapM_eq_ok
    (fun pair binding bound => parts _ _ _ (places_of_inputBinding? bound)) done
  calc (results.filterMap id).filterMap part?
      = (results.map (·.bind part?)).filterMap id := by
        rw [List.filterMap_filterMap, List.filterMap_map]
        rfl
    _ = (items.filter fun pair => locations.contains pair.2.location).map part := by
        rw [same]
        clear same done
        induction items with
        | nil => rfl
        | cons pair rest ih =>
          by_cases here : locations.contains pair.2.location = true <;> simp_all

theorem bindsOnce_of_bindingsOf {bindings : List InputBinding} (plain : shape.HasPlainLocations)
    (done : service.bindingsOf shape = .ok bindings) : service.BindsOnce shape bindings := by
  obtain ⟨results, made, bound⟩ := Except.bind_eq_ok_iff.mp done
  cases bound
  exact {
    each := by
      have labels : (shape.locatedAt [.str "uri"] ++ shape.locatedAt [.str "querystring"]).Perm
          (shape.locatedAt [.str "uri", .str "querystring"]) :=
        Shape.locatedAt_append_perm (by simp [List.Disjoint])
      have headers : (shape.locatedAt [.str "uri", .str "querystring"] ++
          shape.locatedAt [.str "header", .str "headers"]).Perm
            (shape.locatedAt [.str "uri", .str "querystring", .str "header", .str "headers"]) :=
        Shape.locatedAt_append_perm (by simp [List.Disjoint])
      have all : (shape.locatedAt [.str "uri", .str "querystring", .str "header", .str "headers"] ++
          shape.locatedAt [.str "statusCode"]).Perm (shape.locatedAt outsideBody) :=
        Shape.locatedAt_append_perm (by simp [List.Disjoint])
      rw [← Shape.locatedAt_outsideBody plain]
      exact (((labels.append_right _).trans headers).append_right _).trans all
    uriValues := by
      refine filterMap_of_places made ?_
      intro name member binding places
      cases places <;> simp_all [InputBinding.uriValue?]
    queryLines := by
      refine filterMap_of_places made ?_
      intro name member binding places
      cases places <;> simp_all [InputBinding.queryLine?, queryLine]
    headerLines := by
      refine filterMap_of_places made ?_
      intro name member binding places
      cases places <;> simp_all [InputBinding.headerLine?, headerLine] }

/-! ### Bodies -/

/-- The shape whose functions handle the values of a reference; none if they are plain texts. -/
def Codes (service : Service) (reference : Json) (codec : Option String) : Prop :=
  service.hasParts reference = .ok codec.isSome ∧ ∀ shape ∈ codec, reference = .str shape

/-- How a member stands in the element of its structure. The items of a list without an element of its
own have the name that the list gives them, before that of the member. -/
inductive LaysOut (service : Service) (name : String) (member : Member) : ElementLayout → Prop
  | alone {codec : Option String} (single : service.standsFlat member = .ok false)
    (coded : service.Codes member.shape codec) :
    LaysOut service name member ⟨member.locationName.displayOr name, false, codec⟩
  | flat {list : Shape} {element : Json} {part : Member} {codec : Option String}
    (flat : service.standsFlat member = .ok true) (defines : service.shape member.shape = .ok list)
    (items : list.elementShape = .ok element) (present : list.part list.member = .ok part)
    (coded : service.Codes element codec) :
    LaysOut service name member
      ⟨part.locationName.displayOr (member.locationName.displayOr name), true, codec⟩

/-- The lines that append a member as it is laid out, unless it is missing. -/
def memberLines (name : String) (layout : ElementLayout) : String :=
  "    if obj." ++ Naming.fieldName name ++ " is not None:\n" ++
    String.join ((layout.appends (Naming.fieldName name)).map XmlWriter.innerLine)

/-- The writer of a structure has a field for each member that shares the body, in order, and it is
there if all of these can be written. Its text appends these members and nothing else. -/
structure WritesBody (service : Service) (type : String) (shape : Shape) : Prop where
  fields : service.xmlWriter? type shape =
    (shape.inBody.mapM fun (name, member) => service.writerField name member).map fun fields =>
      some ⟨type, .struct fields⟩
  names : ∀ fields, service.xmlWriter? type shape = .ok (some ⟨type, .struct fields⟩) →
    fields.map (·.name) = shape.inBody.map fun (name, _) => Naming.fieldName name
  text : ∀ writer, service.xmlWriter? type shape = .ok (some writer) →
    ∃ layouts, List.Forall₂ (fun pair layout => service.LaysOut pair.1 pair.2 layout)
        shape.inBody layouts ∧
      writer.render = .ok (writer.heading ++ String.join (shape.inBody.zipWith
        (fun pair layout => memberLines pair.1 layout) layouts) ++ "    return node\n")

theorem name_of_writerField {field : WriterField}
    (made : service.writerField name member = .ok field) : field.name = Naming.fieldName name := by
  simp only [writerField, Except.bind_eq_ok_iff] at made
  obtain ⟨flat, -, made⟩ := made
  split at made
  case isTrue =>
    simp only [Except.bind_eq_ok_iff, Except.pure_eq_ok_iff] at made
    obtain ⟨_, -, _, -, _, -, _, -, rfl⟩ := made
    dsimp only
  case isFalse =>
    simp only [Except.bind_eq_ok_iff, Except.pure_eq_ok_iff] at made
    obtain ⟨_, -, rfl⟩ := made
    dsimp only

theorem exists_codes_of_elementWrite {reference : Json} {tag : String} {write : ElementWrite}
    (made : service.elementWrite reference tag = .ok write) (flat : Bool) :
    ∃ codec, service.Codes reference codec ∧ ElementLayout.Writes ⟨tag, flat, codec⟩ write := by
  obtain ⟨parts, known, made⟩ := Except.bind_eq_ok_iff.mp made
  cases parts with
  | true =>
    have defines := known
    simp only [hasParts, kindOf, Except.map_eq_ok_iff, shape_eq_ok_iff] at defines
    obtain ⟨-, ⟨shape, ⟨name, rfl, -⟩, -⟩, -⟩ := defines
    refine ⟨some name, ⟨known, fun _ same => congrArg Json.str (Option.some.inj same)⟩, ?_⟩
    cases made
    exact ⟨rfl, rfl⟩
  | false =>
    refine ⟨none, ⟨known, by simp⟩, ?_⟩
    cases made
    exact ⟨rfl, rfl⟩

/-- A member is written where the description has it. -/
theorem exists_layout_of_writerField {field : WriterField}
    (made : service.writerField name member = .ok field) :
    ∃ layout, service.LaysOut name member layout ∧
      XmlWriter.appendLines field = memberLines name layout := by
  have named := name_of_writerField made
  obtain ⟨flat, isFlat, made⟩ := Except.bind_eq_ok_iff.mp made
  cases flat with
  | true =>
    rw [if_pos rfl] at made
    simp only [Except.bind_eq_ok_iff, Except.pure_eq_ok_iff] at made
    obtain ⟨list, defines, element, items, part, present, write, written, rfl⟩ := made
    obtain ⟨codec, coded, writes⟩ := exists_codes_of_elementWrite written true
    refine ⟨_, .flat isFlat defines items present coded, ?_⟩
    rw [XmlWriter.appendLines, memberLines, ElementLayout.Writes.lines_eq rfl writes]
  | false =>
    rw [if_neg Bool.false_ne_true] at made
    simp only [Except.bind_eq_ok_iff, Except.pure_eq_ok_iff] at made
    obtain ⟨write, written, rfl⟩ := made
    obtain ⟨codec, coded, writes⟩ := exists_codes_of_elementWrite written false
    refine ⟨_, .alone isFlat coded, ?_⟩
    rw [XmlWriter.appendLines, memberLines, ElementLayout.Writes.lines_eq rfl writes]

theorem exists_layouts_of_writerFields {members : List (String × Member)} {fields : List WriterField}
    (made : List.Forall₂ (fun pair field => service.writerField pair.1 pair.2 = .ok field)
      members fields) :
    ∃ layouts, List.Forall₂ (fun pair layout => service.LaysOut pair.1 pair.2 layout)
        members layouts ∧
      fields.map XmlWriter.appendLines =
        members.zipWith (fun pair layout => memberLines pair.1 layout) layouts := by
  induction made with
  | nil => exact ⟨[], .nil, rfl⟩
  | cons first _ ih =>
    obtain ⟨layouts, laid, same⟩ := ih
    obtain ⟨layout, lays, lines⟩ := exists_layout_of_writerField first
    exact ⟨layout :: layouts, .cons lays laid, by rw [List.map_cons, same, lines]; rfl⟩

/-- The members whose location is not one of those outside the body are those that share it. -/
theorem writerFields_eq (plain : shape.HasPlainLocations) (shared : shape.asPayload = []) :
    service.writerFields shape =
      shape.inBody.mapM fun (name, member) => service.writerField name member := by
  have written : shape.members.filter (fun (_, member) =>
      !member.deprecated && !outsideBody.contains member.location) = shape.inBody := by
    refine List.filter_congr fun (name, member) inside => ?_
    by_cases deprecated : member.deprecated = true
    · simp [deprecated]
    have declared : (name, member) ∈ shape.declared :=
      List.mem_filter.mpr ⟨inside, by simpa using deprecated⟩
    by_cases located : member.location.truthy = true
    · have outside := plain _ declared located
      simp [outside, located]
    · have within : member.location ∉ outsideBody := by
        intro outside
        simp only [outsideBody, List.mem_cons, List.not_mem_nil, or_false] at outside
        rcases outside with here | here | here | here | here <;> simp [here, Json.truthy] at located
      have notWhole : shape.payload ≠ .str name := by
        intro payload
        have alone : (name, member) ∈ shape.asPayload :=
          List.mem_filter.mpr ⟨inside, by simp [located, deprecated, payload]⟩
        simp [shared] at alone
      simp [within, located, notWhole]
  rw [writerFields, written]

theorem writesBody (structured : shape.kind? = some .struct) (plain : shape.HasPlainLocations)
    (shared : shape.asPayload = []) (type : String) : service.WritesBody type shape := by
  have fields : service.xmlWriter? type shape =
      (shape.inBody.mapM fun (name, member) => service.writerField name member).map fun fields =>
        some ⟨type, .struct fields⟩ := by
    rw [xmlWriter?, structured, ← writerFields_eq plain shared]
    cases service.writerFields shape <;> rfl
  refine ⟨fields, fun made written => ?_, fun writer written => ?_⟩
  · rw [fields, Except.map_eq_ok_iff] at written
    obtain ⟨all, done, same⟩ := written
    cases same
    exact Except.map_eq_of_mapM_eq_ok (fun pair field => name_of_writerField) done
  · rw [fields, Except.map_eq_ok_iff] at written
    obtain ⟨all, done, same⟩ := written
    cases same
    obtain ⟨layouts, laid, lines⟩ :=
      exists_layouts_of_writerFields (Except.mapM_eq_ok_iff.mp done)
    exact ⟨layouts, laid, by rw [XmlWriter.render_struct, lines]⟩

/-- No member of a structure is lost or travels twice. The members of an input with locations that
requests have places for are each put into one of them; and if none of its members is the payload,
the writer of the body has the members that share the body as its fields, and its text appends just
these. -/
theorem members_travel_once (service : Service) (shape : Shape)
    (distinct : (shape.members.map (·.1)).Nodup) :
    shape.TravelsOnce ∧
    (shape.Typed → shape.HasPlainLocations →
      ∃ bindings, service.bindingsOf shape = .ok bindings ∧ service.BindsOnce shape bindings) ∧
    (shape.kind? = some .struct → shape.HasPlainLocations → shape.asPayload = [] →
      ∀ type, service.WritesBody type shape) := by
  refine ⟨Shape.travelsOnce distinct, fun typed plain => ?_, writesBody⟩
  obtain ⟨bindings, done⟩ := bindingsOf_succeeds service typed
  exact ⟨bindings, done, bindsOnce_of_bindingsOf plain done⟩

/-- The input of an operation that stores a note, with members in every place. -/
def noteInput : Shape where
  name := "PutNoteRequest"
  type := .str "structure"
  members := [
    ("NoteId", { shape := .str "Text", location := .str "uri" }),
    ("Title", { shape := .str "Text" }),
    ("Tags", { shape := .str "TextMap", location := .str "querystring" }),
    ("Words", { shape := .str "Text", location := .str "querystring", locationName := .str "words" }),
    ("Labels", {
      shape := .str "TextMap", location := .str "headers", locationName := .str "X-Label-" }),
    ("Kind", { shape := .str "Text", location := .str "header", locationName := .str "X-Kind" }),
    ("Owner", { shape := .str "Text", location := .str "header", deprecated := true }),
    ("Code", { shape := .str "Number", location := .str "statusCode" }),
    ("Content", { shape := .str "Text", locationName := .str "Body" })]

/-- A service that stores notes. -/
def noteStore : Service where
  metadata := { protocol := .str "rest-xml", fullName := .str "Note Store" }
  shapes := [
    ("PutNoteRequest", noteInput),
    ("Text", { name := "Text", type := .str "string" }),
    ("Number", { name := "Number", type := .str "integer" }),
    ("TextMap", {
      name := "TextMap", type := .str "map"
      key := some { shape := .str "Text" }, value := some { shape := .str "Text" } })]

theorem noteInput_typed : noteInput.Typed where
  type := rfl
  documentation := rfl
  members := by
    intro name member inside
    simp only [noteInput, List.mem_cons, Prod.mk.injEq, List.not_mem_nil, or_false] at inside
    rcases inside with ⟨-, rfl⟩ | ⟨-, rfl⟩ | ⟨-, rfl⟩ | ⟨-, rfl⟩ | ⟨-, rfl⟩ | ⟨-, rfl⟩ | ⟨-, rfl⟩ |
      ⟨-, rfl⟩ | ⟨-, rfl⟩ <;> constructor <;> rfl
  member := nofun
  key := nofun
  value := nofun
  errorCode := rfl
  payload := rfl

theorem members_travel_once_noteInput : noteInput.TravelsOnce ∧
    (∃ bindings, noteStore.bindingsOf noteInput = .ok bindings ∧
      noteStore.BindsOnce noteInput bindings) ∧
    noteStore.WritesBody "PutNoteRequest" noteInput ∧
    ∃ writer, noteStore.xmlWriter? "PutNoteRequest" noteInput = .ok (some writer) ∧
      writer.render = .ok ("def serialize_put_note_request(tag: str, obj: PutNoteRequest)" ++
        " -> _xml.Element:\n" ++ "    node = _xml.element(tag)\n" ++
        "    if obj.title is not None:\n" ++
        "        _xml.append_text(node, \"Title\", obj.title)\n" ++
        "    if obj.content is not None:\n" ++
        "        _xml.append_text(node, \"Body\", obj.content)\n" ++ "    return node\n") := by
  have plain : noteInput.HasPlainLocations := by decide
  obtain ⟨once, bound, written⟩ := members_travel_once noteStore noteInput (by decide)
  have shared : noteInput.asPayload = [] := Shape.asPayload_eq_nil (by decide) (by decide)
  have fields : noteStore.xmlWriter? "PutNoteRequest" noteInput = .ok (some ⟨"PutNoteRequest",
      .struct [⟨"title", false, ⟨"Title", none⟩⟩, ⟨"content", false, ⟨"Body", none⟩⟩]⟩) := by cbv
  refine ⟨once, bound noteInput_typed plain, written (by decide) plain shared _, _, fields, ?_⟩
  rw [XmlWriter.render_struct]
  decide +kernel

end Service

end ServiceClient
