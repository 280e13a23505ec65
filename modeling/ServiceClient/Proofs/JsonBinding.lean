import ServiceClient.Module.Method
import ServiceClient.Proofs.Outcome
import ServiceClient.Proofs.Payload
import ServiceClient.Proofs.References

/-!
Which members the JSON body of a request holds, and which fields of an output the values from outside
the body of a response are for. Fields are known by their names on the wire, while a method knows the
members that travel elsewhere by their own names. For a member with a location both are the same; for
a member without one they need not be.
-/

namespace ServiceClient

/-- A field whose name on the wire is excluded from the body. -/
def Field.isExcluded (field : Field) (excluded : List String) : Bool :=
  field.wire.any fun wire => excluded.contains wire.name

namespace Shape

variable {shape : Shape} {name : String} {member : Member}

/-- The members that a record has fields for, in order. -/
def declared (shape : Shape) : List (String × Member) := shape.members.filter (!·.2.deprecated)

/-- The declared members whose names on the wire are not excluded from the body, in order. -/
def sent (shape : Shape) (excluded : List String) : List (String × Member) :=
  shape.declared.filter fun (name, member) => !excluded.contains (Service.nameOnWire name member)

/-- The members that are read outside the body, in order. -/
def readOutside (shape : Shape) : List (String × Member) :=
  shape.located.filter fun (name, member) => (member.outputSource? name).isSome

/-- A member with a location has its own name on the wire. -/
theorem nameOnWire_of_located (located : member.location.truthy = true) :
    Service.nameOnWire name member = name := by
  have there : member.location ≠ .null := by
    intro absent
    rw [absent] at located
    cases located
  exact if_neg there

theorem nameOnWire_of_mem_located (inside : (name, member) ∈ shape.located) :
    Service.nameOnWire name member = name := by
  obtain ⟨-, located⟩ := List.mem_filter.mp inside
  exact nameOnWire_of_located (Bool.and_eq_true_iff.mp located).1

/-- No member of a structure without a payload has the name that stands for one. -/
theorem payload_ne_of_mem (without : shape.wholeBody? = .ok none)
    (inside : (name, member) ∈ shape.members) (nonempty : name ≠ "") :
    shape.payload ≠ .str name := by
  intro payload
  have found : (shape.members.lookup name).isSome :=
    Pairs.lookup_isSome_iff.mpr (List.mem_map.mpr ⟨_, inside, rfl⟩)
  obtain ⟨member, found⟩ := Option.isSome_iff_exists.mp found
  have whole : shape.wholeBody? = .ok (some (name, member)) := by
    simp [wholeBody?, payload, nonempty, found]
  rw [whole] at without
  cases without

/-- Of a structure without a payload, the members are sent that share the body, except for those
whose name on the wire is the name of a member that travels elsewhere. -/
theorem sent_located (without : shape.wholeBody? = .ok none)
    (named : "" ∉ shape.members.map (·.1)) :
    shape.sent (shape.located.map (·.1)) = shape.inBody.filter fun (name, member) =>
      !(shape.located.map (·.1)).contains (Service.nameOnWire name member) := by
  rw [sent, declared, inBody, List.filter_filter, List.filter_filter]
  refine List.filter_congr fun (name, member) inside => ?_
  have nonempty : name ≠ "" := by
    rintro rfl
    exact named (List.mem_map.mpr ⟨_, inside, rfl⟩)
  have payload : (shape.payload != .str name) = true :=
    bne_iff_ne.mpr (payload_ne_of_mem without inside nonempty)
  -- a located member is excluded under its own name, which is also its name on the wire
  by_cases located : member.location.truthy = true
  · by_cases deprecated : member.deprecated = true
    · simp [deprecated]
    · have elsewhere : (name, member) ∈ shape.located :=
        List.mem_filter.mpr ⟨inside, by simp [located, deprecated]⟩
      have listed : (shape.located.map (·.1)).contains name = true :=
        List.contains_iff_mem.mpr (List.mem_map.mpr ⟨_, elsewhere, rfl⟩)
      simp only [nameOnWire_of_located located, listed, Bool.not_true, Bool.false_and]
  · simp only [located, payload, Bool.not_false, Bool.true_and, Bool.and_true]

/-- The members that share the body are the ones that are sent if and only if none of them has the
name of a member that travels elsewhere as its name on the wire. -/
theorem sent_eq_inBody_iff (without : shape.wholeBody? = .ok none)
    (named : "" ∉ shape.members.map (·.1)) :
    shape.sent (shape.located.map (·.1)) = shape.inBody ↔ ∀ pair ∈ shape.inBody,
      Service.nameOnWire pair.1 pair.2 ∉ shape.located.map (·.1) := by
  rw [sent_located without named, List.filter_eq_self]
  simp

theorem outputSource?_isSome_iff : (member.outputSource? name).isSome ↔
    member.location = .str "header" ∨ member.location = .str "headers" ∨
      member.location = .str "statusCode" := by
  unfold Member.outputSource?
  split_ifs <;> simp_all

theorem mem_readOutside : (name, member) ∈ shape.readOutside ↔
    (name, member) ∈ shape.members ∧ member.deprecated = false ∧
      (member.location = .str "header" ∨ member.location = .str "headers" ∨
        member.location = .str "statusCode") := by
  rw [readOutside, located, List.mem_filter, List.mem_filter, outputSource?_isSome_iff]
  have truthy : member.location = .str "header" ∨ member.location = .str "headers" ∨
      member.location = .str "statusCode" → member.location.truthy = true := by
    rintro (here | here | here) <;> rw [here] <;> rfl
  simp only [Bool.and_eq_true, Bool.not_eq_true']
  constructor
  · rintro ⟨⟨inside, -, present⟩, outside⟩
    exact ⟨inside, present, outside⟩
  · rintro ⟨inside, present, outside⟩
    exact ⟨⟨inside, truthy outside, present⟩, outside⟩

theorem names_outputSources : shape.outputSources.map (·.1) = shape.readOutside.map (·.1) := by
  rw [outputSources, readOutside]
  induction shape.located with
  | nil => rfl
  | cons pair rest ih =>
    obtain ⟨name, member⟩ := pair
    cases source : member.outputSource? name with
    | none => simpa [source] using ih
    | some _ => simpa [source] using ih

end Shape

namespace Service

variable {service : Service} {shape : Shape} {operation : Operation} {style : Style}
  {excluded : List String} {fields : List Field}

/-! ### Bodies of requests -/

theorem wire_of_field {name : String} {member : Member} {field : Field}
    (made : service.field style shape true name member = .ok field) :
    ∃ hint, field.wire = some ⟨nameOnWire name member, hint⟩ := by
  simp only [Service.field, wireField, if_true, Except.bind_eq_ok_iff, Except.map_eq_ok_iff,
    Except.pure_eq_ok_iff] at made
  obtain ⟨-, -, wire, ⟨_, ⟨hint, -, rfl⟩, rfl⟩, -, -, rfl⟩ := made
  exact ⟨hint, rfl⟩

/-- The fields that are not excluded are those of the members that are sent. -/
theorem fields_sent (declares : service.fields style shape true = .ok fields)
    (excluded : List String) :
    ((shape.sent excluded).mapM fun (name, member) => service.field style shape true name member) =
      .ok (fields.filter fun field => !field.isExcluded excluded) := by
  refine Except.filter_of_mapM_eq_ok ?_ declares
  rintro ⟨name, member⟩ field made
  obtain ⟨hint, wire⟩ := wire_of_field made
  simp [Field.isExcluded, wire]

/-- A method that sends the data of its input leaves out the members that travel elsewhere. -/
theorem input_of_jsonPayload (sends : service.jsonPayload operation = .ok (.input excluded))
    (defines : service.shape operation.input = .ok shape) :
    shape.wholeBody? = .ok none ∧ shape.inBody ≠ [] ∧ excluded = shape.located.map (·.1) := by
  by_cases there : operation.input.truthy = true
  · simp only [jsonPayload, there, if_true, defines, Except.ok_bind, Except.bind_eq_ok_iff] at sends
    obtain ⟨whole, payload, sends⟩ := sends
    cases whole with
    | some pair =>
      obtain ⟨kind, -, sends⟩ := Except.bind_eq_ok_iff.mp sends
      split at sends <;> cases sends
    | none =>
      by_cases nothing : shape.inBody = []
      · simp [nothing] at sends
      · simp only [List.isEmpty_iff, nothing, if_false, Except.pure_eq_ok_iff,
          JsonPayload.input.injEq] at sends
        exact ⟨payload, nothing, sends.symm⟩
  · simp [jsonPayload, there] at sends

/-- The fields of the body of a request are those of members that share the body, and they are those
of all such members if and only if none of these has the name of a member that travels elsewhere as
its name on the wire. -/
theorem jsonBody_fields_iff (sends : service.jsonPayload operation = .ok (.input excluded))
    (defines : service.shape operation.input = .ok shape) (named : "" ∉ shape.members.map (·.1))
    (declares : service.fields style shape true = .ok fields) :
    (∀ field ∈ fields.filter (!·.isExcluded excluded), ∃ pair ∈ shape.inBody,
      service.field style shape true pair.1 pair.2 = .ok field) ∧
    ((shape.inBody.mapM fun (name, member) => service.field style shape true name member) =
        .ok (fields.filter (!·.isExcluded excluded)) ↔
      ∀ pair ∈ shape.inBody, nameOnWire pair.1 pair.2 ∉ shape.located.map (·.1)) := by
  obtain ⟨without, -, rfl⟩ := input_of_jsonPayload sends defines
  have sent := fields_sent declares (shape.located.map (·.1))
  constructor
  · intro field kept
    rw [Shape.sent_located without named] at sent
    obtain ⟨pair, inside, made⟩ := Except.mem_of_mapM_eq_ok sent kept
    exact ⟨pair, List.mem_of_mem_filter inside, made⟩
  · constructor
    · intro all pair inside
      obtain ⟨field, kept, made⟩ := Except.result_mem_of_mapM_eq_ok all inside
      obtain ⟨hint, wire⟩ := wire_of_field made
      simpa [Field.isExcluded, wire] using (List.mem_filter.mp kept).2
    · intro apart
      rwa [(Shape.sent_eq_inBody_iff without named).mpr apart] at sent

/-- A label whose text is called on the wire as the member is that travels in a header. -/
def label : Shape where
  name := "Label"
  type := .str "structure"
  members := [("Id", { shape := .str "Text", location := .str "header", locationName := .str "X-Id" }),
    ("Content", { shape := .str "Text", locationName := .str "Id" }),
    ("Colour", { shape := .str "Text" })]

/-- A service of labels. -/
def labelling : Service where
  metadata := { protocol := .str "rest-json", fullName := .str "Labelling" }
  shapes := [("Label", label), ("Text", { name := "Text", type := .str "string" })]

/-- A member can be lost that shares the body: no text of a label is sent. -/
theorem jsonBody_loses_field :
    ¬ ∀ (service : Service) operation shape excluded style fields,
      service.jsonPayload operation = .ok (.input excluded) →
      service.shape operation.input = .ok shape → "" ∉ shape.members.map (·.1) →
      service.fields style shape true = .ok fields →
      (shape.inBody.mapM fun (name, member) => service.field style shape true name member) =
        .ok (fields.filter (!·.isExcluded excluded)) := by
  intro always
  let operation : Operation := { name := .str "PutLabel", input := .str "Label" }
  have sends : labelling.jsonPayload operation = .ok (.input ["Id"]) := by decide
  have defines : labelling.shape operation.input = .ok label := by decide
  have named : "" ∉ label.members.map (·.1) := by decide
  obtain ⟨fields, declares⟩ : ∃ fields, labelling.fields ⟨.restJson, {}⟩ label true = .ok fields :=
    ⟨_, rfl⟩
  have all := always labelling operation label _ _ _ sends defines named declares
  have apart := (jsonBody_fields_iff sends defines named declares).2.mp all
  exact absurd apart (by decide)

/-! ### Values from outside the body of a response -/

theorem names_jsonExtras {extras : List (String × String)} {body : String}
    {payload : Option (String × Member)} (extra : service.jsonExtras shape = .ok (extras, body))
    (whole : shape.wholeBody? = .ok payload) :
    extras.map (·.1) = (shape.readOutside ++ payload.toList).map (·.1) := by
  simp only [jsonExtras, whole, Except.ok_bind] at extra
  cases payload with
  | none =>
    obtain ⟨rfl, -⟩ := Prod.mk.inj (Except.pure_eq_ok_iff.mp extra)
    rw [Option.toList_none, List.append_nil]
    exact Shape.names_outputSources
  | some pair =>
    simp only [Except.bind_eq_ok_iff, Except.pure_eq_ok_iff, Prod.mk.injEq] at extra
    obtain ⟨kind, -, rfl, -⟩ := extra
    rw [List.map_append, List.map_append, Shape.names_outputSources]
    rfl

/-- Each value is for the field of the member that it is read for, unless that is the payload and is
called otherwise on the wire. -/
theorem extras_name_fields_iff {extras : List (String × String)} {body : String}
    {payload : Option (String × Member)} (extra : service.jsonExtras shape = .ok (extras, body))
    (whole : shape.wholeBody? = .ok payload) :
    extras.map (·.1) =
        (shape.readOutside ++ payload.toList).map (fun pair => nameOnWire pair.1 pair.2) ↔
      ∀ pair ∈ payload, nameOnWire pair.1 pair.2 = pair.1 := by
  have outside : shape.readOutside.map (fun pair => nameOnWire pair.1 pair.2) =
      shape.readOutside.map (·.1) :=
    List.map_congr_left fun _ inside =>
      Shape.nameOnWire_of_mem_located (List.mem_of_mem_filter inside)
  rw [names_jsonExtras extra whole, List.map_append, List.map_append, outside]
  cases payload with
  | none => simp
  | some pair => simp [eq_comm]

/-- No two values are for one member, unless the payload is read outside the body, too. -/
theorem extras_nodup_iff {extras : List (String × String)} {body : String}
    {payload : Option (String × Member)} (distinct : (shape.members.map (·.1)).Nodup)
    (extra : service.jsonExtras shape = .ok (extras, body))
    (whole : shape.wholeBody? = .ok payload) :
    (extras.map (·.1)).Nodup ↔ ∀ pair ∈ payload, pair ∉ shape.readOutside := by
  have outside : (shape.readOutside.map (·.1)).Nodup :=
    distinct.sublist ((List.filter_sublist.trans List.filter_sublist).map _)
  rw [names_jsonExtras extra whole]
  cases payload with
  | none => simpa using outside
  | some pair =>
    have listed : pair.1 ∈ shape.readOutside.map (·.1) ↔ pair ∈ shape.readOutside := by
      refine ⟨fun named => ?_, fun inside => List.mem_map.mpr ⟨pair, inside, rfl⟩⟩
      obtain ⟨other, inside, same⟩ := List.mem_map.mp named
      have first := Pairs.lookup_of_mem distinct
        (List.mem_of_mem_filter (List.mem_of_mem_filter inside))
      have second := Pairs.lookup_of_mem distinct (mem_of_wholeBody? whole)
      rw [same, second] at first
      rwa [Prod.ext same.symm (Option.some.inj first)]
    have last : ((some pair).toList.map (·.1)) = [pair.1] := rfl
    rw [List.map_append, last, List.nodup_append_comm, List.singleton_append, List.nodup_cons,
      and_iff_left outside, listed]
    simp

/-- A reply whose body is the text of its payload, which has another name on the wire. -/
def reply : Shape where
  name := "Reply"
  type := .str "structure"
  payload := .str "Content"
  members := [("Content", { shape := .str "Text", locationName := .str "content" })]

/-- A service of replies. -/
def replying : Service where
  metadata := { protocol := .str "rest-json", fullName := .str "Replying" }
  shapes := [("Reply", reply), ("Text", { name := "Text", type := .str "string" })]

/-- The value of the payload can be for no field: the text of a reply is not given to any. -/
theorem extras_miss_payload :
    ¬ ∀ (service : Service) shape extras body name member,
      service.jsonExtras shape = .ok (extras, body) →
      shape.wholeBody? = .ok (some (name, member)) → nameOnWire name member ∈ extras.map (·.1) := by
  intro always
  have extra : replying.jsonExtras reply = .ok ([("Content", "response.text")], "None") := by decide
  have named := always replying reply _ _ "Content" _ extra rfl
  exact absurd named (by decide)

end Service

/-! ### Values from outside the body of a response, in its output -/

namespace Payload

open Value

variable {types : RecordTypes} {name : String} {v : Value} {entries : List (Value × Value)}
  {extra : List (String × Value)}

theorem sameKey_str_iff {key : Value} : sameKey key (.str name) = true ↔ key = .str name := by
  cases key <;> simp [sameKey, asNumber?]

theorem findEntry?_cons (key other : Value) :
    findEntry? key ((other, v) :: entries) =
      if sameKey other key then some v else findEntry? key entries := by
  unfold findEntry?
  rw [List.find?_cons]
  cases sameKey other key <;> rfl

theorem findEntry?_insertEntry (key : String) :
    findEntry? (.str name) (insertEntry (.str key) v entries) =
      if key = name then some v else findEntry? (.str name) entries := by
  have same : sameKey (.str key) (.str name) = true ↔ key = name := by simp [sameKey]
  induction entries with
  | nil =>
    rw [insertEntry, findEntry?_cons]
    simp only [same]
  | cons entry rest ih =>
    obtain ⟨other, old⟩ := entry
    rw [insertEntry]
    by_cases replaced : sameKey other (.str key) = true
    · rw [if_pos replaced, findEntry?_cons, findEntry?_cons, sameKey_str_iff.mp replaced]
      simp only [same]
      split <;> rfl
    · rw [if_neg replaced, findEntry?_cons, findEntry?_cons, ih]
      by_cases found : sameKey other (.str name) = true
      · have own : key ≠ name := by
          rintro rfl
          exact replaced found
        rw [if_pos found, if_pos found, if_neg own]
      · rw [if_neg found, if_neg found]

/-- The members of an object with values from outside put over them; null values are left out. -/
def overlaid (entries : List (Value × Value)) (extra : List (String × Value)) :
    List (Value × Value) :=
  (extra.filter (!·.2.isNull)).foldl (fun entries (name, v) => insertEntry (.str name) v entries)
    entries

theorem overlaid_cons (key : String) (v : Value) :
    overlaid entries ((key, v) :: extra) =
      overlaid (if v.isNull then entries else insertEntry (.str key) v entries) extra := by
  cases null : v.isNull <;> simp [overlaid, null]

/-- Values from outside change what is found under their own names only. -/
theorem findEntry?_overlaid_of_not_mem (other : name ∉ extra.map (·.1)) :
    findEntry? (.str name) (overlaid entries extra) = findEntry? (.str name) entries := by
  induction extra generalizing entries with
  | nil => rfl
  | cons pair rest ih =>
    obtain ⟨key, v⟩ := pair
    obtain ⟨different, other⟩ := not_or.mp (mt List.mem_cons.mpr other)
    rw [overlaid_cons, ih other]
    cases v.isNull with
    | true => rfl
    | false =>
      simp only [Bool.false_eq_true, if_false]
      rw [findEntry?_insertEntry, if_neg (Ne.symm different)]

theorem findEntry?_overlaid_of_mem (distinct : (extra.map (·.1)).Nodup) (given : (name, v) ∈ extra)
    (present : v.isNull = false) : findEntry? (.str name) (overlaid entries extra) = some v := by
  induction extra generalizing entries with
  | nil => cases given
  | cons pair rest ih =>
    obtain ⟨fresh, distinct⟩ := List.nodup_cons.mp distinct
    rcases List.mem_cons.mp given with rfl | later
    · rw [overlaid_cons, findEntry?_overlaid_of_not_mem fresh, present]
      simp only [Bool.false_eq_true, if_false]
      rw [findEntry?_insertEntry, if_pos rfl]
    · rw [overlaid_cons]
      exact ih distinct later

/-- A field takes the value that is given under its name on the wire. -/
theorem fieldFrom_overlaid_of_mem {record : String} {field : RecordField}
    (distinct : (extra.map (·.1)).Nodup) (given : (field.wire, v) ∈ extra)
    (present : v.isNull = false) : fieldFrom types record (overlaid entries extra) field =
      (decode types field.type v).map fun v => (field.name, v) := by
  have found : member? field.wire (overlaid entries extra) = some v := by
    rw [member?, findEntry?_overlaid_of_mem distinct given present]
    simp [present]
  rw [fieldFrom, found]

theorem fieldFrom_overlaid_of_not_mem {record : String} {field : RecordField}
    (other : field.wire ∉ extra.map (·.1)) :
    fieldFrom types record (overlaid entries extra) field =
      fieldFrom types record entries field := by
  rw [fieldFrom, member?, findEntry?_overlaid_of_not_mem other]
  rfl

theorem decodeFields_overlaid_of_unknown {record : String} {fields : List RecordField}
    (unknown : ∀ field ∈ fields, field.wire ∉ extra.map (·.1)) :
    decodeFields types record (overlaid entries extra) fields =
      decodeFields types record entries fields := by
  rw [decodeFields_eq_mapM, decodeFields_eq_mapM]
  exact Except.mapM_congr fun field inside => fieldFrom_overlaid_of_not_mem (unknown field inside)

/-- A value that is for no field is lost: the output is what it is without it. -/
theorem decode_overlaid_of_unknown {record : String} {type : RecordType}
    (found : types.find? record = some type) (received : type.received = true)
    (unknown : ∀ field ∈ type.fields, field.wire ∉ extra.map (·.1)) :
    decode types (.record record) (.map (overlaid entries extra)) =
      decode types (.record record) (.map entries) := by
  rw [decode_record found received, decode_record found received,
    decodeFields_overlaid_of_unknown unknown]

theorem foldl_insertEntry_of_distinct (done : List (Value × Value))
    (distinct : (done ++ entries).Pairwise fun first second => sameKey first.1 second.1 = false) :
    entries.foldl (fun entries (key, v) => insertEntry key v entries) done = done ++ entries := by
  induction entries generalizing done with
  | nil => exact (List.append_nil done).symm
  | cons entry rest ih =>
    obtain ⟨key, v⟩ := entry
    have fresh : ∀ old ∈ done, sameKey old.1 key = false := fun old inside =>
      (List.pairwise_append.mp distinct).2.2 old inside (key, v) List.mem_cons_self
    rw [List.append_cons] at distinct ⊢
    rw [← ih _ distinct, ← insertEntry_of_fresh fresh]
    rfl

theorem overlay_of_distinct
    (distinct : entries.Pairwise fun first second => sameKey first.1 second.1 = false)
    (extra : List (String × Value)) :
    overlay (.map entries) (extra.map fun (name, v) => (.str name, v)) =
      .ok (.map (overlaid entries extra)) := by
  have own : (Value.map entries).toEntries = .ok entries := by
    rw [toEntries, putEntries, foldl_insertEntry_of_distinct [] distinct]
    rfl
  by_cases none : extra = []
  · rw [none]
    rfl
  · have some : (extra.map fun (name, v) => (Value.str name, v)).isEmpty = false := by
      simpa using none
    rw [overlay, some, own, List.filter_map]
    simp only [Bool.false_eq_true, if_false, Except.map, List.foldl_map]
    rfl

end Payload

end ServiceClient
