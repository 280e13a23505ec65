import ServiceClient.Proofs.CodecClosure

/-!
Where readers and writers of elements meet. For each member that both handle, and for the items of a
list, the reader of a shape looks for the elements that its writer appends: of the same name, one for
the member or one for each item, with a text or with the content that the functions of one shape give
and take. Members outside the body and the member that is the whole body of a response are left to
other parts of a request.
-/

namespace ServiceClient

/-! ### Computations for some of the items -/

/-- The results for the items that are kept, of results for all items. -/
def keptResults {α β : Type} (keep : α → Bool) : List α → List β → List β
  | a :: items, b :: results =>
    if keep a then b :: keptResults keep items results else keptResults keep items results
  | _, _ => []

theorem mapM_filter_eq_ok {ε α β : Type} (keep : α → Bool) {f : α → Except ε β} {items : List α}
    {results : List β} (done : items.mapM f = .ok results) :
    (items.filter keep).mapM f = .ok (keptResults keep items results) := by
  induction items generalizing results with
  | nil => rfl
  | cons a rest ih =>
    simp only [List.mapM_cons, Except.bind_eq_ok_iff, Except.pure_eq_ok_iff] at done
    obtain ⟨b, first, others, done, rfl⟩ := done
    have kept := ih done
    by_cases stays : keep a = true
    · rw [List.filter_cons_of_pos stays, List.mapM_cons, first, kept]
      simp [keptResults, stays]
    · rw [List.filter_cons_of_neg stays, kept]
      simp [keptResults, stays]

theorem filter_filter_of_imp {α : Type} {keep live : α → Bool} {items : List α}
    (lives : ∀ a, keep a = true → live a = true) : (items.filter live).filter keep =
      items.filter keep := by
  rw [List.filter_filter]
  apply List.filter_congr
  intro a _
  by_cases stays : keep a = true
  · simp [stays, lives a stays]
  · simp [stays]

/-- Two results of each item that follow one plan make two lists that follow one list of plans. -/
theorem exists_plans_of_mapM {ε α β γ δ : Type} {R : α → δ → β → Prop} {S : α → δ → γ → Prop}
    {f : α → Except ε β} {g : α → Except ε γ} {items : List α} {bs : List β} {cs : List γ}
    (first : items.mapM f = .ok bs) (second : items.mapM g = .ok cs)
    (planned : ∀ a ∈ items, ∀ b c, f a = .ok b → g a = .ok c → ∃ plan, R a plan b ∧ S a plan c) :
    ∃ plans : List (α × δ), plans.map (·.1) = items ∧
      List.Forall₂ (fun plan b => R plan.1 plan.2 b) plans bs ∧
      List.Forall₂ (fun plan c => S plan.1 plan.2 c) plans cs := by
  induction items generalizing bs cs with
  | nil =>
    cases first
    cases second
    exact ⟨[], rfl, .nil, .nil⟩
  | cons a rest ih =>
    simp only [List.mapM_cons, Except.bind_eq_ok_iff, Except.pure_eq_ok_iff] at first second
    obtain ⟨b, firstA, bs, first, rfl⟩ := first
    obtain ⟨c, secondA, cs, second, rfl⟩ := second
    obtain ⟨plan, followsFirst, followsSecond⟩ := planned a List.mem_cons_self b c firstA secondA
    obtain ⟨plans, same, allFirst, allSecond⟩ :=
      ih first second fun other inside => planned other (List.mem_cons_of_mem _ inside)
    exact ⟨(a, plan) :: plans, by rw [List.map_cons, same], .cons followsFirst allFirst,
      .cons followsSecond allSecond⟩

/-! ### Layouts -/

/-- How the values of a member, or the items of a list, stand in an element. -/
structure ElementLayout where
  tag : String
  /-- There is an element for each item, directly in the element of the structure. -/
  flat : Bool
  /-- The shape whose functions read and write the values; none for plain texts. -/
  codec : Option String
  deriving DecidableEq, Repr

namespace ElementLayout

/-- A parser takes values as they are laid out. -/
def Parses (layout : ElementLayout) (parser : Parser) : Prop :=
  match layout.codec with
  | some shape => parser = .reader (Naming.readerName (Naming.typeName shape))
  | none => ∀ function, parser ≠ .reader function

/-- An accessor takes a member as it is laid out. -/
def Reads (layout : ElementLayout) : Accessor → Prop
  | .flattened tag parser => layout.flat = true ∧ layout.tag = tag ∧ layout.Parses parser
  | .required tag parser | .optional tag parser =>
    layout.flat = false ∧ layout.tag = tag ∧ layout.Parses parser
  | .header .. | .headers _ | .status | .bodyOctets | .bodyText | .payload _ => False

/-- What is appended is laid out so. -/
def Writes (layout : ElementLayout) (write : ElementWrite) : Prop :=
  layout.tag = write.tag ∧
    write.writer = layout.codec.map fun shape => Naming.writerName (Naming.typeName shape)

/-! ### Texts of layouts -/

/-- The parsers in a text that take values as they are laid out. -/
def parsers (layout : ElementLayout) : List String :=
  match layout.codec with
  | some shape => [Naming.readerName (Naming.typeName shape)]
  | none => ["_xml.text", "_xml.integer", "_xml.floating", "_xml.boolean", "_xml.blob"]

/-- The expressions in a text that take a member as it is laid out. -/
def accesses (layout : ElementLayout) : List String :=
  layout.parsers.flatMap fun parser =>
    if layout.flat then [s!"_xml.flattened(node, \"{layout.tag}\", {parser})"]
    else [s!"_xml.required(node, \"{layout.tag}\", {parser})",
      s!"_xml.optional(node, \"{layout.tag}\", {parser})"]

/-- The statement in a text that appends a value as it is laid out. -/
def append (layout : ElementLayout) (parent value : String) : String :=
  match layout.codec with
  | some shape =>
    s!"{parent}.append({Naming.writerName (Naming.typeName shape)}(\"{layout.tag}\", {value}))"
  | none => s!"_xml.append_text({parent}, \"{layout.tag}\", {value})"

/-- The statements in a text that append a field as it is laid out. -/
def appends (layout : ElementLayout) (field : String) : List String :=
  if layout.flat then [s!"for item in obj.{field}:", "    " ++ layout.append "node" "item"]
  else [layout.append "node" ("obj." ++ field)]

variable {layout : ElementLayout}

theorem Parses.expression_mem {parser : Parser} (parses : layout.Parses parser) :
    parser.expression ∈ layout.parsers := by
  rcases layout with ⟨tag, flat, _ | shape⟩
  · cases parser with
    | reader function => exact absurd rfl (parses function)
    | _ => simp [parsers, Parser.expression]
  · obtain rfl : parser = _ := parses
    exact List.mem_singleton.mpr rfl

theorem Reads.expression_mem {accessor : Accessor} (reads : layout.Reads accessor) :
    accessor.expression ∈ layout.accesses := by
  cases accessor with
  | header | headers | status | bodyOctets | bodyText | payload => cases reads
  | flattened tag parser =>
    obtain ⟨flat, rfl, parses⟩ := reads
    refine List.mem_flatMap.mpr ⟨_, parses.expression_mem, ?_⟩
    rw [if_pos flat]
    exact List.mem_singleton.mpr rfl
  | required tag parser =>
    obtain ⟨single, rfl, parses⟩ := reads
    refine List.mem_flatMap.mpr ⟨_, parses.expression_mem, ?_⟩
    rw [if_neg (Bool.not_eq_true _ ▸ single)]
    exact List.mem_cons_self
  | optional tag parser =>
    obtain ⟨single, rfl, parses⟩ := reads
    refine List.mem_flatMap.mpr ⟨_, parses.expression_mem, ?_⟩
    rw [if_neg (Bool.not_eq_true _ ▸ single)]
    exact List.mem_cons_of_mem _ (List.mem_singleton.mpr rfl)

theorem Writes.line_eq {write : ElementWrite} (writes : layout.Writes write) :
    write.line = layout.append := by
  rcases layout with ⟨tag, flat, _ | shape⟩ <;> obtain ⟨rfl, writer⟩ := writes <;>
    funext parent value <;> simp only [Option.map] at writer <;>
    simp only [ElementWrite.line, append, writer]

theorem Writes.lines_eq {field : WriterField} (flat : field.flattened = layout.flat)
    (writes : layout.Writes field.write) : field.lines = layout.appends field.name := by
  simp only [WriterField.lines, appends, flat, writes.line_eq]
  rfl

end ElementLayout

namespace Shape

/-- The members that a reader fills. -/
def readMembers (shape : Shape) : List (String × Member) :=
  shape.members.filter (!·.2.deprecated)

/-- The members that a writer appends. -/
def writtenMembers (shape : Shape) : List (String × Member) :=
  shape.members.filter fun (_, member) =>
    !member.deprecated && !outsideBody.contains member.location

/-- A member is in the element of its structure: it is not deprecated, it has no location outside the
body, and it is not the whole body of a response. -/
def inElement (shape : Shape) (style : ReaderStyle) (pair : String × Member) : Bool :=
  !pair.2.deprecated && !outsideBody.contains pair.2.location &&
    !(style.withResponse && shape.payload == .str pair.1)

end Shape

/-- The texts of a reader and a writer of a structure agree on what stands in its element: they handle
the same members in the same order, each under the same name of a field and with the same layout. -/
def MembersAgree (shape : Shape) (style : ReaderStyle) (reader : XmlReader) (writer : XmlWriter) :
    Prop :=
  ∃ (arguments : List (String × Accessor)) (looked : List WriterField),
    reader.render = .ok (reader.heading ++ XmlReader.call reader.type arguments) ∧
    writer.render = .ok (writer.heading ++ String.join (looked.map XmlWriter.appendLines) ++
      "    return node\n") ∧
    arguments.length = shape.readMembers.length ∧ looked.length = shape.writtenMembers.length ∧
    ∃ plans : List ((String × Member) × ElementLayout),
      plans.map (·.1) = shape.members.filter (shape.inElement style) ∧
      List.Forall₂ (fun plan argument => argument.1 = Naming.fieldName plan.1.1 ∧
          argument.2.expression ∈ plan.2.accesses)
        plans (keptResults (shape.inElement style) shape.readMembers arguments) ∧
      List.Forall₂ (fun plan field => field.name = Naming.fieldName plan.1.1 ∧
          field.lines = plan.2.appends field.name)
        plans (keptResults (shape.inElement style) shape.writtenMembers looked)

/-- The texts of a reader and a writer of a list agree on the layout of its items. -/
def ItemsAgree (reader : XmlReader) (writer : XmlWriter) : Prop :=
  ∃ layout : ElementLayout,
    (∃ parser ∈ layout.parsers, reader.render =
      .ok (reader.heading ++ s!"    return _xml.items(node, \"{layout.tag}\", {parser})\n")) ∧
    writer.render = .ok (writer.heading ++ "    for item in obj:\n" ++
      XmlWriter.innerLine (layout.append "node" "item") ++ "    return node\n")

/-- A reader and a writer of one structure or list agree. -/
def LayoutsAgree (shape : Shape) (style : ReaderStyle) (reader : XmlReader) (writer : XmlWriter) :
    Prop :=
  (shape.kind? = some .struct → MembersAgree shape style reader writer) ∧
    (shape.kind? = some .list → ItemsAgree reader writer)

namespace Service

variable {service : Service}

theorem ofKind_ne_reader (kind : Option ShapeKind) (function : String) :
    Parser.ofKind kind ≠ .reader function := by
  intro same
  have calls := calls_ofKind kind
  rw [same] at calls
  cases calls

/-- The values of a shape are read and written by its own functions, or else as texts. -/
theorem exists_codec_of_parserOf {reference : Json} {parser : Parser} {tag : String}
    {write : ElementWrite} (reads : service.parserOf reference = .ok parser)
    (writes : service.elementWrite reference tag = .ok write) (flat : Bool) :
    ∃ layout : ElementLayout, layout.flat = flat ∧ layout.tag = tag ∧ layout.Parses parser ∧
      layout.Writes write := by
  simp only [parserOf, Except.bind_eq_ok_iff] at reads
  obtain ⟨kind, known, reads⟩ := reads
  simp only [elementWrite, hasParts, known, Except.map, Except.ok_bind] at writes
  by_cases parts : (kind.map ShapeKind.hasParts).getD false = true
  · rw [if_pos parts] at reads writes
    have defines := known
    simp only [kindOf, Except.map_eq_ok_iff, shape_eq_ok_iff] at defines
    obtain ⟨shape, ⟨name, rfl, -⟩, -⟩ := defines
    simp only [Json.typeName, Except.ok_bind, Except.pure_eq_ok_iff] at reads writes
    refine ⟨⟨tag, flat, some name⟩, rfl, rfl, ?_, ?_⟩
    · exact reads.symm
    · rw [← writes]
      exact ⟨rfl, rfl⟩
  · rw [if_neg parts] at reads writes
    have isText : Parser.ofKind kind = parser := Except.pure_eq_ok_iff.mp reads
    have isTextWrite : (⟨tag, none⟩ : ElementWrite) = write := Except.pure_eq_ok_iff.mp writes
    subst isText isTextWrite
    exact ⟨⟨tag, flat, none⟩, rfl, rfl, ofKind_ne_reader kind, rfl, rfl⟩

/-- A member in an element is read where it is written. -/
theorem exists_layout_of_elementAccessor {shape : Shape} {name : String} {member : Member}
    {accessor : Accessor} {field : WriterField}
    (reads : service.elementAccessor false shape name member = .ok accessor)
    (writes : service.writerField name member = .ok field) :
    ∃ layout : ElementLayout, layout.Reads accessor ∧
      field.name = Naming.fieldName name ∧ field.flattened = layout.flat ∧
        layout.Writes field.write := by
  simp only [elementAccessor, Except.bind_eq_ok_iff, Bool.false_eq_true, if_false] at reads
  obtain ⟨flat, isFlat, reads⟩ := reads
  simp only [writerField, isFlat, Except.ok_bind] at writes
  by_cases stands : flat = true
  · -- the element's own location name wins over that of the member
    rw [if_pos stands] at reads writes
    simp only [Except.bind_eq_ok_iff, Except.pure_eq_ok_iff] at reads writes
    obtain ⟨list, defines, part, present, element, given, parser, parses, rfl⟩ := reads
    obtain ⟨_, definesAgain, _, givenAgain, _, presentAgain, write, writes, rfl⟩ := writes
    obtain rfl := Except.ok.inj (defines.symm.trans definesAgain)
    obtain rfl := Except.ok.inj (given.symm.trans givenAgain)
    obtain rfl := Except.ok.inj (present.symm.trans presentAgain)
    obtain ⟨layout, isFlat, tag, takes, gives⟩ := exists_codec_of_parserOf parses writes true
    refine ⟨layout, ⟨isFlat, tag, takes⟩, ?_, isFlat.symm, gives⟩
    dsimp only
  · rw [if_neg stands] at reads writes
    simp only [Except.bind_eq_ok_iff, Except.pure_eq_ok_iff] at reads writes
    obtain ⟨parser, parses, rfl⟩ := reads
    obtain ⟨write, writes, rfl⟩ := writes
    obtain ⟨layout, single, tag, takes, gives⟩ := exists_codec_of_parserOf parses writes false
    refine ⟨layout, ?_, ?_, single.symm, gives⟩
    · by_cases needed : shape.requires name = true
      · rw [if_pos needed]
        exact ⟨single, tag, takes⟩
      · rw [if_neg needed]
        exact ⟨single, tag, takes⟩
    · dsimp only

/-- A member that is in the element is read from there. -/
theorem accessor_of_inElement {style : ReaderStyle} {shape : Shape} {name : String} {member : Member}
    (inside : shape.inElement style (name, member) = true) :
    service.accessor style shape name member =
      service.elementAccessor style.ec2 shape name member := by
  simp only [Shape.inElement, outsideBody, Bool.and_eq_true, Bool.not_eq_true', List.contains_eq_mem,
    decide_eq_false_iff_not, List.mem_cons, List.not_mem_nil, or_false, not_or,
    Bool.and_eq_false_imp, beq_eq_false_iff_ne] at inside
  obtain ⟨⟨-, -, -, header, headers, status⟩, notWhole⟩ := inside
  unfold Service.accessor
  cases withResponse : style.withResponse
  · simp
  · have other : shape.payload ≠ .str name := notWhole withResponse
    simp [header, headers, status, other]

/-- The members of a structure that stand in its element. -/
theorem members_agree {style : ReaderStyle} (plain : style.ec2 = false) {type : String}
    {shape : Shape} {arguments : List (String × Accessor)} {looked : List WriterField}
    (reads : service.readerFields style shape = .ok arguments)
    (writes : service.writerFields shape = .ok looked) :
    MembersAgree shape style ⟨type, style, .struct arguments⟩ ⟨type, .struct looked⟩ := by
  have readLengths := (Except.mapM_eq_ok_iff.mp reads).length_eq
  have writtenLengths := (Except.mapM_eq_ok_iff.mp writes).length_eq
  refine ⟨arguments, looked, XmlReader.render_struct .., XmlWriter.render_struct ..,
    readLengths.symm, writtenLengths.symm, ?_⟩
  have keptReads := mapM_filter_eq_ok (shape.inElement style) reads
  have keptWrites := mapM_filter_eq_ok (shape.inElement style) writes
  have live : ∀ pair, shape.inElement style pair = true → (!pair.2.deprecated) = true := by
    intro pair inside
    simp only [Shape.inElement, Bool.and_eq_true] at inside
    exact inside.1.1
  have written : ∀ pair, shape.inElement style pair = true →
      (!pair.2.deprecated && !outsideBody.contains pair.2.location) = true := by
    intro pair inside
    simp only [Shape.inElement, Bool.and_eq_true] at inside ⊢
    exact inside.1
  rw [filter_filter_of_imp live] at keptReads
  rw [filter_filter_of_imp written] at keptWrites
  apply exists_plans_of_mapM
    (R := fun pair (layout : ElementLayout) argument => argument.1 = Naming.fieldName pair.1 ∧
      argument.2.expression ∈ layout.accesses)
    (S := fun pair (layout : ElementLayout) field => field.name = Naming.fieldName pair.1 ∧
      field.lines = layout.appends field.name) keptReads keptWrites
  rintro ⟨name, member⟩ listed ⟨fieldName, accessor⟩ field read write
  have inside : shape.inElement style (name, member) = true := (List.mem_filter.mp listed).2
  simp only [Except.bind_eq_ok_iff, Except.pure_eq_ok_iff, Prod.mk.injEq] at read
  obtain ⟨_, read, named, rfl⟩ := read
  rw [accessor_of_inElement inside, plain] at read
  obtain ⟨layout, takes, sameName, flat, gives⟩ := exists_layout_of_elementAccessor read write
  exact ⟨layout, ⟨named.symm, takes.expression_mem⟩, sameName, gives.lines_eq flat⟩

/-- The items of a list. -/
theorem items_agree {style : ReaderStyle} {type tag : String} {parser : Parser}
    {write : ElementWrite} {layout : ElementLayout} (named : layout.tag = tag)
    (takes : layout.Parses parser) (gives : layout.Writes write) :
    ItemsAgree ⟨type, style, .list tag parser⟩ ⟨type, .list write⟩ := by
  subst named
  refine ⟨layout, ⟨parser.expression, takes.expression_mem, ?_⟩, ?_⟩
  · exact XmlReader.render_list ..
  · rw [XmlWriter.render_list, gives.line_eq]

/-- The reader and the writer of a structure or a list agree on what stands in its element. -/
theorem xml_layouts_agree {style : ReaderStyle} {type : String} {shape : Shape} {reader : XmlReader}
    {writer : XmlWriter} (plain : style.ec2 = false)
    (reads : service.xmlReader? style type shape = .ok (some reader))
    (writes : service.xmlWriter? type shape = .ok (some writer)) :
    LayoutsAgree shape style reader writer := by
  constructor
  · intro struct
    simp only [xmlReader?, struct, Except.bind_eq_ok_iff, Except.pure_eq_ok_iff,
      Option.some.injEq] at reads
    simp only [xmlWriter?, struct, Except.bind_eq_ok_iff, Except.pure_eq_ok_iff,
      Option.some.injEq] at writes
    obtain ⟨arguments, reads, rfl⟩ := reads
    obtain ⟨looked, writes, rfl⟩ := writes
    exact members_agree plain reads writes
  · intro list
    simp only [xmlReader?, list, Except.bind_eq_ok_iff, Except.pure_eq_ok_iff,
      Option.some.injEq] at reads
    simp only [xmlWriter?, list, Except.bind_eq_ok_iff, Except.pure_eq_ok_iff,
      Option.some.injEq] at writes
    obtain ⟨part, present, parser, parses, rfl⟩ := reads
    obtain ⟨_, presentAgain, element, given, write, writes, rfl⟩ := writes
    obtain rfl := Except.ok.inj (present.symm.trans presentAgain)
    have same : element = part.shape := by
      cases member : shape.member with
      | none => simp [Shape.part, member] at present
      | some slot =>
        simp only [Shape.part, member, Except.ok.injEq] at present
        simp only [Shape.elementShape, member, Except.ok.injEq] at given
        rw [← given, present]
    rw [same] at writes
    obtain ⟨layout, -, tag, takes, gives⟩ := exists_codec_of_parserOf parses writes false
    exact items_agree tag takes gives

/-- The shape of an album: its shots have no element around them, its title has another name, its
cover is the whole body of a response and its size is in the header. -/
def album : Shape where
  name := "Album"
  type := .str "structure"
  payload := .str "Cover"
  members := [
    ("Title", { shape := .str "Text", locationName := .str "Name" }),
    ("Shots", { shape := .str "PictureList", flattened := true, locationName := .str "Shot" }),
    ("Best", { shape := .str "Picture" }),
    ("Cover", { shape := .str "Picture" }),
    ("Size", { shape := .str "Number", location := .str "header" }),
    ("Color", { shape := .str "Text", deprecated := true })]

/-- A service of albums. -/
def albums : Service where
  metadata := { protocol := .str "rest-xml", fullName := .str "Albums" }
  shapes := [
    ("Album", album),
    ("PictureList", { name := "PictureList", type := .str "list",
                      member := some { shape := .str "Picture", locationName := .str "Item" } }),
    ("Picture", { name := "Picture", type := .str "structure",
                  members := [("Text", { shape := .str "Text" })] }),
    ("Text", { name := "Text", type := .str "string" }),
    ("Number", { name := "Number", type := .str "integer" })]

/-- The shots of an album are read where they are written, under the name of the list's items. -/
theorem xml_layouts_agree_album :
    album.kind? = some .struct ∧ ∃ reader writer,
      albums.xmlReader? ⟨true, false⟩ "Album" album = .ok (some reader) ∧
      albums.xmlWriter? "Album" album = .ok (some writer) ∧
      reader.render = .ok (reader.heading ++ "    return Album(\n" ++
        "        title=_xml.optional(node, \"Name\", _xml.text),\n" ++
        "        shots=_xml.flattened(node, \"Item\", deserialize_picture),\n" ++
        "        best=_xml.optional(node, \"Best\", deserialize_picture),\n" ++
        "        cover=_xml.payload(node, deserialize_picture),\n" ++
        "        size=_params.header(response, \"Size\", _xml.integer),\n" ++ "    )\n") ∧
      writer.render = .ok (writer.heading ++
        "    if obj.title is not None:\n" ++
        "        _xml.append_text(node, \"Name\", obj.title)\n" ++
        "    if obj.shots is not None:\n" ++ "        for item in obj.shots:\n" ++
        "            node.append(serialize_picture(\"Item\", item))\n" ++
        "    if obj.best is not None:\n" ++
        "        node.append(serialize_picture(\"Best\", obj.best))\n" ++
        "    if obj.cover is not None:\n" ++
        "        node.append(serialize_picture(\"Cover\", obj.cover))\n" ++ "    return node\n") ∧
      LayoutsAgree album ⟨true, false⟩ reader writer := by
  have reads : albums.xmlReader? ⟨true, false⟩ "Album" album = .ok (some ⟨"Album", ⟨true, false⟩,
      .struct [
        ("title", .optional "Name" .text),
        ("shots", .flattened "Item" (.reader "deserialize_picture")),
        ("best", .optional "Best" (.reader "deserialize_picture")),
        ("cover", .payload (.reader "deserialize_picture")),
        ("size", .header "Size" .integer)]⟩) := by cbv
  have writes : albums.xmlWriter? "Album" album = .ok (some ⟨"Album", .struct [
        ⟨"title", false, ⟨"Name", none⟩⟩,
        ⟨"shots", true, ⟨"Item", some "serialize_picture"⟩⟩,
        ⟨"best", false, ⟨"Best", some "serialize_picture"⟩⟩,
        ⟨"cover", false, ⟨"Cover", some "serialize_picture"⟩⟩]⟩) := by cbv
  refine ⟨by decide, _, _, reads, writes, ?_, ?_, xml_layouts_agree rfl reads writes⟩
  · rw [XmlReader.render_struct]
    decide +kernel
  · rw [XmlWriter.render_struct]
    decide +kernel

end Service

end ServiceClient
