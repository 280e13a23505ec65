import ServiceClient.Module.FormWriter
import ServiceClient.Proofs.Piece

/-!
The texts of readers and writers, in pieces. What a function binds, calls and looks at is told by the
pieces of its text; so whoever follows them speaks of what stands in a module.
-/

namespace ServiceClient

open Pieces (spell line)
open Template (Spells render_of_spells)

/-! ### Expressions and statements -/

def Parser.piece : Parser → Piece
  | text => "_xml.text"
  | integer => "_xml.integer"
  | floating => "_xml.floating"
  | boolean => "_xml.boolean"
  | blob => "_xml.blob"
  | reader function => ⟨.call, function⟩

theorem Parser.expression_eq (parser : Parser) : parser.expression = parser.piece.text := by
  cases parser <;> rfl

/-- The reader that a parser is. -/
def Parser.calls : Parser → List String
  | reader function => [function]
  | _ => []

namespace Accessor

def pieces : Accessor → Pieces
  | header name parser =>
    ["_params.header(response, \"", ⟨.data, name⟩, "\", ", parser.piece, ")"]
  | headers start => ["_params.prefixed_headers(response, \"", ⟨.data, start⟩, "\")"]
  | status => ["_params.status(response)"]
  | bodyOctets => ["response.body if response is not None else None"]
  | bodyText => ["response.text if response is not None else None"]
  | payload parser => ["_xml.payload(node, ", parser.piece, ")"]
  | flattened tag parser =>
    ["_xml.flattened(node, \"", ⟨.data, tag⟩, "\", ", parser.piece, ")"]
  | required tag parser => ["_xml.required(node, \"", ⟨.data, tag⟩, "\", ", parser.piece, ")"]
  | optional tag parser => ["_xml.optional(node, \"", ⟨.data, tag⟩, "\", ", parser.piece, ")"]

theorem expression_eq (accessor : Accessor) : accessor.expression = spell accessor.pieces := by
  cases accessor <;> dsimp only [expression, pieces] <;>
    simp [Parser.expression_eq, toString, String.append_assoc]

/-- The readers that an accessor hands over or calls. -/
def calls : Accessor → List String
  | header _ parser | payload parser | flattened _ parser | required _ parser | optional _ parser =>
    parser.calls
  | headers _ | status | bodyOctets | bodyText => []

end Accessor

namespace ElementWrite

/-- The statement that appends a value to an element. -/
def pieces (write : ElementWrite) (parent value : String) : Pieces :=
  match write.writer with
  | some function =>
    [⟨.fixed, parent⟩, ".append(", ⟨.call, function⟩, "(\"", ⟨.data, write.tag⟩, "\", ",
      ⟨.data, value⟩, "))"]
  | none =>
    ["_xml.append_text(", ⟨.fixed, parent⟩, ", \"", ⟨.data, write.tag⟩, "\", ", ⟨.data, value⟩, ")"]

theorem line_eq (write : ElementWrite) (parent value : String) :
    write.line parent value = spell (write.pieces parent value) := by
  rcases write with ⟨tag, _ | function⟩ <;> simp [line, pieces, toString, String.append_assoc]

end ElementWrite

namespace FormPut

/-- The statement that puts a value. -/
def pieces (put : FormPut) (value : String) : Pieces :=
  match put.writer with
  | some function =>
    [⟨.call, function⟩, "(params, ", ⟨.data, put.key⟩, ", ", ⟨.data, value⟩, ")"]
  | none => ["_params.put(params, ", ⟨.data, put.key⟩, ", ", ⟨.data, value⟩, ")"]

theorem line_eq (put : FormPut) (value : String) : put.line value = spell (put.pieces value) := by
  rcases put with ⟨key, _ | function⟩ <;> simp [line, pieces, toString, String.append_assoc]

end FormPut

/-! ### Readers of elements -/

namespace XmlReader

def headPieces (reader : XmlReader) : Pieces :=
  ["def ", ⟨.function, reader.function⟩, "(", ⟨.fixed, reader.parameters⟩, ") -> ",
    ⟨.use, reader.type⟩, ":\n"]

/-- A keyword and its value in the call of a record. -/
def argumentPieces (argument : String × Accessor) : Pieces :=
  "        " :: ⟨.data, argument.1⟩ :: "=" :: (argument.2.pieces ++ [(",\n" : Piece)])

/-- The call of a record. -/
def callPieces (type : String) (arguments : List (String × Accessor)) : Pieces :=
  if arguments.isEmpty then ["    return ", ⟨.use, type⟩, "()\n"]
  else "    return " :: ⟨.use, type⟩ :: "(\n" ::
    (arguments.flatMap argumentPieces ++ [("    )\n" : Piece)])

def bodyPieces (type : String) : ReaderBody → Pieces
  | .struct arguments => callPieces type arguments
  | .list tag item => ["    return _xml.items(node, \"", ⟨.data, tag⟩, "\", ", item.piece, ")\n"]
  | .map key value => ["    return _xml.entries(node, ", key.piece, ", ", value.piece, ")\n"]

def pieces (reader : XmlReader) : Pieces :=
  reader.headPieces ++ bodyPieces reader.type reader.body

def argumentItem (argument : String × Accessor) : Json :=
  .obj [("name", .str argument.1), ("expr", .str argument.2.expression)]

theorem spells_argument (scope : Scope) (argument : String × Accessor) :
    Spells (("field", argumentItem argument) :: scope) [
      .text "        ", .put (.field "field" "name"), .text "=", .put (.field "field" "expr"),
      .text ",\n"] (argumentPieces argument) :=
  .text (.put rfl (.text (.putPieces
    (congrArg (some ∘ Json.str) argument.2.expression_eq) (.text .nil))))

/-- The text of a reader is that of its pieces. -/
theorem render_eq (reader : XmlReader) : reader.render = .ok (spell reader.pieces) := by
  rcases reader with ⟨type, style, arguments | ⟨tag, item⟩ | ⟨key, value⟩⟩
  · refine render_of_spells (.text (.put rfl (.text (.put rfl (.text (.put rfl (.text
      (.last (.test_of_present rfl rfl (.last (.ifAny argumentItem rfl ?_ ?_ .nil)) .nil)))))))))
    · refine .text (.put rfl (.text ?_))
      exact .each argumentItem argumentPieces _ rfl (fun _ => rfl)
        (fun argument _ => spells_argument _ argument) (.text .nil)
    · exact .text (.put rfl (.text .nil))
  · have parser := congrArg (some ∘ Json.str) item.expression_eq
    exact render_of_spells (.text (.put rfl (.text (.put rfl (.text (.put rfl (.text
      (.last (.test_of_absent rfl rfl (.last (.test_of_present rfl rfl
        (.text (.put rfl (.text (.put parser (.text .nil))))) .nil)) .nil)))))))))
  · have keyParser := congrArg (some ∘ Json.str) key.expression_eq
    have valueParser := congrArg (some ∘ Json.str) value.expression_eq
    exact render_of_spells (.text (.put rfl (.text (.put rfl (.text (.put rfl (.text
      (.last (.test_of_absent rfl rfl (.last (.test_of_absent rfl rfl
        (.text (.put keyParser (.text (.put valueParser (.text .nil))))) .nil)) .nil)))))))))

end XmlReader

/-! ### Writers of forms -/

namespace FormWriter

def headPieces (writer : FormWriter) : Pieces :=
  ["def ", ⟨.function, writer.function⟩, "(params: _t.Dict[str, str], name: str, obj: ",
    ⟨.use, writer.type⟩, ") -> None:\n"]

/-- The lines that put a field, unless it is missing. -/
def fieldPieces (field : FormField) : Pieces :=
  "    if obj." :: ⟨.data, field.name⟩ :: " is not None:\n" ::
    line "        " (field.put.pieces ("obj." ++ field.name))

def bodyPieces : FormBody → Pieces
  | .struct fields =>
    if fields.isEmpty then ["    pass\n"]
    else "    prefix = f\"\x7bname\x7d.\" if name else \"\"\n" :: fields.flatMap fieldPieces
  | .list item =>
    "    for index, item in enumerate(obj, start=1):\n" :: line "        " (item.pieces "item")
  | .map key value =>
    "    for index, (key, value) in enumerate(obj.items(), start=1):\n" ::
      (line "        " (key.pieces "key") ++ line "        " (value.pieces "value"))

def pieces (writer : FormWriter) : Pieces := writer.headPieces ++ bodyPieces writer.body

def fieldItem (field : FormField) : Json :=
  .obj [("name", .str field.name), ("statement", .str (field.put.line ("obj." ++ field.name)))]

theorem spells_field (scope : Scope) (field : FormField) :
    Spells (("field", fieldItem field) :: scope) [
      .text "    if obj.", .put (.field "field" "name"), .text " is not None:\n",
      .text "        ", .put (.field "field" "statement"), .text "\n"] (fieldPieces field) :=
  .text (.put rfl (.text (.last (.line
    (congrArg (some ∘ Json.str) (field.put.line_eq _)) .nil))))

/-- The text of a writer is that of its pieces. -/
theorem render_eq (writer : FormWriter) : writer.render = .ok (spell writer.pieces) := by
  rcases writer with ⟨type, fields | item | ⟨key, value⟩⟩
  · refine render_of_spells (.text (.put rfl (.text (.put rfl (.text
      (.last (.test_of_present rfl rfl (.last (.ifAny fieldItem rfl ?_ (.text .nil) .nil)) .nil)))))))
    refine .text (.last ?_)
    exact .each fieldItem fieldPieces _ rfl (fun _ => rfl) (fun field _ => spells_field _ field) .nil
  · have written := congrArg (some ∘ Json.str) (item.line_eq "item")
    exact render_of_spells (.text (.put rfl (.text (.put rfl (.text
      (.last (.test_of_absent rfl rfl (.last (.test_of_present rfl rfl
        (.text (.last (.line written .nil))) .nil)) .nil)))))))
  · have keyLine := congrArg (some ∘ Json.str) (key.line_eq "key")
    have valueLine := congrArg (some ∘ Json.str) (value.line_eq "value")
    exact render_of_spells (.text (.put rfl (.text (.put rfl (.text
      (.last (.test_of_absent rfl rfl (.last (.test_of_absent rfl rfl
        (.text (.line keyLine (.last (.line valueLine .nil)))) .nil)) .nil)))))))

end FormWriter

/-! ### Writers of elements -/

namespace WriterField

/-- The statements that append a field, one a line. -/
def linePieces (field : WriterField) : List Pieces :=
  if field.flattened then
    [["for item in ", ⟨.data, "obj." ++ field.name⟩, ":"],
      "    " :: field.write.pieces "node" "item"]
  else [field.write.pieces "node" ("obj." ++ field.name)]

theorem lines_eq (field : WriterField) : field.lines = field.linePieces.map spell := by
  by_cases flat : field.flattened = true <;>
    simp [lines, linePieces, flat, ElementWrite.line_eq, toString, String.append_assoc]

end WriterField

namespace XmlWriter

def headPieces (writer : XmlWriter) : Pieces :=
  ["def ", ⟨.function, writer.function⟩, "(tag: str, obj: ", ⟨.use, writer.type⟩,
    ") -> _xml.Element:\n", "    node = _xml.element(tag)\n"]

/-- The lines that append a field, unless it is missing. -/
def fieldPieces (field : WriterField) : Pieces :=
  "    if obj." :: ⟨.data, field.name⟩ :: " is not None:\n" ::
    field.linePieces.flatMap (line "        ")

def bodyPieces : WriterBody → Pieces
  | .struct fields => fields.flatMap fieldPieces
  | .list item => "    for item in obj:\n" :: line "        " (item.pieces "node" "item")
  | .map key value =>
    "    for key, value in obj.items():\n" ::
      "        entry = _xml.child(node, \"entry\")\n" ::
        (line "        " (key.pieces "entry" "key") ++
          line "        " (value.pieces "entry" "value"))

def pieces (writer : XmlWriter) : Pieces :=
  writer.headPieces ++ (bodyPieces writer.body ++ [("    return node\n" : Piece)])

def fieldItem (field : WriterField) : Json :=
  .obj [("name", .str field.name), ("lines", .arr (field.lines.map .str))]

theorem spells_field (scope : Scope) (field : WriterField) :
    Spells (("field", fieldItem field) :: scope) [
      .text "    if obj.", .put (.field "field" "name"), .text " is not None:\n",
      .each ["line"] (.field "field" "lines") [.text "        ", .put (.name "line"), .text "\n"]]
      (fieldPieces field) := by
  have lines : field.lines.map Json.str = field.linePieces.map fun line => .str (spell line) := by
    rw [field.lines_eq, List.map_map]
    rfl
  exact .text (.put rfl (.text (.last (.lines (congrArg (some ∘ Json.arr) lines) .nil))))

/-- The text of a writer is that of its pieces. -/
theorem render_eq (writer : XmlWriter) : writer.render = .ok (spell writer.pieces) := by
  rcases writer with ⟨type, fields | item | ⟨key, value⟩⟩
  · refine render_of_spells (.text (.put rfl (.text (.put rfl (.text (.text (.skip
      (.test_of_present rfl rfl (.last ?_) (.text .nil)))))))))
    exact .each fieldItem fieldPieces _ rfl (fun _ => rfl) (fun field _ => spells_field _ field) .nil
  · have written := congrArg (some ∘ Json.str) (item.line_eq "node" "item")
    exact render_of_spells (.text (.put rfl (.text (.put rfl (.text (.text (.skip
      (.test_of_absent rfl rfl (.last (.test_of_present rfl rfl
        (.text (.last (.line written .nil))) .nil)) (.text .nil)))))))))
  · have keyLine := congrArg (some ∘ Json.str) (key.line_eq "entry" "key")
    have valueLine := congrArg (some ∘ Json.str) (value.line_eq "entry" "value")
    exact render_of_spells (.text (.put rfl (.text (.put rfl (.text (.text (.skip
      (.test_of_absent rfl rfl (.last (.test_of_absent rfl rfl
        (.text (.text (.line keyLine (.last (.line valueLine .nil))))) .nil)) (.text .nil)))))))))

end XmlWriter

/-! ### Texts of structures -/

namespace XmlReader

def heading (reader : XmlReader) : String :=
  "def " ++ reader.function ++ "(" ++ reader.parameters ++ ") -> " ++ reader.type ++ ":\n"

/-- A keyword and its value in the call of a record. -/
def argumentLine (argument : String × Accessor) : String :=
  "        " ++ argument.1 ++ "=" ++ argument.2.expression ++ ",\n"

/-- The call of a record. -/
def call (type : String) (arguments : List (String × Accessor)) : String :=
  if arguments.isEmpty then "    return " ++ type ++ "()\n"
  else "    return " ++ type ++ "(\n" ++ String.join (arguments.map argumentLine) ++ "    )\n"

theorem heading_eq (reader : XmlReader) : reader.heading = spell reader.headPieces := by
  simp [heading, headPieces, String.append_assoc]

theorem argumentLine_eq : argumentLine = fun argument => spell (argumentPieces argument) := by
  funext argument
  simp [argumentLine, argumentPieces, Accessor.expression_eq, String.append_assoc]

theorem call_eq (type : String) (arguments : List (String × Accessor)) :
    call type arguments = spell (callPieces type arguments) := by
  by_cases none : arguments.isEmpty = true <;>
    simp [call, callPieces, none, Pieces.spell_flatMap, argumentLine_eq, String.append_assoc]

/-- A reader of a structure calls the record with its arguments. -/
theorem render_struct (type : String) (style : ReaderStyle) (arguments : List (String × Accessor)) :
    (XmlReader.mk type style (.struct arguments)).render =
      .ok ((XmlReader.mk type style (.struct arguments)).heading ++ call type arguments) := by
  rw [render_eq, pieces, Pieces.spell_append, ← heading_eq, bodyPieces, ← call_eq]

/-- A reader of a list collects its items. -/
theorem render_list (type : String) (style : ReaderStyle) (tag : String) (item : Parser) :
    (XmlReader.mk type style (.list tag item)).render =
      .ok ((XmlReader.mk type style (.list tag item)).heading ++
        s!"    return _xml.items(node, \"{tag}\", {item.expression})\n") := by
  rw [render_eq, pieces, Pieces.spell_append, ← heading_eq, bodyPieces]
  simp only [Parser.expression_eq, toString, Pieces.spell_cons, Pieces.spell_nil,
    String.append_empty, String.append_assoc]

end XmlReader

namespace FormWriter

def heading (writer : FormWriter) : String :=
  "def " ++ writer.function ++ "(params: _t.Dict[str, str], name: str, obj: " ++ writer.type ++
    ") -> None:\n"

/-- The lines that put a field, unless it is missing. -/
def putLines (field : FormField) : String :=
  "    if obj." ++ field.name ++ " is not None:\n" ++
    "        " ++ field.put.line ("obj." ++ field.name) ++ "\n"

/-- The lines that put the fields of a structure. -/
def puts (fields : List FormField) : String :=
  if fields.isEmpty then "    pass\n"
  else "    prefix = f\"\x7bname\x7d.\" if name else \"\"\n" ++ String.join (fields.map putLines)

theorem putLines_eq : putLines = fun field => spell (fieldPieces field) := by
  funext field
  simp only [putLines, fieldPieces, line, Pieces.newline, FormPut.line_eq, Pieces.spell_cons,
    Pieces.spell_append, Pieces.spell_nil, String.append_empty, String.append_assoc]

/-- A writer of a structure puts its fields. -/
theorem render_struct (type : String) (fields : List FormField) :
    (FormWriter.mk type (.struct fields)).render =
      .ok ((FormWriter.mk type (.struct fields)).heading ++ puts fields) := by
  rw [render_eq]
  by_cases none : fields.isEmpty = true <;>
    simp [pieces, headPieces, bodyPieces, heading, puts, none, Pieces.spell_flatMap, putLines_eq,
      String.append_assoc]

end FormWriter

namespace XmlWriter

def heading (writer : XmlWriter) : String :=
  "def " ++ writer.function ++ "(tag: str, obj: " ++ writer.type ++ ") -> _xml.Element:\n" ++
    "    node = _xml.element(tag)\n"

/-- A line below the test of a field. -/
def innerLine (line : String) : String := "        " ++ line ++ "\n"

/-- The lines that append a field, unless it is missing. -/
def appendLines (field : WriterField) : String :=
  "    if obj." ++ field.name ++ " is not None:\n" ++ String.join (field.lines.map innerLine)

theorem innerLine_spell (words : Pieces) : innerLine (spell words) = spell (line "        " words) := by
  simp [innerLine, line, Pieces.newline, String.append_assoc]

theorem appendLines_eq : appendLines = fun field => spell (fieldPieces field) := by
  funext field
  simp [appendLines, fieldPieces, WriterField.lines_eq, Pieces.spell_flatMap, innerLine_spell,
    Function.comp_def, String.append_assoc]

/-- A writer of a structure appends its fields. -/
theorem render_struct (type : String) (fields : List WriterField) :
    (XmlWriter.mk type (.struct fields)).render =
      .ok ((XmlWriter.mk type (.struct fields)).heading ++
        String.join (fields.map appendLines) ++ "    return node\n") := by
  rw [render_eq, appendLines_eq]
  simp only [pieces, headPieces, bodyPieces, heading, Pieces.spell_append, Pieces.spell_cons,
    Pieces.spell_nil, Pieces.spell_flatMap, String.append_empty, String.append_assoc]

/-- A writer of a list appends its items. -/
theorem render_list (type : String) (item : ElementWrite) :
    (XmlWriter.mk type (.list item)).render =
      .ok ((XmlWriter.mk type (.list item)).heading ++ "    for item in obj:\n" ++
        innerLine (item.line "node" "item") ++ "    return node\n") := by
  rw [render_eq, ElementWrite.line_eq, innerLine_spell]
  simp only [pieces, headPieces, bodyPieces, heading, Pieces.spell_append, Pieces.spell_cons,
    Pieces.spell_nil, String.append_empty, String.append_assoc]

end XmlWriter

/-! ### Names and calls -/

def XmlReader.calls (reader : XmlReader) : List String :=
  match reader.body with
  | .struct fields => fields.flatMap fun (_, accessor) => accessor.calls
  | .list _ item => item.calls
  | .map key value => key.calls ++ value.calls

def XmlWriter.calls (writer : XmlWriter) : List String :=
  match writer.body with
  | .struct fields => fields.flatMap (·.write.writer.toList)
  | .list item => item.writer.toList
  | .map key value => key.writer.toList ++ value.writer.toList

def FormWriter.calls (writer : FormWriter) : List String :=
  match writer.body with
  | .struct fields => fields.flatMap (·.put.writer.toList)
  | .list item => item.writer.toList
  | .map key value => key.writer.toList ++ value.writer.toList

namespace KeepsNames

variable {keep : Role → Bool} (only : KeepsNames keep)
include only

theorem parser (parser : Parser) :
    Pieces.wordsOf [parser.piece] keep = if keep .call then parser.calls else [] := by
  cases parser <;> simp [Parser.piece, Parser.calls, only.fixed]

theorem accessor (accessor : Accessor) :
    accessor.pieces.wordsOf keep = if keep .call then accessor.calls else [] := by
  cases accessor with
  | headers | status | bodyOctets | bodyText =>
    simp [Accessor.pieces, Accessor.calls, only.fixed, only.data]
  | header _ parser | payload parser | flattened _ parser | required _ parser | optional _ parser =>
    cases parser <;>
      simp [Accessor.pieces, Accessor.calls, Parser.piece, Parser.calls, only.fixed, only.data]

theorem elementWrite (write : ElementWrite) (parent value : String) :
    (write.pieces parent value).wordsOf keep = if keep .call then write.writer.toList else [] := by
  rcases write with ⟨tag, _ | function⟩ <;> simp [ElementWrite.pieces, only.fixed, only.data]

theorem formPut (put : FormPut) (value : String) :
    (put.pieces value).wordsOf keep = if keep .call then put.writer.toList else [] := by
  rcases put with ⟨key, _ | function⟩ <;> simp [FormPut.pieces, only.fixed, only.data]

theorem writerField (field : WriterField) : (XmlWriter.fieldPieces field).wordsOf keep =
    if keep .call then field.write.writer.toList else [] := by
  by_cases flat : field.flattened = true <;>
    simp [XmlWriter.fieldPieces, WriterField.linePieces, flat, only.elementWrite, only.fixed,
      only.data]

/-- The text of a reader binds its name and calls the readers that its layout names. -/
theorem xmlReader (reader : XmlReader) : reader.pieces.wordsOf keep =
    (if keep .function then [reader.function] else []) ++
      if keep .call then reader.calls else [] := by
  have head : reader.headPieces.wordsOf keep = if keep .function then [reader.function] else [] := by
    simp [XmlReader.headPieces, only.fixed, only.use]
  rw [XmlReader.pieces, Pieces.wordsOf_append, head]
  congr 1
  rcases reader with ⟨type, style, arguments | ⟨tag, item⟩ | ⟨key, value⟩⟩
  · by_cases none : arguments.isEmpty = true <;> by_cases kept : keep .call = true <;>
      simp_all [XmlReader.bodyPieces, XmlReader.callPieces, XmlReader.argumentPieces, XmlReader.calls,
        only.accessor, only.fixed, only.use, only.data]
  · cases item <;>
      simp [XmlReader.bodyPieces, XmlReader.calls, Parser.piece, Parser.calls, only.fixed, only.data]
  · by_cases kept : keep .call = true <;> cases key <;> cases value <;>
      simp [XmlReader.bodyPieces, XmlReader.calls, Parser.piece, Parser.calls, only.fixed, kept]

/-- The text of a writer binds its name and calls the writers that its layout names. -/
theorem xmlWriter (writer : XmlWriter) : writer.pieces.wordsOf keep =
    (if keep .function then [writer.function] else []) ++
      if keep .call then writer.calls else [] := by
  have head : writer.headPieces.wordsOf keep = if keep .function then [writer.function] else [] := by
    simp [XmlWriter.headPieces, only.fixed, only.use]
  rw [XmlWriter.pieces, Pieces.wordsOf_append, head]
  congr 1
  rcases writer with ⟨type, fields | item | ⟨key, value⟩⟩ <;> by_cases kept : keep .call = true <;>
    simp [XmlWriter.bodyPieces, XmlWriter.calls, only.writerField, only.elementWrite, only.fixed, kept]

theorem formWriter (writer : FormWriter) : writer.pieces.wordsOf keep =
    (if keep .function then [writer.function] else []) ++
      if keep .call then writer.calls else [] := by
  have head : writer.headPieces.wordsOf keep = if keep .function then [writer.function] else [] := by
    simp [FormWriter.headPieces, only.fixed, only.use]
  rw [FormWriter.pieces, Pieces.wordsOf_append, head]
  congr 1
  rcases writer with ⟨type, fields | item | ⟨key, value⟩⟩
  · by_cases none : fields.isEmpty = true <;> by_cases kept : keep .call = true <;>
      simp_all [FormWriter.bodyPieces, FormWriter.fieldPieces, FormWriter.calls, only.formPut,
        only.fixed, only.data]
  all_goals
    by_cases kept : keep .call = true <;>
      simp [FormWriter.bodyPieces, FormWriter.calls, only.formPut, only.fixed, kept]

end KeepsNames

end ServiceClient
