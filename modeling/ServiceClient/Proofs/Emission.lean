import ServiceClient.Module.Generation
import ServiceClient.Proofs.ClassText
import ServiceClient.Proofs.CodecText
import ServiceClient.Proofs.DeclarationText

/-!
What a generated module is made of. Between its imports and its tests, the text of a module is that of
the pieces for its shapes, its error classes and its client, before it is made tidy. So what is proved
about the words of the pieces is proved about the text.
-/

namespace ServiceClient

open Pieces (spell)

/-! ### Sections for shapes -/

namespace ShapeWriter

def pieces : ShapeWriter → Pieces
  | form writer => writer.pieces
  | xml writer => writer.pieces

theorem render_eq (writer : ShapeWriter) : writer.render = .ok (spell writer.pieces) := by
  cases writer with
  | form writer => exact writer.render_eq
  | xml writer => exact writer.render_eq

theorem spell_pieces_ne_empty (writer : ShapeWriter) : spell writer.pieces ≠ "" := by
  cases writer with
  | form writer => simp [pieces, FormWriter.pieces, FormWriter.headPieces]
  | xml writer => simp [pieces, XmlWriter.pieces, XmlWriter.headPieces]

end ShapeWriter

theorem XmlReader.spell_pieces_ne_empty (reader : XmlReader) : spell reader.pieces ≠ "" := by
  simp [pieces, headPieces]

/-- The break between sections. -/
def Pieces.gap : Piece := ⟨.fixed, sectionGap⟩

/-- Pieces that are there, with a break after them. -/
def Pieces.broken : Option Pieces → Pieces
  | some pieces => pieces ++ [gap]
  | none => []

theorem broken_eq {text : Option Pieces} (present : ∀ pieces, text = some pieces → spell pieces ≠ "") :
    broken (text.map spell) = spell (Pieces.broken text) := by
  cases text with
  | none => rfl
  | some pieces => simp [broken, Pieces.broken, Pieces.gap, present]

/-- A part of a section that may be missing. -/
theorem mapM_eq_ok_map {α : Type} {render : α → Except Fault String} {pieces : α → Pieces}
    (rendered : ∀ a, render a = .ok (spell (pieces a))) (part : Option α) :
    part.mapM render = .ok ((part.map pieces).map spell) := by
  cases part with
  | none => rfl
  | some a =>
    rw [Option.mapM_some, rendered]
    rfl

namespace ShapeSection

/-- The text for a shape in pieces. -/
def pieces (part : ShapeSection) : Pieces :=
  part.declaration.pieces ++ Pieces.gap :: (Pieces.broken (part.reader.map XmlReader.pieces) ++
    Pieces.broken (part.writer.map ShapeWriter.pieces))

theorem render_eq (part : ShapeSection) : part.render = .ok (spell part.pieces) := by
  have reader : broken ((part.reader.map XmlReader.pieces).map spell) = _ := broken_eq (by
    rintro _ made
    obtain ⟨reader, -, rfl⟩ := Option.map_eq_some_iff.mp made
    exact reader.spell_pieces_ne_empty)
  have writer : broken ((part.writer.map ShapeWriter.pieces).map spell) = _ := broken_eq (by
    rintro _ made
    obtain ⟨writer, -, rfl⟩ := Option.map_eq_some_iff.mp made
    exact writer.spell_pieces_ne_empty)
  simp only [render, part.declaration.render_eq, mapM_eq_ok_map XmlReader.render_eq,
    mapM_eq_ok_map ShapeWriter.render_eq, Except.ok_bind, reader, writer]
  simp [pieces, Pieces.gap, pure, Except.pure, String.append_assoc]

end ShapeSection

/-! ### Modules -/

/-- What stands in a module between its imports and its tests. -/
structure ModuleCode where
  /-- What there is for each shape. -/
  sections : List ShapeSection
  errors : ErrorCode
  methods : List Method
  deriving DecidableEq, Repr

namespace ModuleCode

/-- The text in pieces. -/
def pieces (code : ModuleCode) : Pieces :=
  code.sections.flatMap ShapeSection.pieces ++ (code.errors.pieces ++ Pieces.gap ::
    clientPieces code.errors.client code.errors.title code.methods)

end ModuleCode

/-- A generated module has the text of what a service gives it. -/
structure Service.Emits (service : Service) (style : Style) (generated : Generated)
    (code : ModuleCode) : Prop where
  families : service.families = .ok (style.family, code.errors.family)
  sectionsMade : ∃ reach, service.reach = .ok reach ∧
    service.shapeSections style reach = .ok code.sections
  classesMade : service.errorClasses style.settings = .ok code.errors.classes
  methodsMade : service.methodList style = .ok code.methods
  client : service.clientName = .ok code.errors.client
  title : service.displayName = .str code.errors.title
  text : ∃ opening imports tests, service.opening style.settings = .ok opening ∧
    style.importSection = .ok imports ∧
    (if style.settings.generateTests.truthy then
      service.testSection.map (sectionGap ++ ·) else .ok "") = .ok tests ∧
    generated.code = Text.tidy (opening ++ imports ++ sectionGap ++ spell code.pieces ++ tests)

namespace Service

variable {service : Service}

theorem emits_of_generate {settings : Settings} {generated : Generated}
    (done : service.generate settings = .ok generated) :
    ∃ family code, service.Emits ⟨family, settings⟩ generated code := by
  simp only [generate, Except.bind_eq_ok_iff, Except.pure_eq_ok_iff] at done
  obtain ⟨⟨family, errors⟩, served, ⟨text, summary⟩, textDone, _, -, rfl⟩ := done
  simp only [moduleText, Except.bind_eq_ok_iff, Except.pure_eq_ok_iff, Prod.mk.injEq] at textDone
  obtain ⟨opening, openingDone, imports, importsDone, ⟨types, counts⟩, typesDone, errorText,
    errorsDone, clientText, clientDone, tests, testsDone, _, -, rfl, -⟩ := textDone
  simp only [typeSection, Except.bind_eq_ok_iff, Except.pure_eq_ok_iff, Prod.mk.injEq] at typesDone
  obtain ⟨reach, reachDone, sections, sectionsDone, texts, textsDone, rfl, -⟩ := typesDone
  have methodsDone := clientDone
  simp only [clientSection, methods, Except.bind_eq_ok_iff] at methodsDone
  obtain ⟨client, named, _, ⟨methods, methodsDone, -⟩, -⟩ := methodsDone
  obtain ⟨title, shown⟩ := displayName_of_clientName named
  obtain ⟨classes, _, _, _, classesDone, -⟩ := codeTable_of_errorSection errorsDone
  have rendered : sections.mapM ShapeSection.render = .ok (sections.map (spell ·.pieces)) :=
    (Except.mapM_congr fun part _ => part.render_eq).trans List.mapM_pure
  obtain rfl := Except.ok.inj (rendered.symm.trans textsDone)
  obtain rfl := text_of_errorSection named shown classesDone errorsDone
  obtain rfl := text_of_clientSection named shown methodsDone clientDone
  refine ⟨family, ⟨sections, ⟨client, title, errors, classes⟩, methods⟩, served,
    ⟨reach, reachDone, sectionsDone⟩, classesDone, methodsDone, named, shown, opening, imports, tests,
    openingDone, importsDone, testsDone, ?_⟩
  simp [ModuleCode.pieces, Pieces.spell_flatMap, Pieces.gap, String.append_assoc]

end Service

end ServiceClient
