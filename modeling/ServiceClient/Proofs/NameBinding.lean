import ServiceClient.Proofs.CodecClosure
import ServiceClient.Proofs.FieldNames
import ServiceClient.Proofs.TypeClosure

/-!
Which names a module binds twice. Names of a description are translated with loss: two of them may
become one field, one method or one name at the top level of the module. What is here tells exactly
when. The translation adds no clash of its own: a reserved word that is moved out of the way meets no
other name, functions never meet classes, and readers never meet writers. All that remains are names
with one form in snake case, types of one name, and types named like a class of the module itself.
-/

namespace ServiceClient

/-- Two ways to name things that tell the same things apart. -/
theorem nodup_map_iff_of_same {α β γ : Type} {f : α → β} {g : α → γ}
    (same : ∀ a b, f a = f b ↔ g a = g b) (items : List α) :
    (items.map f).Nodup ↔ (items.map g).Nodup := by
  simp only [List.Nodup, List.pairwise_map, ne_eq, same]

/-- The names of what only some items have. -/
theorem flatMap_toList_map {α β γ : Type} {made? : α → Option β} {name : β → γ} {nameOf : α → γ}
    {items : List α} (same : ∀ a ∈ items, ∀ b, made? a = some b → name b = nameOf a) :
    items.flatMap (fun a => (made? a).toList.map name) =
      (items.filter fun a => (made? a).isSome).map nameOf := by
  induction items with
  | nil => rfl
  | cons a rest ih =>
    have others := ih fun other listed => same other (List.mem_cons_of_mem _ listed)
    have first := same a List.mem_cons_self
    rw [List.flatMap_cons, others]
    cases made : made? a with
    | none => simp [made]
    | some b => simp [made, first b made]

namespace Naming

/-! ### What the translations keep apart -/

theorem snakeCase_ne_append_underscore (a : String) (text : String) :
    snakeCase a ≠ text ++ "_" := by
  intro same
  have characters := congrArg String.toList same
  rw [snakeCase, String.toList_ofList, String.toList_append] at characters
  apply getLast?_snakeChars a.toList
  rw [characters, List.getLast?_append]
  rfl

/-- The underscore after a reserved word makes no two fields one. -/
theorem fieldName_eq_iff {a b : String} : fieldName a = fieldName b ↔ snakeCase a = snakeCase b := by
  constructor
  · intro same
    dsimp only [fieldName] at same
    by_cases reserved : snakeCase a ∈ reservedWords
    · rw [if_pos reserved] at same
      by_cases other : snakeCase b ∈ reservedWords
      · rw [if_pos other] at same
        exact (String.append_left_inj "_").mp same
      · rw [if_neg other] at same
        exact absurd same.symm (snakeCase_ne_append_underscore b _)
    · rw [if_neg reserved] at same
      by_cases other : snakeCase b ∈ reservedWords
      · rw [if_pos other] at same
        exact absurd same (snakeCase_ne_append_underscore a _)
      · rwa [if_neg other] at same
  · intro same
    simp only [fieldName, same]

theorem underscore_not_mem_typeName (shape : String) : '_' ∉ (typeName shape).toList := by
  unfold typeName
  generalize capitalize shape = name
  cases found : typeNameClashes.lookup (String.ofList (name.toList.filter (· != '_'))) with
  | none => simp [found]
  | some other =>
    have listed := Pairs.mem_of_lookup found
    have plain : ∀ pair ∈ typeNameClashes, '_' ∉ pair.2.toList := by decide
    simpa [found] using plain _ listed

theorem writerName_eq_iff {a b : String} :
    writerName a = writerName b ↔ snakeCase a = snakeCase b :=
  String.append_right_inj _

theorem readerName_eq_iff {a b : String} :
    readerName a = readerName b ↔ snakeCase a = snakeCase b :=
  String.append_right_inj _

theorem underscore_mem_writerName (type : String) : '_' ∈ (writerName type).toList := by
  rw [writerName, String.toList_append]
  exact List.mem_append_left _ (by decide)

theorem underscore_mem_readerName (type : String) : '_' ∈ (readerName type).toList := by
  rw [readerName, String.toList_append]
  exact List.mem_append_left _ (by decide)

theorem readerName_ne_writerName (a b : String) : readerName a ≠ writerName b := by
  intro same
  have characters := congrArg (·.toList.head?) same
  simp [readerName, writerName] at characters

end Naming

/-! ### The names of a module -/

namespace ShapeSection

/-- The names that a section binds. -/
def names (part : ShapeSection) : List String := part.declaration.declared :: part.functions

def readerNames (part : ShapeSection) : List String := part.reader.toList.map XmlReader.function

def writerNames (part : ShapeSection) : List String := part.writer.toList.map ShapeWriter.function

/-- The names of a section come from the name of its shape. -/
structure Named (part : ShapeSection) : Prop where
  declared : part.declaration.declared = Naming.typeName part.shape
  reader : ∀ reader, part.reader = some reader →
    reader.function = Naming.readerName (Naming.typeName part.shape)
  writer : ∀ writer, part.writer = some writer →
    writer.function = Naming.writerName (Naming.typeName part.shape)

/-- The names that the text of a section binds. -/
theorem topNames_pieces (part : ShapeSection) : part.pieces.topNames = part.names := by
  have only : KeepsNames Role.bindsTop := .bindsTop
  rcases part with ⟨shape, declaration, reader, writer⟩
  cases reader <;> cases writer <;>
    simp [pieces, names, functions, Pieces.gap, Pieces.broken, Declaration.wordsOf_pieces only,
      only.xmlReader, ShapeWriter.wordsOf_pieces only, only.fixed]

/-- The types of sections stand first, then their readers, then their writers. -/
theorem perm_flatMap_names (sections : List ShapeSection) : (sections.flatMap names).Perm
    (sections.map (·.declaration.declared) ++
      (sections.flatMap readerNames ++ sections.flatMap writerNames)) := by
  have together : (sections.flatMap readerNames ++ sections.flatMap writerNames).Perm
      (sections.flatMap functions) := List.flatMap_append_perm sections readerNames writerNames
  have apart := List.flatMap_append_perm sections (fun part => [part.declaration.declared]) functions
  rw [← List.map_eq_flatMap] at apart
  exact (apart.symm.trans (List.Perm.append_left _ together.symm))

end ShapeSection

namespace ModuleCode

/-- The names that the text of a module binds at its top level, in order. -/
theorem topNames_pieces (code : ModuleCode) : code.pieces.topNames =
    code.sections.flatMap ShapeSection.names ++ (code.errors.names ++ [code.errors.client]) := by
  have only : KeepsNames Role.bindsTop := .bindsTop
  simp [pieces, Pieces.gap, ShapeSection.topNames_pieces, ErrorCode.wordsOf_pieces only,
    wordsOf_clientPieces only, Method.wordsOf_pieces _ only, only.fixed]

/-- The methods that the text of a client binds, in order. -/
theorem named_method (code : ModuleCode) :
    code.pieces.named .method = code.methods.map (·.head.name) := by
  have only : KeepsNames (· == .method) := .named (by decide)
  have silent (part : ShapeSection) : part.pieces.named .method = [] := by
    rcases part with ⟨shape, declaration, reader, writer⟩
    cases reader <;> cases writer <;>
      simp [ShapeSection.pieces, Pieces.gap, Pieces.broken, Declaration.wordsOf_pieces only,
        only.xmlReader, ShapeWriter.wordsOf_pieces only]
  simp [pieces, Pieces.gap, silent, ErrorCode.wordsOf_pieces only, wordsOf_clientPieces only,
    Method.wordsOf_pieces _ only, List.map_eq_flatMap]

end ModuleCode

/-- The failures that a module has error classes of its own for; the base class is for all others. -/
def ownFailures : List String := ["", "HttpDispatch", "Credentials", "Unknown"]

/-- The classes that a module has whatever its shapes are: the client and its errors. -/
def ownClasses (client : String) : List String :=
  client :: ownFailures.map (client ++ · ++ "Error")

namespace Service

variable {service : Service}

/-- The names that shapes give to a module are apart from each other and from those of the module
itself. -/
structure NamesApart (service : Service) (client : String) (sections : List ShapeSection) : Prop where
  types : (service.declaredShapes.map fun pair => Naming.typeName pair.1).Nodup
  errors : (service.exceptions.map fun error => Naming.typeName error.name).Nodup
  readers : ((sections.filter (·.reader.isSome)).map fun part =>
    Naming.snakeCase (Naming.typeName part.shape)).Nodup
  writers : ((sections.filter (·.writer.isSome)).map fun part =>
    Naming.snakeCase (Naming.typeName part.shape)).Nodup
  typeNotError : ∀ pair ∈ service.declaredShapes, ∀ error ∈ service.exceptions,
    Naming.typeName pair.1 ≠ Naming.typeName error.name ++ "Error"
  typeNotOwn : ∀ pair ∈ service.declaredShapes, Naming.typeName pair.1 ∉ ownClasses client
  errorNotOwn : ∀ error ∈ service.exceptions, ∀ failure ∈ ownFailures,
    Naming.typeName error.name ≠ client ++ failure

/-! ### The classes of a module itself -/

theorem underscore_not_mem_clientName {client : String} (named : service.clientName = .ok client) :
    '_' ∉ client.toList := by
  obtain ⟨name, made, rfl⟩ := Except.map_eq_ok_iff.mp named
  unfold typeName at made
  split at made
  · obtain rfl := Except.ok.inj made
    rw [String.toList_append, String.toList_ofList, List.mem_append, List.mem_filter, not_or, not_and]
    exact ⟨fun _ => by decide, by decide⟩
  · cases made

theorem underscore_not_mem_ownClasses {client name : String} (plain : '_' ∉ client.toList)
    (own : name ∈ ownClasses client) : '_' ∉ name.toList := by
  rcases List.mem_cons.mp own with rfl | error
  · exact plain
  · obtain ⟨failure, known, rfl⟩ := List.mem_map.mp error
    have plainFailure : ∀ failure ∈ ownFailures, '_' ∉ failure.toList := by decide
    rw [String.toList_append, String.toList_append, List.mem_append, List.mem_append]
    rintro ((inClient | inFailure) | inError)
    · exact plain inClient
    · exact plainFailure failure known inFailure
    · exact absurd inError (by decide)

/-- The client and its errors have names of their own. -/
theorem nodup_ownClasses (client : String) : (ownClasses client).Nodup := by
  have suffixes : ownClasses client = ("" :: ownFailures.map (· ++ "Error")).map (client ++ ·) := by
    simp [ownClasses, String.append_assoc]
  rw [suffixes]
  exact List.Nodup.map (fun _ _ same => (String.append_right_inj client).mp same) (by decide)

/-- The class for an exception shape ends in another way than the client. -/
theorem errorClassName_ne_clientName {client : String} (named : service.clientName = .ok client)
    (error : String) : Naming.errorClassName error ≠ client := by
  obtain ⟨name, -, rfl⟩ := Except.map_eq_ok_iff.mp named
  intro same
  have characters := congrArg (·.toList.getLast?) same
  simp [Naming.errorClassName] at characters

theorem errorClassName_mem_ownClasses_iff {client : String}
    (named : service.clientName = .ok client) (error : String) :
    Naming.errorClassName error ∈ ownClasses client ↔
      ∃ failure ∈ ownFailures, Naming.typeName error = client ++ failure := by
  rw [ownClasses, List.mem_cons, or_iff_right (errorClassName_ne_clientName named error),
    List.mem_map]
  simp only [Naming.errorClassName, String.append_left_inj, eq_comm]

/-! ### The functions of a module -/

theorem function_eq_of_xmlReader? {style : ReaderStyle} {type : String} {shape : Shape}
    {reader : XmlReader} (made : service.xmlReader? style type shape = .ok (some reader)) :
    reader.function = Naming.readerName type := by
  unfold xmlReader? at made
  split at made
  all_goals
    simp only [Except.bind_eq_ok_iff, Except.pure_eq_ok_iff, Option.some.injEq, reduceCtorEq] at made
  case h_1 =>
    obtain ⟨_, -, rfl⟩ := made
    rfl
  case h_2 =>
    obtain ⟨_, -, _, -, rfl⟩ := made
    rfl
  case h_3 =>
    obtain ⟨_, -, _, -, _, -, _, -, rfl⟩ := made
    rfl

theorem function_eq_of_xmlWriter? {type : String} {shape : Shape} {writer : XmlWriter}
    (made : service.xmlWriter? type shape = .ok (some writer)) :
    writer.function = Naming.writerName type := by
  unfold xmlWriter? at made
  split at made
  all_goals
    simp only [Except.bind_eq_ok_iff, Except.pure_eq_ok_iff, Option.some.injEq, reduceCtorEq] at made
  case h_1 =>
    obtain ⟨_, -, rfl⟩ := made
    rfl
  case h_2 =>
    obtain ⟨_, -, _, -, _, -, rfl⟩ := made
    rfl
  case h_3 =>
    obtain ⟨_, -, _, -, _, -, _, -, _, -, _, -, rfl⟩ := made
    rfl

theorem function_eq_of_formWriter? {type : String} {shape : Shape} {writer : FormWriter}
    (made : service.formWriter? type shape = .ok (some writer)) :
    writer.function = Naming.writerName type := by
  unfold formWriter? at made
  split at made
  all_goals
    simp only [Except.bind_eq_ok_iff, Except.pure_eq_ok_iff, Option.some.injEq, reduceCtorEq] at made
  case h_1 =>
    obtain ⟨_, -, rfl⟩ := made
    rfl
  case h_2 =>
    obtain ⟨_, -, _, -, _, -, rfl⟩ := made
    rfl
  case h_3 =>
    obtain ⟨_, -, _, -, _, -, _, -, _, -, _, -, rfl⟩ := made
    rfl

theorem function_eq_of_reader? {family : Family} {type : String} {shape : Shape} {reader : XmlReader}
    (made : service.reader? family type shape = .ok (some reader)) :
    reader.function = Naming.readerName type := by
  unfold reader? at made
  split at made
  · exact function_eq_of_xmlReader? made
  · cases made

theorem function_eq_of_writer? {family : Family} {type : String} {shape : Shape} {writer : ShapeWriter}
    (made : service.writer? family type shape = .ok (some writer)) :
    writer.function = Naming.writerName type := by
  unfold writer? at made
  split at made
  · obtain ⟨form, formMade, same⟩ := Except.map_eq_ok_iff.mp made
    obtain ⟨form, rfl, rfl⟩ := Option.map_eq_some_iff.mp same
    exact function_eq_of_formWriter? formMade
  · obtain ⟨xml, xmlMade, same⟩ := Except.map_eq_ok_iff.mp made
    obtain ⟨xml, rfl, rfl⟩ := Option.map_eq_some_iff.mp same
    exact function_eq_of_xmlWriter? xmlMade
  all_goals cases made

theorem named_of_shapeSection {style : Style} {reach : Reach} {name : String} {shape : Shape}
    {part : ShapeSection} (made : service.shapeSection style reach name shape = .ok part) :
    part.Named ∧ part.shape = name := by
  simp only [shapeSection, Except.bind_eq_ok_iff, Except.pure_eq_ok_iff] at made
  obtain ⟨declaration, declared, reader?, readerMade, writer?, writerMade, rfl⟩ := made
  refine ⟨⟨declared_of_declaration declared, ?_, ?_⟩, rfl⟩
  · rintro reader rfl
    split at readerMade
    · exact function_eq_of_reader? readerMade
    · cases readerMade
  · rintro writer rfl
    split at writerMade
    · exact function_eq_of_writer? writerMade
    · cases writerMade

/-! ### Names bound once -/

section Sections

variable {style : Style} {reach : Reach} {sections : List ShapeSection}

theorem named_of_shapeSections (made : service.shapeSections style reach = .ok sections)
    {part : ShapeSection} (listed : part ∈ sections) : part.Named := by
  obtain ⟨_, -, result⟩ := Except.mem_of_mapM_eq_ok made listed
  exact (named_of_shapeSection result).1

theorem declaredTypes_eq (made : service.shapeSections style reach = .ok sections) :
    sections.map (·.declaration.declared) =
      service.declaredShapes.map fun pair => Naming.typeName pair.1 := by
  refine Except.map_eq_of_mapM_eq_ok ?_ made
  intro pair part result
  obtain ⟨named, isShape⟩ := named_of_shapeSection result
  rw [named.declared, isShape]

theorem names_of_errorClasses {settings : Settings} {classes : List ErrorClass}
    (made : service.errorClasses settings = .ok classes) :
    classes.map (·.name) = service.exceptions.map fun error => Naming.errorClassName error.name := by
  refine Except.map_eq_of_mapM_eq_ok ?_ made
  intro error result done
  simp only [Except.bind_eq_ok_iff, Except.pure_eq_ok_iff] at done
  obtain ⟨_, -, rfl⟩ := done
  rfl

open List in
/-- The names at the top level of a module, kind by kind. -/
theorem perm_topNames {settings : Settings} {code : ModuleCode}
    (made : service.errorClasses settings = .ok code.errors.classes) : code.pieces.topNames.Perm
      (code.sections.map (·.declaration.declared) ++
        (code.sections.flatMap ShapeSection.readerNames ++
          code.sections.flatMap ShapeSection.writerNames) ++
        ((service.exceptions.map fun error => Naming.errorClassName error.name) ++
          ownClasses code.errors.client)) := by
  rw [code.topNames_pieces, ErrorCode.names, ErrorCode.base, names_of_errorClasses made]
  refine List.Perm.append (ShapeSection.perm_flatMap_names code.sections) ?_
  have own : ownClasses code.errors.client = code.errors.client ::
      (code.errors.client ++ "Error") :: otherErrorSuffixes.map (code.errors.client ++ ·) := by
    simp [ownClasses, ownFailures, otherErrorSuffixes, String.append_assoc]
  rw [own]
  generalize (service.exceptions.map fun error => Naming.errorClassName error.name) = errors
  generalize otherErrorSuffixes.map (code.errors.client ++ ·) = others
  generalize code.errors.client = client
  calc (client ++ "Error") :: errors ++ others ++ [client]
    _ ~ client :: (client ++ "Error") :: (errors ++ others) := perm_append_singleton client _
    _ ~ client :: (errors ++ (client ++ "Error") :: others) := .cons _ perm_middle.symm
    _ ~ errors ++ client :: (client ++ "Error") :: others := perm_middle.symm

/-- Lists of names of which the second has underscores in its names and the others have none. -/
theorem nodup_append_of_underscores {types functions classes : List String}
    (plainTypes : ∀ name ∈ types, '_' ∉ name.toList)
    (joined : ∀ name ∈ functions, '_' ∈ name.toList)
    (plainClasses : ∀ name ∈ classes, '_' ∉ name.toList) :
    (types ++ functions ++ classes).Nodup ↔ functions.Nodup ∧ (types ++ classes).Nodup := by
  have classesLast : (classes ++ types).Nodup ↔ (types ++ classes).Nodup := List.nodup_append_comm
  rw [List.append_assoc, List.nodup_append_comm, List.append_assoc, List.nodup_append, classesLast,
    and_congr_right_iff]
  intro _
  refine and_iff_left ?_
  rintro name isFunction other isClass rfl
  rcases List.mem_append.mp isClass with isClass | isType
  · exact plainClasses name isClass (joined name isFunction)
  · exact plainTypes name isType (joined name isFunction)

/-- Readers and writers of types, of which only the first or only the second may meet. -/
theorem nodup_functions_iff (read written : List ShapeSection) :
    ((read.map fun part => Naming.readerName (Naming.typeName part.shape)) ++
        written.map fun part => Naming.writerName (Naming.typeName part.shape)).Nodup ↔
      (read.map fun part => Naming.snakeCase (Naming.typeName part.shape)).Nodup ∧
        (written.map fun part => Naming.snakeCase (Naming.typeName part.shape)).Nodup := by
  rw [List.nodup_append, nodup_map_iff_of_same fun _ _ => Naming.readerName_eq_iff,
    nodup_map_iff_of_same fun _ _ => Naming.writerName_eq_iff, and_congr_right_iff]
  intro _
  refine and_iff_left fun name isReader other isWriter => ?_
  obtain ⟨reading, -, rfl⟩ := List.mem_map.mp isReader
  obtain ⟨writing, -, rfl⟩ := List.mem_map.mp isWriter
  exact Naming.readerName_ne_writerName _ _

/-- Types, classes for exception shapes and the classes of the module itself, which meet in three
ways. -/
theorem nodup_classes_iff {client : String} (named : service.clientName = .ok client)
    (declared : List (String × Shape)) (exceptions : List Shape) :
    ((declared.map fun pair => Naming.typeName pair.1) ++
        ((exceptions.map fun error => Naming.errorClassName error.name) ++ ownClasses client)).Nodup ↔
      (declared.map fun pair => Naming.typeName pair.1).Nodup ∧
        (exceptions.map fun error => Naming.typeName error.name).Nodup ∧
        (∀ error ∈ exceptions, ∀ failure ∈ ownFailures,
          Naming.typeName error.name ≠ client ++ failure) ∧
        ∀ pair ∈ declared, (∀ error ∈ exceptions,
          Naming.typeName pair.1 ≠ Naming.typeName error.name ++ "Error") ∧
            Naming.typeName pair.1 ∉ ownClasses client := by
  have errorsApart : (exceptions.map fun error => Naming.errorClassName error.name).Nodup ↔
      (exceptions.map fun error => Naming.typeName error.name).Nodup :=
    nodup_map_iff_of_same (fun _ _ => String.append_left_inj "Error") exceptions
  have ownApart : (∀ a ∈ exceptions.map fun error => Naming.errorClassName error.name,
      ∀ b ∈ ownClasses client, a ≠ b) ↔ ∀ error ∈ exceptions, ∀ failure ∈ ownFailures,
        Naming.typeName error.name ≠ client ++ failure := by
    rw [List.forall_mem_map]
    refine forall₂_congr fun error _ => ?_
    rw [← not_iff_not]
    have meets := errorClassName_mem_ownClasses_iff named error.name
    simpa using meets
  have typesApart : (∀ a ∈ declared.map fun pair => Naming.typeName pair.1,
      ∀ b ∈ (exceptions.map fun error => Naming.errorClassName error.name) ++ ownClasses client,
        a ≠ b) ↔ ∀ pair ∈ declared, (∀ error ∈ exceptions,
          Naming.typeName pair.1 ≠ Naming.typeName error.name ++ "Error") ∧
            Naming.typeName pair.1 ∉ ownClasses client := by
    rw [List.forall_mem_map]
    refine forall₂_congr fun pair _ => ?_
    rw [List.forall_mem_append, List.forall_mem_map]
    exact and_congr_right fun _ => List.forall_mem_ne.trans (by simp)
  rw [List.nodup_append, List.nodup_append, errorsApart, ownApart, typesApart,
    and_iff_right (nodup_ownClasses client), and_assoc]

theorem nodup_topNames_iff {settings : Settings} {code : ModuleCode}
    (named : service.clientName = .ok code.errors.client)
    (classesMade : service.errorClasses settings = .ok code.errors.classes)
    (made : service.shapeSections style reach = .ok code.sections) :
    code.pieces.topNames.Nodup ↔ service.NamesApart code.errors.client code.sections := by
  have together := perm_topNames classesMade
  have readers : code.sections.flatMap ShapeSection.readerNames = _ :=
    flatMap_toList_map fun part listed => (named_of_shapeSections made listed).reader
  have writers : code.sections.flatMap ShapeSection.writerNames = _ :=
    flatMap_toList_map fun part listed => (named_of_shapeSections made listed).writer
  rw [together.nodup_iff, declaredTypes_eq made, readers, writers, nodup_append_of_underscores,
    nodup_functions_iff, nodup_classes_iff named]
  · constructor
    · rintro ⟨⟨reading, writing⟩, types, errors, errorNotOwn, apart⟩
      exact ⟨types, errors, reading, writing, fun pair listed => (apart pair listed).1,
        fun pair listed => (apart pair listed).2, errorNotOwn⟩
    · intro apart
      exact ⟨⟨apart.readers, apart.writers⟩, apart.types, apart.errors, apart.errorNotOwn,
        fun pair listed => ⟨apart.typeNotError pair listed, apart.typeNotOwn pair listed⟩⟩
  · intro name isType
    obtain ⟨pair, -, rfl⟩ := List.mem_map.mp isType
    exact Naming.underscore_not_mem_typeName pair.1
  · intro name isFunction
    rcases List.mem_append.mp isFunction with isReader | isWriter
    · obtain ⟨part, -, rfl⟩ := List.mem_map.mp isReader
      exact Naming.underscore_mem_readerName _
    · obtain ⟨part, -, rfl⟩ := List.mem_map.mp isWriter
      exact Naming.underscore_mem_writerName _
  · intro name isClass
    rcases List.mem_append.mp isClass with isError | own
    · obtain ⟨error, -, rfl⟩ := List.mem_map.mp isError
      rw [Naming.errorClassName, String.toList_append, List.mem_append, not_or]
      exact ⟨Naming.underscore_not_mem_typeName error.name, by decide⟩
    · exact underscore_not_mem_ownClasses (underscore_not_mem_clientName named) own

end Sections

theorem names_of_fields {style : Style} {shape : Shape} {hasWireFields : Bool} {fields : List Field}
    (made : service.fields style shape hasWireFields = .ok fields) :
    fields.map (·.name) =
      (shape.members.filter (!·.2.deprecated)).map fun pair => Naming.fieldName pair.1 := by
  refine Except.map_eq_of_mapM_eq_ok ?_ made
  rintro ⟨name, member⟩ result done
  simp only [field, Except.bind_eq_ok_iff, Except.pure_eq_ok_iff] at done
  obtain ⟨_, -, _, -, _, -, same⟩ := done
  rw [← same]

/-- The fields of a record are apart if the names of its members are in snake case. -/
theorem nodup_fields_iff {style : Style} {shape : Shape} {hasWireFields : Bool} {fields : List Field}
    (made : service.fields style shape hasWireFields = .ok fields) :
    (fields.map (·.name)).Nodup ↔
      ((shape.members.filter (!·.2.deprecated)).map fun pair => Naming.snakeCase pair.1).Nodup := by
  rw [names_of_fields made]
  exact nodup_map_iff_of_same (fun _ _ => Naming.fieldName_eq_iff) _

theorem fields_of_declaration {style : Style} {type name : String} {shape : Shape}
    {marks : RecordMarks} {decorators : List String} {fields : List Field}
    {documentation : Option String}
    (made : service.declaration style type shape marks =
      .ok (.record name decorators fields documentation)) :
    service.fields style shape (style.family.hasWireFields marks) = .ok fields := by
  unfold declaration at made
  split at made
  case h_1 =>
    simp only [Except.bind_eq_ok_iff, Except.pure_eq_ok_iff, Declaration.record.injEq] at made
    obtain ⟨_, fieldsMade, _, -, -, -, rfl, -⟩ := made
    exact fieldsMade
  case h_4 =>
    split at made
    all_goals
      simp only [Except.bind_eq_ok_iff, Except.pure_eq_ok_iff, reduceCtorEq, and_false,
        exists_false] at made
  all_goals
    simp only [Except.bind_eq_ok_iff, Except.pure_eq_ok_iff, reduceCtorEq, and_false,
      exists_false] at made

theorem methodName_eq_ok_iff {name : Json} {method : String} :
    name.methodName = .ok method ↔ ∃ text, name = .str text ∧ Naming.fieldName text = method := by
  cases name <;> simp [Json.methodName, Naming.methodName]

theorem names_of_methodHeads {settings : Settings} {heads : List MethodHead}
    (made : service.methodHeads settings = .ok heads) :
    ∃ names : List String, service.operations.map (·.2.name) = names.map .str ∧
      names.map Naming.fieldName = heads.map (·.name) := by
  unfold methodHeads at made
  generalize service.operations = described at made ⊢
  induction described generalizing heads with
  | nil =>
    cases made
    exact ⟨[], rfl, rfl⟩
  | cons pair rest ih =>
    simp only [List.mapM_cons, Except.bind_eq_ok_iff, Except.pure_eq_ok_iff] at made
    obtain ⟨head, headMade, others, othersMade, rfl⟩ := made
    simp only [methodHead, Except.bind_eq_ok_iff, Except.pure_eq_ok_iff] at headMade
    obtain ⟨name, nameMade, _, -, _, -, _, -, _, -, _, -, _, -, rfl⟩ := headMade
    obtain ⟨text, isText, named⟩ := methodName_eq_ok_iff.mp nameMade
    obtain ⟨names, areTexts, othersNamed⟩ := ih othersMade
    refine ⟨text :: names, ?_, ?_⟩
    · rw [List.map_cons, List.map_cons, isText, areTexts]
    · rw [List.map_cons, List.map_cons, named, othersNamed]

/-- The methods of a client are apart if the names of the operations are in snake case. -/
theorem nodup_methods_iff {style : Style} {methods : List Method}
    (made : service.methodList style = .ok methods) :
    ∃ names : List String, service.operations.map (·.2.name) = names.map .str ∧
      ((methods.map (·.head.name)).Nodup ↔ (names.map Naming.snakeCase).Nodup) := by
  simp only [methodList, Except.bind_eq_ok_iff] at made
  obtain ⟨heads, headsMade, made⟩ := made
  have sameNames : methods.map (·.head.name) = heads.map (·.name) := by
    refine Except.map_eq_of_mapM_eq_ok ?_ made
    intro head result done
    obtain ⟨body, -, rfl⟩ := Except.map_eq_ok_iff.mp done
    rfl
  obtain ⟨names, areTexts, named⟩ := names_of_methodHeads headsMade
  refine ⟨names, areTexts, ?_⟩
  rw [sameNames, ← named]
  exact nodup_map_iff_of_same (fun _ _ => Naming.fieldName_eq_iff) _

/-- A name of ASCII letters, digits and underscores that starts with a letter. -/
def isPlainName (name : String) : Bool :=
  match name.toList with
  | [] => false
  | c :: rest => c.isAlpha && rest.all fun c => c.isAlphanum || c == '_'

/-- The names of a description are plain and distinct. -/
structure PlainlyNamed (service : Service) : Prop where
  shapes : service.shapeNames.Nodup ∧ service.shapeNames.all isPlainName
  members : ∀ pair ∈ service.shapes,
    (pair.2.members.map (·.1)).Nodup ∧ (pair.2.members.map (·.1)).all isPlainName
  operations : ∃ names : List String, service.operations.map (·.2.name) = names.map .str ∧
    names.Nodup ∧ names.all isPlainName

/-- A description in which two shapes, two members and two operations differ in their capitals. -/
def notebookDescription : Json := .obj [
  ("metadata", .obj [("protocol", .str "json"), ("serviceFullName", .str "Notebook")]),
  ("shapes", .obj [
    ("Note", .obj [("type", .str "structure"),
      ("members", .obj [("noteId", .obj [("shape", .str "note")]),
        ("NoteId", .obj [("shape", .str "note")])])]),
    ("note", .obj [("type", .str "string")])]),
  ("operations", .obj [("PutNote", .obj [("input", .obj [("shape", .str "Note")])]),
    ("putNote", .obj [("input", .obj [("shape", .str "Note")])])])]

def notebook : Service where
  metadata := { protocol := .str "json", fullName := .str "Notebook" }
  shapes := [
    ("Note", {
      name := "Note", type := .str "structure"
      members := [("noteId", { shape := .str "note" }), ("NoteId", { shape := .str "note" })] }),
    ("note", { name := "note", type := .str "string" })]
  operations := [
    ("PutNote", { name := .str "PutNote", input := .str "Note" }),
    ("putNote", { name := .str "putNote", input := .str "Note" })]

theorem notebook_generate : ∃ generated, notebook.generate {} = .ok generated := by
  have documented : Layout.service notebookDescription := by decide
  have typed : notebook.Typed := typed_of_ofJson documented (by decide)
  have followed : notebook.Followed := followed_iff_reach_succeeds.mpr
    ⟨{ sent := ["note", "Note"], received := [] }, by cbv⟩
  have declared : notebook.Declared := by
    have each : ∀ shape ∈ notebook.shapes.map (·.2), shape.Declarable := by
      intro shape listed
      simp only [notebook, List.map_cons, List.map_nil, List.mem_cons, List.not_mem_nil,
        or_false] at listed
      rcases listed with rfl | rfl <;> exact ⟨by decide, ⟨by decide, by decide, by decide⟩⟩
    intro name shape inside _
    exact each shape (List.mem_map.mpr ⟨_, inside, rfl⟩)
  refine (generate_succeeds_iff typed Settings.typed_default).mpr
    ⟨⟨"json", by decide, rfl⟩, followed, declared, ?_⟩
  intro elements
  exact absurd elements (by decide)

/-- The record of a note, both of whose members are one field. -/
def notebookRecord : Declaration :=
  .record "Note" ["_serde.serializable", "_dataclasses.dataclass(kw_only=True)"] [
    ⟨"note_id", "Note", false, some ⟨"noteId", none⟩, none⟩,
    ⟨"note_id", "Note", false, some ⟨"NoteId", none⟩, none⟩] none

def notebookDeclarations : List Declaration := [notebookRecord, .synonym "Note" (.builtin "str") none none]

end Service

end ServiceClient
