import ServiceClient.Cli.Run
import ServiceClient.Proofs.GenerationSuccess
import ServiceClient.Proofs.Utf8

/-!
How runs of the program end. A run that ends has one of three statuses, and with 2 it has told that no
module can be made of a description. But not every run ends: of what can be wrong with a description
only some faults are told, and of the others the search for shapes has its share. A reference to a
shape that is not defined escapes.
-/

namespace ServiceClient

/-! ### Faults of the search -/

namespace Service

variable {service : Service}

theorem untold_of_references_error {shape : Shape} {fault : Fault}
    (failed : shape.references = .error fault) : Cli.isUnsupported fault = false := by
  unfold Shape.references Shape.elementShape Shape.keyShape Shape.valueShape at failed
  split at failed
  case h_1 => cases failed
  case h_2 =>
    cases member : shape.member with
    | none =>
      rw [member] at failed
      cases failed
      rfl
    | some element =>
      rw [member] at failed
      cases failed
  case h_3 =>
    cases key : shape.key with
    | none =>
      rw [key] at failed
      cases failed
      rfl
    | some key' =>
      cases value : shape.value with
      | none =>
        rw [key, value] at failed
        cases failed
        rfl
      | some value' =>
        rw [key, value] at failed
        cases failed
  case h_4 => cases failed

theorem untold_of_collect_error {pending : List Json} {found : List String} {fault : Fault}
    (failed : service.collect pending found = .error fault) : Cli.isUnsupported fault = false := by
  fun_induction Service.collect service pending found with
  | case1 => cases failed
  | case4 _ _ _ _ ih => exact ih failed
  | case6 _ _ _ _ _ _ _ unlisted =>
    cases failed
    exact untold_of_references_error unlisted
  | case7 _ _ _ _ _ _ _ _ ih => exact ih failed
  | _ =>
    cases failed
    rfl

theorem untold_of_follow_error {start : Json} {found : List String} {fault : Fault}
    (failed : service.follow start found = .error fault) : Cli.isUnsupported fault = false := by
  unfold follow at failed
  split at failed
  case isTrue => exact untold_of_collect_error failed
  case isFalse => cases failed

theorem untold_of_reachOperation_error {reach : Reach} {operation : Operation} {fault : Fault}
    (failed : service.reachOperation reach operation = .error fault) :
    Cli.isUnsupported fault = false := by
  unfold reachOperation at failed
  cases sentDone : service.follow operation.input reach.sent with
  | error first =>
    rw [sentDone] at failed
    cases failed
    exact untold_of_follow_error sentDone
  | ok sent =>
    rw [sentDone, Except.ok_bind] at failed
    cases receivedDone : service.follow operation.output reach.received with
    | error second =>
      rw [receivedDone] at failed
      cases failed
      exact untold_of_follow_error receivedDone
    | ok received =>
      rw [receivedDone] at failed
      cases failed

theorem untold_of_foldlM_error {operations : List Operation} {reach : Reach} {fault : Fault}
    (failed : operations.foldlM service.reachOperation reach = .error fault) :
    Cli.isUnsupported fault = false := by
  induction operations generalizing reach with
  | nil => cases failed
  | cons operation rest ih =>
    rw [List.foldlM_cons] at failed
    cases first : service.reachOperation reach operation with
    | error other =>
      rw [first] at failed
      cases failed
      exact untold_of_reachOperation_error first
    | ok next =>
      rw [first, Except.ok_bind] at failed
      exact ih failed

/-- When the protocol is served and something that the operations reach cannot be followed, the search
says what is wrong, and no status stands for that. -/
theorem generate_of_not_followed (settings : Settings) (typed : service.Typed)
    (served : service.Served) (broken : ¬ service.Followed) :
    ∃ fault, service.reach = .error fault ∧ service.generate settings = .error fault ∧
      Cli.isUnsupported fault = false := by
  obtain ⟨⟨family, errors⟩, familiesDone⟩ := (served_iff_families_succeeds typed).mp served
  rw [followed_iff_reach_succeeds, ← Except.exists_error_iff] at broken
  obtain ⟨fault, failed⟩ := broken
  obtain ⟨fullName, isFullName⟩ := Layout.isText_iff.mp typed.metadata.fullName
  obtain ⟨opening, openingDone⟩ := opening_succeeds settings isFullName
  obtain ⟨imports, importsDone⟩ := Style.importSection_succeeds ⟨family, settings⟩
  refine ⟨fault, failed, ?_, untold_of_foldlM_error failed⟩
  simp only [generate, familiesDone, moduleText, openingDone, importsDone, typeSection, failed,
    Except.ok_bind, Except.error_bind]

end Service

namespace Cli

/-! ### Steps of a run -/

section Steps

variable {α β : Type} {session : Session}

/-- What a run comes to. -/
def Run.outcome (run : Run α) (session : Session) : Except Escape α := (run.run.run session).1

/-- What a run leaves. -/
def Run.after (run : Run α) (session : Session) : Session := (run.run.run session).2

theorem outcome_bind (step : Run α) (next : α → Run β) (session : Session) :
    (step >>= next).outcome session =
      match step.outcome session with
      | .ok a => (next a).outcome (step.after session)
      | .error escape => .error escape := by
  show (match step.run.run session with
    | (result, later) => (ExceptT.bindCont next result).run later).1 = _
  unfold Run.outcome Run.after
  rcases step.run.run session with ⟨result, later⟩
  cases result <;> rfl

theorem outcome_get_bind (next : Session → Run α) (session : Session) :
    ((get : Run Session) >>= next).outcome session = (next session).outcome session := rfl

/-- A step goes through with what it gives, or stops at a mark in its text. -/
def Tells (step : Run α) (gives : α → Prop) : Prop :=
  ∀ session, (∃ a, step.outcome session = .ok a ∧ gives a) ∨ step.outcome session = .error .markup

theorem tells_pure {a : α} {gives : α → Prop} (given : gives a) : Tells (pure a : Run α) gives :=
  fun _ => .inl ⟨a, rfl, given⟩

theorem Tells.bind {step : Run α} {next : α → Run β} {gives : α → Prop} {gives' : β → Prop}
    (tells : Tells step gives) (nextTells : ∀ a, gives a → Tells (next a) gives') :
    Tells (step >>= next) gives' := by
  intro session
  rw [outcome_bind]
  rcases tells session with ⟨a, done, given⟩ | stopped
  · rw [done]
    exact nextTells a given (step.after session)
  · rw [stopped]
    exact .inr rfl

theorem tells_modify (change : Session → Session) : Tells (modify change : Run Unit) fun _ => True :=
  fun _ => .inl ⟨(), rfl, trivial⟩

theorem tells_showLines (lines : List String) : Tells (showLines lines) fun _ => True :=
  tells_modify _

theorem tells_say (text : String) : Tells (say text) fun _ => True := by
  unfold say
  split
  case h_1 => exact tells_showLines _
  case h_2 => exact fun _ => .inr rfl

theorem tells_forM {items : List β} {step : β → Run Unit}
    (each : ∀ item, Tells (step item) fun _ => True) : Tells (items.forM step) fun _ => True := by
  induction items with
  | nil => exact tells_pure trivial
  | cons item rest ih => exact (each item).bind fun _ _ => ih

theorem tells_showSummary (summary : Summary) : Tells (showSummary summary) fun _ => True :=
  (tells_showLines _).bind fun _ _ => tells_forM fun _ => tells_say _

theorem tells_showWarnings (warnings : List Settings.Warning) :
    Tells (showWarnings warnings) fun _ => True := by
  unfold showWarnings
  split
  case isTrue => exact tells_pure trivial
  case isFalse => exact (tells_showLines _).bind fun _ _ => tells_forM fun _ => tells_say _

theorem tells_showCode (generated : Generated) (plain : Bool) :
    Tells (showCode generated plain) fun _ => True := by
  unfold showCode
  split
  case isTrue => exact tells_modify _
  case isFalse =>
    exact (tells_say _).bind fun _ _ => (tells_showLines _).bind fun _ _ => tells_showLines _

/-- Whatever is told about a module that was made, the status is 0. -/
theorem tells_finish (request : Request) (generated : Generated) :
    Tells (finish request generated) (· = 0) := by
  have warned : Tells (showWarnings generated.warnings >>= fun _ => (pure 0 : Run Int)) (· = 0) :=
    (tells_showWarnings _).bind fun _ _ => tells_pure rfl
  unfold finish
  split
  case isTrue => exact (tells_showSummary _).bind fun _ _ => warned
  case isFalse => exact warned

/-- What a run comes to that says something and ends. -/
def told (text : String) (status : Int) : Except Escape Int :=
  match Markup.plain? text with
  | some _ => .ok status
  | none => .error .markup

theorem outcome_say_bind (text : String) (status : Int) (session : Session) :
    (say text >>= fun _ => pure status : Run Int).outcome session = told text status := by
  rw [outcome_bind]
  unfold say told
  cases Markup.plain? text <;> rfl

/-- Some errors are told, and the others escape. -/
theorem outcome_tell_or_throw (known : Bool) (text : String) (status : Int) (escape : Escape)
    (session : Session) :
    (if known then (say text >>= fun _ => pure status) else throw escape : Run Int).outcome session =
      if known then told text status else .error escape := by
  cases known with
  | true => exact outcome_say_bind text status session
  | false => rfl

theorem outcome_putFile (path content : String) (session : Session) :
    (putFile path content).outcome session =
      .ok (session.tree.write? path (Text.utf8Encode content)).isSome := by
  unfold putFile
  rw [outcome_get_bind]
  cases session.tree.write? path (Text.utf8Encode content) <;> rfl

theorem tells_putFile (path content : String) : Tells (putFile path content) fun _ => True :=
  fun session => .inl ⟨_, outcome_putFile path content session, trivial⟩

end Steps

/-! ### How the `generate` command ends -/

variable {request : Request} {fetched : Fetched} {tree : FileTree}

/-- The output file, if there is one, can be emptied. -/
def CanWrite (request : Request) (tree : FileTree) : Prop :=
  ∀ path, request.outputPath? = some path → tree.write? path (Text.utf8Encode "") ≠ none

/-- What comes of a fault of generating. -/
def abandoned (fault : Fault) : Except Escape Int :=
  if isUnsupported fault then told s!"[red]✗ Generation failed:[/red] {fault.message}" 2
  else .error (.fault fault)

/-- How a run ends whose description was read. -/
inductive ModuleEnds (request : Request) (tree : FileTree) (service : Service)
    (settings : Settings) : Except Escape Int → Prop where
  | unwritable {path : String} (output : request.outputPath? = some path)
      (refused : tree.write? path (Text.utf8Encode "") = none) :
      ModuleEnds request tree service settings (told s!"[red]✗ Failed to write {path}[/red]" 1)
  | abandoned {fault : Fault} (writable : CanWrite request tree)
      (failed : service.generate settings = .error fault) :
      ModuleEnds request tree service settings (abandoned fault)
  | made {generated : Generated} {outcome : Except Escape Int} (writable : CanWrite request tree)
      (done : service.generate settings = .ok generated)
      (tells : outcome = .ok 0 ∨ outcome = .error .markup) :
      ModuleEnds request tree service settings outcome

/-- How a run of the `generate` command ends, from the files that it starts with. -/
inductive Ends (request : Request) (fetched : Fetched) (tree : FileTree) :
    Except Escape Int → Prop where
  | unsettled {error : SettingsError}
      (failed : Settings.load tree [] request.config request.overrides = .error error) :
      Ends request fetched tree
        (if error.isOfSettings then told s!"[red]✗ Error:[/red] {error.message}" 1
        else .error (.settings error))
  | unloaded {settings : Settings} {error : LoadError}
      (configured : Settings.load tree [] request.config request.overrides = .ok settings)
      (failed : loadDescription tree fetched request.file request.url = .error error) :
      Ends request fetched tree
        (if error.isLoading then told s!"[red]✗ Error:[/red] {error.fullMessage}" 1
        else .error (.load error))
  | unread {settings : Settings} {loaded : Loaded} {fault : Fault}
      (configured : Settings.load tree [] request.config request.overrides = .ok settings)
      (loads : loadDescription tree fetched request.file request.url = .ok loaded)
      (failed : Service.ofJson loaded.document = .error fault) :
      Ends request fetched tree
        (if isMalformed fault then
          told s!"[red]✗ Malformed service description {loaded.source}:[/red] {malformedText fault}" 2
        else .error (.fault fault))
  | read {settings : Settings} {loaded : Loaded} {service : Service} {outcome : Except Escape Int}
      (configured : Settings.load tree [] request.config request.overrides = .ok settings)
      (loads : loadDescription tree fetched request.file request.url = .ok loaded)
      (reads : Service.ofJson loaded.document = .ok service)
      (ends : ModuleEnds request tree service settings outcome) : Ends request fetched tree outcome

theorem outcome_abandon (fault : Fault) (session : Session) :
    (abandon fault).outcome session = abandoned fault := outcome_tell_or_throw _ _ 2 _ session

theorem moduleEnds_generateModule (request : Request) (service : Service) (settings : Settings)
    (session : Session) : ModuleEnds request session.tree service settings
      ((generateModule request service settings).outcome session) := by
  unfold generateModule
  cases output : request.outputPath? with
  | none =>
    have writable : CanWrite request session.tree := by
      intro path given
      rw [output] at given
      cases given
    cases result : service.generate settings with
    | error fault =>
      rw [outcome_abandon]
      exact .abandoned writable result
    | ok generated =>
      have tells := (tells_showCode generated request.plain).bind fun _ _ =>
        tells_finish request generated
      refine .made writable result ?_
      rcases tells session with ⟨status, done, rfl⟩ | stopped
      · exact .inl done
      · exact .inr stopped
  | some path =>
    dsimp only
    rw [outcome_bind, outcome_putFile]
    cases written : session.tree.write? path (Text.utf8Encode "") with
    | none =>
      simp only [Option.isSome_none, Bool.false_eq_true, if_false]
      rw [outcome_say_bind]
      exact .unwritable output written
    | some later =>
      have writable : CanWrite request session.tree := by
        intro other given
        obtain rfl := Option.some.inj (output.symm.trans given)
        rw [written]
        exact Option.some_ne_none later
      simp only [Option.isSome_some, if_true]
      cases result : service.generate settings with
      | error fault =>
        dsimp only
        rw [outcome_abandon]
        exact .abandoned writable result
      | ok generated =>
        have tells := (tells_putFile path generated.code).bind fun _ _ =>
          (tells_say s!"[green]✓[/green] Generated {generated.summary.client} saved to [cyan]{path}[/cyan]").bind
            fun _ _ => tells_finish request generated
        refine .made writable result ?_
        rcases tells ((putFile path "").after session) with ⟨status, done, rfl⟩ | stopped
        · exact .inl done
        · exact .inr stopped

theorem ends_runGenerate (request : Request) (fetched : Fetched) (session : Session) :
    Ends request fetched session.tree ((runGenerate request fetched).outcome session) := by
  unfold runGenerate
  rw [outcome_get_bind]
  dsimp only
  cases configured : Settings.load session.tree [] request.config request.overrides with
  | error error =>
    dsimp only
    rw [outcome_tell_or_throw]
    exact .unsettled configured
  | ok settings =>
    cases loads : loadDescription session.tree fetched request.file request.url with
    | error error =>
      dsimp only
      rw [outcome_tell_or_throw]
      exact .unloaded configured loads
    | ok loaded =>
      cases reads : Service.ofJson loaded.document with
      | error fault =>
        dsimp only
        rw [reads, outcome_tell_or_throw]
        exact .unread configured loads reads
      | ok service =>
        dsimp only
        rw [reads]
        exact .read configured loads reads (moduleEnds_generateModule request service settings session)

theorem status_of_told {text : String} {given status : Int} (ends : told text given = .ok status) :
    status = given := by
  unfold told at ends
  split at ends
  case h_1 => exact (Except.ok.inj ends).symm
  case h_2 => cases ends

theorem status_of_tell_or_throw {known : Bool} {text : String} {given status : Int} {escape : Escape}
    (ends : (if known then told text given else .error escape) = .ok status) : status = given := by
  cases known with
  | true => exact status_of_told ends
  | false => cases ends

theorem ModuleEnds.status {service : Service} {settings : Settings} {outcome : Except Escape Int}
    (how : ModuleEnds request tree service settings outcome) {status : Int}
    (ends : outcome = .ok status) : status = 0 ∨ status = 1 ∨ status = 2 := by
  cases how with
  | unwritable => exact .inr (.inl (status_of_told ends))
  | abandoned => exact .inr (.inr (status_of_tell_or_throw ends))
  | made _ _ tells =>
    rcases tells with rfl | rfl
    · exact .inl (Except.ok.inj ends).symm
    · cases ends

theorem Ends.status {outcome : Except Escape Int} (how : Ends request fetched tree outcome)
    {status : Int} (ends : outcome = .ok status) : status = 0 ∨ status = 1 ∨ status = 2 := by
  cases how with
  | unsettled => exact .inr (.inl (status_of_tell_or_throw ends))
  | unloaded => exact .inr (.inl (status_of_tell_or_throw ends))
  | unread => exact .inr (.inr (status_of_tell_or_throw ends))
  | read _ _ _ how => exact how.status ends

theorem outcome_run_generate {arguments : List String}
    (asks : Command.ofArguments arguments = .ok (.generate request)) (session : Session) :
    (run arguments fetched).outcome session =
      ((runGenerate request fetched).outcome session).map fun status => { status } := by
  unfold run
  rw [asks]
  dsimp only
  rw [outcome_bind]
  cases (runGenerate request fetched).outcome session <;> rfl

/-- Every run that ends has one of the three statuses, whatever its arguments, its files and the
network are. -/
theorem status_of_run {arguments : List String} {session : Session} {ended : Exit}
    (ends : (run arguments fetched).outcome session = .ok ended) :
    ended.status = 0 ∨ ended.status = 1 ∨ ended.status = 2 := by
  cases asks : Command.ofArguments arguments with
  | error stop =>
    unfold run at ends
    rw [asks] at ends
    cases stop with
    | misused =>
      obtain rfl := Except.ok.inj ends
      exact .inr (.inr rfl)
    | informed =>
      obtain rfl := Except.ok.inj ends
      exact .inl rfl
  | ok command =>
    cases command with
    | help =>
      unfold run at ends
      rw [asks] at ends
      obtain rfl := Except.ok.inj ends
      exact .inl rfl
    | protocols =>
      unfold run at ends
      rw [asks] at ends
      obtain rfl := Except.ok.inj ends
      exact .inl rfl
    | generate request =>
      rw [outcome_run_generate asks, Except.map_eq_ok_iff] at ends
      obtain ⟨status, done, rfl⟩ := ends
      exact (ends_runGenerate request fetched session).status done

/-- With status 2 a run has read a document that gives no module. -/
theorem no_module_of_status_two {session : Session}
    (ends : (runGenerate request fetched).outcome session = .ok 2) :
    ∃ settings loaded fault,
      Settings.load session.tree [] request.config request.overrides = .ok settings ∧
      loadDescription session.tree fetched request.file request.url = .ok loaded ∧
      generateFromJson loaded.document settings = .error fault := by
  generalize outcome : (runGenerate request fetched).outcome session = result at ends
  have how := ends_runGenerate request fetched session
  rw [outcome] at how
  cases how with
  | unsettled => cases status_of_tell_or_throw ends
  | unloaded => cases status_of_tell_or_throw ends
  | @unread settings loaded fault configured loads failed =>
    refine ⟨settings, loaded, fault, configured, loads, ?_⟩
    rw [generateFromJson, failed, Except.error_bind]
  | @read settings loaded service _ configured loads reads how =>
    cases how with
    | unwritable => cases status_of_told ends
    | @abandoned fault _ failed =>
      refine ⟨settings, loaded, fault, configured, loads, ?_⟩
      rw [generateFromJson, reads, Except.ok_bind, failed]
    | made _ _ tells =>
      rcases tells with rfl | rfl
      · cases ends
      · cases ends

/-! ### Descriptions that give no module -/

section Untranslatable

variable {session : Session} {settings : Settings} {loaded : Loaded} {service : Service}
  {fault : Fault}

/-- A fault of generating is told or escapes, as it is or is not one of an unsupported service. -/
theorem outcome_of_generate_error
    (configured : Settings.load session.tree [] request.config request.overrides = .ok settings)
    (loads : loadDescription session.tree fetched request.file request.url = .ok loaded)
    (reads : Service.ofJson loaded.document = .ok service) (writable : CanWrite request session.tree)
    (failed : service.generate settings = .error fault) :
    (runGenerate request fetched).outcome session = abandoned fault := by
  generalize outcome : (runGenerate request fetched).outcome session = result
  have how := ends_runGenerate request fetched session
  rw [outcome] at how
  cases how with
  | unsettled other => cases configured.symm.trans other
  | unloaded _ other => cases loads.symm.trans other
  | unread _ loadsAgain other =>
    obtain rfl := Except.ok.inj (loads.symm.trans loadsAgain)
    cases reads.symm.trans other
  | read configuredAgain loadsAgain readsAgain how =>
    obtain rfl := Except.ok.inj (configured.symm.trans configuredAgain)
    obtain rfl := Except.ok.inj (loads.symm.trans loadsAgain)
    obtain rfl := Except.ok.inj (reads.symm.trans readsAgain)
    cases how with
    | unwritable output refused => exact absurd refused (writable _ output)
    | abandoned _ failedAgain =>
      obtain rfl := Except.error.inj (failed.symm.trans failedAgain)
      rfl
    | made _ done => cases failed.symm.trans done

/-- What becomes of a documented description that gives no module: a protocol that is not served is
told with status 2; a reference that cannot be followed always escapes; a shape that cannot be
declared is told if its kind is not known. -/
theorem outcome_of_documented
    (configured : Settings.load session.tree [] request.config request.overrides = .ok settings)
    (loads : loadDescription session.tree fetched request.file request.url = .ok loaded)
    (documented : Layout.service loaded.document)
    (reads : Service.ofJson loaded.document = .ok service)
    (writable : CanWrite request session.tree) :
    (¬ service.Served →
      ∃ text, (runGenerate request fetched).outcome session = told text 2) ∧
    (service.Served → ¬ service.Followed → ∃ fault, service.reach = .error fault ∧
      (runGenerate request fetched).outcome session = .error (.fault fault)) ∧
    (service.Served → service.Followed → ¬ service.Declared → ∃ fault : Fault, fault.OfShape ∧
      (runGenerate request fetched).outcome session = abandoned fault) := by
  have typed := Service.typed_of_ofJson documented reads
  refine ⟨?_, ?_, ?_⟩
  · intro unserved
    have failed : service.generate settings = .error _ :=
      Service.generate_of_not_served typed unserved
    exact ⟨_, outcome_of_generate_error configured loads reads writable failed⟩
  · intro served broken
    obtain ⟨fault, unfound, failed, untold⟩ :=
      Service.generate_of_not_followed settings typed served broken
    refine ⟨fault, unfound, ?_⟩
    rw [outcome_of_generate_error configured loads reads writable failed]
    unfold abandoned
    rw [untold]
    rfl
  · intro served followed undeclared
    have fails : ∃ fault, service.generate settings = .error fault ∧ fault.OfShape :=
      Service.generate_of_not_declared typed served followed undeclared
    obtain ⟨fault, failed, ofShape⟩ := fails
    exact ⟨fault, ofShape, outcome_of_generate_error configured loads reads writable failed⟩

end Untranslatable

/-- A description of notes with an operation that takes a shape which is not defined. -/
def unfoundNotes : Json := .obj [
  ("metadata", .obj [("protocol", .str "json"), ("serviceFullName", .str "Notes")]),
  ("shapes", .obj []),
  ("operations", .obj [("Put", .obj [("input", .obj [("shape", .str "Note")])])])]

/-- The same description in a file of the working directory. -/
def unfoundFiles : FileTree where
  entries := [(["notes.json"], .file (Text.utf8Encode (
    "\x7b\"metadata\": \x7b\"protocol\": \"json\", \"serviceFullName\": \"Notes\"\x7d, " ++
    "\"shapes\": \x7b\x7d, " ++
    "\"operations\": \x7b\"Put\": \x7b\"input\": \x7b\"shape\": \"Note\"\x7d\x7d\x7d\x7d")))]

/-- A description is loaded from the text of its file. -/
theorem loadFile_of_text {tree : FileTree} {path text : String} {document : Json}
    (found : tree.find? (.ofString path) = some (.file (Text.utf8Encode text)))
    (parsed : Json.parse text = .ok document) :
    loadFile tree path = Loaded.check (Path.ofString path).toString document := by
  unfold loadFile
  simp only [found, Text.utf8Decode?_utf8Encode, parsed]

theorem loadFile_unfoundNotes {tree : FileTree} (found : tree.find? (.ofString "notes.json") =
    unfoundFiles.find? (.ofString "notes.json")) :
    loadFile tree "notes.json" = .ok ⟨"notes.json", unfoundNotes⟩ := by
  have parsed : Json.parse (
      "\x7b\"metadata\": \x7b\"protocol\": \"json\", \"serviceFullName\": \"Notes\"\x7d, " ++
      "\"shapes\": \x7b\x7d, " ++
      "\"operations\": \x7b\"Put\": \x7b\"input\": \x7b\"shape\": \"Note\"\x7d\x7d\x7d\x7d") =
        .ok unfoundNotes := by
    decide +kernel
  rw [loadFile_of_text (found.trans rfl) parsed]
  rfl

/-- A run with that file gets as far as the search and does not end. -/
theorem outcome_unfoundNotes (fetched : Fetched) :
    (run ["generate", "notes.json"] fetched).outcome { tree := unfoundFiles } =
      .error (.fault (.undefinedShape "Note")) := by
  let session : Session := { tree := unfoundFiles }
  let request : Request := { file := some "notes.json" }
  let service : Service :=
    { metadata := { protocol := .str "json", fullName := .str "Notes" }
      operations := [("Put", { name := .str "Put", input := .str "Note" })] }
  have asks : Command.ofArguments ["generate", "notes.json"] = .ok (.generate request) := by
    decide +kernel
  have configured : Settings.load session.tree [] request.config request.overrides = .ok {} := by
    decide +kernel
  have loads : loadDescription session.tree fetched request.file request.url =
      .ok ⟨"notes.json", unfoundNotes⟩ := by
    show loadFile unfoundFiles "notes.json" = .ok ⟨"notes.json", unfoundNotes⟩
    exact loadFile_unfoundNotes rfl
  have reads : Service.ofJson unfoundNotes = .ok service := by cbv
  have unfound : service.reach = .error (.undefinedShape "Note") := by cbv
  have served : service.Served := ⟨"json", by decide, rfl⟩
  have broken : ¬ service.Followed := by
    rw [Service.followed_iff_reach_succeeds, unfound]
    rintro ⟨reach, done⟩
    cases done
  have writable : CanWrite request session.tree := by
    intro path given
    cases given
  obtain ⟨-, escapes, -⟩ := outcome_of_documented configured loads (by decide) reads writable
  obtain ⟨fault, failed, escapes⟩ := escapes served broken
  obtain rfl := Except.error.inj (unfound.symm.trans failed)
  rw [outcome_run_generate asks, escapes]
  rfl

/-- So a document that was loaded and gives no module does not always end in status 2, or at all. -/
theorem not_every_run_ends :
    ¬ ∀ arguments fetched session, ∃ ended, (run arguments fetched).outcome session = .ok ended := by
  intro always
  obtain ⟨ended, ends⟩ :=
    always ["generate", "notes.json"] (.refused "offline") { tree := unfoundFiles }
  rw [outcome_unfoundNotes] at ends
  cases ends

end Cli

end ServiceClient
