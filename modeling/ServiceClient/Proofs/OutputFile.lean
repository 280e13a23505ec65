import ServiceClient.Proofs.ExitStatus
import ServiceClient.Proofs.Pairs

/-!
What a run of the `generate` command leaves in its output file. The file is emptied before anything
is generated and gets the code in one piece. So a run that goes wrong before has touched no file, one
whose description gives no module leaves an empty file, and only a file with all of the code goes with
status 0.
-/

namespace ServiceClient

/-! ### Files that are put -/

namespace FileTree

variable {tree later : FileTree} {path : String} {content : Octets} {components : List String}

/-- The tree with a file at a place. -/
def put (tree : FileTree) (components : List String) (content : Octets) : FileTree where
  entries := Pairs.insert components (.file content) tree.entries

theorem put_put (components : List String) (first second : Octets) :
    (tree.put components first).put components second = tree.put components second :=
  congrArg FileTree.mk (Pairs.insert_insert ..)

theorem write?_eq_some_iff : tree.write? path content = some later ↔
    ∃ components, tree.follow (.ofString path) = some (.inside components) ∧
      ¬ (path.endsWith "/" || path.endsWith "/.") ∧ tree.entry? components ≠ some .directory ∧
      later = tree.put components content := by
  unfold write?
  cases tree.follow (.ofString path) with
  | none => simp
  | some place =>
    cases place with
    | above levels => simp
    | inside components =>
      by_cases slash : (path.endsWith "/" || path.endsWith "/.") = true
      · simp [slash]
      · by_cases isDirectory : tree.entry? components = some .directory
        · simp [isDirectory]
        · simp only [Bool.not_eq_true] at slash
          simp [slash, isDirectory, put]
          exact eq_comm

theorem entry?_put_self : entry? (tree.put components content) components = some (.file content) := by
  unfold entry? put
  rw [Pairs.lookup_insert, beq_self_eq_true]
  rfl

/-- Putting a file takes no directory away. -/
theorem directory_put {place : List String} (other : tree.entry? components ≠ some .directory)
    (isDirectory : tree.entry? place = some .directory) :
    entry? (tree.put components content) place = some .directory := by
  have different : (place == components) = false := by
    apply beq_false_of_ne
    rintro rfl
    exact other isDirectory
  unfold entry? at isDirectory ⊢
  rw [put, Pairs.lookup_insert, different, if_neg Bool.false_ne_true]
  cases found : tree.entries.lookup place with
  | some entry => rwa [found] at isDirectory
  | none =>
    rw [found] at isDirectory
    simp only at isDirectory
    split at isDirectory
    · rename_i within
      have still := (Bool.or_eq_true_iff.mp within).imp_right fun there =>
        Pairs.any_insert (fun _ _ _ => rfl) there components (.file content)
      exact if_pos (Bool.or_eq_true_iff.mpr still)
    · cases isDirectory

theorem step_put {place next : Place} {component : String}
    (other : tree.entry? components ≠ some .directory) (steps : tree.step place component = some next) :
    (tree.put components content).step place component = some next := by
  cases place with
  | above levels => exact steps
  | inside outer =>
    dsimp only [step] at steps ⊢
    by_cases isDirectory : tree.entry? outer = some .directory
    · rw [if_pos (directory_put other isDirectory)]
      rwa [if_pos isDirectory] at steps
    · rw [if_neg isDirectory] at steps
      cases steps

/-- A path that could be followed still leads to the same place. -/
theorem follow_put {target : Path} {place : Place} (other : tree.entry? components ≠ some .directory)
    (leads : tree.follow target = some place) :
    (tree.put components content).follow target = some place := by
  unfold follow at leads ⊢
  generalize Place.inside target.origin = start, target.components = parts at leads ⊢
  induction parts generalizing start with
  | nil => exact leads
  | cons component rest ih =>
    rw [List.foldlM_cons, Option.bind_eq_bind, Option.bind_eq_some_iff] at leads
    obtain ⟨next, steps, leads⟩ := leads
    rw [List.foldlM_cons, step_put other steps]
    exact ih next leads

/-- A file that was put is found under its path. -/
theorem find?_of_write? (written : tree.write? path content = some later) :
    later.find? (.ofString path) = some (.file content) := by
  obtain ⟨components, leads, -, other, rfl⟩ := write?_eq_some_iff.mp written
  rw [find?, follow_put other leads]
  exact entry?_put_self

/-- Where one content can be put, any content can; and what is put last counts. -/
theorem write?_of_write? (written : tree.write? path content = some later) (next : Octets) :
    ∃ last, later.write? path next = some last ∧ tree.write? path next = some last := by
  obtain ⟨components, leads, slash, other, rfl⟩ := write?_eq_some_iff.mp written
  refine ⟨tree.put components next, ?_, ?_⟩
  · refine write?_eq_some_iff.mpr ⟨components, follow_put other leads, slash, ?_, ?_⟩
    · rw [entry?_put_self]
      simp
    · exact (put_put components content next).symm
  · exact write?_eq_some_iff.mpr ⟨components, leads, slash, other, rfl⟩

theorem write?_eq_none (refused : tree.write? path content = none) (next : Octets) :
    tree.write? path next = none := by
  by_contra other
  obtain ⟨later, written⟩ := Option.ne_none_iff_exists'.mp other
  obtain ⟨_, -, written⟩ := write?_of_write? written content
  rw [refused] at written
  cases written

end FileTree

namespace Cli

/-! ### Steps that touch no file -/

section Steps

variable {α β : Type}

/-- The files that a run leaves. -/
def Run.files (run : Run α) (session : Session) : FileTree := (run.after session).tree

theorem files_bind (step : Run α) (next : α → Run β) (session : Session) :
    (step >>= next).files session =
      match step.outcome session with
      | .ok a => (next a).files (step.after session)
      | .error _ => step.files session := by
  show (match step.run.run session with
    | (result, later) => (ExceptT.bindCont next result).run later).2.tree = _
  unfold Run.files Run.outcome Run.after
  rcases step.run.run session with ⟨result, later⟩
  cases result <;> rfl

theorem files_get_bind (next : Session → Run α) (session : Session) :
    ((get : Run Session) >>= next).files session = (next session).files session := rfl

/-- A step leaves the files as they are, however it ends. -/
def KeepsFiles (step : Run α) : Prop := ∀ session, step.files session = session.tree

theorem keepsFiles_pure (a : α) : KeepsFiles (pure a : Run α) := fun _ => rfl

theorem keepsFiles_throw (escape : Escape) : KeepsFiles (throw escape : Run α) := fun _ => rfl

theorem KeepsFiles.bind {step : Run α} {next : α → Run β} (keeps : KeepsFiles step)
    (nextKeeps : ∀ a, KeepsFiles (next a)) : KeepsFiles (step >>= next) := by
  intro session
  rw [files_bind]
  cases step.outcome session with
  | ok a => exact (nextKeeps a _).trans (keeps session)
  | error escape => exact keeps session

theorem keepsFiles_showLines (lines : List String) : KeepsFiles (showLines lines) := fun _ => rfl

theorem keepsFiles_say (text : String) : KeepsFiles (say text) := by
  unfold say
  split
  · exact keepsFiles_showLines _
  · exact keepsFiles_throw _

theorem keepsFiles_forM {items : List β} {step : β → Run Unit}
    (each : ∀ item, KeepsFiles (step item)) : KeepsFiles (items.forM step) := by
  induction items with
  | nil => exact keepsFiles_pure _
  | cons item rest ih => exact (each item).bind fun _ => ih

theorem keepsFiles_showSummary (summary : Summary) : KeepsFiles (showSummary summary) :=
  (keepsFiles_showLines _).bind fun _ => keepsFiles_forM fun _ => keepsFiles_say _

theorem keepsFiles_showWarnings (warnings : List Settings.Warning) :
    KeepsFiles (showWarnings warnings) := by
  unfold showWarnings
  split
  · exact keepsFiles_pure _
  · exact (keepsFiles_showLines _).bind fun _ => keepsFiles_forM fun _ => keepsFiles_say _

theorem keepsFiles_finish (request : Request) (generated : Generated) :
    KeepsFiles (finish request generated) := by
  have warned : KeepsFiles (showWarnings generated.warnings >>= fun _ => (pure 0 : Run Int)) :=
    (keepsFiles_showWarnings _).bind fun _ => keepsFiles_pure _
  unfold finish
  split
  · exact (keepsFiles_showSummary _).bind fun _ => warned
  · exact warned

theorem keepsFiles_tell_or_throw (known : Bool) (text : String) (status : Int) (escape : Escape) :
    KeepsFiles (if known then (say text >>= fun _ => pure status) else throw escape : Run Int) := by
  cases known with
  | true => exact (keepsFiles_say text).bind fun _ => keepsFiles_pure status
  | false => exact keepsFiles_throw escape

theorem keepsFiles_abandon (fault : Fault) : KeepsFiles (abandon fault) :=
  keepsFiles_tell_or_throw _ _ 2 _

theorem files_putFile (path content : String) (session : Session) :
    (putFile path content).files session =
      (session.tree.write? path (Text.utf8Encode content)).getD session.tree := by
  unfold putFile
  rw [files_get_bind]
  cases session.tree.write? path (Text.utf8Encode content) <;> rfl

end Steps

/-! ### The output file -/

variable {request : Request} {fetched : Fetched} {tree : FileTree} {path : String}

/-- What a run has before anything is generated: settings and a service. -/
structure Prepares (request : Request) (fetched : Fetched) (tree : FileTree) (settings : Settings)
    (service : Service) : Prop where
  configured : Settings.load tree [] request.config request.overrides = .ok settings
  read : ∃ loaded, loadDescription tree fetched request.file request.url = .ok loaded ∧
    Service.ofJson loaded.document = .ok service

/-- The files after a run that has got as far as generating. -/
def filesGenerated (tree : FileTree) (path : String) : Except Fault Generated → FileTree
  | .ok generated => (tree.write? path (Text.utf8Encode generated.code)).getD tree
  | .error _ => (tree.write? path (Text.utf8Encode "")).getD tree

theorem filesGenerated_of_refused (refused : tree.write? path (Text.utf8Encode "") = none)
    (result : Except Fault Generated) : filesGenerated tree path result = tree := by
  unfold filesGenerated
  split
  · rw [FileTree.write?_eq_none refused]
    rfl
  · rw [refused]
    rfl

/-- A step after a file was put, which it leaves as it is. -/
theorem files_putFile_bind {α : Type} {next : Bool → Run α} (content : String)
    (keeps : ∀ done, KeepsFiles (next done)) (session : Session) :
    (putFile path content >>= next).files session =
      (session.tree.write? path (Text.utf8Encode content)).getD session.tree := by
  rw [files_bind, outcome_putFile]
  exact (keeps _ _).trans (files_putFile path content session)

theorem files_generateModule (output : request.outputPath? = some path) (service : Service)
    (settings : Settings) (session : Session) :
    (generateModule request service settings).files session =
      filesGenerated session.tree path (service.generate settings) := by
  have emptied : ((putFile path "").after session).tree = _ := files_putFile path "" session
  unfold generateModule
  rw [output]
  dsimp only
  rw [files_bind, outcome_putFile]
  cases written : session.tree.write? path (Text.utf8Encode "") with
  | none =>
    rw [written] at emptied
    rw [filesGenerated_of_refused written]
    exact (((keepsFiles_say _).bind fun _ => keepsFiles_pure 1) _).trans emptied
  | some later =>
    rw [written] at emptied
    simp only [Option.isSome_some, if_true]
    cases service.generate settings with
    | error fault =>
      show (abandon fault).files _ = _
      rw [keepsFiles_abandon, emptied, filesGenerated, written]
    | ok generated =>
      have puts : _ := FileTree.write?_of_write? written (Text.utf8Encode generated.code)
      obtain ⟨last, again, once⟩ := puts
      dsimp only
      rw [files_putFile_bind generated.code
        (fun _ => (keepsFiles_say _).bind fun _ => keepsFiles_finish request generated), emptied,
        filesGenerated, once]
      exact congrArg (·.getD later) again

theorem files_of_prepares {settings : Settings} {service : Service} {session : Session}
    (prepares : Prepares request fetched session.tree settings service) :
    (runGenerate request fetched).files session =
      (generateModule request service settings).files session := by
  obtain ⟨configured, loaded, loads, reads⟩ := prepares
  unfold runGenerate
  rw [files_get_bind]
  dsimp only
  rw [configured]
  dsimp only
  rw [loads]
  dsimp only
  rw [reads]

theorem files_of_not_prepares {session : Session}
    (fails : ¬ ∃ settings service, Prepares request fetched session.tree settings service) :
    (runGenerate request fetched).files session = session.tree := by
  unfold runGenerate
  rw [files_get_bind]
  dsimp only
  cases configured : Settings.load session.tree [] request.config request.overrides with
  | error error => exact keepsFiles_tell_or_throw _ _ 1 _ session
  | ok settings =>
    cases loads : loadDescription session.tree fetched request.file request.url with
    | error error => exact keepsFiles_tell_or_throw _ _ 1 _ session
    | ok loaded =>
      cases reads : Service.ofJson loaded.document with
      | error fault =>
        dsimp only
        rw [reads]
        exact keepsFiles_tell_or_throw _ _ 2 _ session
      | ok service => exact absurd ⟨settings, service, configured, loaded, loads, reads⟩ fails

theorem files_run_generate {arguments : List String}
    (asks : Command.ofArguments arguments = .ok (.generate request)) (session : Session) :
    (run arguments fetched).files session = (runGenerate request fetched).files session := by
  unfold run
  rw [asks]
  dsimp only
  rw [files_bind]
  cases done : (runGenerate request fetched).outcome session with
  | ok status => exact keepsFiles_pure _ _
  | error escape => rfl

/-- With status 0 a module was made and its file could be written. -/
theorem module_of_status_zero {arguments : List String} {session : Session} {ended : Exit}
    (asks : Command.ofArguments arguments = .ok (.generate request))
    (ends : (run arguments fetched).outcome session = .ok ended) (zero : ended.status = 0) :
    ∃ settings service generated, Prepares request fetched session.tree settings service ∧
      CanWrite request session.tree ∧ service.generate settings = .ok generated := by
  rw [outcome_run_generate asks, Except.map_eq_ok_iff] at ends
  obtain ⟨status, ends, rfl⟩ := ends
  change status = 0 at zero
  subst zero
  generalize outcome : (runGenerate request fetched).outcome session = result at ends
  have how := ends_runGenerate request fetched session
  rw [outcome] at how
  cases how with
  | unsettled => cases status_of_tell_or_throw ends
  | unloaded => cases status_of_tell_or_throw ends
  | unread => cases status_of_tell_or_throw ends
  | @read settings loaded service _ configured loads reads how =>
    cases how with
    | unwritable => cases status_of_told ends
    | abandoned => cases status_of_tell_or_throw ends
    | @made generated _ writable done =>
      exact ⟨settings, service, generated, ⟨configured, loaded, loads, reads⟩, writable, done⟩

theorem Prepares.generates {settings other : Settings} {service same : Service}
    (prepares : Prepares request fetched tree settings service)
    (again : Prepares request fetched tree other same) :
    service.generate settings = same.generate other := by
  obtain ⟨configured, loaded, loads, reads⟩ := prepares
  obtain ⟨configuredAgain, loadedAgain, loadsAgain, readsAgain⟩ := again
  obtain rfl := Except.ok.inj (configured.symm.trans configuredAgain)
  obtain rfl := Except.ok.inj (loads.symm.trans loadsAgain)
  obtain rfl := Except.ok.inj (reads.symm.trans readsAgain)
  rfl

/-- The output file after a run, whatever its arguments, its files and the network are. With status 0
it holds exactly the code of the description under the settings, and no other file has changed. If
the settings, the document or the service are faulty, or if the file cannot be opened, all files are
as they were. If there is a service but no module, the file is empty. -/
theorem output_file_is_whole {arguments : List String}
    (asks : Command.ofArguments arguments = .ok (.generate request))
    (output : request.outputPath? = some path) (fetched : Fetched) (session : Session) :
    (∀ ended, (run arguments fetched).outcome session = .ok ended → ended.status = 0 →
      ∃ settings service generated, Prepares request fetched session.tree settings service ∧
        service.generate settings = .ok generated ∧
        session.tree.write? path (Text.utf8Encode generated.code) =
          some ((run arguments fetched).files session) ∧
        ((run arguments fetched).files session).find? (.ofString path) =
          some (.file (Text.utf8Encode generated.code))) ∧
    ((¬ ∃ settings service, Prepares request fetched session.tree settings service) ∨
        session.tree.write? path (Text.utf8Encode "") = none →
      (run arguments fetched).files session = session.tree ∧
        ∀ ended, (run arguments fetched).outcome session = .ok ended → ended.status ≠ 0) ∧
    (∀ settings service fault, Prepares request fetched session.tree settings service →
      service.generate settings = .error fault →
      session.tree.write? path (Text.utf8Encode "") ≠ none →
      ((run arguments fetched).files session).find? (.ofString path) = some (.file []) ∧
        ∀ ended, (run arguments fetched).outcome session = .ok ended → ended.status ≠ 0) := by
  -- a run that gets as far as generating leaves what comes of that
  have left {settings : Settings} {service : Service}
      (prepares : Prepares request fetched session.tree settings service) :
      (run arguments fetched).files session =
        filesGenerated session.tree path (service.generate settings) := by
    rw [files_run_generate asks, files_of_prepares prepares, files_generateModule output]
  refine ⟨?_, ?_, ?_⟩
  · intro ended ends zero
    obtain ⟨settings, service, generated, prepares, writable, done⟩ :=
      module_of_status_zero asks ends zero
    obtain ⟨emptied, written⟩ := Option.ne_none_iff_exists'.mp (writable path output)
    obtain ⟨last, -, once⟩ := FileTree.write?_of_write? written (Text.utf8Encode generated.code)
    have files : (run arguments fetched).files session = last := by
      rw [left prepares, done, filesGenerated, once]
      rfl
    rw [files]
    exact ⟨settings, service, generated, prepares, done, once, FileTree.find?_of_write? once⟩
  · intro faulty
    refine ⟨?_, ?_⟩
    · by_cases prepared : ∃ settings service, Prepares request fetched session.tree settings service
      · obtain ⟨settings, service, prepares⟩ := prepared
        have refused := faulty.resolve_left fun fails => fails ⟨settings, service, prepares⟩
        rw [left prepares, filesGenerated_of_refused refused]
      · rw [files_run_generate asks, files_of_not_prepares prepared]
    · intro ended ends zero
      obtain ⟨settings, service, generated, prepares, writable, -⟩ :=
        module_of_status_zero asks ends zero
      rcases faulty with fails | refused
      · exact fails ⟨settings, service, prepares⟩
      · exact writable path output refused
  · intro settings service fault prepares failed opens
    refine ⟨?_, ?_⟩
    · obtain ⟨emptied, written⟩ := Option.ne_none_iff_exists'.mp opens
      rw [left prepares, failed, filesGenerated, written]
      exact FileTree.find?_of_write? written
    · intro ended ends zero
      obtain ⟨others, same, generated, again, -, done⟩ := module_of_status_zero asks ends zero
      rw [← prepares.generates again, failed] at done
      cases done

/-- A directory with a description that refers to a shape which is not defined, and the module that an
earlier run left. -/
def overwrittenFiles : FileTree where
  entries := unfoundFiles.entries ++ [(["notes.py"], .file (Text.utf8Encode "class NotesClient: ..."))]

/-- A run that tries to make the module anew loses the old one, and its file is left empty. -/
theorem output_file_of_unfoundNotes :
    let arguments := ["generate", "notes.json", "-o", "notes.py"]
    let request : Request := { file := some "notes.json", output := some "notes.py" }
    Command.ofArguments arguments = .ok (.generate request) ∧
      request.outputPath? = some "notes.py" ∧
      overwrittenFiles.find? (.ofString "notes.py") ≠ some (.file []) ∧
      ((run arguments (.refused "offline")).files { tree := overwrittenFiles }).find?
        (.ofString "notes.py") = some (.file []) := by
  intro arguments request
  let settings : Settings := { outputFile := .str "notes.py" }
  let service : Service :=
    { metadata := { protocol := .str "json", fullName := .str "Notes" }
      operations := [("Put", { name := .str "Put", input := .str "Note" })] }
  have asks : Command.ofArguments arguments = .ok (.generate request) := by cbv
  have reads : Service.ofJson unfoundNotes = .ok service := by cbv
  have prepares : Prepares request (.refused "offline") overwrittenFiles settings service := by
    refine ⟨by decide +kernel, ⟨"notes.json", unfoundNotes⟩, ?_, reads⟩
    show loadFile overwrittenFiles "notes.json" = .ok ⟨"notes.json", unfoundNotes⟩
    exact loadFile_unfoundNotes rfl
  have broken : ¬ service.Followed := by
    have unfound : service.reach = .error (.undefinedShape "Note") := by cbv
    rw [Service.followed_iff_reach_succeeds, unfound]
    rintro ⟨reach, done⟩
    cases done
  obtain ⟨fault, -, failed, -⟩ := Service.generate_of_not_followed settings
    (Service.typed_of_ofJson (by decide) reads) ⟨"json", by decide, rfl⟩ broken
  have leaves := output_file_is_whole asks rfl (.refused "offline") { tree := overwrittenFiles }
  exact ⟨asks, rfl, by decide +kernel,
    (leaves.2.2 settings service fault prepares failed (by decide +kernel)).1⟩

end Cli

end ServiceClient
