import Mathlib.Data.List.TakeWhile
import ServiceClient.Description.Loader
import ServiceClient.Proofs.Outcome
import ServiceClient.Proofs.Utf8
import ServiceClient.Settings.Merge

/-!
How loading ends. A loader gives a description or fails in its own way, with two exceptions: a file
that no reader of JSON can make anything of, because it is no text or because a number in it is too
long, and a locator whose authority is malformed. The same files are the exceptions for settings.
-/

namespace ServiceClient

/-- Content that a reader of JSON fails on without saying that it is no JSON. -/
inductive Unscannable (content : Octets) : Prop where
  | noText (unwritten : ∀ text, content ≠ Text.utf8Encode text)
  /-- Reading stops at a number with too many digits. -/
  | longNumber {text : String} {error : Json.ReadError} (written : content = Text.utf8Encode text)
      (stopped : Json.parse text = .error error) (long : error.problem = .tooManyDigits)

/-- A document with the members that a description has to have. -/
def Json.IsDescription (document : Json) : Prop :=
  ∃ fields, document = .obj fields ∧ ∀ member ∈ neededMembers, member ∈ fields.map (·.1)

/-- How loading from a source should end: with a description, or with an error of loading. -/
inductive EndsProperly (source : String) : Except LoadError Loaded → Prop where
  | loaded {document : Json} (description : document.IsDescription) :
      EndsProperly source (.ok { source, document })
  | failed {error : LoadError} (own : error.isLoading = true) : EndsProperly source (.error error)

theorem not_endsProperly_error {source : String} {error : LoadError}
    (foreign : error.isLoading = false) : ¬ EndsProperly source (.error error) := by
  rintro (_ | own)
  rw [foreign] at own
  cases own

/-! ### What files hold -/

theorem utf8Decode?_eq_none_iff {content : Octets} :
    Text.utf8Decode? content = none ↔ ∀ text, content ≠ Text.utf8Encode text := by
  simp only [Option.eq_none_iff_forall_ne_some, ne_eq, Text.utf8Decode?_eq_some_iff]

/-- What is left of content to be read: a document, or a problem other than the length of a number. -/
theorem readable_of_not_unscannable {content : Octets} (readable : ¬ Unscannable content) :
    ∃ text, Text.utf8Decode? content = some text ∧
      ∀ error, Json.parse text = .error error → error.problem ≠ .tooManyDigits := by
  cases decoded : Text.utf8Decode? content with
  | none => exact absurd (.noText (utf8Decode?_eq_none_iff.mp decoded)) readable
  | some text =>
    refine ⟨text, rfl, fun error stopped long => readable ?_⟩
    exact .longNumber (Text.utf8Decode?_eq_some_iff.mp decoded) stopped long

/-! ### Numbers that are too long -/

namespace Json

namespace Reader

variable {d : Char} {rest : List Char}

theorem not_isSpace_of_isDigit (digit : d.isDigit) : isSpace d = false := by
  by_contra blank
  simp only [isSpace, Bool.not_eq_false, Bool.or_eq_true, beq_iff_eq] at blank
  rcases blank with ((rfl | rfl) | rfl) | rfl <;> cases digit

/-- A digit begins nothing but a number. -/
theorem scalar_of_isDigit (digit : d.isDigit) :
    scalar (d :: rest) = number (d :: rest) false (d :: rest) := by
  unfold scalar
  split
  case h_8 => rfl
  all_goals
    rename_i same
    injection same with letter
    subst letter
    cases digit

theorem value_of_isDigit (digit : d.isDigit) (fuel : Nat) :
    value (fuel + 1) (d :: rest) = number (d :: rest) false (d :: rest) := by
  unfold value
  split
  case h_4 => exact scalar_of_isDigit digit
  all_goals
    rename_i same
    injection same with letter
    subst letter
    cases digit

theorem number_of_longNumeral {start digits : List Char} {negative : Bool}
    (numeral : ∀ d ∈ digits, d.isDigit) (noZero : digits.head? ≠ some '0')
    (long : maxDigits < digits.length) :
    number start negative digits = .error (.tooManyDigits, start) := by
  cases digits with
  | nil => simp at long
  | cons d rest =>
    have first := numeral d List.mem_cons_self
    have noZero : d ≠ '0' := by simpa using noZero
    have all : (d :: rest).takeWhile Char.isDigit = d :: rest :=
      List.takeWhile_eq_self_iff.mpr numeral
    have nothing : (d :: rest).dropWhile Char.isDigit = [] := List.dropWhile_eq_nil_iff.mpr numeral
    simp only [number, first, all, nothing, noZero, not_true_eq_false, if_false]
    exact if_pos long

end Reader

/-- Reading a numeral of too many digits stops before its first one. -/
theorem parse_of_longNumeral {digits : List Char} (numeral : ∀ d ∈ digits, d.isDigit)
    (noZero : digits.head? ≠ some '0') (long : Reader.maxDigits < digits.length) :
    parse (String.ofList digits) = .error ⟨.tooManyDigits, 0⟩ := by
  cases digits with
  | nil => simp at long
  | cons d rest =>
    have first := numeral d List.mem_cons_self
    have failed : Reader.document (d :: rest) = .error (.tooManyDigits, d :: rest) := by
      have noSpace : Reader.skipSpace (d :: rest) = d :: rest :=
        List.dropWhile_cons_of_neg (by simp [Reader.not_isSpace_of_isDigit first])
      unfold Reader.document
      split
      case h_1 => simp_all
      case h_2 =>
        rw [noSpace, Reader.value_of_isDigit first,
          Reader.number_of_longNumeral numeral noZero long]
        rfl
    simp [parse, failed, Except.mapError]

end Json

/-- A numeral with more digits than are read is content that readers fail on. -/
theorem Unscannable.of_longNumeral {digits : List Char} (numeral : ∀ d ∈ digits, d.isDigit)
    (noZero : digits.head? ≠ some '0') (long : Json.Reader.maxDigits < digits.length) :
    Unscannable (Text.utf8Encode (String.ofList digits)) :=
  .longNumber rfl (Json.parse_of_longNumeral numeral noZero long) rfl

/-! ### Descriptions in files -/

namespace Loaded

theorem check_endsProperly (source : String) (document : Json) :
    EndsProperly source (Loaded.check source document) := by
  unfold Loaded.check
  split
  case h_1 fields =>
    split
    case h_1 member missing => exact .failed rfl
    case h_2 complete =>
      refine .loaded ⟨fields, rfl, fun member needed => ?_⟩
      have present := List.find?_eq_none.mp complete member needed
      simpa using present
  case h_2 => exact .failed rfl

theorem check_ne_fileNotFound (source missing : String) (document : Json) :
    Loaded.check source document ≠ .error (.fileNotFound missing) := by
  unfold Loaded.check
  split
  · split <;> simp
  · simp

end Loaded

section File

variable {tree : FileTree} {path : String} {content : Octets}

theorem loadFile_of_noText (found : tree.find? (.ofString path) = some (.file content))
    (unwritten : ∀ text, content ≠ Text.utf8Encode text) :
    loadFile tree path = .error .fileNotText := by
  simp only [loadFile, found, utf8Decode?_eq_none_iff.mpr unwritten]

theorem loadFile_of_longNumber {text : String} {error : Json.ReadError}
    (found : tree.find? (.ofString path) = some (.file (Text.utf8Encode text)))
    (stopped : Json.parse text = .error error) (long : error.problem = .tooManyDigits) :
    loadFile tree path = .error .numberTooLong := by
  simp only [loadFile, found, Text.utf8Decode?_utf8Encode, stopped, long, if_true]

theorem loadFile_of_unscannable (found : tree.find? (.ofString path) = some (.file content))
    (unscannable : Unscannable content) :
    ∃ error, loadFile tree path = .error error ∧ error.isLoading = false := by
  cases unscannable with
  | noText unwritten => exact ⟨_, loadFile_of_noText found unwritten, rfl⟩
  | longNumber written stopped long =>
    subst written
    exact ⟨_, loadFile_of_longNumber found stopped long, rfl⟩

theorem loadFile_endsProperly
    (readable : ∀ content, tree.find? (.ofString path) = some (.file content) → ¬ Unscannable content) :
    EndsProperly (Path.ofString path).toString (loadFile tree path) := by
  rw [loadFile]
  cases found : tree.find? (.ofString path) with
  | none => exact .failed rfl
  | some entry =>
    cases entry with
    | directory => exact .failed rfl
    | file content =>
      obtain ⟨text, decoded, short⟩ := readable_of_not_unscannable (readable content found)
      simp only [decoded]
      cases parsed : Json.parse text with
      | ok document => exact Loaded.check_endsProperly _ document
      | error error =>
        simp only [if_neg (short error parsed)]
        exact .failed rfl

/-- A file is loaded, or refused in the way of loaders, unless its content is neither JSON nor
refused as JSON. -/
theorem loadFile_endsProperly_iff :
    EndsProperly (Path.ofString path).toString (loadFile tree path) ↔
      ∀ content, tree.find? (.ofString path) = some (.file content) → ¬ Unscannable content := by
  constructor
  · intro proper content found unscannable
    obtain ⟨error, failed, foreign⟩ := loadFile_of_unscannable found unscannable
    rw [failed] at proper
    exact not_endsProperly_error foreign proper
  · exact loadFile_endsProperly

/-- A single octet that begins no character is neither loaded nor refused in the way of loaders. -/
theorem single_octet_is_not_refused :
    loadFile { entries := [(["b.json"], .file [0xFF])] } "b.json" = .error .fileNotText ∧
      ¬ EndsProperly "b.json" (loadFile { entries := [(["b.json"], .file [0xFF])] } "b.json") := by
  have failed : loadFile { entries := [(["b.json"], .file [0xFF])] } "b.json" =
      .error .fileNotText := by decide +kernel
  refine ⟨failed, ?_⟩
  rw [failed]
  exact not_endsProperly_error rfl

/-- A file is reported as missing just where the path leads to nothing. -/
theorem loadFile_eq_fileNotFound_iff {missing : String} :
    loadFile tree path = .error (.fileNotFound missing) ↔
      tree.find? (.ofString path) = none ∧ missing = (Path.ofString path).toString := by
  rw [loadFile]
  cases found : tree.find? (.ofString path) with
  | none => simp [eq_comm]
  | some entry =>
    refine iff_of_false (fun failed => ?_) (by simp)
    cases entry with
    | directory => cases failed
    | file content =>
      cases decoded : Text.utf8Decode? content with
      | none => simp [decoded] at failed
      | some text =>
        simp only [decoded] at failed
        split at failed
        · exact Loaded.check_ne_fileNotFound _ _ _ failed
        · split at failed <;> cases failed

end File

/-! ### Descriptions from the network -/

section Network

variable {url : String} {fetched : Fetched}

/-- Every answer is loaded or refused, also one whose status tells of a problem. -/
theorem loadUrl_of_split {parts : Url} (split : Url.split? url = some parts) :
    EndsProperly url (loadUrl url fetched) := by
  simp only [loadUrl, split]
  by_cases unasked : !isNetworkUrl parts
  · rw [if_pos unasked]
    exact .failed rfl
  · rw [if_neg unasked]
    cases fetched with
    | refused problem => exact .failed rfl
    | unreadable status reason =>
      dsimp only
      cases told : statusProblem? url status reason with
      | none => exact .failed rfl
      | some problem => exact .failed rfl
    | response status reason body =>
      dsimp only
      cases told : statusProblem? url status reason with
      | some problem => exact .failed rfl
      | none =>
        cases parsed : Json.parse (bodyText body) with
        | ok document => exact Loaded.check_endsProperly url document
        | error error =>
          dsimp only
          split <;> exact .failed rfl

/-- Whatever comes back for a locator that can be told apart, loading ends in its own way. -/
theorem loadUrl_endsProperly_iff :
    EndsProperly url (loadUrl url fetched) ↔ (Url.split? url).isSome := by
  cases parts : Url.split? url with
  | none =>
    have failed : loadUrl url fetched = .error .malformedUrl := by simp only [loadUrl, parts]
    rw [failed]
    exact iff_of_false (not_endsProperly_error rfl) (by simp)
  | some => exact iff_of_true (loadUrl_of_split parts) rfl

/-- A locator with a bracket that is left open is not refused in the way of loaders. -/
theorem open_bracket_is_not_refused :
    loadUrl "http://[" (.refused "") = .error .malformedUrl ∧
      ¬ EndsProperly "http://[" (loadUrl "http://[" (.refused "")) := by
  have failed : loadUrl "http://[" (.refused "") = .error .malformedUrl := by decide +kernel
  refine ⟨failed, ?_⟩
  rw [failed]
  exact not_endsProperly_error rfl

end Network

/-! ### Settings -/

namespace Settings

variable {tree : FileTree} {given overrides : List (String × Json)} {file : Option String}

/-- The content of the file of settings, if there is one that is named as JSON. -/
def Reads (tree : FileTree) (file : Option String) (content : Octets) : Prop :=
  ∃ path, file.filter (!·.isEmpty) = some path ∧
    Text.lower (Path.ofString path).suffix = ".json" ∧
    tree.find? (.ofString path) = some (.file content)

theorem readFile_of_unscannable {path : String} {content : Octets}
    (named : Text.lower (Path.ofString path).suffix = ".json")
    (found : tree.find? (.ofString path) = some (.file content))
    (unscannable : Unscannable content) :
    ∃ error, readFile tree path = .error error ∧ error.isOfSettings = false := by
  have isJson : (Text.lower (Path.ofString path).suffix != ".json") = false := by simp [named]
  cases unscannable with
  | noText unwritten =>
    refine ⟨.fileNotText, ?_, rfl⟩
    simp only [readFile, found, isJson, utf8Decode?_eq_none_iff.mpr unwritten, Bool.false_eq_true,
      if_false]
  | longNumber written stopped long =>
    subst written
    refine ⟨.numberTooLong, ?_, rfl⟩
    simp only [readFile, found, isJson, Text.utf8Decode?_utf8Encode, stopped, long,
      Bool.false_eq_true, if_false, if_true]

theorem readFile_fails_properly {path : String} {error : SettingsError}
    (failed : readFile tree path = .error error)
    (readable : ∀ content, Text.lower (Path.ofString path).suffix = ".json" →
      tree.find? (.ofString path) = some (.file content) → ¬ Unscannable content) :
    error.isOfSettings = true := by
  rw [readFile] at failed
  cases found : tree.find? (.ofString path) with
  | none =>
    simp only [found] at failed
    cases failed
    rfl
  | some entry =>
    simp only [found] at failed
    split at failed
    case isTrue =>
      cases failed
      rfl
    case isFalse isJson =>
      have named : Text.lower (Path.ofString path).suffix = ".json" := by simpa using isJson
      cases entry with
      | directory =>
        cases failed
        rfl
      | file content =>
        obtain ⟨text, decoded, short⟩ := readable_of_not_unscannable (readable content named found)
        simp only [decoded] at failed
        split at failed
        case h_1 => cases failed
        case h_2 =>
          cases failed
          rfl
        case h_3 problem stopped =>
          rw [if_neg (short problem stopped)] at failed
          cases failed
          rfl

theorem check_fails_properly {pairs : List (String × Json)} {error : SettingsError}
    (failed : check pairs = .error error) : error.isOfSettings = true := by
  unfold check at failed
  split at failed
  · cases failed
  · cases failed
    rfl

/-- Settings are put together, or refused in their own way, unless the content of their file is
neither JSON nor refused as JSON. -/
theorem load_fails_properly_iff :
    (∀ error, load tree given file overrides = .error error → error.isOfSettings = true) ↔
      ∀ content, Reads tree file content → ¬ Unscannable content := by
  constructor
  · rintro proper content ⟨path, asked, named, found⟩ unscannable
    obtain ⟨error, failed, foreign⟩ := readFile_of_unscannable named found unscannable
    have stopped : load tree given file overrides = .error error := by
      simp only [load, asked, failed]
      rfl
    rw [proper error stopped] at foreign
    cases foreign
  · intro readable error failed
    unfold load at failed
    cases asked : file.filter (!·.isEmpty) with
    | none =>
      simp only [asked] at failed
      exact check_fails_properly failed
    | some path =>
      simp only [asked] at failed
      cases read : readFile tree path with
      | error problem =>
        rw [read] at failed
        cases failed
        exact readFile_fails_properly read fun content named found =>
          readable content ⟨path, asked, named, found⟩
      | ok pairs =>
        rw [read] at failed
        exact check_fails_properly failed

/-- A file of settings that is a single octet is not refused as one. -/
theorem single_octet_of_settings_is_not_refused :
    load { entries := [(["c.json"], .file [0xFF])] } [] (some "c.json") [] = .error .fileNotText ∧
      SettingsError.fileNotText.isOfSettings = false := by
  decide +kernel

end Settings

end ServiceClient
