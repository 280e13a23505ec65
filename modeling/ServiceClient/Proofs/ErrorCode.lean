import Mathlib
import ServiceClient.Http.ErrorBody
import ServiceClient.Proofs.CodeTable
import ServiceClient.Proofs.Headers
import ServiceClient.Proofs.Rendering
import ServiceClient.Proofs.Utf8

/-!
The code of a failed response with a JSON body. The values that may tell it are asked in order, and the
first that counts as present decides: if it is a text, what stands in it before the first colon and
after the last number sign there is the code, which is a key of the table of the module if the service
sent one; if it is no text, the response is not read.
-/

namespace ServiceClient

/-! ### Blank bodies -/

namespace Text

theorem mem_blanks_of_isPlainBlank {c : Char} (blank : isPlainBlank c = true) :
    c ∈ [' ', '\t', '\n', '\x0b', '\x0c', '\r'] := by
  simp only [isPlainBlank, Bool.or_eq_true, beq_iff_eq, Bool.and_eq_true, decide_eq_true_eq] at blank
  rcases blank with rfl | ⟨low, high⟩
  · decide
  · have atLeast : 9 ≤ c.toNat := low
    have atMost : c.toNat ≤ 13 := high
    rw [← Char.ofNat_toNat c]
    interval_cases c.toNat <;> decide

end Text

namespace Json

/-- There is no value in white space. -/
theorem Reader.value_of_blank {cs : List Char} (blank : ∀ c ∈ cs, Text.isPlainBlank c = true)
    (fuel : Nat) : ∃ e, Reader.value (fuel + 1) cs = .error e := by
  cases cs with
  | nil => exact ⟨_, rfl⟩
  | cons c rest =>
    have first := Text.mem_blanks_of_isPlainBlank (blank c List.mem_cons_self)
    simp only [List.mem_cons, List.not_mem_nil, or_false] at first
    rcases first with rfl | rfl | rfl | rfl | rfl | rfl <;> exact ⟨_, rfl⟩

theorem Reader.document_of_blank {cs : List Char} (blank : ∀ c ∈ cs, Text.isPlainBlank c = true) :
    ∃ e, Reader.document cs = .error e := by
  have noMark : ∀ rest, cs ≠ '\uFEFF' :: rest := by
    rintro rest rfl
    exact absurd (blank _ List.mem_cons_self) (by decide)
  have inner : ∀ c ∈ Reader.skipSpace cs, Text.isPlainBlank c = true := fun c inside =>
    blank c (List.dropWhile_subset _ inside)
  obtain ⟨e, failed⟩ := Reader.value_of_blank inner cs.length
  refine ⟨e, ?_⟩
  unfold Reader.document
  split
  · exact absurd rfl (noMark _)
  · rw [failed]
    rfl

/-- Octets of ASCII other than zero are taken for UTF-8: every mark has another octet. -/
theorem detectEncoding_of_ascii {bs : Octets} (ascii : ∀ b ∈ bs, b.toNat ≠ 0 ∧ b.toNat < 128) :
    detectEncoding bs = (.utf8, 0) := by
  have foreign : ∀ mark ∈ byteOrderMarks, ∃ b ∈ mark.1, ¬ (b.toNat ≠ 0 ∧ b.toNat < 128) := by decide
  have unmarked : (byteOrderMarks.find? fun mark => mark.1.isPrefixOf bs) = none := by
    rw [List.find?_eq_none]
    intro mark listed starts
    obtain ⟨b, inMark, outside⟩ := foreign mark listed
    exact outside (ascii b ((List.isPrefixOf_iff_prefix.mp starts).subset inMark))
  have noZero : ∀ b ∈ bs, b ≠ 0 := by
    rintro b listed rfl
    exact (ascii 0 listed).1 rfl
  have utf8 : encodingByZeros bs = .utf8 := by
    unfold encodingByZeros
    split
    · rw [if_neg (noZero _ (by simp)), if_neg (noZero _ (by simp))]
    · rw [if_neg (noZero _ (by simp)), if_neg (noZero _ (by simp))]
    · rfl
  rw [detectEncoding, unmarked, utf8]

/-- Octets that are all blank are no JSON text. -/
theorem parseOctets?_of_blank {bs : Octets}
    (blank : ∀ b ∈ bs, Text.isPlainBlank (Char.ofNat b.toNat) = true) : parseOctets? bs = none := by
  have small : ∀ b ∈ bs, b.toNat ≠ 0 ∧ b.toNat < 128 := by
    intro b listed
    have inside := Text.mem_blanks_of_isPlainBlank (blank b listed)
    rw [← Text.toNat_ofNat_octet b]
    generalize Char.ofNat b.toNat = c at inside
    simp only [List.mem_cons, List.not_mem_nil, or_false] at inside
    rcases inside with rfl | rfl | rfl | rfl | rfl | rfl <;> decide
  have detected : detectEncoding bs = (.utf8, 0) := detectEncoding_of_ascii small
  have text : decodeOctets? bs = some (String.ofList (bs.map fun b => Char.ofNat b.toNat)) := by
    have ascii : ∀ b ∈ bs, b.toNat < 128 := fun b listed => (small b listed).2
    rw [decodeOctets?, detected]
    simp only [Encoding.read?, List.drop_zero]
    rw [Text.replaceSurrogates_of_ascii ascii, Text.utf8Decode?_of_ascii ascii]
  have blanks : ∀ c ∈ bs.map fun b => Char.ofNat b.toNat, Text.isPlainBlank c = true := by
    intro c inside
    obtain ⟨b, listed, rfl⟩ := List.mem_map.mp inside
    exact blank b listed
  obtain ⟨e, failed⟩ := Reader.document_of_blank blanks
  rw [parseOctets?, text, Option.bind_eq_bind, Option.bind_some, parse, String.toList_ofList, failed]
  rfl

end Json

namespace ErrorInfo

/-! ### Where the code comes from -/

/-- The members of a body that is a JSON object; any other body has none. -/
def membersOf (body : Octets) : List (String × Json) :=
  match Json.parseOctets? body with
  | some (.obj members) => members
  | _ => []

/-- The values that may tell the code of a failed response, in the order in which they are asked. -/
def codeSources (r : Response) : List Json :=
  (r.headers.get? codeHeader).toList.map Json.str ++
    codeMembers.filterMap fun name => (membersOf r.body).lookup name

/-- The values that may tell the message. -/
def messageSources (r : Response) : List Json :=
  messageMembers.filterMap fun name => (membersOf r.body).lookup name

/-- The first value that counts as present, if there is one, is a text. -/
def FirstIsText (values : List Json) : Prop :=
  ∀ v, values.find? Json.truthy = some v → ∃ s, v = .str s

theorem firstIsText_iff {values : List Json} :
    FirstIsText values ↔ ∃ s, (values.find? Json.truthy).getD (.str "") = .str s := by
  unfold FirstIsText
  cases values.find? Json.truthy with
  | none => simp
  | some v => simp

theorem membersOf_eq (body : Octets) (name : String) :
    (bodyData body).get? name = (membersOf body).lookup name := by
  unfold bodyData membersOf
  by_cases blank : (body.all fun b => Text.isPlainBlank (Char.ofNat b.toNat)) = true
  · rw [if_pos blank, Json.parseOctets?_of_blank (List.all_eq_true.mp blank)]
    rfl
  · rw [if_neg blank]
    cases Json.parseOctets? body with
    | none => rfl
    | some data => cases data <;> rfl

theorem firstMember_eq (body : Octets) (names : List String) :
    firstMember (bodyData body) names =
      ((names.filterMap fun name => (membersOf body).lookup name).find? Json.truthy).getD (.str "") := by
  simp only [firstMember, membersOf_eq]

/-- The code before it is cut is the first source that counts as present. -/
theorem fullCode_eq (r : Response) :
    fullCode r = ((codeSources r).find? Json.truthy).getD (.str "") := by
  unfold fullCode codeSources
  cases given : r.headers.get? codeHeader with
  | none => simp [firstMember_eq]
  | some v =>
    by_cases empty : v.isEmpty
    · simp [firstMember_eq, Json.truthy, empty]
    · simp [Json.truthy, empty]

theorem ofJsonResponse_of_text {r : Response} {s : String} (text : fullCode r = .str s) :
    ofJsonResponse r =
      .ok ⟨bareCode s, ((messageSources r).find? Json.truthy).getD (.str "")⟩ := by
  rw [ofJsonResponse, text, firstMember_eq]
  rfl

theorem ofJsonResponse_of_no_text {r : Response} (noText : ∀ s, fullCode r ≠ .str s) :
    ofJsonResponse r = .error ⟨fullCode r⟩ := by
  unfold ofJsonResponse
  split
  · rename_i s text
    exact absurd text (noText s)
  · rfl

/-- A failed response is read as a code and a message that are texts just where the first value present
is a text, among those that may tell the code and among those that may tell the message. -/
theorem read_as_texts_iff (r : Response) :
    (∃ code message, ofJsonResponse r = .ok ⟨code, .str message⟩) ↔
      FirstIsText (codeSources r) ∧ FirstIsText (messageSources r) := by
  rw [firstIsText_iff, firstIsText_iff, ← fullCode_eq]
  constructor
  · rintro ⟨code, message, read⟩
    by_cases text : ∃ s, fullCode r = .str s
    · obtain ⟨s, text⟩ := text
      rw [ofJsonResponse_of_text text] at read
      obtain ⟨-, isMessage⟩ := ErrorInfo.mk.inj (Except.ok.inj read)
      exact ⟨⟨s, text⟩, message, isMessage⟩
    · rw [ofJsonResponse_of_no_text fun s same => text ⟨s, same⟩] at read
      cases read
  · rintro ⟨⟨s, text⟩, message, isMessage⟩
    exact ⟨bareCode s, message, by rw [ofJsonResponse_of_text text, isMessage]⟩

/-- A number that tells the code is no text. -/
example : ofJsonResponse ⟨404, Text.utf8Encode "\x7b\"code\": 404, \"message\": \"Not found\"\x7d", []⟩ =
    .error ⟨.int 404⟩ := by
  cbv

/-! ### The code proper -/

/-- `code` is what `full` has before its first colon, and after the last number sign there. -/
structure CutFrom (full code : String) : Prop where
  noColon : ':' ∉ code.toList
  noSign : '#' ∉ code.toList
  parts : ∃ start rest, full.toList = start ++ code.toList ++ rest ∧ ':' ∉ start ∧
    (start = [] ∨ start.getLast? = some '#') ∧ (rest = [] ∨ rest.head? = some ':')

theorem CutFrom.eq_bareCode {full code : String} (cut : CutFrom full code) : bareCode full = code := by
  obtain ⟨start, rest, shape, noColon, ends, starts⟩ := cut.parts
  have plain : ':' ∉ start ++ code.toList := by
    rw [List.mem_append, not_or]
    exact ⟨noColon, cut.noColon⟩
  rw [bareCode, shape, Text.cut_of_first plain starts]
  simp [Text.getLast?_splitOn ends cut.noSign]

theorem cutFrom_bareCode (full : String) : CutFrom full (bareCode full) := by
  obtain ⟨head, rest, shape, noColon, starts⟩ := Text.exists_first_piece ':' full.toList
  obtain ⟨start, last, rfl, ends, noSign⟩ := Text.exists_last_piece '#' head
  rw [List.mem_append, not_or] at noColon
  have cut : CutFrom full (String.ofList last) := by
    refine ⟨?_, ?_, start, rest, ?_, noColon.1, ends, starts⟩
    all_goals rw [String.toList_ofList]
    · exact noColon.2
    · exact noSign
    · exact shape
  rwa [cut.eq_bareCode]

/-- A code that is cut already is cut to itself. -/
theorem bareCode_of_plain {code : String} (noColon : ':' ∉ code.toList) (noSign : '#' ∉ code.toList) :
    bareCode code = code :=
  CutFrom.eq_bareCode ⟨noColon, noSign, [], [], by simp, List.not_mem_nil, .inl rfl, .inl rfl⟩

/-- A code between a prefix that ends in a number sign and a suffix that starts with a colon. -/
theorem bareCode_between {start code rest : String} (noColonBefore : ':' ∉ start.toList)
    (noColon : ':' ∉ code.toList) (noSign : '#' ∉ code.toList) :
    bareCode (start ++ "#" ++ code ++ ":" ++ rest) = code := by
  refine CutFrom.eq_bareCode ⟨noColon, noSign, start.toList ++ ['#'], ':' :: rest.toList, ?_, ?_, ?_, ?_⟩
  · simp
  · simpa using noColonBefore
  · exact .inr (List.getLast?_concat ..)
  · exact .inr rfl

/-! ### Codes that are read -/

/-- Whether a failed response is read, with this code. -/
def GivesCode (r : Response) (code : String) : Prop :=
  ∃ message, ofJsonResponse r = .ok ⟨code, message⟩

theorem givesCode_of_fullCode {r : Response} {full code : String} (text : fullCode r = .str full)
    (cut : CutFrom full code) : GivesCode r code := by
  have read := ofJsonResponse_of_text text
  rw [cut.eq_bareCode] at read
  exact ⟨_, read⟩

theorem fullCode_of_header {r : Response} {full : String} (some : full ≠ "")
    (given : r.headers.get? codeHeader = .some full) : fullCode r = .str full := by
  rw [fullCode, given]
  simp [some]

theorem get?_insert_of_sameLetters {name full : String} (same : Text.SameLetters name codeHeader)
    (headers : Headers) : (headers.insert name full).get? codeHeader = some full := by
  rw [Headers.get?_insert, if_pos]
  apply Headers.sameName_iff.mpr
  exact Text.lower_of_sameLetters same (by decide)

/-- If the first value that counts as present among those that may tell the code is a text, the response
is read. Its code is what the text has before its first colon and after the last number sign there, and a
response with this code alone gives it again. Whatever else it says, a response with the text in its
header gives the same code, however the letters of the header's name are written. If the text has the
code of an exception shape between a number sign and a colon, that is the code, and the table of the
module maps it to the class of the shape. -/
theorem code_cut_from_first_present {r : Response} {full : String}
    (told : (codeSources r).find? Json.truthy = some (.str full)) :
    ∃ code, GivesCode r code ∧ CutFrom full code ∧
      (∀ other, codeSources other = [.str code] → GivesCode other code) ∧
      (∀ other, other.headers.get? codeHeader = some full → GivesCode other code) ∧
      (∀ name, Text.SameLetters name codeHeader → ∀ status body headers,
        GivesCode ⟨status, body, Headers.insert name full headers⟩ code) ∧
      (∀ shape : Shape, ∀ wire start rest : String, shape.code = .str wire → ':' ∉ wire.toList →
        '#' ∉ wire.toList → ':' ∉ start.toList → full = start ++ "#" ++ wire ++ ":" ++ rest →
          code = wire ∧ ∀ (service : Service) (family : ErrorFamily) (settings : Settings) (text : String),
            shape ∈ service.exceptions → service.errorSection family settings = .ok text →
              MapsCode text code (Naming.errorClassName shape.name)) := by
  have text : fullCode r = .str full := by
    rw [fullCode_eq, told]
    rfl
  have nonempty : full ≠ "" := by
    rintro rfl
    exact absurd (List.find?_some told) (by decide)
  have cut := cutFrom_bareCode full
  have again : CutFrom (bareCode full) (bareCode full) := by
    have whole := cutFrom_bareCode (bareCode full)
    rwa [bareCode_of_plain cut.noColon cut.noSign] at whole
  refine ⟨bareCode full, givesCode_of_fullCode text cut, cut, ?_, ?_, ?_, ?_⟩
  · intro other alone
    refine givesCode_of_fullCode ?_ again
    rw [fullCode_eq, alone]
    by_cases empty : Json.truthy (.str (bareCode full))
    · simp [empty]
    · simp_all [Json.truthy]
  · intro other given
    exact givesCode_of_fullCode (fullCode_of_header nonempty given) cut
  · intro name same status body headers
    refine givesCode_of_fullCode (fullCode_of_header nonempty ?_) cut
    exact get?_insert_of_sameLetters same headers
  · intro shape wire start rest isWire noColon noSign noColonBefore isFull
    have isCode : bareCode full = wire := by
      rw [isFull]
      exact bareCode_between noColonBefore noColon noSign
    refine ⟨isCode, fun service family settings module listed rendered => ?_⟩
    apply Service.mapsCode_of_errorSection rendered listed
    rw [isWire, isCode]

/-- A shape for an error that has a code of its own. -/
def slowDown : Shape where
  name := "SlowDown"
  type := .str "structure"
  exception := true
  errorCode := .str "Throttled"

/-- A service with this error. -/
def storage : Service where
  metadata := { protocol := .str "json", fullName := .str "Storage" }
  shapes := [("SlowDown", slowDown)]

theorem storage_errorSection : ∃ text, storage.errorSection .json {} = .ok text := by
  have made : storage.errorClasses {} = .ok [⟨"SlowDownError", .str "Throttled", none⟩] := by decide
  refine Service.errorSection_succeeds .json rfl made ?_
  intro error listed
  rw [List.mem_singleton.mp listed]
  exact ⟨"Throttled", rfl⟩

/-- A reply that has the code of the error between a number sign and a colon, after an empty member. -/
def throttledReply : Response :=
  ⟨400, Text.utf8Encode "\x7b\"__type\": \"\", \"code\": \"aws#Throttled:slow\"\x7d", []⟩

theorem throttled_code_cut :
    (codeSources throttledReply).find? Json.truthy = some (.str "aws#Throttled:slow") ∧
      GivesCode throttledReply "Throttled" ∧
      ∃ text, storage.errorSection .json {} = .ok text ∧ MapsCode text "Throttled" "SlowDownError" := by
  have told : (codeSources throttledReply).find? Json.truthy = some (.str "aws#Throttled:slow") := by
    cbv
  obtain ⟨code, given, -, -, -, -, ofShape⟩ := code_cut_from_first_present told
  obtain ⟨rfl, mapped⟩ := ofShape slowDown "Throttled" "aws" "slow" (by decide) (by decide) (by decide)
    (by decide) (by decide)
  obtain ⟨text, rendered⟩ := storage_errorSection
  have named : Naming.errorClassName slowDown.name = "SlowDownError" := by decide
  rw [named] at mapped
  exact ⟨told, given, text, rendered, mapped storage .json {} text (by decide) rendered⟩

end ErrorInfo

end ServiceClient
