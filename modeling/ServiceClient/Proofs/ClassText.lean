import ServiceClient.Module.Source
import ServiceClient.Proofs.CodeTable
import ServiceClient.Proofs.MethodText

/-!
The texts of the error classes and of the client, in pieces: the classes that they bind, in order, and
the methods of the client between them.
-/

namespace ServiceClient

open Pieces (spell given newline)
open Template (Spells Writes render_of_spells render_of_writes)

/-! ### Error classes -/

/-- What the error classes of a module are made from. -/
structure ErrorCode where
  client : String
  /-- The name of the service in the documentation. -/
  title : String
  family : ErrorFamily
  /-- The classes for the exception shapes. -/
  classes : List ErrorClass
  deriving DecidableEq, Repr

namespace ErrorCode

def base (code : ErrorCode) : String := code.client ++ "Error"

/-- The class of all errors, up to its ways of making errors. -/
def basePieces (code : ErrorCode) : Pieces := [
  "class ", ⟨.errorClass, code.base⟩, "(Exception):\n",
  "    \"\"\"Errors returned by the ", ⟨.data, Text.Literal.escape code.title⟩, " API.\"\"\"\n",
  newline,
  "    code = \"\"\n",
  newline,
  "    def __init__(self, message: str = \"\", status: _t.Optional[int] = None):\n",
  "        super().__init__(message)\n",
  "        self.message = message\n",
  "        self.status = status\n",
  newline,
  "    def __str__(self) -> str:\n",
  "        if self.code:\n",
  "            return f\"\x7bself.code\x7d: \x7bself.message\x7d\"\n",
  "        return self.message\n",
  newline]

/-- The error for a response. -/
def responsePieces (code : ErrorCode) : Pieces := [
  "    @classmethod\n",
  "    def from_response(cls, response: _request.HttpResponse) -> \"", ⟨.error, code.base⟩, "\":\n",
  "        \"\"\"Map a failed response to the matching error class.\"\"\"\n",
  "        code, message = ", ⟨.fixed, code.family.errorReader⟩, "(response)\n",
  "        error_class = ERROR_CODES.get(code, ", ⟨.error, code.client ++ "UnknownError"⟩, ")\n",
  "        error = error_class(message or response.text, status=response.status)\n",
  "        if error_class is ", ⟨.error, code.client ++ "UnknownError"⟩, ":\n",
  "            error.code = code or str(response.status)\n",
  "        return error\n",
  newline]

/-- The error for a failure before there is a response. -/
def failurePieces (code : ErrorCode) : Pieces := [
  "    @classmethod\n",
  "    def from_failure(cls, failure: Exception) -> \"", ⟨.error, code.base⟩, "\":\n",
  "        \"\"\"Map a credentials or dispatch failure to a fallback error class.\"\"\"\n",
  "        if isinstance(failure, cls):\n",
  "            return failure\n",
  "        if isinstance(failure, _credentials.CredentialsError):\n",
  "            return ", ⟨.error, code.client ++ "CredentialsError"⟩, "(str(failure))\n",
  "        if isinstance(failure, _request.HttpDispatchError):\n",
  "            return ", ⟨.error, code.client ++ "HttpDispatchError"⟩, "(str(failure))\n",
  "        return ", ⟨.error, code.client ++ "UnknownError"⟩, "(str(failure))\n",
  newline]

/-- The class for an exception shape. -/
def classPieces (base : String) (error : ErrorClass) : Pieces :=
  newline :: "class " :: ⟨.errorClass, error.name⟩ :: "(" :: ⟨.error, base⟩ :: "):\n" ::
    (given error.documentation (fun s => ["    \"\"\"", ⟨.data, s⟩, "\"\"\"\n", newline]) ++
      [("    code = \"" : Piece), ⟨.data, Text.Literal.escape error.code.display⟩, "\"\n", newline])

/-- The classes for failures that no shape stands for. -/
def otherPieces (code : ErrorCode) : Pieces := [
  newline,
  "class ", ⟨.errorClass, code.client ++ "HttpDispatchError"⟩, "(", ⟨.error, code.base⟩, "):\n",
  "    \"\"\"The request could not be sent or no response was received.\"\"\"\n",
  newline,
  newline,
  "class ", ⟨.errorClass, code.client ++ "CredentialsError"⟩, "(", ⟨.error, code.base⟩, "):\n",
  "    \"\"\"No usable credentials could be obtained.\"\"\"\n",
  newline,
  newline,
  "class ", ⟨.errorClass, code.client ++ "UnknownError"⟩, "(", ⟨.error, code.base⟩, "):\n",
  "    \"\"\"The service answered with an error this client does not know.\"\"\"\n",
  newline,
  newline]

/-- A line of the table from codes to classes. -/
def rowPieces (error : ErrorClass) : Pieces :=
  ["    \"", ⟨.data, Text.Literal.escape error.code.display⟩, "\": ", ⟨.error, error.name⟩, ",\n"]

def tablePieces (code : ErrorCode) : Pieces :=
  "ERROR_CODES: _t.Dict[str, _t.Type[" :: ⟨.error, code.base⟩ :: "]] = \x7b\n" ::
    (code.classes.flatMap rowPieces ++ [("\x7d\n" : Piece)])

def pieces (code : ErrorCode) : Pieces :=
  code.basePieces ++ (code.responsePieces ++ (code.failurePieces ++
    (code.classes.flatMap (classPieces code.base) ++ (code.otherPieces ++ code.tablePieces))))

def scope (code : ErrorCode) : Scope := [
  ("base", .str code.base), ("service_name", .str code.title),
  ("parse_function", .str code.family.errorReader),
  ("errors", .arr (code.classes.map ErrorClass.item)),
  ("dispatch", .str (code.client ++ "HttpDispatchError")),
  ("credentials", .str (code.client ++ "CredentialsError")),
  ("unknown", .str (code.client ++ "UnknownError"))]

/-- A code is a text, as the template needs it. -/
theorem eval_code {scope : Scope} {error : ErrorClass} {wire : String}
    (isCode : error.code = .str wire) :
    (Template.Expr.filtered (.field "error" "code") .doc).eval
      (("error", error.item) :: scope) = some (.str (Text.Literal.escape error.code.display)) := by
  have found : (Template.Expr.field "error" "code").eval (("error", error.item) :: scope) =
      some (.str wire) := congrArg some isCode
  rw [Template.Expr.eval, found, isCode]
  rfl

variable {code : ErrorCode}

theorem spells_class {scope : Scope} {base : String} {error : ErrorClass}
    (known : scope.lookup "base" = some (.str base)) (isCode : ∃ wire, error.code = .str wire) :
    Spells (("error", error.item) :: scope) [
      .text "\n",
      .text "class ", .put (.field "error" "name"), .text "(", .put (.name "base"), .text "):\n",
      .test (.field "error" "documentation")
        [.text "    \"\"\"", .put (.field "error" "documentation"), .text "\"\"\"\n",
          .text "\n"]
        [],
      .text "    code = \"", .put (.filtered (.field "error" "code") .doc), .text "\"\n",
      .text "\n"] (classPieces base error) := by
  obtain ⟨wire, isCode⟩ := isCode
  refine .text (.text (.put rfl (.text (.put known (.text ?_)))))
  refine .given rfl (fun _ there _ => .text (.putGiven rfl there (.text (.text .nil)))) .nil ?_
  exact .text (.put (eval_code isCode) (.text (.text .nil)))

theorem spells_row {scope : Scope} {error : ErrorClass} (isCode : ∃ wire, error.code = .str wire) :
    Spells (("error", error.item) :: scope) Template.lineNodes (rowPieces error) := by
  obtain ⟨wire, isCode⟩ := isCode
  exact .text (.put (eval_code isCode) (.text (.put rfl (.text .nil))))

/-- The error classes have the text of their pieces if their codes are texts. -/
theorem render_eq (codes : ∀ error ∈ code.classes, ∃ wire, error.code = .str wire) :
    Template.errors.render code.scope = .ok (spell code.pieces) := by
  refine render_of_spells ?_
  simp only [pieces, basePieces, responsePieces, failurePieces, otherPieces, tablePieces,
    List.cons_append, List.nil_append]
  -- words and names in their places up to the classes, then up to the table
  repeat first | refine .text ?_ | refine .put rfl ?_
  refine .each ErrorClass.item (classPieces code.base) _ rfl (fun _ => rfl)
    (fun error listed => spells_class rfl (codes error listed)) ?_
  repeat first | refine .text ?_ | refine .put rfl ?_
  exact .each ErrorClass.item rowPieces _ rfl (fun _ => rfl)
    (fun error listed => spells_row (codes error listed)) (.text .nil)

/-- The names of the error classes, in order. -/
def names (code : ErrorCode) : List String :=
  code.base :: code.classes.map (·.name) ++ otherErrorSuffixes.map (code.client ++ ·)

/-- The error classes bind their names and no others. -/
theorem wordsOf_pieces {keep : Role → Bool} (only : KeepsNames keep) (code : ErrorCode) :
    code.pieces.wordsOf keep = if keep .errorClass then code.names else [] := by
  by_cases binds : keep .errorClass = true <;>
    simp [pieces, basePieces, responsePieces, failurePieces, otherPieces, tablePieces, classPieces,
      rowPieces, names, otherErrorSuffixes, newline, only.fixed, only.data, only.error, binds,
      List.map_eq_flatMap]

end ErrorCode

/-! ### The client -/

/-- The client class around its methods. -/
def clientPieces (client title : String) (methods : List Method) : Pieces :=
  "class " :: ⟨.client, client⟩ :: ":\n" ::
  "    \"\"\"A client for the " :: ⟨.data, Text.Literal.escape title⟩ :: " API.\"\"\"\n" ::
  newline ::
  "    def __init__(\n" ::
  "        self,\n" ::
  "        request_dispatcher: _request.DispatchSignedRequest,\n" ::
  "        credentials_provider: _credentials.ProvideAwsCredentials,\n" ::
  "        region: _region.Region,\n" ::
  "    ):\n" ::
  "        self.credentials_provider = credentials_provider\n" ::
  "        self.region = region\n" ::
  "        self.dispatcher = request_dispatcher\n" ::
  methods.flatMap fun method => newline :: method.pieces

/-- The client class binds its name and has the words of its methods. -/
theorem wordsOf_clientPieces {keep : Role → Bool} (only : KeepsNames keep) (client title : String)
    (methods : List Method) : (clientPieces client title methods).wordsOf keep =
      (if keep .client then [client] else []) ++
        methods.flatMap fun method => method.pieces.wordsOf keep := by
  by_cases binds : keep .client = true <;> simp [clientPieces, newline, only.fixed, only.data, binds]

/-- Methods with empty lines between them, and one before the first. -/
theorem intercalate_methods (first : Method) (others : List Method) :
    "\n" ++ Text.intercalate "\n" ((first :: others).map fun method => spell method.pieces) =
      spell ((first :: others).flatMap fun method => newline :: method.pieces) := by
  induction others generalizing first with
  | nil => simp [Text.intercalate, newline]
  | cons second rest ih =>
    rw [List.flatMap_cons, Pieces.spell_append, ← ih second]
    simp [Text.intercalate, newline, String.intercalate_cons_cons, String.append_assoc]

theorem spell_pieces_ne_empty (method : Method) : spell method.pieces ≠ "" := by
  simp [Method.pieces, MethodHead.openingPieces]

theorem spells_methods {scope : Scope} (methods : List Method) (known : scope.lookup "methods" =
      some (.str (Text.intercalate "\n" (methods.map fun method => spell method.pieces)))) :
    Spells scope [.test (.name "methods") [.text "\n", .put (.name "methods")] []]
      (methods.flatMap fun method => newline :: method.pieces) := by
  have known : (Template.Expr.name "methods").eval scope = _ := known
  cases methods with
  | nil => exact .test_of_absent known rfl .nil .nil
  | cons first others =>
    have written : Writes scope [.text "\n", .put (.name "methods")] _ := .text (.put known .nil)
    refine .last (.test_of_present known ?_ (.of_writes written ?_) .nil)
    · have present := spell_pieces_ne_empty first
      cases others <;> simp [Json.truthy, Text.intercalate, String.intercalate_cons_cons, present]
    · rw [← intercalate_methods, String.append_empty]
      rfl

/-- The client class has the text of its pieces. -/
theorem render_client (client title : String) (methods : List Method) :
    Template.client.render [("client", .str client), ("service_name", .str title),
      ("methods", .str (Text.intercalate "\n" (methods.map fun method => spell method.pieces)))] =
      .ok (spell (clientPieces client title methods)) := by
  refine render_of_spells ?_
  rw [clientPieces]
  repeat first | refine .text ?_ | refine .put rfl ?_
  exact spells_methods methods rfl

theorem TableLines.codes {classes : List ErrorClass} {lines : List String}
    (all : TableLines classes lines) {error : ErrorClass} (listed : error ∈ classes) :
    ∃ wire, error.code = .str wire := by
  obtain ⟨wire, isCode, -⟩ := all.exists_line listed
  exact ⟨wire, isCode⟩

namespace Service

variable {service : Service} {settings : Settings}

/-- A client is named after a text. -/
theorem displayName_of_clientName {client : String} (named : service.clientName = .ok client) :
    ∃ title, service.displayName = .str title := by
  obtain ⟨name, made, -⟩ := Except.map_eq_ok_iff.mp named
  unfold typeName at made
  split at made
  case h_1 title shown => exact ⟨title, shown⟩
  case h_2 => cases made

/-- The text of the error classes of a service. -/
theorem text_of_errorSection {family : ErrorFamily} {client title text : String}
    {classes : List ErrorClass} (named : service.clientName = .ok client)
    (shown : service.displayName = .str title) (made : service.errorClasses settings = .ok classes)
    (rendered : service.errorSection family settings = .ok text) :
    text = spell (ErrorCode.mk client title family classes).pieces := by
  obtain ⟨_, _, _, lines, madeAgain, -, all⟩ := codeTable_of_errorSection rendered
  obtain rfl := Except.ok.inj (made.symm.trans madeAgain)
  have codes : ∀ error ∈ (ErrorCode.mk client title family classes).classes,
      ∃ wire, error.code = .str wire := fun error listed => all.codes listed
  have whole := ErrorCode.render_eq codes
  simp only [errorSection, errorName, named, made, Except.map, Except.ok_bind, shown] at rendered
  exact Except.ok.inj (rendered.symm.trans whole)

/-- The text of the client of a service. -/
theorem text_of_clientSection {style : Style} {client title text : String} {methods : List Method}
    (named : service.clientName = .ok client) (shown : service.displayName = .str title)
    (made : service.methodList style = .ok methods)
    (rendered : service.clientSection style = .ok text) :
    text = spell (clientPieces client title methods) := by
  have texts := mapM_render_of_methodList made
  simp only [clientSection, Service.methods, named, made, texts, Except.ok_bind, shown] at rendered
  exact Except.ok.inj (rendered.symm.trans (render_client client title methods))

end Service

end ServiceClient
