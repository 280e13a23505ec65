import ServiceClient.Module.Method
import ServiceClient.Proofs.Outcome
import ServiceClient.Proofs.Piece

/-!
The texts of methods, in pieces: the name that a method binds in the client, the types that it takes
and gives, and the readers and writers that it calls.
-/

namespace ServiceClient

open Pieces (spell line given newline)
open Template (Spells render_of_spells)

/-! ### Statements -/

namespace InputBinding

def queryPieces? (binding : InputBinding) : Option Pieces :=
  match binding.place with
  | .query name =>
    some ["_params.put(params, \"", ⟨.data, name⟩, "\", ", ⟨.data, inputField binding.member⟩, ")"]
  | .queryMap => some ["_params.put_all(params, ", ⟨.data, inputField binding.member⟩, ")"]
  | _ => none

def headerPieces? (binding : InputBinding) : Option Pieces :=
  match binding.place with
  | .header name =>
    some ["_params.put_header(request, \"", ⟨.data, name⟩, "\", ",
      ⟨.data, inputField binding.member⟩, ")"]
  | .headers start =>
    some ["_params.put_prefixed_headers(request, \"", ⟨.data, start⟩, "\", ",
      ⟨.data, inputField binding.member⟩, ")"]
  | _ => none

theorem queryLine?_eq (binding : InputBinding) :
    binding.queryLine? = binding.queryPieces?.map spell := by
  rcases binding with ⟨member, _ | _ | _ | _ | _⟩ <;>
    simp [queryLine?, queryPieces?, toString, String.append_assoc]

theorem headerLine?_eq (binding : InputBinding) :
    binding.headerLine? = binding.headerPieces?.map spell := by
  rcases binding with ⟨member, _ | _ | _ | _ | _⟩ <;>
    simp [headerLine?, headerPieces?, toString, String.append_assoc]

end InputBinding

/-- Statements that send a member as the whole body, unless it is missing. -/
def guardedPieces (member : String) (lines : List Pieces) : List Pieces :=
  ["if ", ⟨.data, inputField member⟩, " is not None:"] :: lines.map ("    " :: ·)

theorem guarded_eq (member : String) (lines : List Pieces) :
    guarded (inputField member) (lines.map spell) = (guardedPieces member lines).map spell := by
  simp [guarded, guardedPieces, toString, String.append_assoc, Function.comp_def]

namespace JsonPayload

def linePieces : JsonPayload → List Pieces
  | nothing => []
  | octets member => [["request.set_payload(", ⟨.data, inputField member⟩, ")"]]
  | text member =>
    guardedPieces member [
      ["request.set_content_type(\"text/plain\")"],
      ["request.set_payload(", ⟨.data, inputField member⟩, ".encode(\"utf-8\"))"]]
  | document member =>
    guardedPieces member [
      ["request.set_content_type(\"application/json\")"],
      ["request.set_payload(_serde.to_json(", ⟨.data, inputField member⟩, "))"]]
  | input excluded =>
    let names := Text.intercalate ", " (excluded.map fun name => "\"" ++ name ++ "\"")
    [["request.set_content_type(\"application/json\")"],
      if excluded.isEmpty then ["request.set_payload(_serde.to_json(input))"]
      else ["request.set_payload(_serde.to_json(input, exclude=(", ⟨.data, names⟩, ",)))"]]

theorem lines_eq (payload : JsonPayload) : payload.lines = payload.linePieces.map spell := by
  cases payload with
  | input excluded =>
    by_cases all : excluded.isEmpty = true <;>
      simp [lines, linePieces, all, toString, String.append_assoc]
  | _ =>
    simp [lines, linePieces, guarded, guardedPieces, toString, String.append_assoc]

end JsonPayload

namespace JsonResponse

/-- A member of the output that is handed over besides the body. -/
def extraPieces (extra : String × String) : Pieces :=
  ["        \"", ⟨.data, extra.1⟩, "\": ", ⟨.data, extra.2⟩, ","]

def linePieces : JsonResponse → List Pieces
  | nothing => [["return None"]]
  | value type body [] =>
    [["return _serde.from_json(", ⟨.use, type⟩, ", ", ⟨.fixed, body⟩, ")"]]
  | value type body extras =>
    ["return _serde.from_json("] :: ["    ", ⟨.use, type⟩, ","] :: ["    ", ⟨.fixed, body⟩, ","] ::
      ["    extra=\x7b"] :: (extras.map extraPieces ++ [([("    \x7d,")] : Pieces), [")"]])

theorem lines_eq (response : JsonResponse) : response.lines = response.linePieces.map spell := by
  rcases response with _ | ⟨type, body, _ | ⟨extra, others⟩⟩ <;>
    simp [lines, linePieces, extraPieces, toString, String.append_assoc, Function.comp_def]

end JsonResponse

namespace XmlBody

def linePieces (body : XmlBody) : List Pieces :=
  ["body = ", ⟨.call, body.writer⟩, "(\"", ⟨.data, body.tag⟩, "\", ", ⟨.data, body.value⟩, ")"] ::
    if body.namespaceUri.truthy then
      [["body.set(\"xmlns\", \"", ⟨.data, body.namespaceUri.display⟩, "\")"],
        ["request.set_payload(_xml.to_bytes(body))"]]
    else [["request.set_payload(_xml.to_bytes(body))"]]

theorem lines_eq (body : XmlBody) : body.lines = body.linePieces.map spell := by
  by_cases named : body.namespaceUri.truthy = true <;>
    simp [lines, linePieces, named, toString, String.append_assoc]

end XmlBody

namespace XmlPayload

def linePieces : XmlPayload → List Pieces
  | nothing => []
  | octets member => [["request.set_payload(", ⟨.data, inputField member⟩, ")"]]
  | text member =>
    guardedPieces member [
      ["request.set_payload(", ⟨.data, inputField member⟩, ".encode(\"utf-8\"))"]]
  | document member body => guardedPieces member body.linePieces
  | input body => body.linePieces

theorem lines_eq (payload : XmlPayload) : payload.lines = payload.linePieces.map spell := by
  cases payload with
  | document member body => rw [lines, body.lines_eq, guarded_eq, linePieces]
  | input body => exact body.lines_eq
  | _ => simp [lines, linePieces, guarded, guardedPieces, toString, String.append_assoc]

end XmlPayload

namespace XmlResponse

def linePieces : XmlResponse → List Pieces
  | nothing => [["return None"]]
  | unparsed reader => [["return ", ⟨.call, reader⟩, "(None, response)"]]
  | parsed reader => [
    ["root = _xml.parse(response.body) if response.body.strip() else None"],
    ["return ", ⟨.call, reader⟩, "(root, response)"]]

theorem lines_eq (response : XmlResponse) : response.lines = response.linePieces.map spell := by
  cases response <;> simp [lines, linePieces, toString, String.append_assoc]

end XmlResponse

/-! ### What all methods share -/

namespace MethodHead

/-- What a method gives, in an annotation. -/
def outputPieces (head : MethodHead) : Pieces :=
  given head.outputType (fun type => [⟨.use, type⟩]) ["None"]

def openingPieces (head : MethodHead) : Pieces :=
  "    def " :: ⟨.method, head.name⟩ :: "(self" ::
    (given head.inputType (fun type => [", input: ", ⟨.use, type⟩]) ++
      (") -> _future.ServiceFuture[" : Piece) :: (head.outputPieces ++ ("]:\n" : Piece) ::
        given head.documentation fun s => ["        \"\"\"", ⟨.data, s⟩, "\"\"\"\n"]))

/-- The start of the function that handles the response. -/
def handlerPieces (head : MethodHead) : Pieces :=
  newline :: "        def handle(response: _request.HttpResponse) -> " ::
    (head.outputPieces ++ [(":\n" : Piece)])

def closingPieces (head : MethodHead) : Pieces := [
  "            raise ", ⟨.error, head.errorType⟩, ".from_response(response)\n", newline,
  "        return _future.ServiceFuture(\n",
  "            self.dispatcher,\n",
  "            self.credentials_provider,\n",
  "            request,\n",
  "            handle,\n",
  "            error_mapper=", ⟨.error, head.errorType⟩, ".from_failure,\n",
  "        )\n"]

variable {head : MethodHead} {more : Scope} {nodes : List Template.Node} {rest : Pieces}

theorem spells_opening (after : Spells (head.scope ++ more) nodes rest) :
    Spells (head.scope ++ more) (
      .text "    def " :: .put (.name "method_name") :: .text "(self" ::
      .test (.name "input_type")
        [.text ", input: ", .put (.name "input_type")]
        [] ::
      .text ") -> _future.ServiceFuture[" :: .put (.orText (.name "output_type") "None") ::
      .text "]:\n" ::
      .test (.name "documentation")
        [.text "        \"\"\"", .put (.name "documentation"), .text "\"\"\"\n"]
        [] :: nodes) (head.openingPieces ++ rest) := by
  simp only [openingPieces, outputPieces, List.cons_append, List.append_assoc]
  exact .text (.put rfl (.text (.given rfl (fun _ there _ => .text (.putGiven rfl there .nil)) .nil
    (.text (.putOr rfl (.text
      (.given rfl (fun _ there _ => .text (.putGiven rfl there (.text .nil))) .nil after)))))))

theorem spells_handler (after : Spells (head.scope ++ more) nodes rest) :
    Spells (head.scope ++ more) (
      .text "\n" :: .text "        def handle(response: _request.HttpResponse) -> " ::
      .put (.orText (.name "output_type") "None") :: .text ":\n" :: nodes)
      (head.handlerPieces ++ rest) := by
  simp only [handlerPieces, outputPieces, List.cons_append, List.append_assoc, List.nil_append]
  exact .text (.text (.putOr rfl (.text after)))

theorem spells_closing : Spells (head.scope ++ more) [
      .text "            raise ", .put (.name "error_type"), .text ".from_response(response)\n",
      .text "\n",
      .text "        return _future.ServiceFuture(\n",
      .text "            self.dispatcher,\n",
      .text "            self.credentials_provider,\n",
      .text "            request,\n",
      .text "            handle,\n",
      .text "            error_mapper=", .put (.name "error_type"), .text ".from_failure,\n",
      .text "        )\n"] head.closingPieces :=
  .text (.put rfl (.text (.text (.text (.text (.text (.text (.text (.text (.put rfl
    (.text (.text .nil))))))))))))

end MethodHead

/-! ### What each family adds -/

/-- The request of a method that sends its input as a whole. -/
def MethodHead.requestPieces (head : MethodHead) : Pieces := [
  "        request = _request.SignedRequest(\n",
  "            \"POST\", \"", ⟨.data, head.signingName.display⟩,
  "\", self.region, \"/\", endpoint_prefix=\"", ⟨.data, head.endpointPrefix.display⟩, "\"\n",
  "        )\n"]

/-- A label of the URI and the value that fills it. -/
def uriPieces (value : Json × String) : Pieces :=
  ["                \"", ⟨.data, value.1.display⟩, "\": ", ⟨.data, value.2⟩, ",\n"]

/-- The path of a request, with labels filled if there are any. -/
def pathPieces (uri : String) (values : List (Json × String)) : Pieces :=
  if values.isEmpty then ["        path = \"", ⟨.data, uri⟩, "\"\n"]
  else "        path = _params.expand_uri(\n" :: "            \"" :: ⟨.data, uri⟩ :: "\",\n" ::
    "            \x7b\n" ::
      (values.flatMap uriPieces ++ [("            \x7d,\n" : Piece), "        )\n"])

/-- The query string of a request, if there are parameters. -/
def parameterPieces (lines : List Pieces) : Pieces :=
  if lines.isEmpty then []
  else "        params: _t.Dict[str, str] = \x7b\x7d\n" ::
    (lines.flatMap (line "        ") ++ [("        request.set_params(params)\n" : Piece)])

namespace MethodBody

def jsonRequest (head : MethodHead) (version target : Json) : Pieces :=
  head.requestPieces ++
    ("        request.set_content_type(\"application/x-amz-json-" : Piece) ::
    ⟨.data, version.display⟩ :: "\")\n" ::
    "        request.add_header(\"X-Amz-Target\", \"" :: ⟨.data, target.display⟩ :: "\")\n" ::
    given head.inputType (fun _ => ["        request.set_payload(_serde.to_json(input))\n"])
      ["        request.set_payload(b\"\x7b\x7d\")\n"]

def jsonResponse (head : MethodHead) : Pieces :=
  "            if response.status == _http.HTTPStatus.OK:\n" ::
    given head.outputType
      (fun type => ["                return _serde.from_json(", ⟨.use, type⟩, ", response.body)\n"])
      ["                return None\n"]

/-- The call of a writer, if a method has one for its input. -/
def writerPieces : Option String → Pieces
  | some writer => ["        ", ⟨.call, writer⟩, "(params, \"\", input)\n"]
  | none => []

def queryRequest (head : MethodHead) (version : Json) (writer : Option String) : Pieces :=
  head.requestPieces ++
    ("        params: _t.Dict[str, str] = \x7b\"Action\": \"" : Piece) ::
    ⟨.data, head.operation.name.display⟩ :: "\", \"Version\": \"" :: ⟨.data, version.display⟩ ::
    "\"\x7d\n" ::
    (writerPieces writer ++ [("        request.set_form_params(params)\n" : Piece)])

/-- What a method makes of the result of a call, if it has a reader for it. -/
def resultPieces (wrapper : String) : Option String → Pieces
  | some reader => [
    "                root = _xml.parse(response.body)\n",
    "                return ", ⟨.call, reader⟩, "(_xml.result_node(root, ", ⟨.data, wrapper⟩, "))\n"]
  | none => ["                return None\n"]

def queryResponse (wrapper : String) (reader : Option String) : Pieces :=
  "            if response.status == _http.HTTPStatus.OK:\n" :: resultPieces wrapper reader

def restRequest (head : MethodHead) (bindings : List InputBinding) (payload : List Pieces) :
    Pieces :=
  pathPieces head.operation.requestUri.display (bindings.filterMap (·.uriValue?)) ++
    ("        request = _request.SignedRequest(\n" : Piece) ::
    "            \"" :: ⟨.data, head.operation.httpMethod.display⟩ :: "\", \"" ::
    ⟨.data, head.signingName.display⟩ :: "\", self.region, path, endpoint_prefix=\"" ::
    ⟨.data, head.endpointPrefix.display⟩ :: "\"\n" :: "        )\n" ::
    (parameterPieces (bindings.filterMap (·.queryPieces?)) ++
      ((bindings.filterMap (·.headerPieces?)).flatMap (line "        ") ++
        payload.flatMap (line "        ")))

def restResponse (lines : List Pieces) : Pieces :=
  "            if _http.HTTPStatus.OK <= response.status < _http.HTTPStatus.MULTIPLE_CHOICES:\n" ::
    lines.flatMap (line "                ")

def requestPieces (head : MethodHead) : MethodBody → Pieces
  | json version target => jsonRequest head version target
  | query version _ writer _ => queryRequest head version writer
  | restJson bindings payload _ => restRequest head bindings payload.linePieces
  | restXml bindings payload _ => restRequest head bindings payload.linePieces

def responsePieces (head : MethodHead) : MethodBody → Pieces
  | json .. => jsonResponse head
  | query _ wrapper _ reader => queryResponse wrapper reader
  | restJson _ _ response => restResponse response.linePieces
  | restXml _ _ response => restResponse response.linePieces

/-- A form is written and a result is read by the functions for the types of a method. -/
def Fits (head : MethodHead) : MethodBody → Prop
  | query _ _ writer reader =>
    writer = functionFor Naming.writerName head.inputType ∧
      reader = functionFor Naming.readerName head.outputType
  | _ => True

end MethodBody

/-- The text of a method in pieces. -/
def Method.pieces (method : Method) : Pieces :=
  method.head.openingPieces ++ (method.body.requestPieces method.head ++
    (method.head.handlerPieces ++
      (method.body.responsePieces method.head ++ method.head.closingPieces)))

/-! ### What words of methods do -/

/-- The writers that a method calls. -/
def XmlPayload.calls : XmlPayload → List String
  | document _ body | input body => [body.writer]
  | nothing | octets _ | text _ => []

/-- The readers that a method calls. -/
def XmlResponse.calls : XmlResponse → List String
  | unparsed reader | parsed reader => [reader]
  | nothing => []

/-- The readers and writers that a method calls. JSON bodies are written and read by the fields of
their records. -/
def Method.calls (method : Method) : List String :=
  match method.body with
  | .json .. | .restJson .. => []
  | .query _ _ writer reader => writer.toList ++ reader.toList
  | .restXml _ payload response => payload.calls ++ response.calls

/-- The words of lines. -/
def wordsOfLines (lines : List Pieces) (keep : Role → Bool) : List String :=
  lines.flatMap (·.wordsOf keep)

namespace DropsText

variable {keep : Role → Bool} (drops : DropsText keep)
include drops

theorem wordsOf_lines (indent : String) (lines : List Pieces) :
    Pieces.wordsOf (lines.flatMap (line indent)) keep = wordsOfLines lines keep := by
  simp [wordsOfLines, drops.fixed]

theorem guardedPieces (member : String) (lines : List Pieces) :
    wordsOfLines (guardedPieces member lines) keep = wordsOfLines lines keep := by
  simp [wordsOfLines, ServiceClient.guardedPieces, List.flatMap_map, drops.fixed, drops.data]

theorem jsonPayload (payload : JsonPayload) : wordsOfLines payload.linePieces keep = [] := by
  cases payload with
  | input excluded =>
    by_cases all : excluded.isEmpty = true <;>
      simp [JsonPayload.linePieces, wordsOfLines, all, drops.fixed, drops.data]
  | _ =>
    simp [JsonPayload.linePieces, wordsOfLines, ServiceClient.guardedPieces, drops.fixed, drops.data]

theorem xmlBody (body : XmlBody) :
    wordsOfLines body.linePieces keep = if keep .call then [body.writer] else [] := by
  by_cases named : body.namespaceUri.truthy = true <;>
    simp [XmlBody.linePieces, wordsOfLines, named, drops.fixed, drops.data]

theorem xmlPayload (payload : XmlPayload) :
    wordsOfLines payload.linePieces keep = if keep .call then payload.calls else [] := by
  cases payload with
  | document member body => exact (drops.guardedPieces member _).trans (drops.xmlBody body)
  | input body => exact drops.xmlBody body
  | _ =>
    simp [XmlPayload.linePieces, XmlPayload.calls, wordsOfLines, ServiceClient.guardedPieces,
      drops.fixed, drops.data]

theorem xmlResponse (response : XmlResponse) :
    wordsOfLines response.linePieces keep = if keep .call then response.calls else [] := by
  cases response <;>
    simp [XmlResponse.linePieces, XmlResponse.calls, wordsOfLines, drops.fixed]

theorem restRequest (head : MethodHead) (bindings : List InputBinding) (payload : List Pieces) :
    (MethodBody.restRequest head bindings payload).wordsOf keep = wordsOfLines payload keep := by
  have path (uri : String) (values : List (Json × String)) :
      (pathPieces uri values).wordsOf keep = [] := by
    by_cases none : values.isEmpty = true <;>
      simp [pathPieces, uriPieces, none, drops.fixed, drops.data]
  have queries : wordsOfLines (bindings.filterMap (·.queryPieces?)) keep = [] := by
    refine List.flatMap_eq_nil_iff.mpr fun line listed => ?_
    obtain ⟨⟨member, place⟩, -, made⟩ := List.mem_filterMap.mp listed
    cases place <;> cases made <;> simp [drops.fixed, drops.data]
  have headers : wordsOfLines (bindings.filterMap (·.headerPieces?)) keep = [] := by
    refine List.flatMap_eq_nil_iff.mpr fun line listed => ?_
    obtain ⟨⟨member, place⟩, -, made⟩ := List.mem_filterMap.mp listed
    cases place <;> cases made <;> simp [drops.fixed, drops.data]
  have parameters : (parameterPieces (bindings.filterMap (·.queryPieces?))).wordsOf keep = [] := by
    unfold parameterPieces
    split
    · rfl
    · simp only [Pieces.wordsOf_cons, Pieces.wordsOf_append, drops.wordsOf_lines, queries]
      simp [drops.fixed]
  simp only [MethodBody.restRequest, Pieces.wordsOf_append, Pieces.wordsOf_cons, path, parameters,
    drops.wordsOf_lines, headers]
  simp [drops.fixed, drops.data]

theorem restResponse (lines : List Pieces) :
    (MethodBody.restResponse lines).wordsOf keep = wordsOfLines lines keep := by
  simp only [MethodBody.restResponse, Pieces.wordsOf_cons, drops.wordsOf_lines]
  simp [drops.fixed]

theorem jsonRequest (head : MethodHead) (version target : Json) :
    (MethodBody.jsonRequest head version target).wordsOf keep = [] := by
  have payload : (given head.inputType
      (fun _ => ["        request.set_payload(_serde.to_json(input))\n"])
      ["        request.set_payload(b\"\x7b\x7d\")\n"]).wordsOf keep = [] :=
    Pieces.wordsOf_given_or (by simp [drops.fixed]) (by simp [drops.fixed])
  simp [MethodBody.jsonRequest, MethodHead.requestPieces, drops.fixed, drops.data, payload]

theorem requestPieces (head : MethodHead) : head.requestPieces.wordsOf keep = [] := by
  simp [MethodHead.requestPieces, drops.fixed, drops.data]

end DropsText

namespace KeepsNames

variable {keep : Role → Bool} (only : KeepsNames keep)
include only

theorem jsonResponse (response : JsonResponse) : wordsOfLines response.linePieces keep = [] := by
  rcases response with _ | ⟨type, body, _ | ⟨extra, others⟩⟩ <;>
    simp [JsonResponse.linePieces, JsonResponse.extraPieces, wordsOfLines, List.flatMap_map,
      only.fixed, only.data, only.use]

theorem outputPieces (head : MethodHead) : head.outputPieces.wordsOf keep = [] :=
  Pieces.wordsOf_given_or (by simp [only.use]) (by simp [only.fixed])

/-- The opening of a method binds its name. -/
theorem openingPieces (head : MethodHead) :
    head.openingPieces.wordsOf keep = if keep .method then [head.name] else [] := by
  simp [MethodHead.openingPieces, only.outputPieces, only.fixed, only.data, only.use]

theorem handlerPieces (head : MethodHead) : head.handlerPieces.wordsOf keep = [] := by
  simp [MethodHead.handlerPieces, newline, only.outputPieces, only.fixed]

theorem closingPieces (head : MethodHead) : head.closingPieces.wordsOf keep = [] := by
  simp [MethodHead.closingPieces, newline, only.fixed, only.error]

theorem jsonResult (head : MethodHead) : (MethodBody.jsonResponse head).wordsOf keep = [] := by
  have result : (given head.outputType
      (fun type => ["                return _serde.from_json(", ⟨.use, type⟩, ", response.body)\n"])
      ["                return None\n"]).wordsOf keep = [] :=
    Pieces.wordsOf_given_or (by simp [only.fixed, only.use]) (by simp [only.fixed])
  simp [MethodBody.jsonResponse, only.fixed, result]

end KeepsNames

/-- The text of a method binds its name and calls the functions that its layout names. -/
theorem Method.wordsOf_pieces (method : Method) {keep : Role → Bool} (only : KeepsNames keep) :
    method.pieces.wordsOf keep =
      (if keep .method then [method.head.name] else []) ++ if keep .call then method.calls else [] := by
  have body : (method.body.requestPieces method.head).wordsOf keep ++
      (method.body.responsePieces method.head).wordsOf keep =
        if keep .call then method.calls else [] := by
    rcases method with ⟨head, ⟨version, target⟩ | ⟨version, wrapper, writer, reader⟩ |
      ⟨bindings, payload, response⟩ | ⟨bindings, payload, response⟩⟩
    · simp [MethodBody.requestPieces, MethodBody.responsePieces, only.jsonRequest, only.jsonResult,
        calls]
    · by_cases kept : keep .call = true <;> cases writer <;> cases reader <;>
        simp [kept, MethodBody.requestPieces, MethodBody.responsePieces, MethodBody.queryRequest,
          MethodBody.queryResponse, MethodBody.writerPieces, MethodBody.resultPieces, calls,
          only.requestPieces, only.fixed, only.data]
    · simp [MethodBody.requestPieces, MethodBody.responsePieces, only.restRequest,
        only.restResponse, only.jsonPayload, only.jsonResponse, calls]
    · by_cases kept : keep .call = true <;>
        simp [MethodBody.requestPieces, MethodBody.responsePieces, only.restRequest,
          only.restResponse, only.xmlPayload, only.xmlResponse, calls, kept]
  simp only [pieces, Pieces.wordsOf_append, only.openingPieces, only.handlerPieces,
    only.closingPieces, List.nil_append, List.append_nil, body]

/-- The types that a method names. -/
def Method.types (method : Method) : List String :=
  method.head.inputType.toList ++ method.head.outputType.toList ++
    match method.body with
    | .restJson _ _ (.value type _ _) => [type]
    | _ => []

namespace MethodHead

variable {head : MethodHead} {type : String}

theorem mem_of_output (named : type ∈ head.outputPieces.named .use) :
    type ∈ head.outputType.toList := by
  obtain ⟨_, isOutput, -, inside⟩ := Pieces.mem_wordsOf_given rfl named
  obtain rfl : type = _ := by simpa using inside
  exact Option.mem_toList.mpr isOutput

theorem mem_of_opening (named : type ∈ head.openingPieces.named .use) :
    type ∈ head.inputType.toList ++ head.outputType.toList := by
  simp [openingPieces] at named
  rcases named with input | output
  · obtain ⟨_, isInput, -, inside⟩ := Pieces.mem_wordsOf_given rfl input
    obtain rfl : type = _ := by simpa using inside
    exact List.mem_append_left _ (Option.mem_toList.mpr isInput)
  · exact List.mem_append_right _ (mem_of_output output)

end MethodHead

theorem MethodBody.named_use_request (head : MethodHead) (body : MethodBody) :
    (body.requestPieces head).named .use = [] := by
  have drops : DropsText (· == .use) := ⟨rfl, rfl⟩
  cases body with
  | json version target => exact drops.jsonRequest head version target
  | query version wrapper writer reader =>
    cases writer <;> simp [requestPieces, queryRequest, writerPieces, drops.requestPieces]
  | restJson bindings payload response =>
    exact (drops.restRequest head bindings _).trans (drops.jsonPayload payload)
  | restXml bindings payload response =>
    exact (drops.restRequest head bindings _).trans (drops.xmlPayload payload)

/-- The text of a method names the types that it takes and gives. -/
theorem Method.mem_types {method : Method} {type : String}
    (named : type ∈ method.pieces.named .use) : type ∈ method.types := by
  have drops : DropsText (· == .use) := ⟨rfl, rfl⟩
  simp only [pieces, Pieces.wordsOf_append, List.mem_append, MethodBody.named_use_request,
    List.not_mem_nil, false_or] at named
  rcases named with opening | handler | response | closing
  · exact List.mem_append_left _ (MethodHead.mem_of_opening opening)
  · simp [MethodHead.handlerPieces, newline] at handler
    exact List.mem_append_left _ (List.mem_append_right _ (MethodHead.mem_of_output handler))
  · rcases method with ⟨head, ⟨version, target⟩ | ⟨version, wrapper, writer, reader⟩ |
      ⟨bindings, payload, answer⟩ | ⟨bindings, payload, answer⟩⟩
    · simp [MethodBody.responsePieces, MethodBody.jsonResponse] at response
      obtain ⟨_, isOutput, -, inside⟩ := Pieces.mem_wordsOf_given rfl response
      obtain rfl : type = _ := by simpa using inside
      exact List.mem_append_left _ (List.mem_append_right _ (Option.mem_toList.mpr isOutput))
    · cases reader <;>
        simp [MethodBody.responsePieces, MethodBody.queryResponse, MethodBody.resultPieces] at response
    · rw [MethodBody.responsePieces, drops.restResponse] at response
      rcases answer with _ | ⟨given, body, _ | ⟨extra, others⟩⟩ <;>
        simp [JsonResponse.linePieces, JsonResponse.extraPieces, wordsOfLines,
          List.flatMap_map] at response
      all_goals exact List.mem_append_right _ (List.mem_singleton.mpr response)
    · rw [MethodBody.responsePieces, drops.restResponse, drops.xmlResponse] at response
      simp at response
  · simp [MethodHead.closingPieces, newline] at closing

/-! ### Methods -/

namespace Method

open MethodHead (spells_opening spells_handler spells_closing)

variable {head : MethodHead}

theorem spells_request {more : Scope} {nodes : List Template.Node} {rest : Pieces}
    (after : Spells (head.scope ++ more) nodes rest) :
    Spells (head.scope ++ more) (
      .text "        request = _request.SignedRequest(\n" ::
      .text "            \"POST\", \"" :: .put (.name "signing_name") ::
      .text "\", self.region, \"/\", endpoint_prefix=\"" :: .put (.name "endpoint_prefix") ::
      .text "\"\n" :: .text "        )\n" :: nodes) (head.requestPieces ++ rest) :=
  .text (.text (.putShown rfl (.text (.putShown rfl (.text (.text after))))))

theorem render_json (version target : Json) : (Method.mk head (.json version target)).render =
    .ok (spell (Method.mk head (.json version target)).pieces) := by
  refine render_of_spells (spells_opening ?_)
  simp only [MethodBody.requestPieces, MethodBody.jsonRequest, List.cons_append, List.append_assoc]
  refine spells_request (.text (.putShown rfl (.text (.text (.putShown rfl (.text ?_))))))
  refine .given rfl (fun _ _ _ => .text .nil) (.text .nil) ?_
  refine spells_handler (.text ?_)
  exact .given rfl (fun _ there _ => .text (.putGiven rfl there (.text .nil))) (.text .nil)
    spells_closing

/-- The function for a type that has a name. -/
theorem functionFor_some {make : String → String} {type : String} (named : type.isEmpty = false) :
    functionFor make (some type) = some (make type) := by
  rw [functionFor, named]
  rfl

theorem spells_writer {make : String → String} {more : Scope} {nodes : List Template.Node}
    {rest : Pieces} (known : ∀ function, functionFor make head.inputType = some function →
      more.lookup "serializer" = some (.str function))
    (after : Spells (head.scope ++ more) nodes rest) :
    Spells (head.scope ++ more) (
      .test (.name "input_type")
        [.text "        ", .put (.name "serializer"), .text "(params, \"\", input)\n"]
        [] :: nodes) (MethodBody.writerPieces (functionFor make head.inputType) ++ rest) := by
  have same : MethodBody.writerPieces (functionFor make head.inputType) = given head.inputType
      fun type => ["        ", ⟨.call, make type⟩, "(params, \"\", input)\n"] := by
    match head.inputType with
    | none => rfl
    | some type => cases named : type.isEmpty <;> simp [functionFor, given, MethodBody.writerPieces, named]
  rw [same]
  refine .given rfl (fun type there named => .text (.put ?_ (.text .nil))) .nil after
  rw [there, functionFor_some named] at known
  exact known _ rfl

theorem spells_result {make : String → String} {wrapper : String} {more : Scope}
    {nodes : List Template.Node} {rest : Pieces}
    (wrapped : more.lookup "result_wrapper" = some (.str wrapper))
    (known : ∀ function, functionFor make head.outputType = some function →
      more.lookup "deserializer" = some (.str function))
    (after : Spells (head.scope ++ more) nodes rest) :
    Spells (head.scope ++ more) (
      .test (.name "output_type")
        [.text "                root = _xml.parse(response.body)\n",
          .text "                return ", .put (.name "deserializer"),
          .text "(_xml.result_node(root, ", .put (.name "result_wrapper"), .text "))\n"]
        [.text "                return None\n"] :: nodes)
      (MethodBody.resultPieces wrapper (functionFor make head.outputType) ++ rest) := by
  have same : MethodBody.resultPieces wrapper (functionFor make head.outputType) =
      given head.outputType (fun type => [
        "                root = _xml.parse(response.body)\n", "                return ",
        ⟨.call, make type⟩, "(_xml.result_node(root, ", ⟨.data, wrapper⟩, "))\n"])
        ["                return None\n"] := by
    match head.outputType with
    | none => rfl
    | some type => cases named : type.isEmpty <;> simp [functionFor, given, MethodBody.resultPieces, named]
  rw [same]
  refine .given rfl (fun type there named => .text (.text (.put ?_ (.text (.put wrapped
    (.text .nil)))))) (.text .nil) after
  rw [there, functionFor_some named] at known
  exact known _ rfl

theorem render_query (version : Json) (wrapper : String) {writer reader : Option String}
    (fits : (MethodBody.query version wrapper writer reader).Fits head) :
    (Method.mk head (.query version wrapper writer reader)).render =
      .ok (spell (Method.mk head (.query version wrapper writer reader)).pieces) := by
  obtain ⟨rfl, rfl⟩ := fits
  refine render_of_spells (spells_opening ?_)
  simp only [MethodBody.requestPieces, MethodBody.queryRequest, List.cons_append, List.append_assoc]
  refine spells_request (.text (.putShown rfl (.text (.putShown rfl (.text ?_)))))
  refine spells_writer ?_ (.text (spells_handler (.text (spells_result rfl ?_ spells_closing))))
  · intro function made
    rw [made]
    rfl
  · intro function made
    rw [made]
    cases functionFor Naming.writerName head.inputType <;> rfl

theorem spells_path {scope : Scope} {nodes : List Template.Node} {rest : Pieces} {uri : Json}
    {values : List (Json × String)} (isUri : scope.lookup "request_uri" = some uri)
    (known : scope.lookup "uri_values" =
      some (.arr (values.map fun (label, value) => .arr [label, .str value])))
    (after : Spells scope nodes rest) :
    Spells scope (
      .test (.name "uri_values")
        [.text "        path = _params.expand_uri(\n",
          .text "            \"", .put (.name "request_uri"), .text "\",\n",
          .text "            \x7b\n",
          .each ["label", "expr"] (.name "uri_values") [
            .text "                \"", .put (.name "label"), .text "\": ", .put (.name "expr"),
            .text ",\n"],
          .text "            \x7d,\n",
          .text "        )\n"]
        [.text "        path = \"", .put (.name "request_uri"), .text "\"\n"] :: nodes)
      (pathPieces uri.display values ++ rest) :=
  .ifAny _ known
    (.text (.text (.putShown isUri (.text (.text (.each _ uriPieces _ known (fun _ => rfl)
      (fun _ _ => .text (.putShown rfl (.text (.put rfl (.text .nil)))))
      (.text (.text .nil))))))))
    (.text (.putShown isUri (.text .nil))) after

theorem spells_parameters {scope : Scope} {nodes : List Template.Node} {rest : Pieces}
    {lines : List Pieces} (known : scope.lookup "query_lines" =
      some (.arr (lines.map fun line => .str (spell line))))
    (after : Spells scope nodes rest) :
    Spells scope (
      .test (.name "query_lines")
        [.text "        params: _t.Dict[str, str] = \x7b\x7d\n",
          .each ["line"] (.name "query_lines") [
            .text "        ", .put (.name "line"), .text "\n"],
          .text "        request.set_params(params)\n"]
        [] :: nodes) (parameterPieces lines ++ rest) :=
  .ifAny _ known (.text (.lines known (.text .nil))) .nil after

theorem strings_eq {α : Type} {line? : α → Option String} {pieces? : α → Option Pieces}
    (same : ∀ a, line? a = (pieces? a).map spell) (items : List α) :
    (items.filterMap line?).map Json.str =
      (items.filterMap pieces?).map fun line => .str (spell line) := by
  rw [funext same, ← List.map_filterMap, List.map_map]
  rfl

/-- A method that sends its input where the members say. -/
theorem spells_rest {bindings : List InputBinding} {payload response : List Pieces} :
    Spells (head.scope ++ MethodBody.restScope head.operation bindings (payload.map spell)
        (response.map spell)) Template.restMethod.nodes
      (head.openingPieces ++ (MethodBody.restRequest head bindings payload ++
        (head.handlerPieces ++ (MethodBody.restResponse response ++ head.closingPieces)))) := by
  have queries := strings_eq InputBinding.queryLine?_eq bindings
  have headers := strings_eq InputBinding.headerLine?_eq bindings
  have sent : (payload.map spell).map Json.str = payload.map fun line => .str (spell line) :=
    List.map_map
  have given : (response.map spell).map Json.str = response.map fun line => .str (spell line) :=
    List.map_map
  refine spells_opening ?_
  simp only [MethodBody.restRequest, List.cons_append, List.append_assoc]
  refine spells_path rfl rfl (.text (.text (.putShown rfl (.text (.putShown rfl (.text
    (.putShown rfl (.text (.text ?_)))))))))
  refine spells_parameters (congrArg (some ∘ Json.arr) queries) ?_
  refine .lines (congrArg (some ∘ Json.arr) headers) ?_
  refine .lines (congrArg (some ∘ Json.arr) sent) ?_
  refine spells_handler (.text ?_)
  exact .lines (congrArg (some ∘ Json.arr) given) spells_closing

/-- The text of a method is that of its pieces. -/
theorem render_eq {method : Method} (fits : method.body.Fits method.head) :
    method.render = .ok (spell method.pieces) := by
  rcases method with ⟨head, ⟨version, target⟩ | ⟨version, wrapper, writer, reader⟩ |
    ⟨bindings, payload, response⟩ | ⟨bindings, payload, response⟩⟩
  · exact render_json version target
  · exact render_query version wrapper fits
  · refine render_of_spells ?_
    show Spells (head.scope ++ MethodBody.restScope head.operation bindings payload.lines
      response.lines) Template.restMethod.nodes _
    rw [payload.lines_eq, response.lines_eq]
    exact spells_rest
  · refine render_of_spells ?_
    show Spells (head.scope ++ MethodBody.restScope head.operation bindings payload.lines
      response.lines) Template.restMethod.nodes _
    rw [payload.lines_eq, response.lines_eq]
    exact spells_rest

end Method

namespace Service

variable {service : Service}

theorem fits_of_methodBody {family : Family} {head : MethodHead} {body : MethodBody}
    (made : service.methodBody family head = .ok body) : body.Fits head := by
  cases family with
  | json =>
    obtain rfl := Except.pure_eq_ok_iff.mp made
    trivial
  | query =>
    obtain rfl := Except.pure_eq_ok_iff.mp made
    exact ⟨rfl, rfl⟩
  | restJson =>
    simp only [methodBody, Except.bind_eq_ok_iff, Except.pure_eq_ok_iff] at made
    obtain ⟨_, -, _, -, _, -, rfl⟩ := made
    trivial
  | restXml =>
    simp only [methodBody, Except.bind_eq_ok_iff, Except.pure_eq_ok_iff] at made
    obtain ⟨_, -, _, -, _, -, rfl⟩ := made
    trivial

/-- The methods of a client have the texts of their pieces. -/
theorem mapM_render_of_methodList {style : Style} {methods : List Method}
    (made : service.methodList style = .ok methods) :
    methods.mapM Method.render = .ok (methods.map fun method => spell method.pieces) := by
  simp only [methodList, Except.bind_eq_ok_iff] at made
  obtain ⟨heads, -, made⟩ := made
  refine (Except.mapM_congr ?_).trans List.mapM_pure
  intro method listed
  obtain ⟨head, -, result⟩ := Except.mem_of_mapM_eq_ok made listed
  obtain ⟨body, bodyMade, rfl⟩ := Except.map_eq_ok_iff.mp result
  exact Method.render_eq (fits_of_methodBody bodyMade)

end Service

end ServiceClient
