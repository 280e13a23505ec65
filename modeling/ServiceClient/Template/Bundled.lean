import ServiceClient.Template.Basic

/-!
The templates of a generated module, one for each of its sections and kinds of declaration.
-/

namespace ServiceClient.Template

/-- The opening of every module: its title and the imports that all protocols need. -/
def opening : Template := ⟨"prelude.py.j2", [
  .text "\"\"\"\n",
  .put (.filtered (.name "service_full_name") .doc), .text " client.\n",
  .text "\n",
  .text "Generated by shapegen from the ", .put (.name "protocol"),
  .text " service description. Do not edit.\n",
  .text "\"\"\"\n",
  .text "\n",
  .text "from __future__ import annotations\n",
  .text "\n",
  .text "import dataclasses as _dataclasses\n",
  .text "import http as _http\n",
  .text "import typing as _t\n",
  .text "\n",
  .text "from ", .put (.name "runtime"), .text " import credentials as _credentials\n",
  .text "from ", .put (.name "runtime"), .text " import errors as _errors\n",
  .text "from ", .put (.name "runtime"), .text " import future as _future\n",
  .text "from ", .put (.name "runtime"), .text " import region as _region\n",
  .text "from ", .put (.name "runtime"), .text " import request as _request\n"]⟩

/-- The imports that one protocol needs besides. -/
def protocolImports : Template := ⟨"protocol_prelude.py.j2", [
  .each ["module", "alias"] (.name "imports") [
    .text "from ", .put (.name "runtime"), .text " import ", .put (.name "module"), .text " as ",
    .put (.name "alias"), .text "\n"]]⟩

/-- Another name for a type. -/
def typeAlias : Template := ⟨"alias.py.j2", [
  .put (.name "name"), .text " = ", .put (.name "target"),
  .test (.name "comment")
    [.text "  # ", .put (.name "comment")]
    [],
  .text "\n",
  .test (.name "documentation")
    [.text "\"\"\"", .put (.name "documentation"), .text "\"\"\"\n"]
    []]⟩

/-- A record with its fields. -/
def record : Template := ⟨"struct.py.j2", [
  .test (.name "attributes")
    [.put (.name "attributes"), .text "\n"]
    [],
  .text "class ", .put (.name "name"), .text ":\n",
  .test (.name "documentation")
    [.text "    \"\"\"", .put (.name "documentation"), .text "\"\"\"\n"]
    [],
  .test (.name "fields")
    [
      .test (.name "documentation")
        [.text "\n"]
        [],
      .each ["field"] (.name "fields") [
        .text "    ", .put (.field "field" "name"), .text ": ",
        .put (.field "field" "annotation"),
        .test (.field "field" "default")
          [.text " = ", .put (.field "field" "default")]
          [],
        .text "\n",
        .test (.field "field" "documentation")
          [.text "    \"\"\"", .put (.field "field" "documentation"), .text "\"\"\"\n"]
          []]]
    [.text "    pass\n"]]⟩

/-- The error classes of a client and the table from codes to classes. -/
def errors : Template := ⟨"errors.py.j2", [
  .text "class ", .put (.name "base"), .text "(Exception):\n",
  .text "    \"\"\"Errors returned by the ", .put (.filtered (.name "service_name") .doc),
  .text " API.\"\"\"\n",
  .text "\n",
  .text "    code = \"\"\n",
  .text "\n",
  .text "    def __init__(self, message: str = \"\", status: _t.Optional[int] = None):\n",
  .text "        super().__init__(message)\n",
  .text "        self.message = message\n",
  .text "        self.status = status\n",
  .text "\n",
  .text "    def __str__(self) -> str:\n",
  .text "        if self.code:\n",
  .text "            return f\"\x7bself.code\x7d: \x7bself.message\x7d\"\n",
  .text "        return self.message\n",
  .text "\n",
  .text "    @classmethod\n",
  .text "    def from_response(cls, response: _request.HttpResponse) -> \"", .put (.name "base"),
  .text "\":\n",
  .text "        \"\"\"Map a failed response to the matching error class.\"\"\"\n",
  .text "        code, message = ", .put (.name "parse_function"), .text "(response)\n",
  .text "        error_class = ERROR_CODES.get(code, ", .put (.name "unknown"), .text ")\n",
  .text "        error = error_class(message or response.text, status=response.status)\n",
  .text "        if error_class is ", .put (.name "unknown"), .text ":\n",
  .text "            error.code = code or str(response.status)\n",
  .text "        return error\n",
  .text "\n",
  .text "    @classmethod\n",
  .text "    def from_failure(cls, failure: Exception) -> \"", .put (.name "base"), .text "\":\n",
  .text "        \"\"\"Map a credentials or dispatch failure to a fallback error class.\"\"\"\n",
  .text "        if isinstance(failure, cls):\n",
  .text "            return failure\n",
  .text "        if isinstance(failure, _credentials.CredentialsError):\n",
  .text "            return ", .put (.name "credentials"), .text "(str(failure))\n",
  .text "        if isinstance(failure, _request.HttpDispatchError):\n",
  .text "            return ", .put (.name "dispatch"), .text "(str(failure))\n",
  .text "        return ", .put (.name "unknown"), .text "(str(failure))\n",
  .text "\n",
  .each ["error"] (.name "errors") [
    .text "\n",
    .text "class ", .put (.field "error" "name"), .text "(", .put (.name "base"), .text "):\n",
    .test (.field "error" "documentation")
      [.text "    \"\"\"", .put (.field "error" "documentation"), .text "\"\"\"\n",
        .text "\n"]
      [],
    .text "    code = \"", .put (.filtered (.field "error" "code") .doc), .text "\"\n",
    .text "\n"],
  .text "\n",
  .text "class ", .put (.name "dispatch"), .text "(", .put (.name "base"), .text "):\n",
  .text "    \"\"\"The request could not be sent or no response was received.\"\"\"\n",
  .text "\n",
  .text "\n",
  .text "class ", .put (.name "credentials"), .text "(", .put (.name "base"), .text "):\n",
  .text "    \"\"\"No usable credentials could be obtained.\"\"\"\n",
  .text "\n",
  .text "\n",
  .text "class ", .put (.name "unknown"), .text "(", .put (.name "base"), .text "):\n",
  .text "    \"\"\"The service answered with an error this client does not know.\"\"\"\n",
  .text "\n",
  .text "\n",
  .text "ERROR_CODES: _t.Dict[str, _t.Type[", .put (.name "base"), .text "]] = \x7b\n",
  .each ["error"] (.name "errors") [
    .text "    \"", .put (.filtered (.field "error" "code") .doc), .text "\": ",
    .put (.field "error" "name"), .text ",\n"],
  .text "\x7d\n"]⟩

/-- The client class around its methods. -/
def client : Template := ⟨"client.py.j2", [
  .text "class ", .put (.name "client"), .text ":\n",
  .text "    \"\"\"A client for the ", .put (.filtered (.name "service_name") .doc),
  .text " API.\"\"\"\n",
  .text "\n",
  .text "    def __init__(\n",
  .text "        self,\n",
  .text "        request_dispatcher: _request.DispatchSignedRequest,\n",
  .text "        credentials_provider: _credentials.ProvideAwsCredentials,\n",
  .text "        region: _region.Region,\n",
  .text "    ):\n",
  .text "        self.credentials_provider = credentials_provider\n",
  .text "        self.region = region\n",
  .text "        self.dispatcher = request_dispatcher\n",
  .test (.name "methods")
    [.text "\n",
      .put (.name "methods")]
    []]⟩

/-- Tests that a client can be built and its methods called without sending anything. -/
def tests : Template := ⟨"tests.py.j2", [
  .text "class _RecordingDispatcher(_request.DispatchSignedRequest):\n",
  .text "    \"\"\"Dispatcher that records requests instead of sending them.\"\"\"\n",
  .text "\n",
  .text "    def __init__(self):\n",
  .text "        self.requests = []\n",
  .text "\n",
  .text "    def dispatch(self, request, timeout=None):\n",
  .text "        self.requests.append(request)\n",
  .text "        return _request.HttpResponse(status=200)\n",
  .text "\n",
  .text "\n",
  .text "def test_", .put (.filtered (.name "client") .snakeCase),
  .text "_construction_performs_no_io():\n",
  .text "    dispatcher = _RecordingDispatcher()\n",
  .text "    client = ", .put (.name "client"), .text "(\n",
  .text "        dispatcher,\n",
  .text "        _credentials.StaticProvider(\"AKID\", \"SECRET\"),\n",
  .text "        _region.Region(\"us-east-1\"),\n",
  .text "    )\n",
  .text "    assert client.dispatcher is dispatcher\n",
  .text "    assert client.region.name == \"us-east-1\"\n",
  .each ["method"] (.name "methods") [
    .text "    assert callable(client.", .put (.name "method"), .text ")\n"],
  .each ["method"] (.name "no_input_methods") [
    .text "    assert isinstance(client.", .put (.name "method"),
    .text "(), _future.ServiceFuture)\n"],
  .text "    assert dispatcher.requests == []\n"]⟩

/-- A method that sends and receives JSON. -/
def jsonMethod : Template := ⟨"json_method.py.j2", [
  .text "    def ", .put (.name "method_name"), .text "(self",
  .test (.name "input_type")
    [.text ", input: ", .put (.name "input_type")]
    [],
  .text ") -> _future.ServiceFuture[", .put (.orText (.name "output_type") "None"), .text "]:\n",
  .test (.name "documentation")
    [.text "        \"\"\"", .put (.name "documentation"), .text "\"\"\"\n"]
    [],
  .text "        request = _request.SignedRequest(\n",
  .text "            \"POST\", \"", .put (.name "signing_name"),
  .text "\", self.region, \"/\", endpoint_prefix=\"", .put (.name "endpoint_prefix"),
  .text "\"\n",
  .text "        )\n",
  .text "        request.set_content_type(\"application/x-amz-json-", .put (.name "json_version"),
  .text "\")\n",
  .text "        request.add_header(\"X-Amz-Target\", \"", .put (.name "target"), .text "\")\n",
  .test (.name "input_type")
    [.text "        request.set_payload(_serde.to_json(input))\n"]
    [.text "        request.set_payload(b\"\x7b\x7d\")\n"],
  .text "\n",
  .text "        def handle(response: _request.HttpResponse) -> ",
  .put (.orText (.name "output_type") "None"), .text ":\n",
  .text "            if response.status == _http.HTTPStatus.OK:\n",
  .test (.name "output_type")
    [.text "                return _serde.from_json(", .put (.name "output_type"),
      .text ", response.body)\n"]
    [.text "                return None\n"],
  .text "            raise ", .put (.name "error_type"), .text ".from_response(response)\n",
  .text "\n",
  .text "        return _future.ServiceFuture(\n",
  .text "            self.dispatcher,\n",
  .text "            self.credentials_provider,\n",
  .text "            request,\n",
  .text "            handle,\n",
  .text "            error_mapper=", .put (.name "error_type"), .text ".from_failure,\n",
  .text "        )\n"]⟩

/-- A method that sends a form and receives XML. -/
def queryMethod : Template := ⟨"query_method.py.j2", [
  .text "    def ", .put (.name "method_name"), .text "(self",
  .test (.name "input_type")
    [.text ", input: ", .put (.name "input_type")]
    [],
  .text ") -> _future.ServiceFuture[", .put (.orText (.name "output_type") "None"), .text "]:\n",
  .test (.name "documentation")
    [.text "        \"\"\"", .put (.name "documentation"), .text "\"\"\"\n"]
    [],
  .text "        request = _request.SignedRequest(\n",
  .text "            \"POST\", \"", .put (.name "signing_name"),
  .text "\", self.region, \"/\", endpoint_prefix=\"", .put (.name "endpoint_prefix"),
  .text "\"\n",
  .text "        )\n",
  .text "        params: _t.Dict[str, str] = \x7b\"Action\": \"", .put (.name "name"),
  .text "\", \"Version\": \"", .put (.name "api_version"), .text "\"\x7d\n",
  .test (.name "input_type")
    [.text "        ", .put (.name "serializer"), .text "(params, \"\", input)\n"]
    [],
  .text "        request.set_form_params(params)\n",
  .text "\n",
  .text "        def handle(response: _request.HttpResponse) -> ",
  .put (.orText (.name "output_type") "None"), .text ":\n",
  .text "            if response.status == _http.HTTPStatus.OK:\n",
  .test (.name "output_type")
    [.text "                root = _xml.parse(response.body)\n",
      .text "                return ", .put (.name "deserializer"),
      .text "(_xml.result_node(root, ", .put (.name "result_wrapper"), .text "))\n"]
    [.text "                return None\n"],
  .text "            raise ", .put (.name "error_type"), .text ".from_response(response)\n",
  .text "\n",
  .text "        return _future.ServiceFuture(\n",
  .text "            self.dispatcher,\n",
  .text "            self.credentials_provider,\n",
  .text "            request,\n",
  .text "            handle,\n",
  .text "            error_mapper=", .put (.name "error_type"), .text ".from_failure,\n",
  .text "        )\n"]⟩

/-- A method that sends its input where the members say. -/
def restMethod : Template := ⟨"rest_method.py.j2", [
  .text "    def ", .put (.name "method_name"), .text "(self",
  .test (.name "input_type")
    [.text ", input: ", .put (.name "input_type")]
    [],
  .text ") -> _future.ServiceFuture[", .put (.orText (.name "output_type") "None"), .text "]:\n",
  .test (.name "documentation")
    [.text "        \"\"\"", .put (.name "documentation"), .text "\"\"\"\n"]
    [],
  .test (.name "uri_values")
    [.text "        path = _params.expand_uri(\n",
      .text "            \"", .put (.name "request_uri"), .text "\",\n",
      .text "            \x7b\n",
      .each ["label", "expr"] (.name "uri_values") [
        .text "                \"", .put (.name "label"), .text "\": ", .put (.name "expr"),
        .text ",\n"],
      .text "            \x7d,\n",
      .text "        )\n"]
    [.text "        path = \"", .put (.name "request_uri"), .text "\"\n"],
  .text "        request = _request.SignedRequest(\n",
  .text "            \"", .put (.name "http_method"), .text "\", \"", .put (.name "signing_name"),
  .text "\", self.region, path, endpoint_prefix=\"", .put (.name "endpoint_prefix"), .text "\"\n",
  .text "        )\n",
  .test (.name "query_lines")
    [.text "        params: _t.Dict[str, str] = \x7b\x7d\n",
      .each ["line"] (.name "query_lines") [
        .text "        ", .put (.name "line"), .text "\n"],
      .text "        request.set_params(params)\n"]
    [],
  .each ["line"] (.name "header_lines") [
    .text "        ", .put (.name "line"), .text "\n"],
  .each ["line"] (.name "payload_lines") [
    .text "        ", .put (.name "line"), .text "\n"],
  .text "\n",
  .text "        def handle(response: _request.HttpResponse) -> ",
  .put (.orText (.name "output_type") "None"), .text ":\n",
  .text "            if _http.HTTPStatus.OK <= response.status < _http.HTTPStatus.MULTIPLE_CHOICES:\n",
  .each ["line"] (.name "response_lines") [
    .text "                ", .put (.name "line"), .text "\n"],
  .text "            raise ", .put (.name "error_type"), .text ".from_response(response)\n",
  .text "\n",
  .text "        return _future.ServiceFuture(\n",
  .text "            self.dispatcher,\n",
  .text "            self.credentials_provider,\n",
  .text "            request,\n",
  .text "            handle,\n",
  .text "            error_mapper=", .put (.name "error_type"), .text ".from_failure,\n",
  .text "        )\n"]⟩

/-- A function that writes a value into a form. -/
def formWriter : Template := ⟨"query_serializer.py.j2", [
  .text "def ", .put (.name "function"), .text "(params: _t.Dict[str, str], name: str, obj: ",
  .put (.name "type_name"), .text ") -> None:\n",
  .test (.isText (.name "kind") "structure")
    [
      .test (.name "fields")
        [.text "    prefix = f\"\x7bname\x7d.\" if name else \"\"\n",
          .each ["field"] (.name "fields") [
            .text "    if obj.", .put (.field "field" "name"), .text " is not None:\n",
            .text "        ", .put (.field "field" "statement"), .text "\n"]]
        [.text "    pass\n"]]
    [
      .test (.isText (.name "kind") "list")
        [.text "    for index, item in enumerate(obj, start=1):\n",
          .text "        ", .put (.name "item_statement"), .text "\n"]
        [.text "    for index, (key, value) in enumerate(obj.items(), start=1):\n",
          .text "        ", .put (.name "key_statement"), .text "\n",
          .text "        ", .put (.name "value_statement"), .text "\n"]]]⟩

/-- A function that writes a value as an XML element. -/
def xmlWriter : Template := ⟨"xml_serializer.py.j2", [
  .text "def ", .put (.name "function"), .text "(tag: str, obj: ", .put (.name "type_name"),
  .text ") -> _xml.Element:\n",
  .text "    node = _xml.element(tag)\n",
  .test (.isText (.name "kind") "structure")
    [
      .each ["field"] (.name "fields") [
        .text "    if obj.", .put (.field "field" "name"), .text " is not None:\n",
        .each ["line"] (.field "field" "lines") [
          .text "        ", .put (.name "line"), .text "\n"]]]
    [
      .test (.isText (.name "kind") "list")
        [.text "    for item in obj:\n",
          .text "        ", .put (.name "item_line"), .text "\n"]
        [.text "    for key, value in obj.items():\n",
          .text "        entry = _xml.child(node, \"entry\")\n",
          .text "        ", .put (.name "key_line"), .text "\n",
          .text "        ", .put (.name "value_line"), .text "\n"]],
  .text "    return node\n"]⟩

/-- A function that reads a value from an XML element. -/
def xmlReader : Template := ⟨"xml_deserializer.py.j2", [
  .text "def ", .put (.name "function"), .text "(", .put (.name "parameters"), .text ") -> ",
  .put (.name "type_name"), .text ":\n",
  .test (.isText (.name "kind") "structure")
    [
      .test (.name "fields")
        [.text "    return ", .put (.name "type_name"), .text "(\n",
          .each ["field"] (.name "fields") [
            .text "        ", .put (.field "field" "name"), .text "=",
            .put (.field "field" "expr"), .text ",\n"],
          .text "    )\n"]
        [.text "    return ", .put (.name "type_name"), .text "()\n"]]
    [
      .test (.isText (.name "kind") "list")
        [.text "    return _xml.items(node, \"", .put (.name "item_tag"), .text "\", ",
          .put (.name "item_parser"), .text ")\n"]
        [.text "    return _xml.entries(node, ", .put (.name "key_parser"), .text ", ",
          .put (.name "value_parser"), .text ")\n"]]]⟩

/-- All templates. -/
def bundled : List Template := [
  opening, protocolImports, typeAlias, record, errors, client, tests, jsonMethod, queryMethod,
  restMethod, formWriter, xmlWriter, xmlReader]

/-- The text of the template of the given name. -/
def renderNamed (name : String) (scope : Scope) : Except Fault String :=
  match bundled.find? (·.name == name) with
  | some template => template.render scope
  | none => .error (.noTemplate name)

end ServiceClient.Template
