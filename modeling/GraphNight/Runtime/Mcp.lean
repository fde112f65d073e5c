import GraphNight.Runtime.MutationGate
import GraphNight.Runtime.ToolJson

/-!
# The MCP server (`graphnight-runtime/src/mcp.rs`)

JSON-RPC over lines of text, onto the tool catalog. What `serde_json::from_str` makes of a
line is a parameter; a handler that panics replies nothing.
-/

namespace GraphNight

namespace Value

/-- `Value::get`. -/
def get (v : Value) (key : String) : Option Value :=
  match v with
  | object fields => fields.lookup key
  | _ => none

/-- A line break and the indentation after it. -/
def breakLine (depth : Nat) : String := "\n" ++ Str.join "" (List.replicate depth "  ")

mutual

/-- `serde_json::to_string_pretty`, at a depth. -/
def pretty (depth : Nat) : Value → String
  | array (v :: vs) => "[" ++ prettyItems (depth + 1) (v :: vs) ++ breakLine depth ++ "]"
  | object (e :: es) => "\x7b" ++ prettyFields (depth + 1) (e :: es) ++ breakLine depth ++ "\x7d"
  | v => v.toJson

def prettyItems (depth : Nat) : List Value → String
  | [] => ""
  | [v] => breakLine depth ++ pretty depth v
  | v :: w :: vs => breakLine depth ++ pretty depth v ++ "," ++ prettyItems depth (w :: vs)

def prettyFields (depth : Nat) : List (String × Value) → String
  | [] => ""
  | [(k, v)] => breakLine depth ++ quoteJson k ++ ": " ++ pretty depth v
  | (k, v) :: e :: es => breakLine depth ++ quoteJson k ++ ": " ++ pretty depth v ++ "," ++ prettyFields depth (e :: es)

end

end Value

namespace Mcp

def protocolVersion : String := "2024-11-05"

/-- A JSON-RPC request, as received on the wire. -/
structure JsonRpcRequest where
  jsonrpc : String
  /-- Absent for notifications, which expect no reply. -/
  id : Option Value
  method : String
  params : Value
deriving DecidableEq

structure JsonRpcError where
  code : Int
  message : String
  data : Option Value := none
deriving DecidableEq

/-- A JSON-RPC response; what it does not have is left out of the wire form. -/
structure JsonRpcResponse where
  jsonrpc : String := "2.0"
  id : Value
  result : Option Value := none
  error : Option JsonRpcError := none
deriving DecidableEq

namespace ErrorCodes

def parseError : Int := -32700

def invalidRequest : Int := -32600

def methodNotFound : Int := -32601

def invalidParams : Int := -32602

end ErrorCodes

open ErrorCodes

def JsonRpcError.toJson (e : JsonRpcError) : Value :=
  .object [("code", .number (toString e.code)), ("data", e.data.getD .null), ("message", .string e.message)]

namespace JsonRpcResponse

def ok (id result : Value) : JsonRpcResponse := { id, result := some result }

/-- A null id, for a request whose id could not be parsed. -/
def nullId (error : JsonRpcError) : JsonRpcResponse := { id := .null, error := some error }

def toJson (r : JsonRpcResponse) : Value :=
  .object (r.error.toList.map (fun e => ("error", e.toJson)) ++ [("id", r.id), ("jsonrpc", .string r.jsonrpc)] ++
    r.result.toList.map (fun v => ("result", v)))

end JsonRpcResponse

/-- `serde_json::from_str`: a value, or the text of the error. -/
abbrev JsonReader := String → Except String Value

/-- Parse one line of JSON-RPC input. -/
def parseRequest (fromStr : JsonReader) (line : String) : Except JsonRpcError JsonRpcRequest :=
  match fromStr (Str.trim line) with
  | .error e => .error ⟨parseError, "invalid JSON: " ++ e, none⟩
  | .ok (.object fields) =>
    let value := Value.object fields
    if value.field "jsonrpc" ≠ .string "2.0" then .error ⟨invalidRequest, "jsonrpc must be exactly \"2.0\"", none⟩
    else
      match (value.field "method").asStr with
      | none => .error ⟨invalidRequest, "request is missing `method`", none⟩
      | some method => .ok
        { jsonrpc := "2.0"
          id := (value.get "id").filter (· ≠ .null)
          method
          params := (value.get "params").getD .null }
  | .ok _ => .error ⟨invalidRequest, "request must be a JSON object", none⟩

/-- A line that arrives: who sends it, and what its handler is given from outside. -/
structure Arrival where
  ctx : CallContext
  line : String
  host : Host
  /-- The fresh id a stored memory gets. -/
  id : String := ""
  now : Int := 0
  /-- How long a query takes, in milliseconds. -/
  elapsed : Nat := 0

structure McpServer where
  catalog : ToolCatalog
  serverName : String := "graphnight"
  serverVersion : String := "2.0.0"

/-- What the server runs on. -/
structure Libraries where
  fromStr : JsonReader
  parser : ArgsParser
  std : RustStd
  texts : AnswerTexts

namespace McpServer

/-- What `initialize` answers. -/
def description (server : McpServer) : Value :=
  .object [("capabilities", .object [("tools", .object [("listChanged", .bool false)])]),
    ("instructions", .string ("Query the semantic layer through tools. " ++
      "Call search_models or list_models to find a model, get_model to read " ++
      "its real fields, validate_query before run_query, and run_query for " ++
      "rows. All queries are subject to the caller's access policy.")),
    ("protocolVersion", .string protocolVersion),
    ("serverInfo", .object [("name", .string server.serverName), ("version", .string server.serverVersion)])]

/-- `mcp_descriptors`. -/
def descriptors (server : McpServer) (t : AnswerTexts) : List Value :=
  server.catalog.specs.map fun spec => toolDescriptor t (spec.name, spec.description)

/-- The result of `tools/call`: the answer as text and as JSON. -/
def toolResult (answer : Value) (isError : Bool) : Value :=
  .object [("content", .array [.object [("text", .string (answer.pretty 0)), ("type", .string "text")]]),
    ("isError", .bool isError), ("structuredContent", answer)]

section

variable {σ : Type} (server : McpServer) (lib : Libraries) (b : Backend σ) (v : Server σ) (a : Arrival)

/-- The call of the catalog a `tools/call` makes. -/
def toolRequest (name : String) (arguments : Value) : ToolRequest where
  catalog := server.catalog
  embedCache := v.embedCache
  ctx := a.ctx
  host := a.host
  id := a.id
  now := a.now
  tool := name
  args := arguments

/-- A tool that fails is a call that succeeds, recorded in the audit trail. -/
def callTool (id : Value) (name : String) (arguments : Value) : Res Empty JsonRpcResponse × Server σ :=
  let (answer, v) := (server.toolRequest v a name arguments).call lib.parser b lib.std lib.texts.f32 v
  match answer with
  | .ok output => (.ok (.ok id (toolResult (output.toJson lib.texts a.elapsed) false)), v)
  | .error (.err e) => (.ok (.ok id (toolResult e.toJson true)),
      v.withService ((v.service b).audit a.ctx name 0 false (some e.code)))
  | .error .panic => (.error .panic, v)

/-- Handle a parsed request. -/
def handle (request : JsonRpcRequest) : Res Empty JsonRpcResponse × Server σ :=
  let id := request.id.getD .null
  match request.method with
  | "initialize" => (.ok (.ok id server.description), v)
  | "ping" => (.ok (.ok id (.object [])), v)
  | "tools/list" => (.ok (.ok id (.object [("tools", .array (server.descriptors lib.texts))])), v)
  | "tools/call" =>
    let name := (request.params.field "name").asStr.getD ""
    if name = "" then (.ok { id, error := some ⟨invalidParams, "tools/call requires `name`", none⟩ }, v)
    else server.callTool lib b v a id name ((request.params.get "arguments").getD (.object []))
  | "notifications/initialized" | "initialized" => (.ok (.ok id (.object [])), v)
  | other =>
    let supported := Value.object [("supported", Json.texts ["initialize", "ping", "tools/list", "tools/call"])]
    (.ok { id, error := some ⟨methodNotFound, "unknown method " ++ lib.std.debug other, some supported⟩ }, v)

/-- The response to one line, if there is one: a notification gets none. -/
def respond : Res Empty (Option JsonRpcResponse) × Server σ :=
  match parseRequest lib.fromStr a.line with
  | .error e => (.ok (some (.nullId e)), v)
  | .ok request =>
    match request.id with
    | none => (.ok none, v)
    | some _ =>
      let (response, v) := server.handle lib b v a request
      (response.map some, v)

/-- Handle one request line, returning the response line to write, if any. -/
def handleLine : Res Empty (Option String) × Server σ :=
  let (response, v) := server.respond lib b v a
  (response.map (·.map (·.toJson.toJson)), v)

end

/-- Lines handled one after the other, with what each is answered. -/
def session {σ : Type} (server : McpServer) (lib : Libraries) (b : Backend σ) :
    List Arrival → Server σ → List (Arrival × Res Empty (Option JsonRpcResponse)) × Server σ
  | [], v => ([], v)
  | a :: arrivals, v =>
    let (response, v) := server.respond lib b v a
    let (responses, v) := session server lib b arrivals v
    ((a, response) :: responses, v)

end McpServer

/-- The caller's context for a stdio connection. -/
def resolveContext (userId tenantId : Option String) (isAdmin authRequired : Bool) : CallContext where
  userId
  tenantId
  isAdmin
  authRequired
  principalLabel := some "mcp:stdio"

/-- The token of an `Authorization` header of the form `Bearer <token>`. -/
def bearerToken (header : Option String) : Option String := do
  let value := Str.trim (← header)
  let token ← (Str.stripPrefix value "Bearer ").or (Str.stripPrefix value "bearer ")
  let token := Str.trim token
  if token = "" then none else some token

end Mcp

end GraphNight
