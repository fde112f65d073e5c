import GraphNight.Core.Value
import GraphNight.Lib.Str
import GraphNight.Runtime.Tools

/-!
# The LLM provider layer (`graphnight-runtime/src/llm.rs`)

Messages, requests and responses, and what the providers make of a vendor's reply. The
transport with its retries is left out: a provider comes back with an error, or with the JSON
that a vendor answered.
-/

namespace GraphNight

namespace Value

/-- `json[key]`: `null` where there is no such field. -/
def field (v : Value) (key : String) : Value :=
  match v with
  | object fields => (fields.lookup key).getD .null
  | _ => .null

/-- `Value::as_u64`: a number written as an integer, if it fits. -/
def asU64 : Value → Option Nat
  | number text =>
    let digits := text.toList
    if digits ≠ [] ∧ digits.all Str.isAsciiDigit then
      let n := digits.foldl (fun n c => 10 * n + (c.toNat - '0'.toNat)) 0
      if n < UInt64.size then some n else none
    else none
  | _ => none

end Value

/-- `ToolError::to_json`, its fields in the map's order. -/
def ToolError.toJson (e : ToolError) : Value :=
  .object (("code", .string e.code) :: e.hint.toList.map (fun hint => ("hint", Value.string hint)) ++
    [("message", .string e.message)])

namespace Llm

/-- A tool invocation requested by the model. -/
structure ToolCall where
  id : String
  name : String
  /-- Raw JSON: untrusted input that has not been validated yet. -/
  arguments : Value
deriving DecidableEq

/-- One message in a conversation. -/
inductive ChatMessage where
  | system (content : String)
  | user (content : String)
  /-- A turn that requested tool calls. -/
  | assistant (content : Option String) (toolCalls : List ToolCall)
  /-- The result of a tool call, fed back to the model. -/
  | tool (toolCallId name : String) (content : Except String String)

def ChatMessage.toolResult (call : ToolCall) (content : Except String String) : ChatMessage :=
  .tool call.id call.name content

/-- A tool advertised to the model, without the schema of its input. -/
structure ToolDefinition where
  name : String
  description : String

/-- Token accounting for one response. -/
structure Usage where
  inputTokens : Nat := 0
  outputTokens : Nat := 0
deriving DecidableEq

namespace Usage

def total (u : Usage) : Nat := u.inputTokens + u.outputTokens

/-- Accumulate across an agent run. -/
def merge (u other : Usage) : Usage :=
  ⟨u.inputTokens + other.inputTokens, u.outputTokens + other.outputTokens⟩

end Usage

inductive StopReason where
  | endTurn
  | maxTokens
  | toolUse
  | stopSequence
  /-- The provider or transport failed; not a valid final answer. -/
  | error
deriving DecidableEq

/-- The model's reply. -/
structure LlmResponse where
  content : Option String
  toolCalls : List ToolCall := []
  usage : Usage := {}
  stopReason : StopReason := .endTurn
  model : String := ""
deriving DecidableEq

structure CompletionRequest where
  model : String
  messages : List ChatMessage
  tools : List ToolDefinition
  maxTokens : Nat
  system : Option String

inductive LlmError where
  | notConfigured
  | provider (reason : String)
  | timeout (secs : Nat)
  | rateLimited (secs : Nat)
  | unauthorized
  | contextTooLong (requested limit : Nat)
  | malformedResponse (reason : String)
  | invalid (reason : String)
deriving DecidableEq

/-- The text of an error. -/
def LlmError.message : LlmError → String
  | notConfigured => "no LLM provider is configured"
  | provider reason => "LLM request failed: " ++ reason
  | timeout secs => "LLM request timed out after " ++ toString secs ++ "s"
  | rateLimited secs => "rate limited; retry after " ++ toString secs ++ "s"
  | unauthorized => "authentication failed: check the configured API key"
  | contextTooLong requested limit =>
    "context length exceeded (" ++ toString requested ++ " tokens, limit " ++ toString limit ++ ")"
  | malformedResponse reason => "LLM response could not be parsed: " ++ reason
  | invalid reason => reason

/-! ## What a vendor answers -/

/-- The text of a block of Anthropic's, if it is one. -/
def blockText (block : Value) : Option String :=
  if (block.field "type").asStr = some "text" then (block.field "text").asStr else none

/-- The tool call of a block of Anthropic's, if it is one. -/
def blockToolCall (block : Value) : Option ToolCall :=
  if (block.field "type").asStr = some "tool_use" then
    some ⟨(block.field "id").asStr.getD "", (block.field "name").asStr.getD "", block.field "input"⟩
  else none

def anthropicStopReason : Option String → StopReason
  | some "tool_use" => .toolUse
  | some "max_tokens" => .maxTokens
  | some "stop_sequence" => .stopSequence
  | _ => .endTurn

def parseAnthropicResponse (json : Value) : LlmResponse :=
  let blocks := (json.field "content").asArray.getD []
  let content := String.join (blocks.filterMap blockText)
  { content := if content = "" then none else some content
    toolCalls := blocks.filterMap blockToolCall
    usage := ⟨((json.field "usage").field "input_tokens").asU64.getD 0,
      ((json.field "usage").field "output_tokens").asU64.getD 0⟩
    stopReason := anthropicStopReason (json.field "stop_reason").asStr
    model := (json.field "model").asStr.getD "" }

/-- A tool call of an OpenAI-compatible endpoint. Arguments that are no JSON are an empty
object; `parseJson` is `serde_json::from_str`. -/
def openAiToolCall (parseJson : String → Option Value) (tc : Value) : ToolCall :=
  let function := tc.field "function"
  let arguments := match (function.field "arguments").asStr with
    | some "" | none => .object []
    | some s => (parseJson s).getD (.object [])
  ⟨(tc.field "id").asStr.getD "", (function.field "name").asStr.getD "", arguments⟩

def openAiStopReason : Option String → StopReason
  | some "tool_calls" | some "function_call" => .toolUse
  | some "length" => .maxTokens
  | some "stop" => .endTurn
  | _ => .endTurn

def parseOpenAiResponse (parseJson : String → Option Value) (json : Value) : Except LlmError LlmResponse :=
  match ((json.field "choices").asArray.getD []).head? with
  | none => .error (.malformedResponse "response has no choices")
  | some choice =>
    let message := choice.field "message"
    .ok {
      content := (message.field "content").asStr
      toolCalls := ((message.field "tool_calls").asArray.getD []).map (openAiToolCall parseJson)
      usage := ⟨((json.field "usage").field "prompt_tokens").asU64.getD 0,
        ((json.field "usage").field "completion_tokens").asU64.getD 0⟩
      stopReason := openAiStopReason (choice.field "finish_reason").asStr
      model := (json.field "model").asStr.getD "" }

/-- What a provider has of its vendor: a failure, a vendor's JSON, or a response as it is. -/
inductive ProviderReply where
  | failed (e : LlmError)
  | anthropic (json : Value)
  | openAi (json : Value)
  | scripted (response : LlmResponse)

/-- What `complete` comes back with. -/
def ProviderReply.complete (parseJson : String → Option Value) : ProviderReply → Except LlmError LlmResponse
  | failed e => .error e
  | anthropic json => .ok (parseAnthropicResponse json)
  | openAi json => parseOpenAiResponse parseJson json
  | scripted response => .ok response

end Llm

end GraphNight
