import GraphNight.Lib.Utf8
import GraphNight.Runtime.Llm

/-!
# What a provider sends and reads (`graphnight-runtime/src/llm.rs`)

The messages of a request as the two vendors take them, with the tool calls of earlier turns in
them, and the texts of failures. What else a body holds (the model, the limits, the tools) is
left out: no call is written there.
-/

namespace GraphNight

namespace Llm

/-! ## The messages of a body -/

/-- A tool call in a message of Anthropic's. -/
def anthropicToolUse (tc : ToolCall) : Value :=
  .object [("id", .string tc.id), ("input", tc.arguments), ("name", .string tc.name), ("type", .string "tool_use")]

def anthropicText (text : String) : Value := .object [("text", .string text), ("type", .string "text")]

/-- The text of a result, failed or not. -/
def resultText : Except String String → String
  | .ok v => v
  | .error e => e

/-- A message as Anthropic takes it; the system prompt goes out of band. -/
def anthropicMessage : ChatMessage → Option Value
  | .system _ => none
  | .user content => some (.object [("content", .array [anthropicText content]), ("role", .string "user")])
  | .assistant content toolCalls =>
    let texts := (content.filter (· ≠ "")).toList.map anthropicText
    some (.object [("content", .array (texts ++ toolCalls.map anthropicToolUse)), ("role", .string "assistant")])
  | .tool toolCallId _ content =>
    let result : Value := .object [("content", .string (resultText content)), ("is_error", .bool (!content.isOk)),
      ("tool_use_id", .string toolCallId), ("type", .string "tool_result")]
    some (.object [("content", .array [result]), ("role", .string "user")])

/-- The `messages` of `AnthropicProvider::to_body`. -/
def anthropicMessages (req : CompletionRequest) : List Value := req.messages.filterMap anthropicMessage

/-- A tool call in a message of an OpenAI-compatible endpoint: its arguments are JSON within JSON. -/
def openAiFunction (tc : ToolCall) : Value :=
  .object [("function", .object [("arguments", .string tc.arguments.toJson), ("name", .string tc.name)]),
    ("id", .string tc.id), ("type", .string "function")]

def openAiSystem (content : String) : Value := .object [("content", .string content), ("role", .string "system")]

def openAiMessage : ChatMessage → Value
  | .system content => openAiSystem content
  | .user content => .object [("content", .string content), ("role", .string "user")]
  | .assistant content toolCalls =>
    let calls := if toolCalls.isEmpty then [] else [("tool_calls", Value.array (toolCalls.map openAiFunction))]
    .object ([("content", .string (content.getD "")), ("role", .string "assistant")] ++ calls)
  | .tool toolCallId _ content =>
    .object [("content", .string (resultText content)), ("role", .string "tool"), ("tool_call_id", .string toolCallId)]

/-- The `messages` of `OpenAiCompatibleProvider::to_body`. -/
def openAiMessages (req : CompletionRequest) : List Value :=
  req.system.toList.map openAiSystem ++ req.messages.map openAiMessage

/-! ## Calls written and read back -/

theorem blockToolCall_anthropicText (text : String) : blockToolCall (anthropicText text) = none := rfl

/-- **A turn's calls are read back from the message Anthropic takes.** -/
theorem parseAnthropicResponse_assistant (content : Option String) (calls : List ToolCall) :
    ∃ m, anthropicMessage (.assistant content calls) = some m ∧ (parseAnthropicResponse m).toolCalls = calls := by
  refine ⟨_, rfl, ?_⟩
  show (((content.filter (· ≠ "")).toList.map anthropicText) ++ calls.map anthropicToolUse).filterMap blockToolCall = calls
  have htexts : ((content.filter (· ≠ "")).toList.map anthropicText).filterMap blockToolCall = [] := by
    rw [List.filterMap_map]
    exact List.filterMap_eq_nil_iff.2 fun text _ => blockToolCall_anthropicText text
  have hcalls : (calls.map anthropicToolUse).filterMap blockToolCall = calls := by
    rw [List.filterMap_map]
    exact List.filterMap_some
  rw [List.filterMap_append, htexts, hcalls, List.nil_append]

/-- The text of an object is no empty one. -/
theorem toJson_object_ne (fields : List (String × Value)) : (Value.object fields).toJson ≠ "" := by
  intro h
  have hlist := congrArg String.toList h
  simp [Value.toJson] at hlist

/-- The reply whose message is the given one. -/
def asReply (m : Value) : Value := .object [("choices", .array [.object [("message", m)]])]

/-- Arguments that are a text are read as JSON. -/
theorem arguments_of_text {parseJson : String → Option Value} {tc : Value} {s : String}
    (h : ((tc.field "function").field "arguments").asStr = some s) (hne : s ≠ "") :
    (openAiToolCall parseJson tc).arguments = (parseJson s).getD (.object []) := by
  unfold openAiToolCall
  dsimp only
  rw [h]
  split
  · next heq => exact absurd (Option.some.inj heq) hne
  · next heq => cases heq
  · next s' _ heq => rw [Option.some.inj heq]

theorem openAiToolCall_openAiFunction {parseJson : String → Option Value} {tc : ToolCall}
    (hobject : ∃ fields, tc.arguments = .object fields) (hprint : parseJson tc.arguments.toJson = some tc.arguments) :
    openAiToolCall parseJson (openAiFunction tc) = tc := by
  obtain ⟨fields, hfields⟩ := hobject
  have hne : tc.arguments.toJson ≠ "" := by
    rw [hfields]
    exact toJson_object_ne fields
  have harguments : (openAiToolCall parseJson (openAiFunction tc)).arguments = tc.arguments := by
    rw [arguments_of_text (s := tc.arguments.toJson) rfl hne, hprint, Option.getD_some]
  calc
    openAiToolCall parseJson (openAiFunction tc) = ⟨tc.id, tc.name, (openAiToolCall parseJson (openAiFunction tc)).arguments⟩ := rfl
    _ = tc := by rw [harguments]

/-- **A turn's calls are read back from the message of an OpenAI-compatible endpoint.** -/
theorem parseOpenAiResponse_assistant {parseJson : String → Option Value} (content : Option String) {calls : List ToolCall}
    (hobject : ∀ tc ∈ calls, ∃ fields, tc.arguments = .object fields)
    (hprint : ∀ tc ∈ calls, parseJson tc.arguments.toJson = some tc.arguments) :
    ∃ response, parseOpenAiResponse parseJson (asReply (openAiMessage (.assistant content calls))) = .ok response ∧
      response.toolCalls = calls := by
  refine ⟨_, rfl, ?_⟩
  cases calls with
  | nil => rfl
  | cons tc rest =>
    show ((tc :: rest).map openAiFunction).map (openAiToolCall parseJson) = tc :: rest
    rw [List.map_map]
    refine (List.map_congr_left fun call hcall => ?_).trans (List.map_id _)
    exact openAiToolCall_openAiFunction (hobject call hcall) (hprint call hcall)

/-! ## Arguments that are no JSON -/

/-- The tool calls of a reply, as the vendor wrote them. -/
def openAiCalls (json : Value) : List Value :=
  match ((json.field "choices").asArray.getD []).head? with
  | none => []
  | some choice => ((choice.field "message").field "tool_calls").asArray.getD []

/-- Arguments that are a text, but no JSON and not left empty. -/
def Malformed (parseJson : String → Option Value) (tc : Value) : Prop :=
  ∃ s, ((tc.field "function").field "arguments").asStr = some s ∧ s ≠ "" ∧ parseJson s = none

/-- No call of a reply whose arguments are no JSON is handed on as a call without arguments. -/
def KeepsMalformed (parseJson : String → Option Value) (json : Value) : Prop :=
  ∀ response, parseOpenAiResponse parseJson json = .ok response → ∀ (i : Nat) (tc : Value) (call : ToolCall),
    (openAiCalls json)[i]? = some tc → response.toolCalls[i]? = some call → Malformed parseJson tc → call.arguments ≠ .object []

theorem toolCalls_of_parse {parseJson : String → Option Value} {json : Value} {response : LlmResponse}
    (h : parseOpenAiResponse parseJson json = .ok response) : response.toolCalls = (openAiCalls json).map (openAiToolCall parseJson) := by
  cases hchoice : ((json.field "choices").asArray.getD []).head? with
  | none =>
    simp only [parseOpenAiResponse, hchoice] at h
    cases h
  | some choice =>
    simp only [parseOpenAiResponse, hchoice] at h
    obtain rfl := Except.ok.inj h
    simp only [openAiCalls, hchoice]

/-- A call whose arguments are no JSON is handed on without arguments. -/
theorem arguments_of_malformed {parseJson : String → Option Value} {tc : Value} (h : Malformed parseJson tc) :
    (openAiToolCall parseJson tc).arguments = .object [] := by
  obtain ⟨s, hs, hne, hparse⟩ := h
  rw [arguments_of_text hs hne, hparse, Option.getD_none]

/-- A reply whose calls are read at all is a reply that parses. -/
theorem exists_parse {parseJson : String → Option Value} {json : Value} {tc : Value} (h : tc ∈ openAiCalls json) :
    ∃ response, parseOpenAiResponse parseJson json = .ok response := by
  cases hchoice : ((json.field "choices").asArray.getD []).head? with
  | none =>
    simp only [openAiCalls, hchoice] at h
    cases h
  | some choice =>
    simp only [parseOpenAiResponse, hchoice]
    exact ⟨_, rfl⟩

theorem keepsMalformed_iff {parseJson : String → Option Value} {json : Value} :
    KeepsMalformed parseJson json ↔ ∀ tc ∈ openAiCalls json, ¬Malformed parseJson tc := by
  constructor
  · intro hkeeps tc hmem hmalformed
    obtain ⟨response, hparse⟩ := @exists_parse parseJson json tc hmem
    obtain ⟨i, hi⟩ := List.mem_iff_getElem?.1 hmem
    have hcall : response.toolCalls[i]? = some (openAiToolCall parseJson tc) := by
      rw [toolCalls_of_parse hparse, List.getElem?_map, hi]
      rfl
    exact hkeeps response hparse i tc _ hi hcall hmalformed (arguments_of_malformed hmalformed)
  · intro hnone response _ i tc _ htc _ hmalformed
    exact absurd hmalformed (hnone tc (List.mem_of_getElem? htc))

/-- What the transport owes to the calls of a conversation and of a reply. -/
structure TransportFaithful (parseJson : String → Option Value) (json : Value) : Prop where
  openAi : ∀ (req : CompletionRequest) (before after : List ChatMessage) (content : Option String) (calls : List ToolCall),
    req.messages = before ++ .assistant content calls :: after →
    (∀ tc ∈ calls, (∃ fields, tc.arguments = .object fields) ∧ parseJson tc.arguments.toJson = some tc.arguments) →
    ∃ m response, openAiMessages req = req.system.toList.map openAiSystem ++ before.map openAiMessage ++ m :: after.map openAiMessage ∧
      parseOpenAiResponse parseJson (asReply m) = .ok response ∧ response.toolCalls = calls
  anthropic : ∀ (req : CompletionRequest) (before after : List ChatMessage) (content : Option String) (calls : List ToolCall),
    req.messages = before ++ .assistant content calls :: after →
    ∃ m, anthropicMessages req = before.filterMap anthropicMessage ++ m :: after.filterMap anthropicMessage ∧
      (parseAnthropicResponse m).toolCalls = calls
  /-- Anthropic's arguments are JSON, not a text of it, and are handed on as they are. -/
  asTheyAre : ∀ call ∈ (parseAnthropicResponse json).toolCalls,
    ∃ block ∈ ((json.field "content").asArray.getD []), call.arguments = block.field "input"
  keepsMalformed : KeepsMalformed parseJson json

theorem arguments_of_blockToolCall {block : Value} {call : ToolCall} (h : blockToolCall block = some call) :
    call.arguments = block.field "input" := by
  unfold blockToolCall at h
  split at h
  · obtain rfl := Option.some.inj h
    rfl
  · cases h

/-- **The transport keeps every call, but for replies with arguments that are no JSON.** -/
theorem transport_faithful_iff (parseJson : String → Option Value) (json : Value) :
    TransportFaithful parseJson json ↔ ∀ tc ∈ openAiCalls json, ¬Malformed parseJson tc := by
  constructor
  · exact fun h => keepsMalformed_iff.1 h.keepsMalformed
  · intro hnone
    refine ⟨?_, ?_, ?_, keepsMalformed_iff.2 hnone⟩
    · intro req before after content calls hmessages hcalls
      obtain ⟨response, hparse, hread⟩ := @parseOpenAiResponse_assistant parseJson content calls
        (fun tc htc => (hcalls tc htc).1) (fun tc htc => (hcalls tc htc).2)
      refine ⟨_, response, ?_, hparse, hread⟩
      rw [openAiMessages, hmessages, List.map_append, List.map_cons, List.append_assoc]
    · intro req before after content calls hmessages
      obtain ⟨m, hm, hread⟩ := parseAnthropicResponse_assistant content calls
      refine ⟨m, ?_, hread⟩
      rw [anthropicMessages, hmessages, List.filterMap_append, List.filterMap_cons_some hm]
    · intro call hcall
      obtain ⟨block, hblock, hread⟩ := List.mem_filterMap.1 hcall
      exact ⟨block, hblock, arguments_of_blockToolCall hread⟩

/-- A call cut off within its arguments runs without any. -/
theorem cut_off_call_emptied :
    let cut : Value := .object [("function", .object [("arguments", .string "\x7b\"limit\": 10, \"na"), ("name", .string "query")]),
      ("id", .string "c1")]
    let json := asReply (.object [("tool_calls", .array [cut])])
    let parseJson : String → Option Value := fun s => if s = "\x7b\x7d" then some (.object []) else none
    (parseOpenAiResponse parseJson json).toOption.map (·.toolCalls) = some [⟨"c1", "query", .object []⟩] ∧
      ¬TransportFaithful parseJson json := by
  refine ⟨by decide +kernel, fun h => ?_⟩
  exact h.keepsMalformed _ rfl 0 _ _ rfl rfl ⟨_, rfl, by decide, by decide⟩ rfl

/-! ## The texts of failures -/

/-- The last boundary at or before an offset, looked for backwards. -/
def lastBoundary (cs : List Char) : Nat → Nat
  | 0 => 0
  | n + 1 => if (Utf8.sliceTo cs (n + 1)).isSome then n + 1 else lastBoundary cs n

/-- `truncate`; `none` is a panic of the slice. -/
def truncate (s : String) (max : Nat) : Option String :=
  if Utf8.size s.toList ≤ max then some s
  else (Utf8.sliceTo s.toList (lastBoundary s.toList max)).map fun before => String.ofList (before ++ ['…'])

theorem lastBoundary_le (cs : List Char) (n : Nat) : lastBoundary cs n ≤ n := by
  induction n with
  | zero => exact le_rfl
  | succ n ih =>
    rw [lastBoundary]
    split
    · exact le_rfl
    · exact Nat.le_succ_of_le ih

theorem lastBoundary_isBoundary (cs : List Char) (n : Nat) : Utf8.IsBoundary cs (lastBoundary cs n) := by
  induction n with
  | zero => exact ⟨[], cs, rfl, rfl⟩
  | succ n ih =>
    rw [lastBoundary]
    split
    · next h => exact Utf8.sliceTo_isSome.1 h
    · exact ih

/-- No boundary is stepped over. -/
theorem le_lastBoundary {cs : List Char} {k n : Nat} (hk : Utf8.IsBoundary cs k) (hle : k ≤ n) : k ≤ lastBoundary cs n := by
  induction n with
  | zero => exact hle
  | succ n ih =>
    rw [lastBoundary]
    split
    · exact hle
    · next hnot =>
      have hne : k ≠ n + 1 := by
        rintro rfl
        exact hnot (Utf8.sliceTo_isSome.2 hk)
      exact ih (by omega)

/-- Of two beginnings of a text, the one with fewer bytes begins the other. -/
theorem prefix_of_size_le {cs before after before' after' : List Char} (h : cs = before ++ after) (h' : cs = before' ++ after')
    (hle : Utf8.size before' ≤ Utf8.size before) : before' <+: before := by
  have hprefix : before <+: cs := ⟨after, h.symm⟩
  have hprefix' : before' <+: cs := ⟨after', h'.symm⟩
  obtain hshort | ⟨more, hmore⟩ := List.prefix_or_prefix_of_prefix hprefix' hprefix
  · exact hshort
  · have hsize : Utf8.size before + Utf8.size more = Utf8.size before' := by rw [← Utf8.size_append, hmore]
    obtain rfl : more = [] := Utf8.size_eq_zero.1 (by omega)
    rw [← hmore, List.append_nil]

/-- **A text is cut at the last boundary within the limit**, if it does not fit. -/
theorem truncate_spec (s : String) (max : Nat) :
    ∃ t, truncate s max = some t ∧ (Utf8.size s.toList ≤ max → t = s) ∧
      (max < Utf8.size s.toList → ∃ before after, s.toList = before ++ after ∧ Utf8.size before ≤ max ∧
        t = String.ofList (before ++ ['…']) ∧
        ∀ before' after', s.toList = before' ++ after' → Utf8.size before' ≤ max → before' <+: before) := by
  by_cases hfits : Utf8.size s.toList ≤ max
  · exact ⟨s, if_pos hfits, fun _ => rfl, fun h => absurd hfits (by omega)⟩
  · obtain ⟨before, after, happ, hsize⟩ := lastBoundary_isBoundary s.toList max
    have hslice : Utf8.sliceTo s.toList (lastBoundary s.toList max) = some before := Utf8.sliceTo_eq_some.2 ⟨after, happ, hsize⟩
    refine ⟨String.ofList (before ++ ['…']), ?_, fun h => absurd h hfits, fun _ => ⟨before, after, happ, ?_, rfl, ?_⟩⟩
    · rw [truncate, if_neg hfits, hslice]
      rfl
    · rw [hsize]
      exact lastBoundary_le _ _
    · intro before' after' happ' hle
      have hlast := le_lastBoundary ⟨before', after', happ', rfl⟩ hle
      exact prefix_of_size_le happ happ' (by omega)

example : truncate "aééé" 4 = some "aé…" := by decide +kernel

end Llm

end GraphNight
