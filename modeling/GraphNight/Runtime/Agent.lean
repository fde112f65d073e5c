import GraphNight.Lib.History
import GraphNight.Runtime.Catalog
import GraphNight.Runtime.Llm

/-!
# The bounded agent loop (`graphnight-runtime/src/agent.rs`)

A loop that calls a model, runs the tools it asks for and feeds the results back, until an
answer or a bound ends it. The provider, the tools and the clock are the outside world,
which may do anything. The log of a run is not the source's: it keeps what the loop asked
the world for and what it was answered. Counters are natural numbers.
-/

namespace GraphNight

/-- Hard limits on one agent run. -/
structure AgentBudget where
  maxSteps : Nat := 12
  maxTokens : Nat := 200000
  /-- In nanoseconds. -/
  maxDuration : Nat := 120000000000
  maxOutputTokens : Nat := 4096
  /-- Identical tool calls allowed before the run is cut off. -/
  maxRepeatCalls : Nat := 2
  maxConsecutiveErrors : Nat := 3

namespace Agent

open Llm

inductive StopReason where
  /-- The model produced a final answer. -/
  | completed
  | maxSteps
  | tokenBudget
  | timeout
  | repeatedCalls
  | consecutiveErrors
  /-- The model stopped mid-thought. -/
  | truncated
  | providerError (reason : String)
deriving DecidableEq

namespace StopReason

/-- Whether the run produced a usable answer. -/
def isSuccess : StopReason → Bool
  | completed => true
  | _ => false

/-- A plain-language explanation, for appending to a partial answer. -/
def notice (steps tokens : Nat) (elapsed : String) : StopReason → String
  | completed => "Completed."
  | maxSteps => "Stopped after " ++ toString steps ++ " steps without a final answer."
  | tokenBudget => "Stopped after using " ++ toString tokens ++ " tokens."
  | timeout => "Stopped after " ++ elapsed ++ "s."
  | repeatedCalls => "Stopped because the agent repeated the same call."
  | consecutiveErrors => "Stopped after repeated tool failures."
  | truncated => "The response was cut off before it finished."
  | providerError e => "Model call failed: " ++ e

end StopReason

/-- One executed tool call. -/
structure StepRecord where
  step : Nat
  tool : String
  arguments : Value
  result : Except ToolError Value
  durationMs : Nat

/-- The outcome of a run. -/
structure AgentRun where
  answer : Option String
  stopReason : StopReason
  steps : List StepRecord
  usage : Usage
  elapsed : Nat
  /-- Tool names called, in order, deduplicated. -/
  toolsUsed : List String

/-- The provider, the tools and the clock, in a state of their own: what a run finds
outside. Nothing of a provider is a call that overran the time that was left. -/
structure World (ω : Type) where
  elapsed : ω → Nat × ω
  complete : ω → CompletionRequest → Option ProviderReply × ω
  call : ω → Llm.ToolCall → Except ToolError Value × ω
  parseJson : String → Option Value
  /-- Nanoseconds as seconds without decimals. -/
  formatSecs : Nat → String

/-- A configured agent. -/
structure Config where
  defaultModel : String
  catalog : ToolCatalog
  budget : AgentBudget
  systemPrompt : String

def Config.toolDefinitions (a : Config) : List ToolDefinition :=
  a.catalog.specs.map fun spec => ⟨spec.name, spec.description⟩

/-- What happens between a run and the world. -/
inductive Event where
  | requested (request : CompletionRequest)
  | responded (reply : ProviderReply) (response : LlmResponse)
  | executed (call : Llm.ToolCall) (result : Except ToolError Value)

/-- The variables of the loop, and the log. -/
structure LoopState where
  messages : List ChatMessage
  usage : Usage := {}
  steps : List StepRecord := []
  toolsUsed : List String := []
  /-- Fingerprint and times seen. -/
  callCounts : KeyedList (String × Nat) Prod.fst := .empty
  consecutiveErrors : Nat := 0
  stepIndex : Nat := 0
  log : List Event := []

/-- A run that has ended, with its log. -/
structure Ended where
  run : AgentRun
  log : List Event

/-- What a tool call is recognised by. -/
def fingerprint (call : Llm.ToolCall) : String := call.name ++ ":" ++ call.arguments.toJson

/-- The content of a tool message: JSON either way. -/
def resultContent : Except ToolError Value → Except String String
  | .ok v => .ok v.toJson
  | .error e => .error e.toJson.toJson

/-- A name noted once. -/
def noteTool (toolsUsed : List String) (name : String) : List String :=
  if toolsUsed.contains name then toolsUsed else toolsUsed ++ [name]

section

variable {ω : Type} (w : World ω) (a : Config)

/-- End a run; a partial answer gets an explicit notice. -/
def finish (answer : Option String) (reason : StopReason) (s : LoopState) (env : ω) : Ended × ω :=
  let (elapsed, env) := w.elapsed env
  let answer := match answer with
    | some text =>
      if reason.isSuccess then some text
      else
        let notice := reason.notice s.steps.length s.usage.total (w.formatSecs elapsed)
        some ((if Str.trim text = "" then text else text ++ "\n\n") ++ notice)
    | none => none
  (⟨⟨answer, reason, s.steps, s.usage, elapsed, s.toolsUsed⟩, s.log⟩, env)

/-- Leave the loop. -/
def stop (answer : Option String) (reason : StopReason) (s : LoopState) (env : ω) : Except Ended LoopState × ω :=
  let (ended, env) := finish w answer reason s env
  (.error ended, env)

/-- How often a call has been asked for, this time included. -/
def timesSeen (s : LoopState) (call : Llm.ToolCall) : Nat := ((s.callCounts.get (fingerprint call)).map (·.2)).getD 0 + 1

def countCall (s : LoopState) (call : Llm.ToolCall) : LoopState :=
  { s with callCounts := s.callCounts.insert (fingerprint call, timesSeen s call) }

/-- A tool call has been executed: the log, and the failures in a row. -/
def noteResult (s : LoopState) (call : Llm.ToolCall) (result : Except ToolError Value) : LoopState :=
  { s with
    consecutiveErrors := match result with
      | .ok _ => 0
      | .error _ => s.consecutiveErrors + 1
    log := s.log ++ [.executed call result] }

/-- The record of an executed call. -/
def addStep (s : LoopState) (call : Llm.ToolCall) (result : Except ToolError Value) (durationMs : Nat) : LoopState :=
  { s with
    steps := s.steps ++ [⟨s.stepIndex, call.name, call.arguments, result, durationMs⟩]
    toolsUsed := noteTool s.toolsUsed call.name }

/-- Execute a tool call: its result, and the record of it. -/
def executeCall (call : Llm.ToolCall) (s : LoopState) (env : ω) : Except ToolError Value × LoopState × ω :=
  let (started, env) := w.elapsed env
  let (result, env) := w.call env call
  let (ended, env) := w.elapsed env
  (result, addStep (noteResult s call result) call result ((ended - started) / 1000000), env)

/-- Run the tool calls of a response, in order. -/
def callTools : List Llm.ToolCall → LoopState → ω → Except Ended LoopState × ω
  | [], s, env => (.ok s, env)
  | call :: calls, s, env =>
    let (elapsed, env) := w.elapsed env
    if a.budget.maxDuration ≤ elapsed then stop w none .timeout s env
    else
      -- repeats are counted before executing
      if a.budget.maxRepeatCalls < timesSeen s call then stop w none .repeatedCalls (countCall s call) env
      else
        let (result, s, env) := executeCall w call (countCall s call) env
        if a.budget.maxConsecutiveErrors < s.consecutiveErrors then stop w none .consecutiveErrors s env
        else callTools calls { s with messages := s.messages ++ [.toolResult call (resultContent result)] } env

/-- What a response leads to: an answer, or tool calls and another turn. -/
def answerTurn (response : LlmResponse) (s : LoopState) (env : ω) : Except Ended LoopState × ω :=
  let s := { s with usage := s.usage.merge response.usage }
  if response.stopReason = .maxTokens then stop w response.content .truncated s env
  else if response.toolCalls = [] then stop w response.content .completed s env
  else
    let s := { s with messages := s.messages ++ [.assistant response.content response.toolCalls] }
    match callTools w a response.toolCalls s env with
    | (.ok s, env) => (.ok { s with stepIndex := s.stepIndex + 1 }, env)
    | (.error ended, env) => (.error ended, env)

/-- The request of a turn. -/
def request (s : LoopState) : CompletionRequest where
  model := a.defaultModel
  messages := s.messages
  tools := a.toolDefinitions
  maxTokens := a.budget.maxOutputTokens
  system := some a.systemPrompt

/-- One turn of the loop: the bounds are checked before spending anything. -/
def turn (s : LoopState) (env : ω) : Except Ended LoopState × ω :=
  if a.budget.maxSteps ≤ s.stepIndex then stop w none .maxSteps s env
  else if a.budget.maxTokens ≤ s.usage.total then stop w none .tokenBudget s env
  else
    let (elapsed, env) := w.elapsed env
    if a.budget.maxDuration ≤ elapsed then stop w none .timeout s env
    else
      let (reply, env) := w.complete env (request a s)
      let s := { s with log := s.log ++ [.requested (request a s)] }
      match reply with
      | none => stop w none .timeout s env
      | some reply =>
        match reply.complete w.parseJson with
        | .error (.timeout _) => stop w none .timeout s env
        | .error e => stop w none (.providerError e.message) s env
        | .ok response => answerTurn w a response { s with log := s.log ++ [.responded reply response] } env

/-- Turns until one ends the run, if so many are enough. -/
def loop : Nat → LoopState → ω → Option (Ended × ω)
  | 0, _, _ => none
  | fuel + 1, s, env =>
    match turn w a s env with
    | (.error ended, env) => some (ended, env)
    | (.ok s, env) => loop fuel s env

/-- Run the agent against a question. -/
def run (question : String) (env : ω) (fuel : Nat) : Option (Ended × ω) :=
  loop w a fuel { messages := [.user question] } env

end

end Agent

end GraphNight
