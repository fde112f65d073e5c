import GraphNight.Runtime.AgentRuns

/-!
# What an agent run says it ended with

A run says it is complete exactly where its last response has no tool calls and was not cut.
That response need not be an answer: `Error`, and every finish reason the providers do not
know, count as the end of one. A run that says otherwise puts its notice under what it returns.
-/

namespace GraphNight

namespace Agent

open Llm

/-- A response without tool calls that was not cut at its length. -/
def TakenAsFinal (response : LlmResponse) : Prop := response.toolCalls = [] ∧ response.stopReason ≠ .maxTokens

/-- A vendor's reply gives no finish reason, or that of a normal end. -/
def EndsNormally : ProviderReply → Prop
  | .failed _ => False
  | .anthropic json => (json.field "stop_reason").asStr ∈ [none, some "end_turn", some "stop_sequence"]
  | .openAi json => ∀ choice, ((json.field "choices").asArray.getD []).head? = some choice →
      (choice.field "finish_reason").asStr ∈ [none, some "stop"]
  | .scripted response => response.stopReason = .endTurn ∨ response.stopReason = .stopSequence

/-- A valid final answer: no tool calls, no error, no cut and no other abnormal end. -/
structure ValidFinal (reply : ProviderReply) (response : LlmResponse) : Prop where
  noCalls : response.toolCalls = []
  noError : response.stopReason ≠ .error
  notCut : response.stopReason ≠ .maxTokens
  normal : EndsNormally reply

/-- A run that is reported as completed ended with a valid final answer. -/
def CompletesWithAnswer (ended : Ended) : Prop :=
  ended.run.stopReason = .completed →
    ∃ reply response, ended.log.getLast? = some (.responded reply response) ∧ ValidFinal reply response

/-- A run that ended otherwise is no success, and its text carries the notice. -/
def GivesNotice {ω : Type} (w : World ω) (ended : Ended) : Prop :=
  ended.run.stopReason ≠ .completed → ended.run.stopReason.isSuccess = false ∧
    ∀ text, ended.run.answer = some text → ∃ part, text = part ++
      ended.run.stopReason.notice ended.run.steps.length ended.run.usage.total (w.formatSecs ended.run.elapsed)

/-- The last event is a response that the loop takes as the end. -/
def FinalLast (parseJson : String → Option Value) (log : List Event) : Prop :=
  ∃ reply response, log.getLast? = some (.responded reply response) ∧ reply.complete parseJson = .ok response ∧
    TakenAsFinal response

/-- How a run has ended: complete exactly after a response that is taken as the end. -/
structure EndsAsTold {ω : Type} (w : World ω) (ended : Ended) : Prop where
  completed : ended.run.stopReason = .completed ↔ FinalLast w.parseJson ended.log
  notice : GivesNotice w ended

section

variable {ω : Type} {w : World ω} {a : Config} {s : LoopState}

theorem not_finalLast_executed {parseJson : String → Option Value} (log : List Event) (call : Llm.ToolCall)
    (result : Except ToolError Value) : ¬FinalLast parseJson (log ++ [.executed call result]) := by
  rintro ⟨reply, response, hlast, -⟩
  simp at hlast

theorem not_finalLast_requested {parseJson : String → Option Value} (log : List Event) (request : CompletionRequest) :
    ¬FinalLast parseJson (log ++ [.requested request]) := by
  rintro ⟨reply, response, hlast, -⟩
  simp at hlast

theorem finalLast_responded {parseJson : String → Option Value} (log : List Event) {reply : ProviderReply}
    {response : LlmResponse} (hcomplete : reply.complete parseJson = .ok response) :
    FinalLast parseJson (log ++ [.responded reply response]) ↔ TakenAsFinal response := by
  constructor
  · rintro ⟨reply', response', hlast, -, hfinal⟩
    simp only [List.getLast?_append, List.getLast?_singleton, Option.some_or, Option.some.injEq, Event.responded.injEq] at hlast
    rwa [hlast.2]
  · exact fun hfinal => ⟨reply, response, by simp, hcomplete, hfinal⟩

/-- The text of a partial answer ends with the notice. -/
theorem finish_notice (answer : Option String) (reason : StopReason) (s : LoopState) (env : ω) :
    GivesNotice w (finish w answer reason s env).1 := by
  intro hreason
  have hfails : reason.isSuccess = false := by
    cases reason with
    | completed => exact absurd rfl hreason
    | _ => rfl
  refine ⟨hfails, fun text htext => ?_⟩
  cases answer with
  | none => cases htext
  | some answer =>
    refine ⟨if Str.trim answer = "" then answer else answer ++ "\n\n", ?_⟩
    have htext' : some _ = some text := (if_neg (by rw [hfails]; exact Bool.false_ne_true)).symm.trans htext
    exact (Option.some.inj htext').symm

theorem stop_endsAsTold {answer : Option String} {reason : StopReason} {env : ω} {P : LoopState → Prop}
    (h : reason = .completed ↔ FinalLast w.parseJson s.log) : Leads (EndsAsTold w) P (stop w answer reason s env).1 :=
  ⟨h, finish_notice answer reason s env⟩

/-- Leaving the loop for a bound, where no response is taken as the end. -/
theorem stop_bound {answer : Option String} {reason : StopReason} {env : ω} {P : LoopState → Prop}
    (hreason : reason ≠ .completed) (h : ¬FinalLast w.parseJson s.log) :
    Leads (EndsAsTold w) P (stop w answer reason s env).1 :=
  stop_endsAsTold (iff_of_false hreason h)

/-- Tool calls leave no response as the end. -/
theorem callTools_endsAsTold {calls : List Llm.ToolCall} (h : ¬FinalLast w.parseJson s.log) (env : ω) :
    Leads (EndsAsTold w) (fun s' => ¬FinalLast w.parseJson s'.log) (callTools w a calls s env).1 := by
  induction calls generalizing s env with
  | nil => exact h
  | cons call calls ih =>
    unfold callTools
    dsimp only
    split
    · exact stop_bound (by decide) h
    · split
      · exact stop_bound (by decide) h
      · have hexecuted : ¬FinalLast w.parseJson (executeCall w call (countCall s call) (w.elapsed env).2).2.1.log :=
          not_finalLast_executed _ _ _
        generalize executeCall w call (countCall s call) (w.elapsed env).2 = executed at hexecuted ⊢
        obtain ⟨result, s', env'⟩ := executed
        dsimp only at hexecuted ⊢
        split
        · exact stop_bound (by decide) hexecuted
        · apply ih
          exact hexecuted

/-- A response is taken as the end, or leads to tool calls. -/
theorem answerTurn_endsAsTold {response : LlmResponse} (h : FinalLast w.parseJson s.log ↔ TakenAsFinal response) (env : ω) :
    Leads (EndsAsTold w) (fun s' => ¬FinalLast w.parseJson s'.log) (answerTurn w a response s env).1 := by
  unfold answerTurn
  dsimp only
  split
  · rename_i hcut
    exact stop_bound (by decide) fun hfinal => (h.1 hfinal).2 hcut
  · rename_i hnot
    split
    · rename_i hnone
      exact stop_endsAsTold (iff_of_true rfl (h.2 ⟨hnone, hnot⟩))
    · rename_i hcalls
      have hcalled : Leads (EndsAsTold w) (fun s' => ¬FinalLast w.parseJson s'.log)
          (callTools w a response.toolCalls { s with
            usage := s.usage.merge response.usage
            messages := s.messages ++ [.assistant response.content response.toolCalls] } env).1 := by
        apply callTools_endsAsTold
        exact fun hfinal => hcalls (h.1 hfinal).1
      generalize callTools w a response.toolCalls _ env = called at hcalled ⊢
      obtain ⟨_ | s', env'⟩ := called <;> exact hcalled

theorem turn_endsAsTold (h : ¬FinalLast w.parseJson s.log) (env : ω) :
    Leads (EndsAsTold w) (fun s' => ¬FinalLast w.parseJson s'.log) (turn w a s env).1 := by
  unfold turn
  dsimp only
  split
  · exact stop_bound (by decide) h
  · split
    · exact stop_bound (by decide) h
    · split
      · exact stop_bound (by decide) h
      · split
        · exact stop_bound (by decide) (not_finalLast_requested _ _)
        · rename_i reply _
          split
          · exact stop_bound (by decide) (not_finalLast_requested _ _)
          · exact stop_bound (by rintro ⟨⟩) (not_finalLast_requested _ _)
          · rename_i response hcomplete
            exact answerTurn_endsAsTold (finalLast_responded _ hcomplete) _

theorem loop_endsAsTold {fuel : Nat} {env env' : ω} {ended : Ended} (h : ¬FinalLast w.parseJson s.log)
    (hloop : loop w a fuel s env = some (ended, env')) : EndsAsTold w ended := by
  induction fuel generalizing s env with
  | zero => cases hloop
  | succ fuel ih =>
    have hturn := turn_endsAsTold (a := a) h env
    unfold loop at hloop
    generalize turn w a s env = turned at hturn hloop
    obtain ⟨ended' | s', env''⟩ := turned
    · obtain ⟨rfl, -⟩ := Prod.mk.inj (Option.some.inj hloop)
      exact hturn
    · exact ih hturn hloop

/-- What ends normally is no error. -/
theorem ne_error_of_endsNormally {parseJson : String → Option Value} {reply : ProviderReply} {response : LlmResponse}
    (hcomplete : reply.complete parseJson = .ok response) (h : EndsNormally reply) : response.stopReason ≠ .error := by
  cases reply with
  | failed e => cases hcomplete
  | anthropic json =>
    obtain rfl := Except.ok.inj hcomplete
    show anthropicStopReason _ ≠ .error
    unfold anthropicStopReason
    split <;> decide
  | openAi json =>
    change parseOpenAiResponse parseJson json = .ok response at hcomplete
    unfold parseOpenAiResponse at hcomplete
    split at hcomplete
    · cases hcomplete
    · obtain rfl := Except.ok.inj hcomplete
      show openAiStopReason _ ≠ .error
      unfold openAiStopReason
      split <;> decide
  | scripted response' =>
    obtain rfl := Except.ok.inj hcomplete
    rcases h with hend | hend <;> rw [hend] <;> decide

/-- **A run reported as completed ended with an answer** exactly where the response that it
takes as the end, if there is one, ends normally. Every other run is no success and gives
its notice. -/
theorem run_completes_with_answer {question : String} {env env' : ω} {fuel : Nat} {ended : Ended}
    (h : run w a question env fuel = some (ended, env')) :
    GivesNotice w ended ∧ (CompletesWithAnswer ended ↔ ∀ reply response,
      ended.log.getLast? = some (.responded reply response) → reply.complete w.parseJson = .ok response →
        TakenAsFinal response → EndsNormally reply) := by
  have hstart : ¬FinalLast w.parseJson ({ messages := [.user question] } : LoopState).log := by
    rintro ⟨reply, response, hlast, -⟩
    cases hlast
  have hended := loop_endsAsTold hstart h
  refine ⟨hended.notice, fun hcompletes reply response hlast hcomplete hfinal => ?_, fun hnormal hcompleted => ?_⟩
  · obtain ⟨reply', response', hlast', hvalid⟩ := hcompletes (hended.completed.2 ⟨reply, response, hlast, hcomplete, hfinal⟩)
    obtain ⟨rfl, -⟩ := Event.responded.inj (Option.some.inj (hlast.symm.trans hlast'))
    exact hvalid.normal
  · obtain ⟨reply, response, hlast, hcomplete, hfinal⟩ := hended.completed.1 hcompleted
    have hends := hnormal reply response hlast hcomplete hfinal
    exact ⟨reply, response, hlast, hfinal.1, ne_error_of_endsNormally hcomplete hends, hfinal.2, hends⟩

end

namespace Scripted

/-- A world of replies given one after the other. -/
def world : World (List ProviderReply) where
  elapsed replies := (0, replies)
  complete replies _ := (replies.head?, replies.tail)
  call replies _ := (.ok .null, replies)
  parseJson _ := none
  formatSecs _ := "0"

def config : Config := ⟨"model", {}, {}, "Answer from the data."⟩

/-- A choice of an OpenAI-compatible endpoint with a finish reason. -/
def choice (finishReason content : String) : Value :=
  .object [("choices", .array [.object [("finish_reason", .string finishReason),
    ("message", .object [("content", .string content)])]])]

def filtered : ProviderReply := .openAi (choice "content_filter" "Revenue was")

def failed : ProviderReply := .scripted { content := some "upstream closed", stopReason := .error }

def answered : ProviderReply := .openAi (choice "stop" "Revenue was 42.")

end Scripted

open Scripted in
/-- A filtered reply and an error are reported as completed answers. -/
theorem filtered_reply_completes :
    (∃ ended env', run world config "How much revenue?" [filtered] 2 = some (ended, env') ∧
      ended.run.answer = some "Revenue was" ∧ ¬CompletesWithAnswer ended) ∧
    ∃ ended env', run world config "How much revenue?" [failed] 2 = some (ended, env') ∧ ¬CompletesWithAnswer ended := by
  refine ⟨⟨_, _, rfl, rfl, fun h => ?_⟩, _, _, rfl, fun h => ?_⟩
  · obtain ⟨reply, response, hlast, hvalid⟩ := h rfl
    obtain ⟨rfl, -⟩ := Event.responded.inj (Option.some.inj hlast)
    exact absurd (hvalid.normal _ rfl) (by decide +kernel)
  · obtain ⟨reply, response, hlast, hvalid⟩ := h rfl
    obtain ⟨-, rfl⟩ := Event.responded.inj (Option.some.inj hlast)
    exact hvalid.noError rfl

open Scripted in
/-- A run that is answered. -/
theorem run_completes_with_answer_answered :
    ∃ ended env', run world config "How much revenue?" [answered] 2 = some (ended, env') ∧
      ended.run.stopReason = .completed ∧ CompletesWithAnswer ended := by
  obtain ⟨⟨ended, env'⟩, hrun⟩ : ∃ r, run world config "How much revenue?" [answered] 2 = some r := ⟨_, rfl⟩
  refine ⟨ended, env', hrun, ?_, (run_completes_with_answer hrun).2.2 ?_⟩
  · rw [← (Prod.mk.inj (Option.some.inj hrun)).1]
  rw [← (Prod.mk.inj (Option.some.inj hrun)).1]
  intro reply response hlast _ _
  obtain ⟨rfl, -⟩ := Event.responded.inj (Option.some.inj hlast)
  intro c hc
  obtain rfl := Option.some.inj hc
  decide +kernel

end Agent

end GraphNight
