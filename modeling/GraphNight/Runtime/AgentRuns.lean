import GraphNight.Runtime.Agent

/-!
# What an agent run does

Whatever the provider, the tools and the clock do, a run ends, stays inside its budgets and
sends well formed transcripts. It says it is complete where a response without tool calls
that was not cut ends it, whatever else the provider said of that response.
-/

namespace GraphNight

namespace Agent

open Llm

/-! ## Budgets and transcripts -/

/-- The usage recorded from the responses of a log. -/
def recordedUsage (log : List Event) : Usage :=
  log.foldl (fun u e => match e with
    | .responded _ response => u.merge response.usage
    | _ => u) {}

/-- How many of the last executed tool calls of a log failed in a row. -/
def failuresInARow (log : List Event) : Nat :=
  log.foldl (fun n e => match e with
    | .executed _ (.ok _) => 0
    | .executed _ (.error _) => n + 1
    | _ => n) 0

def Event.isRequest : Event → Bool
  | .requested _ => true
  | _ => false

/-- An execution of a call with the fingerprint. -/
def Event.isExecutionOf (print : String) : Event → Bool
  | .executed call _ => fingerprint call == print
  | _ => false

/-- Each call of an assistant's turn is answered by one tool message with its id, in order,
before anything else. -/
inductive Transcript (question : String) : List ChatMessage → Prop where
  | start : Transcript question [.user question]
  | turn {messages : List ChatMessage} {content : Option String} {calls : List Llm.ToolCall} {answers : List ChatMessage} :
      Transcript question messages →
      List.Forall₂ (fun call answer => ∃ result, answer = ChatMessage.toolResult call result) calls answers →
      Transcript question (messages ++ .assistant content calls :: answers)

/-- What a run may do after what it has done. -/
def Allowed (budget : AgentBudget) (question : String) (log : List Event) : Event → Prop
  | .requested request => log.countP Event.isRequest < budget.maxSteps ∧
      (recordedUsage log).total < budget.maxTokens ∧ Transcript question request.messages
  | .executed call _ => log.countP (Event.isExecutionOf (fingerprint call)) < budget.maxRepeatCalls ∧
      failuresInARow log ≤ budget.maxConsecutiveErrors
  | .responded .. => True

/-- A log within all budgets, of well formed transcripts. -/
structure Respects (budget : AgentBudget) (question : String) (log : List Event) : Prop where
  modelCalls : log.countP Event.isRequest ≤ budget.maxSteps
  repeats : ∀ print, log.countP (Event.isExecutionOf print) ≤ budget.maxRepeatCalls
  errors : ∀ before call result after, log = before ++ .executed call result :: after →
    failuresInARow before ≤ budget.maxConsecutiveErrors
  tokens : ∀ before request after, log = before ++ .requested request :: after →
    (recordedUsage before).total < budget.maxTokens
  transcripts : ∀ request, .requested request ∈ log → Transcript question request.messages

section

variable {budget : AgentBudget} {question : String} {log : List Event}

/-- A log of allowed events respects the budgets. -/
theorem Respects.of_allowed (h : History.EachAfter (Allowed budget question) log) : Respects budget question log where
  modelCalls := by
    apply History.EachAfter.countP_le
    intro before e after hsplit hrequest
    cases e with
    | requested request => exact (h before _ after hsplit).1
    | _ => cases hrequest
  repeats print := by
    apply History.EachAfter.countP_le
    intro before e after hsplit hexecuted
    cases e with
    | executed call result =>
      obtain rfl : fingerprint call = print := beq_iff_eq.1 hexecuted
      exact (h before _ after hsplit).1
    | _ => cases hexecuted
  errors before call result after hsplit := (h before _ after hsplit).2
  tokens before request after hsplit := (h before _ after hsplit).2.1
  transcripts request hmem := by
    obtain ⟨before, after, hsplit⟩ := List.append_of_mem hmem
    exact (h before _ after hsplit).2.2

@[simp] theorem recordedUsage_requested (request : CompletionRequest) :
    recordedUsage (log ++ [.requested request]) = recordedUsage log := by
  simp [recordedUsage]

@[simp] theorem recordedUsage_responded (reply : ProviderReply) (response : LlmResponse) :
    recordedUsage (log ++ [.responded reply response]) = (recordedUsage log).merge response.usage := by
  simp [recordedUsage]

@[simp] theorem recordedUsage_executed (call : Llm.ToolCall) (result : Except ToolError Value) :
    recordedUsage (log ++ [.executed call result]) = recordedUsage log := by
  simp [recordedUsage]

@[simp] theorem failuresInARow_requested (request : CompletionRequest) :
    failuresInARow (log ++ [.requested request]) = failuresInARow log := by
  simp [failuresInARow]

@[simp] theorem failuresInARow_responded (reply : ProviderReply) (response : LlmResponse) :
    failuresInARow (log ++ [.responded reply response]) = failuresInARow log := by
  simp [failuresInARow]

@[simp] theorem failuresInARow_executed (call : Llm.ToolCall) (result : Except ToolError Value) :
    failuresInARow (log ++ [.executed call result]) = match result with
      | .ok _ => 0
      | .error _ => failuresInARow log + 1 := by
  cases result <;> simp [failuresInARow]

/-! ## The loop invariant -/

/-- What the variables of the loop say of the log, with so many requests made. -/
structure LoopInv (budget : AgentBudget) (question : String) (requests : Nat) (s : LoopState) : Prop where
  allowed : History.EachAfter (Allowed budget question) s.log
  requests : s.log.countP Event.isRequest = requests
  usage : recordedUsage s.log = s.usage
  failures : failuresInARow s.log = s.consecutiveErrors
  counts : ∀ print, s.log.countP (Event.isExecutionOf print) = ((s.callCounts.get print).map (·.2)).getD 0

/-- The loop goes on in a state that satisfies `P`, or the run has ended in `E`. -/
def Leads (E : Ended → Prop) (P : LoopState → Prop) : Except Ended LoopState → Prop
  | .ok s => P s
  | .error ended => E ended

theorem Leads.imp {E : Ended → Prop} {P Q : LoopState → Prop} {r : Except Ended LoopState} (h : Leads E P r)
    (hPQ : ∀ s, P s → Q s) : Leads E Q r := by
  cases r with
  | error ended => exact h
  | ok s => exact hPQ s h

/-- A run that has done nothing it may not. -/
def EndedInside (budget : AgentBudget) (question : String) (ended : Ended) : Prop :=
  History.EachAfter (Allowed budget question) ended.log

/-- The loop at the head of a turn. -/
structure AtHead (budget : AgentBudget) (question : String) (s : LoopState) : Prop where
  inv : LoopInv budget question s.stepIndex s
  tolerated : s.consecutiveErrors ≤ budget.maxConsecutiveErrors
  transcript : Transcript question s.messages

/-- The loop among the tool calls of a turn's response, with some of them left. -/
structure AtCalls (budget : AgentBudget) (question : String) (turn : Nat) (left : List Llm.ToolCall) (s : LoopState) :
    Prop where
  inv : LoopInv budget question (turn + 1) s
  stepIndex : s.stepIndex = turn
  tolerated : s.consecutiveErrors ≤ budget.maxConsecutiveErrors
  transcript : ∃ messages content done answers, Transcript question messages ∧
    s.messages = messages ++ .assistant content (done ++ left) :: answers ∧
    List.Forall₂ (fun call answer => ∃ result, answer = ChatMessage.toolResult call result) done answers

end

section

variable {ω : Type} {w : World ω} {a : Config} {question : String} {s : LoopState} {requests : Nat}

theorem LoopInv.requested (h : LoopInv a.budget question requests s) {request : CompletionRequest}
    (hallowed : Allowed a.budget question s.log (.requested request)) :
    LoopInv a.budget question (requests + 1) { s with log := s.log ++ [.requested request] } where
  allowed := h.allowed.snoc hallowed
  requests := by
    rw [List.countP_append, h.requests]
    rfl
  usage := by rw [recordedUsage_requested, h.usage]
  failures := by rw [failuresInARow_requested, h.failures]
  counts print := by
    rw [List.countP_append, h.counts]
    rfl

theorem LoopInv.responded (h : LoopInv a.budget question requests s) (reply : ProviderReply) (response : LlmResponse) :
    LoopInv a.budget question requests
      { s with usage := s.usage.merge response.usage, log := s.log ++ [.responded reply response] } where
  allowed := h.allowed.snoc trivial
  requests := by
    rw [List.countP_append, h.requests]
    rfl
  usage := by rw [recordedUsage_responded, h.usage]
  failures := by rw [failuresInARow_responded, h.failures]
  counts print := by
    rw [List.countP_append, h.counts]
    rfl

/-- A call that is not repeated too often is counted and executed. -/
theorem LoopInv.executeCall (h : LoopInv a.budget question requests s)
    (htolerated : s.consecutiveErrors ≤ a.budget.maxConsecutiveErrors) {call : Llm.ToolCall}
    (hrepeat : timesSeen s call ≤ a.budget.maxRepeatCalls) (env : ω) :
    LoopInv a.budget question requests (executeCall w call (countCall s call) env).2.1 := by
  unfold Agent.executeCall
  dsimp only
  generalize (w.call (w.elapsed env).2 call).1 = result
  constructor
  · apply h.allowed.snoc
    constructor
    · rw [h.counts]
      exact hrepeat
    · rwa [h.failures]
  · show (s.log ++ [Event.executed call result]).countP Event.isRequest = requests
    rw [List.countP_append, h.requests]
    rfl
  · show recordedUsage (s.log ++ [.executed call result]) = s.usage
    rw [recordedUsage_executed, h.usage]
  · show failuresInARow (s.log ++ [.executed call result]) = _
    rw [failuresInARow_executed, h.failures]
    rfl
  · intro print
    show (s.log ++ [Event.executed call result]).countP (Event.isExecutionOf print) =
      (((s.callCounts.insert (fingerprint call, timesSeen s call)).get print).map (·.2)).getD 0
    rw [List.countP_append, List.countP_singleton, h.counts, KeyedList.get_insert]
    by_cases hprint : fingerprint call = print
    · subst hprint
      simp [Event.isExecutionOf, timesSeen]
    · simp [Event.isExecutionOf, hprint]

theorem executeCall_kept (call : Llm.ToolCall) (s : LoopState) (env : ω) :
    (executeCall w call s env).2.1.messages = s.messages ∧ (executeCall w call s env).2.1.stepIndex = s.stepIndex :=
  ⟨rfl, rfl⟩

/-- **The tool calls of a response**: all of them answered, or the run ended. -/
theorem AtCalls.callTools {left : List Llm.ToolCall} {turn : Nat} (h : AtCalls a.budget question turn left s) (env : ω) :
    Leads (EndedInside a.budget question) (AtCalls a.budget question turn []) (callTools w a left s env).1 := by
  induction left generalizing s env with
  | nil => exact h
  | cons call left ih =>
    obtain ⟨messages, content, done, answers, hbase, hmessages, hanswers⟩ := h.transcript
    unfold Agent.callTools
    dsimp only
    split
    · exact h.inv.allowed
    · split
      · exact h.inv.allowed
      · rename_i hrepeat
        have hinv := h.inv.executeCall (w := w) h.tolerated (Nat.le_of_not_lt hrepeat) (w.elapsed env).2
        obtain ⟨hsame, hindex⟩ := executeCall_kept (w := w) call (countCall s call) (w.elapsed env).2
        generalize executeCall w call (countCall s call) (w.elapsed env).2 = executed at hinv hsame hindex ⊢
        obtain ⟨result, s', env'⟩ := executed
        dsimp only at hinv hsame hindex ⊢
        split
        · exact hinv.allowed
        · rename_i herrors
          -- the result goes under the call it answers
          apply ih
          refine ⟨?_, hindex.trans h.stepIndex, Nat.le_of_not_lt herrors, messages, content, done ++ [call],
            answers ++ [.toolResult call (resultContent result)], hbase, ?_, ?_⟩
          · exact ⟨hinv.allowed, hinv.requests, hinv.usage, hinv.failures, hinv.counts⟩
          · show s'.messages ++ [_] = _
            rw [hsame, show (countCall s call).messages = s.messages from rfl, hmessages]
            simp
          · exact List.rel_append hanswers (.cons ⟨_, rfl⟩ .nil)

/-- A response leads to an answer, or to the head of the next turn. -/
theorem AtHead.answerTurn {turn : Nat} {response : LlmResponse} (hturn : s.stepIndex = turn)
    (hinv : LoopInv a.budget question (turn + 1) { s with usage := s.usage.merge response.usage })
    (htolerated : s.consecutiveErrors ≤ a.budget.maxConsecutiveErrors) (htranscript : Transcript question s.messages)
    (env : ω) : Leads (EndedInside a.budget question) (fun s' => s'.stepIndex = turn + 1 ∧ AtHead a.budget question s')
      (answerTurn w a response s env).1 := by
  unfold Agent.answerTurn
  dsimp only
  split
  · exact hinv.allowed
  · split
    · exact hinv.allowed
    · have hcalls : AtCalls a.budget question turn response.toolCalls
          { s with
            usage := s.usage.merge response.usage
            messages := s.messages ++ [.assistant response.content response.toolCalls] } :=
        ⟨⟨hinv.allowed, hinv.requests, hinv.usage, hinv.failures, hinv.counts⟩, hturn, htolerated,
          s.messages, response.content, [], [], htranscript, rfl, .nil⟩
      have hdone := hcalls.callTools (w := w) env
      generalize Agent.callTools w a response.toolCalls _ env = called at hdone ⊢
      obtain ⟨_ | s', env'⟩ := called
      · exact hdone
      · obtain ⟨messages, content, done, answers, hbase, hmessages, hanswers⟩ := hdone.transcript
        refine ⟨congrArg (· + 1) hdone.stepIndex, ?_, hdone.tolerated, ?_⟩
        · rw [hdone.stepIndex]
          exact ⟨hdone.inv.allowed, hdone.inv.requests, hdone.inv.usage, hdone.inv.failures, hdone.inv.counts⟩
        · rw [hmessages, List.append_nil]
          exact .turn hbase hanswers

/-- **A turn of the loop.** -/
theorem AtHead.turn (h : AtHead a.budget question s) (env : ω) :
    Leads (EndedInside a.budget question) (fun s' => s.stepIndex < a.budget.maxSteps ∧ s'.stepIndex = s.stepIndex + 1 ∧
      AtHead a.budget question s') (turn w a s env).1 := by
  unfold Agent.turn
  split
  · exact h.inv.allowed
  · rename_i hsteps
    split
    · exact h.inv.allowed
    · rename_i htokens
      dsimp only
      split
      · exact h.inv.allowed
      · have hallowed : Allowed a.budget question s.log (.requested (request a s)) := by
          refine ⟨?_, ?_, h.transcript⟩
          · rw [h.inv.requests]
            exact Nat.lt_of_not_le hsteps
          · rw [h.inv.usage]
            exact Nat.lt_of_not_le htokens
        have hrequest := h.inv.requested hallowed
        split
        · exact hrequest.allowed
        · rename_i reply _
          split
          · exact hrequest.allowed
          · exact hrequest.allowed
          · rename_i response _
            refine Leads.imp ?_ fun s' (hs' : s'.stepIndex = s.stepIndex + 1 ∧ AtHead a.budget question s') =>
              ⟨Nat.lt_of_not_le hsteps, hs'⟩
            apply AtHead.answerTurn rfl
            · exact hrequest.responded reply response
            · exact h.tolerated
            · exact h.transcript

/-- Enough turns end a run, inside its budgets. -/
theorem AtHead.loop (h : AtHead a.budget question s) (env : ω) (hindex : s.stepIndex ≤ a.budget.maxSteps) {fuel : Nat}
    (hfuel : a.budget.maxSteps < s.stepIndex + fuel) :
    ∃ ended env', loop w a fuel s env = some (ended, env') ∧ EndedInside a.budget question ended := by
  induction fuel generalizing s env with
  | zero => omega
  | succ fuel ih =>
    have hturn := h.turn (w := w) env
    unfold Agent.loop
    generalize Agent.turn w a s env = turned at hturn ⊢
    obtain ⟨ended | s', env'⟩ := turned
    · exact ⟨ended, env', rfl, hturn⟩
    · obtain ⟨hsteps, hnext, hhead⟩ := hturn
      exact ih hhead env' (by omega) (by omega)

theorem atHead_start (budget : AgentBudget) (question : String) : AtHead budget question { messages := [.user question] } where
  inv := ⟨.nil, rfl, rfl, rfl, fun _ => rfl⟩
  tolerated := Nat.zero_le _
  transcript := .start

end

/-- Turns that are not needed are not taken. -/
theorem loop_mono {ω : Type} {w : World ω} {a : Config} {s : LoopState} {env : ω} {r : Ended × ω} {fuel fuel' : Nat}
    (h : loop w a fuel s env = some r) (hle : fuel ≤ fuel') : loop w a fuel' s env = some r := by
  induction fuel generalizing s env fuel' with
  | zero => cases h
  | succ fuel ih =>
    cases fuel' with
    | zero => omega
    | succ fuel' =>
      unfold loop at h ⊢
      generalize turn w a s env = turned at h ⊢
      obtain ⟨ended | s', env'⟩ := turned
      · exact h
      · exact ih h (Nat.le_of_succ_le_succ hle)

/-- **The agent loop respects its budgets**, whatever the world does: after one turn more than
there are steps a run has ended, and its log is within every budget, of well formed
transcripts. -/
theorem run_respects_budgets {ω : Type} (w : World ω) (a : Config) (question : String) (env : ω) :
    ∃ ended env', (∀ spare, run w a question env (a.budget.maxSteps + 1 + spare) = some (ended, env')) ∧
      Respects a.budget question ended.log := by
  have hfuel : a.budget.maxSteps < 0 + (a.budget.maxSteps + 1) := by omega
  obtain ⟨ended, env', hrun, hallowed⟩ := (atHead_start a.budget question).loop (w := w) env (Nat.zero_le _) hfuel
  exact ⟨ended, env', fun spare => loop_mono hrun (Nat.le_add_right _ spare), .of_allowed hallowed⟩

end Agent

end GraphNight
