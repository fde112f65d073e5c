import GraphNight.Runtime.Discovery
import GraphNight.Runtime.Memory

/-!
# The agent tools (`graphnight-runtime/src/tools.rs`)

A tool takes its arguments as `parse_args` reads them and returns the fields of its JSON
result.
-/

namespace GraphNight

/-- A tool failure rendered for machine consumption. -/
structure ToolError where
  code : String
  message : String
  hint : Option String := none
deriving DecidableEq, Repr

/-- `impl From<ServiceError> for ToolError`. -/
def ToolError.ofService (e : ServiceError) : ToolError :=
  match e with
  | .modelNotFound m => ⟨"MODEL_NOT_FOUND", e.message, some
      ("Call search_models to find the right model, or list_models to see all available models. Unknown model: " ++ m)⟩
  | .datasourceNotFound d => ⟨"DATASOURCE_NOT_FOUND", e.message, some
      ("Call list_datasources to see registered datasources. Missing: " ++ d)⟩
  | .unauthenticated _ => ⟨"UNAUTHENTICATED", e.message, some
      ("No valid credentials were presented. This is not a permissions " ++
        "problem and retrying will not help; obtain an API key first.")⟩
  | .policyViolation _ => ⟨"POLICY_VIOLATION", e.message, some
      ("This caller is not permitted to access that model or datasource. " ++
        "Do not retry; report the restriction.")⟩
  | .invalidQuery q => ⟨"INVALID_QUERY", e.message, some q⟩
  | .timeout s => ⟨"TIMEOUT", e.message, some
      ("Query exceeded " ++ toString s ++ "s. Narrow the time range or add filters, then retry once.")⟩
  | .execution x => ⟨"EXECUTION_FAILED", e.message, some x⟩
  | .storage _ => ⟨"STORAGE_ERROR", e.message, none⟩
  | .unknownTool t => ⟨"UNKNOWN_TOOL", e.message, some
      ("Unknown tool " ++ t ++ ". Call tools_list to see available tools.")⟩
  | .invalid x => ⟨"INVALID_ARGUMENT", e.message, some x⟩

/-- The semantic query an agent submits, in the shorthand agents write. -/
structure ToolQuery where
  /-- Model to query. -/
  name : Option String := none
  measures : List String := []
  dimensions : List String := []
  /-- Time dimensions with granularity, e.g. `created_at@month`. -/
  timeDimensions : List String := []
  /-- Filters as `field:operator:value`. -/
  filters : List String := []
  /-- `field:asc` or `field:desc`. -/
  order : List String := []
  limit : Option Nat := none
  offset : Option Nat := none
  /-- A previous stage of a multi-stage query. -/
  stageRef : Option String := none
deriving DecidableEq, Repr

structure RecallMemoriesInput where
  /-- Free-text query; ranked by relevance, recency and importance. -/
  query : Option String := none
  /-- Only memories linked to this entity. -/
  entity : Option String := none
  limit : Option Nat := none
deriving DecidableEq, Repr

structure RememberInput where
  /-- The fact or learning to store. -/
  text : String
  linkedEntities : List String := []
  kind : Option String := none
  importance : Option Rat := none
  description : Option String := none
deriving DecidableEq, Repr

structure RecallOutput where
  memories : List MemoryRecord
  count : Nat
deriving DecidableEq, Repr

structure RememberOutput where
  id : String
  stored : Bool
deriving DecidableEq, Repr

namespace ToolCatalog

section

variable {σ : Type} (b : Backend σ) (f : F32) (s : σ) (ctx : CallContext)

/-- Over-fetched from storage, dropped by scope, cut to the limit. -/
def recallMemories (input : RecallMemoriesInput) (now : Int) : Res ToolError RecallOutput := do
  let limit := input.limit.getD 10
  let filter : MemoryFilter :=
    { query := input.query, entity := input.entity, limit := some (max (usizeSaturatingMul limit 4) 20) }
  let memories ← (b.listMemories s filter).mapErr fun e => ⟨"MEMORY_READ_FAILED", e, none⟩
  let visible := (MemoryRecord.ranked f (memories.map (MemoryRecord.fromStorage f)) ctx input.query now).take limit
  return ⟨visible, visible.length⟩

/-- A write, which needs someone to attribute it to. -/
def rememberRecord (input : RememberInput) (id : String) (now : Int) : Res ToolError MemoryRecord := do
  ctx.requireAuthenticated.mapErr ToolError.ofService
  (MemoryRecord.fromAgentInput input.text input.linkedEntities input.kind input.importance input.description
    ctx id now).mapErr ToolError.ofService

def remember (input : RememberInput) (id : String) (now : Int) : Res ToolError RememberOutput × σ :=
  match rememberRecord ctx input id now with
  | .error e => (.error e, s)
  | .ok record =>
    let (saved, s) := b.saveMemory s (record.toStorage f)
    (saved.mapErr (fun e => ⟨"MEMORY_WRITE_FAILED", e, none⟩) |>.map fun m => ⟨m.id, true⟩, s)

end

end ToolCatalog

end GraphNight
