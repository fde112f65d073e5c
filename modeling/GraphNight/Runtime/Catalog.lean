import GraphNight.Runtime.Embedding
import GraphNight.Runtime.MultiStage
import GraphNight.Runtime.Suggest

/-!
# The tool catalog (`graphnight-runtime/src/tools.rs`)

Every tool an agent can call, on the state of one process. The arguments of a call are
what `parse_args` makes of its JSON; a result is the fields of the JSON object returned.
The schemas of the inputs and the version of the server are left out.
-/

namespace GraphNight

/-! ## Inputs -/

structure ListModelsInput where
  datasource : Option String := none
deriving DecidableEq, Repr

structure SearchModelsInput where
  q : String
  limit : Option Nat := none
  datasource : Option String := none
deriving DecidableEq, Repr

structure GetModelInput where
  name : String
  datasource : Option String := none
deriving DecidableEq, Repr

structure RunQueryInput where
  query : ToolQuery
  dryRun : Option Bool := none
  explain : Option Bool := none
  /-- Row cap for this call, clamped by the session policy. -/
  maxRows : Option Nat := none
deriving DecidableEq, Repr

structure MultiStageInput where
  stages : List ToolQuery
  dryRun : Option Bool := none
deriving DecidableEq, Repr

structure MeasureInput where
  formula : String
  aggregation : String
  label : Option String := none
  format : Option String := none
deriving DecidableEq, Repr

structure DimensionInput where
  name : String
  label : Option String := none
deriving DecidableEq, Repr

structure TimeDimensionInput where
  dimension : String
  granularity : String
  label : Option String := none
deriving DecidableEq, Repr

structure CreateModelInput where
  name : String
  datasource : String
  description : Option String := none
  measures : List MeasureInput := []
  dimensions : List DimensionInput := []
  timeDimensions : List TimeDimensionInput := []
  /-- Base table or view, ignored when `sql` is set. -/
  baseTable : Option String := none
  sql : Option String := none
deriving DecidableEq, Repr

structure UpdateModelInput where
  name : String
  description : Option String := none
  measures : Option (List MeasureInput) := none
  dimensions : Option (List DimensionInput) := none
  timeDimensions : Option (List TimeDimensionInput) := none
  baseTable : Option String := none
  sql : Option String := none
deriving DecidableEq, Repr

structure CreateDatasourceInput where
  name : String
  driver : String
  /-- Treated as a secret, never echoed back. -/
  connectionString : String
  description : Option String := none
  poolSize : Option Nat := none
deriving DecidableEq, Repr

structure UpdateDatasourceInput where
  name : String
  description : Option String := none
  connectionString : Option String := none
  poolSize : Option Nat := none
deriving DecidableEq, Repr

/-- A call of a tool by name, its arguments parsed. -/
inductive ToolCall where
  | getCapabilities
  | toolsList
  | listModels (input : ListModelsInput)
  | searchModels (input : SearchModelsInput)
  | getModel (input : GetModelInput)
  | validateQuery (query : ToolQuery)
  | runQuery (input : RunQueryInput)
  | multiStageQuery (input : MultiStageInput)
  | recallMemories (input : RecallMemoriesInput)
  | remember (input : RememberInput)
  | createModel (input : CreateModelInput)
  | updateModel (input : UpdateModelInput)
  | deleteModel (name : String) (datasource : Option String)
  | createDatasource (input : CreateDatasourceInput)
  | updateDatasource (input : UpdateDatasourceInput)
  | deleteDatasource (name : String)
  /-- A tool of the catalog with arguments that do not parse. -/
  | unparsed (tool reason : String)
  /-- A name that is no tool's. -/
  | unknown (tool : String)
deriving DecidableEq, Repr

def ToolCall.name : ToolCall → String
  | getCapabilities => "get_capabilities"
  | toolsList => "tools_list"
  | listModels _ => "list_models"
  | searchModels _ => "search_models"
  | getModel _ => "get_model"
  | validateQuery _ => "validate_query"
  | runQuery _ => "run_query"
  | multiStageQuery _ => "multi_stage_query"
  | recallMemories _ => "recall_memories"
  | remember _ => "remember"
  | createModel _ => "create_model"
  | updateModel _ => "update_model"
  | deleteModel .. => "delete_model"
  | createDatasource _ => "create_datasource"
  | updateDatasource _ => "update_datasource"
  | deleteDatasource _ => "delete_datasource"
  | unparsed tool _ | unknown tool => tool

/-- The tools that author the semantic layer. -/
def ToolCall.mutating : ToolCall → Bool
  | createModel _ | updateModel _ | deleteModel .. | createDatasource _ | updateDatasource _ | deleteDatasource _ => true
  | _ => false

/-- A call of a tool of the catalog with arguments that parse. -/
def ToolCall.Known : ToolCall → Prop
  | unparsed .. | unknown _ => False
  | _ => True

/-! ## Outputs -/

/-- What `get_capabilities` says that is not the same for everybody. -/
structure Capabilities where
  defaultMaxRows : Nat
  policyMaxRows : Option Nat
  queryTimeoutSecs : Option Nat
  rowLevelSecurity : Bool
  forcedFilters : Nat
  columnMasks : Nat
  allowedModels : Option (List String)
  allowedDatasources : Option (List String)
  mutationsEnabled : Bool
deriving DecidableEq, Repr

structure ModelSummary where
  name : String
  datasource : String
  description : Option String
  measureCount : Nat
  dimensionCount : Nat
deriving DecidableEq, Repr

structure ModelHit where
  model : String
  datasource : String
  score : Rat
  matchedFields : List String
  snippet : String
  retrieval : String
deriving DecidableEq, Repr

/-- The full schema of a model. -/
structure ModelSchema where
  name : String
  datasource : String
  description : Option String
  /-- Formula, aggregation, label and format. -/
  measures : List (String × String × Option String × Option String)
  /-- Name and label. -/
  dimensions : List (String × Option String)
  /-- Dimension, granularity and label. -/
  timeDimensions : List (String × String × Option String)
  /-- Name, model, join type and alias. -/
  joins : List (String × String × String × String)
  exampleQueries : List Value
deriving DecidableEq, Repr

structure StageRows where
  stage : Nat
  columns : List String
  rows : List Value
  rowCount : Nat
  sql : Option GeneratedSql
  dialect : String
deriving DecidableEq, Repr

/-- The JSON object a tool returns. -/
inductive ToolOutput where
  | capabilities (c : Capabilities)
  /-- Name and description of every tool. -/
  | tools (descriptors : List (String × String))
  | models (models : List ModelSummary)
  | results (results : List ModelHit) (retrieval : String)
  | schema (model : ModelSchema)
  | valid (sql : Option GeneratedSql) (dialect : String)
  | invalid (error : ToolError)
  | rows (columns : List String) (rows : List Value) (rowCount : Nat) (truncated : Bool) (nextOffset : Option Nat)
      (dialect : String) (sql : Option GeneratedSql)
  | stages (stages : List StageRows) (dryRun : Bool)
  | memories (out : RecallOutput)
  | remembered (out : RememberOutput)
  | created (name : String)
  | createdDatasource (name driver : String) (poolSize : Option Nat)
  | updated (name : String)
  | deleted (name : String)
deriving DecidableEq, Repr

/-! ## The catalog -/

/-- Static description of one tool. -/
structure ToolSpec where
  name : String
  description : String
  /-- Mutating tools require `allow_mutations` on the catalog. -/
  mutating : Bool
deriving DecidableEq, Repr

/-- The tools GraphNight exposes to agents, in discovery order. -/
def builtinTools : List ToolSpec :=
  let mutationNote := " Only available when the operator has enabled semantic layer mutations."
  [⟨"get_capabilities", "Describe this server: supported SQL dialects, aggregations, time granularities, " ++
      "filter operators, formula functions and row limits. Call this first if unsure what is supported.", false⟩,
    ⟨"search_models", "Search models by intent, e.g. \"monthly revenue by store\". Returns ranked model names " ++
      "with matching fields and snippets. Start here when the model name is unknown.", false⟩,
    ⟨"list_models", "List the semantic models this caller may query. Use when you know the domain but not the " ++
      "model name.", false⟩,
    ⟨"get_model", "Get a model's full schema: measures with formulas and aggregations, dimensions, time " ++
      "dimensions, joins, plus worked example queries. Always call this before run_query so you use real " ++
      "field names.", false⟩,
    ⟨"validate_query", "Validate and compile a query without executing it. Returns precise errors and " ++
      "did-you-mean suggestions. Cheaper than run_query; use it to check a query first.", false⟩,
    ⟨"run_query", "Run a governed semantic query and return rows. Subject to the caller's row limit, forced " ++
      "filters, row-level security and column masks. Set dry_run=true to compile without executing.", false⟩,
    ⟨"multi_stage_query", "Run an ordered pipeline of queries as a DAG, where a stage may filter on a previous " ++
      "stage's output via stage_ref. Use for cohort and funnel analyses.", false⟩,
    ⟨"recall_memories", "Recall stored learnings and facts relevant to a query, ranked by relevance, recency " ++
      "and importance. Call before answering from memory.", false⟩,
    ⟨"remember", "Store a durable learning, fact or episode with its linked entities, so future sessions can " ++
      "recall it.", false⟩,
    ⟨"tools_list", "List the tools available to this caller, with descriptions and JSON Schemas.", false⟩,
    ⟨"create_model", "Define a new semantic model: its measures, dimensions and time dimensions over a " ++
      "datasource." ++ mutationNote, true⟩,
    ⟨"update_model", "Change an existing model's measures, dimensions or SQL. Only fields you supply are " ++
      "changed." ++ mutationNote, true⟩,
    ⟨"delete_model", "Delete a semantic model. This cannot be undone." ++ mutationNote, true⟩,
    ⟨"create_datasource", "Register a new datasource connection. The connection string is stored but never " ++
      "returned." ++ mutationNote, true⟩,
    ⟨"update_datasource", "Update a datasource's description, connection string or pool size." ++ mutationNote, true⟩,
    ⟨"delete_datasource", "Delete a datasource. Every model on it becomes unqueryable." ++ mutationNote, true⟩]

/-- The settings of a catalog. -/
structure ToolCatalog where
  /-- Off by default: an agent does not author the semantic layer unasked. -/
  allowMutations : Bool := false
  /-- Row cap applied to every `run_query` unless the call overrides it. -/
  defaultMaxRows : Nat := 500
  embedder : Option EmbeddingProvider := none

/-- Embeddings of model descriptions by model name, with the hash of the text. -/
abbrev EmbedCache := KeyedList (String × UInt64 × List Rat) Prod.fst

/-- The state a process keeps between calls. -/
structure Server (σ : Type) where
  store : σ
  sqlEngine : SqlEngine
  auditSink : Option (List AuditEntry) := none
  sent : List (DataSource × GeneratedSql) := []
  embedCache : EmbedCache := .empty

namespace Server

variable {σ : Type}

/-- The service of a process. -/
def service (b : Backend σ) (v : Server σ) : QueryService :=
  ⟨v.sqlEngine, b.execution v.store, v.auditSink, v.sent⟩

/-- A process after a call of its service. -/
def withService (v : Server σ) (s : QueryService) : Server σ :=
  { v with sqlEngine := s.sqlEngine, auditSink := s.auditSink, sent := s.sent }

end Server

/-- The text of a model that gets embedded. -/
def modelDocument (m : StoredModel) : String :=
  Str.join " " (m.name :: m.description.toList ++ m.measures.map (·.formula.expression) ++ m.dimensions.map (·.name) ++
    m.timeDimensions.map (·.dimension) ++ m.joins.map (·.name))

namespace ToolCatalog

/-- Tools visible to the catalog, honouring the mutation gate. -/
def specs (catalog : ToolCatalog) : List ToolSpec :=
  builtinTools.filter fun spec => catalog.allowMutations || !spec.mutating

def get (catalog : ToolCatalog) (name : String) : Option ToolSpec :=
  (builtinTools.find? (·.name == name)).filter fun spec => catalog.allowMutations || !spec.mutating

def capabilities (catalog : ToolCatalog) (ctx : CallContext) : Capabilities :=
  let policy := ctx.sessionPolicy
  { defaultMaxRows := catalog.defaultMaxRows
    policyMaxRows := policy.maxRows
    queryTimeoutSecs := policy.queryTimeoutSecs
    rowLevelSecurity := policy.rowFilter.isSome
    forcedFilters := policy.forcedFilters.length
    columnMasks := policy.columnMasks.items.length
    allowedModels := policy.allowedModels
    allowedDatasources := policy.allowedDatasources
    mutationsEnabled := catalog.allowMutations }

/-- Vectors put in the places that have none, in order. -/
def fillSlots : List (Option (List Rat)) → List (List Rat) → List (List Rat)
  | [], _ => []
  | some vec :: slots, fresh => vec :: fillSlots slots fresh
  | none :: slots, vec :: fresh => vec :: fillSlots slots fresh
  | none :: slots, [] => [] :: fillSlots slots []

/-- Embed model documents, reusing a cached vector while the text is unchanged. -/
def embedOrCached (std : RustStd) (embed : EmbeddingProvider) (cache : EmbedCache) (models : List StoredModel) :
    Res ToolError (List (List Rat)) × EmbedCache :=
  let cached := fun (m : StoredModel) => (cache.get m.name).bind fun entry =>
    if entry.2.1 = std.hash (modelDocument m) then some entry.2.2 else none
  let slots := models.map cached
  let missing := models.filter fun m => (cached m).isNone
  if missing.isEmpty then (.ok (fillSlots slots []), cache)
  else
    match embed (missing.map modelDocument) with
    | .error fault => (Res.mapErr (fun e => ⟨"EMBEDDING_FAILED", e, none⟩) (.error fault), cache)
    | .ok fresh =>
      if fresh.length ≠ missing.length then
        (Res.fail ⟨"EMBEDDING_FAILED", "embedder returned " ++ toString fresh.length ++ " vectors for " ++
          toString missing.length ++ " inputs", none⟩, cache)
      else
        (.ok (fillSlots slots fresh), (missing.zip fresh).foldl (fun cache p =>
          cache.insert (p.1.name, std.hash (modelDocument p.1), p.2)) cache)

section

variable {σ : Type} (b : Backend σ) (s : σ) (ctx : CallContext)

def listModels (input : ListModelsInput) : Res ToolError (List ModelSummary) := do
  let models ← (QueryService.visibleModels b s ctx input.datasource).mapErr ToolError.ofService
  return models.map fun m => ⟨m.name, m.datasource, m.description, m.measures.length, m.dimensions.length⟩

/-- Rank visible models by embedding similarity to the query; none without an embedder. -/
def denseCandidates (std : RustStd) (catalog : ToolCatalog) (cache : EmbedCache) (query : String) (pool : Nat) :
    Res ToolError Embedding.Ranking × EmbedCache :=
  match catalog.embedder with
  | none => (.ok [], cache)
  | some embed =>
    match (QueryService.visibleModels b s ctx none).mapErr fun e => (⟨"SEARCH_FAILED", e.message, none⟩ : ToolError) with
    | .error fault => (.error fault, cache)
    | .ok [] => (.ok [], cache)
    | .ok models =>
      match (embed.embedOne query).mapErr fun e => (⟨"EMBEDDING_FAILED", e, none⟩ : ToolError) with
      | .error fault => (.error fault, cache)
      | .ok queryVec =>
        let (vectors, cache) := embedOrCached std embed cache models
        (vectors.map fun vectors =>
          let scored := List.zipWith (fun (m : StoredModel) v => (m.name, Embedding.cosineSimilarity std queryVec v))
            models vectors
          (scored.mergeSort fun a b => b.2 ≤ a.2).take pool, cache)

/-- One fused result, if the caller may see its model. -/
def modelHit (lexical : List SearchResult) (dense : Embedding.Ranking) (ranked : String × Rat) : Option ModelHit := do
  let (name, score) := ranked
  let model ← (QueryService.getModel b s ctx name none).toOption
  let byName : KeyedList SearchResult (·.modelName) := .ofList lexical
  let hit := byName.get name
  return {
    model := name
    datasource := model.datasource
    score
    matchedFields := (hit.map (·.matchedFields)).getD []
    snippet := ((hit.map (·.snippet)).or model.description).getD ""
    retrieval :=
      match hit.isSome, dense.any (·.1 == name) with
      | true, true => "hybrid"
      | true, false => "lexical"
      | _, _ => "semantic" }

/-- Lexical hits fused with the dense candidates, access checked on each of them. -/
def searchModels (std : RustStd) (catalog : ToolCatalog) (cache : EmbedCache) (input : SearchModelsInput) :
    Res ToolError (List ModelHit × String) × EmbedCache :=
  let limit := input.limit.getD 10
  let pool := max (usizeSaturatingMul limit 4) 20
  match (b.search s input.q pool).mapErr fun e => (⟨"SEARCH_FAILED", e, none⟩ : ToolError) with
  | .error fault => (.error fault, cache)
  | .ok lexical =>
    let lexicalRanked := lexical.map fun h => (h.modelName, h.score)
    let (found, cache) := denseCandidates b s ctx std catalog cache input.q pool
    match found with
    | .error .panic => (.error .panic, cache)
    -- a failing embedder leaves the lexical results
    | .error (.err _) => (.ok ((lexicalRanked.filterMap (modelHit b s ctx lexical [])).take limit, "lexical"), cache)
    | .ok dense =>
      let fused := if dense.isEmpty then lexicalRanked
        else Embedding.reciprocalRankFusion std lexicalRanked dense 60 1 1
      (.ok ((fused.filterMap (modelHit b s ctx lexical dense)).take limit,
        if dense.isEmpty then "lexical" else "hybrid"), cache)

/-- Enrich a model-access failure: a model that is not found is answered with the ones
that are, a denial with nothing. -/
def explainModelError (std : RustStd) (e : Fault ServiceError) (requested : String) : Fault ToolError :=
  match e with
  | .panic => .panic
  | .err e =>
    let err := ToolError.ofService e
    if err.code = "MODEL_NOT_FOUND" then
      match QueryService.visibleModels b s ctx none with
      | .error .panic => .panic
      | found =>
        let available := (found.toOption.getD []).map (·.name)
        .err { err with hint := some (
          if available.isEmpty then
            "No models are visible to this caller. Check the spelling of " ++ std.debug requested ++ "."
          else
            "Available models: " ++ Str.join ", " available ++ ". Call get_model with one of these names.") }
    else if err.code = "POLICY_VIOLATION" then
      .err { err with hint := some ("This caller is not permitted to access that model. " ++
        "Do not retry with variations; report the restriction.") }
    else .err err

/-- A model the caller may see, or why not. -/
def findModel (std : RustStd) (name : String) (datasource : Option String) : Res ToolError StoredModel :=
  match QueryService.getModel b s ctx name datasource with
  | .ok model => .ok model
  | .error e => .error (explainModelError b s ctx std e name)

def modelSchema (model : StoredModel) : ModelSchema where
  name := model.name
  datasource := model.datasource
  description := model.description
  measures := model.measures.map fun m =>
    (m.formula.expression, m.aggregation.sqlFunction, m.formula.label, m.formula.format)
  dimensions := model.dimensions.map fun d => (d.name, d.label)
  timeDimensions := model.timeDimensions.map fun t => (t.dimension, t.granularity.dateTruncUnit, t.label)
  joins := model.joins.map fun j => (j.name, j.model, j.joinType.sqlKeyword, j.aliasName.getD j.name)
  exampleQueries := Suggest.exampleQueries model.toModel

/-- The first name of a list that the model does not expose. -/
def checkNames (std : RustStd) (known : List String) (role : String) (names : List String) : Res ToolError Unit :=
  match names.find? fun name => !known.contains name with
  | some name => Res.fail (Suggest.unknownFieldError std name known role)
  | none => .ok ()

/-- Reject unknown fields with a did-you-mean hint, before executing. -/
def checkFields (std : RustStd) (query : Query) : Res ToolError Unit :=
  match query.name.or (query.sourceModel.map (·.model)) with
  | none => .ok ()
  | some modelName => do
    let model ← findModel b s ctx std modelName none
    let cap := ctx.sessionPolicy.maxRows.getD GraphNight.defaultMaxRows
    match query.limit.filter (cap < ·) with
    | some limit => Res.fail ⟨"ROW_LIMIT_EXCEEDED", "requested limit " ++ toString limit ++
        " exceeds the permitted maximum " ++ toString cap, some
          ("Use limit: " ++ toString cap ++ " or lower. The cap is enforced server-side regardless.")⟩
    | none =>
      let known := Suggest.fieldNames model.toModel
      checkNames std known "filter" (query.filters.map (·.field))
      checkNames std known "dimension" (query.dimensions.map (·.name))

end

/-- Reclassify a generation failure the SQL layer reported generically. -/
def explainQueryError (e : ServiceError) : ToolError :=
  let err := ToolError.ofService e
  if err.code = "INVALID_QUERY" ∧ err.hint.any fun hint => Str.containsStr hint "Model not found" then
    { err with code := "MODEL_NOT_FOUND" }
  else err

/-- Build a measure, rejecting an unknown aggregation. -/
def buildMeasure (input : MeasureInput) : Res ToolError Measure :=
  let built := fun agg => (Except.ok ⟨⟨input.formula, input.label, input.format⟩, agg⟩ : Res ToolError Measure)
  match Str.toAsciiLowercase input.aggregation with
  | "sum" => built .sum
  | "avg" | "average" => built .avg
  | "count" => built .count
  | "min" => built .min
  | "max" => built .max
  | "count_distinct" | "countdistinct" => built .countDistinct
  | other => Res.fail ⟨"UNKNOWN_AGGREGATION", "unknown aggregation: " ++ other, some
      "Use one of: sum, avg, count, min, max, count_distinct."⟩

def buildTimeDimension (input : TimeDimensionInput) : Res ToolError TimeDimension :=
  let built := fun g => (Except.ok ⟨input.dimension, g, input.label⟩ : Res ToolError TimeDimension)
  match Str.toAsciiLowercase input.granularity with
  | "second" => built .second
  | "minute" => built .minute
  | "hour" => built .hour
  | "day" => built .day
  | "week" => built .week
  | "month" => built .month
  | "quarter" => built .quarter
  | "year" => built .year
  | other => Res.fail ⟨"UNKNOWN_GRANULARITY", "unknown time granularity: " ++ other, some
      "Use one of: second, minute, hour, day, week, month, quarter, year."⟩

def buildDimension (input : DimensionInput) : Dimension := ⟨input.name, input.label⟩

def selectAll (table : String) : String := "SELECT * FROM " ++ table

/-- The model `create_model` stores. -/
def buildModel (input : CreateModelInput) : Res ToolError StoredModel := do
  if input.measures.isEmpty ∧ input.dimensions.isEmpty then
    Res.fail ⟨"EMPTY_MODEL", "a model needs at least one measure or dimension", some
      ("Add a measure (e.g. \x7bformula: \"amount\", aggregation: \"sum\"\x7d) or a dimension.")⟩
  else
    let measures ← input.measures.mapM buildMeasure
    let timeDimensions ← input.timeDimensions.mapM buildTimeDimension
    return {
      name := input.name
      datasource := input.datasource
      description := input.description
      measures
      dimensions := input.dimensions.map buildDimension
      timeDimensions
      sql := input.sql.or (input.baseTable.map selectAll) }

/-- A model with the supplied fields changed. -/
def changeModel (model : StoredModel) (input : UpdateModelInput) : Res ToolError StoredModel := do
  let measures ← match input.measures with
    | some m => m.mapM buildMeasure
    | none => .ok model.measures
  let timeDimensions ← match input.timeDimensions with
    | some t => t.mapM buildTimeDimension
    | none => .ok model.timeDimensions
  return { model with
    description := input.description.or model.description
    measures
    dimensions := (input.dimensions.map (·.map buildDimension)).getD model.dimensions
    timeDimensions
    sql := (input.sql.or (input.baseTable.map selectAll)).or model.sql }

section

variable {σ : Type} (b : Backend σ) (v : Server σ) (ctx : CallContext)

/-- A storage call that may have changed the store. -/
def wrote {α : Type} (code : String) (called : Res String α × σ) : Res ToolError α × Server σ :=
  (called.1.mapErr fun e => ⟨code, e, none⟩, { v with store := called.2 })

/-- Register what was saved with the SQL engine, under a code of its own if that fails. -/
def register (code : String) (model : StoredModel) : Res ToolError Unit × Server σ :=
  let (result, s) := (v.service b).registerModel ctx model.toModel
  (result.mapErr fun e => ⟨code, e.message, none⟩, v.withService s)

def createModel (input : CreateModelInput) : Res ToolError ToolOutput × Server σ :=
  match ctx.requireAdmin.mapErr ToolError.ofService with
  | .error e => (.error e, v)
  | .ok () =>
    match buildModel input with
    | .error e => (.error e, v)
    | .ok model =>
      let (saved, v) := wrote v "MODEL_CREATE_FAILED" (b.createModel v.store model)
      match saved with
      | .error e => (.error e, v)
      | .ok saved =>
        let (registered, v) := register b v ctx "MODEL_REGISTER_FAILED" saved
        (registered.map fun _ => .created saved.name, v)

/-- The model to update. -/
def readModel (name : String) : Res ToolError StoredModel := do
  let found ← (b.getModel v.store name none).mapErr fun e => (⟨"MODEL_NOT_FOUND", e, none⟩ : ToolError)
  Res.ofOption ⟨"MODEL_NOT_FOUND", "no model named " ++ name, some "Call list_models to see what exists."⟩ found

def updateModel (input : UpdateModelInput) : Res ToolError ToolOutput × Server σ :=
  match ctx.requireAdmin.mapErr ToolError.ofService with
  | .error e => (.error e, v)
  | .ok () =>
    match readModel b v input.name >>= fun model => changeModel model input with
    | .error e => (.error e, v)
    | .ok model =>
      let (saved, v) := wrote v "MODEL_UPDATE_FAILED" (b.updateModel v.store input.name model)
      match saved with
      | .error e => (.error e, v)
      | .ok saved =>
        let (registered, v) := register b v ctx "MODEL_REGISTER_FAILED" saved
        (registered.map fun _ => .updated saved.name, v)

def deleteModel (name : String) (datasource : Option String) : Res ToolError ToolOutput × Server σ :=
  match ctx.requireAdmin.mapErr ToolError.ofService with
  | .error e => (.error e, v)
  | .ok () =>
    let (deleted, v) := wrote v "MODEL_DELETE_FAILED" (b.deleteModel v.store name datasource)
    match deleted with
    | .error e => (.error e, v)
    | .ok false => (Res.fail ⟨"MODEL_NOT_FOUND", "no model named " ++ name, some "Call list_models to see what exists."⟩, v)
    | .ok true =>
      let (result, s) := (v.service b).unregisterModel ctx name
      (result.mapErr (fun e => ⟨"MODEL_UNREGISTER_FAILED", e.message, none⟩) |>.map fun _ => .deleted name,
        v.withService s)

def createDatasource (input : CreateDatasourceInput) : Res ToolError ToolOutput × Server σ :=
  match ctx.requireAdmin.mapErr ToolError.ofService with
  | .error e => (.error e, v)
  | .ok () =>
    let ds : StoredDataSource :=
      { name := input.name, driver := input.driver, connectionString := input.connectionString,
        description := input.description, poolSize := input.poolSize }
    let (saved, v) := wrote v "DATASOURCE_CREATE_FAILED" (b.createDatasource v.store ds)
    (saved.map fun saved => .createdDatasource saved.name saved.driver saved.poolSize, v)

/-- The datasource to update. -/
def readDatasource (name : String) : Res ToolError StoredDataSource := do
  let found ← (b.getDatasource v.store name).mapErr fun e => (⟨"DATASOURCE_READ_FAILED", e, none⟩ : ToolError)
  Res.ofOption ⟨"DATASOURCE_NOT_FOUND", "no datasource named " ++ name, none⟩ found

def updateDatasource (input : UpdateDatasourceInput) : Res ToolError ToolOutput × Server σ :=
  match ctx.requireAdmin.mapErr ToolError.ofService with
  | .error e => (.error e, v)
  | .ok () =>
    match readDatasource b v input.name with
    | .error e => (.error e, v)
    | .ok ds =>
      let ds := { ds with
        description := input.description.or ds.description
        connectionString := input.connectionString.getD ds.connectionString
        poolSize := input.poolSize.or ds.poolSize }
      let (saved, v) := wrote v "DATASOURCE_UPDATE_FAILED" (b.updateDatasource v.store input.name ds)
      (saved.map fun _ => .updated input.name, v)

/-- A datasource that models still read from is kept. -/
def checkUnused (name : String) : Res ToolError Unit := do
  let models ← (b.listModels v.store none).mapErr fun e => (⟨"DATASOURCE_DELETE_FAILED", e, none⟩ : ToolError)
  let orphans := (models.filter (·.datasource == name)).map (·.name)
  if orphans.isEmpty then .ok ()
  else
    Res.fail ⟨"DATASOURCE_IN_USE", toString orphans.length ++ " model(s) still read from " ++ name ++ ": " ++
      Str.join ", " orphans, some "Delete or repoint those models first, so you do not strand them."⟩

def deleteDatasource (name : String) : Res ToolError ToolOutput × Server σ :=
  match ctx.requireAdmin.mapErr ToolError.ofService >>= fun _ => checkUnused b v name with
  | .error e => (.error e, v)
  | .ok () =>
    let (deleted, v) := wrote v "DATASOURCE_DELETE_FAILED" (b.deleteDatasource v.store name)
    match deleted with
    | .error e => (.error e, v)
    | .ok false => (Res.fail ⟨"DATASOURCE_NOT_FOUND", "no datasource named " ++ name, none⟩, v)
    | .ok true => (.ok (.deleted name), v)

end

section

variable {σ : Type} (b : Backend σ) (std : RustStd) (f : F32) (host : Host) (catalog : ToolCatalog) (v : Server σ)
  (ctx : CallContext)

/-- Compile a query for validation: its SQL, or what is wrong with it. -/
def validateQuery (query : ToolQuery) : Res ToolError ToolOutput × Server σ :=
  match Suggest.toCoreQuery std query >>= fun core => (checkFields b v.store ctx std core).map fun _ => core with
  | .error .panic => (.error .panic, v)
  | .error (.err e) => (.ok (.invalid e), v)
  | .ok core =>
    let (result, s) := (v.service b).execute host ctx core .compile
    let v := v.withService s
    match result with
    | .error .panic => (.error .panic, v)
    | .error (.err e) => (.ok (.invalid (ToolError.ofService e)), v)
    | .ok out => (.ok (.valid out.sql out.dialect), v)

/-- How `run_query` asks for its rows; the default cap is cast to `u32` on its way. -/
def runOptions (input : RunQueryInput) : ExecuteOptions where
  dryRun := input.dryRun.getD false
  explain := input.explain.getD false || input.dryRun.getD false
  maxRows := some (input.maxRows.getD (catalog.defaultMaxRows % UInt32.size))

def runQuery (input : RunQueryInput) : Res ToolError ToolOutput × Server σ :=
  match Suggest.toCoreQuery std input.query >>= fun core => (checkFields b v.store ctx std core).map fun _ => core with
  | .error e => (.error e, v)
  | .ok core =>
    let (result, s) := (v.service b).execute host ctx core (runOptions catalog input)
    (result.mapErr explainQueryError |>.map fun out =>
      .rows out.columns out.data out.rowCount out.truncated out.nextOffset out.dialect out.sql, v.withService s)

/-- The stages of a pipeline, each under a name of its own. -/
def stagesOf (input : MultiStageInput) : Res ToolError (List (String × Query)) := do
  let queries ← input.stages.mapM (Suggest.toCoreQuery std)
  return queries.zipIdx.map fun p => ("stage_" ++ toString p.2, p.1)

def multiStageQuery (input : MultiStageInput) : Res ToolError ToolOutput × Server σ :=
  match stagesOf std input with
  | .error e => (.error e, v)
  | .ok stages =>
    let dryRun := input.dryRun.getD false
    let (result, s) := (v.service b).executeMultiStage std host ctx stages dryRun
    (result.mapErr ToolError.ofService |>.map fun outcomes =>
      .stages (outcomes.zipIdx.map fun p => ⟨p.2, p.1.columns, p.1.data, p.1.rowCount, p.1.sql, p.1.dialect⟩) dryRun,
      v.withService s)

/-- Run a tool of the catalog, with the fresh id and the clock it may need. -/
def dispatch (id : String) (now : Int) : ToolCall → Res ToolError ToolOutput × Server σ
  | .getCapabilities => (.ok (.capabilities (catalog.capabilities ctx)), v)
  | .toolsList => (.ok (.tools (catalog.specs.map fun spec => (spec.name, spec.description))), v)
  | .listModels input => ((listModels b v.store ctx input).map .models, v)
  | .searchModels input =>
    let (found, cache) := searchModels b v.store ctx std catalog v.embedCache input
    (found.map fun p => .results p.1 p.2, { v with embedCache := cache })
  | .getModel input => ((findModel b v.store ctx std input.name input.datasource).map fun m => .schema (modelSchema m), v)
  | .validateQuery query => validateQuery b std host v ctx query
  | .runQuery input => runQuery b std host catalog v ctx input
  | .multiStageQuery input => multiStageQuery b std host v ctx input
  | .recallMemories input => ((recallMemories b f v.store ctx input now).map .memories, v)
  | .remember input =>
    let (saved, store) := remember b f v.store ctx input id now
    (saved.map .remembered, { v with store })
  | .createModel input => createModel b v ctx input
  | .updateModel input => updateModel b v ctx input
  | .deleteModel name datasource => deleteModel b v ctx name datasource
  | .createDatasource input => createDatasource b v ctx input
  | .updateDatasource input => updateDatasource b v ctx input
  | .deleteDatasource name => deleteDatasource b v ctx name
  | .unparsed _ reason => (Res.fail ⟨"INVALID_ARGUMENT", "could not parse arguments: " ++ reason, some
      "Check the tool's inputSchema for required fields and types."⟩, v)
  | .unknown tool => (Res.fail (ToolError.ofService (.unknownTool tool)), v)

/-- Execute a tool by name. -/
def call (id : String) (now : Int) (tool : ToolCall) : Res ToolError ToolOutput × Server σ :=
  match catalog.get tool.name with
  | none => (Res.fail (ToolError.ofService (.unknownTool tool.name)), v)
  | some spec =>
    if spec.mutating ∧ !catalog.allowMutations then
      (Res.fail ⟨"MUTATIONS_DISABLED", "Tool " ++ tool.name ++ " is disabled on this server", some
        ("Model and datasource mutations are disabled for agents by default. " ++
          "Ask an administrator to enable them if truly required.")⟩, v)
    else dispatch b std f host catalog v ctx id now tool

end

/-! ## The gate -/

/-- A call is mutating exactly where the specification of its tool says so. -/
theorem find_tool {tool : ToolCall} (h : tool.Known) :
    ∃ spec, builtinTools.find? (·.name == tool.name) = some spec ∧ spec.mutating = tool.mutating := by
  cases tool with
  | unparsed tool reason => exact h.elim
  | unknown tool => exact h.elim
  | _ => exact ⟨_, rfl, rfl⟩

section

variable {σ : Type} (b : Backend σ) (std : RustStd) (f : F32) (host : Host) {catalog : ToolCatalog} (v : Server σ)
  (ctx : CallContext) (id : String) (now : Int) {tool : ToolCall}

/-- The gate lets through what does not mutate, and the rest where the operator allows it. -/
theorem call_open (h : tool.Known) (hgate : catalog.allowMutations = true ∨ tool.mutating = false) :
    catalog.call b std f host v ctx id now tool = catalog.dispatch b std f host v ctx id now tool := by
  obtain ⟨spec, hfind, hspec⟩ := find_tool h
  have hget : catalog.get tool.name = some spec := by
    rw [get, hfind]
    apply Option.filter_eq_some_iff.2
    rcases hgate with hallow | hread
    · simp [hallow]
    · simp [hspec, hread]
  simp only [call, hget]
  apply if_neg
  rintro ⟨hmutating, hallow⟩
  rcases hgate with h | h
  · simp [h] at hallow
  · rw [hspec, h] at hmutating
    cases hmutating

/-- Behind a closed gate a mutating tool is not there. -/
theorem call_closed (h : tool.Known) (hallow : catalog.allowMutations = false) (hmutating : tool.mutating = true) :
    catalog.call b std f host v ctx id now tool = (Res.fail (ToolError.ofService (.unknownTool tool.name)), v) := by
  obtain ⟨spec, hfind, hspec⟩ := find_tool h
  have hget : catalog.get tool.name = none := by
    rw [get, hfind]
    simp [hallow, hspec, hmutating]
  simp only [call, hget]

end

end ToolCatalog

end GraphNight
