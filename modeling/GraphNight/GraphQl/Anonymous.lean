import GraphNight.GraphQl.Catalog
import GraphNight.Runtime.Catalog
import GraphNight.Storage.Yaml

/-!
# Anonymous callers

What the read surface answers a caller without an identity where one is required, in two
runs on different stores. A call that refuses before it reads answers both runs alike; one
that reads first answers with what it read, or with the error of a store that failed.
-/

namespace GraphNight

/-- Everything a process reads: its own state, and what its databases answer. -/
structure Stored (σ : Type) where
  server : Server σ
  databases : DataSource → GeneratedSql → ExecReply

/-- What does not change between two runs: the build, the settings of the tool catalog, and
the executor of GraphQL pipelines. -/
structure Deployment where
  std : RustStd
  json : F32
  overflowChecks : Bool
  catalog : ToolCatalog
  executeDag : {σ : Type} → Backend σ → Stored σ → List SchemaRoot.StageInput → Res String (List SchemaRoot.StageResult)

/-- A call on the service. -/
inductive ServiceCall where
  | execute (query : Query) (options : ExecuteOptions)
  | executeMultiStage (stages : List (String × Query)) (dryRun : Bool)
  | visibleModels (datasource : Option String)
  | getModel (name : String) (datasource : Option String)
  | visibleDatasources
  | search (query : String) (limit : Nat)

/-- A field of the GraphQL query root. -/
inductive RootField where
  | query (input : Query) (dryRun : Option Bool)
  | multiStageQuery (inputs : List Query) (dryRun : Option Bool)
  | models (datasource : Option String)
  | model (name : String) (datasource : Option String)
  | datasources
  | search (q : String) (limit : Option Int)
  | inspect (model datasource : String)
  | memories (filter : MemoryFilterInput)
  | memory (id : String)

/-- A call on the read surface, with its caller. -/
inductive SurfaceCall where
  | service (ctx : CallContext) (call : ServiceCall)
  /-- A tool, with the fresh id and the clock it is given. -/
  | tool (ctx : CallContext) (call : ToolCall) (id : String) (now : Int)
  | graphQl (ctx : GraphQLContext) (field : RootField)

/-- Authentication is required, and nobody is authenticated. -/
def SurfaceCall.Anonymous : SurfaceCall → Prop
  | service ctx _ | tool ctx .. => ctx.authRequired = true ∧ ctx.userId = none
  | graphQl ctx _ => ctx.authRequired = true ∧ ctx.userId = none

/-! ## Answers -/

inductive ServiceReply where
  | outcome (out : QueryOutcome)
  | outcomes (outs : List QueryOutcome)
  | models (models : List StoredModel)
  | model (model : StoredModel)
  | datasources (datasources : List StoredDataSource)
  | hits (hits : List SearchResult)
deriving DecidableEq

inductive FieldReply where
  | response (response : QueryResponse)
  | responses (responses : List QueryResponse)
  | models (models : List ModelInfo)
  | model (model : Option ModelInfo)
  | datasources (datasources : List DatasourceInfo)
  | hits (hits : List SearchResult)
  | memories (memories : List MemoryInfo)
  | memory (memory : Option MemoryInfo)
deriving DecidableEq

inductive Answer where
  | service (result : Res ServiceError ServiceReply)
  | tool (result : Res ToolError ToolOutput)
  | graphQl (result : Res String FieldReply)
deriving DecidableEq

/-- An authentication error. -/
def Answer.Unauthenticated : Answer → Prop
  | service result => ∃ reason, result = Res.fail (.unauthenticated reason)
  | tool result => ∃ e : ToolError, e.code = "UNAUTHENTICATED" ∧ result = Res.fail e
  | graphQl result => result = Res.fail "Authentication required (provide Authorization: Bearer <key> or X-API-Key)"

section

variable {σ : Type} (d : Deployment) (b : Backend σ) (st : Stored σ)

def Stored.host : Host := ⟨st.databases, d.overflowChecks⟩

/-- The schema's roots over the same engine and storage. -/
def Stored.root : SchemaRoot := ⟨st.server.sqlEngine, b.execution st.server.store, st.server.sent, []⟩

def ServiceCall.answer (ctx : CallContext) : ServiceCall → Res ServiceError ServiceReply
  | execute query options => ((st.server.service b).execute (st.host d) ctx query options).1.map .outcome
  | executeMultiStage stages dryRun =>
    ((st.server.service b).executeMultiStage d.std (st.host d) ctx stages dryRun).1.map .outcomes
  | visibleModels datasource => (QueryService.visibleModels b st.server.store ctx datasource).map .models
  | getModel name datasource => (QueryService.getModel b st.server.store ctx name datasource).map .model
  | visibleDatasources => (QueryService.visibleDatasources b st.server.store ctx).map .datasources
  | search query limit => (QueryService.search b st.server.store ctx query limit).map .hits

def RootField.answer (ctx : GraphQLContext) : RootField → Res String FieldReply
  | query input dryRun => ((st.root b).query (st.host d) ctx input dryRun).1.map .response
  | multiStageQuery inputs dryRun => (SchemaRoot.multiStageQuery (d.executeDag b st) ctx inputs dryRun).map .responses
  | models datasource => (GraphQl.models b st.server.store datasource).map .models
  | model name datasource => (GraphQl.model b st.server.store name datasource).map .model
  | datasources => (GraphQl.datasources b st.server.store).map .datasources
  | search q limit => (GraphQl.search b st.server.store q limit).map .hits
  | inspect name datasource => (GraphQl.inspect b st.server.store name datasource).map .model
  | memories filter => (GraphQl.memories b st.server.store filter).map .memories
  | memory id => (GraphQl.memory b st.server.store id).map .memory

def SurfaceCall.answer : SurfaceCall → Answer
  | service ctx call => .service (call.answer d b st ctx)
  | tool ctx call id now =>
    .tool (d.catalog.call b d.std d.json (st.host d) st.server ctx id now call).1
  | graphQl ctx field => .graphQl (field.answer d b st ctx)

end

/-- A call tells its caller nothing: whatever is stored, in whatever backend, its answer is an
authentication error or the answer of every other store. -/
def SurfaceCall.TellsNothing (d : Deployment) (c : SurfaceCall) : Prop :=
  ∀ (σ : Type) (b : Backend σ) (st st' : Stored σ),
    (c.answer d b st).Unauthenticated ∨ c.answer d b st = c.answer d b st'

/-! ## The condition -/

/-- The caller's policy has the model hidden by name. -/
def HidesModel (ctx : CallContext) (name : String) : Prop :=
  (PolicyEnforcer.mk ctx.sessionPolicy).checkModelAccess name ≠ .ok ()

/-- The query is refused before its model is looked up: it does not parse, or the policy hides the model. -/
def RefusesQuery (std : RustStd) (ctx : CallContext) (query : ToolQuery) : Prop :=
  ∀ core name, Suggest.toCoreQuery std query = .ok core → core.name = some name → HidesModel ctx name

def ServiceCall.RefusesFirst (ctx : CallContext) : ServiceCall → Prop
  | execute .. | executeMultiStage .. | search .. => True
  | getModel name _ => HidesModel ctx name
  | visibleModels _ | visibleDatasources => False

def RootField.RefusesFirst : RootField → Prop
  | query .. | multiStageQuery .. => True
  | _ => False

/-- A tool that changes the semantic layer is open to this caller. -/
def OpenToAdmin (catalog : ToolCatalog) (ctx : CallContext) : Prop := catalog.allowMutations = true ∧ ctx.isAdmin = true

/-- The tool decides without a look at the store. -/
def ToolCall.RefusesFirst (d : Deployment) (ctx : CallContext) : ToolCall → Prop
  | getCapabilities | toolsList | multiStageQuery _ | remember _ | unparsed .. | unknown _ => True
  | listModels _ | searchModels _ | recallMemories _ => False
  | getModel input => HidesModel ctx input.name
  | validateQuery query => RefusesQuery d.std ctx query
  | runQuery input => RefusesQuery d.std ctx input.query
  | createModel input => OpenToAdmin d.catalog ctx → ∀ model, ToolCatalog.buildModel input ≠ .ok model
  | updateModel _ | deleteModel .. | createDatasource _ | updateDatasource _ | deleteDatasource _ =>
    ¬OpenToAdmin d.catalog ctx

def SurfaceCall.RefusesFirst (d : Deployment) : SurfaceCall → Prop
  | service ctx call => call.RefusesFirst ctx
  | tool ctx call _ _ => call.RefusesFirst d ctx
  | graphQl _ field => field.RefusesFirst

/-! ## Calls that refuse first -/

section

variable {d : Deployment} {ctx : CallContext} {σ : Type} {b : Backend σ} {st : Stored σ}

theorem requireAuthenticated_anonymous (h : ctx.authRequired = true ∧ ctx.userId = none) :
    ctx.requireAuthenticated = Res.fail
      (.unauthenticated "Authentication required (provide Authorization: Bearer <key> or X-API-Key)") :=
  if_pos h

/-- The service runs nothing for an anonymous caller. -/
theorem execute_anonymous (h : ctx.authRequired = true ∧ ctx.userId = none) (s : QueryService) (host : Host)
    (query : Query) (options : ExecuteOptions) :
    (s.execute host ctx query options).1 = Res.fail
      (.unauthenticated "Authentication required (provide Authorization: Bearer <key> or X-API-Key)") := by
  unfold QueryService.execute QueryService.govern
  rw [requireAuthenticated_anonymous h]
  rfl

/-- A pipeline ends at its first stage, or before it. -/
theorem executeMultiStage_anonymous (h : ctx.authRequired = true ∧ ctx.userId = none) (std : RustStd)
    (s s' : QueryService) (host host' : Host) (stages : List (String × Query)) (dryRun : Bool) :
    (s.executeMultiStage std host ctx stages dryRun).1 = (s'.executeMultiStage std host' ctx stages dryRun).1 := by
  unfold QueryService.executeMultiStage
  rcases MultiStage.plan std stages with fault | ⟨_ | ⟨name, order⟩, position⟩
  · rfl
  · rfl
  · simp only [MultiStage.run]
    cases MultiStage.prepare std stages .empty name with
    | error e => rfl
    | ok query => simp only [execute_anonymous h, Res.fail]

/-- A model hidden by name is refused without a look at the store. -/
theorem getModel_hidden {name : String} (h : HidesModel ctx name) : ∃ reason, ∀ (σ : Type) (b : Backend σ) (s : σ)
    (datasource : Option String), QueryService.getModel b s ctx name datasource = Res.fail (.policyViolation reason) := by
  rcases PolicyEnforcer.checkModelAccess_cases ⟨ctx.sessionPolicy⟩ name with hok | ⟨reason, hfail⟩
  · exact absurd hok h
  · refine ⟨reason, fun σ b s datasource => ?_⟩
    unfold QueryService.getModel
    dsimp only
    rw [hfail]
    rfl

theorem findModel_hidden (std : RustStd) {name : String} (h : HidesModel ctx name) : ∃ e, ∀ (σ : Type) (b : Backend σ)
    (s : σ) (datasource : Option String), ToolCatalog.findModel b s ctx std name datasource = Res.fail e := by
  obtain ⟨reason, hget⟩ := getModel_hidden h
  refine ⟨⟨"POLICY_VIOLATION", (ServiceError.policyViolation reason).message, some
    ("This caller is not permitted to access that model. " ++
      "Do not retry with variations; report the restriction.")⟩, fun σ b s datasource => ?_⟩
  simp [ToolCatalog.findModel, hget, Res.fail, ToolCatalog.explainModelError, ToolError.ofService]

/-- A query that parses names its model. -/
theorem name_of_toCoreQuery {std : RustStd} {query : ToolQuery} {core : Query}
    (h : Suggest.toCoreQuery std query = .ok core) : ∃ name, core.name = some name := by
  simp only [Suggest.toCoreQuery, Res.bind_eq_ok] at h
  obtain ⟨_, -, _, -, _, -, _, -, _, -, h⟩ := h
  split_ifs at h
  · cases h
  · obtain ⟨name, -, h⟩ := Res.bind_eq_ok.1 h
    cases h
    exact ⟨name, rfl⟩

/-- A query refused before its model is looked up fails alike on every store. -/
theorem query_refused {std : RustStd} {query : ToolQuery} (h : RefusesQuery std ctx query) : ∃ fault, ∀ (σ : Type)
    (b : Backend σ) (s : σ), (Suggest.toCoreQuery std query >>= fun core =>
      (ToolCatalog.checkFields b s ctx std core).map fun _ => core) = .error fault := by
  cases hcore : Suggest.toCoreQuery std query with
  | error fault => exact ⟨fault, fun _ _ _ => rfl⟩
  | ok core =>
    obtain ⟨name, hname⟩ := name_of_toCoreQuery hcore
    obtain ⟨e, hfind⟩ := findModel_hidden std (h core name hcore hname)
    refine ⟨.err e, fun σ b s => ?_⟩
    have hcheck : ToolCatalog.checkFields b s ctx std core = Res.fail e := by
      simp only [ToolCatalog.checkFields, hname, Option.some_or, hfind]
      rfl
    show (ToolCatalog.checkFields b s ctx std core).map (fun _ => core) = _
    rw [hcheck]
    rfl

/-- An anonymous call that refuses first has one answer. -/
theorem ServiceCall.answer_eq {call : ServiceCall} (h : ctx.authRequired = true ∧ ctx.userId = none)
    (hrefuses : call.RefusesFirst ctx) (st' : Stored σ) : call.answer d b st ctx = call.answer d b st' ctx := by
  cases call with
  | execute query options => simp only [answer, execute_anonymous h]
  | executeMultiStage stages dryRun =>
    simp only [answer]
    rw [executeMultiStage_anonymous h]
  | getModel name datasource =>
    obtain ⟨reason, hget⟩ := getModel_hidden hrefuses
    simp only [answer, hget]
  | search query limit => simp only [answer, QueryService.search, requireAuthenticated_anonymous h]; rfl
  | visibleModels datasource => exact hrefuses.elim
  | visibleDatasources => exact hrefuses.elim

theorem RootField.answer_eq {ctx : GraphQLContext} {field : RootField} (h : ctx.authRequired = true ∧ ctx.userId = none)
    (hrefuses : field.RefusesFirst) (st' : Stored σ) : field.answer d b st ctx = field.answer d b st' ctx := by
  have hreject : ctx.rejectIfAuthRequired =
      Res.fail "Authentication required (provide Authorization: Bearer <key> or X-API-Key)" := if_pos h
  cases field with
  | query input dryRun =>
    have hname : SchemaRoot.nameModel ctx input =
        Res.fail "Authentication required (provide Authorization: Bearer <key> or X-API-Key)" := by
      rw [SchemaRoot.nameModel, hreject]
      rfl
    simp only [answer, SchemaRoot.query, SchemaRoot.executeQuery, hname]
    cases ctx.auditSink with
    | true => rfl
    | false => rfl
  | multiStageQuery inputs dryRun =>
    simp only [answer, SchemaRoot.multiStageQuery, hreject]
    rfl
  | _ => exact hrefuses.elim

/-- A tool that changes the semantic layer, closed to its caller. -/
theorem ToolCall.dispatch_closed {call : ToolCall} (hmutating : call.mutating = true) (hadmin : ctx.isAdmin = false)
    (std : RustStd) (f : F32) (host : Host) (catalog : ToolCatalog) (v : Server σ) (id : String) (now : Int) :
    (catalog.dispatch b std f host v ctx id now call).1 =
      Res.fail (ToolError.ofService (.policyViolation "Admin privileges required")) := by
  have hrequire : ctx.requireAdmin = Res.fail (.policyViolation "Admin privileges required") :=
    if_neg (by simp [hadmin])
  cases call with
  | createModel input => simp only [ToolCatalog.dispatch, ToolCatalog.createModel, hrequire]; rfl
  | updateModel input => simp only [ToolCatalog.dispatch, ToolCatalog.updateModel, hrequire]; rfl
  | deleteModel name datasource => simp only [ToolCatalog.dispatch, ToolCatalog.deleteModel, hrequire]; rfl
  | createDatasource input => simp only [ToolCatalog.dispatch, ToolCatalog.createDatasource, hrequire]; rfl
  | updateDatasource input => simp only [ToolCatalog.dispatch, ToolCatalog.updateDatasource, hrequire]; rfl
  | deleteDatasource name => simp only [ToolCatalog.dispatch, ToolCatalog.deleteDatasource, hrequire]; rfl
  | _ => cases hmutating

/-- A tool that refuses first has one answer. -/
theorem ToolCall.answer_eq {call : ToolCall} (h : ctx.authRequired = true ∧ ctx.userId = none)
    (hrefuses : call.RefusesFirst d ctx) (id : String) (now : Int) (st' : Stored σ) :
    (d.catalog.call b d.std d.json (st.host d) st.server ctx id now call).1 =
      (d.catalog.call b d.std d.json (st'.host d) st'.server ctx id now call).1 := by
  have hopen : (d.catalog.dispatch b d.std d.json (st.host d) st.server ctx id now call).1 =
      (d.catalog.dispatch b d.std d.json (st'.host d) st'.server ctx id now call).1 →
      (d.catalog.call b d.std d.json (st.host d) st.server ctx id now call).1 =
        (d.catalog.call b d.std d.json (st'.host d) st'.server ctx id now call).1 := by
    intro hsame
    unfold ToolCatalog.call
    cases d.catalog.get call.name with
    | none => rfl
    | some spec =>
      dsimp only
      split_ifs
      · rfl
      · exact hsame
  have hclosed : call.Known → call.mutating = true → ¬OpenToAdmin d.catalog ctx →
      (d.catalog.call b d.std d.json (st.host d) st.server ctx id now call).1 =
        (d.catalog.call b d.std d.json (st'.host d) st'.server ctx id now call).1 := by
    intro hknown hmutating hnot
    by_cases hadmin : ctx.isAdmin = true
    · have hallow : d.catalog.allowMutations = false := Bool.eq_false_iff.2 fun hallow => hnot ⟨hallow, hadmin⟩
      rw [ToolCatalog.call_closed b _ _ _ _ _ _ _ hknown hallow hmutating,
        ToolCatalog.call_closed b _ _ _ _ _ _ _ hknown hallow hmutating]
    · have hadmin : ctx.isAdmin = false := Bool.eq_false_iff.2 hadmin
      exact hopen (by rw [dispatch_closed hmutating hadmin, dispatch_closed hmutating hadmin])
  cases call with
  | getCapabilities => exact hopen rfl
  | toolsList => exact hopen rfl
  | getModel input =>
    obtain ⟨e, hfind⟩ := findModel_hidden d.std hrefuses
    apply hopen
    simp only [ToolCatalog.dispatch, hfind]
  | validateQuery query =>
    obtain ⟨fault, hquery⟩ := query_refused hrefuses
    apply hopen
    simp only [ToolCatalog.dispatch, ToolCatalog.validateQuery, hquery]
    cases fault with
    | panic => rfl
    | err e => rfl
  | runQuery input =>
    obtain ⟨fault, hquery⟩ := query_refused hrefuses
    apply hopen
    simp only [ToolCatalog.dispatch, ToolCatalog.runQuery, hquery]
  | multiStageQuery input =>
    apply hopen
    simp only [ToolCatalog.dispatch, ToolCatalog.multiStageQuery]
    cases ToolCatalog.stagesOf d.std input with
    | error e => rfl
    | ok stages =>
      dsimp only
      rw [executeMultiStage_anonymous h d.std (st.server.service b) (st'.server.service b) (st.host d) (st'.host d)]
  | remember input =>
    apply hopen
    have hrecord : ToolCatalog.rememberRecord ctx input id now = Res.fail (ToolError.ofService (.unauthenticated
        "Authentication required (provide Authorization: Bearer <key> or X-API-Key)")) := by
      rw [ToolCatalog.rememberRecord, requireAuthenticated_anonymous h]
      rfl
    simp only [ToolCatalog.dispatch, ToolCatalog.remember, hrecord]
    rfl
  | createModel input =>
    by_cases hadmin : OpenToAdmin d.catalog ctx
    · apply hopen
      have hrequire : ctx.requireAdmin = .ok () := if_pos hadmin.2
      simp only [ToolCatalog.dispatch, ToolCatalog.createModel, hrequire, Res.mapErr]
      cases hmodel : ToolCatalog.buildModel input with
      | error e => rfl
      | ok model => exact absurd hmodel (hrefuses hadmin model)
    · exact hclosed trivial rfl hadmin
  | updateModel input => exact hclosed trivial rfl hrefuses
  | deleteModel name datasource => exact hclosed trivial rfl hrefuses
  | createDatasource input => exact hclosed trivial rfl hrefuses
  | updateDatasource input => exact hclosed trivial rfl hrefuses
  | deleteDatasource name => exact hclosed trivial rfl hrefuses
  | unparsed tool reason => exact hopen rfl
  | unknown tool => exact hopen rfl
  | _ => exact hrefuses.elim

/-- **One direction**: a call that refuses first tells its caller nothing. -/
theorem SurfaceCall.tellsNothing_of_refuses {c : SurfaceCall} (h : c.Anonymous) (hrefuses : c.RefusesFirst d) :
    c.TellsNothing d := by
  intro σ b st st'
  cases c with
  | service ctx call => exact .inr (congrArg Answer.service (ServiceCall.answer_eq h hrefuses st'))
  | tool ctx call id now => exact .inr (congrArg Answer.tool (ToolCall.answer_eq h hrefuses id now st'))
  | graphQl ctx field => exact .inr (congrArg Answer.graphQl (RootField.answer_eq h hrefuses st'))

end

/-! ## Calls that read first -/

namespace Outage

/-- A call of a store that is down, or has the answer of an empty one. -/
def reply {α : Type} (down : Bool) (empty : α) : Res String α := if down then Res.fail "storage is down" else .ok empty

/-- An empty store that may be down. -/
def backend : Backend Bool where
  listModels down _ := reply down []
  getModel down _ _ := reply down none
  createModel down model := (reply down model, down)
  updateModel down _ model := (reply down model, down)
  deleteModel down _ _ := (reply down false, down)
  listDatasources down := reply down []
  getDatasource down _ := reply down none
  createDatasource down ds := (reply down ds, down)
  updateDatasource down _ ds := (reply down ds, down)
  deleteDatasource down _ := (reply down false, down)
  saveMemory down memory := (reply down memory, down)
  getMemory down _ := reply down none
  listMemories down _ := reply down []
  deleteMemory down _ := (reply down false, down)
  search down _ _ := reply down []

/-- The store is all that differs. -/
def stored (down : Bool) : Stored Bool :=
  ⟨⟨down, .new .postgres ⟨fun _ => false, fun _ => false⟩, none, [], .empty⟩, fun _ _ => .rows []⟩

end Outage

section

open Outage

variable {d : Deployment} {ctx : CallContext}

/-- An answer that differs between the two stores and is no authentication error gives them away. -/
theorem SurfaceCall.not_tellsNothing {c : SurfaceCall} (hknown : ¬(c.answer d backend (stored true)).Unauthenticated)
    (hdiffers : c.answer d backend (stored true) ≠ c.answer d backend (stored false)) : ¬c.TellsNothing d :=
  fun h => (h Bool backend (stored true) (stored false)).elim hknown hdiffers

theorem getModel_outage {name : String} (h : ¬HidesModel ctx name) (datasource : Option String) :
    QueryService.getModel backend true ctx name datasource = Res.fail (.storage "storage is down") ∧
      QueryService.getModel backend false ctx name datasource = Res.fail (.modelNotFound name) := by
  have hok := not_not.1 h
  constructor
  · unfold QueryService.getModel
    dsimp only
    rw [hok]
    rfl
  · unfold QueryService.getModel
    dsimp only
    rw [hok]
    rfl

/-- The two stores are told apart by the code of the error. -/
theorem findModel_outage (std : RustStd) {name : String} (h : ¬HidesModel ctx name) (datasource : Option String) :
    (∃ e : ToolError, e.code = "STORAGE_ERROR" ∧
        ToolCatalog.findModel backend true ctx std name datasource = Res.fail e) ∧
      ∃ e : ToolError, e.code = "MODEL_NOT_FOUND" ∧
        ToolCatalog.findModel backend false ctx std name datasource = Res.fail e := by
  obtain ⟨hdown, hup⟩ := getModel_outage h datasource
  constructor
  · refine ⟨⟨"STORAGE_ERROR", (ServiceError.storage "storage is down").message, none⟩, rfl, ?_⟩
    simp [ToolCatalog.findModel, hdown, Res.fail, ToolCatalog.explainModelError, ToolError.ofService]
  · refine ⟨⟨"MODEL_NOT_FOUND", (ServiceError.modelNotFound name).message, some
      ("No models are visible to this caller. Check the spelling of " ++ std.debug name ++ ".")⟩, rfl, ?_⟩
    have hvisible : QueryService.visibleModels backend false ctx none = .ok [] := rfl
    simp [ToolCatalog.findModel, hup, Res.fail, ToolCatalog.explainModelError, ToolError.ofService, hvisible,
      Except.toOption]

/-- So are they by a query that is not refused. -/
theorem query_outage {std : RustStd} {query : ToolQuery} (h : ¬RefusesQuery std ctx query) (down : Bool) :
    ∃ e : ToolError, e.code = (if down then "STORAGE_ERROR" else "MODEL_NOT_FOUND") ∧
      (Suggest.toCoreQuery std query >>= fun core =>
        (ToolCatalog.checkFields backend down ctx std core).map fun _ => core) = Res.fail e := by
  simp only [RefusesQuery, not_forall] at h
  obtain ⟨core, name, hcore, hname, hshown⟩ := h
  have hfind : ∃ e : ToolError, e.code = (if down then "STORAGE_ERROR" else "MODEL_NOT_FOUND") ∧
      ToolCatalog.findModel backend down ctx std name none = Res.fail e := by
    cases down with
    | true => exact (findModel_outage std hshown none).1
    | false => exact (findModel_outage std hshown none).2
  obtain ⟨e, hcode, hfind⟩ := hfind
  refine ⟨e, hcode, ?_⟩
  have hcheck : ToolCatalog.checkFields backend down ctx std core = Res.fail e := by
    simp only [ToolCatalog.checkFields, hname, Option.some_or, hfind]
    rfl
  rw [hcore]
  show (ToolCatalog.checkFields backend down ctx std core).map (fun _ => core) = _
  rw [hcheck]
  rfl

/-- A service call that reads first tells the stores apart. -/
theorem ServiceCall.not_tellsNothing {call : ServiceCall} (h : ¬call.RefusesFirst ctx) :
    ¬(SurfaceCall.service ctx call).TellsNothing d := by
  have hstorage : call.answer d backend (stored true) ctx = Res.fail (.storage "storage is down") ∧
      call.answer d backend (stored false) ctx ≠ Res.fail (.storage "storage is down") := by
    cases call with
    | visibleModels datasource => exact ⟨rfl, fun heq => nomatch heq⟩
    | visibleDatasources => exact ⟨rfl, fun heq => nomatch heq⟩
    | getModel name datasource =>
      obtain ⟨hdown, hup⟩ := getModel_outage h datasource
      refine ⟨congrArg (Except.map ServiceReply.model) hdown, fun heq => ?_⟩
      have hanswer := (congrArg (Except.map ServiceReply.model) hup).symm.trans heq
      cases hanswer
    | execute query options => exact absurd trivial h
    | executeMultiStage stages dryRun => exact absurd trivial h
    | search query limit => exact absurd trivial h
  apply SurfaceCall.not_tellsNothing
  · rintro ⟨reason, heq⟩
    cases hstorage.1.symm.trans heq
  · intro heq
    injection heq with heq
    exact hstorage.2 (heq.symm.trans hstorage.1)

/-- A field that reads first tells the stores apart. -/
theorem RootField.not_tellsNothing {ctx : GraphQLContext} {field : RootField} (h : ¬field.RefusesFirst) :
    ¬(SurfaceCall.graphQl ctx field).TellsNothing d := by
  have hstorage : field.answer d backend (stored true) ctx = Res.fail "storage is down" ∧
      field.answer d backend (stored false) ctx ≠ Res.fail "storage is down" := by
    cases field with
    | query input dryRun => exact absurd trivial h
    | multiStageQuery inputs dryRun => exact absurd trivial h
    | _ => exact ⟨rfl, fun heq => nomatch heq⟩
  apply SurfaceCall.not_tellsNothing
  · intro heq
    have htext := hstorage.1.symm.trans heq
    simp [Res.fail] at htext
  · intro heq
    injection heq with heq
    exact hstorage.2 (heq.symm.trans hstorage.1)

/-- A tool that reads first runs, its gate being open. -/
theorem ToolCall.known_of_reads {call : ToolCall} (h : ¬call.RefusesFirst d ctx) : call.Known := by
  cases call with
  | unparsed tool reason => exact absurd trivial h
  | unknown tool => exact absurd trivial h
  | _ => trivial

theorem ToolCall.open_of_reads {call : ToolCall} (h : ¬call.RefusesFirst d ctx) :
    d.catalog.allowMutations = true ∨ call.mutating = false := by
  cases call with
  | createModel input => exact .inl (Classical.not_imp.1 h).1.1
  | updateModel input => exact .inl (not_not.1 h).1
  | deleteModel name datasource => exact .inl (not_not.1 h).1
  | createDatasource input => exact .inl (not_not.1 h).1
  | updateDatasource input => exact .inl (not_not.1 h).1
  | deleteDatasource name => exact .inl (not_not.1 h).1
  | _ => exact .inr rfl

/-- The answers of a tool over the two stores: one is no authentication error, and not the other. -/
def ToldApart (down up : Res ToolError ToolOutput) : Prop :=
  (∀ e : ToolError, down = Res.fail e → e.code ≠ "UNAUTHENTICATED") ∧ down ≠ up

theorem toldApart_of_fail {e : ToolError} {up : Res ToolError ToolOutput} (hcode : e.code ≠ "UNAUTHENTICATED")
    (h : up ≠ Res.fail e) : ToldApart (Res.fail e) up := by
  refine ⟨fun e' heq => ?_, h.symm⟩
  injection heq with heq
  injection heq with heq
  exact heq ▸ hcode

theorem toldApart_of_ok {e : ToolError} {out : ToolOutput} (hcode : e.code ≠ "UNAUTHENTICATED") :
    ToldApart (Res.fail e) (.ok out) :=
  toldApart_of_fail hcode fun heq => by cases heq

theorem toldApart_of_other {e e' : ToolError} (hcode : e.code ≠ "UNAUTHENTICATED")
    (h : e'.code ≠ e.code ∨ e'.hint ≠ e.hint) : ToldApart (Res.fail e) (Res.fail e') := by
  apply toldApart_of_fail hcode
  intro heq
  injection heq with heq
  injection heq with heq
  rcases h with h | h
  · exact h (congrArg ToolError.code heq)
  · exact h (congrArg ToolError.hint heq)

theorem toldApart_of_codes {e e' : ToolError} (hdown : e.code = "STORAGE_ERROR") (hup : e'.code = "MODEL_NOT_FOUND") :
    ToldApart (Res.fail e) (Res.fail e') := by
  apply toldApart_of_other
  · rw [hdown]
    decide
  · refine .inl ?_
    rw [hdown, hup]
    decide

theorem ToolCall.dispatch_outage {call : ToolCall} (h : ¬call.RefusesFirst d ctx) (f : F32) (host host' : Host)
    (id : String) (now : Int) :
    ToldApart (d.catalog.dispatch backend d.std f host (stored true).server ctx id now call).1
      (d.catalog.dispatch backend d.std f host' (stored false).server ctx id now call).1 := by
  have hadmin : OpenToAdmin d.catalog ctx → ctx.requireAdmin = .ok () := fun hopen => if_pos hopen.2
  cases call with
  | listModels input => exact toldApart_of_ok (by decide)
  | searchModels input =>
    simp only [ToolCatalog.dispatch, ToolCatalog.searchModels, ToolCatalog.denseCandidates]
    cases d.catalog.embedder with
    | none => exact toldApart_of_ok (by decide)
    | some embed => exact toldApart_of_ok (by decide)
  | recallMemories input => exact toldApart_of_ok (by decide)
  | getModel input =>
    obtain ⟨⟨e, hdown, hfind⟩, e', hup, hfind'⟩ := findModel_outage d.std h input.datasource
    simp only [ToolCatalog.dispatch, stored, hfind, hfind']
    exact toldApart_of_codes hdown hup
  | validateQuery query =>
    obtain ⟨e, hdown, hquery⟩ := query_outage h true
    obtain ⟨e', hup, hquery'⟩ := query_outage h false
    simp only [ToolCatalog.dispatch, ToolCatalog.validateQuery, stored, hquery, hquery', Res.fail]
    refine ⟨fun e heq => (by cases heq), fun heq => ?_⟩
    injection heq with heq
    injection heq with heq
    rw [heq, hup] at hdown
    exact absurd hdown (by decide)
  | runQuery input =>
    obtain ⟨e, hdown, hquery⟩ := query_outage h true
    obtain ⟨e', hup, hquery'⟩ := query_outage h false
    simp only [ToolCatalog.dispatch, ToolCatalog.runQuery, stored, hquery, hquery', Res.fail]
    exact toldApart_of_codes hdown hup
  | createModel input =>
    obtain ⟨hopen, hbuild⟩ := Classical.not_imp.1 h
    simp only [ne_eq, not_forall, not_not] at hbuild
    obtain ⟨model, hmodel⟩ := hbuild
    simp only [ToolCatalog.dispatch, ToolCatalog.createModel, hadmin hopen, Res.mapErr, hmodel]
    have hregister : (ToolCatalog.register backend (stored false).server ctx "MODEL_REGISTER_FAILED" model).1 = .ok () := by
      simp only [ToolCatalog.register, QueryService.registerModel, hadmin hopen]
      rfl
    refine toldApart_of_fail (by decide) fun heq => ?_
    have hup := (congrArg (Except.map fun _ => ToolOutput.created model.name) hregister).symm.trans heq
    cases hup
  | updateModel input =>
    simp only [ToolCatalog.dispatch, ToolCatalog.updateModel, hadmin (not_not.1 h), Res.mapErr]
    exact toldApart_of_other (by decide) (.inr (Option.some_ne_none _))
  | deleteModel name datasource =>
    simp only [ToolCatalog.dispatch, ToolCatalog.deleteModel, hadmin (not_not.1 h), Res.mapErr]
    exact toldApart_of_other (by decide) (.inl (show _ ≠ _ by dsimp only; decide))
  | createDatasource input =>
    simp only [ToolCatalog.dispatch, ToolCatalog.createDatasource, hadmin (not_not.1 h), Res.mapErr]
    exact toldApart_of_ok (by decide)
  | updateDatasource input =>
    simp only [ToolCatalog.dispatch, ToolCatalog.updateDatasource, hadmin (not_not.1 h), Res.mapErr]
    exact toldApart_of_other (by decide) (.inl (show _ ≠ _ by dsimp only; decide))
  | deleteDatasource name =>
    simp only [ToolCatalog.dispatch, ToolCatalog.deleteDatasource, hadmin (not_not.1 h), Res.mapErr]
    exact toldApart_of_other (by decide) (.inl (show _ ≠ _ by dsimp only; decide))
  | getCapabilities => exact absurd trivial h
  | toolsList => exact absurd trivial h
  | multiStageQuery input => exact absurd trivial h
  | remember input => exact absurd trivial h
  | unparsed tool reason => exact absurd trivial h
  | unknown tool => exact absurd trivial h

/-- A tool that reads first tells the stores apart. -/
theorem ToolCall.not_tellsNothing {call : ToolCall} (h : ¬call.RefusesFirst d ctx) (id : String) (now : Int) :
    ¬(SurfaceCall.tool ctx call id now).TellsNothing d := by
  have hknown := known_of_reads h
  have hopen := open_of_reads h
  obtain ⟨hrefusal, hdiffers⟩ :=
    dispatch_outage h d.json (Stored.host d (stored true)) (Stored.host d (stored false)) id now
  rw [← ToolCatalog.call_open _ _ _ _ _ _ _ _ hknown hopen] at hrefusal hdiffers
  rw [← ToolCatalog.call_open _ _ _ _ _ _ _ _ hknown hopen] at hdiffers
  apply SurfaceCall.not_tellsNothing
  · rintro ⟨e, hcode, heq⟩
    exact hrefusal e heq hcode
  · intro heq
    injection heq with heq
    exact hdiffers heq

/-- **Anonymous callers learn nothing** from exactly the calls that refuse them before they read. -/
theorem SurfaceCall.tellsNothing_iff {c : SurfaceCall} (h : c.Anonymous) : c.TellsNothing d ↔ c.RefusesFirst d := by
  constructor
  · intro htells
    by_contra hreads
    cases c with
    | service ctx call => exact ServiceCall.not_tellsNothing hreads htells
    | tool ctx call id now => exact ToolCall.not_tellsNothing hreads id now htells
    | graphQl ctx field => exact RootField.not_tellsNothing hreads htells
  · exact tellsNothing_of_refuses h

end

/-! ## A catalogue open to everybody -/

namespace OpenCatalogue

def deployment : Deployment where
  std := ⟨fun _ => false, id, fun _ => .refl _, fun _ => 0, fun _ => none, id⟩
  json := ⟨fun r => r, fun _ => "0.5", fun _ => 1 / 2⟩
  overflowChecks := true
  catalog := {}
  executeDag _ _ _ := Res.fail "no executor"

def model : StoredModel := { name := "payroll", datasource := "hr", description := some "Salaries by employee" }

def memory : Memory := ⟨"m1", "The merger closes in May", [], none, 0, 0, .empty⟩

/-- A process over a store with a model and a memory. -/
def stored : Stored YamlStorage where
  server := ⟨{ models := .ofList [("payroll", model)], memories := .ofList [memory] },
    .new .postgres ⟨fun _ => false, fun _ => false⟩, none, [], .empty⟩
  databases _ _ := .rows []

/-- The same process over an empty store. -/
def bare : Stored YamlStorage := { stored with server := { stored.server with store := {} } }

def backend : Backend YamlStorage := YamlStorage.backend Str.toAsciiLowercase

def listed : SurfaceCall := .tool { authRequired := true } (.listModels {}) "" 0

def memories : SurfaceCall := .graphQl { authRequired := true } (.memories {})

end OpenCatalogue

open OpenCatalogue in
/-- A listing of the models, and a search through the service. -/
theorem SurfaceCall.tellsNothing_iff_listed :
    listed.Anonymous ∧ ¬listed.TellsNothing deployment ∧
      (SurfaceCall.service { authRequired := true } (.search "salaries" 5)).TellsNothing deployment :=
  have hlisted : listed.Anonymous := ⟨rfl, rfl⟩
  have hsearch : (SurfaceCall.service { authRequired := true } (.search "salaries" 5)).Anonymous := ⟨rfl, rfl⟩
  ⟨hlisted, fun h => (SurfaceCall.tellsNothing_iff hlisted).1 h, (SurfaceCall.tellsNothing_iff hsearch).2 trivial⟩

open OpenCatalogue in
/-- Nobody in particular is given the models and the memories. -/
theorem anonymous_reads_catalogue :
    listed.answer deployment backend stored =
        .tool (.ok (.models [⟨"payroll", "hr", some "Salaries by employee", 0, 0⟩])) ∧
      memories.answer deployment backend stored =
        .graphQl (.ok (.memories [⟨"m1", "The merger closes in May", [], none, 0, 0⟩])) ∧
      ¬listed.TellsNothing deployment ∧ ¬memories.TellsNothing deployment := by
  have hlisted : listed.answer deployment backend stored =
      .tool (.ok (.models [⟨"payroll", "hr", some "Salaries by employee", 0, 0⟩])) := rfl
  have hmemories : memories.answer deployment backend stored =
      .graphQl (.ok (.memories [⟨"m1", "The merger closes in May", [], none, 0, 0⟩])) := rfl
  refine ⟨hlisted, hmemories, fun h => ?_, fun h => ?_⟩
  · rcases h YamlStorage backend stored bare with hrefused | hsame
    · obtain ⟨e, -, heq⟩ := hrefused
      cases heq
    · have hbare : listed.answer deployment backend bare = .tool (.ok (.models [])) := rfl
      rw [hlisted, hbare] at hsame
      cases hsame
  · rcases h YamlStorage backend stored bare with hrefused | hsame
    · have heq := hmemories.symm.trans (congrArg Answer.graphQl hrefused)
      cases heq
    · have hbare : memories.answer deployment backend bare = .graphQl (.ok (.memories [])) := rfl
      rw [hmemories, hbare] at hsame
      cases hsame

end GraphNight
