import GraphNight.Runtime.AuditTrail
import GraphNight.Runtime.Mcp

/-!
# What an MCP session leaves in the audit trail

A tool that fails is recorded by the server, with the caller, the tool and the code; a query
that runs is recorded by the service. Nothing else is: no protocol error, no notification,
and no change of the semantic layer that succeeds.
-/

namespace GraphNight

/-! ## The service -/

/-- The entry of a query that ran. -/
def ranEntry (ctx : CallContext) (model : String) (rowCount : Nat) : AuditEntry where
  userId := ctx.userId
  tenantId := ctx.tenantId
  action := ctx.principalLabel.getD "query"
  model := some model
  rowCount := some rowCount
  success := true
  error := none

/-- An audit sink that gains entries twice gains them all. -/
theorem gained_append (sink : Option (List AuditEntry)) (added added' : List AuditEntry) :
    (sink.map (· ++ added)).map (· ++ added') = sink.map (· ++ (added ++ added')) := by
  rw [Option.map_map]
  congr 1
  funext entries
  exact List.append_assoc entries added added'

theorem gained_nil (sink : Option (List AuditEntry)) : sink.map (· ++ []) = sink := by
  simp

namespace QueryService

section

variable (s : QueryService) (host : Host) (ctx : CallContext) (query : Query) (options : ExecuteOptions)

/-- The entry of a call, where it is a query that ran: one that is not only compiled and that is
answered. It names the model the query was governed under and counts the rows of its answer. -/
def ran : Option AuditEntry := do
  let gov ← (s.govern ctx query options).toOption
  let out ← (s.execute host ctx query options).1.toOption
  if options.dryRun then none else some (ranEntry ctx gov.modelName out.rowCount)

/-- A query adds the entry of its own success. -/
theorem execute_auditSink : (s.execute host ctx query options).2.auditSink =
    s.auditSink.map (· ++ (s.ran host ctx query options).toList) := by
  unfold ran execute
  cases s.govern ctx query options with
  | error e => simp [Except.toOption]
  | ok gov =>
    dsimp only
    cases (s.sqlEngine.generateSql gov.query).1.mapErr ServiceError.invalidQuery with
    | error e => simp [Except.toOption]
    | ok sql =>
      dsimp only
      cases hdry : options.dryRun with
      | true => simp [Except.toOption]
      | false =>
        simp only [Bool.false_eq_true, if_false]
        cases connect { s with sqlEngine := (s.sqlEngine.generateSql gov.query).2 } gov.model.datasource with
        | error e => simp [Except.toOption]
        | ok ds =>
          dsimp only
          cases outcome host ctx.sessionPolicy options gov sql
              ((s.sqlEngine.generateSql gov.query).2.dialectNameForModel gov.modelName) (host.executeSqlx ds sql) with
          | error e => simp [Except.toOption]
          | ok out => rfl

/-- It is a query that ran exactly where the call got to its end. -/
theorem ran_isSome_iff : (s.ran host ctx query options).isSome ↔ s.RunsToEnd host ctx query options := by
  constructor
  · intro h
    obtain ⟨e, he⟩ := Option.isSome_iff_exists.1 h
    cases hgov : s.govern ctx query options with
    | error e => simp [ran, hgov, Except.toOption] at he
    | ok gov =>
      cases hout : (s.execute host ctx query options).1 with
      | error e => simp [ran, hout, hgov, Except.toOption] at he
      | ok out =>
        cases hdry : options.dryRun with
        | true => simp [ran, hout, hgov, hdry, Except.toOption] at he
        | false =>
          obtain ⟨gov', sql, hgov', hsql, hrun⟩ := execute_eq_ok hout
          rcases hrun with ⟨hdry', -⟩ | ⟨-, ds, hds, hanswer, -⟩
          · rw [hdry] at hdry'
            cases hdry'
          · obtain ⟨rows, hreply, hmask, hnext⟩ := outcome_isOk.1 ⟨out, hanswer⟩
            exact ⟨hdry, gov', sql, ds, rows, hgov', hsql, hds, hreply, hmask, hnext⟩
  · intro h
    obtain ⟨⟨out, hout⟩, -⟩ := h.audited
    obtain ⟨hdry, gov, -, -, -, hgov, -⟩ := h
    simp [ran, hgov, hout, hdry, Except.toOption]

/-- A query that is only compiled adds nothing. -/
theorem ran_dry {options : ExecuteOptions} (h : options.dryRun = true) : s.ran host ctx query options = none := by
  rw [← Option.not_isSome_iff_eq_none, ran_isSome_iff]
  rintro ⟨hdry, -⟩
  rw [h] at hdry
  cases hdry

end

end QueryService

namespace MultiStage

/-- A pipeline adds the entries of its stages, by induction on the stages still to be run. -/
theorem run_ran (std : RustStd) (host : Host) (ctx : CallContext) (stages : List (String × Query))
    (position : KeyedList (String × Nat) Prod.fst) (options : ExecuteOptions) (order : List String) (byName : Outcomes)
    (out : List (Option QueryOutcome)) (s : QueryService) :
    (run std host ctx stages position options order byName out s).2.auditSink =
      s.auditSink.map (· ++ (attempts std host ctx stages position options order byName s).filterMap fun t =>
        t.service.ran host ctx t.query options) := by
  induction order generalizing byName out s with
  | nil => exact (gained_nil s.auditSink).symm
  | cons name order ih =>
    rw [run, attempts]
    cases prepare std stages byName name with
    | error e => exact (gained_nil s.auditSink).symm
    | ok query =>
      have hstep := s.execute_auditSink host ctx query options
      have hone : (s.ran host ctx query options).toList = [⟨s, query⟩].filterMap fun (t : QueryService.Attempt) =>
          t.service.ran host ctx t.query options := by
        cases hran : s.ran host ctx query options <;> simp [hran]
      dsimp only
      cases hresult : (s.execute host ctx query options).1 with
      | error e => exact hstep.trans (by rw [hone])
      | ok outcome =>
        dsimp only
        cases position.get name with
        | none => exact hstep.trans (by rw [hone])
        | some place =>
          dsimp only
          rw [ih, hstep, gained_append, hone, ← List.filterMap_append]
          rfl

end MultiStage

theorem QueryService.executeMultiStage_ran (std : RustStd) (s : QueryService) (host : Host) (ctx : CallContext)
    (stages : List (String × Query)) (dryRun : Bool) :
    (s.executeMultiStage std host ctx stages dryRun).2.auditSink =
      s.auditSink.map (· ++ (s.stageAttempts std host ctx stages dryRun).filterMap fun t =>
        t.service.ran host ctx t.query (stageOptions dryRun)) := by
  unfold executeMultiStage stageAttempts
  cases MultiStage.plan std stages with
  | error e => exact (gained_nil s.auditSink).symm
  | ok planned => exact MultiStage.run_ran std host ctx stages planned.2 (stageOptions dryRun) planned.1 .empty _ s

/-! ## The tools -/

namespace ToolCatalog

variable {σ : Type} {b : Backend σ} {std : RustStd} {f : F32} {host : Host} {catalog : ToolCatalog} {v : Server σ}
  {ctx : CallContext} {id : String} {now : Int} {tool : ToolCall}

/-- The tools that send queries to a database. -/
def queryTools : List String := ["run_query", "multi_stage_query"]

/-- The queries a tool hands to the service, and how it asks for them to be run. -/
def attempts (b : Backend σ) (std : RustStd) (host : Host) (catalog : ToolCatalog) (v : Server σ) (ctx : CallContext) :
    ToolCall → List (QueryService.Attempt × ExecuteOptions)
  | .validateQuery query =>
    match Suggest.toCoreQuery std query >>= fun core => (checkFields b v.store ctx std core).map fun _ => core with
    | .error _ => []
    | .ok core => [(⟨v.service b, core⟩, .compile)]
  | .runQuery input =>
    match Suggest.toCoreQuery std input.query >>= fun core => (checkFields b v.store ctx std core).map fun _ => core with
    | .error _ => []
    | .ok core => [(⟨v.service b, core⟩, runOptions catalog input)]
  | .multiStageQuery input =>
    match stagesOf std input with
    | .error _ => []
    | .ok stages =>
      let dryRun := input.dryRun.getD false
      ((v.service b).stageAttempts std host ctx stages dryRun).map fun t => (t, QueryService.stageOptions dryRun)
  | _ => []

/-- The queries of a call: none where the catalog has no such tool, or keeps it from its callers. -/
def callAttempts (b : Backend σ) (std : RustStd) (host : Host) (catalog : ToolCatalog) (v : Server σ) (ctx : CallContext)
    (tool : ToolCall) : List (QueryService.Attempt × ExecuteOptions) :=
  match catalog.get tool.name with
  | none => []
  | some spec => if spec.mutating ∧ !catalog.allowMutations then [] else attempts b std host catalog v ctx tool

/-- The entries of the queries among these that ran. -/
def ranOf (host : Host) (ctx : CallContext) (asked : List (QueryService.Attempt × ExecuteOptions)) : List AuditEntry :=
  asked.filterMap fun t => t.1.service.ran host ctx t.1.query t.2

@[simp] theorem wrote_auditSink {α : Type} (code : String) (called : Res String α × σ) :
    (wrote v code called).2.auditSink = v.auditSink := rfl

theorem register_auditSink (code : String) (model : StoredModel) : (register b v ctx code model).2.auditSink = v.auditSink := by
  unfold register QueryService.registerModel
  cases ctx.requireAdmin <;> rfl

theorem createModel_auditSink (input : CreateModelInput) : (createModel b v ctx input).2.auditSink = v.auditSink := by
  unfold createModel
  cases ctx.requireAdmin.mapErr ToolError.ofService with
  | error e => rfl
  | ok _ =>
    dsimp only
    cases buildModel input with
    | error e => rfl
    | ok model =>
      dsimp only
      cases (wrote v "MODEL_CREATE_FAILED" (b.createModel v.store model)).1 with
      | error e => rfl
      | ok saved => exact register_auditSink "MODEL_REGISTER_FAILED" saved

theorem updateModel_auditSink (input : UpdateModelInput) : (updateModel b v ctx input).2.auditSink = v.auditSink := by
  unfold updateModel
  cases ctx.requireAdmin.mapErr ToolError.ofService with
  | error e => rfl
  | ok _ =>
    dsimp only
    cases readModel b v input.name >>= fun model => changeModel model input with
    | error e => rfl
    | ok model =>
      dsimp only
      cases (wrote v "MODEL_UPDATE_FAILED" (b.updateModel v.store input.name model)).1 with
      | error e => rfl
      | ok saved => exact register_auditSink "MODEL_REGISTER_FAILED" saved

theorem deleteModel_auditSink (name : String) (datasource : Option String) :
    (deleteModel b v ctx name datasource).2.auditSink = v.auditSink := by
  unfold deleteModel
  cases ctx.requireAdmin.mapErr ToolError.ofService with
  | error e => rfl
  | ok _ =>
    dsimp only
    cases (wrote v "MODEL_DELETE_FAILED" (b.deleteModel v.store name datasource)).1 with
    | error e => rfl
    | ok deleted =>
      cases deleted with
      | false => rfl
      | true =>
        simp only [QueryService.unregisterModel]
        cases ctx.requireAdmin <;> rfl

theorem createDatasource_auditSink (input : CreateDatasourceInput) :
    (createDatasource b v ctx input).2.auditSink = v.auditSink := by
  unfold createDatasource
  cases ctx.requireAdmin.mapErr ToolError.ofService <;> rfl

theorem updateDatasource_auditSink (input : UpdateDatasourceInput) :
    (updateDatasource b v ctx input).2.auditSink = v.auditSink := by
  unfold updateDatasource
  cases ctx.requireAdmin.mapErr ToolError.ofService with
  | error e => rfl
  | ok _ =>
    dsimp only
    cases readDatasource b v input.name <;> rfl

theorem deleteDatasource_auditSink (name : String) : (deleteDatasource b v ctx name).2.auditSink = v.auditSink := by
  unfold deleteDatasource
  cases ctx.requireAdmin.mapErr ToolError.ofService >>= fun _ => checkUnused b v name with
  | error e => rfl
  | ok _ =>
    dsimp only
    cases (wrote v "DATASOURCE_DELETE_FAILED" (b.deleteDatasource v.store name)).1 with
    | error e => rfl
    | ok deleted => cases deleted <;> rfl

theorem ranOf_one (s : QueryService) (query : Query) (options : ExecuteOptions) :
    ranOf host ctx [(⟨s, query⟩, options)] = (s.ran host ctx query options).toList := by
  cases hran : s.ran host ctx query options <;> simp [ranOf, hran]

theorem ranOf_validateQuery (query : ToolQuery) : ranOf host ctx (attempts b std host catalog v ctx (.validateQuery query)) = [] := by
  rw [attempts]
  cases Suggest.toCoreQuery std query >>= fun core => (checkFields b v.store ctx std core).map fun _ => core with
  | error e => rfl
  | ok core =>
    apply (ranOf_one (v.service b) core .compile).trans
    rw [QueryService.ran_dry _ _ _ _ rfl, Option.toList_none]

/-- Only a tool that sends queries has any that run. -/
theorem ranOf_attempts (h : ranOf host ctx (attempts b std host catalog v ctx tool) ≠ []) : tool.name ∈ queryTools := by
  cases tool with
  | validateQuery query => exact absurd (ranOf_validateQuery query) h
  | runQuery input => simp [ToolCall.name, queryTools]
  | multiStageQuery input => simp [ToolCall.name, queryTools]
  | _ => exact absurd rfl h

/-- A tool records its queries that ran. -/
theorem dispatch_auditSink : (catalog.dispatch b std f host v ctx id now tool).2.auditSink =
    v.auditSink.map (· ++ ranOf host ctx (attempts b std host catalog v ctx tool)) := by
  cases tool with
  | validateQuery query =>
    rw [ranOf_validateQuery, gained_nil, dispatch, validateQuery]
    cases Suggest.toCoreQuery std query >>= fun core => (checkFields b v.store ctx std core).map fun _ => core with
    | error e => cases e <;> rfl
    | ok core =>
      have hran : (v.service b).ran host ctx core .compile = none := QueryService.ran_dry _ _ _ _ rfl
      have hdry := (v.service b).execute_auditSink host ctx core .compile
      rw [hran, Option.toList_none, gained_nil] at hdry
      dsimp only
      split <;> exact hdry
  | runQuery input =>
    rw [dispatch, runQuery, attempts]
    cases Suggest.toCoreQuery std input.query >>= fun core => (checkFields b v.store ctx std core).map fun _ => core with
    | error e => exact (gained_nil v.auditSink).symm
    | ok core =>
      dsimp only
      rw [ranOf_one]
      exact (v.service b).execute_auditSink host ctx core (runOptions catalog input)
  | multiStageQuery input =>
    rw [dispatch, multiStageQuery, attempts]
    cases stagesOf std input with
    | error e => exact (gained_nil v.auditSink).symm
    | ok stages =>
      apply ((v.service b).executeMultiStage_ran std host ctx stages (input.dryRun.getD false)).trans
      simp only [ranOf, List.filterMap_map]
      rfl
  | createModel input => exact (createModel_auditSink input).trans (gained_nil v.auditSink).symm
  | updateModel input => exact (updateModel_auditSink input).trans (gained_nil v.auditSink).symm
  | deleteModel name datasource => exact (deleteModel_auditSink name datasource).trans (gained_nil v.auditSink).symm
  | createDatasource input => exact (createDatasource_auditSink input).trans (gained_nil v.auditSink).symm
  | updateDatasource input => exact (updateDatasource_auditSink input).trans (gained_nil v.auditSink).symm
  | deleteDatasource name => exact (deleteDatasource_auditSink name).trans (gained_nil v.auditSink).symm
  | _ => exact (gained_nil v.auditSink).symm

theorem call_auditSink : (catalog.call b std f host v ctx id now tool).2.auditSink =
    v.auditSink.map (· ++ ranOf host ctx (callAttempts b std host catalog v ctx tool)) := by
  unfold call callAttempts
  cases catalog.get tool.name with
  | none => exact (gained_nil v.auditSink).symm
  | some spec =>
    dsimp only
    split_ifs
    · exact (gained_nil v.auditSink).symm
    · exact dispatch_auditSink

theorem ranOf_callAttempts (h : ranOf host ctx (callAttempts b std host catalog v ctx tool) ≠ []) :
    tool.name ∈ queryTools := by
  apply @ranOf_attempts σ b std host catalog v ctx tool
  intro hnone
  apply h
  unfold callAttempts
  cases catalog.get tool.name with
  | none => rfl
  | some spec =>
    dsimp only
    split_ifs
    · rfl
    · exact hnone

end ToolCatalog

/-! ## The server -/

namespace Mcp

/-- The code of the tool failure a response reports. -/
def JsonRpcResponse.failure (r : JsonRpcResponse) : Option String :=
  let result := r.result.getD .null
  if result.field "isError" = .bool true then ((result.field "structuredContent").field "code").asStr else none

/-- The tool a line names, where it calls one. -/
def calledTool (fromStr : JsonReader) (line : String) : Option String :=
  match parseRequest fromStr line with
  | .ok request => if request.id.isSome ∧ request.method = "tools/call" then (request.params.field "name").asStr else none
  | .error _ => none

/-- The entry of a tool call that failed. -/
def failedEntry (ctx : CallContext) (tool code : String) : AuditEntry where
  userId := ctx.userId
  tenantId := ctx.tenantId
  action := ctx.principalLabel.getD "query"
  model := some tool
  rowCount := some 0
  success := false
  error := some code

/-- The failures a line's answer reports. -/
def reported (fromStr : JsonReader) (a : Arrival) : Res Empty (Option JsonRpcResponse) → List AuditEntry
  | .ok (some response) => (response.failure.map (failedEntry a.ctx ((calledTool fromStr a.line).getD ""))).toList
  | _ => []

theorem failure_toolResult_error (id : Value) (e : ToolError) :
    (JsonRpcResponse.ok id (McpServer.toolResult e.toJson true)).failure = some e.code := by
  cases e with
  | mk code message hint => cases hint <;> rfl

theorem failure_toolResult_ok (id answer : Value) :
    (JsonRpcResponse.ok id (McpServer.toolResult answer false)).failure = none := by
  simp [JsonRpcResponse.failure, JsonRpcResponse.ok, McpServer.toolResult, Value.field, List.lookup_cons]

section

variable {σ : Type} {server : McpServer} {lib : Libraries} {b : Backend σ} {v : Server σ} {a : Arrival}

/-- The queries a call of a tool hands to the service. -/
def toolAttempts (server : McpServer) (lib : Libraries) (b : Backend σ) (v : Server σ) (a : Arrival) (name : String)
    (arguments : Value) : List (QueryService.Attempt × ExecuteOptions) :=
  let args := match arguments with
    | .null => .object []
    | args => args
  ToolCatalog.callAttempts b lib.std a.host server.catalog v a.ctx (lib.parser.parse name args)

/-- The queries a line asks for: those of the tool it calls. -/
def attempts (server : McpServer) (lib : Libraries) (b : Backend σ) (v : Server σ) (a : Arrival) :
    List (QueryService.Attempt × ExecuteOptions) :=
  match parseRequest lib.fromStr a.line with
  | .error _ => []
  | .ok request =>
    let name := (calledTool lib.fromStr a.line).getD ""
    if name = "" then [] else toolAttempts server lib b v a name ((request.params.get "arguments").getD (.object []))

/-- What a line adds to the trail: the queries of its tool that ran, and the failure it is answered with. -/
def recorded (server : McpServer) (lib : Libraries) (b : Backend σ) (v : Server σ) (a : Arrival) : List AuditEntry :=
  ToolCatalog.ranOf a.host a.ctx (attempts server lib b v a) ++ reported lib.fromStr a (server.respond lib b v a).1

/-- What lines add one after the other. -/
def trail (server : McpServer) (lib : Libraries) (b : Backend σ) : List Arrival → Server σ → List AuditEntry
  | [], _ => []
  | a :: arrivals, v => recorded server lib b v a ++ trail server lib b arrivals (server.respond lib b v a).2

/-- A call of a tool is recorded by its queries that ran and the failure it is answered with. -/
theorem callTool_auditSink {id : Value} {name : String} {arguments : Value} (hname : calledTool lib.fromStr a.line = some name) :
    (server.callTool lib b v a id name arguments).2.auditSink = v.auditSink.map
      (· ++ (ToolCatalog.ranOf a.host a.ctx (toolAttempts server lib b v a name arguments) ++
        reported lib.fromStr a ((server.callTool lib b v a id name arguments).1.map some))) := by
  unfold McpServer.callTool
  have hsink : ((server.toolRequest v a name arguments).call lib.parser b lib.std lib.texts.f32 v).2.auditSink =
      v.auditSink.map (· ++ ToolCatalog.ranOf a.host a.ctx (toolAttempts server lib b v a name arguments)) :=
    ToolCatalog.call_auditSink
  generalize (server.toolRequest v a name arguments).call lib.parser b lib.std lib.texts.f32 v = called at hsink
  obtain ⟨answer, v'⟩ := called
  cases answer with
  | ok output => simpa [reported, Except.map, failure_toolResult_ok] using hsink
  | error fault =>
    cases fault with
    | panic => simpa [reported, Except.map] using hsink
    | err e =>
      have haudit : (v'.withService ((v'.service b).audit a.ctx name 0 false (some e.code))).auditSink =
          v'.auditSink.map (· ++ [failedEntry a.ctx name e.code]) := rfl
      have hreported : reported lib.fromStr a (.ok (some (JsonRpcResponse.ok id (McpServer.toolResult e.toJson true)))) =
          [failedEntry a.ctx name e.code] := by
        simp [reported, failure_toolResult_error, hname]
      dsimp only [Except.map]
      rw [hreported, haudit, hsink, gained_append]

/-- A request that calls no tool leaves everything as it is, and no tool's failure answers it. -/
theorem handle_other {request : JsonRpcRequest} (hmethod : request.method ≠ "tools/call") :
    reported lib.fromStr a ((server.handle lib b v a request).1.map some) = [] ∧
      (server.handle lib b v a request).2 = v := by
  unfold McpServer.handle
  dsimp only
  split
  · exact ⟨rfl, rfl⟩
  · exact ⟨rfl, rfl⟩
  · exact ⟨rfl, rfl⟩
  · rename_i hcall
    exact absurd hcall hmethod
  · exact ⟨rfl, rfl⟩
  · exact ⟨rfl, rfl⟩
  · exact ⟨rfl, rfl⟩

/-- Whatever a line is, it is recorded as the tool call it makes. -/
theorem respond_auditSink :
    (server.respond lib b v a).2.auditSink = v.auditSink.map (· ++ recorded server lib b v a) := by
  unfold recorded attempts McpServer.respond
  cases hparse : parseRequest lib.fromStr a.line with
  | error e => exact (gained_nil v.auditSink).symm
  | ok request =>
    dsimp only
    cases hid : request.id with
    | none =>
      have hcalled : calledTool lib.fromStr a.line = none := by simp [calledTool, hparse, hid]
      rw [hcalled]
      exact (gained_nil v.auditSink).symm
    | some id =>
      dsimp only
      by_cases hmethod : request.method = "tools/call"
      · have hcalled : calledTool lib.fromStr a.line = (request.params.field "name").asStr := by
          simp [calledTool, hparse, hid, hmethod]
        simp only [McpServer.handle, hmethod, hcalled, hid, Option.getD_some]
        cases hname : (request.params.field "name").asStr with
        | none => exact (gained_nil v.auditSink).symm
        | some name =>
          rw [Option.getD_some]
          split_ifs
          · exact (gained_nil v.auditSink).symm
          · apply callTool_auditSink
            rw [hcalled, hname]
      · have hcalled : calledTool lib.fromStr a.line = none := by simp [calledTool, hparse, hmethod]
        obtain ⟨hreported, hv⟩ := handle_other hmethod
        rw [hreported, hv, hcalled]
        exact (gained_nil v.auditSink).symm

/-- **The trail of a session**, by induction on its lines: for each of them the queries its tool
ran, which are those that got to their end, and the failure it was answered with; nothing else.
Only two of the tools have queries that run. -/
theorem session_trail (server : McpServer) (lib : Libraries) (b : Backend σ) (arrivals : List Arrival) (v : Server σ) :
    (server.session lib b arrivals v).2.auditSink = v.auditSink.map (· ++ trail server lib b arrivals v) ∧
      ∀ (v : Server σ) (a : Arrival),
        (∀ t ∈ attempts server lib b v a, (t.1.service.ran a.host a.ctx t.1.query t.2).isSome ↔
          t.1.service.RunsToEnd a.host a.ctx t.1.query t.2) ∧
        (ToolCatalog.ranOf a.host a.ctx (attempts server lib b v a) ≠ [] →
          ∃ tool ∈ ToolCatalog.queryTools, calledTool lib.fromStr a.line = some tool) := by
  refine ⟨?_, fun v a => ⟨?_, ?_⟩⟩
  · induction arrivals generalizing v with
    | nil => exact (gained_nil v.auditSink).symm
    | cons a arrivals ih =>
      rw [McpServer.session, trail]
      dsimp only
      rw [ih, respond_auditSink, gained_append]
  · intro t _
    apply QueryService.ran_isSome_iff
  · intro hran
    unfold attempts at hran
    cases hparse : parseRequest lib.fromStr a.line with
    | error e => simp [hparse, ToolCatalog.ranOf] at hran
    | ok request =>
      rw [hparse] at hran
      dsimp only at hran
      split_ifs at hran with hname
      · exact absurd rfl hran
      · cases hcalled : calledTool lib.fromStr a.line with
        | none => simp [hcalled] at hname
        | some name =>
          rw [hcalled] at hran
          have htool := ToolCatalog.ranOf_callAttempts hran
          rw [lib.parser.name_parse] at htool
          exact ⟨name, htool, rfl⟩

end

end Mcp

end GraphNight
