import GraphNight.Runtime.Governance

/-!
# The GraphQL fields that run queries (`graphnight-graphql/src/auth.rs`, `resolvers.rs`)

`query` runs a query once under the request's policy; `live_query` runs it again at
every tick of its timer. Both take the query as the schema has converted it. Clock
readings and the fields of a response that are always `None` are left out.
-/

namespace GraphNight

/-- GraphQL request context. -/
structure GraphQLContext where
  sessionPolicy : Option SessionPolicy := none
  userId : Option String := none
  tenantId : Option String := none
  isAdmin : Bool := false
  /-- When true, anonymous requests must be rejected by resolvers. -/
  authRequired : Bool := false
  /-- Whether a durable audit sink is attached. -/
  auditSink : Bool := false

namespace GraphQLContext

/-- The same identity and policy, as the service takes it. -/
def callContext (ctx : GraphQLContext) : CallContext where
  userId := ctx.userId
  tenantId := ctx.tenantId
  isAdmin := ctx.isAdmin
  authRequired := ctx.authRequired
  policy := ctx.sessionPolicy

/-- Require an authenticated user on the request context. -/
def requireUser (ctx : GraphQLContext) : Res String String := Res.ofOption "Authentication required" ctx.userId

/-- Apply session policy to a query. -/
def enforcePolicy (ctx : GraphQLContext) (query : Query) (modelName datasource : String) : Res String Query := do
  let enforcer : PolicyEnforcer := ⟨ctx.sessionPolicy.getD {}⟩
  enforcer.checkModelAccess modelName
  enforcer.checkDatasourceAccess datasource
  return enforcer.enforceRowLimit (enforcer.applyRls (enforcer.applyForcedFilters query))

/-- When auth is required on the server, reject anonymous GraphQL operations. -/
def rejectIfAuthRequired (ctx : GraphQLContext) : Res String Unit :=
  if ctx.authRequired ∧ ctx.userId = none then
    Res.fail "Authentication required (provide Authorization: Bearer <key> or X-API-Key)"
  else .ok ()

/-- User gate that only applies when the server is in auth-required mode. -/
def requireUserIfAuth (ctx : GraphQLContext) : Res String Unit :=
  if ctx.authRequired then ctx.requireUser.map fun _ => () else .ok ()

end GraphQLContext

/-- Query response output. -/
structure QueryResponse where
  data : List Value
  columns : List String
  sql : Option GeneratedSql
deriving DecidableEq, Repr

/-- What the roots of the schema share, the log of the statements handed to a database
and the entries written to audit sinks. -/
structure SchemaRoot where
  sqlEngine : SqlEngine
  storage : StorageBackend
  sent : List (DataSource × GeneratedSql) := []
  audited : List AuditEntry := []

/-- A statement that outlives the service's timeout comes back later with rows, or never. -/
abbrev LateReply := DataSource → GeneratedSql → Option (List Row)

namespace SchemaRoot

/-- The service over the same engine and storage. -/
def service (r : SchemaRoot) : QueryService := ⟨r.sqlEngine, r.storage, none, r.sent⟩

/-- The names of the columns of the first row. -/
def columnsOf : List Row → List String
  | row :: _ => row.items.map (·.1)
  | [] => []

/-- The model a query is run against. -/
def findModel (r : SchemaRoot) (modelName : String) : Res String Model := do
  let found ← r.storage.getModel modelName none
  Res.ofOption ("Model not found: " ++ modelName) found

/-- The datasource of a model. -/
def findDatasource (r : SchemaRoot) (name : String) : Res String DataSource := do
  let found ← r.storage.getDatasource name
  Res.ofOption ("Datasource not found: " ++ name) found

/-- The rows of a reply within the timeout. -/
def replyRows (timeoutSecs : Nat) : ExecReply → Res String (List Row)
  | .rows rows => .ok rows
  | .failed reason => Res.fail reason
  | .timedOut => Res.fail ("Query timeout exceeded (" ++ toString timeoutSecs ++ "s)")

/-- The response to a statement that was run, its rows masked. -/
def respond (ctx : GraphQLContext) (sql : GeneratedSql) (reply : ExecReply) : Res String QueryResponse := do
  let rows ← replyRows ((ctx.sessionPolicy.bind (·.queryTimeoutSecs)).getD 300) reply
  let masks := (ctx.sessionPolicy.map (·.columnMasks.items)).getD []
  -- a mask fails only by a panic
  let masked ← (rows.mapM (QueryService.maskRow masks)).mapErr ServiceError.message
  return ⟨masked.map fun row => .object row.items, columnsOf rows, some sql⟩

/-- The name of the model, for a caller who may ask at all. -/
def nameModel (ctx : GraphQLContext) (query : Query) : Res String String := do
  ctx.rejectIfAuthRequired
  Res.ofOption "Query must have a name or source_model" (query.name.or (query.sourceModel.map (·.model)))

/-- The model of that name, and the query under the request's policy. -/
def governModel (r : SchemaRoot) (ctx : GraphQLContext) (query : Query) (modelName : String) :
    Res String (Model × Query) := do
  let model ← r.findModel modelName
  let query ← ctx.enforcePolicy query modelName model.datasource
  return (model, query)

/-- The steps after the policy has been applied. -/
def executeGoverned (r : SchemaRoot) (host : Host) (ctx : GraphQLContext) (model : Model) (query : Query)
    (dryRun : Option Bool) : Res String QueryResponse × SchemaRoot :=
  if dryRun.getD false then
    let generated := r.sqlEngine.generateSql query
    (generated.1.map fun sql => ⟨[], [], some sql⟩, { r with sqlEngine := generated.2 })
  else
    match r.findDatasource model.datasource with
    | .error e => (.error e, r)
    | .ok ds =>
      let generated := r.sqlEngine.generateSql query
      let r := { r with sqlEngine := generated.2 }
      match generated.1 with
      | .error e => (.error e, r)
      | .ok sql => (respond ctx sql (host.executeSqlx ds sql), { r with sent := r.sent ++ [(ds, sql)] })

/-- Run a query; beside the response, the model name the audit entry is to carry. -/
def executeQuery (r : SchemaRoot) (host : Host) (ctx : GraphQLContext) (query : Query) (dryRun : Option Bool) :
    Option String × Res String QueryResponse × SchemaRoot :=
  match nameModel ctx query with
  | .error e => (none, .error e, r)
  | .ok modelName =>
    match r.governModel ctx query modelName with
    | .error e => (some modelName, .error e, r)
    | .ok (model, query) => (some modelName, r.executeGoverned host ctx model query dryRun)

/-- The audit entry of a `query`; a field that panics writes none. -/
def auditEntry (ctx : GraphQLContext) (modelName : Option String) : Res String QueryResponse → Option AuditEntry
  | .ok response => some
      { userId := ctx.userId, tenantId := ctx.tenantId, action := "query", model := modelName,
        rowCount := some response.data.length, success := true, error := none }
  | .error (.err e) => some
      { userId := ctx.userId, tenantId := ctx.tenantId, action := "query", model := modelName,
        rowCount := none, success := false, error := some e }
  | .error .panic => none

/-- Execute a semantic query. -/
def query (r : SchemaRoot) (host : Host) (ctx : GraphQLContext) (input : Query) (dryRun : Option Bool) :
    Res String QueryResponse × SchemaRoot :=
  let (modelName, result, r) := r.executeQuery host ctx input dryRun
  if ctx.auditSink then (result, { r with audited := r.audited ++ (auditEntry ctx modelName result).toList })
  else (result, r)

/-- One stage of a pipeline, as the executor of the schema takes it. -/
structure StageInput where
  query : Query
  stageName : String
  dependsOn : List String
deriving DecidableEq, Repr

/-- What the executor returns for a stage. -/
structure StageResult where
  data : List Row
  sql : GeneratedSql

/-- Execute multiple queries as a DAG, by an executor whose source is not in the
repository. The names are numbered, so none occurs twice. -/
def multiStageQuery (executeDag : List StageInput → Res String (List StageResult)) (ctx : GraphQLContext)
    (inputs : List Query) (dryRun : Option Bool) : Res String (List QueryResponse) := do
  ctx.rejectIfAuthRequired
  let results ← executeDag (inputs.zipIdx.map fun p =>
    ⟨p.1, "stage_" ++ toString (p.2 + 1), p.1.stageRef.toList⟩)
  let masks := (ctx.sessionPolicy.map (·.columnMasks.items)).getD []
  results.mapM fun result => do
    let masked ← (result.data.mapM (QueryService.maskRow masks)).mapErr ServiceError.message
    return ⟨masked.map fun row => .object row.items, columnsOf result.data,
      if dryRun.getD false then some result.sql else none⟩

/-- The rows a statement comes back with when nothing stops waiting for it. -/
def awaitedRows (late : LateReply) (ds : DataSource) (sql : GeneratedSql) : ExecReply → Option (List Row)
  | .rows rows => some rows
  | .failed _ => none
  | .timedOut => late ds sql

/-- One tick of `live_query`: the response it yields, if any. -/
def liveTick (r : SchemaRoot) (host : Host) (late : LateReply) (query : Query) : Option QueryResponse × SchemaRoot :=
  match query.name.or (query.sourceModel.map (·.model)) with
  | none => (none, r)
  | some modelName =>
    match r.storage.getModel modelName none with
    | .ok (some model) =>
      match r.storage.getDatasource model.datasource with
      | .ok (some ds) =>
        let generated := r.sqlEngine.generateSql query
        let r := { r with sqlEngine := generated.2 }
        match generated.1 with
        | .error _ => (none, r)
        | .ok sql =>
          let rows := awaitedRows late ds sql (host.executeSqlx ds sql)
          (rows.map fun rows => ⟨rows.map fun row => .object row.items, columnsOf rows, some sql⟩,
            { r with sent := r.sent ++ [(ds, sql)] })
      | _ => (none, r)
    | _ => (none, r)

end SchemaRoot

end GraphNight
