import GraphNight.Core.Security
import GraphNight.Sql.Engine

/-!
# The governed execution path (`graphnight-runtime/src/governance.rs`)

Policy is applied to the semantic query, SQL is generated for the result, and the
rows that come back are masked. Clock readings are left out. The service's state
carries, beside its own fields, the log of the statements it has handed to a
database.
-/

namespace GraphNight

/-- Errors surfaced to any interface. -/
inductive ServiceError where
  | modelNotFound (name : String)
  | datasourceNotFound (name : String)
  /-- No usable identity was presented. -/
  | unauthenticated (reason : String)
  | policyViolation (reason : String)
  | invalidQuery (reason : String)
  | timeout (seconds : Nat)
  | execution (reason : String)
  | storage (reason : String)
  | unknownTool (name : String)
  | invalid (reason : String)
deriving DecidableEq, Repr

def ServiceError.message : ServiceError → String
  | modelNotFound name => "model not found: " ++ name
  | datasourceNotFound name => "datasource not found: " ++ name
  | unauthenticated reason => "authentication required: " ++ reason
  | policyViolation reason => "policy violation: " ++ reason
  | invalidQuery reason => "invalid query: " ++ reason
  | timeout seconds => "query timeout exceeded (" ++ toString seconds ++ "s)"
  | execution reason => "execution failed: " ++ reason
  | storage reason => "storage error: " ++ reason
  | unknownTool name => "unknown tool: " ++ name
  | invalid reason => reason

/-- How a query response should be shaped for the caller. -/
structure ExecuteOptions where
  /-- Generate SQL but do not touch the database. -/
  dryRun : Bool := false
  /-- Include the generated SQL in the response. -/
  explain : Bool := false
  /-- Hard row cap for this call, applied after policy enforcement. -/
  maxRows : Option Nat := none
deriving DecidableEq, Repr

/-- The row cap applied when neither the call nor the policy sets one. -/
def defaultMaxRows : Nat := 10000

/-- A result row, `serde_json::Map<String, Value>`. -/
abbrev Row := KeyedList (String × Value) Prod.fst

/-- The result of a governed query, independent of transport. -/
structure QueryOutcome where
  data : List Value
  columns : List String
  /-- Present when `explain` was requested (always for dry runs). -/
  sql : Option GeneratedSql
  population : Option Int
  populationInferred : Bool
  /-- True when a row cap was hit. -/
  truncated : Bool
  /-- Rows actually returned. -/
  rowCount : Nat
  /-- Suggested offset to continue from, when truncated. -/
  nextOffset : Option Nat
  /-- The dialect the SQL was generated for. -/
  dialect : String
deriving DecidableEq, Repr

/-- Identity and policy governing one call. -/
structure CallContext where
  userId : Option String := none
  tenantId : Option String := none
  isAdmin : Bool := false
  authRequired : Bool := false
  policy : Option SessionPolicy := none
  /-- Free-form label recorded in audit entries. -/
  principalLabel : Option String := none

namespace CallContext

def sessionPolicy (ctx : CallContext) : SessionPolicy := ctx.policy.getD {}

/-- Reject anonymous callers when the deployment requires auth. -/
def requireAuthenticated (ctx : CallContext) : Res ServiceError Unit :=
  if ctx.authRequired ∧ ctx.userId = none then
    Res.fail (.unauthenticated
      "Authentication required (provide Authorization: Bearer <key> or X-API-Key)")
  else .ok ()

/-- Require an explicit admin identity, for semantic-layer mutations. -/
def requireAdmin (ctx : CallContext) : Res ServiceError Unit :=
  if ctx.isAdmin then .ok () else Res.fail (.policyViolation "Admin privileges required")

end CallContext

/-- The storage calls of the execution path. -/
structure StorageBackend where
  getModel : String → Option String → Res String (Option Model)
  getDatasource : String → Res String (Option DataSource)

/-- What running a statement comes back with. -/
inductive ExecReply where
  | rows (rows : List Row)
  | failed (reason : String)
  | timedOut

/-- What a call depends on outside the service: the databases behind
`SqlEngine::execute_sqlx`, its result cache included, and whether the build
checks `usize` arithmetic. -/
structure Host where
  executeSqlx : DataSource → GeneratedSql → ExecReply
  overflowChecks : Bool

/-- `usize` addition: past the top it panics or wraps around. -/
def Host.usizeAdd {ε : Type} (host : Host) (a b : Nat) : Res ε Nat :=
  if a + b < UInt64.size then .ok (a + b)
  else if host.overflowChecks then .error .panic
  else .ok ((a + b) % UInt64.size)

/-- The governed execution service. -/
structure QueryService where
  sqlEngine : SqlEngine
  storage : StorageBackend
  /-- The entries of the audit sink, when one is attached. -/
  auditSink : Option (List AuditEntry)
  /-- The statements handed to a database so far. -/
  sent : List (DataSource × GeneratedSql)

namespace QueryService

def new (sqlEngine : SqlEngine) (storage : StorageBackend) : QueryService :=
  ⟨sqlEngine, storage, none, []⟩

/-- Apply access control, forced filters and RLS to the logical query. -/
def applyPolicy (policy : SessionPolicy) (query : Query) (modelName datasource : String) :
    Res ServiceError Query := do
  let enforcer : PolicyEnforcer := ⟨policy⟩
  (enforcer.checkModelAccess modelName).mapErr ServiceError.policyViolation
  (enforcer.checkDatasourceAccess datasource).mapErr ServiceError.policyViolation
  return enforcer.applyRls (enforcer.applyForcedFilters query)

/-- The tighter of the policy cap and the per-call cap. -/
def rowCap (policy : SessionPolicy) (perCall : Option Nat) : Nat :=
  let policyCap := policy.maxRows.getD defaultMaxRows
  match perCall with
  | some callCap => min policyCap callCap
  | none => policyCap

/-- Enforce the effective row cap, and return the cap actually applied. -/
def applyRowCap (policy : SessionPolicy) (query : Query) (perCall : Option Nat) : Query × Nat :=
  let effective := rowCap policy perCall
  let limit :=
    match query.limit with
    | some l => min l effective
    | none => effective
  ({ query with limit := some limit }, limit)

/-- A query with its policy applied, and what the rest of the call needs. -/
structure Governed where
  modelName : String
  model : Model
  query : Query
  effectiveLimit : Nat

/-- The steps before any SQL is generated. -/
def govern (s : QueryService) (ctx : CallContext) (query : Query) (options : ExecuteOptions) :
    Res ServiceError Governed := do
  ctx.requireAuthenticated
  let modelName ← Res.ofOption (.invalidQuery "query must set `name` or `source_model`")
    (query.name.or (query.sourceModel.map (·.model)))
  let found ← (s.storage.getModel modelName none).mapErr ServiceError.storage
  let model ← Res.ofOption (.modelNotFound modelName) found
  let policy := ctx.sessionPolicy
  let query ← applyPolicy policy query modelName model.datasource
  let (query, effectiveLimit) := applyRowCap policy query options.maxRows
  return ⟨modelName, model, query, effectiveLimit⟩

/-- The datasource a statement runs on. -/
def connect (s : QueryService) (name : String) : Res ServiceError DataSource := do
  let found ← (s.storage.getDatasource name).mapErr ServiceError.storage
  Res.ofOption (.datasourceNotFound name) found

/-- One mask applied to a row: only a string is replaced. -/
def maskColumn (row : Row) (mask : String × MaskFn) : Res ServiceError Row :=
  match row.get mask.1 with
  | some (_, .string val) =>
    match mask.2 val with
    | some masked => .ok (row.insert (mask.1, .string masked))
    | none => .error .panic
  | _ => .ok row

/-- All masks applied to a row. -/
def maskRow (masks : List (String × MaskFn)) (row : Row) : Res ServiceError Row :=
  masks.foldlM maskColumn row

/-- `data.len() as i64`. -/
def population (data : List Value) : Int := (data.length : Int).bmod UInt64.size

/-- The outcome of a dry run. -/
def dryOutcome (sql : GeneratedSql) (dialect : String) : QueryOutcome where
  data := []
  columns := []
  sql := some sql
  population := none
  populationInferred := false
  truncated := false
  rowCount := 0
  nextOffset := none
  dialect := dialect

/-- The rows of a statement's reply. -/
def replyRows (timeoutSecs : Nat) : ExecReply → Res ServiceError (List Row)
  | .rows rows => .ok rows
  | .failed reason => Res.fail (.execution reason)
  | .timedOut => Res.fail (.timeout timeoutSecs)

/-- The offset to continue from after a page. -/
def nextOffsetOf (host : Host) (offset : Option Nat) (rowCount : Nat) (truncated : Bool) :
    Res ServiceError (Option Nat) :=
  if truncated then (host.usizeAdd (offset.getD 0) rowCount).map some else .ok none

/-- The outcome of a statement that was run. -/
def outcome (host : Host) (policy : SessionPolicy) (options : ExecuteOptions) (gov : Governed)
    (sql : GeneratedSql) (dialect : String) (reply : ExecReply) : Res ServiceError QueryOutcome := do
  let rows ← replyRows (policy.queryTimeoutSecs.getD 300) reply
  let rowCount := rows.length
  let columns := match rows with
    | row :: _ => row.items.map (·.1)
    | [] => []
  let masked ← rows.mapM (maskRow policy.columnMasks.items)
  let data := masked.map fun row => Value.object row.items
  let truncated := decide (gov.effectiveLimit ≤ rowCount)
  let nextOffset ← nextOffsetOf host gov.query.offset rowCount truncated
  return {
    data
    columns
    sql := if options.explain then some sql else none
    population := some (population data)
    populationInferred := true
    truncated
    rowCount
    nextOffset
    dialect }

/-- Write a durable audit entry when a sink is configured. -/
def audit (s : QueryService) (ctx : CallContext) (model : String) (rowCount : Nat) (success : Bool)
    (error : Option String) : QueryService :=
  let entry : AuditEntry :=
    { userId := ctx.userId
      tenantId := ctx.tenantId
      action := ctx.principalLabel.getD "query"
      model := some model
      rowCount := some rowCount
      success
      error }
  { s with auditSink := s.auditSink.map (· ++ [entry]) }

/-- Execute a semantic query under the caller's policy. -/
def execute (s : QueryService) (host : Host) (ctx : CallContext) (query : Query)
    (options : ExecuteOptions) : Res ServiceError QueryOutcome × QueryService :=
  match s.govern ctx query options with
  | .error e => (.error e, s)
  | .ok gov =>
    let generated := s.sqlEngine.generateSql gov.query
    let s := { s with sqlEngine := generated.2 }
    match generated.1.mapErr ServiceError.invalidQuery with
    | .error e => (.error e, s)
    | .ok sql =>
      let dialect := s.sqlEngine.dialectNameForModel gov.modelName
      if options.dryRun then (.ok (dryOutcome sql dialect), s)
      else
        match s.connect gov.model.datasource with
        | .error e => (.error e, s)
        | .ok ds =>
          let s := { s with sent := s.sent ++ [(ds, sql)] }
          match outcome host ctx.sessionPolicy options gov sql dialect (host.executeSqlx ds sql) with
          | .error e => (.error e, s)
          | .ok out => (.ok out, s.audit ctx gov.modelName out.rowCount true none)

/-! ## What a call that succeeds has done -/

/-- The two checks of a policy on a model. -/
def Admits (policy : SessionPolicy) (modelName datasource : String) : Prop :=
  (PolicyEnforcer.mk policy).checkModelAccess modelName = .ok () ∧
    (PolicyEnforcer.mk policy).checkDatasourceAccess datasource = .ok ()

theorem applyPolicy_eq_ok {policy : SessionPolicy} {query query' : Query} {modelName datasource : String} :
    applyPolicy policy query modelName datasource = .ok query' ↔
      Admits policy modelName datasource ∧
        query' = { query with filters := query.filters ++ PolicyEnforcer.policyFilters policy } := by
  simp only [applyPolicy, Res.bind_eq_ok, Res.mapErr_eq_ok, PolicyEnforcer.applyRls_applyForcedFilters,
    Admits, pure, Except.pure, Except.ok.injEq]
  constructor
  · rintro ⟨_, hmodel, _, hds, rfl⟩
    exact ⟨⟨hmodel, hds⟩, rfl⟩
  · rintro ⟨⟨hmodel, hds⟩, rfl⟩
    exact ⟨(), hmodel, (), hds, rfl⟩

/-- The query `govern` hands to the generator. -/
def governedQuery (policy : SessionPolicy) (query : Query) (perCall : Option Nat) : Query :=
  (applyRowCap policy { query with filters := query.filters ++ PolicyEnforcer.policyFilters policy }
    perCall).1

/-- The name the policy is checked against. -/
def governedName (query : Query) : Option String := query.name.or (query.sourceModel.map (·.model))

/-- **What governance lets through.** -/
theorem govern_eq_ok {s : QueryService} {ctx : CallContext} {query : Query} {options : ExecuteOptions}
    {gov : Governed} :
    s.govern ctx query options = .ok gov ↔
      ctx.requireAuthenticated = .ok () ∧ governedName query = some gov.modelName ∧
        s.storage.getModel gov.modelName none = .ok (some gov.model) ∧
        Admits ctx.sessionPolicy gov.modelName gov.model.datasource ∧
        gov.query = governedQuery ctx.sessionPolicy query options.maxRows ∧
        gov.query.limit = some gov.effectiveLimit := by
  simp only [govern, Res.bind_eq_ok, Res.mapErr_eq_ok, Res.ofOption_eq_ok, applyPolicy_eq_ok, pure,
    Except.pure, Except.ok.injEq, governedName, governedQuery]
  constructor
  · rintro ⟨_, hauth, name, hname, found, hfound, model, rfl, query', ⟨hadmits, rfl⟩, rfl⟩
    exact ⟨hauth, hname, hfound, hadmits, rfl, rfl⟩
  · rintro ⟨hauth, hname, hfound, hadmits, hquery, hlimit⟩
    refine ⟨(), hauth, gov.modelName, hname, _, hfound, gov.model, rfl, _, ⟨hadmits, rfl⟩, ?_⟩
    obtain ⟨name, model, query', limit⟩ := gov
    simp only at hquery hlimit ⊢
    subst hquery
    simpa [applyRowCap] using hlimit

/-- The datasource of a statement is the one storage has under its name. -/
theorem connect_eq_ok {s : QueryService} {name : String} {ds : DataSource} :
    s.connect name = .ok ds ↔ s.storage.getDatasource name = .ok (some ds) := by
  simp only [connect, Res.bind_eq_ok, Res.mapErr_eq_ok, Res.ofOption_eq_ok]
  constructor
  · rintro ⟨found, hfound, rfl⟩
    exact hfound
  · intro hfound
    exact ⟨some ds, hfound, rfl⟩

/-- **What a successful call has done**: it governed the query, got SQL for it
from the engine, and either stopped there (a dry run) or sent that SQL to the
datasource of the governed model and made its outcome from the reply. -/
theorem execute_eq_ok {s : QueryService} {host : Host} {ctx : CallContext} {query : Query}
    {options : ExecuteOptions} {out : QueryOutcome} (h : (s.execute host ctx query options).1 = .ok out) :
    ∃ gov sql, s.govern ctx query options = .ok gov ∧ (s.sqlEngine.generateSql gov.query).1 = .ok sql ∧
      (options.dryRun = true ∧ out = dryOutcome sql (s.sqlEngine.dialectNameForModel gov.modelName) ∧
          (s.execute host ctx query options).2.sent = s.sent ∨
        options.dryRun = false ∧ ∃ ds, s.storage.getDatasource gov.model.datasource = .ok (some ds) ∧
          outcome host ctx.sessionPolicy options gov sql (s.sqlEngine.dialectNameForModel gov.modelName)
            (host.executeSqlx ds sql) = .ok out ∧
          (s.execute host ctx query options).2.sent = s.sent ++ [(ds, sql)]) := by
  unfold execute at h ⊢
  cases hgov : s.govern ctx query options with
  | error e => simp [hgov] at h
  | ok gov =>
    simp only [hgov] at h ⊢
    cases hsql : (s.sqlEngine.generateSql gov.query).1.mapErr ServiceError.invalidQuery with
    | error e => simp [hsql] at h
    | ok sql =>
      rw [Res.mapErr_eq_ok] at hsql
      have hdialect : (s.sqlEngine.generateSql gov.query).2.dialectNameForModel gov.modelName =
          s.sqlEngine.dialectNameForModel gov.modelName := by
        simp [SqlEngine.dialectNameForModel]
      simp only [hsql, Res.mapErr, hdialect] at h ⊢
      refine ⟨gov, sql, rfl, hsql, ?_⟩
      cases hdry : options.dryRun with
      | true =>
        simp only [hdry, if_true, Except.ok.injEq] at h ⊢
        exact .inl ⟨trivial, h.symm, trivial⟩
      | false =>
        simp only [hdry, Bool.false_eq_true, if_false] at h ⊢
        cases hds : connect { s with sqlEngine := (s.sqlEngine.generateSql gov.query).2 }
            gov.model.datasource with
        | error e => simp [hds] at h
        | ok ds =>
          simp only [hds] at h ⊢
          have hstorage : s.storage.getDatasource gov.model.datasource = .ok (some ds) := connect_eq_ok.1 hds
          refine .inr ⟨trivial, ds, hstorage, ?_⟩
          cases hout : outcome host ctx.sessionPolicy options gov sql
              (s.sqlEngine.dialectNameForModel gov.modelName) (host.executeSqlx ds sql) with
          | error e => simp [hout] at h
          | ok out' =>
            simp only [hout, Except.ok.injEq] at h ⊢
            exact ⟨h, rfl⟩

/-- **What an outcome is made of.** -/
theorem outcome_eq_ok {host : Host} {policy : SessionPolicy} {options : ExecuteOptions} {gov : Governed}
    {sql : GeneratedSql} {dialect : String} {reply : ExecReply} {out : QueryOutcome}
    (h : outcome host policy options gov sql dialect reply = .ok out) :
    ∃ rows masked, reply = .rows rows ∧ rows.mapM (maskRow policy.columnMasks.items) = .ok masked ∧
      out.data = masked.map (fun row => Value.object row.items) ∧ out.dialect = dialect := by
  simp only [outcome, Res.bind_eq_ok, pure, Except.pure, Except.ok.injEq] at h
  obtain ⟨rows, hrows, masked, hmasked, next, -, rfl⟩ := h
  refine ⟨rows, masked, ?_, hmasked, rfl, rfl⟩
  cases reply <;> simp_all [replyRows, Res.fail]

/-- **The outcome of the rows of a reply.** -/
theorem outcome_rows {host : Host} {policy : SessionPolicy} {options : ExecuteOptions} {gov : Governed}
    {sql : GeneratedSql} {dialect : String} {rows masked : List Row} {next : Option Nat}
    (hmask : rows.mapM (maskRow policy.columnMasks.items) = .ok masked)
    (hnext : nextOffsetOf host gov.query.offset rows.length (decide (gov.effectiveLimit ≤ rows.length)) =
      .ok next) :
    ∃ out, outcome host policy options gov sql dialect (.rows rows) = .ok out ∧
      out.data = masked.map (fun row => Value.object row.items) ∧ out.rowCount = rows.length ∧
      out.truncated = decide (gov.effectiveLimit ≤ rows.length) ∧ out.nextOffset = next := by
  simp only [outcome, replyRows, hmask, hnext, bind, Except.bind, pure, Except.pure]
  exact ⟨_, rfl, rfl, rfl, rfl, rfl⟩

/-- **When a call succeeds**: the steps that can fail do not. -/
theorem execute_ok {s : QueryService} {host : Host} {ctx : CallContext} {query : Query}
    {options : ExecuteOptions} {gov : Governed} {sql : GeneratedSql} {ds : DataSource} {out : QueryOutcome}
    (hgov : s.govern ctx query options = .ok gov) (hsql : (s.sqlEngine.generateSql gov.query).1 = .ok sql)
    (hdry : options.dryRun = false) (hds : s.storage.getDatasource gov.model.datasource = .ok (some ds))
    (hout : outcome host ctx.sessionPolicy options gov sql (s.sqlEngine.dialectNameForModel gov.modelName)
      (host.executeSqlx ds sql) = .ok out) :
    (s.execute host ctx query options).1 = .ok out := by
  have hconnect : connect { s with sqlEngine := (s.sqlEngine.generateSql gov.query).2 } gov.model.datasource =
      .ok ds := connect_eq_ok.2 hds
  have hdialect : (s.sqlEngine.generateSql gov.query).2.dialectNameForModel gov.modelName =
      s.sqlEngine.dialectNameForModel gov.modelName := by
    simp [SqlEngine.dialectNameForModel]
  simp only [execute, hgov, hsql, Res.mapErr, hdialect, hdry, Bool.false_eq_true, if_false, hconnect, hout]

/-- A call leaves storage and everything of the engine but its cache alone. -/
theorem execute_frame (s : QueryService) (host : Host) (ctx : CallContext) (query : Query)
    (options : ExecuteOptions) :
    (s.execute host ctx query options).2.storage = s.storage ∧
      (s.execute host ctx query options).2.sqlEngine.generator = s.sqlEngine.generator := by
  unfold execute
  dsimp only
  repeat' split
  all_goals simp [audit]

end QueryService

end GraphNight
