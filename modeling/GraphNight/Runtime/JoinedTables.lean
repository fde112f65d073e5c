import GraphNight.Runtime.Access

/-!
# Which tables a governed statement names

Governance checks one model. FROM names its table, or those of the SQL it is written in,
and there is one more for every join it declares; nothing asks whether those are
registered, admitted or on the same datasource.
-/

namespace GraphNight

open QueryService SqlGenerator

/-- A registered model the policy admits, on the given datasource. -/
def Trusted (g : SqlGenerator) (policy : SessionPolicy) (datasource name : String) : Prop :=
  ∃ m, g.model name = some m ∧ Admits policy m.name m.datasource ∧ m.datasource = datasource

section

-- the tables a database finds in a text between the brackets of FROM
variable (tablesOf : String → List String)

/-- The tables that FROM names. -/
def fromTables (plan : LogicalPlan) : List String :=
  if plan.sourceIsSql then tablesOf (Str.trimEndMatches ';' (Str.trim plan.sourceTable)) else [plan.sourceTable]

/-- Every table in FROM and in the JOIN clauses of the plan that `maker` has for the
query is that of a trusted model, on the datasource of the base model. -/
def TablesTrusted (g : SqlGenerator) (policy : SessionPolicy) (maker : SqlGenerator) (query : Query) : Prop :=
  ∃ source aliasName base plan, maker.resolveSource query = .ok (source, aliasName) ∧
    maker.buildLogicalPlan query (maker.dialectFor source) source aliasName .placeholder = .ok plan ∧
    g.model source = some base ∧
    ∀ table ∈ fromTables tablesOf plan ++ plan.joins.map (·.table), Trusted g policy base.datasource table

/-- The tables a model is read from: those of the SQL it is written in, if it is, else its own. -/
def ownTables (m : Model) : List String :=
  match sourceOverride (some m) with
  | some sql => tablesOf (Str.trimEndMatches ';' (Str.trim sql))
  | none => [m.name]

/-- The tables the source model is read from, and the target of each join it declares to another model,
are trusted on the source model's datasource. -/
structure SourcesTrusted (g : SqlGenerator) (policy : SessionPolicy) (datasource : String) (declared : Model) : Prop where
  own : ∀ table ∈ ownTables tablesOf declared, Trusted g policy datasource table
  joined : ∀ join ∈ declared.joins, join.model ≠ declared.name → Trusted g policy datasource join.model

/-- The source model that the statement was made of is read from trusted tables. -/
def JoinsTrusted (g : SqlGenerator) (policy : SessionPolicy) (maker : SqlGenerator) (query : Query) : Prop :=
  ∃ source base declared, readName query = some source ∧ g.model source = some base ∧
    maker.model source = some declared ∧ SourcesTrusted tablesOf g policy base.datasource declared

end

/-- A successful call, its statement, and the generator that made the statement: the
engine's own, or as it was when the statement was cached. -/
structure Issued (s : QueryService) (host : Host) (ctx : CallContext) (query : Query)
    (options : ExecuteOptions) (out : QueryOutcome) (sql : GeneratedSql) (maker : SqlGenerator) : Prop where
  succeeded : (s.execute host ctx query options).1 = .ok out
  statement : ∃ dsName, StatementOf s host ctx query options out sql dsName
  made : maker.generate (governedQuery ctx.sessionPolicy query options.maxRows) = .ok sql

section

variable {s : QueryService} {host : Host} {ctx : CallContext} {query : Query} {options : ExecuteOptions}
  {out : QueryOutcome} {sql : GeneratedSql} {maker : SqlGenerator}

/-- Every successful call has a maker of its statement. -/
theorem exists_issued (h : (s.execute host ctx query options).1 = .ok out)
    (hnamed : ∀ name ds, s.storage.getDatasource name = .ok (some ds) → ds.name = name)
    (horigin : s.sqlEngine.PlanOrigin (governedQuery ctx.sessionPolicy query options.maxRows)) :
    ∃ sql maker, Issued s host ctx query options out sql maker := by
  obtain ⟨gov, -, hgov, -, -⟩ := execute_eq_ok h
  obtain ⟨sql, hsql, hstatement, -⟩ := statement_of_execute h hgov hnamed
  obtain ⟨-, -, -, -, hquery, -⟩ := govern_eq_ok.1 hgov
  obtain ⟨maker, hmade, -⟩ := SqlEngine.generateSql_origin horigin (hquery ▸ hsql)
  exact ⟨sql, maker, h, ⟨_, hstatement⟩, hmade⟩

/-- FROM names the tables the source model is read from. -/
theorem fromTables_eq (tablesOf : String → List String) {source aliasName : String} {declared : Model} {plan : LogicalPlan} {d : Dialect}
    (hmodel : maker.model source = some declared) (hplan : maker.buildLogicalPlan query d source aliasName .placeholder = .ok plan) :
    fromTables tablesOf plan = ownTables tablesOf declared := by
  obtain ⟨items, clause, joins, -, -, -, rfl⟩ := buildLogicalPlan_eq_ok.1 hplan
  have hname : declared.name = source := KeyedList.key_of_get hmodel
  unfold fromTables ownTables
  rw [hmodel]
  cases sourceOverride (some declared) with
  | none => exact congrArg (fun name => [name]) hname.symm
  | some sql => rfl

/-- The tables of a plan are those its source is read from and the targets of the joins the source declares. -/
theorem mem_planTables (tablesOf : String → List String) {source aliasName : String} {declared : Model} {plan : LogicalPlan}
    (hsource : maker.resolveSource query = .ok (source, aliasName)) (hmodel : maker.model source = some declared)
    (hplan : maker.buildLogicalPlan query (maker.dialectFor source) source aliasName .placeholder = .ok plan)
    (t : String) : t ∈ fromTables tablesOf plan ++ plan.joins.map (·.table) ↔
      t ∈ ownTables tablesOf declared ∨ ∃ join ∈ declared.joins, join.model ≠ declared.name ∧ join.model = t := by
  rw [List.mem_append, fromTables_eq tablesOf hmodel hplan]
  obtain ⟨items, clause, joins, -, -, hjoins, rfl⟩ := buildLogicalPlan_eq_ok.1 hplan
  have hname : declared.name = source := KeyedList.key_of_get hmodel
  rw [buildJoins_tables (resolveSource_eq_ok.1 hsource).1 hmodel hjoins t, hname]
  refine or_congr Iff.rfl ⟨?_, ?_⟩
  · rintro ⟨hne, join, hjoin, rfl⟩
    exact ⟨join, hjoin, hne, rfl⟩
  · rintro ⟨join, hjoin, hne, rfl⟩
    exact ⟨hne, join, hjoin, rfl⟩

end

/-! ## A join to a model nobody registered -/

namespace DanglingJoin

def orders : Model where
  name := "orders"
  datasource := "warehouse"
  dimensions := [⟨"status", none⟩]
  joins := [⟨"customer", "customers", .left, [("customer_id", "id")], none⟩]

def storage : StorageBackend where
  getModel name _ := .ok ((KeyedList.ofList [orders] : ModelRegistry).get name)
  getDatasource name := .ok (if name = "warehouse" then some ⟨name, "postgres", ""⟩ else none)

/-- No model called customers is registered. -/
def service : QueryService :=
  .new ((SqlEngine.new .postgres ⟨fun _ => false, fun _ => false⟩).withModels [orders]) DanglingJoin.storage

/-- A caller who may read orders and nothing else. -/
def ctx : CallContext :=
  { policy := some { allowedModels := some ["orders"], allowedDatasources := some ["warehouse"] } }

def query : Query := { name := some "orders", dimensions := [⟨"status", none⟩] }

/-- A database that has nothing to say. -/
def host : Host where
  executeSqlx _ _ := .rows []
  overflowChecks := true

end DanglingJoin

namespace WrittenOrders

/-- The orders that stand, each with its customer. -/
def orders : Model :=
  { DanglingJoin.orders with sql := some "SELECT * FROM orders WHERE NOT void;" }

def customers : Model := { name := "customers", datasource := "warehouse" }

def storage : StorageBackend where
  getModel name _ := .ok ((KeyedList.ofList [orders, customers] : ModelRegistry).get name)
  getDatasource name := .ok (if name = "warehouse" then some ⟨name, "postgres", ""⟩ else none)

def service : QueryService :=
  .new ((SqlEngine.new .postgres ⟨fun _ => false, fun _ => false⟩).withModels [orders, customers]) WrittenOrders.storage

/-- A caller who may read the orders, and their customers or not. -/
def ctx (models : List String) : CallContext :=
  { policy := some { allowedModels := some models, allowedDatasources := some ["warehouse"] } }

/-- What a database finds in the text the orders are written in. -/
def tablesOf (sql : String) : List String := if sql = "SELECT * FROM orders WHERE NOT void" then ["orders"] else []

end WrittenOrders

end GraphNight
