import GraphNight.Core.QueryJson
import GraphNight.Sql.Cache

/-!
# The SQL engine (`graphnight-sql/src/lib.rs`)

The generator behind a cache of its plans. A plan is cached under the dialect the
query resolves to, the policy fingerprint and the query itself.
-/

namespace GraphNight

/-- High-level SQL interface combining generator and plan cache. -/
structure SqlEngine where
  generator : SqlGenerator
  planCache : PlanCache
  /-- Optional policy fingerprint included in cache keys (tenant/user scope). -/
  policyFingerprint : String

namespace SqlEngine

def new (dialect : Dialect) (formulaParser : FormulaParser) : SqlEngine :=
  ⟨.new dialect formulaParser, .new 512, ""⟩

def withModels (e : SqlEngine) (models : List Model) : SqlEngine :=
  { e with generator := e.generator.withModels models }

/-- Register datasources so each model generates SQL for its own driver. -/
def withDatasources (e : SqlEngine) (datasources : List DataSource) : SqlEngine :=
  { e with generator := e.generator.withDatasources datasources }

def withPolicyFingerprint (e : SqlEngine) (fingerprint : String) : SqlEngine :=
  { e with policyFingerprint := fingerprint }

/-- Dialect that will be used for a model (driver of its datasource). -/
def dialectNameForModel (e : SqlEngine) (modelName : String) : String :=
  (e.generator.dialectFor modelName).name

/-- Register or replace a model at runtime. -/
def registerModel (e : SqlEngine) (model : Model) : SqlEngine :=
  { e with generator := e.generator.registerModel model }

/-- Drop a model from the in-memory registry. -/
def unregisterModel (e : SqlEngine) (name : String) : SqlEngine :=
  { e with generator := e.generator.unregisterModel name }

/-- The key of a plan: dialect, policy scope and query, hashed one after the other. -/
def planKey (dialectName policyFingerprint : String) (query : Query) : UInt64 :=
  (((FxHasher.new.feedStr dialectName).feedStr policyFingerprint).feedStr query.toJson).digest

/-- The key a query's plan is cached under now. -/
def keyOf (e : SqlEngine) (query : Query) : UInt64 :=
  planKey (e.generator.resolvedDialectName query) e.policyFingerprint query

/-- Generate SQL for a query (plan-cached). -/
def generateSql (e : SqlEngine) (query : Query) : Res String GeneratedSql × SqlEngine :=
  let found := e.planCache.get (e.keyOf query)
  let e := { e with planCache := found.2 }
  match found.1 with
  | some sql => (.ok sql, e)
  | none =>
    match e.generator.generate query with
    | .ok sql => (.ok sql, { e with planCache := e.planCache.insert (e.keyOf query) sql })
    | .error fault => (.error fault, e)

/-- Generating SQL changes nothing but the cache. -/
@[simp] theorem generateSql_generator (e : SqlEngine) (query : Query) :
    (e.generateSql query).2.generator = e.generator := by
  unfold generateSql
  dsimp only
  split
  · rfl
  · split <;> rfl

@[simp] theorem generateSql_policyFingerprint (e : SqlEngine) (query : Query) :
    (e.generateSql query).2.policyFingerprint = e.policyFingerprint := by
  unfold generateSql
  dsimp only
  split
  · rfl
  · split <;> rfl

/-- What a query is answered with, and what the cache holds afterwards: a cached
plan, or what the generator says now, which is stored when it is a plan. -/
theorem generateSql_cases (e : SqlEngine) (query : Query) :
    (∃ sql, (e.planCache.get (e.keyOf query)).1 = some sql ∧ (e.generateSql query).1 = .ok sql ∧
        (e.generateSql query).2.planCache = (e.planCache.get (e.keyOf query)).2) ∨
      (e.planCache.get (e.keyOf query)).1 = none ∧
        (e.generateSql query).1 = e.generator.generate query ∧
        ((e.generateSql query).2.planCache = (e.planCache.get (e.keyOf query)).2 ∨
          ∃ sql, e.generator.generate query = .ok sql ∧
            (e.generateSql query).2.planCache =
              (e.planCache.get (e.keyOf query)).2.insert (e.keyOf query) sql) := by
  unfold generateSql
  dsimp only
  split
  · rename_i sql hsql
    exact .inl ⟨sql, hsql, rfl, rfl⟩
  · rename_i hnone
    refine .inr ⟨hnone, ?_⟩
    split
    · rename_i sql hsql
      exact ⟨hsql.symm, .inr ⟨sql, hsql, rfl⟩⟩
    · rename_i fault hfault
      exact ⟨hfault.symm, .inl rfl⟩

/-- A plan cached for a query was generated for it, in the dialect it resolves to now:
nothing else has been stored under its key. -/
def PlanOrigin (e : SqlEngine) (query : Query) : Prop :=
  ∀ sql, (e.planCache.get (e.keyOf query)).1 = some sql → ∃ g : SqlGenerator,
    g.generate query = .ok sql ∧ g.resolvedDialectName query = e.generator.resolvedDialectName query

theorem generateSql_origin {e : SqlEngine} {query : Query} {sql : GeneratedSql} (h : e.PlanOrigin query)
    (hsql : (e.generateSql query).1 = .ok sql) : ∃ g : SqlGenerator,
      g.generate query = .ok sql ∧ g.resolvedDialectName query = e.generator.resolvedDialectName query := by
  obtain ⟨sql', hfound, hanswer, -⟩ | ⟨-, hanswer, -⟩ := e.generateSql_cases query
  · obtain rfl : sql' = sql := Except.ok.inj (hanswer.symm.trans hsql)
    exact h _ hfound
  · exact ⟨e.generator, hanswer.symm.trans hsql, rfl⟩

/-- A query the generator has a plan for is answered, from the cache or not. -/
theorem generateSql_ok {e : SqlEngine} {query : Query} {sql : GeneratedSql}
    (h : e.generator.generate query = .ok sql) : ∃ sql', (e.generateSql query).1 = .ok sql' := by
  obtain ⟨sql', -, hanswer, -⟩ | ⟨-, hanswer, -⟩ := e.generateSql_cases query
  · exact ⟨sql', hanswer⟩
  · exact ⟨sql, hanswer.trans h⟩

/-- **The engine keeps a cache property**: one that holds of every plan cached so
far and of every plan the generator makes holds of the answer and of the cache
after it. -/
theorem generateSql_all {e : SqlEngine} {query : Query} {p : UInt64 → GeneratedSql → Prop}
    (hcache : e.planCache.All p)
    (hgen : ∀ sql, e.generator.generate query = .ok sql → p (e.keyOf query) sql) :
    (∀ sql, (e.generateSql query).1 = .ok sql → p (e.keyOf query) sql) ∧
      (e.generateSql query).2.planCache.All p := by
  have hget := hcache.get (e.keyOf query)
  obtain ⟨sql, hfound, hanswer, hafter⟩ | ⟨-, hanswer, hafter⟩ := e.generateSql_cases query
  · refine ⟨fun sql' hsql' => ?_, hafter ▸ hget.2⟩
    rw [hanswer] at hsql'
    cases hsql'
    exact hget.1 _ hfound
  · refine ⟨fun sql hsql => hgen sql (hanswer ▸ hsql), ?_⟩
    obtain hafter | ⟨sql, hsql, hafter⟩ := hafter
    · exact hafter ▸ hget.2
    · exact hafter ▸ hget.2.insert (hgen sql hsql)

end SqlEngine

end GraphNight
