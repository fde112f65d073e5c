import GraphNight.Sql.Engine
import GraphNight.Sql.Footprint

/-!
# The plan cache over a run

Models come and go while queries are answered, and nothing is dropped from the plan
cache but by its capacity. A run records what each query met when it was asked; the
invariant says that a cached plan is what the generator said when its query was last
asked in its dialect.
-/

namespace GraphNight

namespace PlanCache

/-- Drop a plan, as a full cache does. -/
def evict (c : PlanCache) (key : UInt64) : PlanCache := { c with inner := c.inner.pop key }

theorem All.evict {p : UInt64 → GeneratedSql → Prop} {c : PlanCache} (h : c.All p) (key : UInt64) :
    (c.evict key).All p := by
  intro e he
  exact h e (Lru.mem_pop he)

/-- A plan in the cache is found under its key, or another one is. -/
theorem get_ne_none {c : PlanCache} {key : UInt64} {sql : GeneratedSql} (h : (key, sql) ∈ c.inner.entries) :
    (c.get key).1 ≠ none := by
  have hpeek : c.inner.peek key ≠ none := by
    intro hnone
    have hdiffers := List.lookup_eq_none_iff.1 hnone (key, sql) h
    simp at hdiffers
  unfold PlanCache.get
  simp only [Lru.get_fst]
  split
  · simp
  · contradiction

end PlanCache

namespace SqlEngine

open SqlGenerator

/-- The engine with another registry. -/
def withRegistry (e : SqlEngine) (registry : ModelRegistry) : SqlEngine :=
  { e with generator := e.generator.withRegistry registry }

/-- A query that was asked, and the generator it met. -/
structure Asking where
  generator : SqlGenerator
  query : Query

/-- Runs of an engine that starts with an empty cache, with the askings so far, the last
one first. Registering and dropping models may reorder the registry, plans may be
evicted at any time, and a query may be asked where `may` allows it. -/
inductive Run (may : List Asking → SqlEngine → Query → Prop) : List Asking → SqlEngine → Prop where
  | start {e : SqlEngine} : e.planCache.inner.entries = [] → Run may [] e
  | register {asked : List Asking} {e : SqlEngine} {registry : ModelRegistry} (model : Model) : Run may asked e →
      registry.items.Perm (e.registerModel model).generator.modelRegistry.items →
      Run may asked (e.withRegistry registry)
  | unregister {asked : List Asking} {e : SqlEngine} {registry : ModelRegistry} (name : String) : Run may asked e →
      registry.items.Perm (e.unregisterModel name).generator.modelRegistry.items →
      Run may asked (e.withRegistry registry)
  | evict {asked : List Asking} {e : SqlEngine} (key : UInt64) : Run may asked e →
      Run may asked { e with planCache := e.planCache.evict key }
  | ask {asked : List Asking} {e : SqlEngine} {query : Query} : Run may asked e → may asked e query →
      Run may (⟨e.generator, query⟩ :: asked) (e.generateSql query).2

/-- The last time a query was asked in a dialect. -/
def lastAsking (asked : List Asking) (dialectName : String) (query : Query) : Option Asking :=
  asked.find? fun a => decide (a.query = query ∧ a.generator.resolvedDialectName query = dialectName)

/-- Where a plan is cached under the query's key, the query's footprint is what it was when
the query was last asked in this dialect. -/
def Settled (asked : List Asking) (e : SqlEngine) (query : Query) : Prop :=
  (e.planCache.get (e.keyOf query)).1 ≠ none →
    ∀ a, lastAsking asked (e.generator.resolvedDialectName query) query = some a →
      a.generator.footprint query = e.generator.footprint query

/-- No two of the queries share a key, in whatever dialects. -/
def KeysDistinct (fingerprint : String) (queries : List Query) : Prop :=
  ∀ q ∈ queries, ∀ q' ∈ queries, ∀ d d' : Dialect,
    planKey d.name fingerprint q = planKey d'.name fingerprint q' → d = d' ∧ q = q'

/-- The plan is what the generator said when a query with this key was last asked. -/
def Made (asked : List Asking) (fingerprint : String) (key : UInt64) (sql : GeneratedSql) : Prop :=
  ∃ (query : Query) (dialect : Dialect) (a : Asking), key = planKey dialect.name fingerprint query ∧
    lastAsking asked dialect.name query = some a ∧ a.generator.generate query = .ok sql

/-- What holds all along a run. -/
structure Recorded (asked : List Asking) (e : SqlEngine) : Prop where
  settings : ∀ a ∈ asked, e.generator = a.generator.withRegistry e.generator.modelRegistry
  plans : e.planCache.All (Made asked e.policyFingerprint)

section

variable {asked : List Asking} {e : SqlEngine} {query : Query}

theorem exists_dialect (g : SqlGenerator) (query : Query) : ∃ d : Dialect, g.resolvedDialectName query = d.name := by
  unfold SqlGenerator.resolvedDialectName
  split
  · exact ⟨_, rfl⟩
  · exact ⟨_, rfl⟩

theorem lastAsking_eq_some {dialectName : String} {a : Asking} (h : lastAsking asked dialectName query = some a) :
    a ∈ asked ∧ a.query = query := by
  have hfound := List.find?_some h
  rw [decide_eq_true_eq] at hfound
  exact ⟨List.mem_of_find?_eq_some h, hfound.1⟩

theorem KeysDistinct.mono {fingerprint : String} {queries queries' : List Query}
    (h : KeysDistinct fingerprint queries) (hsub : queries' ⊆ queries) : KeysDistinct fingerprint queries' := by
  intro q hq q' hq'
  exact h q (hsub hq) q' (hsub hq')

/-- A plan cached under a settled query's key is what the generator says now. -/
theorem Recorded.generate_of_cached (h : Recorded asked e)
    (hkeys : KeysDistinct e.policyFingerprint (query :: asked.map (·.query))) (hsettled : Settled asked e query)
    {sql : GeneratedSql} (hmade : Made asked e.policyFingerprint (e.keyOf query) sql)
    (hcached : (e.planCache.get (e.keyOf query)).1 ≠ none) : e.generator.generate query = .ok sql := by
  obtain ⟨query', dialect', a, hkey, hlast, hsql⟩ := hmade
  obtain ⟨dialect, hdialect⟩ := exists_dialect e.generator query
  obtain ⟨hmem, hquery⟩ := lastAsking_eq_some hlast
  have hsame : dialect = dialect' ∧ query = query' := by
    apply hkeys query List.mem_cons_self query'
    · rw [← hquery]
      exact List.mem_cons_of_mem _ (List.mem_map_of_mem hmem)
    · rw [← hkey, keyOf, hdialect]
  obtain ⟨rfl, rfl⟩ := hsame
  have hfootprint := hsettled hcached a (by rw [hdialect]; exact hlast)
  rw [← generate_congr (h.settings a hmem) hfootprint]
  exact hsql

/-- **Asking keeps the record.** -/
theorem Recorded.ask (h : Recorded asked e)
    (hkeys : KeysDistinct e.policyFingerprint (query :: asked.map (·.query))) (hsettled : Settled asked e query) :
    Recorded (⟨e.generator, query⟩ :: asked) (e.generateSql query).2 := by
  constructor
  · intro a ha
    rw [generateSql_generator]
    rcases List.mem_cons.1 ha with rfl | ha
    · rfl
    · exact h.settings a ha
  · rw [generateSql_policyFingerprint]
    obtain ⟨dialect, hdialect⟩ := exists_dialect e.generator query
    have hnow : ∀ sql, e.generator.generate query = .ok sql →
        Made (⟨e.generator, query⟩ :: asked) e.policyFingerprint (e.keyOf query) sql := by
      intro sql hsql
      refine ⟨query, dialect, ⟨e.generator, query⟩, by rw [keyOf, hdialect], ?_, hsql⟩
      exact List.find?_cons_of_pos (by simpa using hdialect)
    have hbefore : e.planCache.All (Made (⟨e.generator, query⟩ :: asked) e.policyFingerprint) := by
      intro entry hentry
      have hmade := h.plans entry hentry
      obtain ⟨query', dialect', a, hkey, hlast, hsql⟩ := hmade
      by_cases hsame : query = query' ∧ e.generator.resolvedDialectName query' = dialect'.name
      · -- the plan of this very query: it is what the generator says now
        obtain ⟨rfl, hname⟩ := hsame
        have hentrykey : entry.1 = e.keyOf query := by rw [hkey, keyOf, hname]
        have hmade : Made asked e.policyFingerprint (e.keyOf query) entry.2 := hentrykey ▸ h.plans entry hentry
        have hcached := PlanCache.get_ne_none hentry
        rw [hentrykey] at hcached ⊢
        exact hnow _ (h.generate_of_cached hkeys hsettled hmade hcached)
      · refine ⟨query', dialect', a, hkey, ?_, hsql⟩
        exact (List.find?_cons_of_neg (by simpa using hsame)).trans hlast
    exact (generateSql_all hbefore hnow).2

/-- **The record over a run.** -/
theorem Run.recorded (h : Run Settled asked e) (hkeys : KeysDistinct e.policyFingerprint (asked.map (·.query))) :
    Recorded asked e := by
  induction h with
  | start hempty =>
    constructor
    · intro a ha
      cases ha
    · intro entry hentry
      rw [hempty] at hentry
      cases hentry
  | register model _ _ ih =>
    have hrecorded := ih hkeys
    exact ⟨fun a ha => by rw [withRegistry, hrecorded.settings a ha]; rfl, hrecorded.plans⟩
  | unregister name _ _ ih =>
    have hrecorded := ih hkeys
    exact ⟨fun a ha => by rw [withRegistry, hrecorded.settings a ha]; rfl, hrecorded.plans⟩
  | evict key _ ih =>
    have hrecorded := ih hkeys
    exact ⟨hrecorded.settings, hrecorded.plans.evict key⟩
  | ask _ hsettled ih =>
    rw [generateSql_policyFingerprint] at hkeys
    have hrecorded := ih (hkeys.mono (List.subset_cons_self _ _))
    exact hrecorded.ask hkeys hsettled

/-- **The plan cache is transparent** along every run whose askings are settled: a settled
query is answered with what the generator says at that moment. -/
theorem generateSql_transparent (h : Run Settled asked e)
    (hkeys : KeysDistinct e.policyFingerprint (query :: asked.map (·.query))) (hsettled : Settled asked e query) :
    (e.generateSql query).1 = e.generator.generate query := by
  have hrecorded := h.recorded (hkeys.mono (List.subset_cons_self _ _))
  obtain ⟨sql, hfound, hanswer, -⟩ | ⟨-, hanswer, -⟩ := e.generateSql_cases query
  · have hmade := (hrecorded.plans.get (e.keyOf query)).1 sql hfound
    have hcached : (e.planCache.get (e.keyOf query)).1 ≠ none := by
      rw [hfound]
      simp
    rw [hanswer, hrecorded.generate_of_cached hkeys hsettled hmade hcached]
  · exact hanswer

end

/-! ## A model dropped after it was queried -/

namespace StalePlan

def orders : Model := { name := "orders", datasource := "warehouse", dimensions := [⟨"status", none⟩] }

def customers : Model := { name := "customers", datasource := "warehouse" }

def engine : SqlEngine :=
  (SqlEngine.new .postgres ⟨fun _ => false, fun _ => false⟩).withModels [orders, customers]

def query : Query := { name := some "orders", dimensions := [⟨"status", none⟩] }

/-- The query was answered, then a model was dropped. -/
def after (name : String) : SqlEngine := (engine.generateSql query).2.unregisterModel name

theorem run_after {may : List Asking → SqlEngine → Query → Prop} (h : may [] engine query) (name : String) :
    Run may [⟨engine.generator, query⟩] (after name) :=
  .unregister name (.ask (.start rfl) h) (List.Perm.refl _)

end StalePlan

open StalePlan in
/-- Orders is gone, and a query of it is still answered. -/
theorem dropped_model_still_answers :
    Run (fun _ _ _ => True) [⟨engine.generator, query⟩] (after "orders") ∧
      ((after "orders").generateSql query).1.map (·.sql) =
        .ok "SELECT orders.\"status\" AS \"status\" FROM \"orders\" \"orders\"  GROUP BY orders.\"status\"" ∧
      (after "orders").generator.generate query = Res.fail "Model not found: orders" := by
  refine ⟨run_after trivial _, ?_, ?_⟩
  · decide +kernel
  · decide +kernel

open StalePlan in
/-- A model the query does not depend on may go. -/
theorem generateSql_transparent_other :
    ((after "customers").generateSql query).1 = (after "customers").generator.generate query := by
  have hfirst : Settled [] engine query := fun hcached => absurd rfl hcached
  apply generateSql_transparent (run_after hfirst "customers")
  · intro q hq q' hq' d d' hkey
    have hquery : ∀ q ∈ [query, query], q = query := by simp
    have hdistinct : ([Dialect.postgres, .mySql, .sqlite, .duckDb].map fun d => planKey d.name "" query).Nodup := by
      decide +kernel
    obtain rfl := hquery q hq
    obtain rfl := hquery q' hq'
    have hmem : ∀ d : Dialect, d ∈ [Dialect.postgres, .mySql, .sqlite, .duckDb] := by
      intro d
      cases d <;> decide
    exact ⟨List.inj_on_of_nodup_map hdistinct (hmem d) (hmem d') hkey, rfl⟩
  · intro _ a hlast
    have ha : a = ⟨engine.generator, query⟩ := by simpa using (lastAsking_eq_some hlast).1
    rw [ha]
    decide +kernel

end SqlEngine

end GraphNight
