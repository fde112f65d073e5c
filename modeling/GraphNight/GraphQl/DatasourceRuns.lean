import GraphNight.GraphQl.EngineSync
import GraphNight.Runtime.References
import GraphNight.Sql.Executor

/-!
# Datasources that change under their pools

Pools and cached rows are kept under the names of datasources, and no mutation of a
datasource tells the executor. What runs on a datasource is what its stored record says, as
long as no mutation stores another configuration under a name with a pool or fresh rows.
-/

namespace GraphNight

/-- A process with its executor, on a clock, and the datasource the rows last stored at
each key of the result cache were read from. -/
structure ExecutorState (σ : Type) where
  server : Server σ
  executor : QueryExecutor
  origin : UInt64 → Option StoredDataSource
  now : Nat

/-- A mutation of datasources. -/
def AdminMutation.ofDatasources : AdminMutation → Bool
  | .tool _ _ _ (.createDatasource _) _ | .tool _ _ _ (.updateDatasource _) _ | .tool _ _ _ (.deleteDatasource _) _ => true
  | .graphQl _ (.createDatasource _) | .graphQl _ (.updateDatasource ..) => true
  | _ => false

section

variable {σ : Type} (b : Backend σ) (d : AdminHost) (host : ExecutorHost)

/-- The state after a mutation, whatever comes of it. -/
def AdminMutation.run (v : Server σ) : AdminMutation → Server σ
  | .tool ctx id now call _ => (d.catalog.call b d.std d.json d.host v ctx id now call).2
  | .graphQl ctx mutation => { v with store := (mutation.run b d.mutations ctx v.store).2 }

/-- The write a mutation of datasources makes, once it is let through. -/
inductive AdminMutation.Writes (v : Server σ) : AdminMutation → StorageWrite → Prop where
  | tool {ctx : CallContext} {id : String} {now : Int} {call : ToolCall} {h : call.mutating = true} {w : StorageWrite} :
      ctx.isAdmin = true → d.catalog.allowMutations = true → ToolCatalog.Writes b v call w →
      Writes v (.tool ctx id now call h) w
  | createDatasource {ctx : GraphQLContext} {input : GraphQl.CreateDatasourceInput} :
      (ctx.requireAdminIfAuth >>= fun _ =>
        Secrets.validateConnectionStringInput d.mutations.env input.connectionString) = .ok () →
      Writes v (.graphQl ctx (.createDatasource input)) (.createDatasource (GraphQl.newDatasource input))
  | updateDatasource {ctx : GraphQLContext} {name : String} {input : GraphQl.UpdateDatasourceInput} {ds : StoredDataSource} :
      GraphQl.planDatasource b v.store ctx d.mutations.env name input = .ok ds →
      Writes v (.graphQl ctx (.updateDatasource name input)) (.updateDatasource name ds)

/-- The key of the rows a statement is answered with. -/
def ExecutorState.resultKey (st : ExecutorState σ) (ds : StoredDataSource) (sql : GeneratedSql) : UInt64 :=
  QueryExecutor.resultKey ds.name st.server.sqlEngine.policyFingerprint sql

/-- A statement on a datasource, until it is answered. -/
def ExecutorState.execute (st : ExecutorState σ) (dbs : Databases) (ds : StoredDataSource) (sql : GeneratedSql) :
    Res String (List RowMap) × ExecutorState σ :=
  let (reply, executor) := st.executor.executeSqlx host dbs st.server.sqlEngine.policyFingerprint st.now ds sql
  let key := st.resultKey ds sql
  let fetched := (st.executor.resultCache.getMaps st.now key).1.isNone && reply.toOption.isSome
  (reply, { st with
    executor
    origin := if fetched then Function.update st.origin key (some ds) else st.origin
    now := st.executor.finished dbs st.server.sqlEngine.policyFingerprint st.now ds sql })

/-- An execution against a datasource runs on a connection opened with its stored
configuration, and no rows come from an earlier one. -/
structure TakesEffect (st : ExecutorState σ) (ds : StoredDataSource) (sql : GeneratedSql) (dbs : Databases) : Prop where
  connection : ∀ kind pool, (st.executor.resultCache.getMaps st.now (st.resultKey ds sql)).1 = none →
    host.driverKind ds.driver = some kind → (st.executor.connectionManager.getPool host dbs ds kind).1 = .ok pool →
    ds.pool host kind = .ok pool
  rows : ∀ rows origin, (st.executor.resultCache.getMaps st.now (st.resultKey ds sql)).1 = some rows →
    st.origin (st.resultKey ds sql) = some origin → origin.name = ds.name →
    origin.configuration host = ds.configuration host

/-- What is open and cached under the name of a datasource is of its configuration. -/
structure ConfiguredAs (st : ExecutorState σ) (ds : StoredDataSource) : Prop where
  pools : ∀ kind pool, host.driverKind ds.driver = some kind →
    (ds.name, pool) ∈ (st.executor.connectionManager.pools kind).items → ds.pool host kind = .ok pool
  rows : ∀ e ∈ st.executor.resultCache.inner.entries, st.now - e.2.insertedAt ≤ st.executor.resultCache.ttl →
    ∀ origin, st.origin e.1 = some origin → origin.name = ds.name → origin.configuration host = ds.configuration host

variable {b} (c : b.Catalogue)

/-- A datasource is created under a name, or updated, only with the configuration of what
is open and cached under that name. -/
def KeepsConfiguration (st : ExecutorState σ) : StorageWrite → Prop
  | .createDatasource ds => (∀ e ∈ c.datasourceEntries st.server.store, e.1 ≠ ds.name) → ConfiguredAs host st ds
  | .updateDatasource _ ds => ConfiguredAs host st ds
  | _ => True

/-- Histories of mutations of datasources that `may` allows, whatever comes of them, and of
executions on stored datasources, from a store whose datasources have their names and an
executor that has run nothing. -/
inductive DatasourceRun (may : ExecutorState σ → AdminMutation → Prop) : ExecutorState σ → Prop where
  | start {v : Server σ} {origin : UInt64 → Option StoredDataSource} {now : Nat} : c.valid v.store → NamedByKey c v.store →
      DatasourceRun may ⟨v, {}, origin, now⟩
  | wait {st : ExecutorState σ} (delay : Nat) : DatasourceRun may st → DatasourceRun may { st with now := st.now + delay }
  | mutate {st : ExecutorState σ} (m : AdminMutation) : DatasourceRun may st → m.ofDatasources = true → may st m →
      DatasourceRun may { st with server := m.run b d st.server }
  | execute {st : ExecutorState σ} (name : String) (ds : StoredDataSource) (dbs : Databases) (sql : GeneratedSql) :
      DatasourceRun may st → b.getDatasource st.server.store name = .ok (some ds) →
      DatasourceRun may (st.execute host dbs ds sql).2

end

section

variable {σ : Type} {b : Backend σ} {d : AdminHost} {host : ExecutorHost} {c : b.Catalogue} {st : ExecutorState σ}
  {dbs : Databases} {ds : StoredDataSource} {sql : GeneratedSql} {name : String}

/-! ## What a mutation writes -/

theorem AdminMutation.run_writes {m : AdminMutation} {v : Server σ} (h : m.ofDatasources = true) :
    (m.run b d v).store = v.store ∨ ∃ w, m.Writes b d v w ∧ (m.run b d v).store = (b.write v.store w).2 := by
  cases m with
  | tool ctx id now call hmutating =>
    rcases d.catalog.call_writes b d.std d.json d.host v ctx id now hmutating with ⟨e, hrefused⟩ | ⟨hadmin, hallow, w, hwrites, hstore⟩
    · left
      show (d.catalog.call b d.std d.json d.host v ctx id now call).2.store = v.store
      rw [hrefused]
    · exact .inr ⟨w, .tool hadmin hallow hwrites, hstore⟩
  | graphQl ctx mutation =>
    cases mutation with
    | createDatasource input =>
      dsimp only [run, GraphQl.Mutation.run, GraphQl.createDatasource]
      split
      · exact .inl rfl
      · rename_i hgate
        exact .inr ⟨_, .createDatasource hgate, rfl⟩
    | updateDatasource name input =>
      dsimp only [run, GraphQl.Mutation.run, GraphQl.updateDatasource]
      split
      · exact .inl rfl
      · rename_i ds hplan
        exact .inr ⟨_, .updateDatasource hplan, rfl⟩
    | _ => cases h

/-- A datasource is put at its name. -/
theorem AdminMutation.Writes.named {m : AdminMutation} {v : Server σ} {w : StorageWrite} (h : m.Writes b d v w)
    (hnamed : NamedByKey c v.store) (hv : c.valid v.store) {e : String × StoredDataSource}
    (he : CatalogueLayout.putsDatasource w = some e) : e.2.name = e.1 := by
  cases h with
  | tool _ _ hwrites =>
    cases hwrites with
    | createDatasource =>
      obtain rfl := Option.some.inj he
      rfl
    | updateDatasource hfound =>
      obtain rfl := Option.some.inj he
      exact changeDatasource_name hnamed hv hfound
    | _ => cases he
  | createDatasource =>
    obtain rfl := Option.some.inj he
    rfl
  | @updateDatasource _ name _ ds hplan =>
    obtain rfl := Option.some.inj he
    obtain ⟨found, hfound, rfl⟩ := planDatasource_eq_ok hplan
    exact hnamed (name, found) (c.getDatasource hv hfound)

/-! ## The invariant -/

/-- Everything that is open or cached for a stored datasource is of its configuration. -/
structure Coherent (c : b.Catalogue) (host : ExecutorHost) (st : ExecutorState σ) : Prop where
  valid : c.valid st.server.store
  named : NamedByKey c st.server.store
  configured : ∀ e ∈ c.datasourceEntries st.server.store, ConfiguredAs host st e.2

theorem ConfiguredAs.wait (h : ConfiguredAs host st ds) (delay : Nat) :
    ConfiguredAs host { st with now := st.now + delay } ds where
  pools := h.pools
  rows e he hfresh := h.rows e he (by dsimp only at hfresh; omega)

theorem Coherent.wait (h : Coherent c host st) (delay : Nat) : Coherent c host { st with now := st.now + delay } :=
  ⟨h.valid, h.named, fun e he => (h.configured e he).wait delay⟩

/-- **A mutation of datasources keeps what is open and cached right.** -/
theorem Coherent.mutate (h : Coherent c host st) {m : AdminMutation} (hm : m.ofDatasources = true)
    (hmay : ∀ w, m.Writes b d st.server w → KeepsConfiguration host c st w) :
    Coherent c host { st with server := m.run b d st.server } := by
  have hsame : ∀ {v : Server σ} {ds}, ConfiguredAs host st ds → ConfiguredAs host { st with server := v } ds :=
    fun hds => ⟨hds.pools, hds.rows⟩
  rcases AdminMutation.run_writes hm with hstore | ⟨w, hwrites, hstore⟩
  · refine ⟨?_, ?_, fun e he => hsame (h.configured e ?_)⟩
    · rw [hstore]
      exact h.valid
    · rw [hstore]
      exact h.named
    · rwa [hstore] at he
  · refine ⟨?_, ?_, fun e he => hsame ?_⟩
    · rw [hstore]
      exact c.valid_write w h.valid
    · rw [hstore]
      exact h.named.write h.valid fun e he => hwrites.named h.named h.valid he
    · rw [hstore] at he
      have hkeeps := hmay w hwrites
      rcases (c.effect w h.valid).datasourceEntry he with hput | hbefore
      · cases w with
        | createDatasource ds =>
          obtain rfl := Option.some.inj hput
          by_cases hfree : ∀ e ∈ c.datasourceEntries st.server.store, e.1 ≠ ds.name
          · exact hkeeps hfree
          · -- under a name that is taken nothing is created
            obtain ⟨e, hmem, htaken⟩ := by simpa only [not_forall, not_not, exists_prop] using hfree
            obtain ⟨err, hrefused⟩ := c.createDatasource_taken h.valid hmem htaken
            have hunchanged : (b.write st.server.store (.createDatasource ds)).2 = st.server.store :=
              congrArg Prod.snd hrefused
            rw [hunchanged] at he
            exact h.configured _ he
        | updateDatasource name ds =>
          obtain rfl := Option.some.inj hput
          exact hkeeps
        | _ => cases hput
      · exact h.configured e hbefore

/-- A stored datasource of a name is the one storage finds. -/
theorem Coherent.eq_of_name (h : Coherent c host st) (hds : b.getDatasource st.server.store name = .ok (some ds))
    {e : String × StoredDataSource} (he : e ∈ c.datasourceEntries st.server.store) (hname : e.2.name = ds.name) : e.2 = ds := by
  have hmem := c.getDatasource h.valid hds
  have hkey : e.1 = name := by
    rw [← h.named e he, hname]
    exact h.named _ hmem
  rw [c.datasources_distinct h.valid hmem he hkey]

/-- The rows in the cache after an execution: those from before, and its own. -/
theorem origin_execute {e : UInt64 × ResultEntry}
    (he : e ∈ (st.execute host dbs ds sql).2.executor.resultCache.inner.entries) :
    (st.execute host dbs ds sql).2.origin e.1 = some ds ∨
      e ∈ st.executor.resultCache.inner.entries ∧ (st.execute host dbs ds sql).2.origin e.1 = st.origin e.1 := by
  unfold ExecutorState.execute at he ⊢
  dsimp only [ExecutorState.resultKey] at he ⊢
  rcases st.executor.executeSqlx_cases host dbs st.server.sqlEngine.policyFingerprint st.now ds sql with
    ⟨rows, hhit, hrun⟩ | ⟨hmiss, ⟨rows, -, hrun⟩ | ⟨fault, hrun⟩⟩
  · rw [hrun] at he ⊢
    rw [hhit]
    exact .inr ⟨ResultCache.mem_getMaps he, rfl⟩
  · rw [hrun] at he ⊢
    rw [hmiss]
    by_cases hkey : e.1 = QueryExecutor.resultKey ds.name st.server.sqlEngine.policyFingerprint sql
    · left
      rw [hkey]
      exact Function.update_self _ _ _
    · right
      refine ⟨?_, Function.update_of_ne hkey _ _⟩
      rcases Lru.mem_put he with rfl | hbefore
      · exact absurd rfl hkey
      · exact ResultCache.mem_getMaps hbefore
  · rw [hrun] at he ⊢
    rw [hmiss]
    exact .inr ⟨ResultCache.mem_getMaps he, rfl⟩

theorem pools_execute {kind : PoolKind} {e : String × Pool}
    (he : e ∈ ((st.execute host dbs ds sql).2.executor.connectionManager.pools kind).items) :
    e ∈ (st.executor.connectionManager.pools kind).items ∨
      host.driverKind ds.driver = some kind ∧ e.1 = ds.name ∧ ds.pool host kind = .ok e.2 := by
  unfold ExecutorState.execute at he
  dsimp only at he
  rcases st.executor.executeSqlx_cases host dbs st.server.sqlEngine.policyFingerprint st.now ds sql with
    ⟨rows, -, hrun⟩ | ⟨-, ⟨rows, -, hrun⟩ | ⟨fault, hrun⟩⟩
  · rw [hrun] at he
    exact .inl he
  · rw [hrun] at he
    exact ConnectionManager.mem_pools_executeStreamingCollect he
  · rw [hrun] at he
    exact ConnectionManager.mem_pools_executeStreamingCollect he

@[simp] theorem execute_ttl : (st.execute host dbs ds sql).2.executor.resultCache.ttl = st.executor.resultCache.ttl := by
  unfold ExecutorState.execute
  dsimp only
  rcases st.executor.executeSqlx_cases host dbs st.server.sqlEngine.policyFingerprint st.now ds sql with
    ⟨rows, -, hrun⟩ | ⟨-, ⟨rows, -, hrun⟩ | ⟨fault, hrun⟩⟩
  · rw [hrun]
    exact ResultCache.getMaps_ttl
  · rw [hrun]
    exact ResultCache.getMaps_ttl
  · rw [hrun]
    exact ResultCache.getMaps_ttl

theorem le_now_execute : st.now ≤ (st.execute host dbs ds sql).2.now := by
  unfold ExecutorState.execute QueryExecutor.finished
  dsimp only
  split_ifs <;> omega

/-- Another execution opens and caches nothing of another configuration under the name. -/
theorem ConfiguredAs.execute (h : ConfiguredAs host st ds) {ds' : StoredDataSource} (hsame : ds.name = ds'.name → ds = ds') :
    ConfiguredAs host (st.execute host dbs ds' sql).2 ds where
  pools kind pool hkind hpool := by
    rcases pools_execute hpool with hbefore | ⟨-, hname, hopened⟩
    · exact h.pools kind pool hkind hbefore
    · rwa [hsame hname]
  rows e he hfresh origin horigin hname := by
    rw [execute_ttl] at hfresh
    rcases origin_execute he with hown | ⟨hbefore, hkept⟩
    · obtain rfl := Option.some.inj (hown.symm.trans horigin)
      rw [hsame hname.symm]
    · have hlater := @le_now_execute σ host st dbs ds' sql
      exact h.rows e hbefore (by omega) origin (hkept.symm.trans horigin) hname

theorem Coherent.execute (h : Coherent c host st) (hds : b.getDatasource st.server.store name = .ok (some ds)) :
    Coherent c host (st.execute host dbs ds sql).2 where
  valid := h.valid
  named := h.named
  configured e he := (h.configured e he).execute (h.eq_of_name hds he)

/-- An execution on a stored datasource, where everything is right. -/
theorem Coherent.takesEffect (h : Coherent c host st) (hds : b.getDatasource st.server.store name = .ok (some ds)) :
    TakesEffect host st ds sql dbs := by
  have hconfigured := h.configured _ (c.getDatasource h.valid hds)
  constructor
  · intro kind pool _ hkind hpool
    rcases ConnectionManager.getPool_eq_ok hpool with hopen | hopened
    · exact hconfigured.pools kind pool hkind hopen
    · exact hopened
  · intro rows origin hcached horigin hname
    obtain ⟨entry, hentry, hfresh, -⟩ := ResultCache.getMaps_eq_some hcached
    exact hconfigured.rows _ hentry hfresh origin horigin hname

/-- **A datasource change takes effect** in every history whose mutations store no other
configuration under a name that something is open or cached for. -/
theorem datasource_change_takes_effect
    (h : DatasourceRun d host c (fun st m => ∀ w, m.Writes b d st.server w → KeepsConfiguration host c st w) st) :
    ∀ name ds, b.getDatasource st.server.store name = .ok (some ds) → ∀ sql dbs, TakesEffect host st ds sql dbs := by
  suffices hrun : Coherent c host st from fun _ _ hds _ _ => hrun.takesEffect hds
  induction h with
  | start hv hnamed =>
    refine ⟨hv, hnamed, fun e he => ⟨?_, ?_⟩⟩
    · intro kind pool _ hpool
      cases kind <;> cases hpool
    · intro e' he'
      cases he'
  | wait delay _ ih => exact ih.wait delay
  | mutate m _ hm hmay ih => exact ih.mutate hm hmay
  | execute name ds dbs sql _ hds ih => exact ih.execute hds

end

/-! ## A datasource that moves -/

namespace Moved

def exec : ExecutorHost := ⟨fun _ => none, false⟩

/-- Databases that say where they are. -/
def databases : Databases where
  connect _ _ := .ok ()
  fetch _ pool _ := .ok [.ofList [("url", .string pool.url)]]

def statement : GeneratedSql := ⟨"SELECT 1", [], "SELECT 1"⟩

def other : GeneratedSql := ⟨"SELECT 2", [], "SELECT 2"⟩

def warehouse : StoredDataSource := { name := "warehouse", driver := "pg", connectionString := "postgres://db" }

/-- A process that knows the warehouse. -/
def known : ExecutorState YamlStorage :=
  ⟨{ Untold.empty with store := { datasources := .ofList [("warehouse", warehouse)] } }, {}, fun _ => none, 0⟩

/-- The process once it has run the statement. -/
def used : ExecutorState YamlStorage := (known.execute exec databases warehouse statement).2

def move : AdminMutation :=
  .tool Untold.admin "" 0 (.updateDatasource { name := "warehouse", connectionString := some "postgres://new" }) rfl

def moved : ExecutorState YamlStorage := { used with server := move.run Untold.storage Untold.host used.server }

def newWarehouse : StoredDataSource := { warehouse with connectionString := "postgres://new" }

abbrev Run (may : ExecutorState YamlStorage → AdminMutation → Prop) : ExecutorState YamlStorage → Prop :=
  DatasourceRun Untold.host exec Untold.catalogue may

theorem run_used (may : ExecutorState YamlStorage → AdminMutation → Prop) : Run may used := by
  refine .execute "warehouse" warehouse databases statement (.start trivial ?_) rfl
  intro e he
  obtain rfl := List.mem_singleton.1 he
  rfl

end Moved

open Moved in
/-- After a move, the statement that ran is answered with the old rows, and another one runs
on the old connection. -/
theorem moved_datasource_kept : Run (fun _ _ => True) moved ∧
    Untold.storage.getDatasource moved.server.store "warehouse" = .ok (some newWarehouse) ∧
      ¬TakesEffect exec moved newWarehouse statement databases ∧ ¬TakesEffect exec moved newWarehouse other databases := by
  refine ⟨.mutate move (run_used _) rfl trivial, rfl, fun h => ?_, fun h => ?_⟩
  · have hsame := h.rows [.ofList [("url", .string "postgres://db")]] warehouse (by rfl) (by rfl) rfl
    exact absurd hsame (by decide +kernel)
  · have hsame := h.connection .postgres ⟨"postgres://db", 10⟩ (by rfl) rfl (by rfl)
    exact absurd hsame (by decide +kernel)

namespace Moved

def describe : AdminMutation :=
  .tool Untold.admin "" 0 (.updateDatasource { name := "warehouse", description := some "orders since 2020" }) rfl

def described : ExecutorState YamlStorage := { used with server := describe.run Untold.storage Untold.host used.server }

def describedWarehouse : StoredDataSource := { warehouse with description := some "orders since 2020" }

theorem configuredAs_described : ConfiguredAs exec used describedWarehouse where
  pools kind pool hkind hpool := by
    obtain rfl : PoolKind.postgres = kind := Option.some.inj hkind
    obtain rfl : pool = ⟨"postgres://db", 10⟩ := congrArg Prod.snd (List.mem_singleton.1 hpool)
    rfl
  rows e he _ origin horigin _ := by
    obtain rfl := List.mem_singleton.1 he
    have hown : used.origin (known.resultKey warehouse statement) = some warehouse := by rfl
    obtain rfl := Option.some.inj (hown.symm.trans horigin)
    rfl

end Moved

open Moved in
/-- A datasource that is described anew keeps its connection. -/
theorem datasource_change_takes_effect_described : TakesEffect exec described describedWarehouse statement databases := by
  apply datasource_change_takes_effect (c := Untold.catalogue) (d := Untold.host) _ "warehouse" describedWarehouse rfl
  refine .mutate describe (run_used _) rfl fun w hwrites => ?_
  cases hwrites with
  | tool _ _ hwrites =>
    cases hwrites with
    | updateDatasource hfound =>
      obtain rfl := Option.some.inj (Except.ok.inj hfound)
      exact configuredAs_described

end GraphNight
