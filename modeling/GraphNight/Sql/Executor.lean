import GraphNight.Core.Secrets
import GraphNight.Lib.Utf8
import GraphNight.Sql.Cache
import GraphNight.Storage.Backend

/-!
# The executor and its pools (`graphnight-sql/src/executor.rs`, `execute_sqlx`)

A manager keeps the pools it has opened, one map for each kind of database, under the names
of datasources. Results are cached for a while under the name of the datasource, the policy
and the statement. Statement timeouts, counters and the binding of values are left out.
-/

namespace GraphNight

/-- The name a column comes back under: Postgres keeps 63 bytes of an alias, and MySQL leaves out the
blanks and control characters it begins with. -/
def Dialect.columnName : Dialect → String → String
  | .postgres, s => String.ofList (Utf8.clip 63 s.toList)
  | .mySql, s => String.ofList (s.toList.dropWhile fun c => c.toNat ≤ 0x20 || c.toNat == 0x7F)
  | .sqlite, s | .duckDb, s => s

/-- A row of a result: its values by column name. -/
abbrev RowMap := KeyedList (String × Value) Prod.fst

/-- `pg_row_to_map`, `mysql_row_to_map`, `sqlite_row_to_map`: a column's value is read by its
name, which is the last column's of that name. -/
def rowToMap (columns : List (String × Value)) : RowMap :=
  .ofList (columns.map fun col => (col.1, (columns.reverse.lookup col.1).getD col.2))

/-- Columns with distinct names become the entries of the map. -/
theorem items_rowToMap {columns : List (String × Value)} (h : (columns.map (·.1)).Nodup) : (rowToMap columns).items = columns := by
  have hread : (columns.map fun col => (col.1, (columns.reverse.lookup col.1).getD col.2)) = columns := by
    refine (List.map_congr_left fun col hcol => ?_).trans (List.map_id columns)
    have hreverse : (columns.reverse.map (·.1)).Nodup := by
      rw [List.map_reverse]
      exact List.nodup_reverse.2 h
    have hlookup : columns.reverse.lookup col.1 = some col.2 := by
      obtain ⟨before, after, heq⟩ := List.append_of_mem (List.mem_reverse.2 hcol)
      refine List.lookup_eq_some_iff.2 ⟨before, after, heq, fun other hother => ?_⟩
      rw [heq, List.map_append, List.nodup_append] at hreverse
      have hne := hreverse.2.2 _ (List.mem_map_of_mem hother) col.1 (List.mem_map_of_mem List.mem_cons_self)
      exact bne_iff_ne.2 hne.symm
    rw [hlookup]
    rfl
  unfold rowToMap
  rw [hread]
  exact KeyedList.items_ofList h

/-- The databases there are drivers for. -/
inductive PoolKind where
  | postgres
  | mysql
  | sqlite
  | duckdb
deriving DecidableEq, Repr

/-- What a pool of connections was opened with. -/
structure Pool where
  url : String
  maxConnections : Nat
deriving DecidableEq, Repr

/-- What is outside the process: whether a database lets itself be connected to, what it answers
a statement on a pool, and after how many milliseconds. -/
structure Databases where
  connect : PoolKind → Pool → Res String Unit
  fetch : PoolKind → Pool → GeneratedSql → Res String (List RowMap)
  took : Nat := 0

/-- The environment of a process, and whether it was built with the `duckdb` feature. -/
structure ExecutorHost where
  env : Environment
  duckdb : Bool

/-- Connection pool manager for multiple datasources. -/
structure ConnectionManager where
  pgPools : KeyedList (String × Pool) Prod.fst := .empty
  mysqlPools : KeyedList (String × Pool) Prod.fst := .empty
  sqlitePools : KeyedList (String × Pool) Prod.fst := .empty
  duckdbConns : KeyedList (String × Pool) Prod.fst := .empty

/-- The pool that is opened for a datasource. -/
def StoredDataSource.pool (host : ExecutorHost) (kind : PoolKind) (ds : StoredDataSource) : Res String Pool := do
  let conn ← Secrets.resolveConnectionString host.env ds.connectionString
  match kind with
  | .postgres | .mysql => return ⟨conn, ds.poolSize.getD 10⟩
  | .sqlite => return ⟨conn, 1⟩
  | .duckdb =>
    if conn = "" ∨ conn = ":memory:" then return ⟨":memory:", 1⟩
    else return ⟨Str.trimStartMatches conn "duckdb://", 1⟩

namespace ConnectionManager

/-- The pools of a kind of database, by the datasource's name. -/
def pools (m : ConnectionManager) : PoolKind → KeyedList (String × Pool) Prod.fst
  | .postgres => m.pgPools
  | .mysql => m.mysqlPools
  | .sqlite => m.sqlitePools
  | .duckdb => m.duckdbConns

def addPool (m : ConnectionManager) (kind : PoolKind) (name : String) (pool : Pool) : ConnectionManager :=
  match kind with
  | .postgres => { m with pgPools := m.pgPools.insert (name, pool) }
  | .mysql => { m with mysqlPools := m.mysqlPools.insert (name, pool) }
  | .sqlite => { m with sqlitePools := m.sqlitePools.insert (name, pool) }
  | .duckdb => { m with duckdbConns := m.duckdbConns.insert (name, pool) }

theorem pools_addPool (m : ConnectionManager) (kind kind' : PoolKind) (name : String) (pool : Pool) :
    (m.addPool kind name pool).pools kind' =
      if kind' = kind then (m.pools kind').insert (name, pool) else m.pools kind' := by
  cases kind <;> cases kind' <;> rfl

section

variable (host : ExecutorHost) (dbs : Databases) (m : ConnectionManager) (ds : StoredDataSource)

/-- Connect to the database of a datasource. -/
def openPool (kind : PoolKind) : Res String Pool := do
  let pool ← ds.pool host kind
  dbs.connect kind pool
  return pool

/-- Get or create a pool: whichever was opened under the name of the datasource. -/
def getPool (kind : PoolKind) : Res String Pool × ConnectionManager :=
  match (m.pools kind).get ds.name with
  | some found => (.ok found.2, m)
  | none =>
    match openPool host dbs ds kind with
    | .error e => (.error e, m)
    | .ok pool => (.ok pool, m.addPool kind ds.name pool)

/-- Get or create a PostgreSQL pool. -/
def getPgPool : Res String Pool × ConnectionManager := m.getPool host dbs ds .postgres

/-- Get or create a MySQL pool. -/
def getMysqlPool : Res String Pool × ConnectionManager := m.getPool host dbs ds .mysql

/-- Get or create a SQLite pool. -/
def getSqlitePool : Res String Pool × ConnectionManager := m.getPool host dbs ds .sqlite

/-- Get or create the DuckDB connection for a datasource. -/
def getDuckdbConn : Res String Pool × ConnectionManager := m.getPool host dbs ds .duckdb

/-- The rows a statement is answered with on a pool that was got. -/
def fetchOn (kind : PoolKind) (sql : GeneratedSql) (got : Res String Pool × ConnectionManager) :
    Res String (List RowMap) × ConnectionManager :=
  (got.1 >>= fun pool => dbs.fetch kind pool sql, got.2)

/-- Execute a query and collect its rows. -/
def executeStreamingCollect (sql : GeneratedSql) : Res String (List RowMap) × ConnectionManager :=
  match ds.driver with
  | "postgres" | "postgresql" | "pg" => fetchOn dbs .postgres sql (m.getPgPool host dbs ds)
  | "mysql" | "mariadb" => fetchOn dbs .mysql sql (m.getMysqlPool host dbs ds)
  | "sqlite" | "sqlite3" => fetchOn dbs .sqlite sql (m.getSqlitePool host dbs ds)
  | other =>
    if host.duckdb ∧ other = "duckdb" then fetchOn dbs .duckdb sql (m.getDuckdbConn host dbs ds)
    else (Res.fail ("Unsupported driver: " ++ other), m)

end

end ConnectionManager

/-- The kind of database a driver is for. -/
def ExecutorHost.driverKind (host : ExecutorHost) (driver : String) : Option PoolKind :=
  match driver with
  | "postgres" | "postgresql" | "pg" => some .postgres
  | "mysql" | "mariadb" => some .mysql
  | "sqlite" | "sqlite3" => some .sqlite
  | other => if host.duckdb ∧ other = "duckdb" then some .duckdb else none

/-- What a datasource is connected to with: the kind of its database and its pool. -/
def StoredDataSource.configuration (host : ExecutorHost) (ds : StoredDataSource) : Option (PoolKind × Pool) :=
  (host.driverKind ds.driver).bind fun kind => (ds.pool host kind).toOption.map (kind, ·)

namespace ConnectionManager

variable {host : ExecutorHost} {dbs : Databases} {m : ConnectionManager} {ds : StoredDataSource} {kind : PoolKind}

/-- A statement runs on the pool of the driver's kind. -/
theorem executeStreamingCollect_eq (sql : GeneratedSql) : m.executeStreamingCollect host dbs ds sql =
    match host.driverKind ds.driver with
    | some kind => fetchOn dbs kind sql (m.getPool host dbs ds kind)
    | none => (Res.fail ("Unsupported driver: " ++ ds.driver), m) := by
  unfold executeStreamingCollect ExecutorHost.driverKind
  split
  any_goals rfl
  split <;> rfl

theorem openPool_eq_ok {pool : Pool} (h : openPool host dbs ds kind = .ok pool) : ds.pool host kind = .ok pool := by
  obtain ⟨pool', hpool, h⟩ := Res.bind_eq_ok.1 h
  obtain ⟨_, -, h⟩ := Res.bind_eq_ok.1 h
  rw [hpool, Except.ok.inj h]

/-- A pool that is got was open, or is opened for the datasource. -/
theorem getPool_eq_ok {pool : Pool} (h : (m.getPool host dbs ds kind).1 = .ok pool) :
    (ds.name, pool) ∈ (m.pools kind).items ∨ ds.pool host kind = .ok pool := by
  unfold getPool at h
  split at h
  · rename_i found hfound
    obtain ⟨hmem, hname⟩ := KeyedList.get_eq_some.1 hfound
    left
    rwa [← hname, ← Except.ok.inj h]
  · split at h
    · cases h
    · rename_i opened hopened
      exact .inr ((openPool_eq_ok hopened).trans h)

/-- The only pool that is added is the one opened for the datasource, where none was open. -/
theorem mem_pools_getPool {kind' : PoolKind} {e : String × Pool} (h : e ∈ ((m.getPool host dbs ds kind).2.pools kind').items) :
    e ∈ (m.pools kind').items ∨ kind' = kind ∧ e.1 = ds.name ∧ ds.pool host kind = .ok e.2 := by
  unfold getPool at h
  split at h
  · exact .inl h
  · split at h
    · exact .inl h
    · rename_i opened hopened
      rw [pools_addPool] at h
      split_ifs at h with hkind
      · rcases KeyedList.mem_insert h with rfl | h
        · exact .inr ⟨hkind, rfl, openPool_eq_ok hopened⟩
        · exact .inl h
      · exact .inl h

/-- Running a statement adds at most the pool of its datasource. -/
theorem mem_pools_executeStreamingCollect {sql : GeneratedSql} {kind' : PoolKind} {e : String × Pool}
    (h : e ∈ ((m.executeStreamingCollect host dbs ds sql).2.pools kind').items) :
    e ∈ (m.pools kind').items ∨
      host.driverKind ds.driver = some kind' ∧ e.1 = ds.name ∧ ds.pool host kind' = .ok e.2 := by
  rw [executeStreamingCollect_eq] at h
  split at h
  · rename_i kind hkind
    rcases mem_pools_getPool h with hbefore | ⟨rfl, hname, hpool⟩
    · exact .inl hbefore
    · exact .inr ⟨hkind, hname, hpool⟩
  · exact .inl h

end ConnectionManager

/-! ## The result cache -/

structure ResultEntry where
  rows : List RowMap
  /-- On a clock in milliseconds. -/
  insertedAt : Nat

/-- In-memory TTL cache for query result sets. -/
structure ResultCache where
  inner : Lru UInt64 ResultEntry
  ttl : Nat

namespace ResultCache

def new (capacity ttl : Nat) : ResultCache := ⟨.empty (max capacity 1), ttl⟩

/-- Rows are taken from the cache as long as they are no older than its TTL. -/
def getMaps (c : ResultCache) (now : Nat) (key : UInt64) : Option (List RowMap) × ResultCache :=
  let found := c.inner.get key
  match found.1 with
  | some entry =>
    if now - entry.insertedAt ≤ c.ttl then (some entry.rows, { c with inner := found.2 })
    else (none, { c with inner := found.2.pop key })
  | none => (none, { c with inner := found.2 })

def insertMaps (c : ResultCache) (now : Nat) (key : UInt64) (rows : List RowMap) : ResultCache :=
  { c with inner := c.inner.put key ⟨rows, now⟩ }

variable {c : ResultCache} {now : Nat} {key : UInt64}

/-- Rows that are found are stored and not too old. -/
theorem getMaps_eq_some {rows : List RowMap} (h : (c.getMaps now key).1 = some rows) :
    ∃ entry, (key, entry) ∈ c.inner.entries ∧ now - entry.insertedAt ≤ c.ttl ∧ entry.rows = rows := by
  unfold getMaps at h
  dsimp only at h
  rw [Lru.get_fst] at h
  split at h
  · rename_i entry hentry
    split_ifs at h with hfresh
    exact ⟨entry, Lru.mem_of_peek hentry, hfresh, Option.some.inj h⟩
  · cases h

/-- Looking rows up stores none. -/
theorem mem_getMaps {e : UInt64 × ResultEntry} (h : e ∈ (c.getMaps now key).2.inner.entries) : e ∈ c.inner.entries := by
  unfold getMaps at h
  dsimp only at h
  split at h
  · split_ifs at h
    · exact Lru.mem_get h
    · exact Lru.mem_get (Lru.mem_pop h)
  · exact Lru.mem_get h

@[simp] theorem getMaps_ttl : (c.getMaps now key).2.ttl = c.ttl := by
  unfold getMaps
  dsimp only
  split
  · split_ifs <;> rfl
  · rfl

end ResultCache

/-! ## Executing a statement -/

/-- The part of an engine that runs statements. -/
structure QueryExecutor where
  connectionManager : ConnectionManager := {}
  resultCache : ResultCache := .new 256 60000

namespace QueryExecutor

/-- The key of a result: datasource, policy scope and statement, hashed one after the other. -/
def resultKey (name policyFingerprint : String) (sql : GeneratedSql) : UInt64 :=
  (((FxHasher.new.feedStr name).feedStr policyFingerprint).feedStr sql.display).digest

/-- When a statement that is executed at a time is answered: at once from the cache. -/
def finished (e : QueryExecutor) (dbs : Databases) (policyFingerprint : String) (now : Nat) (ds : StoredDataSource)
    (sql : GeneratedSql) : Nat :=
  if (e.resultCache.getMaps now (resultKey ds.name policyFingerprint sql)).1.isNone then now + dbs.took else now

/-- Execute SQL with result caching; rows are stored at the time they come. -/
def executeSqlx (e : QueryExecutor) (host : ExecutorHost) (dbs : Databases) (policyFingerprint : String) (now : Nat)
    (ds : StoredDataSource) (sql : GeneratedSql) : Res String (List RowMap) × QueryExecutor :=
  let key := resultKey ds.name policyFingerprint sql
  let (cached, cache) := e.resultCache.getMaps now key
  match cached with
  | some rows => (.ok rows, { e with resultCache := cache })
  | none =>
    match e.connectionManager.executeStreamingCollect host dbs ds sql with
    | (.ok rows, m) => (.ok rows, ⟨m, cache.insertMaps (now + dbs.took) key rows⟩)
    | (.error fault, m) => (.error fault, ⟨m, cache⟩)

variable (e : QueryExecutor) (host : ExecutorHost) (dbs : Databases) (policyFingerprint : String) (now : Nat)
  (ds : StoredDataSource) (sql : GeneratedSql)

/-- What an execution leaves: the pools of a run on the database, if it came to one, and
the rows that run was answered with. -/
theorem executeSqlx_cases :
    (∃ rows, (e.resultCache.getMaps now (resultKey ds.name policyFingerprint sql)).1 = some rows ∧
      e.executeSqlx host dbs policyFingerprint now ds sql =
        (.ok rows, { e with resultCache := (e.resultCache.getMaps now (resultKey ds.name policyFingerprint sql)).2 })) ∨
    (e.resultCache.getMaps now (resultKey ds.name policyFingerprint sql)).1 = none ∧
      ((∃ rows, (e.connectionManager.executeStreamingCollect host dbs ds sql).1 = .ok rows ∧
          e.executeSqlx host dbs policyFingerprint now ds sql =
            (.ok rows, ⟨(e.connectionManager.executeStreamingCollect host dbs ds sql).2,
              (e.resultCache.getMaps now (resultKey ds.name policyFingerprint sql)).2.insertMaps (now + dbs.took)
                (resultKey ds.name policyFingerprint sql) rows⟩)) ∨
        ∃ fault, e.executeSqlx host dbs policyFingerprint now ds sql =
          (.error fault, ⟨(e.connectionManager.executeStreamingCollect host dbs ds sql).2,
            (e.resultCache.getMaps now (resultKey ds.name policyFingerprint sql)).2⟩)) := by
  unfold executeSqlx
  dsimp only
  rcases hcached : e.resultCache.getMaps now (resultKey ds.name policyFingerprint sql) with ⟨_ | rows, cache⟩
  · right
    refine ⟨rfl, ?_⟩
    rcases hrun : e.connectionManager.executeStreamingCollect host dbs ds sql with ⟨fault | rows, m⟩
    · exact .inr ⟨fault, rfl⟩
    · exact .inl ⟨rows, rfl, rfl⟩
  · exact .inl ⟨rows, rfl, rfl⟩

end QueryExecutor

end GraphNight
