import GraphNight.Lib.LruRuns
import GraphNight.Sql.Executor

/-!
# The result cache over a run

Databases change while statements are executed on them. The rows a statement is answered with
were read no longer ago than the cache keeps them, and not before the cache was last
invalidated; and what was read is not read again within that time, while statements of fewer
other keys were executed than the cache has room for.
-/

namespace GraphNight

/-- `ResultCache::invalidate_all`. -/
def ResultCache.invalidateAll (c : ResultCache) : ResultCache := { c with inner := ⟨c.inner.capacity, []⟩ }

/-- `SqlEngine::invalidate_result_cache`. -/
def QueryExecutor.invalidateResultCache (e : QueryExecutor) : QueryExecutor := { e with resultCache := e.resultCache.invalidateAll }

namespace ResultRuns

/-- A statement that was executed: when it was answered, under which key, whether on its database, and the reply. -/
structure Execution where
  time : Nat
  key : UInt64
  ran : Bool
  reply : Res String (List RowMap)

/-- What happens to an executor. -/
inductive Event where
  | execution (x : Execution)
  | invalidation

/-- What an execution that starts now comes to. -/
def executionOf (e : QueryExecutor) (host : ExecutorHost) (dbs : Databases) (policyFingerprint : String) (now : Nat)
    (ds : StoredDataSource) (sql : GeneratedSql) : Execution where
  time := e.finished dbs policyFingerprint now ds sql
  key := QueryExecutor.resultKey ds.name policyFingerprint sql
  ran := (e.resultCache.getMaps now (QueryExecutor.resultKey ds.name policyFingerprint sql)).1.isNone
  reply := (e.executeSqlx host dbs policyFingerprint now ds sql).1

/-- Runs of a new executor, with what has happened so far, the last event first, and the time.
What the databases hold, how they are reached and how long they take is any other at each execution. -/
inductive Executions : List Event → Nat → QueryExecutor → Prop where
  | start (now : Nat) : Executions [] now {}
  | wait {log : List Event} {now : Nat} {e : QueryExecutor} (delay : Nat) : Executions log now e → Executions log (now + delay) e
  | invalidate {log : List Event} {now : Nat} {e : QueryExecutor} : Executions log now e →
      Executions (.invalidation :: log) now e.invalidateResultCache
  | execute {log : List Event} {now : Nat} {e : QueryExecutor} (host : ExecutorHost) (dbs : Databases) (policyFingerprint : String)
      (ds : StoredDataSource) (sql : GeneratedSql) : Executions log now e →
      Executions (.execution (executionOf e host dbs policyFingerprint now ds sql) :: log)
        (executionOf e host dbs policyFingerprint now ds sql).time (e.executeSqlx host dbs policyFingerprint now ds sql).2

/-- The rows last read under a key since the last invalidation, and when. -/
def lastRead (key : UInt64) : List Event → Option ResultEntry
  | [] => none
  | .invalidation :: _ => none
  | .execution x :: log =>
    match x.reply with
    | .ok rows => if x.key = key ∧ x.ran then some ⟨rows, x.time⟩ else lastRead key log
    | .error _ => lastRead key log

/-- The other keys that were executed since a key was last answered. -/
def usedSince (key : UInt64) : List Event → List UInt64
  | [] => []
  | .invalidation :: log => usedSince key log
  | .execution x :: log =>
    if x.key = key then
      match x.reply with
      | .ok _ => []
      | .error _ => usedSince key log
    else x.key :: usedSince key log

/-- What a cache has to do with what has happened. -/
structure Reflects (c : ResultCache) (log : List Event) (now : Nat) : Prop where
  capacity : c.inner.capacity = 256
  ttl : c.ttl = 60000
  distinct : c.inner.Distinct
  /-- What is in the cache was the last thing read under its key. -/
  read : ∀ key entry, (key, entry) ∈ c.inner.entries → lastRead key log = some entry
  /-- What was read is in the cache, if it is not too old and too few other keys were used. -/
  kept : ∀ key entry, lastRead key log = some entry → now - entry.insertedAt ≤ 60000 → (usedSince key log).dedup.length < 256 →
    c.inner.Retains key entry (usedSince key log)

section

variable {c : ResultCache} {log : List Event} {now : Nat} {key : UInt64}

/-- What was read is no fresher later. -/
theorem Reflects.wait (h : Reflects c log now) (delay : Nat) : Reflects c log (now + delay) where
  capacity := h.capacity
  ttl := h.ttl
  distinct := h.distinct
  read := h.read
  kept key entry hread hfresh hfew := h.kept key entry hread (by omega) hfew

/-- A cache that is asked answers with what was read last, if that is not too old. -/
theorem Reflects.getMaps_some (h : Reflects c log now) {rows : List RowMap} (hfound : (c.getMaps now key).1 = some rows) :
    ∃ entry, lastRead key log = some entry ∧ entry.rows = rows ∧ now - entry.insertedAt ≤ 60000 ∧
      c.inner.peek key = some entry ∧ (c.getMaps now key).2.inner = (c.inner.get key).2 := by
  obtain ⟨entry, hmem, hfresh, hrows⟩ := ResultCache.getMaps_eq_some hfound
  have hpeek := Lru.peek_of_mem h.distinct hmem
  refine ⟨entry, h.read key entry hmem, hrows, ?_, hpeek, ?_⟩
  · rw [← h.ttl]
    exact hfresh
  · unfold ResultCache.getMaps
    simp only [Lru.get_fst, hpeek]
    rw [if_pos hfresh]

/-- A cache that has nothing fresh drops what it has under the key. -/
theorem Reflects.getMaps_none (h : Reflects c log now) (hnone : (c.getMaps now key).1 = none) :
    (∀ entry, lastRead key log = some entry → now - entry.insertedAt ≤ 60000 → ¬(usedSince key log).dedup.length < 256) ∧
      ((c.getMaps now key).2.inner = c.inner ∨ ∃ k : Lru UInt64 ResultEntry, k = (c.inner.get key).2 ∧
        (c.getMaps now key).2.inner = k.pop key) := by
  constructor
  · intro entry hread hfresh hfew
    have hmem := (h.kept key entry hread hfresh hfew).mem
    have hpeek := Lru.peek_of_mem h.distinct hmem
    unfold ResultCache.getMaps at hnone
    simp only [Lru.get_fst, hpeek] at hnone
    rw [h.ttl, if_pos hfresh] at hnone
    cases hnone
  · unfold ResultCache.getMaps at hnone ⊢
    simp only [Lru.get_fst] at hnone ⊢
    cases hpeek : c.inner.peek key with
    | none => exact .inl (by simp [Lru.get_of_none hpeek])
    | some entry =>
      simp only [hpeek] at hnone ⊢
      split_ifs at hnone ⊢ with hfresh
      exact .inr ⟨_, rfl, rfl⟩

/-- One key more is no key fewer. -/
theorem dedup_length_le (key : UInt64) (used : List UInt64) : used.dedup.length ≤ (key :: used).dedup.length := by
  have hsub : used.dedup ⊆ (key :: used).dedup := by
    intro k hk
    exact List.mem_dedup.2 (List.mem_cons_of_mem key (List.mem_dedup.1 hk))
  exact (List.Nodup.subperm (List.nodup_dedup used) hsub).length_le

/-- What a lookup that finds nothing leaves: no other entry, and every other key as it was. -/
structure Looked (c c' : Lru UInt64 ResultEntry) (key : UInt64) : Prop where
  capacity : c'.capacity = c.capacity
  distinct : c.Distinct → c'.Distinct
  mem : ∀ e ∈ c'.entries, e ∈ c.entries
  kept : ∀ key' entry used, key' ≠ key → c.Retains key' entry used → c'.Retains key' entry (key :: used)

theorem Looked.refl (c : Lru UInt64 ResultEntry) (key : UInt64) : Looked c c key :=
  ⟨rfl, id, fun _ he => he, fun _ _ used _ hkept => hkept.mono (List.subset_cons_self key used)⟩

theorem Looked.pop (c : Lru UInt64 ResultEntry) (key : UInt64) : Looked c ((c.get key).2.pop key) key where
  capacity := Lru.get_capacity c key
  distinct h := (h.get key).pop key
  mem _ he := Lru.mem_get (Lru.mem_pop he)
  kept _ _ _ hne hkept := (hkept.get (Ne.symm hne)).pop (Ne.symm hne)

theorem Reflects.looked (h : Reflects c log now) (hnone : (c.getMaps now key).1 = none) :
    Looked c.inner (c.getMaps now key).2.inner key := by
  obtain ⟨-, hsame | ⟨k, rfl, hpop⟩⟩ := h.getMaps_none hnone
  · rw [hsame]
    exact .refl c.inner key
  · rw [hpop]
    exact .pop c.inner key

/-- An answer from the cache. -/
theorem Reflects.hit (h : Reflects c log now) {rows : List RowMap} (hfound : (c.getMaps now key).1 = some rows) :
    Reflects (c.getMaps now key).2 (.execution ⟨now, key, false, .ok rows⟩ :: log) now := by
  obtain ⟨entry, hread, hrows, hfresh, hpeek, hinner⟩ := h.getMaps_some hfound
  have hlast (key' : UInt64) : lastRead key' (.execution ⟨now, key, false, .ok rows⟩ :: log) = lastRead key' log := by
    simp [lastRead]
  refine ⟨?_, ?_, ?_, ?_, ?_⟩
  · rw [hinner, Lru.get_capacity, h.capacity]
  · rw [ResultCache.getMaps_ttl, h.ttl]
  · rw [hinner]
    exact h.distinct.get key
  · intro key' entry' hmem
    rw [hlast]
    rw [hinner] at hmem
    exact h.read key' entry' (Lru.mem_get hmem)
  · intro key' entry' hread' hfresh' hfew
    rw [hlast] at hread'
    rw [hinner]
    by_cases hkey : key = key'
    · subst hkey
      obtain rfl : entry = entry' := Option.some.inj (hread.symm.trans hread')
      simp only [usedSince, if_pos]
      exact Lru.retains_get hpeek
    · simp only [usedSince, if_neg hkey] at hfew ⊢
      have hbefore := h.kept key' entry' hread' hfresh' (Nat.lt_of_le_of_lt (dedup_length_le key _) hfew)
      exact hbefore.get hkey

/-- Rows that are read, and stored when they come. -/
theorem Reflects.fetched (h : Reflects c log now) (hnone : (c.getMaps now key).1 = none) (rows : List RowMap) (took : Nat) :
    Reflects ((c.getMaps now key).2.insertMaps (now + took) key rows) (.execution ⟨now + took, key, true, .ok rows⟩ :: log)
      (now + took) := by
  have hlooked := h.looked hnone
  have hdistinct := hlooked.distinct h.distinct
  have hcapacity := hlooked.capacity.trans h.capacity
  refine ⟨?_, ?_, ?_, ?_, ?_⟩
  · exact (Lru.put_capacity _ _ _).trans hcapacity
  · exact ResultCache.getMaps_ttl.trans h.ttl
  · exact hdistinct.put key _
  · intro key' entry' hmem
    rcases Lru.mem_put_cases hmem with heq | ⟨hmem, hne⟩
    · obtain ⟨rfl, rfl⟩ := Prod.mk.inj heq
      simp [lastRead]
    · have hread := h.read key' entry' (hlooked.mem _ hmem)
      simpa [lastRead, Ne.symm hne] using hread
  · intro key' entry' hread hfresh hfew
    by_cases hkey : key = key'
    · subst hkey
      simp only [lastRead, true_and, if_pos, Option.some.injEq] at hread
      subst hread
      simp only [usedSince, if_pos]
      exact Lru.retains_put _ key _
    · simp only [lastRead, hkey, false_and, if_false] at hread
      simp only [usedSince, if_neg hkey] at hfew ⊢
      have hbefore := h.kept key' entry' hread (by omega) (Nat.lt_of_le_of_lt (dedup_length_le key _) hfew)
      have hafter := hlooked.kept key' entry' _ (Ne.symm hkey) hbefore
      refine (hafter.put hdistinct hkey ⟨rows, now + took⟩ ?_).mono ?_
      · rw [List.dedup_cons_of_mem List.mem_cons_self, hcapacity]
        exact hfew
      · intro k hk
        rcases List.mem_cons.1 hk with rfl | hk
        · exact List.mem_cons_self
        · exact hk

/-- A statement that fails. -/
theorem Reflects.failed (h : Reflects c log now) (hnone : (c.getMaps now key).1 = none) (fault : Fault String) (took : Nat) :
    Reflects (c.getMaps now key).2 (.execution ⟨now + took, key, true, .error fault⟩ :: log) (now + took) := by
  have hlooked := h.looked hnone
  refine ⟨hlooked.capacity.trans h.capacity, ResultCache.getMaps_ttl.trans h.ttl, hlooked.distinct h.distinct, ?_, ?_⟩
  · intro key' entry' hmem
    exact h.read key' entry' (hlooked.mem _ hmem)
  · intro key' entry' hread hfresh hfew
    have hread' : lastRead key' log = some entry' := hread
    by_cases hkey : key = key'
    · subst hkey
      simp only [usedSince, if_pos] at hfew
      exact absurd hfew ((h.getMaps_none hnone).1 entry' hread' (by omega))
    · simp only [usedSince, if_neg hkey] at hfew ⊢
      exact hlooked.kept key' entry' _ (Ne.symm hkey)
        (h.kept key' entry' hread' (by omega) (Nat.lt_of_le_of_lt (dedup_length_le key _) hfew))

/-- **One execution**, from the cache or on the database. -/
theorem Reflects.execute {e : QueryExecutor} (h : Reflects e.resultCache log now) (host : ExecutorHost) (dbs : Databases)
    (policyFingerprint : String) (ds : StoredDataSource) (sql : GeneratedSql) :
    Reflects (e.executeSqlx host dbs policyFingerprint now ds sql).2.resultCache
      (.execution (executionOf e host dbs policyFingerprint now ds sql) :: log)
      (executionOf e host dbs policyFingerprint now ds sql).time := by
  unfold executionOf QueryExecutor.finished
  obtain ⟨rows, hfound, heq⟩ | ⟨hnone, ⟨rows, -, heq⟩ | ⟨fault, heq⟩⟩ := e.executeSqlx_cases host dbs policyFingerprint now ds sql
  · rw [heq, hfound]
    exact h.hit hfound
  · rw [heq, hnone]
    exact h.fetched hnone rows dbs.took
  · rw [heq, hnone]
    exact h.failed hnone fault dbs.took

/-- The cache reflects what has happened, all along a run. -/
theorem Executions.reflects {e : QueryExecutor} (h : Executions log now e) : Reflects e.resultCache log now := by
  induction h with
  | start now =>
    refine ⟨rfl, rfl, List.nodup_nil, ?_, ?_⟩
    · intro key entry hmem
      cases hmem
    · intro key entry hread
      cases hread
  | wait delay _ ih => exact ih.wait delay
  | invalidate _ ih =>
    refine ⟨ih.capacity, ih.ttl, List.nodup_nil, ?_, ?_⟩
    · intro key entry hmem
      cases hmem
    · intro key entry hread
      cases hread
  | execute host dbs policyFingerprint ds sql _ ih => exact ih.execute host dbs policyFingerprint ds sql

/-- **Cached rows over a run.** A statement that is not executed on its database is answered with
the rows that were last read under its key since the cache was invalidated, at most a minute ago.
One that is executed there is answered as the database answers now; and it is executed there only
where nothing was read under its key within that minute, or at least 256 other keys were used since. -/
theorem executions_answer {e : QueryExecutor} (h : Executions log now e) (host : ExecutorHost) (dbs : Databases)
    (policyFingerprint : String) (ds : StoredDataSource) (sql : GeneratedSql) :
    let x := executionOf e host dbs policyFingerprint now ds sql
    (x.ran = false → ∃ entry, lastRead x.key log = some entry ∧ now - entry.insertedAt ≤ 60000 ∧ x.reply = .ok entry.rows) ∧
      (x.ran = true → x.reply = (e.connectionManager.executeStreamingCollect host dbs ds sql).1 ∧
        ∀ entry, lastRead x.key log = some entry → now - entry.insertedAt ≤ 60000 → 256 ≤ (usedSince x.key log).dedup.length) := by
  have hreflects := h.reflects
  dsimp only [executionOf]
  obtain ⟨rows, hfound, heq⟩ | ⟨hnone, hran⟩ := e.executeSqlx_cases host dbs policyFingerprint now ds sql
  · rw [heq, hfound]
    obtain ⟨entry, hread, hrows, hfresh, -, -⟩ := hreflects.getMaps_some hfound
    refine ⟨fun _ => ⟨entry, hread, hfresh, by rw [hrows]⟩, ?_⟩
    intro hran
    cases hran
  · rw [hnone]
    refine ⟨(by simp), fun _ => ⟨?_, ?_⟩⟩
    · unfold QueryExecutor.executeSqlx
      dsimp only
      rw [hnone]
      dsimp only
      rcases e.connectionManager.executeStreamingCollect host dbs ds sql with ⟨fault | rows, m⟩ <;> rfl
    · intro entry hread hfresh
      exact Nat.le_of_not_lt ((hreflects.getMaps_none hnone).1 entry hread hfresh)

end

/-! ## Rows of yesterday's database -/

namespace Counted

def host : ExecutorHost := ⟨fun _ => none, false⟩

/-- A database whose only row holds a number, and comes after a quarter of a second. -/
def counting (n : String) : Databases where
  connect _ _ := .ok ()
  fetch _ _ _ := .ok [.ofList [("count", .number n)]]
  took := 250

def warehouse : StoredDataSource := { name := "warehouse", driver := "sqlite", connectionString := "data.db" }

def statement : GeneratedSql := ⟨"SELECT 1", [], "SELECT 1"⟩

/-- The statement is executed, then the database changes. -/
def after : QueryExecutor := (({} : QueryExecutor).executeSqlx host (counting "1") "" 0 warehouse statement).2

theorem executions_after : Executions [.execution (executionOf {} host (counting "1") "" 0 warehouse statement)] (250 + 1000) after :=
  .wait 1000 (.execute host (counting "1") "" warehouse statement (.start 0))

end Counted

open Counted in
/-- A second later the old count is answered, and is what was read last. -/
theorem executions_answer_counted :
    (executionOf after host (counting "2") "" 1250 warehouse statement).ran = false ∧
      ∃ entry, lastRead (QueryExecutor.resultKey "warehouse" "" statement)
          [.execution (executionOf {} host (counting "1") "" 0 warehouse statement)] = some entry ∧
        1250 - entry.insertedAt ≤ 60000 ∧
        (executionOf after host (counting "2") "" 1250 warehouse statement).reply = .ok entry.rows := by
  have hcached : (executionOf after host (counting "2") "" 1250 warehouse statement).ran = false := by rfl
  exact ⟨hcached, (executions_answer executions_after host (counting "2") "" warehouse statement).1 hcached⟩

end ResultRuns

end GraphNight
