import GraphNight.Lib.Lru
import GraphNight.Sql.Generator

/-!
# Caches (`graphnight-sql/src/cache.rs`)

The 64-bit FNV-1a hash of the cache keys, and the in-memory cache of generated
statements.
-/

namespace GraphNight

/-- FNV-1a 64-bit hasher. -/
structure FxHasher where
  state : UInt64
deriving DecidableEq, Repr

namespace FxHasher

def new : FxHasher := ⟨0xcbf29ce484222325⟩

/-- Push a single byte into the running hash. -/
def feedU8 (h : FxHasher) (i : UInt8) : FxHasher := ⟨(h.state ^^^ i.toUInt64) * 0x100000001b3⟩

/-- Push a string into the running hash. -/
def feedStr (h : FxHasher) (s : String) : FxHasher := s.toUTF8.data.toList.foldl feedU8 h

def digest (h : FxHasher) : UInt64 := h.state

end FxHasher

/-- In-memory LRU cache for generated SQL plans. The counters of the source wrap at `u64`; here they
count on. -/
structure PlanCache where
  inner : Lru UInt64 GeneratedSql
  hits : Nat
  misses : Nat

namespace PlanCache

def new (capacity : Nat) : PlanCache := ⟨.empty (max capacity 1), 0, 0⟩

def get (c : PlanCache) (key : UInt64) : Option GeneratedSql × PlanCache :=
  let found := c.inner.get key
  match found.1 with
  | some sql => (some sql, ⟨found.2, c.hits + 1, c.misses⟩)
  | none => (none, ⟨found.2, c.hits, c.misses + 1⟩)

def insert (c : PlanCache) (key : UInt64) (sql : GeneratedSql) : PlanCache :=
  { c with inner := c.inner.put key sql }

/-- Every plan in the cache satisfies `p` for its key. -/
def All (p : UInt64 → GeneratedSql → Prop) (c : PlanCache) : Prop := ∀ e ∈ c.inner.entries, p e.1 e.2

variable {p : UInt64 → GeneratedSql → Prop} {c : PlanCache} {key : UInt64} {sql : GeneratedSql}

/-- Only a stored plan is found, and looking it up stores nothing. -/
theorem All.get (h : c.All p) (key : UInt64) :
    (∀ sql, (c.get key).1 = some sql → p key sql) ∧ (c.get key).2.All p := by
  unfold PlanCache.get
  simp only [Lru.get_fst]
  split
  · rename_i sql hsql
    refine ⟨fun sql' hsql' => ?_, fun e he => h e (Lru.mem_get he)⟩
    exact Option.some.inj hsql' ▸ h _ (Lru.mem_of_peek hsql)
  · exact ⟨fun sql hsql => by simp at hsql, fun e he => h e (Lru.mem_get he)⟩

theorem All.insert (h : c.All p) (hp : p key sql) : (c.insert key sql).All p := by
  intro e he
  rcases Lru.mem_put he with rfl | he
  · exact hp
  · exact h e he

end PlanCache

end GraphNight
