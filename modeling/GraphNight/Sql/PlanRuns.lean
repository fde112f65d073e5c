import GraphNight.Lib.LruRuns
import GraphNight.Sql.EngineRuns

/-!
# The plan cache as a history

However models and datasources come and go, an engine answers a query with the plan that one
of the last 512 keys it answered has, if the query's key is among them, and with what the
generator says now if it is not. The cache is that history, and its counters count it.
-/

namespace GraphNight

namespace SqlEngine

/-- A query that was asked: its key, what the generator said of it then, and its answer. -/
structure Reply where
  key : UInt64
  generated : Res String GeneratedSql
  answer : Res String GeneratedSql

/-- The plans a run has answered with, under their keys, the newest first. -/
def plans (log : List Reply) : List (UInt64 × GeneratedSql) := log.filterMap fun r => r.answer.toOption.map (r.key, ·)

/-- What the last keys answered say of a key. -/
def remembered (capacity : Nat) (log : List Reply) (key : UInt64) : Option GeneratedSql :=
  ((Lru.recent (plans log)).take capacity).lookup key

/-- How many of the askings were of a key that was remembered. -/
def rememberedCount (capacity : Nat) : List Reply → Nat
  | [] => 0
  | r :: log => rememberedCount capacity log + if (remembered capacity log r.key).isSome then 1 else 0

/-- Runs of an engine that starts with nothing cached, with its replies so far, the last one
first. Between askings its generator becomes any other: models and datasources come and go. -/
inductive Replies (e₀ : SqlEngine) : List Reply → SqlEngine → Prop where
  | start : Replies e₀ [] e₀
  | change {log : List Reply} {e : SqlEngine} (generator : SqlGenerator) : Replies e₀ log e → Replies e₀ log { e with generator }
  | ask {log : List Reply} {e : SqlEngine} (query : Query) : Replies e₀ log e →
      Replies e₀ (⟨e.keyOf query, e.generator.generate query, (e.generateSql query).1⟩ :: log) (e.generateSql query).2

/-- What a cache has to do with the replies of its engine. -/
structure Mirrors (capacity : Nat) (c : PlanCache) (log : List Reply) : Prop where
  capacity_eq : c.inner.capacity = capacity
  remembers : c.inner.Remembers (plans log)
  hits : c.hits = rememberedCount capacity log
  askings : c.hits + c.misses = log.length

section

variable {capacity : Nat} {e : SqlEngine} {log : List Reply} {query : Query}

/-- What is found in the cache is what the log remembers. -/
theorem Mirrors.peek (h : Mirrors capacity e.planCache log) (key : UInt64) :
    e.planCache.inner.peek key = remembered capacity log key := by
  rw [h.remembers.peek, h.capacity_eq, remembered]

/-- An answer is the plan that is remembered, or what the generator says now. -/
theorem Mirrors.answer (h : Mirrors capacity e.planCache log) (query : Query) :
    (e.generateSql query).1 = match remembered capacity log (e.keyOf query) with
      | some sql => .ok sql
      | none => e.generator.generate query := by
  rw [← h.peek]
  unfold generateSql PlanCache.get
  simp only [Lru.get_fst]
  cases e.planCache.inner.peek (e.keyOf query) with
  | some sql => rfl
  | none => cases e.generator.generate query <;> rfl

/-- **One asking.** -/
theorem Mirrors.ask (h : Mirrors capacity e.planCache log) (hcapacity : 0 < capacity) (query : Query) :
    Mirrors capacity (e.generateSql query).2.planCache
      (⟨e.keyOf query, e.generator.generate query, (e.generateSql query).1⟩ :: log) := by
  have hroom : 0 < e.planCache.inner.capacity := by
    rw [h.capacity_eq]
    exact hcapacity
  have hfound := h.peek (e.keyOf query)
  have hhits := h.hits
  have haskings := h.askings
  unfold generateSql PlanCache.get
  simp only [Lru.get_fst]
  cases hpeek : e.planCache.inner.peek (e.keyOf query) with
  | some sql =>
    have hget := h.remembers.get hpeek
    rw [hpeek] at hfound
    refine ⟨?_, ?_, ?_, ?_⟩
    · exact (Lru.get_capacity _ _).trans h.capacity_eq
    · exact hget
    · simp [rememberedCount, ← hfound, hhits]
    · simp only [List.length_cons]
      omega
  | none =>
    rw [hpeek] at hfound
    have hsame : (e.planCache.inner.get (e.keyOf query)).2 = e.planCache.inner := by
      simp [Lru.get, hpeek]
    rw [hsame]
    cases e.generator.generate query with
    | ok sql =>
      refine ⟨?_, ?_, ?_, ?_⟩
      · exact (Lru.put_capacity _ _ _).trans h.capacity_eq
      · exact h.remembers.put hroom (e.keyOf query) sql
      · simp [rememberedCount, ← hfound, hhits, PlanCache.insert]
      · simp only [List.length_cons, PlanCache.insert]
        omega
    | error fault =>
      refine ⟨h.capacity_eq, h.remembers, ?_, ?_⟩
      · simp [rememberedCount, ← hfound, hhits]
      · simp only [List.length_cons]
        omega

/-- The cache mirrors the replies all along a run. -/
theorem Replies.mirrors {e₀ : SqlEngine} (h : Replies e₀ log e) (hstart : e₀.planCache = .new capacity) :
    Mirrors (max capacity 1) e.planCache log := by
  induction h with
  | start =>
    rw [hstart]
    exact ⟨rfl, Lru.remembers_empty _, rfl, rfl⟩
  | change generator _ ih => exact ih
  | ask query _ ih => exact ih.ask (by omega) query

/-- **The plan cache is the history of its engine**: in every run of a new engine a query is
answered with the plan remembered under its key, one of the last 512 answered, or else with
what the generator says now, and the counters count which. -/
theorem replies_eq_history {e₀ : SqlEngine} {dialect : Dialect} {formulaParser : FormulaParser} (h : Replies e₀ log e)
    (hstart : e₀.planCache = (SqlEngine.new dialect formulaParser).planCache) :
    (∀ query, (e.generateSql query).1 = match remembered 512 log (e.keyOf query) with
      | some sql => .ok sql
      | none => e.generator.generate query) ∧
      e.planCache.hits = rememberedCount 512 log ∧ e.planCache.hits + e.planCache.misses = log.length ∧
      e.planCache.inner.entries.length ≤ 512 := by
  have hmirrors : Mirrors 512 e.planCache log := h.mirrors hstart
  refine ⟨hmirrors.answer, hmirrors.hits, hmirrors.askings, ?_⟩
  rw [hmirrors.remembers, hmirrors.capacity_eq]
  exact List.length_take_le 512 _

end

open StalePlan in
/-- The second of two askings is answered from the cache. -/
theorem replies_eq_history_twice :
    ∃ log, Replies engine log ((engine.generateSql query).2.generateSql query).2 ∧
      ((engine.generateSql query).2.generateSql query).2.planCache.hits = rememberedCount 512 log ∧ rememberedCount 512 log = 1 := by
  have hrun := ((@Replies.start engine).ask query).ask query
  refine ⟨_, hrun, (@replies_eq_history _ _ _ .postgres ⟨fun _ => false, fun _ => false⟩ hrun rfl).2.1, ?_⟩
  decide +kernel

end SqlEngine

end GraphNight
