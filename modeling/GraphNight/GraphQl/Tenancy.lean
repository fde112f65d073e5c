import GraphNight.GraphQl.Catalog
import GraphNight.Runtime.Tools
import GraphNight.Storage.Yaml

/-!
# Memories and tenants

Histories of calls on one store: agents remember and recall, GraphQL callers list, read
and forget. A recall drops the rows whose scope does not show them to the caller; the
scope of a row is its writer's user id, which says nothing of the tenant. The GraphQL
fields look at neither.
-/

namespace GraphNight

/-- A call on the memories, with the clock and the fresh id it is given. -/
inductive MemoryCall where
  | remember (ctx : CallContext) (input : RememberInput) (id : String) (now : Int)
  | recallMemories (ctx : CallContext) (input : RecallMemoriesInput) (now : Int)
  | memories (ctx : GraphQLContext) (filter : MemoryFilterInput)
  | memory (ctx : GraphQLContext) (id : String)
  | forgetMemory (ctx : GraphQLContext) (id : String)

/-- The tenant of the caller. -/
def MemoryCall.tenant : MemoryCall → Option String
  | remember ctx .. | recallMemories ctx .. => ctx.tenantId
  | memories ctx _ | memory ctx _ | forgetMemory ctx _ => ctx.tenantId

section

variable {σ : Type} (b : Backend σ) (f : F32) (s : σ)

/-- The ids of the memories a call returns, and the store after it. -/
def MemoryCall.run : MemoryCall → List String × σ
  | remember ctx input id now => ([], (ToolCatalog.remember b f s ctx input id now).2)
  | recallMemories ctx input now =>
    (((ToolCatalog.recallMemories b f s ctx input now).toOption.map fun out => out.memories.map (·.id)).getD [], s)
  | memories _ filter => (((GraphQl.memories b s filter).toOption.map fun ms => ms.map (·.id)).getD [], s)
  | memory _ id => (((GraphQl.memory b s id).toOption.join.map (·.id)).toList, s)
  | forgetMemory ctx id => ([], (GraphQl.forgetMemory b s ctx id).2)

/-- A property of every call of a history, of the calls before it and of the store it finds. -/
def EachCall (P : List MemoryCall → σ → MemoryCall → Prop) : List MemoryCall → σ → List MemoryCall → Prop
  | _, _, [] => True
  | past, s, call :: calls => P past s call ∧ EachCall P (past ++ [call]) (call.run b f s).2 calls

variable {b} (T : MemoryTable b) (past : List MemoryCall)

/-- The row a caller of the past has written. -/
def WrittenBy (writer : CallContext) (m : Memory) : Prop :=
  ∃ input id now record, MemoryCall.remember writer input id now ∈ past ∧
    ToolCatalog.rememberRecord writer input id now = .ok record ∧ m = record.toStorage f

/-- The row is the memory of a tenant. -/
def MemoryOf (t : String) (m : Memory) : Prop :=
  m ∈ T.rows s ∧ ∃ writer, writer.tenantId = some t ∧ WrittenBy f past writer m

/-- A call keeps to its tenant: it returns no memory of another and deletes none. -/
structure Isolated (call : MemoryCall) : Prop where
  notReturned : ∀ t m, MemoryOf f s T past t m → m.id ∈ (call.run b f s).1 → call.tenant = some t
  notDeleted : ∀ ctx id, call = .forgetMemory ctx id → ∀ t m, MemoryOf f s T past t m →
    m ∉ T.rows (call.run b f s).2 → call.tenant = some t

/-- Where calls keep to their tenant: nobody of another tenant who has the user id of a
recalling caller is remembered, and what a GraphQL call selects is the caller's tenant's. -/
def Confined : MemoryCall → Prop
  | .remember .. => True
  | .recallMemories ctx .. => ∀ writer m t, m ∈ T.rows s → WrittenBy f past writer m → writer.tenantId = some t →
      writer.userId ≠ none → writer.userId = ctx.userId → ctx.tenantId = some t
  | .memories ctx filter => ∀ selected, b.listMemories s filter.filterModel = .ok selected →
      ∀ t m, m ∈ selected → MemoryOf f s T past t m → ctx.tenantId = some t
  | .memory ctx id | .forgetMemory ctx id => ∀ t m, m.id = id → MemoryOf f s T past t m → ctx.tenantId = some t

end

section

variable {σ : Type} {b : Backend σ} {f : F32} {s : σ} {T : MemoryTable b} {past : List MemoryCall}

/-- Rows of one id are one row. -/
theorem MemoryTable.eq_of_id {m m' : Memory} (hm : m ∈ T.rows s) (hm' : m' ∈ T.rows s) (hid : m.id = m'.id) : m = m' :=
  List.inj_on_of_nodup_map (T.distinct s) hm hm' hid

/-- A row has its writer's scope. -/
theorem WrittenBy.scope {writer : CallContext} {m : Memory} (h : WrittenBy f past writer m) :
    MemoryRecord.scopeOf m = MemoryRecord.ownScope writer := by
  obtain ⟨input, id, now, record, -, hrecord, rfl⟩ := h
  simp only [ToolCatalog.rememberRecord, Res.bind_eq_ok, Res.mapErr_eq_ok] at hrecord
  obtain ⟨_, -, hrecord⟩ := hrecord
  rw [MemoryRecord.scopeOf_toStorage]
  exact (MemoryRecord.fromAgentInput_eq_ok hrecord).2

/-- What a recall returns is stored, and shown to the caller by its scope. -/
theorem visible_of_recall {ctx : CallContext} {input : RecallMemoriesInput} {now : Int} {m : Memory}
    (hm : m ∈ T.rows s) (h : m.id ∈ ((MemoryCall.recallMemories ctx input now).run b f s).1) :
    (MemoryRecord.scopeOf m).visibleTo ctx = true := by
  cases hout : ToolCatalog.recallMemories b f s ctx input now with
  | error e => simp [MemoryCall.run, hout, Except.toOption] at h
  | ok out =>
    simp only [MemoryCall.run, hout, Except.toOption, Option.map_some, Option.getD_some, List.mem_map] at h
    obtain ⟨record, hrecord, hid⟩ := h
    simp only [ToolCatalog.recallMemories, Res.bind_eq_ok, Res.mapErr_eq_ok, pure, Except.pure, Except.ok.injEq] at hout
    obtain ⟨rows, hrows, rfl⟩ := hout
    obtain ⟨hrecord, hvisible⟩ := MemoryRecord.mem_ranked.1 (List.mem_of_mem_take hrecord)
    obtain ⟨m', hm', rfl⟩ := List.mem_map.1 hrecord
    have hsame : m' = m := MemoryTable.eq_of_id (T.list _ _ _ hrows m' hm') hm hid
    rw [← hsame]
    exact hvisible

/-- **One call**: a confined call keeps to its tenant. -/
theorem isolated_of_confined {call : MemoryCall} (h : Confined f s T past call) : Isolated f s T past call := by
  cases call with
  | remember ctx input id now => exact ⟨fun t m _ hid => absurd hid List.not_mem_nil, fun _ _ heq => nomatch heq⟩
  | recallMemories ctx input now =>
    refine ⟨fun t m hof hid => ?_, fun _ _ heq => nomatch heq⟩
    obtain ⟨hm, writer, htenant, hwritten⟩ := hof
    have hvisible := visible_of_recall hm hid
    rw [hwritten.scope, MemoryRecord.ownScope, htenant] at hvisible
    cases huser : writer.userId with
    | none =>
      rw [huser] at hvisible
      exact eq_of_beq hvisible
    | some u =>
      rw [huser] at hvisible
      exact h writer m t hm hwritten htenant (by simp [huser]) (huser.trans (eq_of_beq hvisible).symm)
  | memories ctx filter =>
    refine ⟨fun t m hof hid => ?_, fun _ _ heq => nomatch heq⟩
    simp only [MemoryCall.run, GraphQl.memories] at hid
    cases hselected : b.listMemories s filter.filterModel with
    | error e => simp [hselected, Except.map, Except.toOption] at hid
    | ok selected =>
      simp only [hselected, Except.map, Except.toOption, Option.map_some, Option.getD_some, List.map_map,
        List.mem_map] at hid
      obtain ⟨m', hm', hid⟩ := hid
      obtain rfl : m' = m := MemoryTable.eq_of_id (T.list _ _ _ hselected m' hm') hof.1 hid
      exact h selected hselected t m' hm' hof
  | memory ctx id =>
    refine ⟨fun t m hof hid => ?_, fun _ _ heq => nomatch heq⟩
    simp only [MemoryCall.run, GraphQl.memory] at hid
    rcases hfound : b.getMemory s id with _ | _ | found
    · simp [hfound, Except.map, Except.toOption] at hid
    · simp [hfound, Except.map, Except.toOption] at hid
    · simp only [hfound, Except.map, Option.map_some, Except.toOption, Option.join_some, Option.toList_some,
        List.mem_singleton] at hid
      exact h t m (hid.trans (T.get _ _ _ hfound).2) hof
  | forgetMemory ctx id =>
    refine ⟨fun t m _ hid => absurd hid List.not_mem_nil, fun ctx' id' heq t m hof hgone => ?_⟩
    refine h t m (by_contra fun hother => hgone ?_) hof
    show m ∈ T.rows (GraphQl.forgetMemory b s ctx id).2
    unfold GraphQl.forgetMemory
    cases ctx.requireUserIfAuth with
    | error e => exact hof.1
    | ok _ => exact T.delete s id m hof.1 hother

/-- **Memories never cross tenants** in a history whose calls are all confined. -/
theorem eachCall_isolated {calls : List MemoryCall}
    (h : EachCall b f (fun past s call => Confined f s T past call) past s calls) :
    EachCall b f (fun past s call => Isolated f s T past call) past s calls := by
  induction calls generalizing past s with
  | nil => trivial
  | cons call calls ih => exact ⟨isolated_of_confined h.1, ih h.2⟩

end

/-! ## One user id in two tenants -/

namespace SharedUserId

/-- The number the history writes, and back. -/
def f32 : F32 := ⟨fun r => r, fun r => if r = 1 / 2 then "0.5" else "1.0", fun text => if text = "0.5" then 1 / 2 else 1⟩

/-- YAML storage over ASCII texts. -/
def backend : Backend YamlStorage := YamlStorage.backend Str.toAsciiLowercase

def table : MemoryTable backend := YamlStorage.memoryTable Str.toAsciiLowercase

def agent (user tenant : String) : CallContext :=
  { userId := some user, tenantId := some tenant, authRequired := true }

def caller (user tenant : String) : GraphQLContext :=
  { userId := some user, tenantId := some tenant, authRequired := true }

def remembered : MemoryCall := .remember (agent "ana" "acme") { text := "net of refunds" } "m1" 0

/-- Ana of another tenant asks for everything. -/
def recalled : MemoryCall := .recallMemories (agent "ana" "globex") {} 0

def record : MemoryRecord :=
  ⟨"m1", "net of refunds", [], .learning, 1 / 2, .user "ana", none, 0, 0⟩

/-- The store with the memory of the first tenant. -/
def store : YamlStorage := (remembered.run backend f32 {}).2

theorem memoryOf : MemoryOf f32 store table [remembered] "acme" (record.toStorage f32) := by
  have hrecord : ToolCatalog.rememberRecord (agent "ana" "acme") { text := "net of refunds" } "m1" 0 = .ok record := by
    decide +kernel
  have hrow : record.toStorage f32 ∈ store.memories.items := by
    simp only [store, remembered, MemoryCall.run, ToolCatalog.remember, hrecord]
    exact List.mem_singleton_self _
  exact ⟨hrow, agent "ana" "acme", rfl, _, _, _, record, List.mem_singleton_self _, hrecord, rfl⟩

/-- Bob, whose user id nobody else has. -/
def recalledByBob : MemoryCall := .recallMemories (agent "bob" "globex") {} 0

theorem confined_recalledByBob : Confined f32 store table [remembered] recalledByBob := by
  intro writer m t _ hwritten _ _ huser
  obtain ⟨input, id, now, record, hpast, -, -⟩ := hwritten
  have hwriter : writer = agent "ana" "acme" := by
    injection List.mem_singleton.1 hpast
  rw [hwriter] at huser
  exact absurd huser (by decide)

end SharedUserId

open SharedUserId in
/-- A memory and a recall by somebody else. -/
theorem eachCall_isolated_bob :
    EachCall backend f32 (fun past s call => Confined f32 s table past call) [] {} [remembered, recalledByBob] ∧
      EachCall backend f32 (fun past s call => Isolated f32 s table past call) [] {} [remembered, recalledByBob] :=
  have h : EachCall backend f32 (fun past s call => Confined f32 s table past call) [] {} [remembered, recalledByBob] :=
    ⟨trivial, confined_recalledByBob, trivial⟩
  ⟨h, eachCall_isolated h⟩

open SharedUserId in
/-- The other tenant's Ana recalls the memory; GraphQL shows it to anyone, and lets anyone delete it. -/
theorem recall_crosses_tenants :
    (recalled.run backend f32 store).1 = ["m1"] ∧
      ((MemoryCall.memory (caller "bob" "globex") "m1").run backend f32 store).1 = ["m1"] ∧
      ((MemoryCall.forgetMemory (caller "bob" "globex") "m1").run backend f32 store).2.memories.items.map (·.id) = [] ∧
      ¬EachCall backend f32 (fun past s call => Isolated f32 s table past call) [] {} [remembered, recalled] := by
  have hrecalled : (recalled.run backend f32 store).1 = ["m1"] := by decide +kernel
  refine ⟨hrecalled, by decide +kernel, by decide +kernel, fun h => ?_⟩
  have htenant := h.2.1.notReturned "acme" (record.toStorage f32) memoryOf
    (show (record.toStorage f32).id ∈ (recalled.run backend f32 store).1 by rw [hrecalled]; exact List.mem_singleton_self _)
  exact absurd htenant (by decide)

end GraphNight
