import GraphNight.Runtime.Catalog
import GraphNight.Storage.Scan

/-!
# Retrieval with a budget

Recall and the searches ask the store for more than their limit and then drop what the
caller may not see. What they return is the best the caller may see as long as the budget
reaches it.
-/

namespace GraphNight

/-- A call that returns one value under a condition returns the wanted one exactly where the
condition makes that value the wanted one. -/
theorem returned_iff {β : Type} {call : β → Prop} {answers : Prop} {value wanted : β}
    (h : ∀ x, call x ↔ answers ∧ x = value) : (∀ x, call x → x = wanted) ↔ (answers → value = wanted) :=
  ⟨fun hall hanswers => hall value ((h value).2 ⟨hanswers, rfl⟩),
    fun hvalue x hx => ((h x).1 hx).2.trans (hvalue ((h x).1 hx).1)⟩

namespace Backend.Scan

variable {σ : Type} {b : Backend σ} {s : σ}

/-! ## The service's search -/

/-- The models that match, as far as the caller may see them, in the order of the ranking. -/
def visibleHits (scan : b.Scan s) (ctx : CallContext) (query : String) : List SearchResult :=
  (scan.ranking (Str.trim query)).filter fun h => (PolicyEnforcer.mk ctx.sessionPolicy).shows h.modelName h.datasource

/-- The hits the service asks for. -/
def searchBudget (limit : Nat) : Nat := max (usizeSaturatingMul limit 8) 64

/-- The call goes to the store, which answers. -/
def SearchAnswers (b : Backend σ) (s : σ) (ctx : CallContext) (query : String) (limit : Nat) : Prop :=
  ctx.requireAuthenticated = .ok () ∧ Str.trim query ≠ "" ∧
    ∃ hits, b.search s (Str.trim query) (searchBudget limit) = .ok hits

/-- As many models of the ranking as the caller wants and may see are among those asked for. -/
def SearchReaches (scan : b.Scan s) (ctx : CallContext) (query : String) (limit : Nat) : Prop :=
  let seen := fun (h : SearchResult) => (PolicyEnforcer.mk ctx.sessionPolicy).shows h.modelName h.datasource
  min limit ((scan.ranking (Str.trim query)).countP seen) ≤
    ((scan.ranking (Str.trim query)).take (searchBudget limit)).countP seen

theorem search_iff (scan : b.Scan s) (ctx : CallContext) (query : String) (limit : Nat) :
    (∀ hits, QueryService.search b s ctx query limit = .ok hits → hits = (scan.visibleHits ctx query).take limit) ↔
      (SearchAnswers b s ctx query limit → scan.SearchReaches ctx query limit) := by
  unfold SearchReaches visibleHits
  rw [← Page.take_filter_take_iff]
  refine returned_iff fun hits => ?_
  unfold QueryService.search SearchAnswers
  rw [Res.bind_eq_ok]
  constructor
  · rintro ⟨⟨⟩, hauth, h⟩
    dsimp only at h
    split_ifs at h with hempty
    · cases h
    · simp only [Res.bind_eq_ok, Res.mapErr_eq_ok, pure, Except.pure, Except.ok.injEq] at h
      obtain ⟨found, hfound, rfl⟩ := h
      exact ⟨⟨hauth, hempty, found, hfound⟩, by rw [scan.search _ _ _ hfound, searchBudget]⟩
  · rintro ⟨⟨hauth, hempty, found, hfound⟩, rfl⟩
    refine ⟨(), hauth, ?_⟩
    unfold searchBudget at hfound ⊢
    dsimp only
    rw [if_neg hempty, hfound, scan.search _ _ _ hfound]
    rfl

/-! ## Searching models as the tool does -/

/-- What a caller sees of a model in a ranking: its name, its datasource and the score. -/
def seenModel (b : Backend σ) (s : σ) (ctx : CallContext) (ranked : String × Rat) : Option (String × String × Rat) :=
  (QueryService.getModel b s ctx ranked.1 none).toOption.map fun model => (ranked.1, model.datasource, ranked.2)

/-- The models that match, as far as the caller may see them, in the order of the ranking. -/
def visibleModels (scan : b.Scan s) (ctx : CallContext) (query : String) : List (String × String × Rat) :=
  (scan.ranking query).filterMap fun h => seenModel b s ctx (h.modelName, h.score)

/-- The hits the tool asks for. -/
def poolSize (input : SearchModelsInput) : Nat := max (usizeSaturatingMul (input.limit.getD 10) 4) 20

/-- Nothing is found by embeddings. -/
def Lexical (b : Backend σ) (s : σ) (ctx : CallContext) (std : RustStd) (catalog : ToolCatalog) (cache : EmbedCache)
    (input : SearchModelsInput) : Prop :=
  match (ToolCatalog.denseCandidates b s ctx std catalog cache input.q (poolSize input)).1 with
  | .ok dense => dense = []
  | .error (.err _) => True
  | .error .panic => False

def ModelsReach (scan : b.Scan s) (ctx : CallContext) (input : SearchModelsInput) : Prop :=
  let seen := fun (h : SearchResult) => (seenModel b s ctx (h.modelName, h.score)).isSome
  min (input.limit.getD 10) ((scan.ranking input.q).countP seen) ≤ ((scan.ranking input.q).take (poolSize input)).countP seen

/-- A result, without what it says of the hit. -/
def modelSeen (h : ModelHit) : String × String × Rat := (h.model, h.datasource, h.score)

theorem map_modelHit (b : Backend σ) (s : σ) (ctx : CallContext) (lexical : List SearchResult) (ranked : String × Rat) :
    (ToolCatalog.modelHit b s ctx lexical [] ranked).map modelSeen = seenModel b s ctx ranked := by
  obtain ⟨name, score⟩ := ranked
  unfold ToolCatalog.modelHit seenModel
  dsimp only
  cases (QueryService.getModel b s ctx name none).toOption <;> rfl

/-- What the tool makes of hits alone. -/
theorem map_hits (b : Backend σ) (s : σ) (ctx : CallContext) (lexical hits : List SearchResult) (limit : Nat) :
    ((((hits.map fun h => (h.modelName, h.score)).filterMap (ToolCatalog.modelHit b s ctx lexical [])).take limit).map
      modelSeen) = (hits.filterMap fun h => seenModel b s ctx (h.modelName, h.score)).take limit := by
  rw [List.filterMap_map, List.map_take, List.map_filterMap]
  exact congrArg (List.take limit) (List.filterMap_congr fun h _ => map_modelHit b s ctx lexical _)

/-- The calls that answer with hits alone, and what they answer. -/
theorem searchModels_lexical (scan : b.Scan s) (ctx : CallContext) (std : RustStd) (catalog : ToolCatalog)
    (cache : EmbedCache) (input : SearchModelsInput) (seen : List (String × String × Rat)) :
    (∃ hits, (ToolCatalog.searchModels b s ctx std catalog cache input).1 = .ok (hits, "lexical") ∧
        hits.map modelSeen = seen) ↔
      ((∃ hits, b.search s input.q (poolSize input) = .ok hits) ∧ Lexical b s ctx std catalog cache input) ∧
        seen = (((scan.ranking input.q).take (poolSize input)).filterMap fun h =>
          seenModel b s ctx (h.modelName, h.score)).take (input.limit.getD 10) := by
  unfold ToolCatalog.searchModels Lexical
  dsimp only
  rw [← poolSize]
  cases hsearch : b.search s input.q (poolSize input) with
  | error e =>
    constructor
    · rintro ⟨hits, hok, -⟩
      rcases e with e | _ <;> cases hok
    · rintro ⟨⟨⟨hits, hhits⟩, -⟩, -⟩
      cases hhits
  | ok lexical =>
    obtain rfl := scan.search _ _ _ hsearch
    have hhits := map_hits b s ctx ((scan.ranking input.q).take (poolSize input))
      ((scan.ranking input.q).take (poolSize input)) (input.limit.getD 10)
    have hlexical : ∀ {lexical : Prop}, lexical →
        ((∃ hits, (Except.ok (((((scan.ranking input.q).take (poolSize input)).map fun h => (h.modelName, h.score)).filterMap
          (ToolCatalog.modelHit b s ctx ((scan.ranking input.q).take (poolSize input)) [])).take (input.limit.getD 10), "lexical")
            : Res ToolError (List ModelHit × String)) = .ok (hits, "lexical") ∧ hits.map modelSeen = seen) ↔
          ((∃ hits, (Except.ok ((scan.ranking input.q).take (poolSize input)) : Res String _) = .ok hits) ∧ lexical) ∧
            seen = (((scan.ranking input.q).take (poolSize input)).filterMap fun h =>
              seenModel b s ctx (h.modelName, h.score)).take (input.limit.getD 10)) := by
      intro lexical hlexical
      constructor
      · rintro ⟨hits, hok, rfl⟩
        obtain rfl := congrArg Prod.fst (Except.ok.inj hok)
        exact ⟨⟨⟨_, rfl⟩, hlexical⟩, hhits⟩
      · rintro ⟨-, rfl⟩
        exact ⟨_, rfl, hhits⟩
    cases hdense : ToolCatalog.denseCandidates b s ctx std catalog cache input.q (poolSize input) with
    | mk found cache' =>
      rcases found with (e | _) | (_ | ⟨ranked, dense⟩)
      · exact hlexical trivial
      · constructor
        · rintro ⟨hits, hok, -⟩
          cases hok
        · rintro ⟨⟨-, hno⟩, -⟩
          exact hno.elim
      · exact hlexical rfl
      · constructor
        · rintro ⟨hits, hok, -⟩
          exact absurd (congrArg Prod.snd (Except.ok.inj hok)) (show ("hybrid" : String) ≠ "lexical" by decide)
        · rintro ⟨⟨-, hno⟩, -⟩
          cases hno

theorem searchModels_iff (scan : b.Scan s) (ctx : CallContext) (std : RustStd) (catalog : ToolCatalog)
    (cache : EmbedCache) (input : SearchModelsInput) :
    (∀ hits, (ToolCatalog.searchModels b s ctx std catalog cache input).1 = .ok (hits, "lexical") →
        hits.map modelSeen = (scan.visibleModels ctx input.q).take (input.limit.getD 10)) ↔
      ((∃ hits, b.search s input.q (poolSize input) = .ok hits) ∧ Lexical b s ctx std catalog cache input →
        scan.ModelsReach ctx input) := by
  unfold ModelsReach visibleModels
  rw [← Page.take_filterMap_take_iff, ← returned_iff (scan.searchModels_lexical ctx std catalog cache input)]
  exact ⟨fun h seen ⟨hits, hok, hseen⟩ => hseen.symm.trans (h hits hok), fun h hits hok => h _ ⟨hits, hok, rfl⟩⟩

/-! ## Recall -/

/-- The memories that match, as far as the caller may see them, the best first. -/
def visibleMemories (scan : b.Scan s) (f : F32) (ctx : CallContext) (input : RecallMemoriesInput) (now : Int) :
    List MemoryRecord :=
  MemoryRecord.ranked f (((scan.rows input.query input.entity).filter (scan.keeps input.query)).map
    (MemoryRecord.fromStorage f)) ctx input.query now

/-- The rows recall asks for. -/
def recallBudget (input : RecallMemoriesInput) : Nat := max (usizeSaturatingMul (input.limit.getD 10) 4) 20

/-- The best memories stand among the rows asked for. -/
def RecallReaches (scan : b.Scan s) (f : F32) (ctx : CallContext) (input : RecallMemoriesInput) (now : Int) : Prop :=
  ∀ r ∈ (scan.visibleMemories f ctx input now).take (input.limit.getD 10),
    r ∈ ((scan.rows input.query input.entity).take (recallBudget input)).map (MemoryRecord.fromStorage f)

/-- The best of some records are the best of all exactly where the best of all are among them. -/
theorem take_ranked_iff {f : F32} {records : List MemoryRecord} {p : MemoryRecord → Bool} {ctx : CallContext}
    {query : Option String} {now : Int} {limit : Nat} :
    (MemoryRecord.ranked f (records.filter p) ctx query now).take limit = (MemoryRecord.ranked f records ctx query now).take limit ↔
      ∀ r ∈ (MemoryRecord.ranked f records ctx query now).take limit, p r = true := by
  unfold MemoryRecord.ranked
  dsimp only
  rw [List.filter_comm]
  refine StableSort.take_mergeSort_filter_iff (fun a b c hab hbc => ?_) fun a b => ?_
  · rw [decide_eq_true_eq] at hab hbc ⊢
    exact hbc.trans hab
  · rw [Bool.or_eq_true, decide_eq_true_eq, decide_eq_true_eq]
    exact le_total _ _

theorem recall_iff (scan : b.Scan s) (f : F32) (ctx : CallContext) (input : RecallMemoriesInput) (now : Int) :
    (∀ out, ToolCatalog.recallMemories b f s ctx input now = .ok out →
        out.memories = (scan.visibleMemories f ctx input now).take (input.limit.getD 10)) ↔
      ((∃ ms, b.listMemories s { query := input.query, entity := input.entity, limit := some (recallBudget input) } = .ok ms) →
        scan.RecallReaches f ctx input now) := by
  have hdistinct : ((scan.rows input.query input.entity).map (MemoryRecord.fromStorage f)).Nodup := by
    apply List.Nodup.of_map (·.id)
    rw [List.map_map]
    exact scan.distinct _ _
  have hfetched := Page.map_filter_take hdistinct (scan.keeps input.query) (recallBudget input)
  have hreaches : scan.RecallReaches f ctx input now ↔
      (MemoryRecord.ranked f ((((scan.rows input.query input.entity).take (recallBudget input)).filter
        (scan.keeps input.query)).map (MemoryRecord.fromStorage f)) ctx input.query now).take (input.limit.getD 10) =
        (scan.visibleMemories f ctx input now).take (input.limit.getD 10) := by
    unfold RecallReaches visibleMemories
    rw [hfetched, take_ranked_iff]
    simp only [decide_eq_true_eq]
  have hcalls : ∀ memories, (∃ out, ToolCatalog.recallMemories b f s ctx input now = .ok out ∧ out.memories = memories) ↔
      (∃ ms, b.listMemories s { query := input.query, entity := input.entity, limit := some (recallBudget input) } = .ok ms) ∧
        memories = (MemoryRecord.ranked f ((((scan.rows input.query input.entity).take (recallBudget input)).filter
          (scan.keeps input.query)).map (MemoryRecord.fromStorage f)) ctx input.query now).take (input.limit.getD 10) := by
    intro memories
    simp only [ToolCatalog.recallMemories, Res.bind_eq_ok, Res.mapErr_eq_ok, pure, Except.pure, Except.ok.injEq]
    rw [← recallBudget]
    constructor
    · rintro ⟨out, ⟨ms, hms, rfl⟩, rfl⟩
      exact ⟨⟨ms, hms⟩, by rw [scan.memories _ _ _ _ hms]⟩
    · rintro ⟨⟨ms, hms⟩, rfl⟩
      exact ⟨_, ⟨ms, hms, rfl⟩, by rw [scan.memories _ _ _ _ hms]⟩
  rw [hreaches, ← returned_iff hcalls]
  constructor
  · rintro h memories ⟨out, hok, rfl⟩
    exact h out hok
  · intro h out hok
    exact h _ ⟨out, hok, rfl⟩

end Backend.Scan

/-! ## The three together -/

/-- Two stores that agree on what a caller may see of what matches. -/
structure SameVisible {σ σ' : Type} {b : Backend σ} {b' : Backend σ'} {s : σ} {s' : σ'} (scan : b.Scan s) (scan' : b'.Scan s')
    (f : F32) (ctx : CallContext) : Prop where
  hits : ∀ query, scan.visibleHits ctx query = scan'.visibleHits ctx query
  models : ∀ query, scan.visibleModels ctx query = scan'.visibleModels ctx query
  memories : ∀ input now, scan.visibleMemories f ctx input now = scan'.visibleMemories f ctx input now

open Backend.Scan in
/-- **Retrieval with a budget**: a search or a recall that the store answers returns the best
the caller may see exactly where they are among the rows asked for, and then two stores
that agree on what the caller may see return the same. -/
theorem retrieval_iff {σ : Type} {b : Backend σ} {s : σ} (scan : b.Scan s) (f : F32) (ctx : CallContext) :
    (∀ query limit,
      (∀ hits, QueryService.search b s ctx query limit = .ok hits → hits = (scan.visibleHits ctx query).take limit) ↔
        (SearchAnswers b s ctx query limit → scan.SearchReaches ctx query limit)) ∧
    (∀ std catalog cache input,
      (∀ hits, (ToolCatalog.searchModels b s ctx std catalog cache input).1 = .ok (hits, "lexical") →
          hits.map modelSeen = (scan.visibleModels ctx input.q).take (input.limit.getD 10)) ↔
        ((∃ hits, b.search s input.q (poolSize input) = .ok hits) ∧ Lexical b s ctx std catalog cache input →
          scan.ModelsReach ctx input)) ∧
    (∀ input now,
      (∀ out, ToolCatalog.recallMemories b f s ctx input now = .ok out →
          out.memories = (scan.visibleMemories f ctx input now).take (input.limit.getD 10)) ↔
        ((∃ ms, b.listMemories s { query := input.query, entity := input.entity, limit := some (recallBudget input) } =
          .ok ms) → scan.RecallReaches f ctx input now)) ∧
    ∀ {σ' : Type} {b' : Backend σ'} {s' : σ'} (scan' : b'.Scan s'), SameVisible scan scan' f ctx →
      (∀ query limit hits hits', scan.SearchReaches ctx query limit → scan'.SearchReaches ctx query limit →
        QueryService.search b s ctx query limit = .ok hits → QueryService.search b' s' ctx query limit = .ok hits' →
        hits = hits') ∧
      (∀ std catalog cache cache' input hits hits', scan.ModelsReach ctx input → scan'.ModelsReach ctx input →
        (ToolCatalog.searchModels b s ctx std catalog cache input).1 = .ok (hits, "lexical") →
        (ToolCatalog.searchModels b' s' ctx std catalog cache' input).1 = .ok (hits', "lexical") →
        hits.map modelSeen = hits'.map modelSeen) ∧
      ∀ input now out out', scan.RecallReaches f ctx input now → scan'.RecallReaches f ctx input now →
        ToolCatalog.recallMemories b f s ctx input now = .ok out →
        ToolCatalog.recallMemories b' f s' ctx input now = .ok out' → out.memories = out'.memories := by
  refine ⟨scan.search_iff ctx, scan.searchModels_iff ctx, scan.recall_iff f ctx, fun scan' hsame => ⟨?_, ?_, ?_⟩⟩
  · intro query limit hits hits' hreach hreach' hok hok'
    rw [(scan.search_iff ctx query limit).2 (fun _ => hreach) hits hok, hsame.hits,
      (scan'.search_iff ctx query limit).2 (fun _ => hreach') hits' hok']
  · intro std catalog cache cache' input hits hits' hreach hreach' hok hok'
    rw [(scan.searchModels_iff ctx std catalog cache input).2 (fun _ => hreach) hits hok, hsame.models,
      (scan'.searchModels_iff ctx std catalog cache' input).2 (fun _ => hreach') hits' hok']
  · intro input now out out' hreach hreach' hok hok'
    rw [(scan.recall_iff f ctx input now).2 (fun _ => hreach) out hok, hsame.memories,
      (scan'.recall_iff f ctx input now).2 (fun _ => hreach') out' hok']

namespace CrowdedMemories

/-- A memory in somebody's own scope. -/
def ofUser (id user : String) : Memory :=
  ⟨id, "Revenue is net of refunds", [], none, 0, 0, .ofList [("gn_scope", .string "user"),
    ("gn_scope_id", .string user)]⟩

def json : F32 := ⟨fun r => r, fun _ => "0.5", fun _ => 1 / 2⟩

def ana : CallContext := { userId := some "ana" }

def ids : List String :=
  ["b1", "b2", "b3", "b4", "b5", "b6", "b7", "b8", "b9", "b10", "b11", "b12", "b13", "b14", "b15", "b16", "b17", "b18",
    "b19", "b20"]

/-- The memory of one user, behind twenty of another. -/
def crowded : YamlStorage where
  memories := .ofList (ids.map (ofUser · "bob") ++ [ofUser "a" "ana"])

def alone : YamlStorage where
  memories := .ofList [ofUser "a" "ana"]

theorem items_crowded : crowded.memories.items = ids.map (ofUser · "bob") ++ [ofUser "a" "ana"] :=
  KeyedList.items_ofList (show (ids ++ ["a"]).Nodup by decide +kernel)

theorem hides_bob (id : String) : (MemoryRecord.fromStorage json (ofUser id "bob")).scope.visibleTo ana = false := rfl

theorem shows_ana (id : String) : (MemoryRecord.fromStorage json (ofUser id "ana")).scope.visibleTo ana = true := rfl

/-- The ids of what is recalled. -/
def recalled (s : YamlStorage) : Option (List String) :=
  (ToolCatalog.recallMemories (YamlStorage.backend Str.toAsciiLowercase) json s ana { limit := some 1 } 0).toOption.map fun out =>
    out.memories.map (·.id)

/-- At most one record is in order. -/
theorem ranked_of_filter {records visible : List MemoryRecord} (h : records.filter (·.scope.visibleTo ana) = visible)
    (hone : visible.length ≤ 1) : MemoryRecord.ranked json records ana none 0 = visible := by
  unfold MemoryRecord.ranked
  dsimp only
  rw [h]
  cases visible with
  | nil => exact List.mergeSort_nil
  | cons r rest =>
    obtain rfl : rest = [] := List.length_eq_zero_iff.1 (Nat.le_zero.1 (Nat.le_of_succ_le_succ hone))
    exact List.mergeSort_singleton r

/-- Twenty memories are looked at. -/
theorem recalled_of_filter {s : YamlStorage} {visible : List MemoryRecord}
    (h : ((s.memories.items.take 20).map (MemoryRecord.fromStorage json)).filter (·.scope.visibleTo ana) = visible)
    (hone : visible.length ≤ 1) : recalled s = some (visible.map (·.id)) := by
  have hlist : s.listMemories Str.toAsciiLowercase { limit := some 20 } = .ok (s.memories.items.take 20) := by
    simp [YamlStorage.listMemories]
  have hcall : ToolCatalog.recallMemories (YamlStorage.backend Str.toAsciiLowercase) json s ana { limit := some 1 } 0 =
      .ok ⟨visible.take 1, (visible.take 1).length⟩ := by
    rw [← ranked_of_filter h hone]
    exact Res.bind_eq_ok.2 ⟨_, Res.mapErr_eq_ok.2 hlist, rfl⟩
  rw [recalled, hcall, List.take_of_length_le hone]
  rfl

end CrowdedMemories

open CrowdedMemories in
/-- What others remember keeps a caller from its own memory. -/
theorem recall_crowded_out :
    recalled crowded = some [] ∧ recalled alone = some ["a"] ∧
      ((YamlStorage.scan Str.toAsciiLowercase crowded).visibleMemories json ana { limit := some 1 } 0).map (·.id) = ["a"] ∧
      ¬∀ out, ToolCatalog.recallMemories (YamlStorage.backend Str.toAsciiLowercase) json crowded ana { limit := some 1 } 0 =
        .ok out → out.memories = ((YamlStorage.scan Str.toAsciiLowercase crowded).visibleMemories json ana
          { limit := some 1 } 0).take 1 := by
  have hrows : (crowded.memories.items.map (MemoryRecord.fromStorage json)).filter (·.scope.visibleTo ana) =
      [MemoryRecord.fromStorage json (ofUser "a" "ana")] := by
    rw [items_crowded, List.map_append, List.filter_append, List.map_map, List.filter_map]
    simp [Function.comp_def, hides_bob, shows_ana]
  have hrecalled : recalled crowded = some [] := by
    refine @recalled_of_filter _ [] ?_ (Nat.zero_le 1)
    rw [items_crowded, List.take_left' (show (ids.map (ofUser · "bob")).length = 20 from rfl), List.map_map, List.filter_map]
    simp [Function.comp_def, hides_bob]
  have halone : recalled alone = some ["a"] :=
    @recalled_of_filter _ [MemoryRecord.fromStorage json (ofUser "a" "ana")] (by decide +kernel) (Nat.le_refl 1)
  have hvisible : ((YamlStorage.scan Str.toAsciiLowercase crowded).visibleMemories json ana { limit := some 1 } 0).map
      (·.id) = ["a"] :=
    congrArg (List.map (·.id)) (ranked_of_filter hrows (Nat.le_refl 1))
  refine ⟨hrecalled, halone, hvisible, fun h => ?_⟩
  cases hout : ToolCatalog.recallMemories (YamlStorage.backend Str.toAsciiLowercase) json crowded ana
    { limit := some 1 } 0 with
  | error e =>
    rw [recalled, hout] at hrecalled
    cases hrecalled
  | ok out =>
    rw [recalled, hout] at hrecalled
    have hids : out.memories.map (·.id) = [] := Option.some.inj hrecalled
    rw [h out hout, List.map_take, hvisible] at hids
    cases hids

end GraphNight
