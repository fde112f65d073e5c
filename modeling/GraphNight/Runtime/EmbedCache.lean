import GraphNight.Runtime.Catalog
import GraphNight.Runtime.OpenAiEmbeddings

/-!
# The embedding cache is transparent while its misses fit one request

What is cached under a model's name is the vector of some text, next to the hash of that
text. A call splits the models into hits and misses, embeds the misses as one batch and
merges the vectors back by position. The batch is not split: more misses than the provider
takes in one request are refused as a whole, and nothing is cached.
-/

namespace GraphNight

namespace ToolCatalog

variable (std : RustStd)

/-- The cached vector of a model whose text is unchanged. -/
def cachedVector (cache : EmbedCache) (m : StoredModel) : Option (List Rat) :=
  (cache.get m.name).bind fun entry => if entry.2.1 = std.hash (modelDocument m) then some entry.2.2 else none

/-- The models whose texts have to be embedded. -/
def uncached (cache : EmbedCache) (models : List StoredModel) : List StoredModel :=
  models.filter fun m => (cachedVector std cache m).isNone

/-- Cache the vectors of models under their names. -/
def cacheAll (cache : EmbedCache) (embedded : List (StoredModel × List Rat)) : EmbedCache :=
  embedded.foldl (fun cache p => cache.insert (p.1.name, std.hash (modelDocument p.1), p.2)) cache

/-- The caches that calls on models with the given texts can leave. Between what a call
reads and what it writes, other calls may have written. -/
inductive CacheReached (embed : EmbeddingProvider) (texts : Set String) : EmbedCache → Prop where
  | empty : CacheReached embed texts .empty
  | written {read cache : EmbedCache} {models : List StoredModel} {fresh : List (List Rat)} (hread : CacheReached embed texts read)
      (hcache : CacheReached embed texts cache) (hmodels : ∀ m ∈ models, modelDocument m ∈ texts)
      (hfresh : embed ((uncached std read models).map modelDocument) = .ok fresh) :
      CacheReached embed texts (cacheAll std cache ((uncached std read models).zip fresh))

variable {std} {embed : EmbeddingProvider} {cache : EmbedCache} {models : List StoredModel}

/-- What a call makes of the cache it reads. -/
theorem embedOrCached_eq : embedOrCached std embed cache models =
    if (uncached std cache models).isEmpty then (.ok (fillSlots (models.map (cachedVector std cache)) []), cache)
    else
      match embed ((uncached std cache models).map modelDocument) with
      | .error fault => (Res.mapErr (fun e => ⟨"EMBEDDING_FAILED", e, none⟩) (.error fault), cache)
      | .ok fresh =>
        if fresh.length ≠ (uncached std cache models).length then
          (Res.fail ⟨"EMBEDDING_FAILED", "embedder returned " ++ toString fresh.length ++ " vectors for " ++
            toString (uncached std cache models).length ++ " inputs", none⟩, cache)
        else
          (.ok (fillSlots (models.map (cachedVector std cache)) fresh), cacheAll std cache ((uncached std cache models).zip fresh)) :=
  rfl

/-- A call leaves a cache that can be reached. -/
theorem CacheReached.embedOrCached {texts : Set String} (h : CacheReached std embed texts cache)
    (hmodels : ∀ m ∈ models, modelDocument m ∈ texts) :
    CacheReached std embed texts (ToolCatalog.embedOrCached std embed cache models).2 := by
  rw [embedOrCached_eq]
  split_ifs
  · exact h
  · cases hfresh : embed ((uncached std cache models).map modelDocument) with
    | error fault => exact h
    | ok fresh =>
      dsimp only
      split_ifs
      · exact h
      · exact .written h h hmodels hfresh

/-- Hits and misses are merged back by position. -/
theorem fillSlots_eq {vec : StoredModel → List Rat} {cached : StoredModel → Option (List Rat)}
    (h : ∀ m ∈ models, ∀ v ∈ cached m, v = vec m) :
    fillSlots (models.map cached) ((models.filter fun m => (cached m).isNone).map vec) = models.map vec := by
  induction models with
  | nil => rfl
  | cons m models ih =>
    have hrest := ih fun m' hm' => h m' (List.mem_cons_of_mem _ hm')
    cases hm : cached m with
    | some v =>
      rw [List.map_cons, List.filter_cons_of_neg (by simp [hm]), hm, fillSlots, hrest, h m List.mem_cons_self v hm]
      rfl
    | none =>
      rw [List.map_cons, List.filter_cons_of_pos (by simp [hm]), hm, List.map_cons, fillSlots, hrest]
      rfl

/-! ## What is cached -/

variable {texts : Set String} {p : OpenAiEmbeddingProvider} {vec : String → List Rat}

/-- Every cached vector is that of a text with the hash beside it. -/
def Faithful (std : RustStd) (vec : String → List Rat) (texts : Set String) (cache : EmbedCache) : Prop :=
  ∀ entry ∈ cache.items, ∃ text ∈ texts, entry.2 = (std.hash text, vec text)

theorem Faithful.cacheAll (h : Faithful std vec texts cache) (hmodels : ∀ m ∈ models, modelDocument m ∈ texts) :
    Faithful std vec texts (cacheAll std cache (models.zip (models.map fun m => vec (modelDocument m)))) := by
  intro entry hentry
  rcases KeyedList.mem_foldl_insert hentry with hold | ⟨embedded, hmem, rfl⟩
  · exact h entry hold
  · rw [List.zip, List.zipWith_map_right, List.zipWith_self, List.mem_map] at hmem
    obtain ⟨m, hm, rfl⟩ := hmem
    exact ⟨modelDocument m, hmodels m hm, rfl⟩

theorem CacheReached.faithful (h : CacheReached std p.embed texts cache) (hhonest : p.Honest vec) : Faithful std vec texts cache := by
  induction h with
  | empty => exact fun _ hentry => absurd hentry List.not_mem_nil
  | written _ _ hmodels hfresh _ hcache =>
    have hfits := not_not.1 fun hno => OpenAiEmbeddingProvider.embed_ne_ok hno _ hfresh
    rw [OpenAiEmbeddingProvider.embed_ok hhonest hfits, List.map_map] at hfresh
    rw [← Except.ok.inj hfresh]
    exact hcache.cacheAll fun m hm => hmodels m (List.mem_of_mem_filter hm)

/-- A hit is the vector of the text, where hashes do not collide. -/
theorem Faithful.cachedVector (h : Faithful std vec texts cache) (hhash : Set.InjOn std.hash texts) {m : StoredModel}
    (hm : modelDocument m ∈ texts) {v : List Rat} (hv : v ∈ cachedVector std cache m) : v = vec (modelDocument m) := by
  obtain ⟨entry, hget, hentry⟩ := Option.bind_eq_some_iff.1 hv
  obtain ⟨text, htext, hvalue⟩ := h entry (KeyedList.mem_of_get hget)
  rw [hvalue] at hentry
  split_ifs at hentry with hsame
  rw [← Option.some.inj hentry, hhash htext hm hsame]

/-- The vectors of a catalogue are those of its texts exactly when the misses fit one request. -/
theorem embed_transparent_iff (std : RustStd) (p : OpenAiEmbeddingProvider) (vec : String → List Rat) (texts : Set String)
    (cache : EmbedCache) (models : List StoredModel) (hhonest : p.Honest vec) (hhash : Set.InjOn std.hash texts)
    (hreached : CacheReached std p.embed texts cache) (hmodels : ∀ m ∈ models, modelDocument m ∈ texts) :
    (embedOrCached std p.embed cache models).1 = .ok (models.map fun m => vec (modelDocument m)) ↔
      p.Fits ((uncached std cache models).map modelDocument) := by
  have hhit : ∀ m ∈ models, ∀ v ∈ ToolCatalog.cachedVector std cache m, v = vec (modelDocument m) := fun m hm v hv =>
    (hreached.faithful hhonest).cachedVector hhash (hmodels m hm) hv
  have hmerged := fillSlots_eq hhit
  rw [embedOrCached_eq]
  by_cases hempty : uncached std cache models = []
  · rw [if_pos (List.isEmpty_iff.2 hempty), hempty]
    unfold uncached at hempty
    rw [hempty, List.map_nil] at hmerged
    exact iff_of_true (congrArg Except.ok hmerged) ⟨Nat.zero_le _, by simp⟩
  · rw [if_neg (mt List.isEmpty_iff.1 hempty)]
    constructor
    · intro hok
      by_contra hno
      cases hembed : p.embed ((uncached std cache models).map modelDocument) with
      | ok fresh => exact OpenAiEmbeddingProvider.embed_ne_ok hno fresh hembed
      | error fault =>
        rw [hembed] at hok
        rcases fault with e | _ <;> cases hok
    · intro hfits
      rw [OpenAiEmbeddingProvider.embed_ok hhonest hfits]
      simp only [List.length_map, ne_eq, not_true_eq_false, if_false, List.map_map]
      exact congrArg Except.ok hmerged

/-! ### One model in many datasources -/

/-- The number a text is embedded as. -/
def ordersNumber (text : String) : String := if text = "orders" then "1" else "2"

def vectorOf (text : String) : List Rat := if text = "orders" then [1] else [2]

/-- An item of a response: the vector of a text, and the index it is for. -/
def responseItem (number : String) (index : Nat) : Value :=
  .object [("index", .number (toString index)), ("embedding", .array [.number number])]

/-- A provider with the default limit. -/
def provider : OpenAiEmbeddingProvider where
  dimensions := 1
  dimensions_pos := one_pos
  maxInputs_pos := by decide
  post texts := .ok (.object [("data", .array (texts.zipIdx.map fun t => responseItem (ordersNumber t.1) t.2))])
  asF32 v := if v = .number "1" then 1 else if v = .number "2" then 2 else 0

/-- Texts are told apart by their lengths. -/
def lengthHash : RustStd := ⟨fun _ => false, id, List.Perm.refl, fun text => UInt64.ofNat text.length, fun _ => none, id⟩

def orders : StoredModel := { name := "orders", datasource := "shop" }

def items : StoredModel := { name := "items", datasource := "shop" }

/-- The model in each of a number of datasources. -/
def copies (n : Nat) : List StoredModel := (List.range n).map fun i => { orders with datasource := toString i }

/-- What a call on `orders` leaves in the cache. -/
def ordersCache : EmbedCache := (embedOrCached lengthHash provider.embed .empty [orders]).2

theorem provider_honest : provider.Honest vectorOf := by
  have hitem : ∀ i < 64, provider.readItem (responseItem "1" i) = (i, some [1]) ∧
      provider.readItem (responseItem "2" i) = (i, some [2]) := by decide +kernel
  constructor
  · intro text
    unfold vectorOf
    split_ifs <;> rfl
  · intro texts hfits
    refine ⟨_, _, rfl, rfl, .of_eq ?_⟩
    rw [List.map_map]
    apply List.map_congr_left
    intro t ht
    have hindex : t.2 < 64 := by
      have hlt := (List.mem_zipIdx' ht).1
      have hmax : texts.length ≤ 64 := hfits.1
      omega
    obtain ⟨hone, htwo⟩ := hitem t.2 hindex
    simp only [Function.comp_apply, ordersNumber, vectorOf]
    split_ifs
    · exact hone
    · exact htwo

theorem lengthHash_injOn : Set.InjOn lengthHash.hash {"orders", "items"} := by
  have htexts : ∀ a ∈ ["orders", "items"], ∀ b ∈ ["orders", "items"], lengthHash.hash a = lengthHash.hash b → a = b := by
    decide +kernel
  intro a ha b hb
  exact htexts a (by simpa using ha) b (by simpa using hb)

/-- With `orders` cached, a catalogue that has it beside two models of another text is embedded. -/
theorem catalogue_embedded :
    (embedOrCached lengthHash provider.embed ordersCache [items, orders, { items with datasource := "crm" }]).1 =
        .ok [[2], [1], [2]] ↔
      provider.Fits ["items", "items"] := by
  have hreached : CacheReached lengthHash provider.embed {"orders", "items"} ordersCache := by
    apply CacheReached.empty.embedOrCached
    intro m hm
    rw [List.mem_singleton.1 hm]
    exact .inl rfl
  apply embed_transparent_iff lengthHash provider vectorOf {"orders", "items"} ordersCache
    [items, orders, { items with datasource := "crm" }] provider_honest lengthHash_injOn hreached
  intro m hm
  simp only [List.mem_cons, List.not_mem_nil, or_false] at hm
  rcases hm with rfl | rfl | rfl
  · exact .inr rfl
  · exact .inl rfl
  · exact .inr rfl

/-- A catalogue of one model more than a request may carry is not embedded at all. -/
theorem large_catalogue_refused : provider.Honest vectorOf ∧ Set.InjOn lengthHash.hash {"orders", "items"} ∧
    CacheReached lengthHash provider.embed {"orders", "items"} .empty ∧
    (∀ m ∈ copies 65, modelDocument m ∈ ({"orders", "items"} : Set String)) ∧
    (embedOrCached lengthHash provider.embed .empty (copies 65)).1 ≠ .ok ((copies 65).map fun m => vectorOf (modelDocument m)) := by
  refine ⟨provider_honest, lengthHash_injOn, .empty, ?_, ?_⟩
  · intro m hm
    obtain ⟨i, -, rfl⟩ := List.mem_map.1 hm
    exact .inl rfl
  have hall : uncached lengthHash .empty (copies 65) = copies 65 := List.filter_eq_self.2 fun m _ => rfl
  have hno : ¬provider.Fits ((copies 65).map modelDocument) := fun hfits => absurd hfits.1 (by decide)
  rw [embedOrCached_eq, hall, if_neg (by decide)]
  cases hembed : provider.embed ((copies 65).map modelDocument) with
  | ok fresh => exact absurd hembed (OpenAiEmbeddingProvider.embed_ne_ok hno fresh)
  | error fault =>
    rcases fault with e | _ <;> exact fun h => by cases h

end ToolCatalog

end GraphNight
