import GraphNight.Storage.Postgres
import GraphNight.Storage.Yaml

/-!
# What a write does to the catalogue

Every backend keeps its models and its datasources under keys. A write puts one at its key,
in the place of what an update names, or takes the entries a deletion names; one that fails
may have done so, or nothing. The keys of models and what a deletion of them takes are each
backend's own.
-/

namespace GraphNight

/-- Where the states of a backend keep models and datasources. -/
structure CatalogueLayout (σ : Type) where
  /-- The models under their keys. -/
  entries : σ → List (String × StoredModel)
  /-- The datasources under the names they were stored at. -/
  datasourceEntries : σ → List (String × StoredDataSource)
  /-- The key a name and a datasource are written at. -/
  key : String → String → String
  /-- A deletion takes an entry. -/
  deletes : String → Option String → String × StoredModel → Prop

namespace CatalogueLayout

variable {σ : Type} (c : CatalogueLayout σ)

/-- A model is stored. -/
def Stores (s : σ) (model : StoredModel) : Prop := ∃ key, (key, model) ∈ c.entries s

def datasources (s : σ) : List StoredDataSource := (c.datasourceEntries s).map (·.2)

/-- What a write puts into the models. -/
def puts : StorageWrite → Option (String × StoredModel)
  | .createModel model => some (c.key model.name model.datasource, model)
  | .updateModel name model => some (c.key name model.datasource, model)
  | _ => none

/-- A write takes an entry out, or puts its own in the place of it. -/
def Touches : StorageWrite → String × StoredModel → Prop
  | .updateModel name model, e => e.1 = c.key name model.datasource
  | .deleteModel name datasource, e => c.deletes name datasource e
  | _, _ => False

/-- The datasource a write puts. -/
def putsDatasource : StorageWrite → Option (String × StoredDataSource)
  | .createDatasource ds => some (ds.name, ds)
  | .updateDatasource name ds => some (name, ds)
  | _ => none

/-- A write takes a datasource out, or puts its own in the place of it. -/
def TouchesDatasource : StorageWrite → String × StoredDataSource → Prop
  | .updateDatasource name _, e => e.1 = name
  | .deleteDatasource name, e => e.1 = name
  | _, _ => False

/-- What a write makes of the models and of the datasources. -/
structure Wrote (w : StorageWrite) (s s' : σ) : Prop where
  models : KeyedList.PutTake (c.puts w) (c.Touches w) (c.entries s) (c.entries s')
  datasources : KeyedList.PutTake (putsDatasource w) (TouchesDatasource w) (c.datasourceEntries s) (c.datasourceEntries s')

/-- What a call leaves behind: its write, or an error and everything as it was. -/
inductive Effect (w : StorageWrite) (s : σ) {α : Type} (r : Res String α × σ) : Prop where
  | wrote (h : c.Wrote w s r.2)
  | failed (models : c.entries r.2 = c.entries s) (datasources : c.datasourceEntries r.2 = c.datasourceEntries s)
      (error : ∃ e, r.1 = .error e)

end CatalogueLayout

/-- A backend that reads and writes its catalogue by a layout. -/
structure Backend.Catalogue {σ : Type} (b : Backend σ) extends CatalogueLayout σ where
  valid : σ → Prop
  key_injective : ∀ {name name' datasource}, key name datasource = key name' datasource → name = name'
  listModels : ∀ {s models}, valid s → b.listModels s none = .ok models → ∀ m, m ∈ models ↔ toCatalogueLayout.Stores s m
  listDatasources : ∀ {s all}, valid s → b.listDatasources s = .ok all →
    ∀ ds, ds ∈ all ↔ ds ∈ toCatalogueLayout.datasources s
  getModel : ∀ {s name m}, valid s → b.getModel s name none = .ok (some m) → toCatalogueLayout.Stores s m
  getDatasource : ∀ {s name ds}, valid s → b.getDatasource s name = .ok (some ds) → (name, ds) ∈ datasourceEntries s
  createModel : ∀ {s m m'}, (b.createModel s m).1 = .ok m' → m' = m
  /-- A model is not created over another. -/
  createModel_taken : ∀ {s m e}, valid s → e ∈ entries s → e.1 = key m.name m.datasource →
    ∃ err, b.createModel s m = (.error err, s)
  /-- Nor a datasource. -/
  createDatasource_taken : ∀ {s ds e}, valid s → e ∈ datasourceEntries s → e.1 = ds.name →
    ∃ err, b.createDatasource s ds = (.error err, s)
  datasources_distinct : ∀ {s e e'}, valid s → e ∈ datasourceEntries s → e' ∈ datasourceEntries s → e'.1 = e.1 → e' = e
  updateModel : ∀ {s name m m'}, (b.updateModel s name m).1 = .ok m' → m' = m
  valid_write : ∀ {s} w, valid s → valid (b.write s w).2
  effect : ∀ {s} w, valid s → toCatalogueLayout.Effect w s (b.write s w)

namespace CatalogueLayout

variable {σ : Type} {c : CatalogueLayout σ} {w : StorageWrite} {s s' : σ}

/-- What a call did, without the record it returns. -/
theorem Effect.write {α : Type} {r : Res String α × σ} (h : c.Effect w s r) : c.Effect w s (r.1.map fun _ => (), r.2) := by
  cases h with
  | wrote h => exact .wrote h
  | failed hmodels hds herror =>
    obtain ⟨e, he⟩ := herror
    exact .failed hmodels hds ⟨e, by rw [he]; rfl⟩

theorem Effect.error {α : Type} (e : Fault String) : c.Effect w s ((.error e : Res String α), s) :=
  .failed rfl rfl ⟨e, rfl⟩

/-- A change of the models leaves the datasources. -/
theorem Effect.of_models {α : Type} {r : Res String α × σ}
    (h : KeyedList.PutTake (c.puts w) (c.Touches w) (c.entries s) (c.entries r.2)) (hputs : putsDatasource w = none)
    (htouches : ∀ e, ¬TouchesDatasource w e) (hds : c.datasourceEntries r.2 = c.datasourceEntries s) : c.Effect w s r := by
  refine .wrote ⟨h, ?_⟩
  rw [hputs, hds]
  exact .nothing fun e _ => htouches e

/-- A change of the datasources leaves the models. -/
theorem Effect.of_datasources {α : Type} {r : Res String α × σ}
    (h : KeyedList.PutTake (putsDatasource w) (TouchesDatasource w) (c.datasourceEntries s) (c.datasourceEntries r.2))
    (hputs : c.puts w = none) (htouches : ∀ e, ¬c.Touches w e) (hmodels : c.entries r.2 = c.entries s) : c.Effect w s r := by
  refine .wrote ⟨?_, h⟩
  rw [hputs, hmodels]
  exact .nothing fun e _ => htouches e

end CatalogueLayout

/-! ## What a call makes of the stored models -/

section

variable {σ : Type} {w : StorageWrite} {s : σ}

namespace CatalogueLayout

variable {c : CatalogueLayout σ} {s' : σ}

/-- A write that takes the entries with a name. -/
theorem Wrote.stores_iff (h : c.Wrote w s s') {name : String}
    (htouches : ∀ e ∈ c.entries s, c.Touches w e ↔ e.2.name = name) (m : StoredModel) :
    c.Stores s' m ↔ (∃ key, c.puts w = some (key, m)) ∨ c.Stores s m ∧ m.name ≠ name := by
  constructor
  · rintro ⟨key, he⟩
    rcases (h.models (key, m)).1 he with hput | ⟨he, hleft⟩
    · exact .inl ⟨key, hput⟩
    · exact .inr ⟨⟨key, he⟩, fun hname => hleft ((htouches _ he).2 hname)⟩
  · rintro (⟨key, hput⟩ | ⟨⟨key, he⟩, hne⟩)
    · exact ⟨key, (h.models _).2 (.inl hput)⟩
    · exact ⟨key, (h.models _).2 (.inr ⟨he, fun htouch => hne ((htouches _ he).1 htouch)⟩)⟩

/-- A call that puts what is stored, and only in the place of itself, changes no model,
whether it succeeds or not. -/
theorem Effect.stores_iff {α : Type} {r : Res String α × σ} (h : c.Effect w s r)
    (hputs : ∀ key m, c.puts w = some (key, m) → c.Stores s m)
    (htouches : ∀ e ∈ c.entries s, c.Touches w e → ∃ key, c.puts w = some (key, e.2)) (m : StoredModel) :
    c.Stores r.2 m ↔ c.Stores s m := by
  cases h with
  | wrote hwrote =>
    constructor
    · rintro ⟨key, he⟩
      rcases (hwrote.models (key, m)).1 he with hput | ⟨he, -⟩
      · exact hputs key m hput
      · exact ⟨key, he⟩
    · rintro ⟨key, he⟩
      by_cases htouch : c.Touches w (key, m)
      · obtain ⟨key', hput⟩ := htouches _ he htouch
        exact ⟨key', (hwrote.models _).2 (.inl hput)⟩
      · exact ⟨key, (hwrote.models _).2 (.inr ⟨he, htouch⟩)⟩
  | failed hsame =>
    unfold Stores
    rw [hsame]

/-- What a call leaves of datasources: what it was to put, or what was there. -/
theorem Effect.datasourceEntry {α : Type} {r : Res String α × σ} (h : c.Effect w s r) {e : String × StoredDataSource}
    (he : e ∈ c.datasourceEntries r.2) : putsDatasource w = some e ∨ e ∈ c.datasourceEntries s := by
  cases h with
  | wrote hwrote =>
    rcases (hwrote.datasources e).1 he with hput | ⟨hbefore, -⟩
    · exact .inl hput
    · exact .inr hbefore
  | failed _ hsame => exact .inr (hsame ▸ he)

theorem Effect.datasources {α : Type} {r : Res String α × σ} (h : c.Effect w s r) {ds : StoredDataSource}
    (hds : ds ∈ c.datasources r.2) : (∃ name, putsDatasource w = some (name, ds)) ∨ ds ∈ c.datasources s := by
  obtain ⟨e, he, rfl⟩ := List.mem_map.1 hds
  rcases h.datasourceEntry he with hput | hbefore
  · exact .inl ⟨e.1, hput⟩
  · exact .inr (List.mem_map_of_mem hbefore)

end CatalogueLayout

namespace Backend.Catalogue

variable {b : Backend σ} {c : b.Catalogue}

/-- A write that succeeds has been made. -/
theorem wrote (hv : c.valid s) (h : (b.write s w).1 = .ok ()) : c.Wrote w s (b.write s w).2 := by
  cases c.effect w hv with
  | wrote hwrote => exact hwrote
  | failed _ _ herror =>
    obtain ⟨e, he⟩ := herror
    rw [he] at h
    cases h

theorem getDatasource_mem (c : b.Catalogue) {name : String} {ds : StoredDataSource} (hv : c.valid s)
    (h : b.getDatasource s name = .ok (some ds)) : ds ∈ c.datasources s :=
  List.mem_map_of_mem (c.getDatasource hv h)

/-- A write of models brings no datasource. -/
theorem datasources_subset (hv : c.valid s) (h : CatalogueLayout.putsDatasource w = none) :
    c.datasources (b.write s w).2 ⊆ c.datasources s := by
  intro ds hds
  rcases (c.effect w hv).datasources hds with ⟨name, hput⟩ | hbefore
  · rw [h] at hput
    cases hput
  · exact hbefore

end Backend.Catalogue

end

/-! ## YAML -/

namespace YamlStorage

variable {s : YamlStorage}

def layout : CatalogueLayout YamlStorage where
  entries s := s.models.items
  datasourceEntries s := s.datasources.items
  key name _ := name
  deletes name datasource e := e.1 = name ∧ datasource.all (e.2.datasource == ·) = true

theorem persist_fst {α : Type} {a a' : α} (h : (s.persist a).1 = .ok a') : a' = a := by
  unfold persist at h
  split at h
  · cases h
  · exact (Except.ok.inj h).symm

/-- A write that changes the models in memory, whatever comes of the file. -/
theorem models_effect {w : StorageWrite} {t : YamlStorage} {α : Type} (a : α)
    (h : KeyedList.PutTake (layout.puts w) (layout.Touches w) s.models.items t.models.items)
    (hputs : CatalogueLayout.putsDatasource w = none) (htouches : ∀ e, ¬CatalogueLayout.TouchesDatasource w e)
    (hds : t.datasources = s.datasources) : layout.Effect w s (t.persist a) := by
  apply CatalogueLayout.Effect.of_models _ hputs htouches
  · rw [persist_snd]
    exact congrArg KeyedList.items hds
  · rw [persist_snd]
    exact h

/-- A write that changes the datasources in memory, whatever comes of the file. -/
theorem datasources_effect {w : StorageWrite} {t : YamlStorage} {α : Type} (a : α)
    (h : KeyedList.PutTake (CatalogueLayout.putsDatasource w) (CatalogueLayout.TouchesDatasource w) s.datasources.items
      t.datasources.items)
    (hputs : layout.puts w = none) (htouches : ∀ e, ¬layout.Touches w e) (hmodels : t.models = s.models) :
    layout.Effect w s (t.persist a) := by
  apply CatalogueLayout.Effect.of_datasources _ hputs htouches
  · rw [persist_snd]
    exact congrArg KeyedList.items hmodels
  · rw [persist_snd]
    exact h

theorem createModel_effect (model : StoredModel) : layout.Effect (.createModel model) s (s.createModel model) := by
  by_cases h : (s.models.get model.name).isSome
  · rw [show s.createModel model = _ from if_pos h]
    exact .error _
  · rw [show s.createModel model = _ from if_neg h]
    exact models_effect _ (KeyedList.putTake_insert_new h) rfl (fun _ => not_false) rfl

theorem updateModel_effect (name : String) (model : StoredModel) :
    layout.Effect (.updateModel name model) s (s.updateModel name model) := by
  by_cases h : (s.models.get name).isSome
  · rw [show s.updateModel name model = _ from if_pos h]
    exact models_effect _ (KeyedList.putTake_insert s.models (name, model)) rfl (fun _ => not_false) rfl
  · rw [show s.updateModel name model = _ from if_neg h]
    exact .error _

/-- A deletion takes the model of the name, if it is of the datasource. -/
theorem deleteModel_effect (name : String) (datasource : Option String) :
    layout.Effect (.deleteModel name datasource) s (s.deleteModel name datasource) := by
  have hnamed : ∀ e ∈ s.models.items, e.1 = name → (s.models.get name).map (·.2) = some e.2 := by
    rintro e he rfl
    rw [KeyedList.get_eq_some.2 ⟨he, rfl⟩]
    rfl
  by_cases h : ((s.models.get name).map (·.2)).any fun m => datasource.all (m.datasource == ·)
  · rw [show s.deleteModel name datasource = _ from if_pos h]
    refine models_effect true (KeyedList.putTake_erase fun e he => ?_) rfl (fun _ => not_false) rfl
    constructor
    · exact And.left
    · intro hkey
      rw [hnamed e he hkey] at h
      exact ⟨hkey, h⟩
  · rw [show s.deleteModel name datasource = _ from if_neg h]
    refine .of_models (.nothing ?_) rfl (fun _ => not_false) rfl
    rintro e he ⟨hkey, hof⟩
    rw [hnamed e he hkey] at h
    exact h hof

theorem createDatasource_effect (ds : StoredDataSource) :
    layout.Effect (.createDatasource ds) s (s.createDatasource ds) := by
  by_cases h : (s.datasources.get ds.name).isSome
  · rw [show s.createDatasource ds = _ from if_pos h]
    exact .error _
  · rw [show s.createDatasource ds = _ from if_neg h]
    exact datasources_effect _ (KeyedList.putTake_insert_new h) rfl (fun _ => not_false) rfl

theorem updateDatasource_effect (name : String) (ds : StoredDataSource) :
    layout.Effect (.updateDatasource name ds) s (s.updateDatasource name ds) := by
  by_cases h : (s.datasources.get name).isSome
  · rw [show s.updateDatasource name ds = _ from if_pos h]
    exact datasources_effect _ (KeyedList.putTake_insert s.datasources (name, ds)) rfl (fun _ => not_false) rfl
  · rw [show s.updateDatasource name ds = _ from if_neg h]
    exact .error _

theorem deleteDatasource_effect (name : String) : layout.Effect (.deleteDatasource name) s (s.deleteDatasource name) := by
  by_cases h : (s.datasources.get name).isSome
  · rw [show s.deleteDatasource name = _ from if_pos h]
    exact datasources_effect _ (KeyedList.putTake_erase fun _ _ => Iff.rfl) rfl (fun _ => not_false) rfl
  · rw [show s.deleteDatasource name = _ from if_neg h]
    refine .of_datasources (.nothing ?_) rfl (fun _ => not_false) rfl
    rintro e he rfl
    rw [KeyedList.get_eq_some.2 ⟨he, rfl⟩] at h
    exact h rfl

/-- YAML storage keeps a model at its name. -/
def catalogue (toLowercase : String → String) : (backend toLowercase).Catalogue where
  toCatalogueLayout := layout
  valid _ := True
  key_injective h := h
  listModels _ h m := by
    rw [← Except.ok.inj h]
    simp [CatalogueLayout.Stores, layout]
  listDatasources _ h ds := by
    rw [← Except.ok.inj h]
    rfl
  getModel _ h := by
    obtain ⟨hfound, -⟩ := Option.filter_eq_some_iff.1 (Except.ok.inj h)
    obtain ⟨e, he, rfl⟩ := Option.map_eq_some_iff.1 hfound
    exact ⟨e.1, KeyedList.mem_of_get he⟩
  getDatasource _ h := by
    obtain ⟨e, he, rfl⟩ := Option.map_eq_some_iff.1 (Except.ok.inj h)
    obtain ⟨hmem, rfl⟩ := KeyedList.get_eq_some.1 he
    exact hmem
  createModel {s m m'} h := by
    change (s.createModel m).1 = .ok m' at h
    unfold createModel at h
    split at h
    · cases h
    · exact persist_fst h
  createModel_taken {s m e} _ he hkey := by
    have hget : s.models.get m.name = some e := KeyedList.get_eq_some.2 ⟨he, hkey⟩
    exact ⟨_, if_pos (by rw [hget]; rfl)⟩
  createDatasource_taken {s ds e} _ he hname := by
    have hget : s.datasources.get ds.name = some e := KeyedList.get_eq_some.2 ⟨he, hname⟩
    exact ⟨_, if_pos (by rw [hget]; rfl)⟩
  datasources_distinct {s e e'} _ he he' hkey := List.inj_on_of_nodup_map s.datasources.distinct he' he hkey
  updateModel {s name m m'} h := by
    change (s.updateModel name m).1 = .ok m' at h
    unfold updateModel at h
    split at h
    · exact persist_fst h
    · cases h
  valid_write _ _ := trivial
  effect w _ := by
    cases w with
    | createModel model => exact (createModel_effect model).write
    | updateModel name model => exact (updateModel_effect name model).write
    | deleteModel name datasource => exact (deleteModel_effect name datasource).write
    | createDatasource ds => exact (createDatasource_effect ds).write
    | updateDatasource name ds => exact (updateDatasource_effect name ds).write
    | deleteDatasource name => exact (deleteDatasource_effect name).write

end YamlStorage

/-! ## SQLite -/

namespace SqliteStorage

variable {json : RecordJson} {s t : SqliteStorage}

def layout : CatalogueLayout SqliteStorage where
  entries s := s.modelsCache.items
  datasourceEntries s := s.datasourcesCache.items
  key name datasource := modelKey name (some datasource)
  deletes name datasource e := e.1 = modelKey name datasource

/-- The maps of two states are the same. -/
structure SameCaches (s t : SqliteStorage) : Prop where
  models : t.modelsCache = s.modelsCache
  datasources : t.datasourcesCache = s.datasourcesCache

/-- A statement changes tables. -/
theorem sameCaches_execute {α : Type} {statement : Res String SqliteStorage} {a : α}
    (h : ∀ t', statement = .ok t' → SameCaches t t') : SameCaches t (t.execute statement a).2 := by
  obtain ⟨e, hfailed⟩ | ⟨t', -, hran, hexecute⟩ := t.execute_cases statement a
  · rw [hfailed]
    exact ⟨rfl, rfl⟩
  · rw [hexecute]
    exact h t' hran

theorem sameCaches_insertModel (row : ModelRow) : ∀ t', t.insertModel row = .ok t' → SameCaches t t' := by
  intro t' h
  unfold insertModel at h
  split_ifs at h
  · cases h
  · obtain rfl := Except.ok.inj h
    exact ⟨rfl, rfl⟩

theorem sameCaches_insertDatasource (name data : String) : ∀ t', t.insertDatasource name data = .ok t' → SameCaches t t' := by
  intro t' h
  unfold insertDatasource at h
  split_ifs at h
  · cases h
  · obtain rfl := Except.ok.inj h
    exact ⟨rfl, rfl⟩

theorem sameCaches_setModelData (key data : String) : SameCaches t (t.setModelData key data) := by
  unfold setModelData
  split <;> exact ⟨rfl, rfl⟩

theorem sameCaches_setDatasourceData (name data : String) : SameCaches t (t.setDatasourceData name data) := by
  unfold setDatasourceData
  split_ifs <;> exact ⟨rfl, rfl⟩

theorem sameCaches_ok (h : SameCaches s t) : ∀ t', (.ok t : Res String SqliteStorage) = .ok t' → SameCaches s t' := by
  intro t' ht
  rwa [← Except.ok.inj ht]

/-- A record is put into the map where it has JSON, whatever comes of its statement. -/
theorem putThrough_cases {α : Type} {data : Res String String} {put : SqliteStorage}
    {statement : String → Res String SqliteStorage} {a : α} (h : ∀ text t', statement text = .ok t' → SameCaches put t') :
    (∃ e, s.putThrough data put statement a = (.error e, s)) ∨ SameCaches put (s.putThrough data put statement a).2 := by
  cases data with
  | error e => exact .inl ⟨e, rfl⟩
  | ok text => exact .inr (sameCaches_execute (h text))

/-- A write that changes the map of models, whatever comes of its statement. -/
theorem models_effect {w : StorageWrite} {α : Type} {r : Res String α × SqliteStorage} (hsame : SameCaches t r.2)
    (h : KeyedList.PutTake (layout.puts w) (layout.Touches w) s.modelsCache.items t.modelsCache.items)
    (hputs : CatalogueLayout.putsDatasource w = none) (htouches : ∀ e, ¬CatalogueLayout.TouchesDatasource w e)
    (hds : t.datasourcesCache = s.datasourcesCache) : layout.Effect w s r := by
  apply CatalogueLayout.Effect.of_models _ hputs htouches
  · exact congrArg KeyedList.items (hsame.datasources.trans hds)
  · show KeyedList.PutTake _ _ s.modelsCache.items r.2.modelsCache.items
    rw [hsame.models]
    exact h

/-- A write that changes the map of datasources, whatever comes of its statement. -/
theorem datasources_effect {w : StorageWrite} {α : Type} {r : Res String α × SqliteStorage} (hsame : SameCaches t r.2)
    (h : KeyedList.PutTake (CatalogueLayout.putsDatasource w) (CatalogueLayout.TouchesDatasource w)
      s.datasourcesCache.items t.datasourcesCache.items)
    (hputs : layout.puts w = none) (htouches : ∀ e, ¬layout.Touches w e) (hmodels : t.modelsCache = s.modelsCache) :
    layout.Effect w s r := by
  apply CatalogueLayout.Effect.of_datasources _ hputs htouches
  · exact congrArg KeyedList.items (hsame.models.trans hmodels)
  · show KeyedList.PutTake _ _ s.datasourcesCache.items r.2.datasourcesCache.items
    rw [hsame.datasources]
    exact h

theorem createModel_effect (model : StoredModel) : layout.Effect (.createModel model) s (s.createModel json model) := by
  unfold createModel
  by_cases h : (s.modelsCache.get (modelKey model.name (some model.datasource))).isSome
  · rw [if_pos h]
    exact .error _
  · rw [if_neg h]
    rcases putThrough_cases fun _ => sameCaches_insertModel _ with ⟨e, hfailed⟩ | hsame
    · rw [hfailed]
      exact .error e
    · exact models_effect hsame (KeyedList.putTake_insert_new h) rfl (fun _ => not_false) rfl

theorem updateModel_effect (name : String) (model : StoredModel) :
    layout.Effect (.updateModel name model) s (s.updateModel json name model) := by
  unfold updateModel
  by_cases h : (s.modelsCache.get (modelKey name (some model.datasource))).isSome
  · rw [if_pos h]
    rcases putThrough_cases fun _ => sameCaches_ok (sameCaches_setModelData _ _) with ⟨e, hfailed⟩ | hsame
    · rw [hfailed]
      exact .error e
    · exact models_effect hsame (KeyedList.putTake_insert s.modelsCache (_, model)) rfl (fun _ => not_false) rfl
  · rw [if_neg h]
    exact .error _

theorem deleteModel_effect (name : String) (datasource : Option String) :
    layout.Effect (.deleteModel name datasource) s (s.deleteModel name datasource) := by
  unfold deleteModel
  by_cases h : (s.modelsCache.get (modelKey name datasource)).isSome
  · rw [if_pos h]
    let t := { s with modelsCache := s.modelsCache.erase (modelKey name datasource) }
    have hsame : SameCaches t (t.execute (.ok { t with models := t.models.erase (modelKey name datasource) }) true).2 :=
      sameCaches_execute (sameCaches_ok ⟨rfl, rfl⟩)
    exact models_effect hsame (KeyedList.putTake_erase fun _ _ => Iff.rfl) rfl (fun _ => not_false) rfl
  · rw [if_neg h]
    refine .of_models (.nothing ?_) rfl (fun _ => not_false) rfl
    rintro e he hkey
    rw [← show e.1 = modelKey name datasource from hkey, KeyedList.get_eq_some.2 ⟨he, rfl⟩] at h
    exact h rfl

theorem createDatasource_effect (ds : StoredDataSource) :
    layout.Effect (.createDatasource ds) s (s.createDatasource json ds) := by
  unfold createDatasource
  by_cases h : (s.datasourcesCache.get ds.name).isSome
  · rw [if_pos h]
    exact .error _
  · rw [if_neg h]
    rcases putThrough_cases fun _ => sameCaches_insertDatasource _ _ with ⟨e, hfailed⟩ | hsame
    · rw [hfailed]
      exact .error e
    · exact datasources_effect hsame (KeyedList.putTake_insert_new h) rfl (fun _ => not_false) rfl

theorem updateDatasource_effect (name : String) (ds : StoredDataSource) :
    layout.Effect (.updateDatasource name ds) s (s.updateDatasource json name ds) := by
  unfold updateDatasource
  by_cases h : (s.datasourcesCache.get name).isSome
  · rw [if_pos h]
    rcases putThrough_cases fun _ => sameCaches_ok (sameCaches_setDatasourceData _ _) with ⟨e, hfailed⟩ | hsame
    · rw [hfailed]
      exact .error e
    · exact datasources_effect hsame (KeyedList.putTake_insert s.datasourcesCache (name, ds)) rfl (fun _ => not_false) rfl
  · rw [if_neg h]
    exact .error _

theorem deleteDatasource_effect (name : String) : layout.Effect (.deleteDatasource name) s (s.deleteDatasource name) := by
  unfold deleteDatasource
  by_cases h : (s.datasourcesCache.get name).isSome
  · rw [if_pos h]
    let t := { s with datasourcesCache := s.datasourcesCache.erase name }
    have hsame : SameCaches t (t.execute (.ok { t with datasources := t.datasources.erase name }) true).2 :=
      sameCaches_execute (sameCaches_ok ⟨rfl, rfl⟩)
    exact datasources_effect hsame (KeyedList.putTake_erase fun _ _ => Iff.rfl) rfl (fun _ => not_false) rfl
  · rw [if_neg h]
    refine .of_datasources (.nothing ?_) rfl (fun _ => not_false) rfl
    rintro e he rfl
    rw [KeyedList.get_eq_some.2 ⟨he, rfl⟩] at h
    exact h rfl

/-- A call that puts a record returns it. -/
theorem putThrough_eq_ok {α : Type} {data : Res String String} {put : SqliteStorage}
    {statement : String → Res String SqliteStorage} {a a' : α} (h : (s.putThrough data put statement a).1 = .ok a') :
    a' = a := by
  cases data with
  | error e => cases h
  | ok text =>
    obtain ⟨e, hfailed⟩ | ⟨t, -, -, hexecute⟩ := put.execute_cases (statement text) a
    · cases (congrArg Prod.fst hfailed).symm.trans h
    · exact (Except.ok.inj ((congrArg Prod.fst hexecute).symm.trans h)).symm

/-- SQLite keeps a model at its datasource and name, or where the tables were loaded to. -/
def catalogue (json : RecordJson) (toLowercase : String → String) : (backend json toLowercase).Catalogue where
  toCatalogueLayout := layout
  valid _ := True
  key_injective h := String.append_right_inj _ |>.1 h
  listModels _ h m := by
    rw [← Except.ok.inj h]
    simp [CatalogueLayout.Stores, layout]
  listDatasources _ h ds := by
    rw [← Except.ok.inj h]
    rfl
  getModel _ h := by
    obtain ⟨e, he, rfl⟩ := Option.map_eq_some_iff.1 (Except.ok.inj h)
    exact ⟨e.1, KeyedList.mem_of_get he⟩
  getDatasource _ h := by
    obtain ⟨e, he, rfl⟩ := Option.map_eq_some_iff.1 (Except.ok.inj h)
    obtain ⟨hmem, rfl⟩ := KeyedList.get_eq_some.1 he
    exact hmem
  createModel {s m m'} h := by
    change (s.createModel json m).1 = .ok m' at h
    unfold createModel at h
    by_cases hkey : (s.modelsCache.get (modelKey m.name (some m.datasource))).isSome
    · rw [if_pos hkey] at h
      cases h
    · rw [if_neg hkey] at h
      exact putThrough_eq_ok h
  createModel_taken {s m e} _ he hkey := by
    have hget : s.modelsCache.get (modelKey m.name (some m.datasource)) = some e := KeyedList.get_eq_some.2 ⟨he, hkey⟩
    exact ⟨_, if_pos (by rw [hget]; rfl)⟩
  createDatasource_taken {s ds e} _ he hname := by
    have hget : s.datasourcesCache.get ds.name = some e := KeyedList.get_eq_some.2 ⟨he, hname⟩
    exact ⟨_, if_pos (by rw [hget]; rfl)⟩
  datasources_distinct {s e e'} _ he he' hkey := List.inj_on_of_nodup_map s.datasourcesCache.distinct he' he hkey
  updateModel {s name m m'} h := by
    change (s.updateModel json name m).1 = .ok m' at h
    unfold updateModel at h
    by_cases hkey : (s.modelsCache.get (modelKey name (some m.datasource))).isSome
    · rw [if_pos hkey] at h
      exact putThrough_eq_ok h
    · rw [if_neg hkey] at h
      cases h
  valid_write _ _ := trivial
  effect w _ := by
    cases w with
    | createModel model => exact (createModel_effect model).write
    | updateModel name model => exact (updateModel_effect name model).write
    | deleteModel name datasource => exact (deleteModel_effect name datasource).write
    | createDatasource ds => exact (createDatasource_effect ds).write
    | updateDatasource name ds => exact (updateDatasource_effect name ds).write
    | deleteDatasource name => exact (deleteDatasource_effect name).write

end SqliteStorage

/-! ## Postgres -/

namespace PostgresMetadataStorage

variable {json : RecordJson} {s : PostgresMetadataStorage}

def layout (json : RecordJson) : CatalogueLayout PostgresMetadataStorage where
  entries s := s.models.items.filterMap fun row => (json.model.read row.data).toOption.map (row.key, ·)
  datasourceEntries s := s.datasources.items.filterMap fun row => (json.dataSource.read row.2).toOption.map (row.1, ·)
  key name datasource := SqliteStorage.modelKey name (some datasource)
  deletes name datasource e :=
    match datasource with
    | some ds => e.1 = SqliteStorage.modelKey name (some ds)
    | none => e.2.name = name

/-- The name of a row is the name of its model. -/
def Named (json : RecordJson) (s : PostgresMetadataStorage) : Prop :=
  ∀ row ∈ s.models.items, ∀ m, json.model.read row.data = .ok m → m.name = row.name

/-- The rows of a table that can be read, each with its key. -/
theorem mem_readable {α ρ : Type} {rows : List ρ} {key : ρ → String} {read : ρ → Res String α} {e : String × α} :
    (e ∈ rows.filterMap fun row => (read row).toOption.map (key row, ·)) ↔
      ∃ row ∈ rows, key row = e.1 ∧ read row = .ok e.2 := by
  simp only [List.mem_filterMap, Option.map_eq_some_iff, Prod.ext_iff]
  apply exists_congr
  intro row
  apply and_congr_right
  intro _
  cases read row with
  | error e => simp [Except.toOption]
  | ok a =>
    simp only [Except.toOption, Option.some.injEq, exists_eq_left', Except.ok.injEq]

theorem mem_entries {e : String × StoredModel} : e ∈ (layout json).entries s ↔
    ∃ row ∈ s.models.items, row.key = e.1 ∧ json.model.read row.data = .ok e.2 :=
  mem_readable

theorem mem_datasourceEntries {e : String × StoredDataSource} : e ∈ (layout json).datasourceEntries s ↔
    ∃ row ∈ s.datasources.items, row.1 = e.1 ∧ json.dataSource.read row.2 = .ok e.2 :=
  mem_readable

theorem mem_datasources {ds : StoredDataSource} : ds ∈ (layout json).datasources s ↔
    ∃ row ∈ s.datasources.items, json.dataSource.read row.2 = .ok ds := by
  constructor
  · intro hds
    obtain ⟨e, he, rfl⟩ := List.mem_map.1 hds
    obtain ⟨row, hrow, -, hread⟩ := mem_datasourceEntries.1 he
    exact ⟨row, hrow, hread⟩
  · rintro ⟨row, hrow, hread⟩
    exact List.mem_map.2 ⟨(row.1, ds), mem_datasourceEntries.2 ⟨row, hrow, rfl, hread⟩, rfl⟩

/-- A statement that fails changes nothing. -/
theorem execute_cases {α : Type} (texts : List String) (change : Res String α × PostgresMetadataStorage) :
    (∃ e, s.execute texts change = (.error e, s)) ∨ s.execute texts change = change := by
  unfold execute
  split
  · exact .inl ⟨_, rfl⟩
  · exact .inr rfl

/-- A row put into its table, in the place of one with its key. -/
theorem mem_entries_insert {row : ModelRow} {model : StoredModel} (hread : json.model.read row.data = .ok model)
    (e : String × StoredModel) : e ∈ (layout json).entries { s with models := s.models.insert row } ↔
      some (row.key, model) = some e ∨ e ∈ (layout json).entries s ∧ ¬e.1 = row.key := by
  simp only [mem_entries, KeyedList.mem_insert_iff]
  constructor
  · rintro ⟨r, rfl | ⟨hr, hne⟩, hkey, hm⟩
    · left
      rw [hkey, Except.ok.inj (hread.symm.trans hm)]
    · exact .inr ⟨⟨r, hr, hkey, hm⟩, hkey ▸ hne⟩
  · rintro (he | ⟨⟨r, hr, hkey, hm⟩, hne⟩)
    · obtain rfl := Option.some.inj he
      exact ⟨row, .inl rfl, rfl, hread⟩
    · exact ⟨r, .inr ⟨hr, hkey ▸ hne⟩, hkey, hm⟩

theorem named_insert {row : ModelRow} {model : StoredModel} (h : Named json s) (hread : json.model.read row.data = .ok model)
    (hname : model.name = row.name) : Named json { s with models := s.models.insert row } := by
  intro r hr m hm
  rcases KeyedList.mem_insert hr with rfl | hr
  · rw [← Except.ok.inj (hread.symm.trans hm), hname]
  · exact h r hr m hm

/-- What is written of models can be read, and no row has another model's name. -/
structure Kept (json : RecordJson) (w : StorageWrite) (s : PostgresMetadataStorage) {α : Type}
    (r : Res String α × PostgresMetadataStorage) : Prop where
  effect : (layout json).Effect w s r
  named : Named json r.2

theorem Kept.error {w : StorageWrite} {α : Type} (h : Named json s) (e : Fault String) :
    Kept json w s ((.error e : Res String α), s) :=
  ⟨.error e, h⟩

theorem createModel_kept (hjson : json.model.RoundTrips) (h : Named json s) (model : StoredModel) :
    Kept json (.createModel model) s (s.createModel json model) := by
  unfold createModel putRow
  cases hdata : json.model.write model with
  | error e => exact .error h e
  | ok data =>
    have hread := hjson model data hdata
    dsimp only
    rcases execute_cases (s := s) [_, model.name, model.datasource] _ with ⟨e, hfailed⟩ | hran
    · rw [hfailed]
      exact .error h e
    · rw [hran]
      split_ifs with hkey
      · exact .error h _
      · refine ⟨.of_models (fun e => ?_) rfl (fun _ => not_false) rfl, named_insert h hread rfl⟩
        have hfree : e ∈ (layout json).entries s → e.1 ≠ SqliteStorage.modelKey model.name (some model.datasource) := by
          intro he hkey'
          obtain ⟨row, hrow, hrowkey, -⟩ := mem_entries.1 he
          rw [KeyedList.get_eq_some.2 ⟨hrow, hrowkey.trans hkey'⟩] at hkey
          exact hkey rfl
        rw [mem_entries_insert hread]
        apply or_congr_right
        apply and_congr_right
        intro he
        exact iff_of_true (hfree he) not_false

theorem updateModel_kept (hjson : json.model.RoundTrips) (h : Named json s) (name : String) (model : StoredModel) :
    Kept json (.updateModel name model) s (s.updateModel json name model) := by
  unfold updateModel putRow
  cases hdata : json.model.write model with
  | error e => exact .error h e
  | ok data =>
    have hread := hjson model data hdata
    dsimp only
    rcases execute_cases (s := s) [model.name, model.datasource, _] _ with ⟨e, hfailed⟩ | hran
    · rw [hfailed]
      exact .error h e
    · rw [hran]
      split_ifs with hkey
      · exact ⟨.of_models (mem_entries_insert hread) rfl (fun _ => not_false) rfl, named_insert h hread rfl⟩
      · exact .error h _

/-- A deletion takes the model at a key, or the models of a name. -/
theorem deleteModel_kept (h : Named json s) (name : String) (datasource : Option String) :
    Kept json (.deleteModel name datasource) s (s.deleteModel name datasource) := by
  unfold deleteModel
  cases datasource with
  | some ds =>
    dsimp only
    rcases execute_cases (s := s) [SqliteStorage.modelKey name (some ds)] _ with ⟨e, hfailed⟩ | hran
    · rw [hfailed]
      exact .error h e
    · rw [hran]
      refine ⟨.of_models (fun e => ?_) rfl (fun _ => not_false) rfl, fun row hrow => h row (KeyedList.mem_erase_iff.1 hrow).1⟩
      simp only [mem_entries, KeyedList.mem_erase_iff, CatalogueLayout.puts, reduceCtorEq, false_or]
      constructor
      · rintro ⟨row, ⟨hrow, hne⟩, hkey, hm⟩
        exact ⟨⟨row, hrow, hkey, hm⟩, fun hdel => hne (hkey.trans hdel)⟩
      · rintro ⟨⟨row, hrow, hkey, hm⟩, hdel⟩
        exact ⟨row, ⟨hrow, fun hsame => hdel (hkey.symm.trans hsame)⟩, hkey, hm⟩
  | none =>
    dsimp only
    rcases execute_cases (s := s) [name] _ with ⟨e, hfailed⟩ | hran
    · rw [hfailed]
      exact .error h e
    · rw [hran]
      refine ⟨.of_models (fun e => ?_) rfl (fun _ => not_false) rfl, fun row hrow => h row (KeyedList.mem_foldl_erase.1 hrow).1⟩
      simp only [mem_entries, KeyedList.mem_foldl_erase, CatalogueLayout.puts, reduceCtorEq, false_or]
      -- a row that is left has another name, as no two rows share a key
      have hleft : ∀ row ∈ s.models.items,
          (∀ r ∈ s.models.items.filter (·.name == name), row.key ≠ r.key) ↔ row.name ≠ name := by
        intro row hrow
        constructor
        · intro hkeys hname
          exact hkeys row (List.mem_filter.2 ⟨hrow, by simpa using hname⟩) rfl
        · intro hne r hr hkey
          obtain ⟨hr, hname⟩ := List.mem_filter.1 hr
          obtain rfl := List.inj_on_of_nodup_map s.models.distinct hrow hr hkey
          exact hne (by simpa using hname)
      constructor
      · rintro ⟨row, ⟨hrow, hkeys⟩, hkey, hm⟩
        refine ⟨⟨row, hrow, hkey, hm⟩, fun hdel => (hleft row hrow).1 hkeys ?_⟩
        rw [← h row hrow _ hm]
        exact hdel
      · rintro ⟨⟨row, hrow, hkey, hm⟩, hdel⟩
        refine ⟨row, ⟨hrow, (hleft row hrow).2 fun hname => hdel ?_⟩, hkey, hm⟩
        exact (h row hrow _ hm).trans hname

/-- A datasource put into its table, in the place of one with its name. -/
theorem mem_datasourceEntries_insert {name data : String} {ds : StoredDataSource}
    (hread : json.dataSource.read data = .ok ds) (e : String × StoredDataSource) :
    e ∈ (layout json).datasourceEntries { s with datasources := s.datasources.insert (name, data) } ↔
      some (name, ds) = some e ∨ e ∈ (layout json).datasourceEntries s ∧ ¬e.1 = name := by
  simp only [mem_datasourceEntries, KeyedList.mem_insert_iff]
  constructor
  · rintro ⟨r, rfl | ⟨hr, hne⟩, hkey, hds⟩
    · exact .inl (congrArg some (Prod.ext hkey (Except.ok.inj (hread.symm.trans hds))))
    · exact .inr ⟨⟨r, hr, hkey, hds⟩, hkey ▸ hne⟩
  · rintro (he | ⟨⟨r, hr, hkey, hds⟩, hne⟩)
    · obtain rfl := Option.some.inj he
      exact ⟨(name, data), .inl rfl, rfl, hread⟩
    · exact ⟨r, .inr ⟨hr, hkey ▸ hne⟩, hkey, hds⟩

theorem createDatasource_kept (hjson : json.dataSource.RoundTrips) (h : Named json s) (ds : StoredDataSource) :
    Kept json (.createDatasource ds) s (s.createDatasource json ds) := by
  unfold createDatasource putRow
  cases hdata : json.dataSource.write ds with
  | error e => exact .error h e
  | ok data =>
    have hread := hjson ds data hdata
    dsimp only
    rcases execute_cases (s := s) [ds.name] _ with ⟨e, hfailed⟩ | hran
    · rw [hfailed]
      exact .error h e
    · rw [hran]
      split_ifs with hkey
      · exact .error h _
      · refine ⟨.of_datasources (fun e => ?_) rfl (fun _ => not_false) rfl, h⟩
        have hfree : e ∈ (layout json).datasourceEntries s → e.1 ≠ ds.name := by
          intro he hname
          obtain ⟨row, hrow, hrowname, -⟩ := mem_datasourceEntries.1 he
          rw [KeyedList.get_eq_some.2 ⟨hrow, hrowname.trans hname⟩] at hkey
          exact hkey rfl
        rw [mem_datasourceEntries_insert hread]
        apply or_congr_right
        apply and_congr_right
        intro he
        exact iff_of_true (hfree he) not_false

theorem updateDatasource_kept (hjson : json.dataSource.RoundTrips) (h : Named json s) (name : String)
    (ds : StoredDataSource) : Kept json (.updateDatasource name ds) s (s.updateDatasource json name ds) := by
  unfold updateDatasource putRow
  cases hdata : json.dataSource.write ds with
  | error e => exact .error h e
  | ok data =>
    dsimp only
    rcases execute_cases (s := s) [name] _ with ⟨e, hfailed⟩ | hran
    · rw [hfailed]
      exact .error h e
    · rw [hran]
      split_ifs
      · exact ⟨.of_datasources (mem_datasourceEntries_insert (hjson ds data hdata)) rfl (fun _ => not_false) rfl, h⟩
      · exact .error h _

theorem deleteDatasource_kept (h : Named json s) (name : String) :
    Kept json (.deleteDatasource name) s (s.deleteDatasource name) := by
  unfold deleteDatasource
  rcases execute_cases (s := s) [name] _ with ⟨e, hfailed⟩ | hran
  · rw [hfailed]
    exact .error h e
  · rw [hran]
    refine ⟨.of_datasources (fun e => ?_) rfl (fun _ => not_false) rfl, h⟩
    simp only [mem_datasourceEntries, KeyedList.mem_erase_iff, CatalogueLayout.putsDatasource, reduceCtorEq, false_or]
    constructor
    · rintro ⟨row, ⟨hrow, hne⟩, hkey, hds⟩
      exact ⟨⟨row, hrow, hkey, hds⟩, fun htake => hne (hkey.trans htake)⟩
    · rintro ⟨⟨row, hrow, hkey, hds⟩, hleft⟩
      exact ⟨row, ⟨hrow, fun hsame => hleft (hkey.symm.trans hsame)⟩, hkey, hds⟩

theorem Kept.write {w : StorageWrite} {α : Type} {r : Res String α × PostgresMetadataStorage} (h : Kept json w s r) :
    Kept json w s (r.1.map fun _ => (), r.2) :=
  ⟨h.effect.write, h.named⟩

theorem write_kept (hmodel : json.model.RoundTrips) (hds : json.dataSource.RoundTrips) (locale : PostgresLocale)
    (toLowercase : String → String) (h : Named json s) (w : StorageWrite) :
    Kept json w s ((backend json locale toLowercase).write s w) := by
  cases w with
  | createModel model => exact (createModel_kept hmodel h model).write
  | updateModel name model => exact (updateModel_kept hmodel h name model).write
  | deleteModel name datasource => exact (deleteModel_kept h name datasource).write
  | createDatasource ds => exact (createDatasource_kept hds h ds).write
  | updateDatasource name ds => exact (updateDatasource_kept hds h name ds).write
  | deleteDatasource name => exact (deleteDatasource_kept h name).write

theorem putRow_eq_ok {α : Type} {data : Res String String}
    {statement : String → Res String α × PostgresMetadataStorage} {a a' : α}
    (hstatement : ∀ text, (statement text).1 = .ok a' → a' = a) (h : (s.putRow data statement).1 = .ok a') : a' = a := by
  cases data with
  | error e => cases h
  | ok text => exact hstatement text h

/-- A call that stores a record returns it, where it does. -/
theorem execute_eq_ok {α : Type} {texts : List String} {change : Res String α × PostgresMetadataStorage} {a : α}
    (h : (s.execute texts change).1 = .ok a) : change.1 = .ok a := by
  rcases execute_cases (s := s) texts change with ⟨e, hfailed⟩ | hran
  · rw [hfailed] at h
    cases h
  · rwa [hran] at h

/-- Postgres keeps a model at its datasource and name. -/
def catalogue (hmodel : json.model.RoundTrips) (hds : json.dataSource.RoundTrips) (locale : PostgresLocale)
    (toLowercase : String → String) : (backend json locale toLowercase).Catalogue where
  toCatalogueLayout := layout json
  valid := Named json
  key_injective h := String.append_right_inj _ |>.1 h
  listModels {s models} _ h m := by
    obtain ⟨rows, hrows, hread⟩ := Res.bind_eq_ok.1 h
    have hall : ∀ row, row ∈ byName locale rows ↔ row ∈ s.models.items := by
      intro row
      rw [← Except.ok.inj (of_query hrows)]
      simp [byName]
    constructor
    · intro hm
      obtain ⟨row, hrow, hmodel⟩ := Res.mem_of_mapM hread m hm
      exact ⟨row.key, mem_entries.2 ⟨row, (hall row).1 hrow, rfl, hmodel⟩⟩
    · rintro ⟨key, hentry⟩
      obtain ⟨row, hrow, -, hmodel⟩ := mem_entries.1 hentry
      obtain ⟨m', hm', hread'⟩ := Res.exists_of_mapM hread row ((hall row).2 hrow)
      have hsame : m = m' := Except.ok.inj (hmodel.symm.trans hread')
      rwa [hsame]
  listDatasources {s all} _ h ds := by
    obtain ⟨rows, hrows, hread⟩ := Res.bind_eq_ok.1 h
    obtain rfl := Except.ok.inj (of_query hrows)
    rw [mem_datasources]
    constructor
    · intro hds
      obtain ⟨row, hrow, hdata⟩ := Res.mem_of_mapM hread ds hds
      exact ⟨row, by simpa using hrow, hdata⟩
    · rintro ⟨row, hrow, hdata⟩
      obtain ⟨ds', hds', hread'⟩ := Res.exists_of_mapM hread row (by simpa using hrow)
      rwa [Except.ok.inj (hdata.symm.trans hread')]
  getModel {s name m} _ h := by
    obtain ⟨row, hrow, hread⟩ := Res.bind_eq_ok.1 h
    have hfound := of_query hrow
    cases row with
    | none => cases hread
    | some row =>
      obtain ⟨m', hm', hsome⟩ := Res.bind_eq_ok.1 hread
      obtain rfl := Option.some.inj (Except.ok.inj hsome)
      have hmem : row ∈ (s.models.items.filter fun row => row.name == name).mergeSort fun a b =>
          locale.before a.datasource b.datasource := List.mem_of_mem_head? (Except.ok.inj hfound)
      exact ⟨row.key, mem_entries.2 ⟨row, List.mem_of_mem_filter (List.mem_mergeSort.1 hmem), rfl, hm'⟩⟩
  getDatasource {s name ds} _ h := by
    obtain ⟨row, hrow, hread⟩ := Res.bind_eq_ok.1 h
    have hfound := Except.ok.inj (of_query hrow)
    cases row with
    | none => cases hread
    | some row =>
      obtain ⟨ds', hds', hsome⟩ := Res.bind_eq_ok.1 hread
      obtain rfl := Option.some.inj (Except.ok.inj hsome)
      obtain ⟨hmem, hname⟩ := KeyedList.get_eq_some.1 hfound
      exact mem_datasourceEntries.2 ⟨row, hmem, hname, hds'⟩
  createModel {s m m'} h := by
    refine putRow_eq_ok (fun text hran => ?_) h
    have hchange := execute_eq_ok hran
    split_ifs at hchange
    · cases hchange
    · exact (Except.ok.inj hchange).symm
  createModel_taken {s m e} _ he hkey := by
    obtain ⟨row, hrow, hrowkey, -⟩ := mem_entries.1 he
    have hget : s.models.get (SqliteStorage.modelKey m.name (some m.datasource)) = some row :=
      KeyedList.get_eq_some.2 ⟨hrow, hrowkey.trans hkey⟩
    show ∃ err, s.createModel json m = (.error err, s)
    unfold createModel putRow
    cases json.model.write m with
    | error err => exact ⟨err, rfl⟩
    | ok data =>
      rcases execute_cases (s := s) [_, m.name, m.datasource] _ with ⟨err, hfailed⟩ | hran
      · exact ⟨err, hfailed⟩
      · exact ⟨_, hran.trans (if_pos (by rw [hget]; rfl))⟩
  createDatasource_taken {s ds e} _ he hname := by
    obtain ⟨row, hrow, hrowname, -⟩ := mem_datasourceEntries.1 he
    have hget : s.datasources.get ds.name = some row := KeyedList.get_eq_some.2 ⟨hrow, hrowname.trans hname⟩
    show ∃ err, s.createDatasource json ds = (.error err, s)
    unfold createDatasource putRow
    cases json.dataSource.write ds with
    | error err => exact ⟨err, rfl⟩
    | ok data =>
      rcases execute_cases (s := s) [ds.name] _ with ⟨err, hfailed⟩ | hran
      · exact ⟨err, hfailed⟩
      · exact ⟨_, hran.trans (if_pos (by rw [hget]; rfl))⟩
  datasources_distinct {s e e'} _ he he' hkey := by
    obtain ⟨row, hrow, hname, hread⟩ := mem_datasourceEntries.1 he
    obtain ⟨row', hrow', hname', hread'⟩ := mem_datasourceEntries.1 he'
    obtain rfl := List.inj_on_of_nodup_map s.datasources.distinct hrow' hrow (hname'.trans (hkey.trans hname.symm))
    exact Prod.ext hkey (Except.ok.inj (hread'.symm.trans hread))
  updateModel {s name m m'} h := by
    refine putRow_eq_ok (fun text hran => ?_) h
    have hchange := execute_eq_ok hran
    split_ifs at hchange
    · exact (Except.ok.inj hchange).symm
    · cases hchange
  valid_write w h := (write_kept hmodel hds locale toLowercase h w).named
  effect w h := (write_kept hmodel hds locale toLowercase h w).effect

end PostgresMetadataStorage

end GraphNight
