import GraphNight.Storage.SqliteRuns
import GraphNight.Storage.YamlFiles

/-!
# Writes that fail

Both backends change their map before they write it down, so a write that fails at its
statement or its file has changed what is read. One that fails at a check has not.
-/

namespace GraphNight

/-- Two storages as they come up after a restart: neither does, or both read the same. -/
def SameRestart {σ : Type} (b : Backend σ) (r r' : Res String σ) : Prop :=
  match r, r' with
  | .ok t, .ok t' => SameReads b t t'
  | .error _, .error _ => True
  | _, _ => False

/-- What a failed write should do: neither a read nor a restart shows it. -/
structure ChangesNothing {σ : Type} (b : Backend σ) (restart : σ → Res String σ) (s s' : σ) : Prop where
  reads : SameReads b s s'
  restarted : SameRestart b (restart s) (restart s')

theorem SameRestart.refl {σ : Type} {b : Backend σ} (r : Res String σ) : SameRestart b r r := by
  cases r with
  | ok t => exact SameReads.refl t
  | error e => trivial

theorem ChangesNothing.refl {σ : Type} {b : Backend σ} {restart : σ → Res String σ} (s : σ) :
    ChangesNothing b restart s s := ⟨.refl s, .refl _⟩

/-! ## SQLite -/

namespace SqliteStorage

variable (json : RecordJson) (s : SqliteStorage)

/-- The write fails at its check or at the JSON, or writes what is there. -/
def FailsEarly : StorageWrite → Prop
  | .createModel model =>
    (s.modelsCache.get (modelKey model.name (some model.datasource))).isSome ∨ ∀ data, json.model.write model ≠ .ok data
  | .updateModel name model =>
    let key := modelKey name (some model.datasource)
    s.modelsCache.get key = none ∨ (∀ data, json.model.write model ≠ .ok data) ∨ s.modelsCache.get key = some (key, model)
  | .createDatasource ds =>
    (s.datasourcesCache.get ds.name).isSome ∨ ∀ data, json.dataSource.write ds ≠ .ok data
  | .updateDatasource name ds =>
    s.datasourcesCache.get name = none ∨ (∀ data, json.dataSource.write ds ≠ .ok data) ∨
      s.datasourcesCache.get name = some (name, ds)
  | .deleteModel .. | .deleteDatasource _ => False

variable {json s} {toLowercase : String → String}

/-- Reads show every entry of the maps. -/
theorem caches_of_sameReads {s' : SqliteStorage} (h : SameReads (backend json toLowercase) s s') (key : String) :
    s'.modelsCache.get key = s.modelsCache.get key ∧ s'.datasourcesCache.get key = s.datasourcesCache.get key :=
  ⟨KeyedList.get_of_value (Except.ok.inj (h.getModel key none)),
    KeyedList.get_of_value (Except.ok.inj (h.getDatasource key))⟩

/-- A model put into the map alone shows, unless it was there. -/
theorem changesNothing_insertModel (key : String) (model : StoredModel) :
    ChangesNothing (backend json toLowercase) (reopen json) s
        { s with modelsCache := s.modelsCache.insert (key, model) } ↔ s.modelsCache.get key = some (key, model) := by
  constructor
  · intro h
    have hsame := (caches_of_sameReads h.reads key).1
    rw [KeyedList.get_insert, if_pos rfl] at hsame
    exact hsame.symm
  · intro h
    rw [@KeyedList.insert_of_get _ _ s.modelsCache (key, model) h]
    exact .refl s

theorem changesNothing_insertDatasource (name : String) (ds : StoredDataSource) :
    ChangesNothing (backend json toLowercase) (reopen json) s
        { s with datasourcesCache := s.datasourcesCache.insert (name, ds) } ↔
      s.datasourcesCache.get name = some (name, ds) := by
  constructor
  · intro h
    have hsame := (caches_of_sameReads h.reads name).2
    rw [KeyedList.get_insert, if_pos rfl] at hsame
    exact hsame.symm
  · intro h
    rw [@KeyedList.insert_of_get _ _ s.datasourcesCache (name, ds) h]
    exact .refl s

/-- A statement after a change of the map: where the call fails, the changed map stays. -/
theorem execute_error {α : Type} {t : SqliteStorage} {statement : Res String SqliteStorage} {a : α} {e : Fault String}
    (h : ((t.execute statement a).1.map fun _ => ()) = .error e) : (t.execute statement a).2 = t := by
  obtain ⟨e', hfailed⟩ | ⟨t', -, -, hran⟩ := t.execute_cases statement a
  · rw [hfailed]
  · rw [hran] at h
    cases h

theorem putThrough_failed {α : Type} {data : Res String String} {put : SqliteStorage}
    {statement : String → Res String SqliteStorage} {a : α} {e : Fault String}
    (h : ((s.putThrough data put statement a).1.map fun _ => ()) = .error e) :
    (∀ text, data ≠ .ok text) ∧ (s.putThrough data put statement a).2 = s ∨
      (∃ text, data = .ok text) ∧ (s.putThrough data put statement a).2 = put := by
  cases data with
  | error e => exact .inl ⟨fun text => by simp, rfl⟩
  | ok text => exact .inr ⟨⟨text, rfl⟩, execute_error h⟩

/-- What a failed creation leaves: nothing, or the model in the map. -/
theorem createModel_failed {model : StoredModel} {e : Fault String}
    (h : ((s.createModel json model).1.map fun _ => ()) = .error e) :
    (s.createModel json model).2 = s ∧ s.FailsEarly json (.createModel model) ∨
      (s.createModel json model).2 = { s with
        modelsCache := s.modelsCache.insert (modelKey model.name (some model.datasource), model) } ∧
      ¬s.FailsEarly json (.createModel model) := by
  unfold createModel at h ⊢
  by_cases hcached : (s.modelsCache.get (modelKey model.name (some model.datasource))).isSome
  · exact .inl ⟨by simp [hcached], .inl hcached⟩
  · rw [if_neg hcached] at h ⊢
    obtain ⟨hdata, hsame⟩ | ⟨⟨text, hdata⟩, hput⟩ := putThrough_failed h
    · exact .inl ⟨hsame, .inr hdata⟩
    · exact .inr ⟨hput, by simp [FailsEarly, hcached, hdata]⟩

theorem updateModel_failed {name : String} {model : StoredModel} {e : Fault String}
    (h : ((s.updateModel json name model).1.map fun _ => ()) = .error e) :
    (s.updateModel json name model).2 = s ∧ s.FailsEarly json (.updateModel name model) ∨
      (s.updateModel json name model).2 = { s with
        modelsCache := s.modelsCache.insert (modelKey name (some model.datasource), model) } ∧
      (s.FailsEarly json (.updateModel name model) ↔
        s.modelsCache.get (modelKey name (some model.datasource)) = some (modelKey name (some model.datasource), model)) := by
  unfold updateModel at h ⊢
  by_cases hcached : (s.modelsCache.get (modelKey name (some model.datasource))).isSome
  · rw [if_pos hcached] at h ⊢
    obtain ⟨hdata, hsame⟩ | ⟨⟨text, hdata⟩, hput⟩ := putThrough_failed h
    · exact .inl ⟨hsame, .inr (.inl hdata)⟩
    · exact .inr ⟨hput, by simp [FailsEarly, Option.isSome_iff_ne_none.1 hcached, hdata]⟩
  · exact .inl ⟨by simp [hcached], .inl (by simpa using hcached)⟩

/-- A failed deletion has taken the model out of the map. -/
theorem deleteModel_failed {name : String} {datasource : Option String} {e : Fault String}
    (h : ((s.deleteModel name datasource).1.map fun _ => ()) = .error e) :
    (s.modelsCache.get (modelKey name datasource)).isSome ∧
      (s.deleteModel name datasource).2 = { s with modelsCache := s.modelsCache.erase (modelKey name datasource) } := by
  unfold deleteModel at h ⊢
  by_cases hcached : (s.modelsCache.get (modelKey name datasource)).isSome
  · rw [if_pos hcached] at h ⊢
    exact ⟨hcached, execute_error h⟩
  · rw [if_neg hcached] at h
    cases h

theorem createDatasource_failed {ds : StoredDataSource} {e : Fault String}
    (h : ((s.createDatasource json ds).1.map fun _ => ()) = .error e) :
    (s.createDatasource json ds).2 = s ∧ s.FailsEarly json (.createDatasource ds) ∨
      (s.createDatasource json ds).2 = { s with datasourcesCache := s.datasourcesCache.insert (ds.name, ds) } ∧
      ¬s.FailsEarly json (.createDatasource ds) := by
  unfold createDatasource at h ⊢
  by_cases hcached : (s.datasourcesCache.get ds.name).isSome
  · exact .inl ⟨by simp [hcached], .inl hcached⟩
  · rw [if_neg hcached] at h ⊢
    obtain ⟨hdata, hsame⟩ | ⟨⟨text, hdata⟩, hput⟩ := putThrough_failed h
    · exact .inl ⟨hsame, .inr hdata⟩
    · exact .inr ⟨hput, by simp [FailsEarly, hcached, hdata]⟩

theorem updateDatasource_failed {name : String} {ds : StoredDataSource} {e : Fault String}
    (h : ((s.updateDatasource json name ds).1.map fun _ => ()) = .error e) :
    (s.updateDatasource json name ds).2 = s ∧ s.FailsEarly json (.updateDatasource name ds) ∨
      (s.updateDatasource json name ds).2 = { s with datasourcesCache := s.datasourcesCache.insert (name, ds) } ∧
      (s.FailsEarly json (.updateDatasource name ds) ↔ s.datasourcesCache.get name = some (name, ds)) := by
  unfold updateDatasource at h ⊢
  by_cases hcached : (s.datasourcesCache.get name).isSome
  · rw [if_pos hcached] at h ⊢
    obtain ⟨hdata, hsame⟩ | ⟨⟨text, hdata⟩, hput⟩ := putThrough_failed h
    · exact .inl ⟨hsame, .inr (.inl hdata)⟩
    · exact .inr ⟨hput, by simp [FailsEarly, Option.isSome_iff_ne_none.1 hcached, hdata]⟩
  · exact .inl ⟨by simp [hcached], .inl (by simpa using hcached)⟩

theorem deleteDatasource_failed {name : String} {e : Fault String}
    (h : ((s.deleteDatasource name).1.map fun _ => ()) = .error e) :
    (s.datasourcesCache.get name).isSome ∧
      (s.deleteDatasource name).2 = { s with datasourcesCache := s.datasourcesCache.erase name } := by
  unfold deleteDatasource at h ⊢
  by_cases hcached : (s.datasourcesCache.get name).isSome
  · rw [if_pos hcached] at h ⊢
    exact ⟨hcached, execute_error h⟩
  · rw [if_neg hcached] at h
    cases h

/-- **A failed write of SQLite shows**, unless it failed early. -/
theorem changesNothing_iff {w : StorageWrite} {e : Fault String}
    (h : ((backend json toLowercase).write s w).1 = .error e) :
    ChangesNothing (backend json toLowercase) (reopen json) s ((backend json toLowercase).write s w).2 ↔
      s.FailsEarly json w := by
  have hrefl : ChangesNothing (backend json toLowercase) (reopen json) s s := .refl s
  cases w with
  | createModel model =>
    show ChangesNothing _ _ s (s.createModel json model).2 ↔ _
    obtain ⟨hsame, hearly⟩ | ⟨hchanged, hlate⟩ := createModel_failed h
    · exact iff_of_true (hsame.symm ▸ hrefl) hearly
    · rw [hchanged, changesNothing_insertModel]
      refine iff_of_false (fun hget => hlate (.inl ?_)) hlate
      rw [hget]
      rfl
  | updateModel name model =>
    show ChangesNothing _ _ s (s.updateModel json name model).2 ↔ _
    obtain ⟨hsame, hearly⟩ | ⟨hchanged, hiff⟩ := updateModel_failed h
    · exact iff_of_true (hsame.symm ▸ hrefl) hearly
    · rw [hchanged, changesNothing_insertModel, hiff]
  | deleteModel name datasource =>
    obtain ⟨hcached, hchanged⟩ := deleteModel_failed h
    refine iff_of_false (fun hsame => ?_) id
    have hread := (caches_of_sameReads (hchanged ▸ hsame.reads :
      SameReads _ s { s with modelsCache := s.modelsCache.erase (modelKey name datasource) }) (modelKey name datasource)).1
    rw [KeyedList.get_erase, if_pos rfl] at hread
    rw [← hread] at hcached
    cases hcached
  | createDatasource ds =>
    show ChangesNothing _ _ s (s.createDatasource json ds).2 ↔ _
    obtain ⟨hsame, hearly⟩ | ⟨hchanged, hlate⟩ := createDatasource_failed h
    · exact iff_of_true (hsame.symm ▸ hrefl) hearly
    · rw [hchanged, changesNothing_insertDatasource]
      refine iff_of_false (fun hget => hlate (.inl ?_)) hlate
      rw [hget]
      rfl
  | updateDatasource name ds =>
    show ChangesNothing _ _ s (s.updateDatasource json name ds).2 ↔ _
    obtain ⟨hsame, hearly⟩ | ⟨hchanged, hiff⟩ := updateDatasource_failed h
    · exact iff_of_true (hsame.symm ▸ hrefl) hearly
    · rw [hchanged, changesNothing_insertDatasource, hiff]
  | deleteDatasource name =>
    obtain ⟨hcached, hchanged⟩ := deleteDatasource_failed h
    refine iff_of_false (fun hsame => ?_) id
    have hread := (caches_of_sameReads (hchanged ▸ hsame.reads :
      SameReads _ s { s with datasourcesCache := s.datasourcesCache.erase name }) name).2
    rw [KeyedList.get_erase, if_pos rfl] at hread
    rw [← hread] at hcached
    cases hcached

end SqliteStorage

/-! ## YAML -/

namespace YamlDirectory

variable (yaml : FileYaml) (toLowercase : String → String) (d : YamlDirectory)

/-- The write fails at its check, or writes what is there and leaves a file that loads as before. -/
def FailsUnseen : StorageWrite → Prop
  | .createModel model => (d.storage.models.get model.name).isSome
  | .updateModel name model =>
    d.storage.models.get name = none ∨ d.storage.models.get name = some (name, model) ∧
      SameRestart (backend yaml toLowercase) (load yaml d.files) (load yaml (d.persistModels yaml).2.files)
  | .createDatasource ds => (d.storage.datasources.get ds.name).isSome
  | .updateDatasource name ds =>
    d.storage.datasources.get name = none ∨ d.storage.datasources.get name = some (name, ds) ∧
      SameRestart (backend yaml toLowercase) (load yaml d.files) (load yaml (d.persistDatasources yaml).2.files)
  | .deleteModel .. | .deleteDatasource _ => False

variable {yaml toLowercase d}

/-- Reads show every entry of the maps. -/
theorem maps_of_sameReads {d' : YamlDirectory} (h : SameReads (backend yaml toLowercase) d d') (key : String) :
    d'.storage.models.get key = d.storage.models.get key ∧
      d'.storage.datasources.get key = d.storage.datasources.get key := by
  constructor
  · have hall : ∀ o : Option StoredModel, o.filter (fun _ => true) = o := by
      intro o
      cases o <;> rfl
    have hread := Except.ok.inj (h.getModel key none)
    simp only [Option.all_none, hall] at hread
    exact KeyedList.get_of_value hread
  · exact KeyedList.get_of_value (Except.ok.inj (h.getDatasource key))

/-- A directory with the same maps differs only by what its files load as. -/
theorem changesNothing_of_maps {d' : YamlDirectory} (hmodels : d'.storage.models = d.storage.models)
    (hdatasources : d'.storage.datasources = d.storage.datasources) (hmemories : d'.storage.memories = d.storage.memories) :
    ChangesNothing (backend yaml toLowercase) (fun d => load yaml d.files) d d' ↔
      SameRestart (backend yaml toLowercase) (load yaml d.files) (load yaml d'.files) := by
  constructor
  · exact fun h => h.restarted
  · intro h
    refine ⟨⟨⟨fun datasource => ?_, fun name datasource => ?_, ?_, fun name => ?_⟩, fun id => ?_, fun filter => ?_,
      fun query limit => ?_⟩, h⟩
    · simp only [backend, YamlStorage.listModels, hmodels]
    · simp only [backend, YamlStorage.getModel, hmodels]
    · simp only [backend, YamlStorage.listDatasources, hdatasources]
    · simp only [backend, YamlStorage.getDatasource, hdatasources]
    · simp only [backend, YamlStorage.getMemory, hmemories]
    · simp only [backend, YamlStorage.listMemories, hmemories]
    · simp only [backend, YamlStorage.search, hmodels]

@[simp] theorem persistModels_storage (d : YamlDirectory) : (d.persistModels yaml).2.storage = d.storage := by
  unfold persistModels writeFile
  dsimp only
  repeat' split
  all_goals rfl

@[simp] theorem persistDatasources_storage (d : YamlDirectory) : (d.persistDatasources yaml).2.storage = d.storage := by
  unfold persistDatasources writeFile
  dsimp only
  repeat' split
  all_goals rfl

/-- What is written depends on the map and on the file there. -/
theorem persistModels_files {d' : YamlDirectory} (hmodels : d'.storage.models = d.storage.models)
    (hfiles : d'.files = d.files) (hfault : d'.writeFault = d.writeFault) :
    (d'.persistModels yaml).2.files = (d.persistModels yaml).2.files := by
  unfold persistModels writeFile
  rw [hmodels, hfiles, hfault]
  dsimp only
  repeat' split
  all_goals first | rfl | exact hfiles

theorem persistDatasources_files {d' : YamlDirectory} (hdatasources : d'.storage.datasources = d.storage.datasources)
    (hfiles : d'.files = d.files) (hfault : d'.writeFault = d.writeFault) :
    (d'.persistDatasources yaml).2.files = (d.persistDatasources yaml).2.files := by
  unfold persistDatasources writeFile
  rw [hdatasources, hfiles, hfault]
  dsimp only
  repeat' split
  all_goals first | rfl | exact hfiles

/-- A failed change: its critical section failed, or its file was not written. -/
theorem change_failed {α : Type} {critical : YamlStorage → Res String α × YamlStorage} {changed : α → Bool}
    {persist : YamlDirectory → Res String Unit × YamlDirectory} {e : Fault String}
    (h : ((d.change critical changed persist).1.map fun _ => ()) = .error e) :
    (∃ e', (d.lock critical).1 = .error e') ∧ (d.change critical changed persist).2 = (d.lock critical).2 ∨
      (∃ a, (d.lock critical).1 = .ok a ∧ changed a = true) ∧
        (d.change critical changed persist).2 = (persist (d.lock critical).2).2 := by
  unfold change at h ⊢
  dsimp only at h ⊢
  cases hlocked : (d.lock critical).1 with
  | error e' => exact .inl ⟨⟨e', rfl⟩, rfl⟩
  | ok a =>
    rw [hlocked] at h
    dsimp only at h ⊢
    split_ifs at h ⊢ with hchanged
    · exact .inr ⟨⟨a, rfl, hchanged⟩, rfl⟩
    · cases h

/-- A change that fails in its critical section leaves everything. -/
theorem changesNothing_of_lock {α : Type} {critical : YamlStorage → Res String α × YamlStorage} {changed : α → Bool}
    {persist : YamlDirectory → Res String Unit × YamlDirectory} {e : Fault String} (herror : (d.lock critical).1 = .error e)
    (hafter : (d.lock critical).2 = { d with storage := { d.storage with writeError := none } }) :
    ChangesNothing (backend yaml toLowercase) (fun d => load yaml d.files) d (d.change critical changed persist).2 := by
  have hchange : (d.change critical changed persist).2 = { d with storage := { d.storage with writeError := none } } := by
    unfold change
    dsimp only
    rw [herror]
    exact hafter
  rw [hchange]
  apply (changesNothing_of_maps _ _ _).2
  · exact .refl _
  · rfl
  · rfl
  · rfl

/-- After its critical section, a failed change leaves what writing the file leaves. -/
theorem change_after_lock {α : Type} {critical : YamlStorage → Res String α × YamlStorage} {changed : α → Bool}
    {persist : YamlDirectory → Res String Unit × YamlDirectory} {a : α} (hok : (d.lock critical).1 = .ok a)
    (hchanged : changed a = true) : (d.change critical changed persist).2 = (persist (d.lock critical).2).2 := by
  unfold change
  dsimp only
  rw [hok]
  exact congrArg Prod.snd (if_pos hchanged)

/-- **A failed write of YAML shows**, unless it failed unseen. -/
theorem changesNothing_iff {w : StorageWrite} {e : Fault String}
    (h : ((backend yaml toLowercase).write d w).1 = .error e) :
    ChangesNothing (backend yaml toLowercase) (fun d => load yaml d.files) d ((backend yaml toLowercase).write d w).2 ↔
      d.FailsUnseen yaml toLowercase w := by
  cases w with
  | createModel model =>
    show ChangesNothing _ _ d (d.change (·.createModel model) (fun _ => true) (persistModels yaml)).2 ↔ _
    obtain ⟨hthere, ⟨e', herror⟩, hafter⟩ | ⟨hnone, hok, hafter⟩ := d.lock_createModel model
    · exact iff_of_true (changesNothing_of_lock herror hafter) hthere
    · refine iff_of_false (fun hsame => ?_) (by simp [FailsUnseen, hnone])
      have hread := (maps_of_sameReads hsame.reads model.name).1
      rw [change_after_lock hok rfl, persistModels_storage, hafter, KeyedList.get_insert, if_pos rfl, hnone] at hread
      cases hread
  | updateModel name model =>
    show ChangesNothing _ _ d (d.change (·.updateModel name model) (fun _ => true) (persistModels yaml)).2 ↔ _
    obtain ⟨hnone, ⟨e', herror⟩, hafter⟩ | ⟨hthere, hok, hafter⟩ := d.lock_updateModel name model
    · exact iff_of_true (changesNothing_of_lock herror hafter) (.inl hnone)
    · have hnot : d.storage.models.get name ≠ none := Option.isSome_iff_ne_none.1 hthere
      simp only [FailsUnseen, hnot, false_or]
      rw [change_after_lock hok rfl, hafter]
      by_cases hget : d.storage.models.get name = some (name, model)
      · have hinsert := @KeyedList.insert_of_get _ _ d.storage.models (name, model) hget
        let t : YamlDirectory := { d with storage := { d.storage with
          models := d.storage.models.insert (name, model), writeError := none } }
        have hfiles : (t.persistModels yaml).2.files = (d.persistModels yaml).2.files := persistModels_files hinsert rfl rfl
        rw [changesNothing_of_maps (by rw [persistModels_storage]; exact hinsert) (by rw [persistModels_storage])
          (by rw [persistModels_storage]), hfiles]
        exact (and_iff_right hget).symm
      · refine iff_of_false (fun hsame => ?_) fun h => hget h.1
        have hread := (maps_of_sameReads hsame.reads name).1
        rw [persistModels_storage, KeyedList.get_insert, if_pos rfl] at hread
        exact hget hread.symm
  | deleteModel name datasource =>
    refine iff_of_false (fun hsame => ?_) id
    change ((d.change (·.deleteModel name datasource) id (persistModels yaml)).1.map fun _ => ()) = .error e at h
    obtain ⟨hok, hafter⟩ | ⟨hthere, hok, hafter⟩ := d.lock_deleteModel name datasource
    · obtain ⟨⟨e', herror⟩, -⟩ | ⟨⟨a, ha, hchanged⟩, -⟩ := change_failed h
      · rw [hok] at herror
        cases herror
      · rw [hok] at ha
        cases ha
        cases hchanged
    · have hread := (maps_of_sameReads hsame.reads name).1
      rw [show ((backend yaml toLowercase).write d (.deleteModel name datasource)).2 =
        (d.change (·.deleteModel name datasource) id (persistModels yaml)).2 from rfl, change_after_lock hok rfl,
        persistModels_storage, hafter, KeyedList.get_erase, if_pos rfl] at hread
      rw [← hread] at hthere
      cases hthere
  | createDatasource ds =>
    show ChangesNothing _ _ d (d.change (·.createDatasource ds) (fun _ => true) (persistDatasources yaml)).2 ↔ _
    obtain ⟨hthere, ⟨e', herror⟩, hafter⟩ | ⟨hnone, hok, hafter⟩ := d.lock_createDatasource ds
    · exact iff_of_true (changesNothing_of_lock herror hafter) hthere
    · refine iff_of_false (fun hsame => ?_) (by simp [FailsUnseen, hnone])
      have hread := (maps_of_sameReads hsame.reads ds.name).2
      rw [change_after_lock hok rfl, persistDatasources_storage, hafter, KeyedList.get_insert, if_pos rfl, hnone] at hread
      cases hread
  | updateDatasource name ds =>
    show ChangesNothing _ _ d (d.change (·.updateDatasource name ds) (fun _ => true) (persistDatasources yaml)).2 ↔ _
    obtain ⟨hnone, ⟨e', herror⟩, hafter⟩ | ⟨hthere, hok, hafter⟩ := d.lock_updateDatasource name ds
    · exact iff_of_true (changesNothing_of_lock herror hafter) (.inl hnone)
    · have hnot : d.storage.datasources.get name ≠ none := Option.isSome_iff_ne_none.1 hthere
      simp only [FailsUnseen, hnot, false_or]
      rw [change_after_lock hok rfl, hafter]
      by_cases hget : d.storage.datasources.get name = some (name, ds)
      · have hinsert := @KeyedList.insert_of_get _ _ d.storage.datasources (name, ds) hget
        let t : YamlDirectory := { d with storage := { d.storage with
          datasources := d.storage.datasources.insert (name, ds), writeError := none } }
        have hfiles : (t.persistDatasources yaml).2.files = (d.persistDatasources yaml).2.files :=
          persistDatasources_files hinsert rfl rfl
        rw [changesNothing_of_maps (by rw [persistDatasources_storage]) (by rw [persistDatasources_storage]; exact hinsert)
          (by rw [persistDatasources_storage]), hfiles]
        exact (and_iff_right hget).symm
      · refine iff_of_false (fun hsame => ?_) fun h => hget h.1
        have hread := (maps_of_sameReads hsame.reads name).2
        rw [persistDatasources_storage, KeyedList.get_insert, if_pos rfl] at hread
        exact hget hread.symm
  | deleteDatasource name =>
    refine iff_of_false (fun hsame => ?_) id
    change ((d.change (·.deleteDatasource name) id (persistDatasources yaml)).1.map fun _ => ()) = .error e at h
    obtain ⟨hok, hafter⟩ | ⟨hthere, hok, hafter⟩ := d.lock_deleteDatasource name
    · obtain ⟨⟨e', herror⟩, -⟩ | ⟨⟨a, ha, hchanged⟩, -⟩ := change_failed h
      · rw [hok] at herror
        cases herror
      · rw [hok] at ha
        cases ha
        cases hchanged
    · have hread := (maps_of_sameReads hsame.reads name).2
      rw [show ((backend yaml toLowercase).write d (.deleteDatasource name)).2 =
        (d.change (·.deleteDatasource name) id (persistDatasources yaml)).2 from rfl, change_after_lock hok rfl,
        persistDatasources_storage, hafter, KeyedList.get_erase, if_pos rfl] at hread
      rw [← hread] at hthere
      cases hthere

end YamlDirectory

/-- **A write that fails** changes nothing where it fails at a check, before its record has
JSON, or in writing what is there to a file that keeps its meaning; and nowhere else. -/
theorem failed_write_iff (toLowercase : String → String) :
    (∀ (json : RecordJson) (s : SqliteStorage) (w : StorageWrite) (e : Fault String),
        ((SqliteStorage.backend json toLowercase).write s w).1 = .error e →
          (ChangesNothing (SqliteStorage.backend json toLowercase) (SqliteStorage.reopen json) s
              ((SqliteStorage.backend json toLowercase).write s w).2 ↔ s.FailsEarly json w)) ∧
      ∀ (yaml : FileYaml) (d : YamlDirectory) (w : StorageWrite) (e : Fault String),
        ((YamlDirectory.backend yaml toLowercase).write d w).1 = .error e →
          (ChangesNothing (YamlDirectory.backend yaml toLowercase) (fun d => YamlDirectory.load yaml d.files) d
              ((YamlDirectory.backend yaml toLowercase).write d w).2 ↔ d.FailsUnseen yaml toLowercase w) :=
  ⟨fun _ _ _ _ => SqliteStorage.changesNothing_iff, fun _ _ _ _ => YamlDirectory.changesNothing_iff⟩

/-! ## A full disk -/

namespace FullDisk

open OrdersModel

/-- A database that takes no more statements, with `orders` or without. -/
def sqlite : SqliteStorage := { sqlError := some "database or disk is full" }

def stocked : SqliteStorage := { sqlite with modelsCache := .ofList [("orders", orders), ("shop.orders", orders)] }

def sqliteBackend : Backend SqliteStorage := SqliteStorage.backend json Str.toAsciiLowercase

/-- A file with `orders`. -/
def ordersFile : String := "- name: orders\n  datasource: shop\n"

def yaml : FileYaml where
  models := ⟨fun l => .ok (if l = [orders] then ordersFile else "[]\n"), fun t => .ok (if t = ordersFile then [orders] else [])⟩
  datasources := ⟨fun _ => .ok "[]\n", fun _ => .ok []⟩
  memories := ⟨fun _ => .ok "[]\n", fun _ => .ok []⟩
  priority := ⟨fun _ => .ok "[]\n", fun _ => .ok []⟩

/-- A directory on a full disk: a file that is written is empty then. -/
def directory : YamlDirectory := { writeFault := some ("No space left on device (os error 28)", some "") }

def yamlBackend : Backend YamlDirectory := YamlDirectory.backend yaml Str.toAsciiLowercase

end FullDisk

open FullDisk OrdersModel in
/-- Models that could not be created are read from then on. -/
theorem failed_creation_shows :
    (∃ e, (sqliteBackend.write sqlite (.createModel orders)).1 = .error e) ∧
      sqliteBackend.getModel sqlite "shop.orders" none = .ok none ∧
      sqliteBackend.getModel (sqliteBackend.write sqlite (.createModel orders)).2 "shop.orders" none = .ok (some orders) ∧
      ¬ChangesNothing sqliteBackend (SqliteStorage.reopen json) sqlite
        (sqliteBackend.write sqlite (.createModel orders)).2 ∧
      (∃ e, (yamlBackend.write directory (.createModel orders)).1 = .error e) ∧
      yamlBackend.getModel directory "orders" none = .ok none ∧
      yamlBackend.getModel (yamlBackend.write directory (.createModel orders)).2 "orders" none = .ok (some orders) ∧
      ¬ChangesNothing yamlBackend (fun d => YamlDirectory.load yaml d.files) directory
        (yamlBackend.write directory (.createModel orders)).2 := by
  have hsqlite : sqliteBackend.getModel (sqliteBackend.write sqlite (.createModel orders)).2 "shop.orders" none =
      .ok (some orders) := by decide +kernel
  have hyaml : yamlBackend.getModel (yamlBackend.write directory (.createModel orders)).2 "orders" none =
      .ok (some orders) := by decide +kernel
  refine ⟨⟨_, rfl⟩, rfl, hsqlite, fun h => ?_, ⟨_, rfl⟩, rfl, hyaml, fun h => ?_⟩
  · have hread := h.reads.getModel "shop.orders" none
    rw [hsqlite] at hread
    cases hread
  · have hread := h.reads.getModel "orders" none
    rw [hyaml] at hread
    cases hread

open FullDisk OrdersModel in
/-- A model that exists is not created again, and nothing changes; one that is deleted is gone,
though the call fails. -/
theorem failed_write_iff_full_disk :
    ChangesNothing sqliteBackend (SqliteStorage.reopen json) stocked
        (sqliteBackend.write stocked (.createModel orders)).2 ∧
      ¬ChangesNothing sqliteBackend (SqliteStorage.reopen json) stocked
        (sqliteBackend.write stocked (.deleteModel "orders" none)).2 ∧
      ¬ChangesNothing yamlBackend (fun d => YamlDirectory.load yaml d.files) directory
        (yamlBackend.write directory (.createModel orders)).2 := by
  obtain ⟨hsqlite, hyaml⟩ := failed_write_iff Str.toAsciiLowercase
  have hexists : (sqliteBackend.write stocked (.createModel orders)).1 =
      Res.fail "Model already exists: shop.orders" := by decide +kernel
  have hdeleted : (sqliteBackend.write stocked (.deleteModel "orders" none)).1 =
      Res.fail "SQL error: database or disk is full" := by decide +kernel
  have hcreated : (yamlBackend.write directory (.createModel orders)).1 =
      Res.fail "IO error: No space left on device (os error 28)" := by decide +kernel
  refine ⟨(hsqlite json stocked _ _ hexists).2 (.inl ?_), (hsqlite json stocked _ _ hdeleted).1,
    fun h => ?_⟩
  · decide +kernel
  · have hthere := (hyaml yaml directory _ _ hcreated).1 h
    cases hthere

end GraphNight
