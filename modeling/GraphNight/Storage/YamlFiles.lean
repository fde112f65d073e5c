import GraphNight.Lib.Codec
import GraphNight.Storage.Yaml

/-!
# The files of the YAML storage (`graphnight-storage/src/yaml.rs`)

Every map is written to a file of its own. A change takes the write lock of its map, gives
it back, and writes the file under the read lock; loading inserts the records of a file
under their own names.
-/

namespace GraphNight

/-- `serde_yaml` on the files. -/
structure FileYaml where
  models : Codec (List StoredModel)
  datasources : Codec (List StoredDataSource)
  memories : Codec (List Memory)
  priority : Codec (List String)

/-- What is in the directory. -/
structure YamlFiles where
  models : Option String := none
  datasources : Option String := none
  memories : Option String := none
  priority : Option String := none
deriving DecidableEq, Repr

/-- The storage over its directory. The maps in memory are those of `YamlStorage`, whose own
`writeError` is not used. -/
structure YamlDirectory where
  storage : YamlStorage := {}
  priority : List String := []
  files : YamlFiles := {}
  /-- What `tokio::fs::write` fails with, and what it leaves in the file. -/
  writeFault : Option (String × Option String) := none

namespace YamlDirectory

variable (yaml : FileYaml) (toLowercase : String → String) (d : YamlDirectory)

/-! ## Reading the files -/

/-- The records of a file: none where it is missing or blank. -/
def loadRecords {α : Type} (codec : Codec (List α)) : Option String → Res String (List α)
  | none => .ok []
  | some content => if Str.trim content = "" then .ok [] else codec.read content

/-- `YamlStorage::new`, then `load`. -/
def load (files : YamlFiles) : Res String YamlDirectory := do
  let models ← loadRecords yaml.models files.models
  let datasources ← loadRecords yaml.datasources files.datasources
  let memories ← loadRecords yaml.memories files.memories
  let priority ← loadRecords yaml.priority files.priority
  return {
    storage := {
      models := models.foldl (fun map model => map.insert (model.name, model)) .empty
      datasources := datasources.foldl (fun map ds => map.insert (ds.name, ds)) .empty
      memories := memories.foldl .insert .empty }
    priority
    files }

/-! ## Writing them -/

/-- `tokio::fs::write`, with what it puts into the place of a file. -/
def writeFile (put : Option String → YamlFiles) (content : String) : Res String Unit × YamlDirectory :=
  match d.writeFault with
  | some (e, left) => (Res.fail ("IO error: " ++ e), { d with files := put left })
  | none => (.ok (), { d with files := put (some content) })

def persistModels : Res String Unit × YamlDirectory :=
  match yaml.models.write (d.storage.models.items.map (·.2)) with
  | .error e => (.error e, d)
  | .ok content => d.writeFile (fun models => { d.files with models }) content

def persistDatasources : Res String Unit × YamlDirectory :=
  match yaml.datasources.write (d.storage.datasources.items.map (·.2)) with
  | .error e => (.error e, d)
  | .ok content => d.writeFile (fun datasources => { d.files with datasources }) content

def persistMemories : Res String Unit × YamlDirectory :=
  match yaml.memories.write d.storage.memories.items with
  | .error e => (.error e, d)
  | .ok content => d.writeFile (fun memories => { d.files with memories }) content

def persistPriority : Res String Unit × YamlDirectory :=
  match yaml.priority.write d.priority with
  | .error e => (.error e, d)
  | .ok content => d.writeFile (fun priority => { d.files with priority }) content

/-! ## Changes -/

/-- The part of a change under the write lock. -/
def lock {α : Type} (critical : YamlStorage → Res String α × YamlStorage) : Res String α × YamlDirectory :=
  let r := critical { d.storage with writeError := none }
  (r.1, { d with storage := r.2 })

/-- A change under the write lock, and then its file, if anything has changed. -/
def change {α : Type} (critical : YamlStorage → Res String α × YamlStorage) (changed : α → Bool)
    (persist : YamlDirectory → Res String Unit × YamlDirectory) : Res String α × YamlDirectory :=
  let (result, d) := d.lock critical
  match result with
  | .error e => (.error e, d)
  | .ok a =>
    if changed a then
      let (written, d) := persist d
      (written.map fun _ => a, d)
    else (.ok a, d)

/-- `impl StorageBackend for YamlStorage`, on the directory. -/
def backend : Backend YamlDirectory where
  listModels d := d.storage.listModels
  getModel d := d.storage.getModel
  createModel d model := d.change (·.createModel model) (fun _ => true) (persistModels yaml)
  updateModel d name model := d.change (·.updateModel name model) (fun _ => true) (persistModels yaml)
  deleteModel d name datasource := d.change (·.deleteModel name datasource) id (persistModels yaml)
  listDatasources d := d.storage.listDatasources
  getDatasource d := d.storage.getDatasource
  createDatasource d ds := d.change (·.createDatasource ds) (fun _ => true) (persistDatasources yaml)
  updateDatasource d name ds := d.change (·.updateDatasource name ds) (fun _ => true) (persistDatasources yaml)
  deleteDatasource d name := d.change (·.deleteDatasource name) id (persistDatasources yaml)
  saveMemory d memory := d.change (·.saveMemory memory) (fun _ => true) (persistMemories yaml)
  getMemory d := d.storage.getMemory
  listMemories d := d.storage.listMemories toLowercase
  deleteMemory d id := d.change (·.deleteMemory id) (fun deleted => deleted) (persistMemories yaml)
  search d := d.storage.search toLowercase

/-! ## What happens under the write lock -/

variable {d}

theorem lock_createModel (d : YamlDirectory) (model : StoredModel) :
    (d.storage.models.get model.name).isSome ∧ (∃ e, (d.lock (·.createModel model)).1 = .error e) ∧
        (d.lock (·.createModel model)).2 = { d with storage := { d.storage with writeError := none } } ∨
      d.storage.models.get model.name = none ∧ (d.lock (·.createModel model)).1 = .ok model ∧
        (d.lock (·.createModel model)).2 = { d with storage := { d.storage with
          models := d.storage.models.insert (model.name, model), writeError := none } } := by
  cases hget : d.storage.models.get model.name with
  | none => simp [lock, YamlStorage.createModel, YamlStorage.persist, hget]
  | some entry => simp [lock, YamlStorage.createModel, hget, Res.fail]

theorem lock_updateModel (d : YamlDirectory) (name : String) (model : StoredModel) :
    d.storage.models.get name = none ∧ (∃ e, (d.lock (·.updateModel name model)).1 = .error e) ∧
        (d.lock (·.updateModel name model)).2 = { d with storage := { d.storage with writeError := none } } ∨
      (d.storage.models.get name).isSome ∧ (d.lock (·.updateModel name model)).1 = .ok model ∧
        (d.lock (·.updateModel name model)).2 = { d with storage := { d.storage with
          models := d.storage.models.insert (name, model), writeError := none } } := by
  cases hget : d.storage.models.get name with
  | none => simp [lock, YamlStorage.updateModel, hget, Res.fail]
  | some entry => simp [lock, YamlStorage.updateModel, YamlStorage.persist, hget]

theorem lock_deleteModel (d : YamlDirectory) (name : String) (datasource : Option String) :
    (d.lock (·.deleteModel name datasource)).1 = .ok false ∧
        (d.lock (·.deleteModel name datasource)).2 = { d with storage := { d.storage with writeError := none } } ∨
      (d.storage.models.get name).isSome ∧ (d.lock (·.deleteModel name datasource)).1 = .ok true ∧
        (d.lock (·.deleteModel name datasource)).2 = { d with storage := { d.storage with
          models := d.storage.models.erase name, writeError := none } } := by
  cases hget : d.storage.models.get name with
  | none => simp [lock, YamlStorage.deleteModel, hget]
  | some entry =>
    cases hds : datasource.all (entry.2.datasource == ·) with
    | true => simp [lock, YamlStorage.deleteModel, YamlStorage.persist, hget, hds]
    | false => simp [lock, YamlStorage.deleteModel, hget, hds]

theorem lock_createDatasource (d : YamlDirectory) (ds : StoredDataSource) :
    (d.storage.datasources.get ds.name).isSome ∧ (∃ e, (d.lock (·.createDatasource ds)).1 = .error e) ∧
        (d.lock (·.createDatasource ds)).2 = { d with storage := { d.storage with writeError := none } } ∨
      d.storage.datasources.get ds.name = none ∧ (d.lock (·.createDatasource ds)).1 = .ok ds ∧
        (d.lock (·.createDatasource ds)).2 = { d with storage := { d.storage with
          datasources := d.storage.datasources.insert (ds.name, ds), writeError := none } } := by
  cases hget : d.storage.datasources.get ds.name with
  | none => simp [lock, YamlStorage.createDatasource, YamlStorage.persist, hget]
  | some entry => simp [lock, YamlStorage.createDatasource, hget, Res.fail]

theorem lock_updateDatasource (d : YamlDirectory) (name : String) (ds : StoredDataSource) :
    d.storage.datasources.get name = none ∧ (∃ e, (d.lock (·.updateDatasource name ds)).1 = .error e) ∧
        (d.lock (·.updateDatasource name ds)).2 = { d with storage := { d.storage with writeError := none } } ∨
      (d.storage.datasources.get name).isSome ∧ (d.lock (·.updateDatasource name ds)).1 = .ok ds ∧
        (d.lock (·.updateDatasource name ds)).2 = { d with storage := { d.storage with
          datasources := d.storage.datasources.insert (name, ds), writeError := none } } := by
  cases hget : d.storage.datasources.get name with
  | none => simp [lock, YamlStorage.updateDatasource, hget, Res.fail]
  | some entry => simp [lock, YamlStorage.updateDatasource, YamlStorage.persist, hget]

theorem lock_deleteDatasource (d : YamlDirectory) (name : String) :
    (d.lock (·.deleteDatasource name)).1 = .ok false ∧
        (d.lock (·.deleteDatasource name)).2 = { d with storage := { d.storage with writeError := none } } ∨
      (d.storage.datasources.get name).isSome ∧ (d.lock (·.deleteDatasource name)).1 = .ok true ∧
        (d.lock (·.deleteDatasource name)).2 = { d with storage := { d.storage with
          datasources := d.storage.datasources.erase name, writeError := none } } := by
  cases hget : d.storage.datasources.get name with
  | none => simp [lock, YamlStorage.deleteDatasource, hget]
  | some entry => simp [lock, YamlStorage.deleteDatasource, YamlStorage.persist, hget]

end YamlDirectory

end GraphNight
