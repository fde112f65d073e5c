import Mathlib.Algebra.Order.Ring.Rat
import GraphNight.Lib.Str
import GraphNight.Storage.Backend

/-!
# YAML storage (`graphnight-storage/src/yaml.rs`)

The maps in memory, and what writing their files fails with, if it does: a call that
changes a map has changed it by then. `str::to_lowercase` is a parameter.
-/

namespace GraphNight

structure YamlStorage where
  models : KeyedList (String × StoredModel) Prod.fst := .empty
  datasources : KeyedList (String × StoredDataSource) Prod.fst := .empty
  memories : KeyedList Memory (·.id) := .empty
  /-- What `tokio::fs::write` fails with. -/
  writeError : Option String := none

namespace YamlStorage

variable (toLowercase : String → String) (s : YamlStorage)

/-- The `persist_` calls, which end a change. -/
def persist {α : Type} (s : YamlStorage) (a : α) : Res String α × YamlStorage :=
  match s.writeError with
  | some e => (Res.fail e, s)
  | none => (.ok a, s)

def listModels (datasource : Option String) : Res String (List StoredModel) :=
  .ok ((s.models.items.map (·.2)).filter fun m => datasource.all (m.datasource == ·))

def getModel (name : String) (datasource : Option String) : Res String (Option StoredModel) :=
  .ok (((s.models.get name).map (·.2)).filter fun m => datasource.all (m.datasource == ·))

def createModel (model : StoredModel) : Res String StoredModel × YamlStorage :=
  if (s.models.get model.name).isSome then (Res.fail ("Model already exists: " ++ model.name), s)
  else { s with models := s.models.insert (model.name, model) }.persist model

def updateModel (name : String) (model : StoredModel) : Res String StoredModel × YamlStorage :=
  if (s.models.get name).isSome then { s with models := s.models.insert (name, model) }.persist model
  else (Res.fail ("Model not found: " ++ name), s)

def deleteModel (name : String) (datasource : Option String) : Res String Bool × YamlStorage :=
  if ((s.models.get name).map (·.2)).any fun m => datasource.all (m.datasource == ·) then
    { s with models := s.models.erase name }.persist true
  else (.ok false, s)

def listDatasources : Res String (List StoredDataSource) := .ok (s.datasources.items.map (·.2))

def getDatasource (name : String) : Res String (Option StoredDataSource) :=
  .ok ((s.datasources.get name).map (·.2))

def createDatasource (ds : StoredDataSource) : Res String StoredDataSource × YamlStorage :=
  if (s.datasources.get ds.name).isSome then (Res.fail ("Datasource already exists: " ++ ds.name), s)
  else { s with datasources := s.datasources.insert (ds.name, ds) }.persist ds

def updateDatasource (name : String) (ds : StoredDataSource) : Res String StoredDataSource × YamlStorage :=
  if (s.datasources.get name).isSome then
    { s with datasources := s.datasources.insert (name, ds) }.persist ds
  else (Res.fail ("Datasource not found: " ++ name), s)

def deleteDatasource (name : String) : Res String Bool × YamlStorage :=
  if (s.datasources.get name).isSome then { s with datasources := s.datasources.erase name }.persist true
  else (.ok false, s)

def saveMemory (memory : Memory) : Res String Memory × YamlStorage :=
  { s with memories := s.memories.insert memory }.persist memory

def getMemory (id : String) : Res String (Option Memory) := .ok (s.memories.get id)

/-- Rows that match the query and the entity, less the first `offset`, at most `limit`. -/
def listMemories (filter : MemoryFilter) : Res String (List Memory) :=
  let rows := s.memories.items.filter fun m =>
    filter.query.all fun q => Str.containsStr (toLowercase m.learning) (toLowercase q)
  let rows := rows.filter fun m => filter.entity.all m.linkedEntities.contains
  let rows := rows.drop (filter.offset.getD 0)
  .ok (match filter.limit with
    | some limit => rows.take limit
    | none => rows)

def deleteMemory (id : String) : Res String Bool × YamlStorage :=
  if (s.memories.get id).isSome then { s with memories := s.memories.erase id }.persist true
  else (.ok false, s)

/-- What of a model a query matches, and the score of it. -/
def matchModel (q : String) (model : StoredModel) : List String × Rat :=
  let hit := fun text => Str.containsStr (toLowercase text) q
  let name : List (String × Rat) := if hit model.name then [("name", 10)] else []
  let description : List (String × Rat) := if model.description.any hit then [("description", 5)] else []
  let measures : List (String × Rat) := (model.measures.filter fun m => hit m.formula.expression).map fun m =>
    ("measure:" ++ m.formula.expression, 3)
  let dimensions : List (String × Rat) := (model.dimensions.filter fun d => hit d.name).map fun d =>
    ("dimension:" ++ d.name, 2)
  let parts := name ++ description ++ measures ++ dimensions
  (parts.map (·.1), (parts.map (·.2)).sum)

def search (query : String) (limit : Nat) : Res String (List SearchResult) :=
  let results := (s.models.items.map (·.2)).filterMap fun model =>
    let (matched, score) := matchModel toLowercase (toLowercase query) model
    if matched.isEmpty then none
    else some ⟨model.name, model.datasource, score, matched, model.description.getD ""⟩
  .ok ((results.mergeSort fun a b => b.score ≤ a.score).take limit)

/-- `impl StorageBackend for YamlStorage`. -/
def backend : Backend YamlStorage where
  listModels := listModels
  getModel := getModel
  createModel := createModel
  updateModel := updateModel
  deleteModel := deleteModel
  listDatasources := listDatasources
  getDatasource := getDatasource
  createDatasource := createDatasource
  updateDatasource := updateDatasource
  deleteDatasource := deleteDatasource
  saveMemory := saveMemory
  getMemory := getMemory
  listMemories := listMemories toLowercase
  deleteMemory := deleteMemory
  search := search toLowercase

/-! ## The memories are a table -/

variable {toLowercase s}

@[simp] theorem persist_snd {α : Type} (s : YamlStorage) (a : α) : (s.persist a).2 = s := by
  unfold persist
  split <;> rfl

theorem mem_listMemories {filter : MemoryFilter} {ms : List Memory} (h : s.listMemories toLowercase filter = .ok ms) :
    ∀ m ∈ ms, m ∈ s.memories.items := by
  intro m hm
  obtain rfl := Except.ok.inj h
  have hrows : m ∈ ((s.memories.items.filter fun m => filter.query.all fun q =>
      Str.containsStr (toLowercase m.learning) (toLowercase q)).filter fun m =>
        filter.entity.all m.linkedEntities.contains).drop (filter.offset.getD 0) := by
    cases hlimit : filter.limit with
    | none =>
      rw [hlimit] at hm
      exact hm
    | some limit =>
      rw [hlimit] at hm
      exact List.mem_of_mem_take hm
  exact List.mem_of_mem_filter (List.mem_of_mem_filter (List.mem_of_mem_drop hrows))

theorem mem_deleteMemory {id : String} {m : Memory} (hm : m ∈ s.memories.items) (hid : m.id ≠ id) :
    m ∈ (s.deleteMemory id).2.memories.items := by
  unfold deleteMemory
  split
  · rw [persist_snd]
    exact List.mem_filter.2 ⟨hm, by simpa using hid⟩
  · exact hm

variable (toLowercase) in
/-- The memories of a state are the entries of its map. -/
def memoryTable : MemoryTable (backend toLowercase) where
  rows s := s.memories.items
  distinct s := s.memories.distinct
  save s m row hrow := by
    apply KeyedList.mem_insert
    rwa [show ((backend toLowercase).saveMemory s m).2.memories.items = (s.memories.insert m).items from
      congrArg (·.memories.items) (persist_snd _ m)] at hrow
  get s id m h := KeyedList.get_eq_some.1 (Except.ok.inj h)
  list _ _ _ := mem_listMemories
  delete _ _ _ := mem_deleteMemory

/-- Saving a memory writes the memory file. -/
theorem memoriesApart (toLowercase : String → String) : (backend toLowercase).MemoriesApart := by
  intro s m
  have hsaved : ((backend toLowercase).saveMemory s m).2 = { s with memories := s.memories.insert m } :=
    persist_snd _ m
  rw [hsaved]
  exact ⟨fun _ => rfl, fun _ _ => rfl, rfl, fun _ => rfl⟩

end YamlStorage

end GraphNight
