import Mathlib.Algebra.Order.Ring.Rat
import GraphNight.Lib.Like
import GraphNight.Storage.Sqlite

/-!
# Postgres metadata storage (`graphnight-storage/src/postgres.rs`)

The tables, and what the database answers statements with, if it fails them. No map is kept
in front of a table. A column of JSON stands here as the text the database prints of it.
-/

namespace GraphNight

structure PostgresMetadataStorage where
  models : KeyedList ModelRow (·.key) := .empty
  datasources : KeyedList (String × String) Prod.fst := .empty
  memories : KeyedList MemoryRow (·.id) := .empty
  /-- What the database fails statements with. -/
  sqlError : Option String := none

/-- How the database orders texts and compares letters. -/
structure PostgresLocale where
  before : String → String → Bool
  sameLetter : Char → Char → Bool

namespace PostgresMetadataStorage

variable (json : RecordJson) (locale : PostgresLocale) (toLowercase : String → String) (s : PostgresMetadataStorage)

/-- What the database rejects itself. -/
def rejected {α : Type} (message : String) : Res String α :=
  SqliteStorage.sqlFailure ("error returned from database: " ++ message)

/-- A statement with the texts bound to it: a text of the database has no NUL. -/
def query {α : Type} (texts : List String) (rows : Res String α) : Res String α :=
  match s.sqlError with
  | some e => SqliteStorage.sqlFailure e
  | none =>
    if texts.any (·.toList.contains '\x00') then rejected "invalid byte sequence for encoding \"UTF8\": 0x00" else rows

/-- A statement that changes a table: what it makes of the tables, and what the call answers. -/
def execute {α : Type} (texts : List String) (change : Res String α × PostgresMetadataStorage) :
    Res String α × PostgresMetadataStorage :=
  match s.query texts (.ok ()) with
  | .error e => (.error e, s)
  | .ok () => change

/-- `serde_json::to_value`, before a statement. -/
def putRow {α : Type} (data : Res String String) (statement : String → Res String α × PostgresMetadataStorage) :
    Res String α × PostgresMetadataStorage :=
  match data with
  | .error e => (.error e, s)
  | .ok data => statement data

/-- `usize as i64`, where it is not negative. -/
def asI64 (what : String) (n : Nat) : Res String Nat :=
  if n < 2 ^ 63 then .ok n else rejected (what ++ " must not be negative")

def byName (rows : List ModelRow) : List ModelRow := rows.mergeSort fun a b => locale.before a.name b.name

def listModels (datasource : Option String) : Res String (List StoredModel) := do
  let rows ← s.query datasource.toList (.ok (s.models.items.filter fun row => datasource.all (row.datasource == ·)))
  (byName locale rows).mapM fun row => json.model.read row.data

/-- Without a datasource, the first of the rows with the name. -/
def getModel (name : String) (datasource : Option String) : Res String (Option StoredModel) := do
  let row ← match datasource with
    | some ds =>
      let key := SqliteStorage.modelKey name (some ds)
      s.query [key] (.ok (s.models.get key))
    | none =>
      s.query [name] (.ok ((s.models.items.filter fun row => row.name == name).mergeSort fun a b =>
        locale.before a.datasource b.datasource).head?)
  match row with
  | some row => return some (← json.model.read row.data)
  | none => return none

def createModel (model : StoredModel) : Res String StoredModel × PostgresMetadataStorage :=
  let key := SqliteStorage.modelKey model.name (some model.datasource)
  s.putRow (json.model.write model) fun data =>
    s.execute [key, model.name, model.datasource]
      (if (s.models.get key).isSome then (Res.fail ("Model already exists: " ++ key), s)
      else (.ok model, { s with models := s.models.insert ⟨key, model.name, model.datasource, data⟩ }))

def updateModel (name : String) (model : StoredModel) : Res String StoredModel × PostgresMetadataStorage :=
  let key := SqliteStorage.modelKey name (some model.datasource)
  s.putRow (json.model.write model) fun data =>
    s.execute [model.name, model.datasource, key]
      (if (s.models.get key).isSome then
        (.ok model, { s with models := s.models.insert ⟨key, model.name, model.datasource, data⟩ })
      else (Res.fail ("Model not found: " ++ key), s))

def deleteModel (name : String) (datasource : Option String) : Res String Bool × PostgresMetadataStorage :=
  match datasource with
  | some ds =>
    let key := SqliteStorage.modelKey name (some ds)
    s.execute [key] (.ok (s.models.get key).isSome, { s with models := s.models.erase key })
  | none =>
    let named := s.models.items.filter (·.name == name)
    s.execute [name] (.ok (!named.isEmpty), { s with models := named.foldl (fun rows row => rows.erase row.key) s.models })

def listDatasources : Res String (List StoredDataSource) := do
  let rows ← s.query [] (.ok s.datasources.items)
  (rows.mergeSort fun a b => locale.before a.1 b.1).mapM fun row => json.dataSource.read row.2

def getDatasource (name : String) : Res String (Option StoredDataSource) := do
  match ← s.query [name] (.ok (s.datasources.get name)) with
  | some row => return some (← json.dataSource.read row.2)
  | none => return none

def createDatasource (ds : StoredDataSource) : Res String StoredDataSource × PostgresMetadataStorage :=
  s.putRow (json.dataSource.write ds) fun data =>
    s.execute [ds.name]
      (if (s.datasources.get ds.name).isSome then (Res.fail ("Datasource already exists: " ++ ds.name), s)
      else (.ok ds, { s with datasources := s.datasources.insert (ds.name, data) }))

def updateDatasource (name : String) (ds : StoredDataSource) : Res String StoredDataSource × PostgresMetadataStorage :=
  s.putRow (json.dataSource.write ds) fun data =>
    s.execute [name]
      (if (s.datasources.get name).isSome then (.ok ds, { s with datasources := s.datasources.insert (name, data) })
      else (Res.fail ("Datasource not found: " ++ name), s))

def deleteDatasource (name : String) : Res String Bool × PostgresMetadataStorage :=
  s.execute [name] (.ok (s.datasources.get name).isSome, { s with datasources := s.datasources.erase name })

/-- An upsert, which keeps the time of the first write. -/
def saveMemory (memory : Memory) : Res String Memory × PostgresMetadataStorage :=
  s.putRow (json.memory.write memory) fun data =>
    let createdAt := ((s.memories.get memory.id).map (·.createdAt)).getD memory.createdAt
    s.execute [memory.id] (.ok memory, { s with memories := s.memories.insert ⟨memory.id, data, createdAt⟩ })

def getMemory (id : String) : Res String (Option Memory) := do
  match ← s.query [id] (.ok (s.memories.get id)) with
  | some row => return some (← json.memory.read row.data)
  | none => return none

/-- `ILIKE`. -/
def ilike (pattern text : String) : Bool := Like.isMatchEscaped locale.sameLetter pattern.toList text.toList

/-- The rows `SELECT data FROM memories` yields, the newest first: a thousand of them
where no limit is given. -/
def memoryRows (filter : MemoryFilter) : Res String (List MemoryRow) := do
  let offset ← asI64 "OFFSET" (filter.offset.getD 0)
  let limit ← asI64 "LIMIT" (filter.limit.getD 1000)
  let rows := s.memories.items.filter fun row =>
    filter.entity.all fun entity => ilike locale ("%" ++ entity ++ "%") row.data
  return ((rows.mergeSort fun a b => b.createdAt ≤ a.createdAt).drop offset).take limit

def listMemories (filter : MemoryFilter) : Res String (List Memory) := do
  let rows ← s.query filter.entity.toList (s.memoryRows locale filter)
  let memories ← rows.mapM fun row => json.memory.read row.data
  return memories.filter fun m => filter.query.all fun q => Str.containsStr (toLowercase m.learning) (toLowercase q)

def deleteMemory (id : String) : Res String Bool × PostgresMetadataStorage :=
  s.execute [id] (.ok (s.memories.get id).isSome, { s with memories := s.memories.erase id })

/-- The models whose name or JSON has the text, by name. -/
def search (text : String) (limit : Nat) : Res String (List SearchResult) := do
  let pattern := "%" ++ text ++ "%"
  let rows ← s.query [pattern] (do
    let limit ← asI64 "LIMIT" limit
    let rows := s.models.items.filter fun row => ilike locale pattern row.name || ilike locale pattern row.data
    return (byName locale rows).take limit)
  rows.mapM fun row => do
    let model ← json.model.read row.data
    return ⟨row.name, row.datasource, 1, [], model.description.getD ""⟩

/-- `impl StorageBackend for PostgresMetadataStorage`. -/
def backend : Backend PostgresMetadataStorage where
  listModels := listModels json locale
  getModel := getModel json locale
  createModel := createModel json
  updateModel := updateModel json
  deleteModel := deleteModel
  listDatasources := listDatasources json locale
  getDatasource := getDatasource json
  createDatasource := createDatasource json
  updateDatasource := updateDatasource json
  deleteDatasource := deleteDatasource
  saveMemory := saveMemory json
  getMemory := getMemory json
  listMemories := listMemories json locale toLowercase
  deleteMemory := deleteMemory
  search := search json locale

variable {s} in
/-- A statement that succeeds returns what its rows are. -/
theorem of_query {α : Type} {texts : List String} {rows : Res String α} {a : α} (h : s.query texts rows = .ok a) :
    rows = .ok a := by
  unfold query at h
  split at h
  · cases h
  · split_ifs at h
    · cases h
    · exact h

end PostgresMetadataStorage

end GraphNight
