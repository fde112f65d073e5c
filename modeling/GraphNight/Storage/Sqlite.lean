import Mathlib.Algebra.Order.Ring.Rat
import GraphNight.Lib.Codec
import GraphNight.Lib.Like
import GraphNight.Lib.Str
import GraphNight.Storage.Backend

/-!
# SQLite storage (`graphnight-storage/src/sqlite.rs`)

The tables, the maps kept in memory in front of two of them, and what the database answers
statements with, if it fails them. A call changes its map before it runs its statement.
-/

namespace GraphNight

structure ModelRow where
  key : String
  name : String
  datasource : String
  /-- The model as JSON. -/
  data : String
deriving DecidableEq, Repr

structure MemoryRow where
  id : String
  /-- The memory as JSON. -/
  data : String
  createdAt : Int
deriving DecidableEq, Repr

structure SqliteStorage where
  models : KeyedList ModelRow (·.key) := .empty
  datasources : KeyedList (String × String) Prod.fst := .empty
  memories : KeyedList MemoryRow (·.id) := .empty
  modelsCache : KeyedList (String × StoredModel) Prod.fst := .empty
  datasourcesCache : KeyedList (String × StoredDataSource) Prod.fst := .empty
  /-- What the database fails statements with. -/
  sqlError : Option String := none
  /-- `datetime('now')` of the database. -/
  clock : Int := 0

/-- `serde_json` on what is stored. -/
structure RecordJson where
  model : Codec StoredModel
  dataSource : Codec StoredDataSource
  memory : Codec Memory

namespace SqliteStorage

variable (json : RecordJson) (toLowercase : String → String) (s : SqliteStorage)

/-- `?` on what `sqlx` returns. -/
def sqlFailure {α : Type} (e : String) : Res String α := Res.fail ("SQL error: " ++ e)

/-- What the database rejects itself. -/
def rejected {α : Type} (code : Nat) (message : String) : Res String α :=
  sqlFailure ("error returned from database: (code: " ++ toString code ++ ") " ++ message)

/-- A statement that changes a table, which ends a call. -/
def execute {α : Type} (s : SqliteStorage) (statement : Res String SqliteStorage) (a : α) : Res String α × SqliteStorage :=
  match s.sqlError with
  | some e => (sqlFailure e, s)
  | none =>
    match statement with
    | .error e => (.error e, s)
    | .ok s => (.ok a, s)

/-- A statement that reads. -/
def query {α : Type} (s : SqliteStorage) (rows : Res String α) : Res String α :=
  match s.sqlError with
  | some e => sqlFailure e
  | none => rows

/-- The end of a call that puts a record into a map: it stays out where it has no JSON. -/
def putThrough {α : Type} (data : Res String String) (put : SqliteStorage)
    (statement : String → Res String SqliteStorage) (a : α) : Res String α × SqliteStorage :=
  match data with
  | .error e => (.error e, s)
  | .ok data => put.execute (statement data) a

/-- Load the maps from the tables, later rows over earlier ones. -/
def warmCache : Res String SqliteStorage := do
  let models ← s.query (s.models.items.mapM fun row => json.model.read row.data)
  let datasources ← s.query (s.datasources.items.mapM fun row => json.dataSource.read row.2)
  return { s with
    modelsCache := models.foldl (fun cache model => cache.insert (model.name, model)) s.modelsCache
    datasourcesCache := datasources.foldl (fun cache ds => cache.insert (ds.name, ds)) s.datasourcesCache }

/-- Open the database that another storage has written. -/
def reopen : Res String SqliteStorage :=
  { s with modelsCache := .empty, datasourcesCache := .empty, sqlError := none }.warmCache json

def modelKey (name : String) : Option String → String
  | some datasource => datasource ++ "." ++ name
  | none => name

def listModels (datasource : Option String) : Res String (List StoredModel) :=
  .ok ((s.modelsCache.items.map (·.2)).filter fun m => datasource.all (m.datasource == ·))

def getModel (name : String) (datasource : Option String) : Res String (Option StoredModel) :=
  .ok ((s.modelsCache.get (modelKey name datasource)).map (·.2))

/-- `INSERT INTO models`. -/
def insertModel (row : ModelRow) : Res String SqliteStorage :=
  if (s.models.get row.key).isSome then rejected 1555 "UNIQUE constraint failed: models.key"
  else .ok { s with models := s.models.insert row }

/-- `UPDATE models SET data = ? WHERE key = ?`. -/
def setModelData (key data : String) : SqliteStorage :=
  match s.models.get key with
  | some row => { s with models := s.models.insert { row with data } }
  | none => s

def createModel (model : StoredModel) : Res String StoredModel × SqliteStorage :=
  let key := modelKey model.name (some model.datasource)
  if (s.modelsCache.get key).isSome then (Res.fail ("Model already exists: " ++ key), s)
  else
    let t := { s with modelsCache := s.modelsCache.insert (key, model) }
    s.putThrough (json.model.write model) t (fun data => t.insertModel ⟨key, model.name, model.datasource, data⟩) model

def updateModel (name : String) (model : StoredModel) : Res String StoredModel × SqliteStorage :=
  let key := modelKey name (some model.datasource)
  if (s.modelsCache.get key).isSome then
    let t := { s with modelsCache := s.modelsCache.insert (key, model) }
    s.putThrough (json.model.write model) t (fun data => .ok (t.setModelData key data)) model
  else (Res.fail ("Model not found: " ++ key), s)

def deleteModel (name : String) (datasource : Option String) : Res String Bool × SqliteStorage :=
  let key := modelKey name datasource
  if (s.modelsCache.get key).isSome then
    let s := { s with modelsCache := s.modelsCache.erase key }
    s.execute (.ok { s with models := s.models.erase key }) true
  else (.ok false, s)

def listDatasources : Res String (List StoredDataSource) := .ok (s.datasourcesCache.items.map (·.2))

def getDatasource (name : String) : Res String (Option StoredDataSource) :=
  .ok ((s.datasourcesCache.get name).map (·.2))

/-- `INSERT INTO datasources`. -/
def insertDatasource (name data : String) : Res String SqliteStorage :=
  if (s.datasources.get name).isSome then rejected 1555 "UNIQUE constraint failed: datasources.name"
  else .ok { s with datasources := s.datasources.insert (name, data) }

/-- `UPDATE datasources SET data = ? WHERE name = ?`. -/
def setDatasourceData (name data : String) : SqliteStorage :=
  if (s.datasources.get name).isSome then { s with datasources := s.datasources.insert (name, data) } else s

def createDatasource (ds : StoredDataSource) : Res String StoredDataSource × SqliteStorage :=
  if (s.datasourcesCache.get ds.name).isSome then (Res.fail ("Datasource already exists: " ++ ds.name), s)
  else
    let t := { s with datasourcesCache := s.datasourcesCache.insert (ds.name, ds) }
    s.putThrough (json.dataSource.write ds) t (t.insertDatasource ds.name) ds

def updateDatasource (name : String) (ds : StoredDataSource) : Res String StoredDataSource × SqliteStorage :=
  if (s.datasourcesCache.get name).isSome then
    let t := { s with datasourcesCache := s.datasourcesCache.insert (name, ds) }
    s.putThrough (json.dataSource.write ds) t (fun data => .ok (t.setDatasourceData name data)) ds
  else (Res.fail ("Datasource not found: " ++ name), s)

def deleteDatasource (name : String) : Res String Bool × SqliteStorage :=
  if (s.datasourcesCache.get name).isSome then
    let s := { s with datasourcesCache := s.datasourcesCache.erase name }
    s.execute (.ok { s with datasources := s.datasources.erase name }) true
  else (.ok false, s)

/-- An upsert, which keeps the time of the first write. -/
def saveMemory (memory : Memory) : Res String Memory × SqliteStorage :=
  match json.memory.write memory with
  | .error e => (.error e, s)
  | .ok data =>
    let createdAt := ((s.memories.get memory.id).map (·.createdAt)).getD s.clock
    s.execute (.ok { s with memories := s.memories.insert ⟨memory.id, data, createdAt⟩ }) memory

def getMemory (id : String) : Res String (Option Memory) :=
  s.query (match s.memories.get id with
    | some row => (json.memory.read row.data).map some
    | none => .ok none)

/-- SQLite's `LIKE`: letters of ASCII match in either case, and a text ends at a NUL. -/
def likes (pattern text : String) : Bool :=
  Like.isMatch (fun a b => a.toLower == b.toLower) (pattern.toList.takeWhile (· != '\x00'))
    (text.toList.takeWhile (· != '\x00'))

/-- A pattern has a largest size. -/
def like (pattern text : String) : Res String Bool :=
  if 50000 < pattern.utf8ByteSize then rejected 1 "LIKE or GLOB pattern too complex" else .ok (likes pattern text)

/-- `LIMIT` and `OFFSET`: an offset comes after a limit, and a count has 63 bits. -/
def checkWindow (limit offset : Option Nat) : Res String Unit :=
  if limit = none ∧ offset.isSome then rejected 1 "near \"OFFSET\": syntax error"
  else if limit.any (2 ^ 63 ≤ ·) ∨ offset.any (2 ^ 63 ≤ ·) then rejected 20 "datatype mismatch"
  else .ok ()

/-- `WHERE data LIKE ?`, row by row. -/
def whereEntity (entity : Option String) (rows : List MemoryRow) : Res String (List MemoryRow) :=
  match entity with
  | some entity => do
    let marked ← rows.mapM fun row => return (row, ← like ("%" ++ entity ++ "%") row.data)
    return (marked.filter (·.2)).map (·.1)
  | none => .ok rows

/-- The rows `SELECT data FROM memories` yields, the newest first. A limit of zero looks
at none. -/
def memoryRows (filter : MemoryFilter) : Res String (List MemoryRow) := do
  checkWindow filter.limit filter.offset
  let rows ← whereEntity filter.entity (if filter.limit = some 0 then [] else s.memories.items)
  let rows := (rows.mergeSort fun a b => b.createdAt ≤ a.createdAt).drop (filter.offset.getD 0)
  return match filter.limit with
    | some limit => rows.take limit
    | none => rows

def listMemories (filter : MemoryFilter) : Res String (List Memory) := do
  let rows ← s.query (s.memoryRows filter)
  let memories ← rows.mapM fun row => json.memory.read row.data
  return memories.filter fun m => filter.query.all fun q => Str.containsStr (toLowercase m.learning) (toLowercase q)

def deleteMemory (id : String) : Res String Bool × SqliteStorage :=
  s.execute (.ok { s with memories := s.memories.erase id }) (s.memories.get id).isSome

/-- `name LIKE ? OR data LIKE ?`, on a row. -/
def likeModel (pattern : String) (row : ModelRow) : Res String Bool :=
  match like pattern row.name with
  | .error e => .error e
  | .ok true => .ok true
  | .ok false => like pattern row.data

/-- The models whose name or JSON has the text, in no order of rank; the limit is cast to
`i64`, and a negative one is none. A limit of zero looks at no row. -/
def search (query : String) (limit : Nat) : Res String (List SearchResult) := do
  let pattern := "%" ++ toLowercase query ++ "%"
  let looked := if limit = 0 then [] else s.models.items
  let marked ← s.query (looked.mapM fun row => return (row, ← likeModel pattern row))
  let rows := (marked.filter (·.2)).map (·.1)
  let rows := if limit < 2 ^ 63 then rows.take limit else rows
  rows.mapM fun row => do
    let model ← json.model.read row.data
    return ⟨row.name, row.datasource, 1, [], model.description.getD ""⟩

/-- `impl StorageBackend for SqliteStorage`. -/
def backend : Backend SqliteStorage where
  listModels := listModels
  getModel := getModel
  createModel := createModel json
  updateModel := updateModel json
  deleteModel := deleteModel
  listDatasources := listDatasources
  getDatasource := getDatasource
  createDatasource := createDatasource json
  updateDatasource := updateDatasource json
  deleteDatasource := deleteDatasource
  saveMemory := saveMemory json
  getMemory := getMemory json
  listMemories := listMemories json toLowercase
  deleteMemory := deleteMemory
  search := search json toLowercase

/-- A statement that fails leaves the tables, and one that runs makes its own change. -/
theorem execute_cases {α : Type} (s : SqliteStorage) (statement : Res String SqliteStorage) (a : α) :
    (∃ e, s.execute statement a = (.error e, s)) ∨
      ∃ t, s.sqlError = none ∧ statement = .ok t ∧ s.execute statement a = (.ok a, t) := by
  unfold execute
  cases s.sqlError with
  | some e => exact .inl ⟨_, rfl⟩
  | none =>
    cases statement with
    | error e => exact .inl ⟨_, rfl⟩
    | ok t => exact .inr ⟨t, rfl, rfl, rfl⟩

/-- Memories have a table of their own. -/
theorem memoriesApart (json : RecordJson) (toLowercase : String → String) : (backend json toLowercase).MemoriesApart := by
  intro s m
  have hsaved : ∃ memories, ((backend json toLowercase).saveMemory s m).2 = { s with memories } := by
    show ∃ memories, (saveMemory json s m).2 = { s with memories }
    unfold saveMemory
    cases json.memory.write m with
    | error e => exact ⟨s.memories, rfl⟩
    | ok data =>
      let row : MemoryRow := ⟨m.id, data, ((s.memories.get m.id).map (·.createdAt)).getD s.clock⟩
      obtain ⟨e, hfailed⟩ | ⟨t, -, hran, hexecute⟩ := s.execute_cases (.ok { s with memories := s.memories.insert row }) m
      · exact ⟨s.memories, congrArg Prod.snd hfailed⟩
      · exact ⟨_, (congrArg Prod.snd hexecute).trans (Except.ok.inj hran).symm⟩
  obtain ⟨memories, hsaved⟩ := hsaved
  rw [hsaved]
  exact ⟨fun _ => rfl, fun _ _ => rfl, rfl, fun _ => rfl⟩

end SqliteStorage

end GraphNight
