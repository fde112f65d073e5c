import GraphNight.Core.Models
import GraphNight.Lib.Fault
import GraphNight.Lib.KeyedList

/-!
# The storage trait (`graphnight-storage/src/backend.rs`)

A backend is a type of states and the trait's calls on them; an error is the text it
displays. Times are seconds, scores exact numbers. The calls for backups, the index and
the priority of datasources are left out.
-/

namespace GraphNight

/-- A model as it is stored. -/
structure StoredModel extends Model
deriving DecidableEq, Repr

/-- A datasource as it is stored. -/
structure StoredDataSource extends DataSource where
  description : Option String := none
  models : List String := []
  poolSize : Option Nat := none
deriving DecidableEq, Repr

structure Memory where
  id : String
  learning : String
  linkedEntities : List String
  description : Option String
  createdAt : Int
  updatedAt : Int
  metadata : KeyedList (String × Value) Prod.fst

structure MemoryFilter where
  query : Option String := none
  entity : Option String := none
  limit : Option Nat := none
  offset : Option Nat := none
deriving DecidableEq, Repr

structure SearchResult where
  modelName : String
  datasource : String
  score : Rat
  matchedFields : List String
  snippet : String
deriving DecidableEq, Repr

/-- The calls of the trait on a state. -/
structure Backend (σ : Type) where
  listModels : σ → Option String → Res String (List StoredModel)
  getModel : σ → String → Option String → Res String (Option StoredModel)
  createModel : σ → StoredModel → Res String StoredModel × σ
  updateModel : σ → String → StoredModel → Res String StoredModel × σ
  deleteModel : σ → String → Option String → Res String Bool × σ
  listDatasources : σ → Res String (List StoredDataSource)
  getDatasource : σ → String → Res String (Option StoredDataSource)
  createDatasource : σ → StoredDataSource → Res String StoredDataSource × σ
  updateDatasource : σ → String → StoredDataSource → Res String StoredDataSource × σ
  deleteDatasource : σ → String → Res String Bool × σ
  saveMemory : σ → Memory → Res String Memory × σ
  getMemory : σ → String → Res String (Option Memory)
  listMemories : σ → MemoryFilter → Res String (List Memory)
  deleteMemory : σ → String → Res String Bool × σ
  search : σ → String → Nat → Res String (List SearchResult)

/-- A change of the models or the datasources of a backend. -/
inductive StorageWrite where
  | createModel (model : StoredModel)
  | updateModel (name : String) (model : StoredModel)
  | deleteModel (name : String) (datasource : Option String)
  | createDatasource (ds : StoredDataSource)
  | updateDatasource (name : String) (ds : StoredDataSource)
  | deleteDatasource (name : String)
deriving DecidableEq, Repr

namespace Backend

variable {σ : Type}

/-- The call that makes a change, without the record it returns. -/
def write (b : Backend σ) (s : σ) : StorageWrite → Res String Unit × σ
  | .createModel model => let r := b.createModel s model; (r.1.map fun _ => (), r.2)
  | .updateModel name model => let r := b.updateModel s name model; (r.1.map fun _ => (), r.2)
  | .deleteModel name datasource => let r := b.deleteModel s name datasource; (r.1.map fun _ => (), r.2)
  | .createDatasource ds => let r := b.createDatasource s ds; (r.1.map fun _ => (), r.2)
  | .updateDatasource name ds => let r := b.updateDatasource s name ds; (r.1.map fun _ => (), r.2)
  | .deleteDatasource name => let r := b.deleteDatasource s name; (r.1.map fun _ => (), r.2)

end Backend

/-- Two states of a backend with the same models and datasources. -/
structure SameCatalogue {σ : Type} (b : Backend σ) (s s' : σ) : Prop where
  listModels : ∀ datasource, b.listModels s' datasource = b.listModels s datasource
  getModel : ∀ name datasource, b.getModel s' name datasource = b.getModel s name datasource
  listDatasources : b.listDatasources s' = b.listDatasources s
  getDatasource : ∀ name, b.getDatasource s' name = b.getDatasource s name

/-- Two states that no call which reads can tell apart. -/
structure SameReads {σ : Type} (b : Backend σ) (s s' : σ) : Prop extends SameCatalogue b s s' where
  getMemory : ∀ id, b.getMemory s' id = b.getMemory s id
  listMemories : ∀ filter, b.listMemories s' filter = b.listMemories s filter
  search : ∀ query limit, b.search s' query limit = b.search s query limit

/-- A backend that keeps its memories apart from its models and datasources. -/
def Backend.MemoriesApart {σ : Type} (b : Backend σ) : Prop := ∀ s m, SameCatalogue b s (b.saveMemory s m).2

namespace SameCatalogue

variable {σ : Type} {b : Backend σ} {s s' s'' : σ}

theorem refl (s : σ) : SameCatalogue b s s := ⟨fun _ => rfl, fun _ _ => rfl, rfl, fun _ => rfl⟩

theorem trans (h : SameCatalogue b s s') (h' : SameCatalogue b s' s'') : SameCatalogue b s s'' where
  listModels datasource := (h'.listModels datasource).trans (h.listModels datasource)
  getModel name datasource := (h'.getModel name datasource).trans (h.getModel name datasource)
  listDatasources := h'.listDatasources.trans h.listDatasources
  getDatasource name := (h'.getDatasource name).trans (h.getDatasource name)

end SameCatalogue

theorem SameReads.refl {σ : Type} {b : Backend σ} (s : σ) : SameReads b s s :=
  ⟨.refl s, fun _ => rfl, fun _ => rfl, fun _ _ => rfl⟩

/-- What a backend's memory calls keep to, whatever else they do or fail at: its rows have
ids of their own, a read returns rows, a save adds at most its row, and a deletion takes
at most the row it names. -/
structure MemoryTable {σ : Type} (b : Backend σ) where
  rows : σ → List Memory
  distinct : ∀ s, ((rows s).map (·.id)).Nodup
  save : ∀ s m, ∀ row ∈ rows (b.saveMemory s m).2, row = m ∨ row ∈ rows s
  get : ∀ s id m, b.getMemory s id = .ok (some m) → m ∈ rows s ∧ m.id = id
  list : ∀ s filter ms, b.listMemories s filter = .ok ms → ∀ m ∈ ms, m ∈ rows s
  delete : ∀ s id, ∀ row ∈ rows s, row.id ≠ id → row ∈ rows (b.deleteMemory s id).2

end GraphNight
