import GraphNight.GraphQl.Resolvers
import GraphNight.Storage.Backend

/-!
# The GraphQL fields over the catalogue and the memories (`graphnight-graphql/src/resolvers.rs`)

Each hands the answer of storage on. Times are the stored ones, not their text.
-/

namespace GraphNight

/-- `i32 as usize`. -/
def i32AsUsize (i : Int) : Nat := (i % UInt64.size).toNat

structure ModelInfo where
  name : String
  datasource : String
  description : Option String
  measures : List String
  dimensions : List String
  timeDimensions : List String
deriving DecidableEq, Repr

structure DatasourceInfo where
  name : String
  driver : String
  description : Option String
  models : List String
deriving DecidableEq, Repr

/-- A memory as the schema shows it. -/
structure MemoryInfo where
  id : String
  learning : String
  linkedEntities : List String
  description : Option String
  createdAt : Int
  updatedAt : Int
deriving DecidableEq, Repr

structure MemoryFilterInput where
  query : Option String := none
  entity : Option String := none
  limit : Option Int := none
  offset : Option Int := none
deriving DecidableEq, Repr

/-- The filter storage is given. -/
def MemoryFilterInput.filterModel (filter : MemoryFilterInput) : MemoryFilter where
  query := filter.query
  entity := filter.entity
  limit := filter.limit.map i32AsUsize
  offset := filter.offset.map i32AsUsize

namespace GraphQl

def modelInfo (m : StoredModel) : ModelInfo where
  name := m.name
  datasource := m.datasource
  description := m.description
  measures := m.measures.map (·.formula.expression)
  dimensions := m.dimensions.map (·.name)
  timeDimensions := m.timeDimensions.map (·.dimension)

def datasourceInfo (d : StoredDataSource) : DatasourceInfo := ⟨d.name, d.driver, d.description, d.models⟩

def memoryInfo (m : Memory) : MemoryInfo :=
  ⟨m.id, m.learning, m.linkedEntities, m.description, m.createdAt, m.updatedAt⟩

section

variable {σ : Type} (b : Backend σ) (s : σ)

/-- List all models. -/
def models (datasource : Option String) : Res String (List ModelInfo) :=
  (b.listModels s datasource).map (·.map modelInfo)

/-- Get a specific model. -/
def model (name : String) (datasource : Option String) : Res String (Option ModelInfo) :=
  (b.getModel s name datasource).map (·.map modelInfo)

/-- List all datasources. -/
def datasources : Res String (List DatasourceInfo) := (b.listDatasources s).map (·.map datasourceInfo)

/-- Search models. -/
def search (q : String) (limit : Option Int) : Res String (List SearchResult) :=
  b.search s q (i32AsUsize (limit.getD 10))

/-- Inspect a model. -/
def inspect (name datasource : String) : Res String (Option ModelInfo) := model b s name (some datasource)

/-- List memories. -/
def memories (filter : MemoryFilterInput) : Res String (List MemoryInfo) :=
  (b.listMemories s filter.filterModel).map (·.map memoryInfo)

/-- Get a specific memory. -/
def memory (id : String) : Res String (Option MemoryInfo) := (b.getMemory s id).map (·.map memoryInfo)

/-- Delete a memory: whether it was there. -/
def forgetMemory (ctx : GraphQLContext) (id : String) : Res String Bool × σ :=
  match ctx.requireUserIfAuth with
  | .error e => (.error e, s)
  | .ok () => b.deleteMemory s id

end

end GraphQl

end GraphNight
