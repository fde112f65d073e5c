import GraphNight.Core.Secrets
import GraphNight.GraphQl.Catalog
import GraphNight.Sql.Introspection

/-!
# The GraphQL mutations of models and datasources (`graphnight-graphql/src/resolvers.rs`)

Each changes the store alone: the engine's registry is not theirs to touch. Inputs are as
the schema has converted them. Dropping the engine's cached rows is left out.
-/

namespace GraphNight

namespace GraphQLContext

/-- Require an admin user. -/
def requireAdmin (ctx : GraphQLContext) : Res String String :=
  if ctx.isAdmin then ctx.requireUser else Res.fail "Admin privileges required"

/-- Admin gate that only applies when the server is in auth-required mode. -/
def requireAdminIfAuth (ctx : GraphQLContext) : Res String Unit :=
  if ctx.authRequired then ctx.requireAdmin.map fun _ => () else .ok ()

end GraphQLContext

namespace GraphQl

structure CreateModelInput where
  name : String
  datasource : String
  description : Option String := none
  measures : List Measure
  dimensions : List Dimension
  timeDimensions : List TimeDimension
  joins : Option (List Join) := none
deriving DecidableEq, Repr

structure UpdateModelInput where
  description : Option String := none
  measures : Option (List Measure) := none
  dimensions : Option (List Dimension) := none
  timeDimensions : Option (List TimeDimension) := none
  joins : Option (List Join) := none
deriving DecidableEq, Repr

structure CreateDatasourceInput where
  name : String
  driver : String
  connectionString : String
  description : Option String := none
  poolSize : Option Int := none
deriving DecidableEq, Repr

structure UpdateDatasourceInput where
  description : Option String := none
  connectionString : Option String := none
  poolSize : Option Int := none
deriving DecidableEq, Repr

structure IngestionReport where
  modelsCreated : Nat := 0
  modelsUpdated : Nat := 0
  errors : List String := []
deriving DecidableEq, Repr

/-- What a mutation asks of the process: its environment, letter case, and what a
datasource's catalogue lists. -/
structure MutationHost where
  env : Environment
  letters : LetterCase
  introspect : StoredDataSource → Res String (List TableInfo)

/-- `i32 as u32`. -/
def i32AsU32 (i : Int) : Nat := (i % UInt32.size).toNat

/-- The model `create_model` stores. -/
def newModel (input : CreateModelInput) : StoredModel :=
  { name := input.name
    datasource := input.datasource
    description := input.description
    measures := input.measures
    dimensions := input.dimensions
    timeDimensions := input.timeDimensions
    joins := input.joins.getD [] }

/-- A model with the supplied fields changed. -/
def changeModel (model : StoredModel) (input : UpdateModelInput) : StoredModel :=
  { model with
    description := input.description.or model.description
    measures := input.measures.getD model.measures
    dimensions := input.dimensions.getD model.dimensions
    timeDimensions := input.timeDimensions.getD model.timeDimensions
    joins := input.joins.getD model.joins }

/-- The datasource `create_datasource` stores. -/
def newDatasource (input : CreateDatasourceInput) : StoredDataSource :=
  { name := input.name
    driver := input.driver
    connectionString := input.connectionString
    description := input.description
    poolSize := input.poolSize.map i32AsU32 }

/-- A datasource with the supplied fields changed. -/
def changeDatasource (ds : StoredDataSource) (input : UpdateDatasourceInput) : StoredDataSource :=
  { ds with
    description := input.description.or ds.description
    connectionString := input.connectionString.getD ds.connectionString
    poolSize := (input.poolSize.map i32AsU32).or ds.poolSize }

/-- Count a storage call, or note what it failed with. -/
def IngestionReport.note {α : Type} (report counted : IngestionReport) (called : Res String α)
    (message : String → String) : Res String IngestionReport :=
  match called with
  | .ok _ => .ok counted
  | .error (.err e) => .ok { report with errors := report.errors ++ [message e] }
  | .error .panic => .error .panic

section

variable {σ : Type} (b : Backend σ) (s : σ) (ctx : GraphQLContext)

/-- Create a new model. -/
def createModel (input : CreateModelInput) : Res String ModelInfo × σ :=
  match ctx.requireAdminIfAuth with
  | .error e => (.error e, s)
  | .ok () =>
    let (created, s) := b.createModel s (newModel input)
    (created.map modelInfo, s)

/-- The stored model that is to change. -/
def readModel (name : String) : Res String StoredModel :=
  b.getModel s name none >>= Res.ofOption ("Model not found: " ++ name)

/-- Update a model. -/
def updateModel (name : String) (input : UpdateModelInput) : Res String ModelInfo × σ :=
  match ctx.requireAdminIfAuth >>= fun _ => readModel b s name with
  | .error e => (.error e, s)
  | .ok model =>
    let (updated, s) := b.updateModel s name (changeModel model input)
    (updated.map modelInfo, s)

/-- Delete a model: whether it was there. -/
def deleteModel (name : String) (datasource : Option String) : Res String Bool × σ :=
  match ctx.requireAdminIfAuth with
  | .error e => (.error e, s)
  | .ok () => b.deleteModel s name datasource

/-- Create a new datasource. -/
def createDatasource (env : Environment) (input : CreateDatasourceInput) : Res String DatasourceInfo × σ :=
  match ctx.requireAdminIfAuth >>= fun _ => Secrets.validateConnectionStringInput env input.connectionString with
  | .error e => (.error e, s)
  | .ok () =>
    let (created, s) := b.createDatasource s (newDatasource input)
    (created.map datasourceInfo, s)

/-- The stored datasource that is to change, or to be introspected. -/
def readDatasource (name : String) : Res String StoredDataSource :=
  b.getDatasource s name >>= Res.ofOption ("Datasource not found: " ++ name)

/-- The datasource an update writes. -/
def planDatasource (env : Environment) (name : String) (input : UpdateDatasourceInput) : Res String StoredDataSource := do
  ctx.requireAdminIfAuth
  let ds ← readDatasource b s name
  match input.connectionString with
  | some connectionString => Secrets.validateConnectionStringInput env connectionString
  | none => .ok ()
  return changeDatasource ds input

/-- Update a datasource. -/
def updateDatasource (env : Environment) (name : String) (input : UpdateDatasourceInput) :
    Res String DatasourceInfo × σ :=
  match planDatasource b s ctx env name input with
  | .error e => (.error e, s)
  | .ok ds =>
    let (updated, s) := b.updateDatasource s name ds
    (updated.map datasourceInfo, s)

/-- Store an inferred model, over one of its name. -/
def ingestModel (report : IngestionReport) (model : StoredModel) : Res String IngestionReport × σ :=
  match b.getModel s model.name none with
  | .ok (some _) =>
    let (updated, s) := b.updateModel s model.name model
    (report.note { report with modelsUpdated := report.modelsUpdated + 1 } updated fun e =>
      "Failed to update model " ++ model.name ++ ": " ++ e, s)
  | .ok none =>
    let (created, s) := b.createModel s model
    (report.note { report with modelsCreated := report.modelsCreated + 1 } created fun e =>
      "Failed to create model: " ++ e, s)
  | .error e => (report.note report (Except.error e : Res String Unit) fun e => "Storage error: " ++ e, s)

/-- Store inferred models one after the other. -/
def ingestAll (b : Backend σ) : List StoredModel → IngestionReport → σ → Res String IngestionReport × σ
  | [], report, s => (.ok report, s)
  | model :: models, report, s =>
    match ingestModel b s report model with
    | (.ok report, s) => ingestAll b models report s
    | (.error e, s) => (.error e, s)

/-- What is read of a datasource before anything is stored: the models of its tables. -/
def inferModels (host : MutationHost) (datasource : String) : Res String (List StoredModel) := do
  ctx.requireAdminIfAuth
  let ds ← readDatasource b s datasource
  let tables ← (host.introspect ds).mapErr fun e => "Introspection failed: " ++ e
  return tables.map fun table => Introspection.inferModelFromTable host.letters table datasource tables

/-- Ingest models from a datasource via warehouse introspection. -/
def ingestModels (host : MutationHost) (datasource : String) : Res String IngestionReport × σ :=
  match inferModels b s ctx host datasource with
  | .error e => (.error e, s)
  | .ok models => ingestAll b models {} s

end

/-- A mutation of models or datasources. -/
inductive Mutation where
  | createModel (input : CreateModelInput)
  | updateModel (name : String) (input : UpdateModelInput)
  | deleteModel (name : String) (datasource : Option String)
  | createDatasource (input : CreateDatasourceInput)
  | updateDatasource (name : String) (input : UpdateDatasourceInput)
  | ingestModels (datasource : String)
deriving DecidableEq, Repr

inductive MutationReply where
  | model (info : ModelInfo)
  | deleted (found : Bool)
  | datasource (info : DatasourceInfo)
  | report (report : IngestionReport)
deriving DecidableEq, Repr

/-- The field of the mutation root. -/
def Mutation.run {σ : Type} (b : Backend σ) (host : MutationHost) (ctx : GraphQLContext) (s : σ) :
    Mutation → Res String MutationReply × σ
  | .createModel input => let r := GraphQl.createModel b s ctx input; (r.1.map .model, r.2)
  | .updateModel name input => let r := GraphQl.updateModel b s ctx name input; (r.1.map .model, r.2)
  | .deleteModel name datasource => let r := GraphQl.deleteModel b s ctx name datasource; (r.1.map .deleted, r.2)
  | .createDatasource input => let r := GraphQl.createDatasource b s ctx host.env input; (r.1.map .datasource, r.2)
  | .updateDatasource name input =>
    let r := GraphQl.updateDatasource b s ctx host.env name input; (r.1.map .datasource, r.2)
  | .ingestModels datasource => let r := GraphQl.ingestModels b s ctx host datasource; (r.1.map .report, r.2)

end GraphQl

end GraphNight
