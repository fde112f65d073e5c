import GraphNight.Runtime.Governance
import GraphNight.Storage.Backend

/-!
# What the service shows of its storage (`graphnight-runtime/src/governance.rs`)

The catalogue calls of the service, on the state of a backend. They filter what storage
returns by the caller's policy; only `search` asks who the caller is.
-/

namespace GraphNight

/-- A backend in a state, as the execution path sees it. -/
def Backend.execution {σ : Type} (b : Backend σ) (s : σ) : StorageBackend where
  getModel name datasource := (b.getModel s name datasource).map (·.map StoredModel.toModel)
  getDatasource name := (b.getDatasource s name).map (·.map StoredDataSource.toDataSource)

/-- `usize::saturating_mul`. -/
def usizeSaturatingMul (a b : Nat) : Nat := min (a * b) (UInt64.size - 1)

namespace PolicyEnforcer

/-- The checks of a model's name and of its datasource both pass. -/
def shows (e : PolicyEnforcer) (modelName datasource : String) : Bool :=
  (e.checkModelAccess modelName).toOption.isSome && (e.checkDatasourceAccess datasource).toOption.isSome

end PolicyEnforcer

namespace QueryService

section

variable {σ : Type} (b : Backend σ) (s : σ) (ctx : CallContext)

/-- Models visible to the caller, filtered by its allow and deny lists. -/
def visibleModels (datasource : Option String) : Res ServiceError (List StoredModel) := do
  let models ← (b.listModels s datasource).mapErr ServiceError.storage
  return models.filter fun m => (PolicyEnforcer.mk ctx.sessionPolicy).shows m.name m.datasource

/-- Fetch a model, enforcing access control. -/
def getModel (name : String) (datasource : Option String) : Res ServiceError StoredModel := do
  let enforcer : PolicyEnforcer := ⟨ctx.sessionPolicy⟩
  (enforcer.checkModelAccess name).mapErr ServiceError.policyViolation
  let found ← (b.getModel s name datasource).mapErr ServiceError.storage
  let model ← Res.ofOption (.modelNotFound name) found
  (enforcer.checkDatasourceAccess model.datasource).mapErr ServiceError.policyViolation
  return model

/-- Datasources visible to the caller. -/
def visibleDatasources : Res ServiceError (List StoredDataSource) := do
  let datasources ← (b.listDatasources s).mapErr ServiceError.storage
  return datasources.filter fun d =>
    ((PolicyEnforcer.mk ctx.sessionPolicy).checkDatasourceAccess d.name).toOption.isSome

/-- Search the model index: the backend is asked for more hits than the caller, because
the ones the policy hides are dropped. -/
def search (query : String) (limit : Nat) : Res ServiceError (List SearchResult) := do
  ctx.requireAuthenticated
  let q := Str.trim query
  if q = "" then Res.fail (.invalidQuery "search query is empty")
  else
    let budget := max (usizeSaturatingMul limit 8) 64
    let hits ← (b.search s q budget).mapErr ServiceError.storage
    return (hits.filter fun h =>
      (PolicyEnforcer.mk ctx.sessionPolicy).shows h.modelName h.datasource).take limit

end

/-- Register a model with the SQL engine so it becomes queryable. -/
def registerModel (s : QueryService) (ctx : CallContext) (model : Model) : Res ServiceError Unit × QueryService :=
  match ctx.requireAdmin with
  | .error e => (.error e, s)
  | .ok () => (.ok (), { s with sqlEngine := s.sqlEngine.registerModel model })

/-- Remove a model from the SQL engine's registry. -/
def unregisterModel (s : QueryService) (ctx : CallContext) (name : String) : Res ServiceError Unit × QueryService :=
  match ctx.requireAdmin with
  | .error e => (.error e, s)
  | .ok () => (.ok (), { s with sqlEngine := s.sqlEngine.unregisterModel name })

end QueryService

end GraphNight
