import GraphNight.Core.Models
import GraphNight.Lib.Fault
import GraphNight.Lib.KeyedList

/-!
# Session policies (`graphnight-core/src/security.rs`)
-/

namespace GraphNight

/-- `fn(&str) -> String`; `none` when the function panics. -/
abbrev MaskFn := String → Option String

/-- Session policy for security and governance. -/
structure SessionPolicy where
  /-- Forced filters that are always applied. -/
  forcedFilters : List Filter := []
  /-- Allowed models (whitelist). -/
  allowedModels : Option (List String) := none
  /-- Denied models (blacklist). -/
  deniedModels : Option (List String) := none
  /-- Column masks for PII. -/
  columnMasks : KeyedList (String × MaskFn) Prod.fst := .empty
  /-- Row-level security filter. -/
  rowFilter : Option Filter := none
  /-- Maximum rows to return. -/
  maxRows : Option Nat := some 10000
  /-- Allowed datasources. -/
  allowedDatasources : Option (List String) := none
  /-- Query timeout in seconds. -/
  queryTimeoutSecs : Option Nat := some 300

/-- Policy enforcement. -/
structure PolicyEnforcer where
  policy : SessionPolicy

namespace PolicyEnforcer

/-- Check if model access is allowed. -/
def checkModelAccess (e : PolicyEnforcer) (modelName : String) : Res String Unit :=
  if e.policy.allowedModels.any fun allowed => !allowed.contains modelName then
    Res.fail ("Model '" ++ modelName ++ "' not in allowed list")
  else if e.policy.deniedModels.any fun denied => denied.contains modelName then
    Res.fail ("Model '" ++ modelName ++ "' is denied")
  else .ok ()

/-- Check if datasource access is allowed. -/
def checkDatasourceAccess (e : PolicyEnforcer) (datasource : String) : Res String Unit :=
  if e.policy.allowedDatasources.any fun allowed => !allowed.contains datasource then
    Res.fail ("Datasource '" ++ datasource ++ "' not in allowed list")
  else .ok ()

/-- Apply forced filters to query. -/
def applyForcedFilters (e : PolicyEnforcer) (query : Query) : Query :=
  { query with filters := query.filters ++ e.policy.forcedFilters }

/-- Apply row-level security. -/
def applyRls (e : PolicyEnforcer) (query : Query) : Query :=
  match e.policy.rowFilter with
  | some rlsFilter => { query with filters := query.filters ++ [rlsFilter] }
  | none => query

/-- Enforce row limit. -/
def enforceRowLimit (e : PolicyEnforcer) (query : Query) : Query :=
  let maxRows := e.policy.maxRows.getD 10000
  match query.limit with
  | some limit => if limit > maxRows then { query with limit := some maxRows } else query
  | none => { query with limit := some maxRows }

/-- A model passes exactly when it is on the whitelist, if there is one, and not
on the blacklist. -/
theorem checkModelAccess_ok_iff {e : PolicyEnforcer} {modelName : String} :
    e.checkModelAccess modelName = .ok () ↔
      (∀ allowed, e.policy.allowedModels = some allowed → modelName ∈ allowed) ∧
        ∀ denied, e.policy.deniedModels = some denied → modelName ∉ denied := by
  unfold checkModelAccess
  cases e.policy.allowedModels <;> cases e.policy.deniedModels <;> simp [Res.fail]
  split <;> simp_all

theorem checkModelAccess_cases (e : PolicyEnforcer) (modelName : String) :
    e.checkModelAccess modelName = .ok () ∨ ∃ reason, e.checkModelAccess modelName = Res.fail reason := by
  unfold checkModelAccess
  split_ifs
  · exact .inr ⟨_, rfl⟩
  · exact .inr ⟨_, rfl⟩
  · exact .inl rfl

theorem checkDatasourceAccess_ok_iff {e : PolicyEnforcer} {datasource : String} :
    e.checkDatasourceAccess datasource = .ok () ↔
      ∀ allowed, e.policy.allowedDatasources = some allowed → datasource ∈ allowed := by
  unfold checkDatasourceAccess
  cases e.policy.allowedDatasources <;> simp [Res.fail]

/-- The filters a policy adds, in the order it adds them. -/
def policyFilters (p : SessionPolicy) : List Filter := p.forcedFilters ++ p.rowFilter.toList

theorem applyRls_applyForcedFilters (e : PolicyEnforcer) (query : Query) :
    e.applyRls (e.applyForcedFilters query) =
      { query with filters := query.filters ++ policyFilters e.policy } := by
  cases h : e.policy.rowFilter <;>
    simp [applyRls, applyForcedFilters, policyFilters, h, List.append_assoc]

end PolicyEnforcer

/-- Audit log entry, without its clock readings. -/
structure AuditEntry where
  userId : Option String
  tenantId : Option String
  action : String
  model : Option String
  rowCount : Option Nat
  success : Bool
  error : Option String
deriving DecidableEq, Repr

end GraphNight
