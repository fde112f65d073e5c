import GraphNight.Runtime.Governance
import GraphNight.Sql.WhereClause

/-!
# Forced filters and row-level security in the statement

A policy's filters are appended to the caller's and rendered into one flat WHERE
clause. Whether a row that passes the clause satisfies them depends on the
caller's OR flags: every AND-run of the merged list has to contain them.
-/

namespace GraphNight

open PolicyEnforcer

/-- Two filters compare the same column by the same operator with the same operands. -/
structure SameComparison (g : SqlGenerator) (sourceAlias baseModelName : String) (f f' : Filter) : Prop where
  column : g.qualifyField baseModelName f.field sourceAlias = g.qualifyField baseModelName f'.field sourceAlias
  operator : f.operator = f'.operator
  operands : f.operands = f'.operands

/-- Every row that passes the clause satisfies every filter of the policy. -/
def PolicyHolds (g : SqlGenerator) (d : Dialect) (sourceAlias baseModelName : String) (policy : SessionPolicy)
    (params : List Value) (clause : Option SqlText) : Prop :=
  ∀ ρ : SqlText → Truth, Passes ρ params clause →
    ∀ f ∈ policyFilters policy, ρ (g.filterPredicate d sourceAlias baseModelName f) = .yes

/-- Every AND-run of a list of filters contains every filter of the policy. -/
def RunsContainPolicy (g : SqlGenerator) (sourceAlias baseModelName : String) (policy : SessionPolicy)
    (filters : List Filter) : Prop :=
  ∀ run ∈ andRuns filters, ∀ f ∈ policyFilters policy,
    ∃ f' ∈ run, SameComparison g sourceAlias baseModelName f' f

section

variable {g : SqlGenerator} {d : Dialect} {sourceAlias baseModelName : String} {policy : SessionPolicy}
  {query : Query} {mode : ValueMode} {params : List Value} {clause : Option SqlText}

theorem filterPredicate_eq_iff {f f' : Filter} (hf : Buildable d f) (hf' : Buildable d f') :
    g.filterPredicate d sourceAlias baseModelName f = g.filterPredicate d sourceAlias baseModelName f' ↔
      SameComparison g sourceAlias baseModelName f f' := by
  unfold SqlGenerator.filterPredicate
  rw [predicate_inj (columnText_qualifyField g _ _ _) (columnText_qualifyField g _ _ _) hf hf']
  exact ⟨fun ⟨hc, ho, hv⟩ => ⟨hc, ho, hv⟩, fun ⟨hc, ho, hv⟩ => ⟨hc, ho, hv⟩⟩

/-- A merged list without an OR after its first filter contains the policy in its one run. -/
theorem runsContainPolicy_of_and {filters : List Filter}
    (hsub : ∀ f ∈ policyFilters policy, f ∈ filters) (hand : ∀ f ∈ filters.tail, f.orCondition = false) :
    RunsContainPolicy g sourceAlias baseModelName policy filters := by
  cases filters with
  | nil => intro run hrun; cases hrun
  | cons first rest =>
    intro run hrun f hf
    have hone : andRuns (first :: rest) = [first :: rest] := by
      rw [andRuns, FlatCondition.groups_of_all_and]
      · simp [flatFilters, Function.comp_def]
      · intro p hp
        obtain ⟨f', hf', rfl⟩ := List.mem_map.1 hp
        simp [Filter.connective, hand f' hf']
    rw [hone, List.mem_singleton] at hrun
    exact ⟨f, hrun ▸ hsub f hf, rfl, rfl, rfl⟩

end

/-! ## A caller's OR -/

namespace OrFilter

/-- A model with a tenant column. -/
def orders : Model where
  name := "orders"
  datasource := "warehouse"
  dimensions := [⟨"status", none⟩, ⟨"region", none⟩, ⟨"tenant_id", none⟩]

/-- An engine's generator that knows the model; its formulas are ASCII. -/
def generator : SqlGenerator := (SqlGenerator.new .postgres ⟨fun _ => false, fun _ => false⟩).withModels [orders]

def tenant : Filter := ⟨"tenant_id", .eq, .string "t1", false⟩

def status : Filter := ⟨"status", .eq, .string "open", false⟩

/-- `OR region = 'eu'`. -/
def region : Filter := ⟨"region", .eq, .string "eu", true⟩

def policy : SessionPolicy := { forcedFilters := [tenant] }

/-- `status = 'open' OR region = 'eu'`, before the policy. -/
def query : Query := { name := some "orders", filters := [status, region] }

/-- The merged query's clause, as it is executed. -/
def clause (query : Query) : Res String (List Value × Option SqlText) :=
  generator.buildWhereClause ((PolicyEnforcer.mk policy).applyRls
    ((PolicyEnforcer.mk policy).applyForcedFilters query)) .postgres "orders" "orders" .placeholder

/-- A row of another tenant whose status is open. -/
def foreignRow (t : SqlText) : Truth :=
  if t = generator.filterPredicate .postgres "orders" "orders" status then .yes else .no

end OrFilter

end GraphNight
