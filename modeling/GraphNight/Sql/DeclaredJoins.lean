import GraphNight.Sql.Statement
import Mathlib.Data.List.Perm.Lattice

/-!
# Which declared joins a statement makes

A statement is asked for the targets of the joins its source declares, not for the
joins themselves: a target gets one clause, made from the first link the registry
has to it, and the source itself gets none.
-/

namespace GraphNight

open SqlText

/-- The ON condition for pairs of columns of two aliases. -/
def pairsText (left right : String) (pairs : List (String × String)) : SqlText :=
  join " AND " (pairs.map fun p => qualified left p.1 ++ code " = " ++ qualified right p.2)

/-- The clause of a declared join: its own target, type, alias and pairs of columns. -/
def declaredClause (sourceAlias : String) (j : Join) : JoinClause where
  joinType := j.joinType.sqlKeyword
  table := j.model
  aliasName := JoinWalker.targetAlias j
  on := pairsText sourceAlias (JoinWalker.targetAlias j) j.on

/-- Every declared join has one clause of its own, and no clause is without one. -/
def NoJoinLost (m : Model) (sourceAlias : String) (plan : LogicalPlan) : Prop :=
  plan.joins.Perm (m.joins.map (declaredClause sourceAlias))

/-- What the walker asks of the joins a model declares: different targets, none of them
the model itself, and for each a first link in the registry that is written like the
join. Another model's join back to the source, registered earlier, is such a link too. -/
structure JoinsApart (models : List Model) (m : Model) (sourceAlias : String) : Prop where
  targets : (m.joins.map (·.model)).Nodup
  notSelf : ∀ j ∈ m.joins, j.model ≠ m.name
  first : ∀ j ∈ m.joins, ∀ e, JoinGraph.firstLink models m.name j.model = some e →
    writtenClause sourceAlias e = declaredClause sourceAlias j

namespace SqlGenerator

section

variable {g : SqlGenerator} {query : Query} {out : GeneratedSql} {m : Model} {sourceAlias : String}
  {plan : LogicalPlan}

/-- The clauses of a statement name the targets of its links. -/
theorem Statement.tables_eq (h : g.Statement query out m sourceAlias plan) :
    plan.joins.map (·.table) = (statementLinks g.modelRegistry.items m).map (·.targetModel) := by
  rw [h.joins_eq, List.map_map]
  refine List.map_congr_left fun e he => ?_
  exact JoinGraph.join_model_of_mem (JoinGraph.mem_of_firstLink (mem_statementLinks.1 he).2.2)

/-- A clause that is a declared join's own comes from the first link to its target. -/
theorem Statement.link_of_declaredClause (h : g.Statement query out m sourceAlias plan) {j : Join}
    (hclause : declaredClause sourceAlias j ∈ plan.joins) :
    ∃ e, JoinGraph.firstLink g.modelRegistry.items m.name j.model = some e ∧
      writtenClause sourceAlias e = declaredClause sourceAlias j := by
  rw [h.joins_eq] at hclause
  obtain ⟨e, he, hwritten⟩ := List.mem_map.1 hclause
  obtain ⟨-, -, hlink⟩ := mem_statementLinks.1 he
  have htable : e.join.model = j.model := congrArg JoinClause.table hwritten
  have htarget : e.targetModel = j.model := by
    rw [← htable, JoinGraph.join_model_of_mem (JoinGraph.mem_of_firstLink hlink)]
  exact ⟨e, htarget ▸ hlink, hwritten⟩

/-- **No declared join is lost** exactly when the declared joins lie apart. -/
theorem noJoinLost_iff (h : g.Statement query out m sourceAlias plan) :
    NoJoinLost m sourceAlias plan ↔ JoinsApart g.modelRegistry.items m sourceAlias := by
  have htables : (m.joins.map (declaredClause sourceAlias)).map (·.table) = m.joins.map (·.model) := by
    rw [List.map_map]
    rfl
  constructor
  · intro hperm
    have htargets : ((statementLinks g.modelRegistry.items m).map (·.targetModel)).Perm (m.joins.map (·.model)) := by
      rw [← h.tables_eq, ← htables]
      exact hperm.map _
    have hclause : ∀ j ∈ m.joins, declaredClause sourceAlias j ∈ plan.joins := fun j hj =>
      hperm.mem_iff.2 (List.mem_map_of_mem hj)
    refine ⟨htargets.nodup_iff.1 (nodup_statementLinks _ _), fun j hj => ?_, fun j hj e he => ?_⟩
    · have hmem : j.model ∈ (statementLinks g.modelRegistry.items m).map (·.targetModel) :=
        htargets.mem_iff.2 (List.mem_map_of_mem hj)
      obtain ⟨e, he, htarget⟩ := List.mem_map.1 hmem
      rw [← htarget]
      exact (mem_statementLinks.1 he).1
    · obtain ⟨e', he', hwritten⟩ := h.link_of_declaredClause (hclause j hj)
      obtain rfl := Option.some.inj (he.symm.trans he')
      exact hwritten
  · intro hapart
    have hplan : plan.joins.Nodup := by
      apply List.Nodup.of_map (·.table)
      rw [h.tables_eq]
      exact nodup_statementLinks _ _
    have hdeclared : (m.joins.map (declaredClause sourceAlias)).Nodup := by
      apply List.Nodup.of_map (·.table)
      rw [htables]
      exact hapart.targets
    refine (List.perm_ext_iff_of_nodup hplan hdeclared).2 fun c => ?_
    rw [h.joins_eq, List.mem_map, List.mem_map]
    constructor
    · rintro ⟨e, he, rfl⟩
      obtain ⟨-, ⟨j, hj, htarget⟩, hlink⟩ := mem_statementLinks.1 he
      exact ⟨j, hj, (hapart.first j hj e (htarget ▸ hlink)).symm⟩
    · rintro ⟨j, hj, rfl⟩
      obtain ⟨e, hlink⟩ := firstLink_of_declared h.mem_models hj
      have htarget := JoinGraph.target_of_firstLink hlink
      refine ⟨e, mem_statementLinks.2 ⟨?_, ⟨j, hj, htarget.symm⟩, htarget ▸ hlink⟩, hapart.first j hj e hlink⟩
      rw [htarget]
      exact hapart.notSelf j hj

end

/-! ## Two roles of one table -/

namespace RolePlaying

/-- The two foreign keys of a flight to the airports. -/
def origin : Join := ⟨"origin", "airports", .left, [("origin_id", "id")], some "origin"⟩

def destination : Join := ⟨"destination", "airports", .left, [("destination_id", "id")], some "destination"⟩

def flights (joins : List Join) : Model where
  name := "flights"
  datasource := "warehouse"
  dimensions := [⟨"carrier", none⟩]
  joins := joins

def airports : Model := { name := "airports", datasource := "warehouse", dimensions := [⟨"city", none⟩] }

def generator (joins : List Join) : SqlGenerator :=
  (new .postgres ⟨fun _ => false, fun _ => false⟩).withModels [flights joins, airports]

def query : Query := { name := some "flights", dimensions := [⟨"carrier", none⟩] }

end RolePlaying

open RolePlaying in
/-- The second role has no clause. -/
theorem role_playing_join_lost : ∃ out plan,
    (generator [origin, destination]).Statement query out (flights [origin, destination]) "flights" plan ∧
      out.sql = "SELECT flights.\"carrier\" AS \"carrier\" FROM \"flights\" \"flights\"  " ++
        "LEFT JOIN \"airports\" \"origin\" ON flights.\"origin_id\" = origin.\"id\"  " ++
        "GROUP BY flights.\"carrier\"" ∧
      ¬NoJoinLost (flights [origin, destination]) "flights" plan := by
  refine ⟨_, _, ⟨rfl, rfl, rfl, rfl⟩, by decide +kernel, fun hperm => ?_⟩
  exact absurd hperm.length_eq (by decide)

open RolePlaying in
/-- With one role its clause is there. -/
theorem noJoinLost_iff_one_role : ∃ out plan,
    (generator [origin]).Statement query out (flights [origin]) "flights" plan ∧
      NoJoinLost (flights [origin]) "flights" plan := by
  have hstatement : ∃ out plan, (generator [origin]).Statement query out (flights [origin]) "flights" plan :=
    ⟨_, _, rfl, rfl, rfl, rfl⟩
  obtain ⟨out, plan, h⟩ := hstatement
  refine ⟨out, plan, h, (noJoinLost_iff h).2 ⟨by decide, by decide, ?_⟩⟩
  intro j hj e he
  obtain rfl := List.mem_singleton.1 hj
  obtain rfl := Option.some.inj he
  decide +kernel

end SqlGenerator

end GraphNight
