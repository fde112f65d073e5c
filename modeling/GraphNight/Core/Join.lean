import GraphNight.Core.Models
import GraphNight.Lib.Bfs
import GraphNight.Lib.Fault

/-!
# Join resolution (`graphnight-core/src/join.rs`)

A graph with one forward edge and one reverse edge for every declared join, and
the walker that turns the paths through it into join clauses.
-/

namespace GraphNight

structure JoinEdge where
  targetModel : String
  join : Join
  reverse : Bool
deriving DecidableEq, Repr

/-- Join graph for resolving join paths. The adjacency map is the list of its
pushes: the bucket of a model holds the edges pushed under its name, in order. -/
structure JoinGraph where
  adjacency : List (String × JoinEdge)

namespace JoinGraph

/-- `adjacency.entry(key).or_default().push(edge)`. -/
def push (g : JoinGraph) (key : String) (edge : JoinEdge) : JoinGraph :=
  ⟨g.adjacency ++ [(key, edge)]⟩

/-- `adjacency.get(key)`. -/
def edges (g : JoinGraph) (key : String) : List JoinEdge :=
  (g.adjacency.filter (·.1 == key)).map (·.2)

/-- The edge of a join to its target. -/
def forwardEdge (join : Join) : JoinEdge := ⟨join.model, join, false⟩

/-- The edge of a join back to the model that declares it. -/
def reverseEdge (name : String) (join : Join) : JoinEdge where
  targetModel := name
  join :=
    { name := join.name ++ "_reverse"
      model := name
      joinType := join.joinType
      on := join.on.map fun p => (p.2, p.1)
      aliasName := none }
  reverse := true

def addModel (g : JoinGraph) (model : Model) : JoinGraph :=
  model.joins.foldl
    (fun g join => (g.push model.name (forwardEdge join)).push join.model (reverseEdge model.name join)) g

def new (models : List Model) : JoinGraph := models.foldl addModel ⟨[]⟩

/-- Find join path between two models. -/
def findPath (g : JoinGraph) (src dst : String) : Res String (List JoinEdge) :=
  if src = dst then .ok []
  else
    match Bfs.search g.edges JoinEdge.targetModel dst (g.adjacency.length + 1) [(src, [])] [src] with
    | some path => .ok path
    | none => Res.fail ("No join path found from " ++ src ++ " to " ++ dst)

/-- The paths to all required models, one after the other. -/
def requiredEdges (g : JoinGraph) (baseModel : String) : List String → Res String (List JoinEdge)
  | [] => .ok []
  | model :: rest => do
    let path ← if model ≠ baseModel then g.findPath baseModel model else .ok []
    let edges ← requiredEdges g baseModel rest
    return path ++ edges

/-- Keep the first edge to each target model. -/
def dedupTargets : List String → List JoinEdge → List JoinEdge
  | _, [] => []
  | seen, edge :: edges =>
    if edge.targetModel ∈ seen then dedupTargets seen edges
    else edge :: dedupTargets (edge.targetModel :: seen) edges

/-- Resolve all joins needed for a query. -/
def resolveJoins (g : JoinGraph) (baseModel : String) (requiredModels : List String) :
    Res String (List JoinEdge) := do
  let allEdges ← g.requiredEdges baseModel requiredModels
  return dedupTargets [] allEdges

end JoinGraph

/-- Join walker for building join SQL. -/
structure JoinWalker where
  graph : JoinGraph

namespace JoinWalker

def new (models : List Model) : JoinWalker := ⟨JoinGraph.new models⟩

/-- One join of a statement, as the walker describes it. -/
structure JoinClause where
  joinType : String
  table : String
  aliasName : String
  on : String
deriving DecidableEq, Repr

/-- The alias a join introduces for its target. -/
def targetAlias (join : Join) : String := join.aliasName.getD join.model

/-- A qualified column on either side of an ON condition. -/
structure OnColumn where
  aliasName : String
  column : String
deriving DecidableEq, Repr

/-- The two sides of the condition for one pair of an edge. -/
def onCondition (baseAlias : String) (edge : JoinEdge) (pair : String × String) : OnColumn × OnColumn :=
  let left := if edge.reverse then ⟨targetAlias edge.join, pair.1⟩ else ⟨baseAlias, pair.1⟩
  let right := if edge.reverse then ⟨baseAlias, pair.2⟩ else ⟨targetAlias edge.join, pair.2⟩
  (left, right)

/-- `"{left_col} = {right_col}"`. -/
def onText (c : OnColumn × OnColumn) : String :=
  c.1.aliasName ++ "." ++ c.1.column ++ " = " ++ (c.2.aliasName ++ "." ++ c.2.column)

/-- The clause of one edge. -/
def clause (baseAlias : String) (edge : JoinEdge) : JoinClause where
  joinType := edge.join.joinType.sqlKeyword
  table := edge.join.model
  aliasName := targetAlias edge.join
  on := Str.join " AND " ((edge.join.on.map (onCondition baseAlias edge)).map onText)

/-- Walk joins and build SQL join clauses. -/
def buildJoinClauses (w : JoinWalker) (baseModel : String) (requiredModels : List String)
    (baseAlias : String) : Res String (List JoinClause) := do
  let edges ← w.graph.resolveJoins baseModel requiredModels
  return edges.map (clause baseAlias)

end JoinWalker

namespace JoinGraph

/-! ## The edges of the graph -/

/-- The pushes one model makes. -/
def modelEdges (model : Model) : List (String × JoinEdge) :=
  model.joins.flatMap fun join =>
    [(model.name, forwardEdge join), (join.model, reverseEdge model.name join)]

/-- The edges out of `key` that `model` declares. -/
def declaredEdges (model : Model) (key : String) : List JoinEdge :=
  ((modelEdges model).filter (·.1 == key)).map (·.2)

theorem adjacency_addModel (g : JoinGraph) (model : Model) :
    (g.addModel model).adjacency = g.adjacency ++ modelEdges model := by
  unfold addModel modelEdges
  induction model.joins generalizing g with
  | nil => simp
  | cons join joins ih =>
    rw [List.foldl_cons, ih]
    simp [push]

theorem adjacency_new (models : List Model) : (new models).adjacency = models.flatMap modelEdges := by
  have h : ∀ (models : List Model) (g : JoinGraph),
      (models.foldl addModel g).adjacency = g.adjacency ++ models.flatMap modelEdges := by
    intro models
    induction models with
    | nil => simp
    | cons model models ih =>
      intro g
      rw [List.foldl_cons, ih, adjacency_addModel, List.flatMap_cons, List.append_assoc]
  simpa [new] using h models ⟨[]⟩

theorem edges_new (models : List Model) (key : String) :
    (new models).edges key = models.flatMap fun m => declaredEdges m key := by
  simp [edges, adjacency_new, declaredEdges, List.filter_flatMap, List.map_flatMap]

theorem mem_declaredEdges {model : Model} {key : String} {edge : JoinEdge} :
    edge ∈ declaredEdges model key ↔ ∃ join ∈ model.joins,
      (model.name = key ∧ edge = forwardEdge join) ∨
        (join.model = key ∧ edge = reverseEdge model.name join) := by
  unfold declaredEdges modelEdges
  constructor
  · intro h
    obtain ⟨⟨k, e⟩, he, rfl⟩ := List.mem_map.1 h
    obtain ⟨hmem, hbeq⟩ := List.mem_filter.1 he
    obtain ⟨join, hjoin, hpush⟩ := List.mem_flatMap.1 hmem
    have hkey : k = key := by simpa using hbeq
    simp only [List.mem_cons, Prod.mk.injEq, List.not_mem_nil, or_false] at hpush
    rcases hpush with ⟨hk, rfl⟩ | ⟨hk, rfl⟩
    · exact ⟨join, hjoin, .inl ⟨hk.symm.trans hkey, rfl⟩⟩
    · exact ⟨join, hjoin, .inr ⟨hk.symm.trans hkey, rfl⟩⟩
  · rintro ⟨join, hjoin, h⟩
    have hmem : ∀ push ∈ [(model.name, forwardEdge join), (join.model, reverseEdge model.name join)],
        push.1 = key → push.2 ∈ ((model.joins.flatMap fun join =>
          [(model.name, forwardEdge join), (join.model, reverseEdge model.name join)]).filter
            (·.1 == key)).map (·.2) := fun push hp hk =>
      List.mem_map_of_mem (List.mem_filter.2 ⟨List.mem_flatMap.2 ⟨join, hjoin, hp⟩, by simpa using hk⟩)
    rcases h with ⟨hk, rfl⟩ | ⟨hk, rfl⟩
    · exact hmem (model.name, forwardEdge join) (by simp) hk
    · exact hmem (join.model, reverseEdge model.name join) (by simp) hk

/-- The join of an edge names the edge's target. -/
theorem join_model_of_mem {models : List Model} {key : String} {edge : JoinEdge}
    (h : edge ∈ (new models).edges key) : edge.join.model = edge.targetModel := by
  rw [edges_new, List.mem_flatMap] at h
  obtain ⟨m, -, hm⟩ := h
  obtain ⟨join, -, ⟨-, rfl⟩ | ⟨-, rfl⟩⟩ := mem_declaredEdges.1 hm <;> rfl

/-! ## Paths -/

/-- `dst` is reached from `src` over `n` joins. -/
abbrev Reaches (g : JoinGraph) (dst : String) (n : Nat) (src : String) : Bool :=
  Bfs.reach g.edges JoinEdge.targetModel dst n src

/-- The shortest join path from `src` to `dst` has `n` joins. -/
abbrev Distance (g : JoinGraph) (dst : String) (n : Nat) (src : String) : Prop :=
  Bfs.Dist g.edges JoinEdge.targetModel dst n src

/-- The path the search picks among the shortest ones. -/
abbrev route (g : JoinGraph) (dst : String) (n : Nat) (src : String) : List JoinEdge :=
  Bfs.route g.edges JoinEdge.targetModel dst n src

/-- Every edge's target is on the push list, which bounds the search. -/
theorem target_mem (g : JoinGraph) (v : String) :
    ∀ e ∈ g.edges v, e.targetModel ∈ g.adjacency.map (·.2.targetModel) := by
  intro e he
  simp only [edges, List.mem_map, List.mem_filter] at he ⊢
  obtain ⟨a, ⟨ha, -⟩, rfl⟩ := he
  exact ⟨a, ha, rfl⟩

theorem findPath_of_distance {g : JoinGraph} {src dst : String} {n : Nat} (h : g.Distance dst n src) :
    g.findPath src dst = .ok (g.route dst n src) := by
  unfold findPath
  by_cases heq : src = dst
  · have hn : n = 0 := by
      refine h.unique ⟨?_, fun m hm => absurd hm (by omega)⟩
      simp [Bfs.reach, heq]
    simp [heq, hn, route, Bfs.route]
  · rw [if_neg heq, Bfs.search_eq_route g.target_mem h (by simp)]

theorem findPath_of_unreachable {g : JoinGraph} {src dst : String} (h : ∀ n, g.Reaches dst n src = false) :
    g.findPath src dst = Res.fail ("No join path found from " ++ src ++ " to " ++ dst) := by
  have hne : src ≠ dst := by simpa [Reaches, Bfs.reach] using h 0
  rw [findPath, if_neg hne, Bfs.search_eq_none (by simpa using h)]

/-- A path is found exactly when there is one. -/
theorem findPath_cases (g : JoinGraph) (src dst : String) :
    (∃ n, g.Distance dst n src ∧ g.findPath src dst = .ok (g.route dst n src)) ∨
      ((∀ n, g.Reaches dst n src = false) ∧
        g.findPath src dst = Res.fail ("No join path found from " ++ src ++ " to " ++ dst)) := by
  by_cases h : ∃ n, g.Reaches dst n src = true
  · obtain ⟨n, hn⟩ := h
    obtain ⟨d, hd⟩ := Bfs.exists_dist hn
    exact .inl ⟨d, hd, findPath_of_distance hd⟩
  · have hno : ∀ n, g.Reaches dst n src = false := fun n => by
      simpa using fun hn => h ⟨n, hn⟩
    exact .inr ⟨hno, findPath_of_unreachable hno⟩

/-- **A declared neighbour is one hop away**: the path to it is the first edge
that leads there. -/
theorem findPath_neighbour {g : JoinGraph} {src dst : String} (hne : dst ≠ src)
    (h : ∃ e ∈ g.edges src, e.targetModel = dst) :
    ∃ e, (g.edges src).find? (·.targetModel == dst) = some e ∧ g.findPath src dst = .ok [e] := by
  have hone : g.Distance dst 1 src := by
    obtain ⟨e, he, ht⟩ := h
    refine ⟨Bfs.reach_succ_of_mem he (by simp [Bfs.reach, ht]), fun m hm => ?_⟩
    obtain rfl : m = 0 := by omega
    simp [Bfs.reach, hne.symm]
  obtain ⟨e, -, hfind, -, hroute⟩ := Bfs.route_succ hone.1
  refine ⟨e, ?_, ?_⟩
  · simpa [Bfs.reach, beq_eq_decide] using hfind
  · rw [findPath_of_distance hone, route, hroute]
    rfl

/-! ## Required models -/

/-- Dropping repeated targets drops no target that was not seen before. -/
theorem mem_targets_dedup {seen : List String} {edges : List JoinEdge} {t : String} :
    t ∈ (dedupTargets seen edges).map (·.targetModel) ↔ t ∈ edges.map (·.targetModel) ∧ t ∉ seen := by
  induction edges generalizing seen with
  | nil => simp [dedupTargets]
  | cons e edges ih =>
    simp only [dedupTargets]
    split_ifs with hseen
    · rw [ih, List.map_cons, List.mem_cons]
      constructor
      · rintro ⟨hmem, hnot⟩
        exact ⟨.inr hmem, hnot⟩
      · rintro ⟨rfl | hmem, hnot⟩
        · exact absurd hseen hnot
        · exact ⟨hmem, hnot⟩
    · rw [List.map_cons, List.mem_cons, ih, List.map_cons, List.mem_cons, List.mem_cons]
      by_cases ht : t = e.targetModel
      · simp [ht, hseen]
      · simp [ht]

/-- No two edges that are kept have one target. -/
theorem nodup_dedupTargets (seen : List String) (edges : List JoinEdge) :
    ((dedupTargets seen edges).map (·.targetModel)).Nodup := by
  induction edges generalizing seen with
  | nil => exact List.nodup_nil
  | cons e edges ih =>
    simp only [dedupTargets]
    split_ifs
    · exact ih seen
    · rw [List.map_cons, List.nodup_cons, mem_targets_dedup]
      exact ⟨fun hmem => hmem.2 List.mem_cons_self, ih _⟩

theorem dedupTargets_sublist (seen : List String) (edges : List JoinEdge) :
    (dedupTargets seen edges).Sublist edges := by
  induction edges generalizing seen with
  | nil => exact List.Sublist.refl _
  | cons e edges ih =>
    simp only [dedupTargets]
    split_ifs
    · exact (ih seen).cons e
    · exact (ih _).cons_cons e

/-- **Required neighbours**: where every required model is a neighbour of the base, the
edges found lead out of the base, to each required model but the base itself. -/
theorem resolveJoins_neighbours {g : JoinGraph} {base : String} {required : List String}
    (h : ∀ dst ∈ required, dst ≠ base → ∃ e ∈ g.edges base, e.targetModel = dst) :
    ∃ edges, g.resolveJoins base required = .ok edges ∧ (∀ e ∈ edges, e ∈ g.edges base) ∧
      ∀ t, t ∈ edges.map (·.targetModel) ↔ t ∈ required ∧ t ≠ base := by
  have hpaths : ∃ edges, g.requiredEdges base required = .ok edges ∧ (∀ e ∈ edges, e ∈ g.edges base) ∧
      ∀ t, t ∈ edges.map (·.targetModel) ↔ t ∈ required ∧ t ≠ base := by
    induction required with
    | nil => exact ⟨[], rfl, by simp, by simp⟩
    | cons dst required ih =>
      obtain ⟨edges, hedges, hout, htargets⟩ := ih fun d hd => h d (List.mem_cons_of_mem _ hd)
      by_cases hbase : dst = base
      · refine ⟨edges, ?_, hout, fun t => ?_⟩
        · simp [requiredEdges, hbase, hedges, bind, Except.bind, pure, Except.pure]
        · rw [htargets, List.mem_cons]
          constructor
          · rintro ⟨hmem, hne⟩
            exact ⟨.inr hmem, hne⟩
          · rintro ⟨rfl | hmem, hne⟩
            · exact absurd hbase hne
            · exact ⟨hmem, hne⟩
      · obtain ⟨e, hfind, hpath⟩ := findPath_neighbour hbase (h dst (by simp) hbase)
        have htarget : e.targetModel = dst := by simpa using List.find?_some hfind
        refine ⟨e :: edges, ?_, ?_, fun t => ?_⟩
        · simp [requiredEdges, hbase, hpath, hedges, bind, Except.bind, pure, Except.pure]
        · exact List.forall_mem_cons.2 ⟨List.mem_of_find?_eq_some hfind, hout⟩
        · rw [List.map_cons, List.mem_cons, htargets, List.mem_cons, htarget]
          constructor
          · rintro (rfl | ⟨hmem, hne⟩)
            · exact ⟨.inl rfl, hbase⟩
            · exact ⟨.inr hmem, hne⟩
          · rintro ⟨rfl | hmem, hne⟩
            · exact .inl rfl
            · exact .inr ⟨hmem, hne⟩
  obtain ⟨edges, hedges, hout, htargets⟩ := hpaths
  refine ⟨dedupTargets [] edges, ?_, fun e he => hout e ((dedupTargets_sublist _ _).mem he), fun t => ?_⟩
  · simp [resolveJoins, hedges, bind, Except.bind, pure, Except.pure]
  · rw [mem_targets_dedup, htargets]
    simp

/-- A declared join is an edge out of the model that declares it. -/
theorem declared_edge {models : List Model} {model : Model} {join : Join} (hmodel : model ∈ models)
    (hjoin : join ∈ model.joins) : forwardEdge join ∈ (new models).edges model.name := by
  rw [edges_new]
  exact List.mem_flatMap.2 ⟨model, hmodel, mem_declaredEdges.2 ⟨join, hjoin, .inl ⟨rfl, rfl⟩⟩⟩

end JoinGraph

end GraphNight
