import GraphNight.Core.Join
import Mathlib.Data.List.Find

/-!
# What the ON conditions of a statement mean

A path from the base model is a chain of hops, each from the model reached so far
to the next one. A hop's condition should compare the two models it lies between,
each under the alias the statement gives it.
-/

namespace GraphNight

namespace JoinGraph

/-- One join of a path, with the model it starts at. -/
structure Hop where
  source : String
  edge : JoinEdge
deriving DecidableEq, Repr

/-- The hops of a path that starts at `src`. -/
def hopsFrom : String → List JoinEdge → List Hop
  | _, [] => []
  | src, edge :: path => ⟨src, edge⟩ :: hopsFrom edge.targetModel path

/-- The first hop to each target. -/
def firstHops : List String → List Hop → List Hop
  | _, [] => []
  | seen, hop :: hops =>
    if hop.edge.targetModel ∈ seen then firstHops seen hops
    else hop :: firstHops (hop.edge.targetModel :: seen) hops

/-- The shortest path from `src` to `dst` that takes the first edge closer to `dst`
at every model. -/
def shortestPath (g : JoinGraph) (src dst : String) : Option (List JoinEdge) :=
  ((List.range (g.adjacency.length + 1)).find? fun n => g.Reaches dst n src).map fun n => g.route dst n src

/-- The hops of the joins a statement makes, of which each stands in one clause. -/
def statementHops (g : JoinGraph) (base : String) (required : List String) : List Hop :=
  firstHops [] (required.flatMap fun model => hopsFrom base ((g.shortestPath base model).getD []))

/-! ## The hops of a path -/

theorem map_edge_hopsFrom (src : String) (path : List JoinEdge) : (hopsFrom src path).map (·.edge) = path := by
  induction path generalizing src with
  | nil => rfl
  | cons edge path ih => rw [hopsFrom, List.map_cons, ih]

theorem map_edge_firstHops (seen : List String) (hops : List Hop) :
    (firstHops seen hops).map (·.edge) = dedupTargets seen (hops.map (·.edge)) := by
  induction hops generalizing seen with
  | nil => rfl
  | cons hop hops ih =>
    simp only [firstHops, List.map_cons, dedupTargets]
    split_ifs with hseen
    · exact ih seen
    · rw [List.map_cons, ih]

theorem firstHops_sublist (seen : List String) (hops : List Hop) : (firstHops seen hops).Sublist hops := by
  induction hops generalizing seen with
  | nil => exact List.Sublist.refl _
  | cons hop hops ih =>
    simp only [firstHops]
    split_ifs
    · exact (ih seen).cons hop
    · exact (ih _).cons_cons hop

/-- A hop starts where its edge does: at the start of the path, or where an edge of
the path leads. -/
theorem hop_of_walk {g : JoinGraph} {src dst : String} {path : List JoinEdge}
    (h : Bfs.Walk g.edges JoinEdge.targetModel src path dst) : ∀ hop ∈ hopsFrom src path,
      hop.edge ∈ g.edges hop.source ∧ (hop.source = src ∨ hop.source ∈ path.map (·.targetModel)) := by
  induction path generalizing src with
  | nil => simp [hopsFrom]
  | cons edge path ih =>
    obtain ⟨hedge, hrest⟩ := h
    intro hop hmem
    rcases List.mem_cons.1 hmem with rfl | hmem
    · exact ⟨hedge, .inl rfl⟩
    · obtain ⟨hout, hsource⟩ := ih hrest hop hmem
      refine ⟨hout, .inr ?_⟩
      rw [List.map_cons, List.mem_cons]
      exact hsource

theorem shortestPath_of_distance {g : JoinGraph} {src dst : String} {n : Nat} (h : g.Distance dst n src) :
    g.shortestPath src dst = some (g.route dst n src) := by
  have hbound : n ≤ g.adjacency.length := by
    have hle := Bfs.Dist.le_length g.target_mem h
    rwa [List.length_map] at hle
  have hfind : (List.range (g.adjacency.length + 1)).find? (fun n => g.Reaches dst n src) = some n := by
    rw [List.find?_range_eq_some]
    refine ⟨h.1, List.mem_range.2 (by omega), fun m hm => ?_⟩
    simpa using h.2 m hm
  rw [shortestPath, hfind, Option.map_some]

/-- The search finds the shortest path of first edges. -/
theorem findPath_eq_ok {g : JoinGraph} {src dst : String} {path : List JoinEdge} :
    g.findPath src dst = .ok path → g.shortestPath src dst = some path ∧
      Bfs.Walk g.edges JoinEdge.targetModel src path dst := by
  intro h
  rcases findPath_cases g src dst with ⟨n, hn, hfound⟩ | ⟨-, hnone⟩
  · obtain rfl : g.route dst n src = path := Except.ok.inj (hfound.symm.trans h)
    exact ⟨shortestPath_of_distance hn, Bfs.walk_route hn.1⟩
  · rw [hnone] at h
    cases h

/-- The paths to all required models; that to the base itself is empty. -/
theorem requiredEdges_cons (g : JoinGraph) (base model : String) (required : List String) :
    g.requiredEdges base (model :: required) = (g.findPath base model >>= fun path =>
      g.requiredEdges base required >>= fun edges => pure (path ++ edges)) := by
  by_cases heq : model = base
  · rw [requiredEdges, if_neg (by simpa using heq), heq, findPath, if_pos rfl]
  · rw [requiredEdges, if_pos heq]

/-- The hops of all required paths, and where each starts. -/
theorem requiredEdges_eq_ok {g : JoinGraph} {base : String} {required : List String} {edges : List JoinEdge}
    (h : g.requiredEdges base required = .ok edges) :
    let hops := required.flatMap fun model => hopsFrom base ((g.shortestPath base model).getD [])
    hops.map (·.edge) = edges ∧ ∀ hop ∈ hops,
      hop.edge ∈ g.edges hop.source ∧ (hop.source = base ∨ hop.source ∈ hops.map (·.edge.targetModel)) := by
  induction required generalizing edges with
  | nil =>
    cases h
    simp
  | cons model required ih =>
    rw [requiredEdges_cons] at h
    obtain ⟨path, hfound, h⟩ := Res.bind_eq_ok.1 h
    obtain ⟨rest, hrest, h⟩ := Res.bind_eq_ok.1 h
    obtain rfl : path ++ rest = edges := Except.ok.inj h
    obtain ⟨hshort, hwalk⟩ := findPath_eq_ok hfound
    obtain ⟨hedges, hhops⟩ := ih hrest
    have htargets : (hopsFrom base path).map (·.edge.targetModel) = path.map (·.targetModel) := by
      have hmap := congrArg (List.map JoinEdge.targetModel) (map_edge_hopsFrom base path)
      rwa [List.map_map] at hmap
    simp only [List.flatMap_cons, hshort, Option.getD_some, List.map_append, map_edge_hopsFrom, hedges, htargets,
      true_and]
    intro hop hmem
    rcases List.mem_append.1 hmem with hmem | hmem
    · obtain ⟨hout, hsource⟩ := hop_of_walk hwalk hop hmem
      exact ⟨hout, hsource.imp_right (List.mem_append_left _)⟩
    · obtain ⟨hout, hsource⟩ := hhops hop hmem
      exact ⟨hout, hsource.imp_right (List.mem_append_right _)⟩

/-- **The hops of a statement**: they carry its edges, one each, and start at the base or at
a model that one of them joins. -/
theorem resolveJoins_hops {g : JoinGraph} {base : String} {required : List String} {edges : List JoinEdge}
    (h : g.resolveJoins base required = .ok edges) :
    (g.statementHops base required).map (·.edge) = edges ∧ ∀ hop ∈ g.statementHops base required,
      hop.edge ∈ g.edges hop.source ∧ (hop.source = base ∨ hop.source ∈ edges.map (·.targetModel)) := by
  obtain ⟨all, hall, h⟩ := Res.bind_eq_ok.1 h
  obtain rfl : dedupTargets [] all = edges := Except.ok.inj h
  obtain ⟨hedges, hhops⟩ := requiredEdges_eq_ok hall
  constructor
  · rw [statementHops, map_edge_firstHops, hedges]
  · intro hop hmem
    obtain ⟨hout, hsource⟩ := hhops hop ((firstHops_sublist _ _).mem hmem)
    refine ⟨hout, hsource.imp_right fun hsource => ?_⟩
    apply mem_targets_dedup.2
    rw [← hedges, List.map_map]
    exact ⟨hsource, by simp⟩

/-- Which declaration a hop comes from, with the pairs it declares: a column of the
hop's source and one of its target. -/
inductive DeclaredBy (models : List Model) : Hop → List (String × String) → Prop where
  | forward {model : Model} {join : Join} : model ∈ models → join ∈ model.joins →
      DeclaredBy models ⟨model.name, forwardEdge join⟩ join.on
  | reverse {model : Model} {join : Join} : model ∈ models → join ∈ model.joins →
      DeclaredBy models ⟨join.model, reverseEdge model.name join⟩ (join.on.map Prod.swap)

theorem DeclaredBy.pairs_eq {models : List Model} {hop : Hop} {pairs : List (String × String)}
    (h : DeclaredBy models hop pairs) : pairs = hop.edge.join.on := by
  cases h <;> rfl

/-- Every edge comes from a declaration. -/
theorem declaredBy_of_mem {models : List Model} {hop : Hop} (h : hop.edge ∈ (new models).edges hop.source) :
    DeclaredBy models hop hop.edge.join.on := by
  obtain ⟨source, edge⟩ := hop
  rw [edges_new, List.mem_flatMap] at h
  obtain ⟨model, hmodel, hedge⟩ := h
  obtain ⟨join, hjoin, ⟨rfl, rfl⟩ | ⟨rfl, rfl⟩⟩ := mem_declaredEdges.1 hedge
  · exact .forward hmodel hjoin
  · exact .reverse hmodel hjoin

end JoinGraph

namespace JoinWalker

open JoinGraph

/-- The alias a model has in a statement that starts at `base`. -/
def aliasIn (base baseAlias : String) (clauses : List JoinClause) (model : String) : Option String :=
  if model = base then some baseAlias else (clauses.find? (·.table == model)).map (·.aliasName)

/-- The condition compares the two columns, in either order. -/
def Compares (condition : OnColumn × OnColumn) (a b : OnColumn) : Prop :=
  condition = (a, b) ∨ condition = (b, a)

/-- The conditions of a hop's clause compare, pair by pair as declared, the column of
the hop's source under that model's alias with the column of the joined model under the
alias the clause gives it. -/
def HopOriented (models : List Model) (aliasOf : String → Option String) (baseAlias : String) (hop : Hop) : Prop :=
  ∃ pairs sourceAlias, DeclaredBy models hop pairs ∧ aliasOf hop.source = some sourceAlias ∧
    List.Forall₂
      (fun condition pair => Compares condition ⟨sourceAlias, pair.1⟩ ⟨targetAlias hop.edge.join, pair.2⟩)
      (hop.edge.join.on.map (onCondition baseAlias hop.edge)) pairs

/-- Clause by clause, the conditions of a statement are oriented and scoped. -/
def ClausesOriented (models : List Model) (base baseAlias : String) (required : List String)
    (clauses : List JoinClause) : Prop :=
  List.Forall₂
    (fun clause hop => clause = JoinWalker.clause baseAlias hop.edge ∧
      HopOriented models (aliasIn base baseAlias clauses) baseAlias hop)
    clauses ((JoinGraph.new models).statementHops base required)

/-- The alias under which the hops of a statement reach a model. -/
def reachedAs (base baseAlias : String) (hops : List Hop) (model : String) : Option String :=
  if model = base then some baseAlias
  else (hops.find? (·.edge.targetModel == model)).map fun hop => targetAlias hop.edge.join

/-- A hop with columns to compare starts at the model that has the base alias, and one
against the direction of its declaration compares columns of one name. -/
def HopDirect (base baseAlias : String) (hops : List Hop) (hop : Hop) : Prop :=
  ∀ pair ∈ hop.edge.join.on, reachedAs base baseAlias hops hop.source = some baseAlias ∧
    (hop.edge.reverse = true → pair.1 = pair.2 ∨ targetAlias hop.edge.join = baseAlias)

/-- What one pair's condition compares. -/
theorem compares_onCondition {baseAlias sourceAlias : String} {edge : JoinEdge} {pair : String × String} :
    Compares (onCondition baseAlias edge pair) ⟨sourceAlias, pair.1⟩ ⟨targetAlias edge.join, pair.2⟩ ↔
      sourceAlias = baseAlias ∧ (edge.reverse = true → pair.1 = pair.2 ∨ targetAlias edge.join = baseAlias) := by
  obtain ⟨left, right⟩ := pair
  unfold Compares onCondition
  cases edge.reverse with
  | false => grind
  | true => grind

theorem hopOriented_iff {models : List Model} {aliasOf : String → Option String} {baseAlias : String} {hop : Hop}
    (hout : hop.edge ∈ (JoinGraph.new models).edges hop.source) (hsome : (aliasOf hop.source).isSome) :
    HopOriented models aliasOf baseAlias hop ↔
      ∀ pair ∈ hop.edge.join.on, aliasOf hop.source = some baseAlias ∧
        (hop.edge.reverse = true → pair.1 = pair.2 ∨ targetAlias hop.edge.join = baseAlias) := by
  obtain ⟨sourceAlias, hsource⟩ := Option.isSome_iff_exists.1 hsome
  have hpairs : HopOriented models aliasOf baseAlias hop ↔
      ∀ pair ∈ hop.edge.join.on, Compares (onCondition baseAlias hop.edge pair)
        ⟨sourceAlias, pair.1⟩ ⟨targetAlias hop.edge.join, pair.2⟩ := by
    constructor
    · rintro ⟨pairs, sourceAlias', hdeclared, hsource', hconditions⟩
      obtain rfl := hdeclared.pairs_eq
      obtain rfl : sourceAlias = sourceAlias' := Option.some.inj (hsource.symm.trans hsource')
      rwa [List.forall₂_map_left_iff, List.forall₂_same] at hconditions
    · intro hconditions
      refine ⟨_, sourceAlias, declaredBy_of_mem hout, hsource, ?_⟩
      rwa [List.forall₂_map_left_iff, List.forall₂_same]
  rw [hpairs]
  apply forall₂_congr
  intro pair _
  rw [compares_onCondition, hsource, Option.some.injEq]

/-- What a statement calls a model is what its hops call it. -/
theorem aliasIn_eq_reachedAs {models : List Model} {base baseAlias : String} {hops : List Hop}
    (hout : ∀ hop ∈ hops, hop.edge ∈ (JoinGraph.new models).edges hop.source) (model : String) :
    aliasIn base baseAlias (hops.map fun hop => clause baseAlias hop.edge) model =
      reachedAs base baseAlias hops model := by
  have hfind : (hops.map fun hop => clause baseAlias hop.edge).find? (·.table == model) =
      (hops.find? (·.edge.targetModel == model)).map fun hop => clause baseAlias hop.edge := by
    rw [List.find?_map]
    congr 1
    apply List.find?_congr
    intro hop hmem
    show (hop.edge.join.model == model) = (hop.edge.targetModel == model)
    rw [join_model_of_mem (hout hop hmem)]
  rw [aliasIn, reachedAs, hfind, Option.map_map]
  rfl

/-- **ON conditions, oriented and scoped.** The conditions of a statement's clauses compare
the declared columns under the right aliases exactly when every hop that has columns to
compare starts at the model with the base alias, and goes against the direction of its
declaration only over columns of one name. -/
theorem clausesOriented_iff {models : List Model} {base baseAlias : String} {required : List String}
    {clauses : List JoinClause}
    (h : (JoinWalker.new models).buildJoinClauses base required baseAlias = .ok clauses) :
    let hops := (JoinGraph.new models).statementHops base required
    ClausesOriented models base baseAlias required clauses ↔ ∀ hop ∈ hops, HopDirect base baseAlias hops hop := by
  intro hops
  obtain ⟨edges, hedges, h⟩ := Res.bind_eq_ok.1 h
  obtain ⟨hmap, hhops⟩ := resolveJoins_hops hedges
  have hclauses : hops.map (fun hop => clause baseAlias hop.edge) = clauses := by
    have hmapped : hops.map (fun hop => clause baseAlias hop.edge) = edges.map (clause baseAlias) := by
      rw [← hmap, List.map_map]
      rfl
    exact hmapped.trans (Except.ok.inj h)
  have halias := fun model => @aliasIn_eq_reachedAs models base baseAlias hops (fun hop hmem => (hhops hop hmem).1) model
  unfold ClausesOriented
  rw [← hclauses, List.forall₂_map_left_iff, List.forall₂_same]
  apply forall₂_congr
  intro hop hmem
  obtain ⟨hout, hsource⟩ := hhops hop hmem
  have hsome : (reachedAs base baseAlias hops hop.source).isSome := by
    unfold reachedAs
    split_ifs with heq
    · rfl
    · rw [Option.isSome_map, List.find?_isSome]
      have htarget := hsource.resolve_left heq
      rw [← hmap, List.map_map] at htarget
      obtain ⟨hop', hmem', ht⟩ := List.mem_map.1 htarget
      exact ⟨hop', hmem', by simpa using ht⟩
  have horiented := @hopOriented_iff models (reachedAs base baseAlias hops) baseAlias hop hout hsome
  rw [funext halias, and_iff_right rfl, horiented]
  rfl

/-! ## A join declared on the joined model -/

namespace ReverseJoin

def orders : Model := { name := "orders", datasource := "warehouse" }

/-- Customers say how their orders are found. -/
def customers : Model where
  name := "customers"
  datasource := "warehouse"
  joins := [⟨"orders", "orders", .left, [("id", "customer_id")], none⟩]

end ReverseJoin

open ReverseJoin in
/-- The statement looks for customer_id among the customers and for id among the orders. -/
theorem reverse_join_swaps_columns : ∃ clauses,
    (JoinWalker.new [orders, customers]).buildJoinClauses "orders" ["customers"] "o" = .ok clauses ∧
      clauses = [⟨"LEFT JOIN", "customers", "customers", "customers.customer_id = o.id"⟩] ∧
      ¬ClausesOriented [orders, customers] "orders" "o" ["customers"] clauses := by
  refine ⟨_, rfl, by decide, ?_⟩
  have hhops : (JoinGraph.new [orders, customers]).statementHops "orders" ["customers"] =
      [⟨"orders", reverseEdge "customers" ⟨"orders", "orders", .left, [("id", "customer_id")], none⟩⟩] := by
    decide
  intro horiented
  rw [ClausesOriented, hhops] at horiented
  obtain ⟨-, hhop⟩ := (List.forall₂_cons.1 horiented).1
  have hdirect := (hopOriented_iff (by decide) rfl).1 hhop ("customer_id", "id") (by decide)
  exact absurd hdirect (by decide)

open ReverseJoin in
/-- A join the base model declares, under an alias of its own. -/
theorem clausesOriented_iff_forward :
    let join : Join := ⟨"customer", "customers", .left, [("customer_id", "id")], some "cust"⟩
    let models : List Model := [{ orders with joins := [join] }, { customers with joins := [] }]
    ∃ clauses, (JoinWalker.new models).buildJoinClauses "orders" ["customers"] "o" = .ok clauses ∧
      ClausesOriented models "orders" "o" ["customers"] clauses := by
  intro join models
  have hclauses : ∃ clauses, (JoinWalker.new models).buildJoinClauses "orders" ["customers"] "o" = .ok clauses :=
    ⟨_, rfl⟩
  obtain ⟨clauses, hclauses⟩ := hclauses
  refine ⟨clauses, hclauses, (clausesOriented_iff hclauses).2 ?_⟩
  have hhops : (JoinGraph.new models).statementHops "orders" ["customers"] = [⟨"orders", forwardEdge join⟩] := by
    decide
  rw [hhops]
  intro hop hmem pair hpair
  obtain rfl := List.mem_singleton.1 hmem
  exact ⟨rfl, fun hreverse => absurd hreverse (by decide)⟩

end JoinWalker

end GraphNight
