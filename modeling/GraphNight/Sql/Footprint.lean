import GraphNight.Sql.Generator

/-!
# What a plan depends on

A query's plan reads the registry in one place only: its source model and the models
that one declares joins to. Where these are the same, in the same order, the plan is.
-/

namespace GraphNight

namespace JoinGraph

/-- Among the edges out of `base`, the first to `dst` is one that `base` or `dst` declares. -/
theorem find_edge_filter (models : List Model) {names : List String} {base dst : String}
    (hbase : base ∈ names) (hdst : dst ∈ names) :
    ((new models).edges base).find? (·.targetModel == dst) =
      ((new (models.filter fun m => m.name ∈ names)).edges base).find? (·.targetModel == dst) := by
  rw [edges_new, edges_new]
  induction models with
  | nil => rfl
  | cons m models ih =>
    rw [List.flatMap_cons, List.find?_append, ih]
    by_cases hm : m.name ∈ names
    · rw [List.filter_cons_of_pos (by simpa using hm), List.flatMap_cons, List.find?_append]
    · rw [List.filter_cons_of_neg (by simpa using hm)]
      have hnone : (declaredEdges m base).find? (·.targetModel == dst) = none := by
        rw [List.find?_eq_none]
        intro edge hedge htarget
        obtain ⟨join, -, ⟨rfl, -⟩ | ⟨-, rfl⟩⟩ := mem_declaredEdges.1 hedge
        · exact hm hbase
        · have hname : m.name = dst := by simpa [reverseEdge] using htarget
          exact hm (hname ▸ hdst)
      rw [hnone, Option.none_or]

/-- Where every required model is a neighbour of the base in two graphs, and the first edges
to it agree, so do the joins resolved. -/
theorem resolveJoins_congr {g g' : JoinGraph} {base : String} {required : List String}
    (hneighbour : ∀ dst ∈ required, dst ≠ base → ∃ e ∈ g.edges base, e.targetModel = dst)
    (hfirst : ∀ dst ∈ required, (g.edges base).find? (·.targetModel == dst) =
      (g'.edges base).find? (·.targetModel == dst)) :
    g.resolveJoins base required = g'.resolveJoins base required := by
  have hpath : ∀ dst ∈ required, dst ≠ base → g.findPath base dst = g'.findPath base dst := by
    intro dst hdst hne
    obtain ⟨e, hfind, hfound⟩ := findPath_neighbour hne (hneighbour dst hdst hne)
    have hfind' : (g'.edges base).find? (·.targetModel == dst) = some e := (hfirst dst hdst).symm.trans hfind
    have hmem' : ∃ e ∈ g'.edges base, e.targetModel = dst :=
      ⟨e, List.mem_of_find?_eq_some hfind', by simpa using List.find?_some hfind'⟩
    obtain ⟨e', hfind'', hfound'⟩ := findPath_neighbour hne hmem'
    obtain rfl : e = e' := Option.some.inj (hfind'.symm.trans hfind'')
    rw [hfound, hfound']
  have hedges : g.requiredEdges base required = g'.requiredEdges base required := by
    clear hneighbour hfirst
    induction required with
    | nil => rfl
    | cons dst required ih =>
      have hrest := ih fun d hd => hpath d (List.mem_cons_of_mem _ hd)
      by_cases heq : dst = base
      · simp only [requiredEdges, heq, ne_eq, not_true_eq_false, if_false, hrest]
      · simp only [requiredEdges, ne_eq, heq, not_false_eq_true, if_true, hrest, hpath dst (by simp) heq]
  rw [resolveJoins, resolveJoins, hedges]

end JoinGraph

namespace SqlGenerator

/-- The names of the models a query's plan looks up: its source, when that is
registered, and the targets of the joins the source declares. -/
def dependsOn (g : SqlGenerator) (query : Query) : List String :=
  match (readName query).bind g.model with
  | some source => source.name :: source.joins.map (·.model)
  | none => []

/-- The models a query's plan is made from, in the order of the registry. -/
def footprint (g : SqlGenerator) (query : Query) : List Model :=
  g.modelRegistry.items.filter fun m => m.name ∈ g.dependsOn query

section

variable {g : SqlGenerator} {registry : ModelRegistry} {query : Query}

/-- The generator with another registry. -/
def withRegistry (g : SqlGenerator) (registry : ModelRegistry) : SqlGenerator := { g with modelRegistry := registry }

theorem mem_footprint {g : SqlGenerator} {m : Model} :
    m ∈ g.footprint query ↔ g.model m.name = some m ∧ m.name ∈ g.dependsOn query := by
  rw [footprint, List.mem_filter, decide_eq_true_eq]
  apply and_congr_left
  intro _
  constructor
  · intro hmem
    exact KeyedList.get_eq_some.2 ⟨hmem, rfl⟩
  · exact KeyedList.mem_of_get

theorem dependsOn_of_model {g : SqlGenerator} {name : String} {m : Model} (hread : readName query = some name)
    (hm : g.model name = some m) : g.dependsOn query = m.name :: m.joins.map (·.model) := by
  rw [dependsOn, hread, Option.bind_some, hm]

/-- Registries with the same footprint of a query have the same source model for it. -/
theorem source_congr {g g' : SqlGenerator} (h : g.footprint query = g'.footprint query) {name : String}
    (hread : readName query = some name) : g.model name = g'.model name := by
  have hsome : ∀ {g g' : SqlGenerator} {m : Model}, g.footprint query = g'.footprint query →
      g.model name = some m → g'.model name = some m := by
    intro g g' m h hm
    have hname : m.name = name := KeyedList.key_of_get hm
    have hmem : m ∈ g.footprint query := by
      apply mem_footprint.2
      refine ⟨hname ▸ hm, ?_⟩
      rw [dependsOn_of_model hread hm]
      exact List.mem_cons_self
    have hlookup := (mem_footprint.1 (h ▸ hmem)).1
    rwa [hname] at hlookup
  apply Option.ext
  intro m
  exact ⟨hsome h, hsome h.symm⟩

theorem dependsOn_congr {g g' : SqlGenerator} (h : g.footprint query = g'.footprint query) :
    g.dependsOn query = g'.dependsOn query := by
  cases hread : readName query with
  | none => simp only [dependsOn, hread, Option.bind_none]
  | some name => simp only [dependsOn, hread, Option.bind_some, source_congr h hread]

/-- A model the plan looks up is the same in both registries. -/
theorem model_congr {g g' : SqlGenerator} (h : g.footprint query = g'.footprint query) {name : String}
    (hname : name ∈ g.dependsOn query) : g.model name = g'.model name := by
  have hsome : ∀ {g g' : SqlGenerator} {m : Model}, g.footprint query = g'.footprint query →
      name ∈ g.dependsOn query → g.model name = some m → g'.model name = some m := by
    intro g g' m h hname hm
    have hkey : m.name = name := KeyedList.key_of_get hm
    have hmem : m ∈ g.footprint query := mem_footprint.2 ⟨by rw [hkey, hm], hkey ▸ hname⟩
    have hlookup := (mem_footprint.1 (h ▸ hmem)).1
    rwa [hkey] at hlookup
  apply Option.ext
  intro m
  exact ⟨hsome h hname, hsome h.symm (dependsOn_congr h ▸ hname)⟩

end

/-! ## The same lookups make the same plan -/

/-- Two generators that differ in their registry alone, and find the same model under `base`
and under the targets of its joins. -/
structure SameLookups (g g' : SqlGenerator) (base : String) : Prop where
  registry : g' = g.withRegistry g'.modelRegistry
  source : g.model base = g'.model base
  targets : ∀ m, g.model base = some m → ∀ join ∈ m.joins, g.model join.model = g'.model join.model

section

variable {g g' : SqlGenerator} {base : String}

theorem SameLookups.of_footprint {query : Query} (hregistry : g' = g.withRegistry g'.modelRegistry)
    (h : g.footprint query = g'.footprint query) (hread : readName query = some base) : SameLookups g g' base := by
  refine ⟨hregistry, source_congr h hread, ?_⟩
  intro m hm join hjoin
  apply model_congr h
  rw [dependsOn_of_model hread hm]
  exact List.mem_cons_of_mem _ (List.mem_map_of_mem hjoin)

theorem SameLookups.findJoin (h : SameLookups g g' base) {m : Model} (hm : g.model base = some m)
    (test : Join → Model → Bool) : g.findJoin m.joins test = g'.findJoin m.joins test := by
  have hjoins := h.targets m hm
  unfold SqlGenerator.findJoin
  generalize m.joins = joins at hjoins
  induction joins with
  | nil => rfl
  | cons join joins ih =>
    rw [List.findSome?_cons, List.findSome?_cons, hjoins join (by simp),
      ih fun j hj => hjoins j (List.mem_cons_of_mem _ hj)]

theorem SameLookups.qualifyField (h : SameLookups g g' base) :
    g.qualifyField base = g'.qualifyField base := by
  funext field sourceAlias
  unfold SqlGenerator.qualifyField
  cases hm : g.model base with
  | none => rw [← h.source, hm]
  | some m => simp only [← h.source, hm, h.findJoin hm]

theorem SameLookups.fieldIsGeometry (h : SameLookups g g' base) :
    g.fieldIsGeometry base = g'.fieldIsGeometry base := by
  funext field
  unfold SqlGenerator.fieldIsGeometry
  cases hm : g.model base with
  | none => rw [← h.source, hm]
  | some m => simp only [← h.source, hm, h.findJoin hm]

theorem SameLookups.formulaParser (h : SameLookups g g' base) : g.formulaParser = g'.formulaParser := by
  rw [h.registry]
  rfl

theorem SameLookups.dialectFor (h : SameLookups g g' base) : g.dialectFor base = g'.dialectFor base := by
  unfold SqlGenerator.dialectFor
  rw [← h.source, h.registry]
  rfl

theorem SameLookups.buildMeasureExpression (h : SameLookups g g' base) (sourceAlias : String) :
    g.buildMeasureExpression sourceAlias base = g'.buildMeasureExpression sourceAlias base := by
  have haggregate : g.aggregateColumn sourceAlias base = g'.aggregateColumn sourceAlias base := by
    funext measure
    simp only [aggregateColumn, h.qualifyField]
  have hargument : g.functionArgText sourceAlias base = g'.functionArgText sourceAlias base := by
    funext arg
    cases arg with
    | column col => simp only [functionArgText, h.qualifyField]
    | number n => rfl
  have hstandard : g.buildStandardAggregation sourceAlias base = g'.buildStandardAggregation sourceAlias base := by
    funext measure
    simp only [buildStandardAggregation, resolveExpression, h.qualifyField, hargument]
  funext measure
  simp only [SqlGenerator.buildMeasureExpression, buildTimeShiftExpression, buildRatioExpression,
    buildPctChangeExpression, buildRunningTotalExpression, h.formulaParser, haggregate, hstandard]

theorem SameLookups.buildSelectItems (h : SameLookups g g' base) (query : Query) (d : Dialect) (sourceAlias : String) :
    g.buildSelectItems query d sourceAlias base = g'.buildSelectItems query d sourceAlias base := by
  have hmeasure : g.measureItem sourceAlias base = g'.measureItem sourceAlias base := by
    funext measure
    simp only [measureItem, h.buildMeasureExpression]
  have hdimension : g.dimensionItem d sourceAlias base = g'.dimensionItem d sourceAlias base := by
    funext dim
    simp only [dimensionItem, h.qualifyField, h.fieldIsGeometry]
  rw [SqlGenerator.buildSelectItems, SqlGenerator.buildSelectItems, hmeasure, hdimension]

theorem SameLookups.buildWhereClause (h : SameLookups g g' base) (query : Query) (d : Dialect) (sourceAlias : String)
    (mode : ValueMode) :
    g.buildWhereClause query d sourceAlias base mode = g'.buildWhereClause query d sourceAlias base mode := by
  have hconditions : ∀ (filters : List Filter) (first : Bool) (params : List Value),
      g.buildConditions d sourceAlias base mode first params filters =
        g'.buildConditions d sourceAlias base mode first params filters := by
    intro filters
    induction filters with
    | nil =>
      intro first params
      rfl
    | cons filter filters ih =>
      intro first params
      simp only [buildConditions, h.qualifyField, ih]
  simp only [SqlGenerator.buildWhereClause, hconditions]

end

theorem joinBaseName_of_read {query : Query} {name : String} (hread : readName query = some name) :
    joinBaseName query name = name := by
  unfold joinBaseName
  unfold readName at hread
  cases hsrc : query.sourceModel with
  | some source => simpa [hsrc] using hread
  | none =>
    have hname : query.name = some name := by simpa [hsrc] using hread
    simp [hname]

/-- The joins of a plan come from the footprint. -/
theorem buildJoins_congr {g g' : SqlGenerator} {query : Query} {name : String}
    (h : g.footprint query = g'.footprint query) (hread : readName query = some name) (sourceAlias : String) :
    g.buildJoins query sourceAlias name = g'.buildJoins query sourceAlias name := by
  unfold buildJoins
  rw [joinBaseName_of_read hread]
  dsimp only
  rw [← source_congr h hread]
  cases hm : g.model name with
  | none => rfl
  | some m =>
    have hkey : m.name = name := KeyedList.key_of_get hm
    have hdepends : g.dependsOn query = m.name :: m.joins.map (·.model) := dependsOn_of_model hread hm
    have hresolve : (JoinGraph.new g.modelRegistry.items).resolveJoins name (m.joins.map (·.model)) =
        (JoinGraph.new g'.modelRegistry.items).resolveJoins name (m.joins.map (·.model)) := by
      apply JoinGraph.resolveJoins_congr
      · intro dst hdst _
        obtain ⟨join, hjoin, rfl⟩ := List.mem_map.1 hdst
        exact ⟨_, hkey ▸ JoinGraph.declared_edge (KeyedList.mem_of_get hm) hjoin, rfl⟩
      · intro dst hdst
        have hbase : name ∈ g.dependsOn query := by
          rw [hdepends, hkey]
          exact List.mem_cons_self
        have htarget : dst ∈ g.dependsOn query := by
          rw [hdepends]
          exact List.mem_cons_of_mem _ hdst
        rw [JoinGraph.find_edge_filter g.modelRegistry.items hbase htarget,
          JoinGraph.find_edge_filter g'.modelRegistry.items (dependsOn_congr h ▸ hbase) (dependsOn_congr h ▸ htarget)]
        exact congrArg (fun models => ((JoinGraph.new models).edges name).find? (·.targetModel == dst)) h
    simp only [JoinWalker.buildJoinClauses, JoinWalker.new, hresolve]

/-- **A plan is made from its footprint**: two registries that agree on it give a query the
same statement, or the same error. -/
theorem generate_congr {g g' : SqlGenerator} {query : Query} (hregistry : g' = g.withRegistry g'.modelRegistry)
    (h : g.footprint query = g'.footprint query) : g.generate query = g'.generate query := by
  have hsource : g.resolveSource query = g'.resolveSource query := by
    have hmodel : ∀ name, readName query = some name → g.model name = g'.model name := fun _ => source_congr h
    unfold resolveSource
    unfold readName at hmodel
    cases hsrc : query.sourceModel with
    | some source => simp only [hmodel source.model (by simp [hsrc])]
    | none =>
      cases hname : query.name with
      | some name => simp only [hmodel name (by simp [hsrc, hname])]
      | none => rfl
  unfold generate
  rw [← hsource]
  cases hresolved : g.resolveSource query with
  | error fault => simp only [bind, Except.bind]
  | ok source =>
    obtain ⟨name, sourceAlias⟩ := source
    obtain ⟨hread, hsome, -⟩ := resolveSource_eq_ok.1 hresolved
    obtain ⟨m, hm⟩ := Option.isSome_iff_exists.1 hsome
    have hkey : m.name = name := KeyedList.key_of_get hm
    have hlookups := SameLookups.of_footprint hregistry h hread
    have hplan : ∀ d mode, g.buildLogicalPlan query d name sourceAlias mode =
        g'.buildLogicalPlan query d name sourceAlias mode := by
      intro d mode
      simp only [buildLogicalPlan, ← hlookups.source, hm, Option.map_some, Option.getD_some, hkey, buildGroupBy,
        hlookups.qualifyField, hlookups.buildSelectItems, hlookups.buildWhereClause, buildJoins_congr h hread]
    simp only [bind, Except.bind, hlookups.dialectFor, hplan]

end SqlGenerator

end GraphNight
