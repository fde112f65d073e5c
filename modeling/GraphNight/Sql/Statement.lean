import GraphNight.Sql.Footprint

/-!
# What a generated statement joins

The plan a statement is rendered from, part by part, and the join clauses of that
plan: one for every distinct target the source declares, made from the first link
the registry has between the two models.
-/

namespace GraphNight

open SqlText

namespace JoinGraph

/-- The first link the registry declares from `base` to `dst`: a join of `base`, or one
of `dst` back to it. -/
def firstLink (models : List Model) (base dst : String) : Option JoinEdge :=
  ((new models).edges base).find? (·.targetModel == dst)

theorem target_of_firstLink {models : List Model} {base dst : String} {e : JoinEdge}
    (h : firstLink models base dst = some e) : e.targetModel = dst := by
  simpa using List.find?_some h

theorem mem_of_firstLink {models : List Model} {base dst : String} {e : JoinEdge}
    (h : firstLink models base dst = some e) : e ∈ (new models).edges base :=
  List.mem_of_find?_eq_some h

/-- The edges found to neighbours of the base are their first links. -/
theorem requiredEdges_neighbours {models : List Model} {base : String} {required : List String}
    (h : ∀ dst ∈ required, dst ≠ base → ∃ e ∈ (new models).edges base, e.targetModel = dst) :
    (new models).requiredEdges base required =
      .ok ((required.filter (· ≠ base)).filterMap (firstLink models base)) := by
  induction required with
  | nil => rfl
  | cons dst required ih =>
    have hrest := ih fun d hd => h d (List.mem_cons_of_mem _ hd)
    by_cases hbase : dst = base
    · simp [requiredEdges, hbase, hrest, bind, Except.bind, pure, Except.pure]
    · obtain ⟨e, hfind, hpath⟩ := findPath_neighbour hbase (h dst (by simp) hbase)
      have hlink : firstLink models base dst = some e := hfind
      simp [requiredEdges, hbase, hrest, hpath, hlink, bind, Except.bind, pure, Except.pure]

end JoinGraph

open JoinGraph in
/-- The links a statement over `m` joins along. -/
def statementLinks (models : List Model) (m : Model) : List JoinEdge :=
  dedupTargets [] (((m.joins.map (·.model)).filter (· ≠ m.name)).filterMap (firstLink models m.name))

/-- The clause a statement has for a link. -/
def writtenClause (sourceAlias : String) (e : JoinEdge) : JoinClause :=
  let c := JoinWalker.clause sourceAlias e
  ⟨c.joinType, c.table, c.aliasName, quoteJoinOn c.on⟩

/-- The names of what a query selects: labels where there are any. -/
def Query.selectedNames (query : Query) : List String :=
  query.measures.map (fun m => m.formula.label.getD m.formula.expression) ++
    query.dimensions.map (fun d => d.label.getD d.name) ++
    query.timeDimensions.map fun td => td.label.getD (td.dimension ++ "_" ++ td.granularity.dateTruncUnit)

namespace SqlGenerator

/-- A successful call of `generate`: the model it reads, the alias that goes by, and the
plan the executable statement is rendered from. -/
structure Statement (g : SqlGenerator) (query : Query) (out : GeneratedSql) (m : Model) (sourceAlias : String)
    (plan : LogicalPlan) : Prop where
  generated : g.generate query = .ok out
  source : g.resolveSource query = .ok (m.name, sourceAlias)
  model : g.model m.name = some m
  planned : g.buildLogicalPlan query (g.dialectFor m.name) m.name sourceAlias .placeholder = .ok plan

variable {g : SqlGenerator} {query : Query} {out : GeneratedSql} {m : Model} {sourceAlias : String}
  {plan : LogicalPlan}

/-- The joins of a registered model are always found: its targets are its neighbours. -/
theorem buildJoins_ok (hread : readName query = some m.name) (hm : g.model m.name = some m) (sourceAlias : String) :
    g.buildJoins query sourceAlias m.name =
      .ok ((statementLinks g.modelRegistry.items m).map (writtenClause sourceAlias)) := by
  unfold buildJoins
  simp only [joinBaseName_of_read hread, hm]
  split_ifs with hempty
  · simp [statementLinks, List.isEmpty_iff.1 hempty, JoinGraph.dedupTargets]
  · have hneighbour : ∀ dst ∈ m.joins.map (·.model), dst ≠ m.name →
        ∃ e ∈ (JoinGraph.new g.modelRegistry.items).edges m.name, e.targetModel = dst := by
      intro dst hdst _
      obtain ⟨join, hjoin, rfl⟩ := List.mem_map.1 hdst
      exact ⟨_, JoinGraph.declared_edge (KeyedList.mem_of_get hm) hjoin, rfl⟩
    simp only [JoinWalker.buildJoinClauses, JoinWalker.new, JoinGraph.resolveJoins,
      JoinGraph.requiredEdges_neighbours hneighbour, bind, Except.bind, pure, Except.pure, Res.mapErr]
    rw [List.map_map]
    rfl

/-- Every successful call has a statement. -/
theorem exists_statement (h : g.generate query = .ok out) :
    ∃ m sourceAlias plan, g.Statement query out m sourceAlias plan := by
  obtain ⟨sourceTable, sourceAlias, bound, shown, hsource, hbound, -, -⟩ := generate_eq_ok.1 h
  obtain ⟨m, hm⟩ := Option.isSome_iff_exists.1 (resolveSource_eq_ok.1 hsource).2.1
  obtain rfl : m.name = sourceTable := KeyedList.key_of_get hm
  exact ⟨m, sourceAlias, bound, h, hsource, hm, hbound⟩

namespace Statement

/-- The text that runs is that of the plan. -/
theorem sql_eq (h : g.Statement query out m sourceAlias plan) :
    out.sql = Str.trim ((g.dialectFor m.name).render ((g.dialectFor m.name).statementText plan)) := by
  obtain ⟨sourceTable, sourceAlias', bound, shown, hsource, hbound, -, rfl⟩ := generate_eq_ok.1 h.generated
  obtain ⟨rfl, rfl⟩ := Prod.mk.inj (Except.ok.inj (hsource.symm.trans h.source))
  obtain rfl : bound = plan := Except.ok.inj (hbound.symm.trans h.planned)
  rfl

theorem params_eq (h : g.Statement query out m sourceAlias plan) : out.params = plan.params := by
  obtain ⟨sourceTable, sourceAlias', bound, shown, hsource, hbound, -, rfl⟩ := generate_eq_ok.1 h.generated
  obtain ⟨rfl, rfl⟩ := Prod.mk.inj (Except.ok.inj (hsource.symm.trans h.source))
  obtain rfl : bound = plan := Except.ok.inj (hbound.symm.trans h.planned)
  rfl

/-- The parts of the plan, each by its own builder. -/
theorem parts (h : g.Statement query out m sourceAlias plan) :
    ∃ items clause joins, g.buildSelectItems query (g.dialectFor m.name) sourceAlias m.name = .ok items ∧
      g.buildWhereClause query (g.dialectFor m.name) sourceAlias m.name .placeholder = .ok clause ∧
      g.buildJoins query sourceAlias m.name = .ok joins ∧
      plan =
        { sourceTable := (sourceOverride (some m)).getD m.name
          sourceIsSql := (sourceOverride (some m)).isSome
          sourceAlias
          selectItems := items
          whereClause := clause.2
          groupBy := g.buildGroupBy query (g.dialectFor m.name) sourceAlias m.name
          orderBy := buildOrderBy query sourceAlias
          limit := query.limit
          offset := query.offset
          joins
          distinct := query.distinctDimensionValues.getD false
          params := clause.1 } := by
  obtain ⟨items, clause, joins, hitems, hclause, hjoins, hplan⟩ := buildLogicalPlan_eq_ok.1 h.planned
  simp only [h.model, Option.map_some, Option.getD_some] at hitems hclause hplan
  exact ⟨items, clause, joins, hitems, hclause, hjoins, hplan⟩

/-- The select items, those of the measures first and those of the times last. -/
theorem items_eq (h : g.Statement query out m sourceAlias plan) :
    ∃ measures dimensions, query.measures.mapM (g.measureItem sourceAlias m.name) = .ok measures ∧
      query.dimensions.mapM (g.dimensionItem (g.dialectFor m.name) sourceAlias m.name) = .ok dimensions ∧
      plan.selectItems =
        measures ++ dimensions ++ query.timeDimensions.map (timeDimensionItem (g.dialectFor m.name) sourceAlias) := by
  obtain ⟨items, clause, joins, hitems, -, -, rfl⟩ := h.parts
  obtain ⟨measures, hmeasures, hitems⟩ := Res.bind_eq_ok.1 hitems
  obtain ⟨dimensions, hdimensions, hitems⟩ := Res.bind_eq_ok.1 hitems
  obtain rfl := Except.ok.inj hitems
  exact ⟨measures, dimensions, hmeasures, hdimensions, rfl⟩

/-- Every select item goes by the name of what it is made from. -/
theorem aliasNames (h : g.Statement query out m sourceAlias plan) :
    plan.selectItems.map (·.aliasName) = query.selectedNames.map some := by
  obtain ⟨measures, dimensions, hmeasures, hdimensions, hitems⟩ := h.items_eq
  have hm : measures.map (·.aliasName) = query.measures.map fun m => some (m.formula.label.getD m.formula.expression) := by
    refine Res.map_map_of_mapM hmeasures fun measure item hitem => ?_
    obtain ⟨expr, -, hitem⟩ := Res.bind_eq_ok.1 hitem
    obtain rfl := Except.ok.inj hitem
    rfl
  have hd : dimensions.map (·.aliasName) = query.dimensions.map fun d => some (d.label.getD d.name) := by
    refine Res.map_map_of_mapM hdimensions fun dim item hitem => ?_
    unfold SqlGenerator.dimensionItem at hitem
    dsimp only at hitem
    split_ifs at hitem
    · obtain ⟨expr, -, hitem⟩ := Res.bind_eq_ok.1 hitem
      obtain rfl := Except.ok.inj hitem
      rfl
    · obtain rfl := Except.ok.inj hitem
      rfl
  rw [hitems, List.map_append, List.map_append, hm, hd, List.map_map]
  simp only [Query.selectedNames, List.map_append, List.map_map]
  rfl

theorem groupBy_eq (h : g.Statement query out m sourceAlias plan) :
    plan.groupBy = g.buildGroupBy query (g.dialectFor m.name) sourceAlias m.name := by
  obtain ⟨items, clause, joins, -, -, -, rfl⟩ := h.parts
  rfl

theorem orderBy_eq (h : g.Statement query out m sourceAlias plan) : plan.orderBy = buildOrderBy query sourceAlias := by
  obtain ⟨items, clause, joins, -, -, -, rfl⟩ := h.parts
  rfl

theorem where_eq (h : g.Statement query out m sourceAlias plan) :
    g.buildWhereClause query (g.dialectFor m.name) sourceAlias m.name .placeholder =
      .ok (plan.params, plan.whereClause) := by
  obtain ⟨items, clause, joins, -, hclause, -, rfl⟩ := h.parts
  exact hclause

theorem alias_eq (h : g.Statement query out m sourceAlias plan) : plan.sourceAlias = sourceAlias := by
  obtain ⟨items, clause, joins, -, -, -, rfl⟩ := h.parts
  rfl

theorem read (h : g.Statement query out m sourceAlias plan) : readName query = some m.name :=
  (resolveSource_eq_ok.1 h.source).1

theorem readAlias (h : g.Statement query out m sourceAlias plan) : readAlias query = some sourceAlias :=
  (resolveSource_eq_ok.1 h.source).2.2

theorem mem_models (h : g.Statement query out m sourceAlias plan) : m ∈ g.modelRegistry.items :=
  KeyedList.mem_of_get h.model

/-- **The join clauses of a statement**: one for every link it joins along. -/
theorem joins_eq (h : g.Statement query out m sourceAlias plan) :
    plan.joins = (statementLinks g.modelRegistry.items m).map (writtenClause sourceAlias) := by
  obtain ⟨items, clause, joins, -, -, hjoins, rfl⟩ := h.parts
  exact Except.ok.inj (hjoins.symm.trans (buildJoins_ok h.read h.model sourceAlias))

end Statement

/-- The link to a target the source declares. -/
theorem firstLink_of_declared {models : List Model} (hm : m ∈ models) {join : Join} (hjoin : join ∈ m.joins) :
    ∃ e, JoinGraph.firstLink models m.name join.model = some e := by
  cases hfind : JoinGraph.firstLink models m.name join.model with
  | some e => exact ⟨e, rfl⟩
  | none =>
    have hnone := List.find?_eq_none.1 hfind _ (JoinGraph.declared_edge hm hjoin)
    simp [JoinGraph.forwardEdge] at hnone

/-- A link is joined along when it is the first one to a target the source declares,
other than the source. -/
theorem mem_statementLinks {models : List Model} {e : JoinEdge} :
    e ∈ statementLinks models m ↔ e.targetModel ≠ m.name ∧ (∃ join ∈ m.joins, join.model = e.targetModel) ∧
      JoinGraph.firstLink models m.name e.targetModel = some e := by
  have hfilter : ∀ e, e ∈ ((m.joins.map (·.model)).filter (· ≠ m.name)).filterMap
      (JoinGraph.firstLink models m.name) ↔ e.targetModel ≠ m.name ∧ (∃ join ∈ m.joins, join.model = e.targetModel) ∧
        JoinGraph.firstLink models m.name e.targetModel = some e := by
    intro e
    rw [List.mem_filterMap]
    constructor
    · rintro ⟨dst, hdst, hlink⟩
      obtain ⟨hmem, hne⟩ := List.mem_filter.1 hdst
      obtain rfl := JoinGraph.target_of_firstLink hlink
      exact ⟨by simpa using hne, List.mem_map.1 hmem, hlink⟩
    · rintro ⟨hne, hjoin, hlink⟩
      exact ⟨e.targetModel, List.mem_filter.2 ⟨List.mem_map.2 hjoin, by simpa using hne⟩, hlink⟩
  constructor
  · exact fun h => (hfilter e).1 ((JoinGraph.dedupTargets_sublist _ _).mem h)
  · intro h
    have htarget : e.targetModel ∈ (statementLinks models m).map (·.targetModel) :=
      JoinGraph.mem_targets_dedup.2 ⟨List.mem_map_of_mem ((hfilter e).2 h), List.not_mem_nil⟩
    obtain ⟨e', he', heq⟩ := List.mem_map.1 htarget
    have hlink := ((hfilter e').1 ((JoinGraph.dedupTargets_sublist _ _).mem he')).2.2
    rw [heq, h.2.2] at hlink
    obtain rfl := Option.some.inj hlink
    exact he'

/-- A query without filters has a statement if its items do. -/
theorem exists_statement_of_items (hm : g.model m.name = some m)
    (hname : query.name = some m.name) (hsource : query.sourceModel = none) (hfilters : query.filters = [])
    (hitems : ∃ items, g.buildSelectItems query (g.dialectFor m.name) m.name m.name = .ok items) :
    ∃ out plan, g.Statement query out m m.name plan := by
  obtain ⟨items, hitems⟩ := hitems
  have hread : readName query = some m.name := by
    rw [readName, hsource, hname]
    rfl
  have halias : readAlias query = some m.name := by
    rw [readAlias, hsource, hname]
    rfl
  have hresolve : g.resolveSource query = .ok (m.name, m.name) := resolveSource_eq_ok.2 ⟨hread, by rw [hm]; rfl, halias⟩
  have hplan (mode : ValueMode) : ∃ plan, g.buildLogicalPlan query (g.dialectFor m.name) m.name m.name mode = .ok plan := by
    refine ⟨_, buildLogicalPlan_eq_ok.2 ⟨items, ([], none), _, ?_, ?_, buildJoins_ok hread hm m.name, rfl⟩⟩
    · rw [hm]
      exact hitems
    · rw [buildWhereClause, hfilters]
      rfl
  obtain ⟨bound, hbound⟩ := hplan .placeholder
  obtain ⟨shown, hshown⟩ := hplan .literal
  exact ⟨_, bound, generate_eq_ok.2 ⟨m.name, m.name, bound, shown, hresolve, hbound, hshown, rfl⟩, hresolve, hm, hbound⟩

/-- A registered model that is asked for nothing has a statement. -/
theorem exists_statement_of_model (hm : g.model m.name = some m) :
    ∃ out plan, g.Statement { name := some m.name } out m m.name plan :=
  exists_statement_of_items hm rfl rfl rfl ⟨[], rfl⟩

/-- The tables a statement joins are targets of its source. -/
theorem Statement.exists_declared (h : g.Statement query out m sourceAlias plan) {clause : JoinClause} (hclause : clause ∈ plan.joins) :
    ∃ join ∈ m.joins, clause.table = join.model := by
  rw [h.joins_eq] at hclause
  obtain ⟨e, he, rfl⟩ := List.mem_map.1 hclause
  obtain ⟨-, ⟨join, hjoin, htarget⟩, hlink⟩ := mem_statementLinks.1 he
  refine ⟨join, hjoin, ?_⟩
  rw [htarget]
  exact JoinGraph.join_model_of_mem (JoinGraph.mem_of_firstLink hlink)

theorem nodup_statementLinks (models : List Model) (m : Model) :
    ((statementLinks models m).map (·.targetModel)).Nodup :=
  JoinGraph.nodup_dedupTargets _ _

end SqlGenerator

end GraphNight
