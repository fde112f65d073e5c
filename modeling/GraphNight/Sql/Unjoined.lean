import GraphNight.Sql.Scope

/-!
# A statement without its joins

A query on the fields of its base model alone gives the same statement when the model
declares no joins, less the join clauses.
-/

namespace GraphNight

open SqlText

/-- The model with its joins removed. -/
def Model.withoutJoins (m : Model) : Model := { m with joins := [] }

/-- The plan with its joins removed. -/
def LogicalPlan.withoutJoins (plan : LogicalPlan) : LogicalPlan := { plan with joins := [] }

namespace SqlGenerator

/-- The registry with the joins of one model removed. -/
def withoutJoins (g : SqlGenerator) (m : Model) : SqlGenerator := g.registerModel m.withoutJoins

/-- A field of the model itself: a plain column of it, or all of them. -/
def OwnField (m : Model) (field : String) : Prop := field = "*" ∨ modelHasPlainField m field = true

/-- A query that refers only to fields of the base model. -/
structure BaseOnly (g : SqlGenerator) (query : Query) (m : Model) : Prop where
  fields : ∀ field ∈ plainFields query, OwnField m field
  measures : ∀ measure ∈ query.measures, ∀ reads, g.measureReads measure = .ok reads →
    ∀ field ∈ reads.fields, OwnField m field
  -- a dotted name would be one of another table
  times : ∀ td ∈ query.timeDimensions, OwnField m td.dimension ∧ '.' ∉ td.dimension.toList
  orders : ∀ order ∈ query.order, OwnField m order.field ∧ '.' ∉ order.field.toList

section

variable {g : SqlGenerator} {query : Query} {m : Model} {sourceAlias : String}

@[simp] theorem model_withoutJoins (g : SqlGenerator) (m : Model) :
    (g.withoutJoins m).model m.name = some m.withoutJoins := by
  unfold withoutJoins registerModel SqlGenerator.model
  rw [KeyedList.get_insert]
  exact if_pos rfl

theorem qualifyField_withoutJoins (hm : g.model m.name = some m) {field : String} (h : OwnField m field)
    (sourceAlias : String) :
    g.qualifyField m.name field sourceAlias = (g.withoutJoins m).qualifyField m.name field sourceAlias := by
  unfold qualifyField
  rw [hm, model_withoutJoins]
  rcases h with rfl | hplain
  · rfl
  · have hplain' : modelHasPlainField m.withoutJoins field = true := hplain
    simp only [hplain, hplain', if_true]

theorem fieldIsGeometry_withoutJoins (hm : g.model m.name = some m) {field : String} (h : OwnField m field) :
    g.fieldIsGeometry m.name field = (g.withoutJoins m).fieldIsGeometry m.name field := by
  unfold fieldIsGeometry
  rw [hm, model_withoutJoins]
  rcases h with rfl | hplain
  · rfl
  · have hplain' : modelHasPlainField m.withoutJoins field = true := hplain
    simp only [hplain, hplain', if_true]
    rfl

theorem dialectFor_withoutJoins (hm : g.model m.name = some m) :
    (g.withoutJoins m).dialectFor m.name = g.dialectFor m.name := by
  unfold dialectFor
  rw [hm, model_withoutJoins]
  rfl

theorem aggregateColumn_withoutJoins (hm : g.model m.name = some m) {measure : Measure}
    (h : OwnField m measure.formula.expression) (sourceAlias : String) :
    g.aggregateColumn sourceAlias m.name measure = (g.withoutJoins m).aggregateColumn sourceAlias m.name measure := by
  unfold aggregateColumn
  rw [qualifyField_withoutJoins hm h]

/-- The text of a plain measure. -/
theorem buildStandardAggregation_withoutJoins (hm : g.model m.name = some m) {measure : Measure} {t : SqlText}
    (h : g.buildStandardAggregation sourceAlias m.name measure = .ok t)
    (hown : ∀ reads, standardReads measure = .ok reads → ∀ field ∈ reads.fields, OwnField m field) :
    (g.withoutJoins m).buildStandardAggregation sourceAlias m.name measure = .ok t := by
  obtain ⟨column, hcolumn, h⟩ := Res.bind_eq_ok.1 h
  obtain ⟨call, hcall, hcolumn⟩ := Res.bind_eq_ok.1 hcolumn
  simp only [standardReads, expressionFields, hcall, bind, Except.bind, pure, Except.pure, Except.ok.injEq,
    forall_eq'] at hown
  refine Res.bind_eq_ok.2 ⟨column, Res.bind_eq_ok.2 ⟨call, hcall, ?_⟩, h⟩
  cases call with
  | none =>
    rw [← hcolumn]
    exact congrArg Except.ok (qualifyField_withoutJoins hm (hown _ (List.mem_singleton_self _)) sourceAlias).symm
  | some call =>
    rw [← hcolumn]
    have hargs : call.args.map ((g.withoutJoins m).functionArgText sourceAlias m.name) =
        call.args.map (g.functionArgText sourceAlias m.name) := by
      refine List.map_congr_left fun arg harg => ?_
      cases arg with
      | number n => rfl
      | column col =>
        exact (qualifyField_withoutJoins hm (hown col (List.mem_filterMap.2 ⟨_, harg, rfl⟩)) sourceAlias).symm
    simp only [hargs]

theorem buildTimeShift_withoutJoins (hm : g.model m.name = some m) {expr : String} {t : SqlText}
    (h : g.buildTimeShiftExpression sourceAlias m.name expr = .ok t)
    (hown : ∀ reads, g.timeShiftReads expr = .ok reads → ∀ field ∈ reads.fields, OwnField m field) :
    (g.withoutJoins m).buildTimeShiftExpression sourceAlias m.name expr = .ok t := by
  obtain ⟨⟨inner, offset, granularity⟩, hcaps, h⟩ := Res.bind_eq_ok.1 h
  obtain ⟨parsed, hparsed, h⟩ := Res.bind_eq_ok.1 h
  have hreads : g.timeShiftReads expr = .ok ⟨[parsed.formula.expression], true⟩ := by
    simp only [timeShiftReads, hcaps, hparsed, bind, Except.bind, pure, Except.pure]
  rw [aggregateColumn_withoutJoins hm (hown _ hreads _ (List.mem_singleton_self _))] at h
  exact Res.bind_eq_ok.2 ⟨_, hcaps, Res.bind_eq_ok.2 ⟨parsed, hparsed, h⟩⟩

theorem buildRatio_withoutJoins (hm : g.model m.name = some m) {expr : String} {t : SqlText}
    (h : g.buildRatioExpression sourceAlias m.name expr = .ok t)
    (hown : ∀ reads, g.ratioReads expr = .ok reads → ∀ field ∈ reads.fields, OwnField m field) :
    (g.withoutJoins m).buildRatioExpression sourceAlias m.name expr = .ok t := by
  obtain ⟨⟨num, denom⟩, hcaps, h⟩ := Res.bind_eq_ok.1 h
  obtain ⟨num, hnum, h⟩ := Res.bind_eq_ok.1 h
  obtain ⟨denom, hdenom, h⟩ := Res.bind_eq_ok.1 h
  have hreads : g.ratioReads expr = .ok ⟨[num.formula.expression, denom.formula.expression], false⟩ := by
    simp only [ratioReads, hcaps, hnum, hdenom, bind, Except.bind, pure, Except.pure]
  rw [aggregateColumn_withoutJoins hm (hown _ hreads num.formula.expression (by simp)),
    aggregateColumn_withoutJoins hm (hown _ hreads denom.formula.expression (by simp))] at h
  exact Res.bind_eq_ok.2 ⟨_, hcaps, Res.bind_eq_ok.2 ⟨num, hnum, Res.bind_eq_ok.2 ⟨denom, hdenom, h⟩⟩⟩

/-- The argument of a window function is read the same. -/
theorem window_withoutJoins (hm : g.model m.name = some m) {fn expr inner : String} {parsed : Measure}
    (hinner : formulaArgument fn expr = .ok inner) (hparsed : g.formulaParser.parseMeasure inner = .ok parsed)
    (hown : ∀ reads, g.windowReads fn expr = .ok reads → ∀ field ∈ reads.fields, OwnField m field) :
    g.aggregateColumn sourceAlias m.name parsed = (g.withoutJoins m).aggregateColumn sourceAlias m.name parsed := by
  have hreads : g.windowReads fn expr = .ok ⟨[parsed.formula.expression], true⟩ := by
    simp only [windowReads, hinner, hparsed, bind, Except.bind, pure, Except.pure]
  exact aggregateColumn_withoutJoins hm (hown _ hreads _ (List.mem_singleton_self _)) sourceAlias

theorem buildPctChange_withoutJoins (hm : g.model m.name = some m) {expr : String} {t : SqlText}
    (h : g.buildPctChangeExpression sourceAlias m.name expr = .ok t)
    (hown : ∀ reads, g.windowReads "pct_change" expr = .ok reads → ∀ field ∈ reads.fields, OwnField m field) :
    (g.withoutJoins m).buildPctChangeExpression sourceAlias m.name expr = .ok t := by
  obtain ⟨inner, hinner, h⟩ := Res.bind_eq_ok.1 h
  obtain ⟨parsed, hparsed, h⟩ := Res.bind_eq_ok.1 h
  rw [window_withoutJoins hm hinner hparsed hown] at h
  exact Res.bind_eq_ok.2 ⟨inner, hinner, Res.bind_eq_ok.2 ⟨parsed, hparsed, h⟩⟩

theorem buildRunningTotal_withoutJoins (hm : g.model m.name = some m) {expr : String} {t : SqlText}
    (h : g.buildRunningTotalExpression sourceAlias m.name expr = .ok t)
    (hown : ∀ reads, g.windowReads "running_total" expr = .ok reads → ∀ field ∈ reads.fields, OwnField m field) :
    (g.withoutJoins m).buildRunningTotalExpression sourceAlias m.name expr = .ok t := by
  obtain ⟨inner, hinner, h⟩ := Res.bind_eq_ok.1 h
  obtain ⟨parsed, hparsed, h⟩ := Res.bind_eq_ok.1 h
  rw [window_withoutJoins hm hinner hparsed hown] at h
  exact Res.bind_eq_ok.2 ⟨inner, hinner, Res.bind_eq_ok.2 ⟨parsed, hparsed, h⟩⟩

/-- The text of a measure on the model's own fields. -/
theorem buildMeasureExpression_withoutJoins (hm : g.model m.name = some m) {measure : Measure} {t : SqlText}
    (h : g.buildMeasureExpression sourceAlias m.name measure = .ok t)
    (hown : ∀ reads, g.measureReads measure = .ok reads → ∀ field ∈ reads.fields, OwnField m field) :
    (g.withoutJoins m).buildMeasureExpression sourceAlias m.name measure = .ok t := by
  unfold buildMeasureExpression at h ⊢
  unfold measureReads at hown
  dsimp only at h hown ⊢
  generalize Str.trim measure.formula.expression = expr at h hown ⊢
  by_cases hparse : FormulaParser.needsParse expr = true
  · rw [if_pos hparse] at h hown ⊢
    by_cases hshift : Str.startsWith expr "time_shift(" = true
    · rw [if_pos hshift] at h hown ⊢
      exact buildTimeShift_withoutJoins hm h hown
    rw [if_neg hshift] at h hown ⊢
    by_cases hratio : Str.startsWith expr "ratio(" = true
    · rw [if_pos hratio] at h hown ⊢
      exact buildRatio_withoutJoins hm h hown
    rw [if_neg hratio] at h hown ⊢
    by_cases hpct : Str.startsWith expr "pct_change(" = true
    · rw [if_pos hpct] at h hown ⊢
      exact buildPctChange_withoutJoins hm h hown
    rw [if_neg hpct] at h hown ⊢
    by_cases htotal : Str.startsWith expr "running_total(" = true
    · rw [if_pos htotal] at h hown ⊢
      exact buildRunningTotal_withoutJoins hm h hown
    rw [if_neg htotal] at h hown ⊢
    obtain ⟨parsed, hparsed, h⟩ := Res.bind_eq_ok.1 h
    have hstandard := buildStandardAggregation_withoutJoins hm h fun reads hreads =>
      hown reads (by simp only [hparsed, hreads, bind, Except.bind])
    have hparser : (g.withoutJoins m).formulaParser = g.formulaParser := rfl
    simp only [hparser, hparsed, bind, Except.bind]
    exact hstandard
  · rw [if_neg hparse] at h hown ⊢
    exact buildStandardAggregation_withoutJoins hm h hown

/-- The item of a dimension. -/
theorem dimensionItem_withoutJoins (hm : g.model m.name = some m) (d : Dialect) {dim : Dimension}
    (h : OwnField m dim.name) :
    g.dimensionItem d sourceAlias m.name dim = (g.withoutJoins m).dimensionItem d sourceAlias m.name dim := by
  unfold dimensionItem
  rw [qualifyField_withoutJoins hm h, fieldIsGeometry_withoutJoins hm h]

/-- The select list. -/
theorem buildSelectItems_withoutJoins (hm : g.model m.name = some m) (hbase : g.BaseOnly query m) {d : Dialect}
    {items : List SelectItem} (h : g.buildSelectItems query d sourceAlias m.name = .ok items) :
    (g.withoutJoins m).buildSelectItems query d sourceAlias m.name = .ok items := by
  obtain ⟨measures, hmeasures, h⟩ := Res.bind_eq_ok.1 h
  obtain ⟨dimensions, hdimensions, h⟩ := Res.bind_eq_ok.1 h
  have hmeasures' := @Res.mapM_of_mapM _ _ _ _ ((g.withoutJoins m).measureItem sourceAlias m.name) _ _ hmeasures
    fun measure hmeasure item hitem => by
      obtain ⟨expr, hexpr, hitem⟩ := Res.bind_eq_ok.1 hitem
      exact Res.bind_eq_ok.2
        ⟨expr, buildMeasureExpression_withoutJoins hm hexpr (hbase.measures measure hmeasure), hitem⟩
  have hdimensions' := @Res.mapM_of_mapM _ _ _ _ ((g.withoutJoins m).dimensionItem d sourceAlias m.name) _ _ hdimensions
    fun dim hdim item hitem => by
      rw [← dimensionItem_withoutJoins hm d (hbase.fields _ (List.mem_append_left _ (List.mem_map_of_mem hdim)))]
      exact hitem
  exact Res.bind_eq_ok.2 ⟨measures, hmeasures', Res.bind_eq_ok.2 ⟨dimensions, hdimensions', h⟩⟩

/-- The conditions of the WHERE clause. -/
theorem buildConditions_withoutJoins (hm : g.model m.name = some m) (d : Dialect) (mode : ValueMode)
    {filters : List Filter} (h : ∀ f ∈ filters, OwnField m f.field) (first : Bool) (params : List Value) :
    g.buildConditions d sourceAlias m.name mode first params filters =
      (g.withoutJoins m).buildConditions d sourceAlias m.name mode first params filters := by
  induction filters generalizing first params with
  | nil => rfl
  | cons f filters ih =>
    simp only [buildConditions, qualifyField_withoutJoins hm (h f (by simp)),
      ih fun f hf => h f (List.mem_cons_of_mem _ hf)]

theorem buildWhereClause_withoutJoins (hm : g.model m.name = some m) (hbase : g.BaseOnly query m) (d : Dialect)
    (mode : ValueMode) :
    g.buildWhereClause query d sourceAlias m.name mode =
      (g.withoutJoins m).buildWhereClause query d sourceAlias m.name mode := by
  have hfilters : ∀ f ∈ query.filters, OwnField m f.field := fun f hf =>
    hbase.fields f.field (List.mem_append_right _ (List.mem_map_of_mem hf))
  simp only [buildWhereClause, buildConditions_withoutJoins hm d mode hfilters]

theorem buildGroupBy_withoutJoins (hm : g.model m.name = some m) (hbase : g.BaseOnly query m) (d : Dialect) :
    g.buildGroupBy query d sourceAlias m.name = (g.withoutJoins m).buildGroupBy query d sourceAlias m.name := by
  unfold buildGroupBy
  congr 1
  refine List.map_congr_left fun dim hdim => ?_
  exact qualifyField_withoutJoins hm (hbase.fields dim.name (List.mem_append_left _ (List.mem_map_of_mem hdim))) _

/-- The plan without joins. -/
theorem buildLogicalPlan_withoutJoins (hm : g.model m.name = some m) (hread : readName query = some m.name)
    (hbase : g.BaseOnly query m) {d : Dialect} {mode : ValueMode} {plan : LogicalPlan}
    (h : g.buildLogicalPlan query d m.name sourceAlias mode = .ok plan) :
    (g.withoutJoins m).buildLogicalPlan query d m.name sourceAlias mode = .ok plan.withoutJoins := by
  obtain ⟨items, clause, joins, hitems, hclause, hjoins, rfl⟩ := buildLogicalPlan_eq_ok.1 h
  simp only [hm, Option.map_some, Option.getD_some] at hitems hclause
  have hnone := @buildJoins_ok (g.withoutJoins m) query m.withoutJoins hread (model_withoutJoins g m) sourceAlias
  have hitems' := buildSelectItems_withoutJoins hm hbase hitems
  rw [buildWhereClause_withoutJoins hm hbase] at hclause
  refine buildLogicalPlan_eq_ok.2 ⟨items, clause, [], ?_, ?_, hnone, ?_⟩
  · rw [model_withoutJoins]
    exact hitems'
  · rw [model_withoutJoins]
    exact hclause
  · rw [hm, model_withoutJoins]
    simp only [Option.map_some, Option.getD_some, buildGroupBy_withoutJoins hm hbase]
    rfl

/-- **The statement without joins**: that of the query on its base model, less the joins. -/
theorem Statement.withoutJoins {out : GeneratedSql} {plan : LogicalPlan}
    (h : g.Statement query out m sourceAlias plan) (hbase : g.BaseOnly query m) :
    ∃ out', (g.withoutJoins m).Statement query out' m.withoutJoins sourceAlias plan.withoutJoins := by
  obtain ⟨sourceTable, sourceAlias', bound, shown, hsource, hbound, hshown, -⟩ := generate_eq_ok.1 h.generated
  obtain ⟨rfl, rfl⟩ := Prod.mk.inj (Except.ok.inj (hsource.symm.trans h.source))
  have hdialect := dialectFor_withoutJoins h.model
  have hmodel := model_withoutJoins g m
  have hsource' : (g.withoutJoins m).resolveSource query = .ok (m.name, sourceAlias') :=
    resolveSource_eq_ok.2 ⟨h.read, by rw [hmodel]; rfl, h.readAlias⟩
  have hplanned := buildLogicalPlan_withoutJoins h.model h.read hbase h.planned
  have hshown' := buildLogicalPlan_withoutJoins h.model h.read hbase hshown
  rw [← hdialect] at hplanned hshown'
  exact ⟨_, generate_eq_ok.2 ⟨m.name, sourceAlias', _, _, hsource', hplanned, hshown', rfl⟩, hsource', hmodel, hplanned⟩

end

end SqlGenerator

end GraphNight
