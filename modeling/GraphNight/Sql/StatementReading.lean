import GraphNight.Lib.Traverse
import GraphNight.Sql.MeasureReading

/-!
# What a database reads of a query's statement

Each clause of a generated statement is read as what the query says in that place, and the
statement is one that a database takes.
-/

namespace GraphNight

open SqlText

/-- A filter that is expressible is built. -/
theorem Expressible.built {d : Dialect} {f : Filter} (h : Expressible d f) : ¬Refused d f ∧ ¬OutOfRange f := by
  constructor
  · rintro (⟨hspatial, hnot⟩ | ⟨hlist, hnone⟩)
    · exact hnot (h.spatial hspatial)
    · rcases hlist with hin | hin | htwo
      · obtain ⟨v, vs, hvalue⟩ := h.members (.inl hin)
        rw [hvalue] at hnone
        cases hnone
      · obtain ⟨v, vs, hvalue⟩ := h.members (.inr hin)
        rw [hvalue] at hnone
        cases hnone
      · exact Bool.false_ne_true (h.notRange.symm.trans htwo)
  · exact fun hrange => Bool.false_ne_true (h.notRange.symm.trans hrange.1)

/-- What a filter is read as is about its column. -/
theorem Filter.column_of_read {d : Dialect} {column : Column} {f : Filter} {p : Predicate Column Value Geometry}
    (h : f.read d column = some p) : p.column = column := by
  unfold Filter.read at h
  cases hop : f.operator <;> simp only [hop] at h
  case between => cases h
  case notBetween => cases h
  case iLike | intersects | within | contains =>
    obtain ⟨-, h⟩ := Option.ite_none_right_eq_some.1 h
    obtain rfl := Option.some.inj h
    rfl
  case «in» | notIn =>
    obtain ⟨-, h⟩ := Option.ite_none_left_eq_some.1 h
    obtain rfl := Option.some.inj h
    rfl
  all_goals
    obtain rfl := Option.some.inj h
    rfl

namespace SqlGenerator

section

variable (g : SqlGenerator) (m : Model) (sourceAlias : String)

/-! ## The statement of a query -/

/-- What a dimension is selected as. -/
def dimensionExpr (dim : Dimension) : RowExpr :=
  if g.fieldIsGeometry m.name dim.name then .geoJson (g.columnExpr m sourceAlias dim.name)
  else .column (g.columnExpr m sourceAlias dim.name)

/-- The bucket of a time dimension. -/
def timeExpr (td : TimeDimension) : RowExpr :=
  .bucket ((bucketExpr (g.dialectFor m.name) td.granularity).getD (.dateTrunc "")) ⟨sourceAlias, td.dimension⟩

/-- The comparison of a filter. -/
def filterExpr (f : Filter) : Predicate Column Value Geometry :=
  (f.read (g.dialectFor m.name) (g.columnExpr m sourceAlias f.field)).getD (.null false (g.columnExpr m sourceAlias f.field))

/-- The condition of the filters. -/
def conditionExpr : List Filter → Option (FlatCondition (Predicate Column Value Geometry))
  | [] => none
  | f :: fs => some ((flatFilters f fs).map (g.filterExpr m sourceAlias))

/-- What a statement is read as. -/
def statementExpr (query : Query) (measures : List AskedMeasure) : SelectStatement where
  outputs :=
    measures.map (fun asked => .ofGroup (g.measureExpr m sourceAlias asked)) ++
      query.dimensions.map (fun dim => .ofRow (g.dimensionExpr m sourceAlias dim)) ++
      query.timeDimensions.map fun td => .ofRow (g.timeExpr m sourceAlias td)
  condition := g.conditionExpr m sourceAlias query.filters
  groupBy :=
    query.dimensions.map (fun dim => .column (g.columnExpr m sourceAlias dim.name)) ++
      query.timeDimensions.map (g.timeExpr m sourceAlias)
  orderBy := query.order.map fun order => (.column (g.columnExpr m sourceAlias order.field), order.descending)
  distinct := query.distinctDimensionValues.getD false
  window := ⟨query.offset.getD 0, query.limit⟩

end

variable {g : SqlGenerator} {query : Query} {out : GeneratedSql} {m : Model} {sourceAlias : String} {plan : LogicalPlan}
  {words : Words} {measures : List AskedMeasure}

/-! ## Clause by clause -/

theorem readOutput_ofRow {d : Dialect} {scope : List String} {t : SqlText} {e : RowExpr} (hrow : readRowExpr words d scope t = some e)
    (hgroup : readGroupExpr words d scope t = none) : readOutput words d scope t = some (.ofRow e) := by
  rw [readOutput, hgroup, hrow]
  rfl

/-- A bucket that the dialect keeps is one of its functions. -/
theorem bucketExpr_of_kept {d : Dialect} {granularity : TimeGranularity} (h : ∀ t t', BucketsKept d granularity t t') :
    ∃ b, bucketExpr d granularity = some b := by
  cases d with
  | sqlite =>
    cases granularity with
    | quarter => exact absurd (h newYear newYear) id
    | _ => exact ⟨_, rfl⟩
  | _ => cases granularity <;> exact ⟨_, rfl⟩

/-- Without a clause there is no filter. -/
theorem filters_nil_of_no_clause {d : Dialect} {params : List Value}
    (h : g.buildWhereClause query d sourceAlias m.name .placeholder = .ok (params, none)) : query.filters = [] := by
  unfold buildWhereClause at h
  split_ifs at h with hempty
  · exact List.isEmpty_iff.1 hempty
  · obtain ⟨built, -, h⟩ := Res.bind_eq_ok.1 h
    cases h

section

variable (ha : Answerable words g m sourceAlias query measures)

include ha

theorem read_time {td : TimeDimension} (htd : td ∈ query.timeDimensions) :
    readRowExpr words (g.dialectFor m.name) (g.linkAliases m sourceAlias) (timeDimExpr (g.dialectFor m.name) td sourceAlias) =
      some (g.timeExpr m sourceAlias td) := by
  obtain ⟨hsees, hcolumn, hkept⟩ := ha.times td htd
  obtain ⟨b, hb⟩ := bucketExpr_of_kept hkept
  rw [readRowExpr_bucket hsees hcolumn hb, timeExpr, hb]
  rfl

theorem readOutput_time {td : TimeDimension} (htd : td ∈ query.timeDimensions) :
    readOutput words (g.dialectFor m.name) (g.linkAliases m sourceAlias) (timeDimExpr (g.dialectFor m.name) td sourceAlias) =
      some (.ofRow (g.timeExpr m sourceAlias td)) := by
  refine readOutput_ofRow (read_time ha htd) ?_
  have hpre : (bucketTexts (g.dialectFor m.name) td.granularity).1 ≠ "(" ∧
      (bucketTexts (g.dialectFor m.name) td.granularity).1 ≠ "COUNT(DISTINCT " := by
    cases g.dialectFor m.name <;> cases td.granularity <;> decide
  rw [timeDimExpr, dateTrunc_eq]
  show (if (bucketTexts (g.dialectFor m.name) td.granularity).1 = "(" then _ else
    if (bucketTexts (g.dialectFor m.name) td.granularity).1 = "COUNT(DISTINCT " then _ else if _ ∧ _ = _ then _ else none) = _
  rw [if_neg hpre.1, if_neg hpre.2, if_neg]
  rintro ⟨-, hhead⟩
  cases hhead

theorem readOutput_dimension {dim : Dimension} (hdim : dim ∈ query.dimensions) {item : SelectItem}
    (hitem : g.dimensionItem (g.dialectFor m.name) sourceAlias m.name dim = .ok item) :
    readOutput words (g.dialectFor m.name) (g.linkAliases m sourceAlias) item.expression =
      some (.ofRow (g.dimensionExpr m sourceAlias dim)) := by
  obtain ⟨-, ⟨hsees, hname⟩, htext⟩ := (ha.dimensions dim hdim).column
  obtain ⟨-, hparts⟩ := dimensionItem_parts hitem
  rw [dimensionExpr]
  obtain ⟨hgeo, hexpr⟩ | ⟨hgeo, hexpr⟩ := hparts
  · rw [if_pos hgeo]
    rw [htext] at hexpr
    refine readOutput_ofRow (readRowExpr_geoJson hsees hname hexpr) ?_
    cases hd : g.dialectFor m.name with
    | mySql | sqlite =>
      rw [hd] at hexpr
      cases hexpr
    | postgres | duckDb =>
      rw [hd] at hexpr
      obtain heq := Option.some.inj hexpr
      rw [← heq]
      rfl
  · rw [hgeo, if_neg Bool.false_ne_true, hexpr, ← qualifyField_eq]
    refine readOutput_ofRow (ha.dimensions dim hdim).read ?_
    rw [htext]
    rfl

/-- What a statement selects. -/
theorem read_items (h : g.Statement query out m sourceAlias plan)
    (hasked : List.Forall₂ (AsksFor g.formulaParser) query.measures measures) :
    plan.selectItems.mapM (fun item => readOutput words (g.dialectFor m.name) (g.linkAliases m sourceAlias) item.expression) =
      some (g.statementExpr m sourceAlias query measures).outputs := by
  obtain ⟨measureItems, dimensionItems, hmeasures, hdimensions, hitems⟩ := h.items_eq
  rw [hitems]
  refine Traverse.mapM_append_some (Traverse.mapM_append_some ?_ ?_) ?_
  · rw [Traverse.mapM_eq_some, List.forall₂_map_right_iff]
    refine Traverse.forall₂_of_common (Res.forall₂_of_mapM hmeasures) hasked fun measure item asked hmem hitem hasks => ?_
    obtain ⟨t, hbuilt, hitem⟩ := Res.bind_eq_ok.1 hitem
    obtain rfl := Except.ok.inj hitem
    obtain rfl := hasks.built hbuilt
    rw [readOutput, (ha.measures asked hmem).read]
    rfl
  · rw [Traverse.mapM_eq_some, List.forall₂_map_right_iff]
    have hsame : List.Forall₂ (· = ·) query.dimensions query.dimensions := List.forall₂_same.2 fun _ _ => rfl
    refine Traverse.forall₂_of_common (Res.forall₂_of_mapM hdimensions) hsame ?_
    rintro dim item dim' hmem hitem rfl
    exact readOutput_dimension ha hmem hitem
  · exact Traverse.mapM_map_eq fun td htd => readOutput_time ha htd

/-- What it groups by. -/
theorem read_groupBy (h : g.Statement query out m sourceAlias plan) :
    plan.groupBy.mapM (readRowExpr words (g.dialectFor m.name) (g.linkAliases m sourceAlias)) =
      some (g.statementExpr m sourceAlias query measures).groupBy := by
  rw [h.groupBy_eq]
  refine Traverse.mapM_append_some ?_ ?_
  · exact Traverse.mapM_map_eq fun dim hdim => (ha.dimensions dim hdim).read
  · exact Traverse.mapM_map_eq fun td htd => read_time ha htd

/-- An order entry is the column of a dimension. -/
theorem order_column {order : OrderBy} (horder : order ∈ query.order) : ∃ dim ∈ query.dimensions,
    g.columnExpr m sourceAlias order.field = g.columnExpr m sourceAlias dim.name ∧
      readRowExpr words (g.dialectFor m.name) (g.linkAliases m sourceAlias) (orderByItem sourceAlias order).column =
        some (.column (g.columnExpr m sourceAlias order.field)) := by
  obtain ⟨dim, hdim, hnamed, hfield, hdotted⟩ := ha.orders order horder
  obtain ⟨hcolumn, ⟨hsees, hname⟩, -⟩ := (ha.dimensions dim hdim).column
  have hsame : g.columnExpr m sourceAlias order.field = g.columnExpr m sourceAlias dim.name := by
    rw [columnExpr, hfield]
    rfl
  refine ⟨dim, hdim, hsame, ?_⟩
  rw [hsame]
  rw [hcolumn] at hnamed hdotted
  generalize g.columnExpr m sourceAlias dim.name = c at hnamed hdotted hsees hname
  unfold orderColumn at hnamed
  unfold orderByItem
  by_cases hdot : Str.containsChar order.field '.' = true
  · rw [if_pos hdot] at hnamed ⊢
    obtain ⟨p, hp, rfl⟩ := Option.map_eq_some_iff.1 hnamed
    have hread : readColumn words (g.dialectFor m.name) (g.linkAliases m sourceAlias) false p.1 p.2 = some ⟨p.1, p.2⟩ :=
      if_pos ⟨hsees, hdotted hdot _ rfl⟩
    show ((Str.rsplitOnce order.field '.').bind fun p => (readColumn _ _ _ false p.1 p.2).map RowExpr.column) = _
    rw [hp, Option.bind_some, hread]
    rfl
  · rw [if_neg hdot] at hnamed ⊢
    obtain rfl := Option.some.inj hnamed
    exact readRowExpr_qualified hsees hname

/-- What it sorts by. -/
theorem read_orderBy (h : g.Statement query out m sourceAlias plan) :
    plan.orderBy.mapM (fun item => (readRowExpr words (g.dialectFor m.name) (g.linkAliases m sourceAlias) item.column).map
        (·, item.descending)) =
      some (g.statementExpr m sourceAlias query measures).orderBy := by
  rw [h.orderBy_eq]
  refine Traverse.mapM_map_eq fun order horder => ?_
  obtain ⟨-, -, -, hread⟩ := order_column ha horder
  rw [hread]
  rfl

/-- The page it selects. -/
theorem read_window (h : g.Statement query out m sourceAlias plan) :
    readWindow (g.dialectFor m.name)
        (Str.words ((g.dialectFor m.name).render ((g.dialectFor m.name).limitOffset [] plan.limit plan.offset))) =
      some (g.statementExpr m sourceAlias query measures).window := by
  obtain ⟨items, clause, joins, -, -, -, rfl⟩ := h.parts
  rw [readWindow_limitOffset, if_pos ha.counts]
  have hpage := ha.page
  show _ = some (Window.mk (query.offset.getD 0) query.limit)
  cases hd : g.dialectFor m.name with
  | postgres | duckDb => rfl
  | sqlite =>
    rw [hd] at hpage
    cases hlimit : query.limit with
    | some l => cases query.offset <;> rfl
    | none => rw [hpage hlimit]
  | mySql =>
    rw [hd] at hpage
    cases hoffset : query.offset with
    | none => cases query.limit <;> rfl
    | some o =>
      rw [hpage (by rw [hoffset]; exact Option.some_ne_none o), hoffset]
      rfl

/-- A comparison is read as its filter. -/
theorem read_filter {f : Filter} (hf : f ∈ query.filters) :
    f.read (g.dialectFor m.name) (g.columnExpr m sourceAlias f.field) = some (g.filterExpr m sourceAlias f) ∧
      readComparison words (g.dialectFor m.name) (g.linkAliases m sourceAlias)
        (g.filterPredicate (g.dialectFor m.name) sourceAlias m.name f) = some (g.filterExpr m sourceAlias f) := by
  obtain ⟨hexpressible, hseen⟩ := ha.filters f hf
  obtain ⟨-, ⟨hsees, hname⟩, htext⟩ := hseen.column
  obtain ⟨hrefused, hrange⟩ := hexpressible.built
  have hread : f.read (g.dialectFor m.name) (g.columnExpr m sourceAlias f.field) = some (g.filterExpr m sourceAlias f) := by
    obtain ⟨p, hp⟩ := Option.isSome_iff_exists.1 ((read_isSome_iff hrefused).2 hexpressible).2
    rw [filterExpr, hp]
    rfl
  refine ⟨hread, ?_⟩
  have howner : words.unquoted (g.columnExpr m sourceAlias f.field).owner = true := by
    rw [Dialect.sees, Bool.and_eq_true, Bool.and_eq_true] at hsees
    exact hsees.1.1
  have hpieces : PiecesRead words.unquoted (g.dialectFor m.name) .placeholder (g.columnExpr m sourceAlias f.field) f :=
    ⟨howner, hname, fun _ _ => rfl⟩
  rw [readComparison, filterPredicate, htext, read_predicate hpieces hrefused hrange]
  show (f.read (g.dialectFor m.name) (g.columnExpr m sourceAlias f.field)).filter _ = _
  rw [hread, Option.filter_some, Filter.column_of_read hread, if_pos hsees]

/-- What it is conditioned on. -/
theorem read_where (h : g.Statement query out m sourceAlias plan) :
    readWhere words (g.dialectFor m.name) (g.linkAliases m sourceAlias) plan.params plan.whereClause =
      some (g.statementExpr m sourceAlias query measures).condition := by
  have hbuilt := h.where_eq
  show _ = some (g.conditionExpr m sourceAlias query.filters)
  cases hclause : plan.whereClause with
  | none =>
    rw [hclause] at hbuilt
    rw [filters_nil_of_no_clause hbuilt]
    rfl
  | some t =>
    rw [hclause] at hbuilt
    obtain ⟨f, fs, hfilters, -, hread⟩ := read_buildWhereClause hbuilt
    have hone {f' : Filter} (hf' : f' ∈ f :: fs) :
        readComparison words (g.dialectFor m.name) (g.linkAliases m sourceAlias)
          (g.filterPredicate (g.dialectFor m.name) sourceAlias m.name f') = some (g.filterExpr m sourceAlias f') :=
      (read_filter ha (hfilters ▸ hf')).2
    have hrest : ((flatFilters f fs).map (g.filterPredicate (g.dialectFor m.name) sourceAlias m.name)).rest.mapM
        (fun p => (readComparison words (g.dialectFor m.name) (g.linkAliases m sourceAlias) p.2).map (p.1, ·)) =
          some ((flatFilters f fs).map (g.filterExpr m sourceAlias)).rest := by
      refine Traverse.mapM_map_eq fun p hp => ?_
      obtain ⟨f', hf', rfl⟩ := List.mem_map.1 hp
      rw [hone (List.mem_cons_of_mem _ hf')]
      rfl
    have hfirst := hone (List.mem_cons_self (a := f) (l := fs))
    rw [readWhere, hread, readComparisons, hrest]
    show (((readComparison _ _ _ _).bind fun first => some (FlatCondition.mk first _)).map some) = _
    rw [hfilters]
    show ((readComparison _ _ _ (g.filterPredicate (g.dialectFor m.name) sourceAlias m.name f)).bind _).map some = _
    rw [hfirst]
    rfl

/-- The statement is one a database takes. -/
theorem isValid_statementExpr (hasked : List.Forall₂ (AsksFor g.formulaParser) query.measures measures) :
    (g.statementExpr m sourceAlias query measures).isValid = true := by
  have hlength := hasked.length_eq
  have houtputs : (g.statementExpr m sourceAlias query measures).outputs ≠ [] := by
    intro hnil
    simp only [statementExpr, List.append_eq_nil_iff, List.map_eq_nil_iff] at hnil
    obtain ⟨⟨rfl, hdims⟩, htimes⟩ := hnil
    rw [List.length_nil, List.length_eq_zero_iff] at hlength
    exact ha.asked.elim (· hlength) (Or.elim · (· hdims) (· htimes))
  have hgrouped : ∀ o ∈ (g.statementExpr m sourceAlias query measures).outputs,
      o.ofGroups (g.statementExpr m sourceAlias query measures).groupBy = true := by
    intro o ho
    simp only [statementExpr, List.mem_append, List.mem_map] at ho
    obtain (⟨asked, -, rfl⟩ | ⟨dim, hdim, rfl⟩) | ⟨td, htd, rfl⟩ := ho
    · rfl
    · have hmem : RowExpr.column (g.columnExpr m sourceAlias dim.name) ∈
          (g.statementExpr m sourceAlias query measures).groupBy :=
        List.mem_append_left _ (List.mem_map.2 ⟨dim, hdim, rfl⟩)
      rw [dimensionExpr]
      split_ifs
      · exact List.contains_iff_mem.2 hmem
      · exact List.contains_iff_mem.2 hmem
    · exact List.contains_iff_mem.2 (List.mem_append_right _ (List.mem_map.2 ⟨td, htd, rfl⟩))
  have hsorted : ∀ p ∈ (g.statementExpr m sourceAlias query measures).orderBy,
      (g.statementExpr m sourceAlias query measures).groupBy.contains p.1 = true := by
    intro p hp
    obtain ⟨order, horder, rfl⟩ := List.mem_map.1 hp
    obtain ⟨dim, hdim, hsame, -⟩ := order_column ha horder
    exact List.contains_iff_mem.2 (List.mem_append_left _ (List.mem_map.2 ⟨dim, hdim, by rw [hsame]⟩))
  have hdistinct : query.distinctDimensionValues.getD false = true → ∀ p ∈ (g.statementExpr m sourceAlias query measures).orderBy,
      (g.statementExpr m sourceAlias query measures).outputs.contains (.ofRow p.1) = true := by
    intro hdistinct p hp
    obtain ⟨order, horder, rfl⟩ := List.mem_map.1 hp
    obtain ⟨dim, hdim, hsame, -⟩ := order_column ha horder
    have hasksDistinct : query.distinctDimensionValues = some true := by
      cases hvalue : query.distinctDimensionValues with
      | none =>
        rw [hvalue] at hdistinct
        cases hdistinct
      | some b =>
        rw [hvalue] at hdistinct
        exact congrArg some hdistinct
    have hexpr : g.dimensionExpr m sourceAlias dim = .column (g.columnExpr m sourceAlias order.field) := by
      rw [dimensionExpr, ha.distinct hasksDistinct dim hdim, if_neg Bool.false_ne_true, hsame]
    refine List.contains_iff_mem.2 (List.mem_append_left _ (List.mem_append_right _ (List.mem_map.2 ⟨dim, hdim, ?_⟩)))
    rw [hexpr]
  unfold SelectStatement.isValid
  rw [Bool.and_eq_true, Bool.and_eq_true, Bool.and_eq_true, List.all_eq_true, List.all_eq_true]
  refine ⟨⟨⟨?_, hgrouped⟩, hsorted⟩, ?_⟩
  · simpa using houtputs
  · show (!query.distinctDimensionValues.getD false || _) = true
    cases hvalue : query.distinctDimensionValues.getD false with
    | false => rfl
    | true => exact List.all_eq_true.2 (hdistinct hvalue)

/-- **The statement of a query is read** as what the query says. -/
theorem read_statement (h : g.Statement query out m sourceAlias plan)
    (hasked : List.Forall₂ (AsksFor g.formulaParser) query.measures measures) :
    SelectStatement.read words (g.dialectFor m.name) plan = some (g.statementExpr m sourceAlias query measures) := by
  have hdistinct : plan.distinct = query.distinctDimensionValues.getD false := by
    obtain ⟨items, clause, joins, -, -, -, rfl⟩ := h.parts
    rfl
  have hlabels : plan.labels = query.selectedNames := by
    have hnames := congrArg (List.filterMap id) h.aliasNames
    simpa [LogicalPlan.labels, List.filterMap_map] using hnames
  unfold SelectStatement.read
  simp only [bind, Option.bind, h.introduced_eq, read_items ha h hasked, read_where ha h, read_groupBy ha h,
    read_orderBy ha h, read_window ha h, hdistinct, hlabels]
  exact if_pos ⟨⟨ha.tables.hasFrom h, ha.labels⟩, isValid_statementExpr ha hasked⟩

end

end SqlGenerator

end GraphNight
