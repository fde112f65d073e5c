import GraphNight.Runtime.AgentFormulas
import GraphNight.Runtime.Catalog
import GraphNight.Runtime.Llm
import GraphNight.Sql.Statement
import GraphNight.Storage.Yaml

/-!
# The examples a model is shown with

`get_model` shows worked queries beside a model's schema. They are shorthand texts made from the first
measure, dimension and time dimension of the model, and each is again read, checked against the model's
fields and compiled.
-/

namespace GraphNight

open Suggest SqlGenerator

/-! ## Queries in JSON -/

namespace ToolQuery

/-- A list of texts, empty where the entry is missing. -/
def readTexts : Option Value → Option (List String)
  | none => some []
  | some value => value.asArray.bind fun items => items.mapM Value.asStr

/-- An entry that may be missing or null. -/
def readOption {α : Type} (read : Value → Option α) : Option Value → Option (Option α)
  | none | some .null => some none
  | some value => (read value).map some

/-- `u32` from a JSON number. -/
def readU32 (value : Value) : Option Nat := value.asU64.filter (· < UInt32.size)

/-- `Deserialize`, from the entries of an object. -/
def ofObject (fields : List (String × Value)) : Option ToolQuery := do
  return {
    name := ← readOption Value.asStr (fields.lookup "name")
    measures := ← readTexts (fields.lookup "measures")
    dimensions := ← readTexts (fields.lookup "dimensions")
    timeDimensions := ← readTexts (fields.lookup "time_dimensions")
    filters := ← readTexts (fields.lookup "filters")
    order := ← readTexts (fields.lookup "order")
    limit := ← readOption readU32 (fields.lookup "limit")
    offset := ← readOption readU32 (fields.lookup "offset")
    stageRef := ← readOption Value.asStr (fields.lookup "stage_ref") }

end ToolQuery

/-! ## Measures and filters an agent may write -/

/-- The aggregations an agent's measure may end in. -/
def agentAggregationNames : List String :=
  ["sum", "avg", "average", "mean", "count", "min", "max", "count_distinct", "countdistinct", "distinct"]

/-- The operators an agent's filter may have. -/
def agentOperatorNames : List String :=
  ["eq", "=", "neq", "!=", "ne", "gt", ">", "gte", ">=", "ge", "lt", "<", "lte", "<=", "le", "like", "ilike", "in", "not_in", "nin",
    "is_null", "isnull", "is_not_null", "isnotnull", "between", "not_between", "notbetween"]

/-- An expression that compiles: a formula the parser takes apart, or a column or a call. -/
structure FormulaParser.Compiles (fp : FormulaParser) (expr : String) : Prop where
  timeShift : FormulaParser.needsParse (Str.trim expr) = true → Str.startsWith (Str.trim expr) "time_shift(" = true →
    ∃ inner offset granularity measure, fp.timeShiftCaptures (Str.trim expr) = some (inner, offset, granularity) ∧
      fp.parseMeasure (Str.trim inner) = .ok measure
  formula : FormulaParser.needsParse (Str.trim expr) = true → Str.startsWith (Str.trim expr) "time_shift(" = false →
    ¬FormulaRefused fp (Str.trim expr)
  plain : FormulaParser.needsParse (Str.trim expr) = false → ∃ call, parseFunctionCall expr = .ok call

/-- A measure an agent may write: `*`, or an expression that compiles with the name of an aggregation behind
the last colon. -/
def AgentMeasure (fp : FormulaParser) (text : String) : Prop :=
  Str.trim text = "*" ∨ ∃ column word, Str.trim text = column ++ ":" ++ word ∧ ':' ∉ word.toList ∧ Str.trim column ≠ "" ∧
    Str.toAsciiLowercase (Str.trim word) ∈ agentAggregationNames ∧ fp.Compiles (Str.trim column)

/-! ## What examples are like -/

/-- The measure of the first example. -/
def totalText (measure : Measure) : String :=
  let agg := Str.toAsciiLowercase measure.aggregation.sqlFunction
  let agg := if agg = "count(distinct " then "count_distinct" else agg
  if measure.formula.expression = "*" then "*" else measure.formula.expression ++ ":" ++ agg

/-- A dimension an example may group by: its trimmed name is a field's, and its dialect can select it. -/
structure GroupsBy (g : SqlGenerator) (model : Model) (name : String) : Prop where
  ne_blank : Str.trim name ≠ ""
  known : Str.trim name ∈ fieldNames model
  selected : g.fieldIsGeometry model.name (Str.trim name) = true → g.dialectFor model.name = .postgres ∨ g.dialectFor model.name = .duckDb

/-- A dimension an example may filter on. A name with a colon is taken for a field and an operator. -/
def FiltersOn (model : Model) (name : String) : Prop :=
  ':' ∈ name.toList → Str.trim (filterParts name).1 ≠ "" ∧ Str.trim (filterParts name).1 ∈ fieldNames model ∧
    Str.toAsciiLowercase (Str.trim (filterParts name).2.1) ∈ agentOperatorNames

/-- What a model must be like for its examples to work. -/
structure Exemplary (g : SqlGenerator) (model : Model) : Prop where
  name : model.measures ≠ [] ∨ model.dimensions ≠ [] ∨ model.timeDimensions ≠ [] → Str.trim model.name ≠ ""
  total : ∀ measure ∈ model.measures.head?, AgentMeasure g.formulaParser (totalText measure)
  beside : model.dimensions ≠ [] ∨ model.timeDimensions ≠ [] → AgentMeasure g.formulaParser (exampleMeasure model)
  grouped : ∀ dim ∈ model.dimensions.head?, GroupsBy g model dim.name
  filtered : ∀ dim ∈ model.dimensions.head?, FiltersOn model dim.name
  timed : ∀ td ∈ model.timeDimensions.head?, '@' ∉ td.dimension.toList ∧ Str.trim td.dimension ≠ ""

/-! ## What becomes of an example -/

section

variable {σ : Type} (b : Backend σ) (s : σ) (ctx : CallContext) (std : RustStd) (g : SqlGenerator)

/-- A query of an agent is read, finds its fields and compiles. -/
def QueryWorks (input : ToolQuery) : Prop :=
  ∃ query out, toCoreQuery std input = .ok query ∧ ToolCatalog.checkFields b s ctx std query = .ok () ∧ g.generate query = .ok out

/-- The query of an example works. -/
def ExampleWorks (example' : Value) : Prop :=
  ∃ fields query input, example' = .object fields ∧ fields.lookup "query" = some (.object query) ∧
    ToolQuery.ofObject query = some input ∧ QueryWorks b s ctx std g input

end

/-! ## The texts of a query -/

namespace Suggest

variable {std : RustStd} {fp : FormulaParser}

theorem parseOperator_iff {name : String} : (∃ o, parseOperator std name = .ok o) ↔ name ∈ agentOperatorNames := by
  constructor
  · rintro ⟨o, h⟩
    unfold parseOperator at h
    split at h
    all_goals first
      | exact absurd h Res.fail_ne_ok
      | decide
  · intro h
    simp only [agentOperatorNames, List.mem_cons, List.not_mem_nil, or_false] at h
    rcases h with rfl | rfl | rfl | rfl | rfl | rfl | rfl | rfl | rfl | rfl | rfl | rfl | rfl | rfl | rfl | rfl | rfl | rfl | rfl | rfl | rfl | rfl |
      rfl | rfl | rfl | rfl | rfl
    all_goals exact ⟨_, rfl⟩

/-- **The measures that are read**, and what they aggregate. -/
theorem parseMeasure_cases {text : String} {measure : Measure} (h : parseMeasure std text = .ok measure) :
    Str.trim text = "*" ∧ measure.formula.expression = "*" ∨ ∃ column word, Str.trim text = column ++ ":" ++ word ∧ ':' ∉ word.toList ∧
      Str.trim column ≠ "" ∧ Str.toAsciiLowercase (Str.trim word) ∈ agentAggregationNames ∧ measure.formula.expression = Str.trim column := by
  unfold parseMeasure at h
  dsimp only at h
  split_ifs at h with hempty hstar
  · exact absurd h Res.fail_ne_ok
  · obtain rfl := Except.ok.inj h
    exact .inl ⟨hstar, rfl⟩
  split at h
  · exact absurd h Res.fail_ne_ok
  rename_i column word hsplit
  obtain ⟨⟨before, after⟩, hlast, hpair⟩ := Option.map_eq_some_iff.1 hsplit
  obtain ⟨rfl, rfl⟩ := Prod.mk.inj hpair
  obtain ⟨htext, hafter⟩ := Str.splitLast_eq_some.1 hlast
  split_ifs at h with hblank
  · exact absurd h Res.fail_ne_ok
  refine .inr ⟨String.ofList before, String.ofList after, String.toList_injective (by simpa using htext), by simpa using hafter, hblank, ?_⟩
  split at h
  all_goals first
    | exact absurd h Res.fail_ne_ok
    | (rename_i hname
       obtain rfl := Except.ok.inj h
       rw [hname]
       exact ⟨by decide, rfl⟩)

theorem exists_parseMeasure {text column word : String} (htext : Str.trim text = column ++ ":" ++ word) (hword : ':' ∉ word.toList)
    (hcolumn : Str.trim column ≠ "") (hname : Str.toAsciiLowercase (Str.trim word) ∈ agentAggregationNames) :
    ∃ measure, parseMeasure std text = .ok measure ∧ measure.formula.expression = Str.trim column := by
  have hempty : column ++ ":" ++ word ≠ "" := fun h => by simpa using congrArg String.toList h
  have hstar : column ++ ":" ++ word ≠ "*" := by
    intro h
    have hmem : ':' ∈ (column ++ ":" ++ word).toList := by simp
    rw [h] at hmem
    exact absurd hmem (by decide)
  have hsplit : Str.rsplitOnce (column ++ ":" ++ word) ':' = some (column, word) := Str.rsplitOnce_append hword column
  unfold parseMeasure
  dsimp only
  rw [htext, if_neg hempty, if_neg hstar, hsplit]
  dsimp only
  rw [if_neg hcolumn]
  simp only [agentAggregationNames, List.mem_cons, List.not_mem_nil, or_false] at hname
  obtain h | h | h | h | h | h | h | h | h | h := hname
  all_goals
    rw [h]
    exact ⟨_, rfl, rfl⟩

end Suggest

/-! ## What compiles -/

namespace Suggest

variable {std : RustStd}

/-- No spatial operator is read, and each that is read has SQL. -/
theorem parseOperator_plain {name : String} {o : FilterOperator} (h : parseOperator std name = .ok o) :
    o.spatialFunction = none ∧ ∃ op, o.sqlOperator = some op := by
  unfold parseOperator at h
  split at h
  all_goals first
    | exact absurd h Res.fail_ne_ok
    | (obtain rfl := Except.ok.inj h
       exact ⟨rfl, _, rfl⟩)

/-- **A filter that is read has a condition.** -/
theorem exists_buildCondition {spec : String} {filter : Filter} (h : parseFilter std spec = .ok filter) (d : Dialect) (mode : ValueMode)
    (column : SqlText) (params : List Value) : ∃ out, buildCondition d mode column params filter = .ok out := by
  obtain ⟨haccepted, hfilter⟩ := parseFilter_eq_ok.1 h
  obtain ⟨hspatial, op, hop⟩ := parseOperator_plain haccepted.operator
  have hvalue : filter.value = coerceValue std filter.operator (filterParts spec).2.2 := congrArg (·.value) hfilter
  generalize filter.operator = o at *
  have hlist : o = .in ∨ o = .notIn → ∃ items, filter.value = .array items := by
    rw [hvalue]
    rintro (rfl | rfl)
    · exact ⟨_, rfl⟩
    · exact ⟨_, rfl⟩
  have hpair : o.needsTwoValues = true → ∃ low high, filter.value = .array [low, high] := by
    rw [hvalue, coerceValue_eq]
    intro htwo
    have hvalued : o.isValueless = false := by
      cases o <;> first
        | rfl
        | cases htwo
    simp only [hvalued, htwo, pieces, Bool.false_eq_true, if_true, if_false, List.map_cons, List.map_nil]
    exact ⟨_, _, rfl⟩
  have hoperator : filter.operator = o := by rw [hfilter]
  unfold buildCondition
  rw [hoperator, hspatial]
  simp only [hop, Res.ofOption, bind, Except.bind]
  by_cases hin : o = .in ∨ o = .notIn
  · obtain ⟨items, hitems⟩ := hlist hin
    rw [hitems, if_pos hin]
    exact ⟨_, rfl⟩
  by_cases htwo : o.needsTwoValues = true
  · obtain ⟨low, high, hvalues⟩ := hpair htwo
    have hneeds : (o.needsValue && o.needsTwoValues) = true := by
      cases o <;> first
        | rfl
        | cases htwo
    rw [hvalues, if_neg hin, if_pos hneeds]
    exact ⟨_, rfl⟩
  · rw [if_neg hin, if_neg (by simp [htwo])]
    cases o.needsValue with
    | true => exact ⟨_, rfl⟩
    | false => exact ⟨_, rfl⟩

end Suggest

namespace SqlGenerator

variable {g : SqlGenerator} {sourceAlias base : String}

/-- **The measures that compile.** -/
theorem exists_buildMeasureExpression_iff {measure : Measure} :
    (∃ sql, g.buildMeasureExpression sourceAlias base measure = .ok sql) ↔ g.formulaParser.Compiles measure.formula.expression := by
  unfold buildMeasureExpression
  dsimp only
  cases hneeds : FormulaParser.needsParse (Str.trim measure.formula.expression) with
  | true =>
    cases hshift : Str.startsWith (Str.trim measure.formula.expression) "time_shift(" with
    | true =>
      rw [if_pos rfl, if_pos rfl]
      unfold buildTimeShiftExpression
      simp only [Res.bind_eq_ok, Res.ofOption_eq_ok, pure, Except.pure, Except.ok.injEq]
      constructor
      · rintro ⟨sql, ⟨inner, offset, granularity⟩, hcaps, parsed, hparse, -⟩
        exact ⟨fun _ _ => ⟨inner, offset, granularity, parsed, hcaps, hparse⟩, fun _ h => (by rw [hshift] at h; cases h),
          fun h => (by rw [hneeds] at h; cases h)⟩
      · intro h
        obtain ⟨inner, offset, granularity, parsed, hcaps, hparse⟩ := h.timeShift hneeds hshift
        exact ⟨_, (inner, offset, granularity), hcaps, parsed, hparse, rfl⟩
    | false =>
      have hbuild := @buildMeasureExpression_of_formula g sourceAlias base measure hneeds hshift
      unfold buildMeasureExpression at hbuild
      dsimp only at hbuild
      rw [hneeds, hshift] at hbuild
      have hcompiles : g.formulaParser.Compiles measure.formula.expression ↔
          ¬FormulaRefused g.formulaParser (Str.trim measure.formula.expression) :=
        ⟨fun h => h.formula hneeds hshift, fun hkept => ⟨fun _ h => (by rw [hshift] at h; cases h), fun _ _ => hkept,
          fun h => (by rw [hneeds] at h; cases h)⟩⟩
      rw [hcompiles]
      -- the refusal is not to be computed
      generalize FormulaRefused g.formulaParser (Str.trim measure.formula.expression) = refused at hbuild ⊢
      obtain ⟨⟨fault, hfault⟩, hrefused⟩ | ⟨⟨sql, hsql, -⟩, hkept⟩ := hbuild
      · refine iff_of_false ?_ (not_not_intro hrefused)
        rintro ⟨sql, hsql⟩
        rw [hfault] at hsql
        cases hsql
      · exact iff_of_true ⟨sql, hsql⟩ hkept
  | false =>
    rw [if_neg Bool.false_ne_true]
    unfold buildStandardAggregation
    constructor
    · rintro ⟨sql, hsql⟩
      obtain ⟨column, hcolumn, -⟩ := Res.bind_eq_ok.1 hsql
      obtain ⟨call, hcall, -⟩ := Res.bind_eq_ok.1 hcolumn
      exact ⟨fun h => (by rw [hneeds] at h; cases h), fun h => (by rw [hneeds] at h; cases h), fun _ => ⟨call, Res.mapErr_eq_ok.1 hcall⟩⟩
    · intro h
      obtain ⟨call, hcall⟩ := h.plain hneeds
      obtain ⟨column, hcolumn⟩ : ∃ column, g.resolveExpression sourceAlias base measure.formula.expression = .ok column := by
        cases call with
        | none => exact ⟨_, resolveExpression_of_no_call hcall⟩
        | some call => exact ⟨_, resolveExpression_of_call hcall⟩
      exact ⟨_, Res.bind_eq_ok.2 ⟨column, hcolumn, rfl⟩⟩

/-- A dimension is selected unless it is a geometry column the dialect cannot convert. -/
theorem exists_dimensionItem_iff {d : Dialect} {dim : Dimension} : (∃ item, g.dimensionItem d sourceAlias base dim = .ok item) ↔
    (g.fieldIsGeometry base dim.name = true → d = .postgres ∨ d = .duckDb) := by
  unfold dimensionItem
  dsimp only
  cases g.fieldIsGeometry base dim.name with
  | false => exact iff_of_true ⟨_, rfl⟩ (by simp)
  | true => cases d <;> simp [Dialect.geometryAsGeojson, Res.ofOption, Res.fail, bind, Except.bind, pure, Except.pure]

theorem exists_mapM_iff {ε α β : Type} {f : α → Res ε β} {l : List α} : (∃ bs, l.mapM f = .ok bs) ↔ ∀ a ∈ l, ∃ b, f a = .ok b := by
  refine ⟨fun ⟨bs, hbs⟩ a ha => ?_, Res.mapM_ok⟩
  obtain ⟨b, -, hb⟩ := Res.exists_of_mapM hbs a ha
  exact ⟨b, hb⟩

theorem exists_buildWhereClause {query : Query} {d : Dialect} {mode : ValueMode}
    (h : ∀ filter ∈ query.filters, ∀ column params, ∃ out, buildCondition d mode column params filter = .ok out) :
    ∃ out, g.buildWhereClause query d sourceAlias base mode = .ok out := by
  have hconditions : ∀ (filters : List Filter) (first : Bool) (params : List Value),
      (∀ filter ∈ filters, ∀ column params, ∃ out, buildCondition d mode column params filter = .ok out) →
      ∃ out, g.buildConditions d sourceAlias base mode first params filters = .ok out := by
    intro filters
    induction filters with
    | nil => exact fun first params _ => ⟨_, rfl⟩
    | cons filter filters ih =>
      intro first params hall
      obtain ⟨⟨params', condition⟩, hcondition⟩ := hall filter List.mem_cons_self (g.qualifyField base filter.field sourceAlias) params
      obtain ⟨⟨params'', conditions⟩, hrest⟩ := ih false params' fun f hf => hall f (List.mem_cons_of_mem _ hf)
      refine ⟨(params'', (separator first filter ++ condition) :: conditions), ?_⟩
      unfold buildConditions
      exact Res.bind_eq_ok.2 ⟨_, hcondition, Res.bind_eq_ok.2 ⟨_, hrest, rfl⟩⟩
  unfold buildWhereClause
  split_ifs
  · exact ⟨_, rfl⟩
  · obtain ⟨out, hout⟩ := hconditions query.filters true [] h
    exact ⟨_, Res.bind_eq_ok.2 ⟨out, hout, rfl⟩⟩

/-- **The queries of a model that compile**: filters that were read always do. -/
theorem exists_generate_iff {std : RustStd} {model : Model} {query : Query} (hm : g.model model.name = some model)
    (hname : query.name = some model.name) (hsource : query.sourceModel = none)
    (hfilters : ∀ filter ∈ query.filters, ∃ spec, Suggest.parseFilter std spec = .ok filter) :
    (∃ out, g.generate query = .ok out) ↔ (∀ measure ∈ query.measures, g.formulaParser.Compiles measure.formula.expression) ∧
      ∀ dim ∈ query.dimensions, g.fieldIsGeometry model.name dim.name = true →
        g.dialectFor model.name = .postgres ∨ g.dialectFor model.name = .duckDb := by
  have hread : readName query = some model.name := by simp [readName, hname, hsource]
  have hresolve : g.resolveSource query = .ok (model.name, model.name) :=
    resolveSource_eq_ok.2 ⟨hread, by rw [hm]; rfl, by simp [readAlias, hname, hsource]⟩
  have hbase : ((g.model model.name).map (·.name)).getD model.name = model.name := by simp [hm]
  have hitems : (∃ items, g.buildSelectItems query (g.dialectFor model.name) model.name model.name = .ok items) ↔
      (∀ measure ∈ query.measures, g.formulaParser.Compiles measure.formula.expression) ∧
        ∀ dim ∈ query.dimensions, g.fieldIsGeometry model.name dim.name = true →
          g.dialectFor model.name = .postgres ∨ g.dialectFor model.name = .duckDb := by
    have hmeasures : (∃ items, query.measures.mapM (g.measureItem model.name model.name) = .ok items) ↔
        ∀ measure ∈ query.measures, g.formulaParser.Compiles measure.formula.expression := by
      rw [exists_mapM_iff]
      refine forall₂_congr fun measure _ => ?_
      rw [← @exists_buildMeasureExpression_iff g model.name model.name measure]
      unfold measureItem
      constructor
      · rintro ⟨item, h⟩
        obtain ⟨sql, hsql, -⟩ := Res.bind_eq_ok.1 h
        exact ⟨sql, hsql⟩
      · rintro ⟨sql, hsql⟩
        exact ⟨_, Res.bind_eq_ok.2 ⟨sql, hsql, rfl⟩⟩
    have hdimensions : (∃ items, query.dimensions.mapM (g.dimensionItem (g.dialectFor model.name) model.name model.name) = .ok items) ↔
        ∀ dim ∈ query.dimensions, g.fieldIsGeometry model.name dim.name = true →
          g.dialectFor model.name = .postgres ∨ g.dialectFor model.name = .duckDb := by
      rw [exists_mapM_iff]
      exact forall₂_congr fun dim _ => exists_dimensionItem_iff
    rw [← hmeasures, ← hdimensions]
    unfold buildSelectItems
    constructor
    · rintro ⟨items, h⟩
      obtain ⟨measures, hmeasures, h⟩ := Res.bind_eq_ok.1 h
      obtain ⟨dimensions, hdimensions, -⟩ := Res.bind_eq_ok.1 h
      exact ⟨⟨measures, hmeasures⟩, dimensions, hdimensions⟩
    · rintro ⟨⟨measures, hmeasures⟩, dimensions, hdimensions⟩
      exact ⟨_, Res.bind_eq_ok.2 ⟨measures, hmeasures, Res.bind_eq_ok.2 ⟨dimensions, hdimensions, rfl⟩⟩⟩
  rw [← hitems]
  constructor
  · rintro ⟨out, hout⟩
    obtain ⟨sourceTable, sourceAlias, bound, -, hsource', hbound, -, -⟩ := generate_eq_ok.1 hout
    obtain ⟨rfl, rfl⟩ := Prod.mk.inj (Except.ok.inj (hsource'.symm.trans hresolve))
    obtain ⟨items, -, -, hselected, -⟩ := buildLogicalPlan_eq_ok.1 hbound
    rw [hbase] at hselected
    exact ⟨items, hselected⟩
  · rintro ⟨items, hselected⟩
    have hplan (mode : ValueMode) : ∃ plan, g.buildLogicalPlan query (g.dialectFor model.name) model.name model.name mode = .ok plan := by
      obtain ⟨clause, hclause⟩ := @exists_buildWhereClause g model.name model.name query (g.dialectFor model.name) mode
        fun filter hfilter column params => by
          obtain ⟨spec, hspec⟩ := hfilters filter hfilter
          exact Suggest.exists_buildCondition hspec _ _ _ _
      exact ⟨_, buildLogicalPlan_eq_ok.2 ⟨items, clause, _, by rw [hbase]; exact hselected, by rw [hbase]; exact hclause,
        buildJoins_ok hread hm model.name, rfl⟩⟩
    obtain ⟨bound, hbound⟩ := hplan .placeholder
    obtain ⟨shown, hshown⟩ := hplan .literal
    exact ⟨_, generate_eq_ok.2 ⟨model.name, model.name, bound, shown, hresolve, hbound, hshown, rfl⟩⟩

end SqlGenerator

/-! ## What is accepted -/

section

variable {σ : Type} {b : Backend σ} {s : σ} {ctx : CallContext} {std : RustStd} {g : SqlGenerator} {model : Model} {stored : StoredModel}

/-- The parts of a query that is built, each from its texts. -/
structure ReadAs (std : RustStd) (input : ToolQuery) (query : Query) : Prop where
  measures : input.measures.mapM (parseMeasure std) = .ok query.measures
  dimensions : input.dimensions.mapM parseDimension = .ok query.dimensions
  timeDimensions : input.timeDimensions.mapM (parseTimeDimension std) = .ok query.timeDimensions
  filters : input.filters.mapM (parseFilter std) = .ok query.filters
  order : input.order.mapM (parseOrder std) = .ok query.order
  rest : query.name = input.name ∧ query.sourceModel = none ∧ query.limit = input.limit

theorem readAs_of_toCoreQuery {input : ToolQuery} {query : Query} (h : toCoreQuery std input = .ok query) :
    ReadAs std input query ∧ ∃ name, input.name = some name ∧ Str.trim name ≠ "" := by
  unfold toCoreQuery at h
  obtain ⟨measures, hmeasures, h⟩ := Res.bind_eq_ok.1 h
  obtain ⟨dimensions, hdimensions, h⟩ := Res.bind_eq_ok.1 h
  obtain ⟨timeDimensions, htimes, h⟩ := Res.bind_eq_ok.1 h
  obtain ⟨filters, hfilters, h⟩ := Res.bind_eq_ok.1 h
  obtain ⟨order, horder, h⟩ := Res.bind_eq_ok.1 h
  split_ifs at h
  · exact absurd h Res.fail_ne_ok
  · obtain ⟨name, hname, h⟩ := Res.bind_eq_ok.1 h
    obtain rfl := Except.ok.inj h
    obtain ⟨hname, hblank⟩ := Option.filter_eq_some_iff.1 (Res.ofOption_eq_ok.1 hname)
    exact ⟨⟨hmeasures, hdimensions, htimes, hfilters, horder, hname.symm, rfl, rfl⟩, name, hname, by simpa using hblank⟩

theorem exists_toCoreQuery {input : ToolQuery} {name : String} (hname : input.name = some name) (hblank : Str.trim name ≠ "")
    {text : String} (htext : input.measures = [text]) (hmeasure : ∃ measure, parseMeasure std text = .ok measure)
    (hdimensions : ∀ spec ∈ input.dimensions, ∃ dim, parseDimension spec = .ok dim)
    (htimes : ∀ spec ∈ input.timeDimensions, ∃ td, parseTimeDimension std spec = .ok td)
    (hfilters : ∀ spec ∈ input.filters, ∃ filter, parseFilter std spec = .ok filter)
    (horder : ∀ spec ∈ input.order, ∃ order, parseOrder std spec = .ok order) : ∃ query, toCoreQuery std input = .ok query := by
  obtain ⟨measure, hmeasure⟩ := hmeasure
  obtain ⟨dimensions, hdimensions⟩ := Res.mapM_ok hdimensions
  obtain ⟨timeDimensions, htimes⟩ := Res.mapM_ok htimes
  obtain ⟨filters, hfilters⟩ := Res.mapM_ok hfilters
  obtain ⟨order, horder⟩ := Res.mapM_ok horder
  have hmeasures : [text].mapM (parseMeasure std) = .ok [measure] := by
    rw [List.mapM_cons, hmeasure]
    rfl
  have hfilter : (some name).filter (fun n => Str.trim n ≠ "") = some name := by simp [Option.filter, hblank]
  unfold toCoreQuery
  rw [htext, hmeasures, hdimensions, htimes, hfilters, horder, hname, hfilter]
  exact ⟨_, rfl⟩

theorem parseDimension_iff {spec : String} {dim : Dimension} :
    parseDimension spec = .ok dim ↔ Str.trim spec ≠ "" ∧ dim = { name := Str.trim spec } := by
  unfold parseDimension
  dsimp only
  split_ifs with hempty
  · exact iff_of_false Res.fail_ne_ok fun h => h.1 hempty
  · rw [Except.ok.injEq, and_iff_right hempty, eq_comm]

theorem checkNames_eq_ok {known : List String} {role : String} {names : List String} :
    ToolCatalog.checkNames std known role names = .ok () ↔ ∀ name ∈ names, name ∈ known := by
  unfold ToolCatalog.checkNames
  cases h : names.find? fun name => !known.contains name with
  | none => simpa [List.find?_eq_none] using h
  | some name =>
    refine iff_of_false Res.fail_ne_ok fun hall => ?_
    have hmem := hall name (List.mem_of_find?_eq_some h)
    have hnot := List.find?_some h
    simp [hmem] at hnot

/-- **The fields of a query are found** where each is one of the model's. -/
theorem checkFields_eq_ok {query : Query} (hname : query.name = some model.name) (hlimit : query.limit = none)
    (hfound : ToolCatalog.findModel b s ctx std model.name none = .ok stored) (hstored : stored.toModel = model) :
    ToolCatalog.checkFields b s ctx std query = .ok () ↔
      (∀ filter ∈ query.filters, filter.field ∈ fieldNames model) ∧ ∀ dim ∈ query.dimensions, dim.name ∈ fieldNames model := by
  unfold ToolCatalog.checkFields
  simp only [hname, Option.some_or, hfound, bind, Except.bind, hlimit, Option.filter_none, hstored]
  have hnames {role : String} {names : List String} := @checkNames_eq_ok std (fieldNames model) role names
  cases hfilters : ToolCatalog.checkNames std (fieldNames model) "filter" (query.filters.map (·.field)) with
  | error e =>
    refine iff_of_false (by simp) fun h => ?_
    rw [hnames.2 (by simpa using h.1)] at hfilters
    cases hfilters
  | ok u =>
    have hall := hnames.1 hfilters
    dsimp only
    rw [hnames]
    simp only [List.forall_mem_map] at hall ⊢
    exact (and_iff_right hall).symm

/-- **When a query of an agent works.** -/
theorem queryWorks_iff {input : ToolQuery} {text : String} (hm : g.model model.name = some model)
    (hfound : ToolCatalog.findModel b s ctx std model.name none = .ok stored) (hstored : stored.toModel = model)
    (hname : input.name = some model.name) (hlimit : input.limit = none) (htext : input.measures = [text]) :
    QueryWorks b s ctx std g input ↔ Str.trim model.name ≠ "" ∧ AgentMeasure g.formulaParser text ∧
      (∀ spec ∈ input.dimensions, GroupsBy g model spec) ∧ (∀ spec ∈ input.timeDimensions, ∃ td, parseTimeDimension std spec = .ok td) ∧
      (∀ spec ∈ input.filters, ∃ filter, parseFilter std spec = .ok filter ∧ filter.field ∈ fieldNames model) ∧
      ∀ spec ∈ input.order, ∃ order, parseOrder std spec = .ok order := by
  have hgenerate {query : Query} (hread : ReadAs std input query) :=
    @exists_generate_iff g std model query hm (hread.rest.1.trans hname) hread.rest.2.1 fun filter hfilter => by
      obtain ⟨spec, -, hspec⟩ := Res.mem_of_mapM hread.filters filter hfilter
      exact ⟨spec, hspec⟩
  have hcheck {query : Query} (hread : ReadAs std input query) :=
    @checkFields_eq_ok σ b s ctx std model stored query (hread.rest.1.trans hname) (hread.rest.2.2.trans hlimit) hfound hstored
  have hmeasure {query : Query} (hread : ReadAs std input query) :
      ∃ measure, parseMeasure std text = .ok measure ∧ query.measures = [measure] := by
    have hmeasures := hread.measures
    rw [htext, List.mapM_cons] at hmeasures
    obtain ⟨measure, hmeasure, hrest⟩ := Res.bind_eq_ok.1 hmeasures
    exact ⟨measure, hmeasure, (Except.ok.inj hrest).symm⟩
  have hstar : g.formulaParser.Compiles "*" := (@exists_buildMeasureExpression_iff g model.name model.name (.direct "*")).1 ⟨_, rfl⟩
  have hagentMeasure (hagent : AgentMeasure g.formulaParser text) :
      ∃ measure, parseMeasure std text = .ok measure ∧ g.formulaParser.Compiles measure.formula.expression := by
    obtain hrows | ⟨column, word, hcut, hword, hcolumn, hagg, hcompiles⟩ := hagent
    · refine ⟨⟨{ expression := "*", label := some "row_count" }, .count⟩, ?_, hstar⟩
      unfold parseMeasure
      rw [hrows]
      rfl
    · obtain ⟨measure, hparsed, hexpr⟩ := @exists_parseMeasure std text column word hcut hword hcolumn hagg
      refine ⟨measure, hparsed, ?_⟩
      rw [hexpr]
      exact hcompiles
  constructor
  · rintro ⟨query, out, hquery, hfields, hout⟩
    obtain ⟨hread, name, hname', hblank⟩ := readAs_of_toCoreQuery hquery
    obtain rfl : name = model.name := Option.some.inj (hname'.symm.trans hname)
    obtain ⟨hcompiles, hspatial⟩ := (hgenerate hread).1 ⟨out, hout⟩
    obtain ⟨hfilters, hdimensions⟩ := (hcheck hread).1 hfields
    refine ⟨hblank, ?_, fun spec hspec => ?_, fun spec hspec => ?_, fun spec hspec => ?_, fun spec hspec => ?_⟩
    · obtain ⟨measure, hparsed, hmeasures⟩ := hmeasure hread
      obtain ⟨hrows, -⟩ | ⟨column, word, hcut, hword, hcolumn, hagg, hexpr⟩ := parseMeasure_cases hparsed
      · exact .inl hrows
      · refine .inr ⟨column, word, hcut, hword, hcolumn, hagg, ?_⟩
        rw [← hexpr]
        exact hcompiles measure (by simp [hmeasures])
    · obtain ⟨dim, hdim, hparsed⟩ := Res.exists_of_mapM hread.dimensions spec hspec
      obtain ⟨hne, rfl⟩ := parseDimension_iff.1 hparsed
      have hknown := hdimensions _ hdim
      have hselected := hspatial _ hdim
      exact ⟨hne, hknown, hselected⟩
    · obtain ⟨td, -, htd⟩ := Res.exists_of_mapM hread.timeDimensions spec hspec
      exact ⟨td, htd⟩
    · obtain ⟨filter, hfilter, hparsed⟩ := Res.exists_of_mapM hread.filters spec hspec
      exact ⟨filter, hparsed, hfilters filter hfilter⟩
    · obtain ⟨order, -, horder⟩ := Res.exists_of_mapM hread.order spec hspec
      exact ⟨order, horder⟩
  · rintro ⟨hblank, hagent, hdimensions, htimes, hfilters, horder⟩
    obtain ⟨measure, hparsed, hcompiles⟩ := hagentMeasure hagent
    obtain ⟨query, hquery⟩ := @exists_toCoreQuery std input model.name hname hblank text htext ⟨measure, hparsed⟩
      (fun spec hspec => ⟨_, parseDimension_iff.2 ⟨(hdimensions spec hspec).ne_blank, rfl⟩⟩) htimes
      (fun spec hspec => (hfilters spec hspec).imp fun _ h => h.1) horder
    obtain ⟨hread, -⟩ := readAs_of_toCoreQuery hquery
    have hdims : ∀ dim ∈ query.dimensions, ∃ spec ∈ input.dimensions, dim = { name := Str.trim spec } := fun dim hdim => by
      obtain ⟨spec, hspec, hparsed⟩ := Res.mem_of_mapM hread.dimensions dim hdim
      exact ⟨spec, hspec, (parseDimension_iff.1 hparsed).2⟩
    obtain ⟨out, hout⟩ := (hgenerate hread).2 ⟨fun measure' hmeasure' => by
        obtain ⟨measure'', hparsed', hmeasures⟩ := hmeasure hread
        obtain rfl := Except.ok.inj (hparsed.symm.trans hparsed')
        rw [hmeasures, List.mem_singleton] at hmeasure'
        exact hmeasure' ▸ hcompiles,
      fun dim hdim => by
        obtain ⟨spec, hspec, rfl⟩ := hdims dim hdim
        exact (hdimensions spec hspec).selected⟩
    refine ⟨query, out, hquery, (hcheck hread).2 ⟨fun filter hfilter => ?_, fun dim hdim => ?_⟩, hout⟩
    · obtain ⟨spec, hspec, hparsed⟩ := Res.mem_of_mapM hread.filters filter hfilter
      obtain ⟨filter', hparsed', hknown⟩ := hfilters spec hspec
      obtain rfl := Except.ok.inj (hparsed.symm.trans hparsed')
      exact hknown
    · obtain ⟨spec, hspec, rfl⟩ := hdims dim hdim
      exact (hdimensions spec hspec).known

end

/-! ## The texts of the examples -/

namespace Suggest

variable {std : RustStd} {model : Model}

/-- A month is read from a column without `@`. -/
theorem exists_parseTimeDimension_iff {name : String} : (∃ td, parseTimeDimension std (name ++ "@month") = .ok td) ↔ '@' ∉ name.toList := by
  constructor
  · rintro ⟨td, h⟩ hat
    obtain ⟨before, after, rfl, hbefore⟩ := Str.exists_split hat
    have hsplit := Str.splitOnce_append hbefore (after ++ "@month")
    rw [← String.append_assoc] at hsplit
    unfold parseTimeDimension at h
    rw [hsplit] at h
    dsimp only at h
    have hmem : '@' ∈ (Str.toAsciiLowercase (Str.trim (after ++ "@month"))).toList := by
      rw [Str.toAsciiLowercase, String.toList_ofList]
      exact List.mem_map.2 ⟨'@', (Str.mem_trim (by decide)).2 (by simp), rfl⟩
    split at h
    all_goals first
      | exact absurd h Res.fail_ne_ok
      | (rename_i hname; rw [hname] at hmem; exact absurd hmem (by decide))
  · intro hat
    have hsplit := Str.splitOnce_append hat "month"
    rw [show name ++ String.singleton '@' ++ "month" = name ++ "@month" by rw [String.append_assoc]; rfl] at hsplit
    unfold parseTimeDimension
    rw [hsplit]
    exact ⟨_, rfl⟩

/-- An order is read from a name that is not blank. -/
theorem exists_parseOrder_iff {name direction : String} (hdirection : direction = "desc" ∨ direction = "asc") :
    (∃ order, parseOrder std (name ++ ":" ++ direction) = .ok order) ↔ Str.trim name ≠ "" := by
  have htrim : Str.trim (name ++ ":" ++ direction) = led name ++ ":" ++ direction := by
    refine trim_colon ⟨'c', ?_, by decide⟩
    obtain rfl | rfl := hdirection <;> decide
  have hcolon : ':' ∉ direction.toList := by obtain rfl | rfl := hdirection <;> decide
  have hsplit : Str.rsplitOnce (led name ++ ":" ++ direction) ':' = some (led name, direction) := Str.rsplitOnce_append hcolon (led name)
  have hfield : ∃ descending, (if Str.eqIgnoreAsciiCase direction "desc" then some (led name, true)
      else if Str.eqIgnoreAsciiCase direction "asc" then some (led name, false) else none) = some (led name, descending) := by
    obtain rfl | rfl := hdirection
    · exact ⟨true, if_pos (by decide)⟩
    · exact ⟨false, (if_neg (by decide)).trans (if_pos (by decide))⟩
  obtain ⟨descending, hfield⟩ := hfield
  unfold parseOrder
  dsimp only
  rw [htrim, hsplit]
  dsimp only
  rw [hfield]
  dsimp only
  rw [trim_led]
  split_ifs with hblank
  · exact iff_of_false (fun ⟨_, h⟩ => absurd h Res.fail_ne_ok) fun h => h hblank
  · exact iff_of_true ⟨_, rfl⟩ hblank

/-- What is read of a name with a colon does not depend on what follows it. -/
theorem filterParts_append {name rest : String} (hname : ':' ∈ name.toList) (hrest : rest ≠ "") :
    ∃ value, value ≠ "" ∧ filterParts (name ++ ":" ++ rest) = ((filterParts name).1, (filterParts name).2.1, value) := by
  obtain ⟨first, second, rfl, hfirst⟩ := Str.exists_split hname
  have houter := Str.splitOnce_append hfirst second
  have houter' := Str.splitOnce_append hfirst (second ++ ":" ++ rest)
  have hcolon : String.singleton ':' = ":" := rfl
  by_cases hsecond : ':' ∈ second.toList
  · obtain ⟨third, fourth, rfl, hthird⟩ := Str.exists_split hsecond
    have hinner := Str.splitOnce_append hthird fourth
    have hinner' := Str.splitOnce_append hthird (fourth ++ ":" ++ rest)
    refine ⟨fourth ++ ":" ++ rest, fun h => by simpa using congrArg String.toList h, ?_⟩
    simp only [hcolon, String.append_assoc] at houter houter' hinner hinner' ⊢
    simp [filterParts, houter, houter', hinner, hinner']
  · have hinner := Str.splitOnce_of_not_mem hsecond
    have hinner' := Str.splitOnce_append hsecond rest
    refine ⟨rest, hrest, ?_⟩
    simp only [hcolon, String.append_assoc] at houter houter' hinner' ⊢
    simp [filterParts, houter, houter', hinner, hinner']

/-- **The filter of an example is read** for a name without a colon, or for a field and an operator in it. -/
theorem exists_filter_iff {g : SqlGenerator} {name : String} (hname : GroupsBy g model name) :
    (∃ filter, parseFilter std (name ++ ":eq:<value>") = .ok filter ∧ filter.field ∈ fieldNames model) ↔ FiltersOn model name := by
  have hspec : name ++ ":eq:<value>" = name ++ ":" ++ "eq:<value>" := by rw [String.append_assoc]; rfl
  have hread : (∃ filter, parseFilter std (name ++ ":eq:<value>") = .ok filter ∧ filter.field ∈ fieldNames model) ↔
      ∃ o, Accepted std (name ++ ":eq:<value>") o ∧ Str.trim (filterParts (name ++ ":eq:<value>")).1 ∈ fieldNames model := by
    constructor
    · rintro ⟨filter, hfilter, hknown⟩
      obtain ⟨haccepted, hparts⟩ := parseFilter_eq_ok.1 hfilter
      refine ⟨filter.operator, haccepted, ?_⟩
      rw [hparts] at hknown
      exact hknown
    · rintro ⟨o, haccepted, hknown⟩
      let filter : Filter :=
        { field := Str.trim (filterParts (name ++ ":eq:<value>")).1
          operator := o
          value := coerceValue std o (filterParts (name ++ ":eq:<value>")).2.2 }
      exact ⟨filter, parseFilter_eq_ok.2 ⟨haccepted, rfl⟩, hknown⟩
  rw [hread, hspec]
  by_cases hcolon : ':' ∈ name.toList
  · obtain ⟨value, hvalue, hparts⟩ := @filterParts_append name "eq:<value>" hcolon (by decide)
    rw [hparts]
    constructor
    · rintro ⟨o, haccepted, hknown⟩ -
      have hfield := haccepted.field
      have hoperator := haccepted.operator
      rw [hparts] at hfield hoperator
      exact ⟨hfield, hknown, parseOperator_iff.1 ⟨o, hoperator⟩⟩
    · intro h
      obtain ⟨hfield, hknown, hnamed⟩ := h hcolon
      obtain ⟨o, ho⟩ := (@parseOperator_iff std _).2 hnamed
      refine ⟨o, ⟨?_, ?_, ?_, ?_⟩, hknown⟩ <;> rw [hparts]
      · exact hfield
      · intro hblank
        rw [hblank] at hnamed
        revert hnamed
        decide +kernel
      · exact ho
      · exact fun _ => hvalue
  · have hparts : filterParts (name ++ ":" ++ "eq:<value>") = (name, "eq", "<value>") := by
      rw [show "eq:<value>" = "eq" ++ ":" ++ "<value>" by decide]
      exact filterParts_of_texts hcolon (by decide)
    refine iff_of_true ⟨.eq, ⟨?_, ?_, ?_, ?_⟩, ?_⟩ fun h => absurd h hcolon
    all_goals
      rw [hparts]
      dsimp only
    · exact hname.ne_blank
    · decide
    · exact names_eq.parse
    · exact fun _ => by decide
    · exact hname.known

end Suggest

/-! ## When the examples work -/

section

variable {σ : Type} {b : Backend σ} {s : σ} {ctx : CallContext} {std : RustStd} {g : SqlGenerator} {model : Model} {stored : StoredModel}

/-- An example is the query it shows. -/
theorem exampleWorks_iff {description : Value} {query : List (String × Value)} {input : ToolQuery}
    (h : ToolQuery.ofObject query = some input) :
    ExampleWorks b s ctx std g (.object [("description", description), ("query", .object query)]) ↔ QueryWorks b s ctx std g input := by
  constructor
  · rintro ⟨fields, query', input', hfields, hquery, hinput, hworks⟩
    obtain rfl := Value.object.inj hfields
    obtain rfl := Value.object.inj (Option.some.inj hquery)
    rw [h] at hinput
    exact Option.some.inj hinput ▸ hworks
  · exact fun hworks => ⟨_, query, input, rfl, rfl, h, hworks⟩

theorem forall_toList_map {α : Type} {p : Value → Prop} {o : Option α} {f : α → Value} :
    (∀ v ∈ (o.map f).toList, p v) ↔ ∀ a ∈ o, p (f a) := by
  cases o <;> simp

theorem exists_head {α : Type} {l : List α} (h : l ≠ []) : ∃ a, a ∈ l.head? := by
  obtain ⟨a, l, rfl⟩ := List.exists_cons_of_ne_nil h
  exact ⟨a, rfl⟩

theorem ne_nil_of_head {α : Type} {l : List α} {a : α} (h : a ∈ l.head?) : l ≠ [] := by
  rintro rfl
  cases h

/-- **When the examples of a model work**: exactly when the model is exemplary. -/
theorem example_queries_work_iff (std : RustStd) (g : SqlGenerator) (model : Model) (hregistered : g.model model.name = some model)
    (hfound : ToolCatalog.findModel b s ctx std model.name none = .ok stored) (hvisible : stored.toModel = model) :
    (∀ example' ∈ exampleQueries model, ExampleWorks b s ctx std g example') ↔ Exemplary g model := by
  have hworks {input : ToolQuery} {text : String} (hname : input.name = some model.name) (hlimit : input.limit = none)
      (htext : input.measures = [text]) := queryWorks_iff hregistered hfound hvisible hname hlimit htext
  have hstar : AgentMeasure g.formulaParser "*:count" := by
    refine .inr ⟨"*", "count", by decide, by decide, by decide, by decide, ?_⟩
    exact (@exists_buildMeasureExpression_iff g model.name model.name (.direct (Str.trim "*"))).1 ⟨_, rfl⟩
  have hdesc {name : String} : (∃ order, parseOrder std (name ++ ":desc") = .ok order) ↔ Str.trim name ≠ "" := by
    rw [show name ++ ":desc" = name ++ ":" ++ "desc" by rw [String.append_assoc]; rfl]
    exact exists_parseOrder_iff (.inl rfl)
  have hasc {name : String} : (∃ order, parseOrder std (name ++ ":asc") = .ok order) ↔ Str.trim name ≠ "" := by
    rw [show name ++ ":asc" = name ++ ":" ++ "asc" by rw [String.append_assoc]; rfl]
    exact exists_parseOrder_iff (.inr rfl)
  -- each example by itself
  have htotal {measure : Measure} : QueryWorks b s ctx std g { name := some model.name, measures := [totalText measure] } ↔
      Str.trim model.name ≠ "" ∧ AgentMeasure g.formulaParser (totalText measure) := by
    rw [hworks rfl rfl rfl]
    simp
  have hbreakdown {dim : Dimension} : QueryWorks b s ctx std g
      { name := some model.name, measures := [exampleMeasure model], dimensions := [dim.name], order := [dim.name ++ ":desc"] } ↔
      Str.trim model.name ≠ "" ∧ AgentMeasure g.formulaParser (exampleMeasure model) ∧ GroupsBy g model dim.name := by
    rw [hworks rfl rfl rfl]
    simp only [List.forall_mem_singleton, List.not_mem_nil, false_imp_iff, implies_true, true_and, hdesc]
    exact and_congr_right fun _ => and_congr_right fun _ => and_iff_left_of_imp fun h => h.ne_blank
  have hovertime {td : TimeDimension} : QueryWorks b s ctx std g
      { name := some model.name, measures := [exampleMeasure model], order := [td.dimension ++ ":asc"],
        timeDimensions := [td.dimension ++ "@month"] } ↔
      Str.trim model.name ≠ "" ∧ AgentMeasure g.formulaParser (exampleMeasure model) ∧ '@' ∉ td.dimension.toList ∧ Str.trim td.dimension ≠ "" := by
    rw [hworks rfl rfl rfl]
    simp only [List.forall_mem_singleton, List.not_mem_nil, false_imp_iff, implies_true, true_and, hasc, exists_parseTimeDimension_iff]
  have hfiltered {dim : Dimension} : QueryWorks b s ctx std g
      { name := some model.name, measures := ["*:count"], dimensions := [dim.name], filters := [dim.name ++ ":eq:<value>"] } ↔
      Str.trim model.name ≠ "" ∧ GroupsBy g model dim.name ∧ FiltersOn model dim.name := by
    rw [hworks rfl rfl rfl]
    simp only [List.forall_mem_singleton, List.not_mem_nil, false_imp_iff, implies_true, true_and, and_true, hstar]
    exact and_congr_right fun _ => and_congr_right fun hgroup => exists_filter_iff hgroup
  unfold exampleQueries
  dsimp only
  simp only [List.forall_mem_append, forall_toList_map]
  constructor
  · rintro ⟨⟨⟨htotals, hbreakdowns⟩, hovertimes⟩, hfilters⟩
    have htotals' : ∀ measure ∈ model.measures.head?, Str.trim model.name ≠ "" ∧ AgentMeasure g.formulaParser (totalText measure) :=
      fun measure hmeasure => htotal.1 ((exampleWorks_iff rfl).1 (htotals measure hmeasure))
    have hbreakdowns' : ∀ dim ∈ model.dimensions.head?, Str.trim model.name ≠ "" ∧ AgentMeasure g.formulaParser (exampleMeasure model) ∧
        GroupsBy g model dim.name := fun dim hdim => hbreakdown.1 ((exampleWorks_iff rfl).1 (hbreakdowns dim hdim))
    have hovertimes' : ∀ td ∈ model.timeDimensions.head?, Str.trim model.name ≠ "" ∧ AgentMeasure g.formulaParser (exampleMeasure model) ∧
        '@' ∉ td.dimension.toList ∧ Str.trim td.dimension ≠ "" := fun td htd => hovertime.1 ((exampleWorks_iff rfl).1 (hovertimes td htd))
    have hfilters' : ∀ dim ∈ model.dimensions.head?, Str.trim model.name ≠ "" ∧ GroupsBy g model dim.name ∧ FiltersOn model dim.name :=
      fun dim hdim => hfiltered.1 ((exampleWorks_iff rfl).1 (hfilters dim hdim))
    refine ⟨fun hany => ?_, fun measure hmeasure => (htotals' measure hmeasure).2, fun hany => ?_, fun dim hdim => (hbreakdowns' dim hdim).2.2,
      fun dim hdim => (hfilters' dim hdim).2.2, fun td htd => (hovertimes' td htd).2.2⟩
    · obtain hne | hne | hne := hany
      · obtain ⟨measure, hmeasure⟩ := exists_head hne
        exact (htotals' measure hmeasure).1
      · obtain ⟨dim, hdim⟩ := exists_head hne
        exact (hbreakdowns' dim hdim).1
      · obtain ⟨td, htd⟩ := exists_head hne
        exact (hovertimes' td htd).1
    · obtain hne | hne := hany
      · obtain ⟨dim, hdim⟩ := exists_head hne
        exact (hbreakdowns' dim hdim).2.1
      · obtain ⟨td, htd⟩ := exists_head hne
        exact (hovertimes' td htd).2.1
  · intro h
    refine ⟨⟨⟨fun measure hmeasure => ?_, fun dim hdim => ?_⟩, fun td htd => ?_⟩, fun dim hdim => ?_⟩
    · have hne := ne_nil_of_head hmeasure
      exact (exampleWorks_iff rfl).2 (htotal.2 ⟨h.name (.inl hne), h.total measure hmeasure⟩)
    · have hne := ne_nil_of_head hdim
      exact (exampleWorks_iff rfl).2 (hbreakdown.2 ⟨h.name (.inr (.inl hne)), h.beside (.inl hne), h.grouped dim hdim⟩)
    · have hne := ne_nil_of_head htd
      exact (exampleWorks_iff rfl).2 (hovertime.2 ⟨h.name (.inr (.inr hne)), h.beside (.inr hne), h.timed td htd⟩)
    · have hne := ne_nil_of_head hdim
      exact (exampleWorks_iff rfl).2 (hfiltered.2 ⟨h.name (.inr (.inl hne)), h.grouped dim hdim, h.filtered dim hdim⟩)

end

namespace OrderExamples

/-- Orders that are counted by status and by day. -/
def counted : StoredModel where
  name := "orders"
  datasource := "shop"
  measures := [⟨{ expression := "*" }, .count⟩]
  dimensions := [⟨"status", none⟩]
  timeDimensions := [⟨"created_at", .day, none⟩]

/-- Orders whose revenue is summed up. -/
def summed : StoredModel := { counted with measures := [⟨{ expression := "revenue" }, .sum⟩] }

def backend : Backend YamlStorage := YamlStorage.backend Str.toAsciiLowercase

def store (orders : StoredModel) : YamlStorage := (backend.createModel {} orders).2

def generator (orders : StoredModel) : SqlGenerator := ordersGenerator.registerModel orders.toModel

theorem counted_found : ToolCatalog.findModel backend (store counted) {} digitFloats "orders" none = .ok counted := by rfl

theorem summed_found : ToolCatalog.findModel backend (store summed) {} digitFloats "orders" none = .ok summed := by rfl

theorem example_queries_work_counted :
    (∀ example' ∈ exampleQueries counted.toModel, ExampleWorks backend (store counted) {} digitFloats (generator counted) example') ↔
      Exemplary (generator counted) counted.toModel :=
  example_queries_work_iff digitFloats (generator counted) counted.toModel (by rfl) counted_found rfl

/-- The sum of the revenue by status is shown without the sum, and refused. -/
theorem example_queries_fail : (generator summed).model "orders" = some summed.toModel ∧
    ToolCatalog.findModel backend (store summed) {} digitFloats "orders" none = .ok summed ∧
    ∃ example' ∈ exampleQueries summed.toModel, ¬ExampleWorks backend (store summed) {} digitFloats (generator summed) example' := by
  refine ⟨by rfl, summed_found, (exampleQueries summed.toModel)[1], List.getElem_mem _, ?_⟩
  intro h
  obtain ⟨core, -, hcore, -⟩ := (exampleWorks_iff rfl).1 h
  obtain ⟨measure, -, hmeasure⟩ := Res.exists_of_mapM (readAs_of_toCoreQuery hcore).1.measures "revenue" (by decide)
  obtain ⟨hrows, -⟩ | ⟨column, word, hcut, -⟩ := parseMeasure_cases hmeasure
  · exact absurd hrows (by decide)
  · have hmem : ':' ∈ (Str.trim "revenue").toList := by
      rw [hcut]
      simp
    exact absurd hmem (by decide)

end OrderExamples

end GraphNight
