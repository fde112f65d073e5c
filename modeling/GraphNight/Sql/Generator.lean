import GraphNight.Core.Formula
import GraphNight.Core.Join
import GraphNight.Lib.KeyedList
import GraphNight.Sql.Dialects

/-!
# The SQL generator (`graphnight-sql/src/generator.rs`)

From a semantic query to the statement of the source model's dialect. Both forms
of a statement, the one that runs and the one that is shown, come from the same
plan builder; they differ in how a filter value is rendered.
-/

namespace GraphNight

open SqlText

/-- The models by name, in the iteration order of the map. -/
abbrev ModelRegistry := KeyedList Model Model.name

/-- How a filter value is rendered into a statement. -/
inductive ValueMode where
  /-- Emit a bind placeholder and collect the value. Used for execution. -/
  | placeholder
  /-- Inline the value with the dialect's escaping. Display only. -/
  | literal
deriving DecidableEq, Repr

/-- A generated statement in both the form that runs and the form a human reads. -/
structure GeneratedSql where
  sql : String
  params : List Value
  display : String
deriving DecidableEq, Repr

/-- Converts a semantic query to dialect-specific SQL. -/
structure SqlGenerator where
  defaultDialect : Dialect
  dialects : KeyedList (String × Dialect) Prod.fst
  modelRegistry : ModelRegistry
  datasourceDrivers : KeyedList (String × String) Prod.fst
  formulaParser : FormulaParser

/-- Render one filter value into a statement, collecting it when it is bound. -/
def renderValue (mode : ValueMode) (params : List Value) (value : Value) : List Value × SqlText :=
  match mode with
  | .placeholder => (params ++ [value], [.param (params.length + 1)])
  | .literal => (params, [.value value])

/-- Render the items of a membership list in order. -/
def renderValues (mode : ValueMode) : List Value → List Value → List Value × List SqlText
  | params, [] => (params, [])
  | params, v :: vs =>
    let (params, item) := renderValue mode params v
    let (params, items) := renderValues mode params vs
    (params, item :: items)

/-- `"{alias}.{quoted}"`. -/
def qualified (aliasName column : String) : SqlText := raw aliasName ++ code "." ++ ident column

/-- An aggregation applied to rendered SQL. -/
def aggregateText (agg : AggregationType) (column : SqlText) : SqlText :=
  if agg.needsClosingParen then code agg.sqlFunction ++ column ++ code ")"
  else code agg.sqlFunction ++ code "(" ++ column ++ code ")"

/-- Quote one side of a walker condition. -/
def quoteQualified (qualifiedName : String) : SqlText :=
  match Str.split qualifiedName '.' with
  | aliasName :: col :: _ => raw aliasName ++ code "." ++ ident col
  | _ => ident qualifiedName

/-- Best-effort quoting for identifiers inside walker ON clauses (`a.b = c.d`). -/
def quoteJoinOn (on : String) : SqlText :=
  join " AND " <| (Str.splitStr on " AND ").map fun cond =>
    match (Str.split cond '=').map Str.trim with
    | [left, right] => quoteQualified left ++ code " = " ++ quoteQualified right
    | _ => code cond

/-- A geometry operand is WKT text or a GeoJSON object. -/
def geometryFromWkt (function : String) (filter : Filter) : Res String Bool :=
  match filter.value with
  | .string _ => .ok true
  | .object _ => .ok false
  | other =>
    Res.fail (function ++ " on `" ++ filter.field ++
      "` needs a geometry: a GeoJSON object or a WKT string, got " ++ other.toJson)

/-- `(&vals[0], &vals[1])`. -/
def firstTwo : List Value → Res String (Value × Value)
  | v₀ :: v₁ :: _ => .ok (v₀, v₁)
  | _ => .error .panic

/-- The condition of one filter on an already qualified column. -/
def buildCondition (d : Dialect) (mode : ValueMode) (column : SqlText) (params : List Value)
    (filter : Filter) : Res String (List Value × SqlText) :=
  match filter.operator.spatialFunction with
  | some function => do
    let fromWkt ← geometryFromWkt function filter
    let (params, value) := renderValue mode params filter.value
    let geometry ← Res.ofOption
      (function ++ " is not supported on the " ++ d.name ++ " dialect: it has no spatial predicates, " ++
        "so there is no way to build this filter")
      (d.spatialGeometry value fromWkt)
    return (params, code (function ++ "(") ++ column ++ code ", " ++ geometry ++ code ")")
  | none => do
    let op ← Res.ofOption ("filter operator " ++ filter.operator.debugName ++ " has no SQL rendering")
      filter.operator.sqlOperator
    if filter.operator = .in ∨ filter.operator = .notIn then
      let arr ← Res.ofOption (op ++ " requires an array of values, got " ++ filter.value.toJson)
        filter.value.asArray
      let (params, items) := renderValues mode params arr
      return (params, column ++ code (" " ++ op ++ " (") ++ join ", " items ++ code ")")
    else if filter.operator.needsValue && filter.operator.needsTwoValues then
      let vals ← Res.ofOption "BETWEEN requires array of two values" filter.value.asArray
      let (v₀, v₁) ← firstTwo vals
      let (params, low) := renderValue mode params v₀
      let (params, high) := renderValue mode params v₁
      return (params, column ++ code (" " ++ op ++ " BETWEEN ") ++ low ++ code " AND " ++ high)
    else if filter.operator.needsValue then
      let (params, value) := renderValue mode params filter.value
      return (params, column ++ code (" " ++ op ++ " ") ++ value)
    else
      return (params, column ++ code (" " ++ op))

/-- The text that joins a condition to the ones before it. -/
def separator (first : Bool) (filter : Filter) : SqlText :=
  if first then [] else if filter.orCondition then code " OR " else code " AND "

namespace SqlGenerator

/-- `SqlGenerator::new`. -/
def new (dialect : Dialect) (formulaParser : FormulaParser) : SqlGenerator :=
  ⟨dialect, .empty, .empty, .empty, formulaParser⟩

/-- Register or replace a model at runtime. -/
def registerModel (g : SqlGenerator) (model : Model) : SqlGenerator :=
  { g with modelRegistry := g.modelRegistry.insert model }

/-- Drop a model. -/
def unregisterModel (g : SqlGenerator) (name : String) : SqlGenerator :=
  { g with modelRegistry := g.modelRegistry.erase name }

def withModels (g : SqlGenerator) (models : List Model) : SqlGenerator :=
  models.foldl registerModel g

/-- Only drivers other than the default dialect's need an entry of their own. -/
def registerDatasource (g : SqlGenerator) (ds : DataSource) : SqlGenerator :=
  let g := { g with datasourceDrivers := g.datasourceDrivers.insert (ds.name, ds.driver) }
  if ds.driver ≠ g.defaultDialect.name ∧ g.dialects.get ds.driver = none then
    { g with dialects := g.dialects.insert (ds.driver, Dialect.getDialect ds.driver) }
  else g

def withDatasources (g : SqlGenerator) (datasources : List DataSource) : SqlGenerator :=
  datasources.foldl registerDatasource g

/-- Look up a model by name. -/
def model (g : SqlGenerator) (name : String) : Option Model := g.modelRegistry.get name

def dialectFor (g : SqlGenerator) (modelName : String) : Dialect :=
  match (g.model modelName).bind fun m => (g.datasourceDrivers.get m.datasource).map (·.2) with
  | some driver =>
    if driver ≠ g.defaultDialect.name then
      ((g.dialects.get driver).map (·.2)).getD g.defaultDialect
    else g.defaultDialect
  | none => g.defaultDialect

/-- The model a query reads from and the alias it goes by. -/
def resolveSource (g : SqlGenerator) (query : Query) : Res String (String × String) :=
  match query.sourceModel with
  | some source =>
    match g.model source.model with
    | some model => .ok (model.name, source.aliasName.getD source.model)
    | none => Res.fail ("Model not found: " ++ source.model)
  | none =>
    match query.name with
    | some name =>
      match g.model name with
      | some model => .ok (model.name, name)
      | none => Res.fail ("Model not found: " ++ name)
    | none => Res.fail "Query must have either name or source_model"

/-- Dialect name resolved for the model a query reads from. -/
def resolvedDialectName (g : SqlGenerator) (query : Query) : String :=
  match g.resolveSource query with
  | .ok (model, _) => (g.dialectFor model).name
  | .error _ => g.defaultDialect.name

/-- The model exposes `field` as a plain column. -/
def modelHasPlainField (model : Model) (field : String) : Bool :=
  if field = "*" then false
  else if model.dimensions.any fun d => d.name == field then true
  else if model.timeDimensions.any fun td => td.dimension == field then true
  else
    model.measures.any fun m =>
      let e := Str.trim m.formula.expression
      e == field && !FormulaParser.needsParse e

/-- The alias the field qualifier gives a join: its own, or its name. -/
def joinAlias (join : Join) : String := join.aliasName.getD join.name

/-- The first join of a model whose registered target passes a test. -/
def findJoin (g : SqlGenerator) (joins : List Join) (test : Join → Model → Bool) : Option (Join × Model) :=
  joins.findSome? fun join =>
    (g.model join.model).bind fun joined => if test join joined then some (join, joined) else none

/-- A join goes by `prefix`, and its target has the column. -/
def joinOwns (pre column : String) (join : Join) (joined : Model) : Bool :=
  (pre == joinAlias join || pre == join.model) && modelHasPlainField joined column

/-- Qualify `field` against the base model first, then any directly joined model,
falling back to the source alias. -/
def qualifyField (g : SqlGenerator) (baseModelName field sourceAlias : String) : SqlText :=
  if field = "*" then code "*"
  else
    match g.model baseModelName with
    | none => qualified sourceAlias field
    | some baseModel =>
      if modelHasPlainField baseModel field then qualified sourceAlias field
      else
        match g.findJoin baseModel.joins fun _ joined => modelHasPlainField joined field with
        | some (join, _) => qualified (joinAlias join) field
        | none =>
          match Str.rsplitOnce field '.' with
          | some (pre, column) =>
            if pre = baseModelName then qualified sourceAlias column
            else
              match g.findJoin baseModel.joins (joinOwns pre column) with
              | some (join, _) => qualified (joinAlias join) column
              | none => qualified sourceAlias field
          | none => qualified sourceAlias field

/-- Whether `field` resolves to a geometry column on the model that owns it. -/
def fieldIsGeometry (g : SqlGenerator) (baseModelName field : String) : Bool :=
  if field = "*" then false
  else
    match g.model baseModelName with
    | none => false
    | some baseModel =>
      if modelHasPlainField baseModel field then baseModel.isGeometryColumn field
      else
        match g.findJoin baseModel.joins fun _ joined => modelHasPlainField joined field with
        | some (_, joined) => joined.isGeometryColumn field
        | none =>
          match Str.rsplitOnce field '.' with
          | some (pre, column) =>
            if pre = baseModelName then baseModel.isGeometryColumn column
            else
              match g.findJoin baseModel.joins (joinOwns pre column) with
              | some (_, joined) => joined.isGeometryColumn column
              | none => false
          | none => false

/-- Render a time dimension through the active dialect. -/
def timeDimExpr (d : Dialect) (td : TimeDimension) (sourceAlias : String) : SqlText :=
  d.dateTrunc td.granularity.dateTruncUnit (raw sourceAlias ++ code "." ++ raw td.dimension)

section Measures

variable (g : SqlGenerator) (sourceAlias baseModelName : String)

/-- One argument of an allow-listed call. -/
def functionArgText : FunctionArg → SqlText
  | .column col => g.qualifyField baseModelName col sourceAlias
  | .number n => [.number n]

/-- Resolve a measure's expression to SQL: a qualified column, or a call to an
allow-listed function with its columns re-qualified. -/
def resolveExpression (expr : String) : Res String SqlText := do
  let call ← (parseFunctionCall expr).mapErr fun e => "Invalid formula '" ++ expr ++ "': " ++ e
  match call with
  | none => return g.qualifyField baseModelName expr sourceAlias
  | some call =>
    let rendered := call.args.map (g.functionArgText sourceAlias baseModelName)
    return [.func call.name] ++ code "(" ++ join ", " rendered ++ code ")"

def buildStandardAggregation (measure : Measure) : Res String SqlText := do
  let column ← g.resolveExpression sourceAlias baseModelName measure.formula.expression
  return aggregateText measure.aggregation column

def aggregateColumn (measure : Measure) : SqlText :=
  aggregateText measure.aggregation (g.qualifyField baseModelName measure.formula.expression sourceAlias)

def buildTimeShiftExpression (expr : String) : Res String SqlText := do
  let (inner, _, _) ← Res.ofOption "Invalid formula: malformed time_shift expression"
    (g.formulaParser.timeShiftCaptures expr)
  let innerMeasure ← g.formulaParser.parseMeasure (Str.trim inner)
  let innerSql := g.aggregateColumn sourceAlias baseModelName innerMeasure
  return code "LAG(" ++ innerSql ++ code ") OVER (ORDER BY " ++ raw sourceAlias ++ code ")"

def buildRatioExpression (expr : String) : Res String SqlText := do
  let (num, denom) ← Res.ofOption "Invalid formula: malformed ratio expression"
    (FormulaParser.ratioCaptures expr)
  let num ← g.formulaParser.parseMeasure (Str.trim num)
  let denom ← g.formulaParser.parseMeasure (Str.trim denom)
  let numSql := g.aggregateColumn sourceAlias baseModelName num
  let denomSql := g.aggregateColumn sourceAlias baseModelName denom
  return code "(" ++ numSql ++ code " / NULLIF(" ++ denomSql ++ code ", 0))"

/-- The argument of a one-argument formula function. -/
def formulaArgument (fn : String) (expr : String) : Res String String :=
  Res.ofOption ("Invalid formula: malformed " ++ fn ++ " expression")
    (((Str.stripPrefix expr (fn ++ "(")).bind (Str.stripSuffixChar · ')')).map Str.trim)

def buildPctChangeExpression (expr : String) : Res String SqlText := do
  let inner ← formulaArgument "pct_change" expr
  let measure ← g.formulaParser.parseMeasure inner
  let current := g.aggregateColumn sourceAlias baseModelName measure
  let lag := code "LAG(" ++ current ++ code ") OVER (ORDER BY " ++ raw sourceAlias ++ code ")"
  return code "((" ++ current ++ code " - " ++ lag ++ code ") / NULLIF(" ++ lag ++ code ", 0)) * 100"

def buildRunningTotalExpression (expr : String) : Res String SqlText := do
  let inner ← formulaArgument "running_total" expr
  let measure ← g.formulaParser.parseMeasure inner
  let innerSql := g.aggregateColumn sourceAlias baseModelName measure
  return code "SUM(" ++ innerSql ++ code ") OVER (ORDER BY " ++ raw sourceAlias ++
    code " ROWS UNBOUNDED PRECEDING)"

def buildMeasureExpression (measure : Measure) : Res String SqlText :=
  let expr := Str.trim measure.formula.expression
  if FormulaParser.needsParse expr then
    if Str.startsWith expr "time_shift(" then g.buildTimeShiftExpression sourceAlias baseModelName expr
    else if Str.startsWith expr "ratio(" then g.buildRatioExpression sourceAlias baseModelName expr
    else if Str.startsWith expr "pct_change(" then g.buildPctChangeExpression sourceAlias baseModelName expr
    else if Str.startsWith expr "running_total(" then
      g.buildRunningTotalExpression sourceAlias baseModelName expr
    else do
      let parsed ← (g.formulaParser.parseMeasure expr).mapErr fun e =>
        "Invalid formula '" ++ expr ++ "': " ++ e
      g.buildStandardAggregation sourceAlias baseModelName parsed
  else g.buildStandardAggregation sourceAlias baseModelName measure

end Measures

section Clauses

variable (g : SqlGenerator) (query : Query) (d : Dialect) (sourceAlias baseModelName : String)

def measureItem (measure : Measure) : Res String SelectItem := do
  let expr ← g.buildMeasureExpression sourceAlias baseModelName measure
  return ⟨expr, some (measure.formula.label.getD measure.formula.expression)⟩

/-- A geometry column is converted in SQL, or refused where the dialect cannot. -/
def dimensionItem (dim : Dimension) : Res String SelectItem := do
  let expr := g.qualifyField baseModelName dim.name sourceAlias
  let expr ←
    if g.fieldIsGeometry baseModelName dim.name then
      Res.ofOption ("`" ++ dim.name ++ "` is a geometry column, and the " ++ d.name ++
        " dialect has no spatial support to return it as GeoJSON") (d.geometryAsGeojson expr)
    else .ok expr
  return ⟨expr, some (dim.label.getD dim.name)⟩

def timeDimensionItem (td : TimeDimension) : SelectItem :=
  ⟨timeDimExpr d td sourceAlias,
    some (td.label.getD (td.dimension ++ "_" ++ td.granularity.dateTruncUnit))⟩

def buildSelectItems : Res String (List SelectItem) := do
  let measures ← query.measures.mapM (g.measureItem sourceAlias baseModelName)
  let dimensions ← query.dimensions.mapM (g.dimensionItem d sourceAlias baseModelName)
  return measures ++ dimensions ++ query.timeDimensions.map (timeDimensionItem d sourceAlias)

/-- The loop over the filters; `first` is set for the filter at index 0. -/
def buildConditions (mode : ValueMode) : Bool → List Value → List Filter →
    Res String (List Value × List SqlText)
  | _, params, [] => .ok (params, [])
  | first, params, filter :: filters => do
    let column := g.qualifyField baseModelName filter.field sourceAlias
    let (params, condition) ← buildCondition d mode column params filter
    let (params, conditions) ← buildConditions mode false params filters
    return (params, (separator first filter ++ condition) :: conditions)

def buildWhereClause (mode : ValueMode) : Res String (List Value × Option SqlText) :=
  if query.filters.isEmpty then .ok ([], none)
  else do
    let (params, conditions) ← g.buildConditions d sourceAlias baseModelName mode true [] query.filters
    return (params, some conditions.flatten)

def buildGroupBy : List SqlText :=
  (query.dimensions.map fun dim => g.qualifyField baseModelName dim.name sourceAlias) ++
    query.timeDimensions.map fun td => timeDimExpr d td sourceAlias

def orderByItem (order : OrderBy) : OrderByItem where
  column :=
    if Str.containsChar order.field '.' then raw order.field
    else raw sourceAlias ++ code "." ++ ident order.field
  descending := order.descending

def buildOrderBy : List OrderByItem := query.order.map (orderByItem sourceAlias)

/-- The model whose joins a query brings in. -/
def joinBaseName (sourceTable : String) : String :=
  match query.sourceModel with
  | some source => source.model
  | none => query.name.getD sourceTable

def buildJoins (sourceTable : String) : Res String (List JoinClause) :=
  let baseModelName := joinBaseName query sourceTable
  match g.model baseModelName with
  | none => .ok []
  | some model =>
    if model.joins.isEmpty then .ok []
    else do
      let required := model.joins.map (·.model)
      let walker := JoinWalker.new g.modelRegistry.items
      let clauses ← (walker.buildJoinClauses baseModelName required sourceAlias).mapErr
        fun e => "Join error: " ++ e
      return clauses.map fun c => ⟨c.joinType, c.table, c.aliasName, quoteJoinOn c.on⟩

end Clauses

/-- A model's own SQL, when it is not blank. -/
def sourceOverride (model : Option Model) : Option String :=
  ((model.bind (·.sql)).map Str.trim).filter (· ≠ "")

/-- Build logical plan from query. -/
def buildLogicalPlan (g : SqlGenerator) (query : Query) (d : Dialect) (sourceTable sourceAlias : String)
    (mode : ValueMode) : Res String LogicalPlan := do
  let model := g.model sourceTable
  let baseModelName := (model.map (·.name)).getD sourceTable
  let override := sourceOverride model
  let selectItems ← g.buildSelectItems query d sourceAlias baseModelName
  let (params, whereClause) ← g.buildWhereClause query d sourceAlias baseModelName mode
  let groupBy := g.buildGroupBy query d sourceAlias baseModelName
  let orderBy := buildOrderBy query sourceAlias
  let joins ← g.buildJoins query sourceAlias sourceTable
  return {
    sourceTable := override.getD sourceTable
    sourceIsSql := override.isSome
    sourceAlias
    selectItems
    whereClause
    groupBy
    orderBy
    limit := query.limit
    offset := query.offset
    joins
    distinct := query.distinctDimensionValues.getD false
    params }

/-- Generate SQL for a query. -/
def generate (g : SqlGenerator) (query : Query) : Res String GeneratedSql := do
  let (sourceTable, sourceAlias) ← g.resolveSource query
  let dialect := g.dialectFor sourceTable
  let bound ← g.buildLogicalPlan query dialect sourceTable sourceAlias .placeholder
  let sql ← dialect.generateSql bound
  let shown ← g.buildLogicalPlan query dialect sourceTable sourceAlias .literal
  let display ← dialect.generateSql shown
  return ⟨sql, bound.params, display⟩

/-! ## What a generated statement is made of -/

/-- The name of the model a query reads from: that of `sourceModel` first. -/
def readName (query : Query) : Option String := (query.sourceModel.map (·.model)).or query.name

/-- The alias the source goes by. -/
def readAlias (query : Query) : Option String :=
  (query.sourceModel.map fun source => source.aliasName.getD source.model).or query.name

/-- **What a query reads from**: a registered model, under its own name. -/
theorem resolveSource_eq_ok {g : SqlGenerator} {query : Query} {sourceTable sourceAlias : String} :
    g.resolveSource query = .ok (sourceTable, sourceAlias) ↔
      readName query = some sourceTable ∧ (g.model sourceTable).isSome = true ∧
        readAlias query = some sourceAlias := by
  have hlookup : ∀ name aliasName, (match g.model name with
      | some model => .ok (model.name, aliasName)
      | none => Res.fail ("Model not found: " ++ name) : Res String (String × String)) =
        .ok (sourceTable, sourceAlias) ↔
      name = sourceTable ∧ (g.model sourceTable).isSome = true ∧ aliasName = sourceAlias := by
    intro name aliasName
    cases hm : g.model name with
    | none =>
      constructor
      · intro h
        simp [Res.fail] at h
      · rintro ⟨rfl, hsome, -⟩
        simp [hm] at hsome
    | some model =>
      have hkey : model.name = name := KeyedList.key_of_get hm
      simp only [Except.ok.injEq, Prod.mk.injEq, hkey]
      constructor
      · rintro ⟨rfl, rfl⟩
        exact ⟨rfl, by rw [hm]; rfl, rfl⟩
      · rintro ⟨rfl, -, rfl⟩
        exact ⟨rfl, rfl⟩
  unfold resolveSource readName readAlias
  cases query.sourceModel with
  | some source => simpa using hlookup source.model (source.aliasName.getD source.model)
  | none =>
    cases query.name with
    | some name => simpa using hlookup name name
    | none => simp [Res.fail]

/-- The dialect of a query whose source is registered is that of its source. -/
theorem resolvedDialectName_of_read {g : SqlGenerator} {query : Query} {name : String}
    (hname : readName query = some name) (hsome : (g.model name).isSome = true) :
    g.resolvedDialectName query = (g.dialectFor name).name := by
  obtain ⟨aliasName, halias⟩ : ∃ aliasName, readAlias query = some aliasName := by
    unfold readName at hname
    unfold readAlias
    cases hsrc : query.sourceModel with
    | some source => exact ⟨_, rfl⟩
    | none => exact ⟨name, by simpa [hsrc] using hname⟩
  have hsource : g.resolveSource query = .ok (name, aliasName) := resolveSource_eq_ok.2 ⟨hname, hsome, halias⟩
  simp only [resolvedDialectName, hsource]

/-- Models on one datasource have one dialect. -/
theorem dialectFor_congr {g : SqlGenerator} {name name' : String} {m m' : Model} (hm : g.model name = some m)
    (hm' : g.model name' = some m') (h : m.datasource = m'.datasource) :
    g.dialectFor name = g.dialectFor name' := by
  simp only [dialectFor, hm, hm', Option.bind_some, h]

/-- **The tables a statement joins**: those of the targets of the joins its source
declares, but not of the source again. -/
theorem buildJoins_tables {g : SqlGenerator} {query : Query} {sourceAlias sourceTable : String} {m : Model}
    {joins : List JoinClause} (hread : readName query = some sourceTable) (hm : g.model sourceTable = some m)
    (h : g.buildJoins query sourceAlias sourceTable = .ok joins) (t : String) :
    t ∈ joins.map (·.table) ↔ t ≠ sourceTable ∧ ∃ join ∈ m.joins, join.model = t := by
  have hbase : joinBaseName query sourceTable = sourceTable := by
    unfold joinBaseName
    unfold readName at hread
    cases hsrc : query.sourceModel <;> simp_all
  have hname : m.name = sourceTable := KeyedList.key_of_get hm
  unfold buildJoins at h
  simp only [hbase, hm] at h
  split_ifs at h with hempty
  · obtain rfl : joins = [] := (Except.ok.inj h).symm
    simp [List.isEmpty_iff.1 hempty]
  · have hneighbour : ∀ dst ∈ m.joins.map (·.model), dst ≠ sourceTable →
        ∃ e ∈ (JoinGraph.new g.modelRegistry.items).edges sourceTable, e.targetModel = dst := by
      intro dst hdst _
      obtain ⟨join, hjoin, rfl⟩ := List.mem_map.1 hdst
      exact ⟨_, hname ▸ JoinGraph.declared_edge (KeyedList.mem_of_get hm) hjoin, rfl⟩
    obtain ⟨edges, hedges, hout, htargets⟩ := JoinGraph.resolveJoins_neighbours hneighbour
    simp only [JoinWalker.buildJoinClauses, JoinWalker.new, hedges, Res.bind_eq_ok, Res.mapErr_eq_ok, pure,
      Except.pure, Except.ok.injEq] at h
    obtain ⟨clauses, ⟨_, rfl, rfl⟩, rfl⟩ := h
    have htable : ∀ e ∈ edges, e.join.model = e.targetModel := fun e he => JoinGraph.join_model_of_mem (hout e he)
    have hmap : (edges.map (JoinWalker.clause sourceAlias)).map (fun c => c.table) = edges.map (·.targetModel) := by
      rw [List.map_map]
      exact List.map_congr_left htable
    rw [List.map_map, show ((·.table) ∘ fun c : JoinWalker.JoinClause =>
      (⟨c.joinType, c.table, c.aliasName, quoteJoinOn c.on⟩ : JoinClause)) = fun c => c.table from rfl, hmap,
      htargets]
    simp [and_comm]

/-- **The parts of a plan.** -/
theorem buildLogicalPlan_eq_ok {g : SqlGenerator} {query : Query} {d : Dialect}
    {sourceTable sourceAlias : String} {mode : ValueMode} {plan : LogicalPlan} :
    g.buildLogicalPlan query d sourceTable sourceAlias mode = .ok plan ↔
      ∃ items clause joins,
        g.buildSelectItems query d sourceAlias (((g.model sourceTable).map (·.name)).getD sourceTable) = .ok items ∧
        g.buildWhereClause query d sourceAlias (((g.model sourceTable).map (·.name)).getD sourceTable) mode =
          .ok clause ∧
        g.buildJoins query sourceAlias sourceTable = .ok joins ∧
        plan =
          { sourceTable := (sourceOverride (g.model sourceTable)).getD sourceTable
            sourceIsSql := (sourceOverride (g.model sourceTable)).isSome
            sourceAlias
            selectItems := items
            whereClause := clause.2
            groupBy := g.buildGroupBy query d sourceAlias
              (((g.model sourceTable).map (·.name)).getD sourceTable)
            orderBy := buildOrderBy query sourceAlias
            limit := query.limit
            offset := query.offset
            joins
            distinct := query.distinctDimensionValues.getD false
            params := clause.1 } := by
  simp only [buildLogicalPlan, Res.bind_eq_ok, pure, Except.pure, Except.ok.injEq]
  constructor
  · rintro ⟨items, hitems, clause, hclause, joins, hjoins, rfl⟩
    exact ⟨items, clause, joins, hitems, hclause, hjoins, rfl⟩
  · rintro ⟨items, clause, joins, hitems, hclause, hjoins, rfl⟩
    exact ⟨items, hitems, clause, hclause, joins, hjoins, rfl⟩

/-- **The parts of a generated statement**: the source it reads and the two plans it
is rendered from. -/
theorem generate_eq_ok {g : SqlGenerator} {query : Query} {out : GeneratedSql} :
    g.generate query = .ok out ↔
      ∃ sourceTable sourceAlias bound shown, g.resolveSource query = .ok (sourceTable, sourceAlias) ∧
        g.buildLogicalPlan query (g.dialectFor sourceTable) sourceTable sourceAlias .placeholder = .ok bound ∧
        g.buildLogicalPlan query (g.dialectFor sourceTable) sourceTable sourceAlias .literal = .ok shown ∧
        out = ⟨Str.trim ((g.dialectFor sourceTable).render ((g.dialectFor sourceTable).statementText bound)),
          bound.params,
          Str.trim ((g.dialectFor sourceTable).render ((g.dialectFor sourceTable).statementText shown))⟩ := by
  simp only [generate, Dialect.generateSql, Res.bind_eq_ok, pure, Except.pure, Except.ok.injEq]
  constructor
  · rintro ⟨⟨sourceTable, sourceAlias⟩, hsource, bound, hbound, _, rfl, shown, hshown, _, rfl, rfl⟩
    exact ⟨sourceTable, sourceAlias, bound, shown, hsource, hbound, hshown, rfl⟩
  · rintro ⟨sourceTable, sourceAlias, bound, shown, hsource, hbound, hshown, rfl⟩
    exact ⟨⟨sourceTable, sourceAlias⟩, hsource, bound, hbound, _, rfl, shown, hshown, _, rfl, rfl⟩

/-- Whether a query has a plan does not depend on its offset. -/
theorem generate_offset {g : SqlGenerator} {query : Query} {out : GeneratedSql} (h : g.generate query = .ok out)
    (offset : Option Nat) : ∃ out', g.generate { query with offset := offset } = .ok out' := by
  obtain ⟨sourceTable, sourceAlias, bound, shown, hsource, hbound, hshown, -⟩ := generate_eq_ok.1 h
  have hplan : ∀ {mode : ValueMode} {plan : LogicalPlan},
      g.buildLogicalPlan query (g.dialectFor sourceTable) sourceTable sourceAlias mode = .ok plan →
      g.buildLogicalPlan { query with offset := offset } (g.dialectFor sourceTable) sourceTable sourceAlias mode =
        .ok { plan with offset := offset } := by
    intro mode plan hp
    obtain ⟨items, clause, joins, hitems, hclause, hjoins, rfl⟩ := buildLogicalPlan_eq_ok.1 hp
    exact buildLogicalPlan_eq_ok.2 ⟨items, clause, joins, hitems, hclause, hjoins, rfl⟩
  exact ⟨_, generate_eq_ok.2 ⟨sourceTable, sourceAlias, _, _, hsource, hplan hbound, hplan hshown, rfl⟩⟩

end SqlGenerator

end GraphNight
