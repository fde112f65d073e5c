import GraphNight.Sql.FormulaText
import GraphNight.Sql.SelectReading
import GraphNight.Sql.Statement

/-!
# What a query asks for

A query asks for the rows its filters keep, in groups of one value for every dimension and one
unit of time for every time dimension; of each group its measures, dimensions and times; and of
the groups, sorted, a page. That is said here of the query's own fields, over any rows, without
a word of SQL.
-/

namespace GraphNight

/-! ## What a measure asks for -/

inductive AskedMeasure where
  | ofField (field : String) (aggregation : AggregationType)
  | ofCall (call : FunctionCall) (aggregation : AggregationType)
  | ratio (num denom : String × AggregationType)
deriving DecidableEq, Repr

section

variable (fp : FormulaParser)

/-- An aggregation of a field, as it is written: a sum where no other is named. -/
inductive AsksTerm : String → String × AggregationType → Prop where
  | written {field agg : String} {aggregation : AggregationType} (hfield : field ≠ "")
      (hfieldWord : ∀ c ∈ field.toList, fp.isWord c = true ∨ c = '*') (hagg : agg ≠ "")
      (haggWord : ∀ c ∈ agg.toList, fp.isWord c = true) (hparse : FormulaParser.parseAggregation agg = .ok aggregation) :
      AsksTerm (field ++ ":" ++ agg) (field, aggregation)
  | bare {field : String} (hfield : WrittenColumn field) : AsksTerm field (field, .sum)

/-- What a measure asks for: the measures that are no window over other rows. -/
inductive AsksFor (measure : Measure) : AskedMeasure → Prop where
  | field (hcolon : ':' ∉ measure.formula.expression.toList) (hbracket : '(' ∉ measure.formula.expression.toList) :
      AsksFor measure (.ofField measure.formula.expression measure.aggregation)
  | call {call : FunctionCall} (hneeds : FormulaParser.needsParse (Str.trim measure.formula.expression) = false)
      (hcall : IsCall measure.formula.expression call) : AsksFor measure (.ofCall call measure.aggregation)
  | shorthand {term : String × AggregationType} (hcolon : ':' ∈ (Str.trim measure.formula.expression).toList)
      (hterm : AsksTerm fp (Str.trim measure.formula.expression) term) : AsksFor measure (.ofField term.1 term.2)
  | ratio {num denom : String} {numTerm denomTerm : String × AggregationType}
      (htext : Str.trim measure.formula.expression = "ratio(" ++ num ++ "," ++ denom ++ ")")
      (hnum : AsksTerm fp (Str.trim num) numTerm) (hdenom : AsksTerm fp (Str.trim denom) denomTerm) :
      AsksFor measure (.ratio numTerm denomTerm)

end

/-! ## The values of a group -/

section

variable {κ : Type} [DecidableEq κ] (db : Engine κ)

def AggregationType.ofCells : AggregationType → List κ → κ
  | .count => db.count false
  | .countDistinct => db.count true
  | .sum => db.aggregate "sum"
  | .avg => db.aggregate "avg"
  | .min => db.aggregate "min"
  | .max => db.aggregate "max"
  | .custom name => db.aggregate (Str.toAsciiLowercase name)

namespace SqlGenerator

variable (g : SqlGenerator) (m : Model) (sourceAlias : String)

/-- The column of a field. -/
def columnOf (field : String) : Option Column := (g.resolveField m.name field sourceAlias).map fun c => ⟨c.1, c.2⟩

/-- The cell of a field. -/
def fieldCell (field : String) (row : ScopeRow κ) : κ := (g.columnOf m sourceAlias field).elim db.null (db.cell row)

/-- An aggregation of a field; of the star, of the rows. -/
def aggregated (term : String × AggregationType) (rows : List (ScopeRow κ)) : κ :=
  if term.1 = "*" then db.number rows.length else term.2.ofCells db (rows.map (g.fieldCell db m sourceAlias term.1))

def argValue (row : ScopeRow κ) : FunctionArg → κ ⊕ String
  | .column column => .inl (g.fieldCell db m sourceAlias column row)
  | .number n => .inr n

def measureValue (rows : List (ScopeRow κ)) : AskedMeasure → κ
  | .ofField field aggregation => g.aggregated db m sourceAlias (field, aggregation) rows
  | .ofCall call aggregation =>
    aggregation.ofCells db (rows.map fun row => db.call call.name (call.args.map (g.argValue db m sourceAlias row)))
  | .ratio num denom =>
    db.divide (g.aggregated db m sourceAlias num rows) (db.nullIfZero (g.aggregated db m sourceAlias denom rows))

/-- What a dimension shows of a row: a geometry as GeoJSON. -/
def dimensionValue (dim : Dimension) (row : ScopeRow κ) : κ :=
  let cell := g.fieldCell db m sourceAlias dim.name row
  if g.fieldIsGeometry m.name dim.name then db.geoJson cell else cell

/-- The time of a row. -/
def timeOf (td : TimeDimension) (row : ScopeRow κ) : Option Timestamp :=
  db.timestamp (db.cell row ⟨sourceAlias, td.dimension⟩)

/-- How a dialect shows a bucket. -/
def timeValue (d : Dialect) (td : TimeDimension) (row : ScopeRow κ) : κ :=
  ((timeOf db sourceAlias td row).bind fun t => (bucketExpr d td.granularity).bind fun b => b.eval t).elim db.null db.ofBucket

/-! ## The query -/

/-- The row is one the filters keep, AND before OR. -/
def keepsRow (filters : List Filter) (row : ScopeRow κ) : Bool :=
  match filters with
  | [] => true
  | f :: fs =>
    (flatFilters f fs).eval (fun f => f.meaning db.toCells (g.fieldCell db m sourceAlias f.field row)) == .yes

/-- What a row is grouped by: its dimensions, and the units of its times. -/
def groupKey (query : Query) (row : ScopeRow κ) : List κ × List (Option Nat) :=
  (query.dimensions.map fun dim => g.fieldCell db m sourceAlias dim.name row,
    query.timeDimensions.map fun td => (timeOf db sourceAlias td row).map fun t => t.trunc td.granularity)

/-- **What a query asks for**, with what its measures ask for. -/
def meaning (query : Query) (measures : List AskedMeasure) :
    Grouped.Select (ScopeRow κ) (List κ × List (Option Nat)) (List κ) where
  passes := g.keepsRow db m sourceAlias query.filters
  key := if query.dimensions = [] ∧ query.timeDimensions = [] then none else some (g.groupKey db m sourceAlias query)
  line group :=
    measures.map (g.measureValue db m sourceAlias group) ++
      query.dimensions.map (fun dim => db.shared (g.dimensionValue db m sourceAlias dim) group) ++
      query.timeDimensions.map fun td => db.shared (timeValue db sourceAlias (g.dialectFor m.name) td) group
  before := Grouped.lexicographic (query.order.map fun order =>
    db.sorts (g.fieldCell db m sourceAlias order.field) order.descending)
  distinct := false
  skip := query.offset.getD 0
  keep := query.limit

end SqlGenerator

end

/-! ## The queries that are answered -/

/-- A function that is named is one of the database's own. -/
def AggregationType.Named (words : Words) : AggregationType → Prop
  | .custom name => (isPlainIdentifier name = true ∧ words.aggregates name = true) ∧ Str.toAsciiLowercase name ≠ "count"
  | _ => True

namespace SqlGenerator

/-- The column an order entry names. -/
def orderColumn (sourceAlias field : String) : Option Column :=
  if Str.containsChar field '.' then (Str.rsplitOnce field '.').map fun p => ⟨p.1, p.2⟩ else some ⟨sourceAlias, field⟩

section

variable (words : Words) (g : SqlGenerator) (m : Model) (sourceAlias : String)

/-- A field is a column the database has, of an alias that goes by its own spelling. -/
def Seen (field : String) : Prop :=
  ∃ c, g.columnOf m sourceAlias field = some c ∧
    (g.dialectFor m.name).sees words (g.linkAliases m sourceAlias) c.owner = true ∧ (g.dialectFor m.name).HasName c.name

/-- The field of an aggregation is seen, and the star is only counted. -/
def SeenTerm (term : String × AggregationType) : Prop :=
  term.2.Named words ∧ if term.1 = "*" then term.2 = .count else Seen words g m sourceAlias term.1

/-- The fields of a measure are seen, and its functions are those of the database. -/
def SeenMeasure : AskedMeasure → Prop
  | .ofField field aggregation => SeenTerm words g m sourceAlias (field, aggregation)
  | .ofCall call aggregation => (aggregation.Named words ∧ words.ofRow call.name call.args.length = true) ∧
      ∀ column, .column column ∈ call.args → Seen words g m sourceAlias column
  | .ratio num denom => SeenTerm words g m sourceAlias num ∧ SeenTerm words g m sourceAlias denom

/-- The database has the aliases and the tables of a model's statements, and no two of the aliases are one. -/
structure HasTables : Prop where
  distinct : ((g.linkAliases m sourceAlias).map (g.dialectFor m.name).foldQuoted).Nodup
  aliases : ∀ name ∈ g.linkAliases m sourceAlias, (g.dialectFor m.name).HasName name
  source : sourceOverride (some m) = none → (g.dialectFor m.name).HasName m.name
  targets : ∀ e ∈ statementLinks g.modelRegistry.items m, (g.dialectFor m.name).HasName e.join.model

/-- What is asked of a query: it selects something, under names the database has; its fields are columns in scope
and its aliases distinct; its filters can be expressed in the dialect; it sorts by dimensions, in columns of the
same name; it buckets by units the dialect keeps, and does not ask for whole periods, which no statement says; and
its page is one the dialect has a clause for, in numbers that it counts to. -/
structure Answerable (query : Query) (measures : List AskedMeasure) : Prop where
  asked : query.measures ≠ [] ∨ query.dimensions ≠ [] ∨ query.timeDimensions ≠ []
  labels : ∀ name ∈ query.selectedNames, (g.dialectFor m.name).HasName name
  tables : g.HasTables m sourceAlias
  dimensions : ∀ dim ∈ query.dimensions, Seen words g m sourceAlias dim.name
  measures : ∀ measure ∈ measures, SeenMeasure words g m sourceAlias measure
  filters : ∀ f ∈ query.filters, Expressible (g.dialectFor m.name) f ∧ Seen words g m sourceAlias f.field
  times : ∀ td ∈ query.timeDimensions, (g.dialectFor m.name).sees words (g.linkAliases m sourceAlias) sourceAlias = true ∧
    (g.dialectFor m.name).SeesColumn words td.dimension ∧ ∀ t t', BucketsKept (g.dialectFor m.name) td.granularity t t'
  periods : query.wholePeriodsOnly ≠ some true
  orders : ∀ order ∈ query.order, ∃ dim ∈ query.dimensions,
    orderColumn sourceAlias order.field = g.columnOf m sourceAlias dim.name ∧
      g.columnOf m sourceAlias order.field = g.columnOf m sourceAlias dim.name ∧
      (Str.containsChar order.field '.' = true →
        ∀ c ∈ g.columnOf m sourceAlias dim.name, (g.dialectFor m.name).SeesColumn words c.name)
  distinct : query.distinctDimensionValues = some true → ∀ dim ∈ query.dimensions, g.fieldIsGeometry m.name dim.name = false
  counts : Counts (g.dialectFor m.name) query.limit ∧ Counts (g.dialectFor m.name) query.offset
  page : match g.dialectFor m.name with
    | .mySql => query.offset ≠ none → query.limit = query.offset
    | .sqlite => query.limit = none → query.offset = none
    | _ => True

end

theorem HasTables.hasFrom {g : SqlGenerator} {query : Query} {out : GeneratedSql} {m : Model} {sourceAlias : String}
    {plan : LogicalPlan} (ht : g.HasTables m sourceAlias) (h : g.Statement query out m sourceAlias plan) :
    (g.dialectFor m.name).HasFrom plan := by
  refine ⟨h.introduced_eq ▸ ht.distinct, fun name hname => ?_⟩
  have htables : plan.joins.map (·.table) = (statementLinks g.modelRegistry.items m).map (·.join.model) := by
    rw [h.joins_eq, List.map_map]
    rfl
  have hsource : (if plan.sourceIsSql then [] else [plan.sourceTable]) = if (sourceOverride (some m)).isSome then [] else [m.name] := by
    obtain ⟨items, clause, joins, -, -, -, rfl⟩ := h.parts
    cases sourceOverride (some m) <;> rfl
  rw [fromNames, h.introduced_eq, hsource, htables, List.mem_append, List.mem_append] at hname
  obtain (hname | hname) | hname := hname
  · exact ht.aliases name hname
  · cases hown : sourceOverride (some m) with
    | none =>
      rw [hown] at hname
      obtain rfl := List.mem_singleton.1 hname
      exact ht.source hown
    | some sql =>
      rw [hown] at hname
      cases hname
  · obtain ⟨e, he, rfl⟩ := List.mem_map.1 hname
    exact ht.targets e he

end SqlGenerator

end GraphNight
