import GraphNight.Core.Models

/-!
# A query as JSON

What the derived `serde::Serialize` of a query and its parts writes: every field,
in declaration order, absent options as `null`. The text is part of the key a
generated plan is cached under.
-/

namespace GraphNight

namespace Json

def optional {α : Type} (write : α → Value) (o : Option α) : Value := (o.map write).getD .null

def optionalText : Option String → Value := optional .string

def optionalCount : Option Nat → Value := optional fun n => .number (toString n)

def optionalFlag : Option Bool → Value := optional .bool

def aggregation : AggregationType → Value
  | .sum => .string "sum"
  | .avg => .string "avg"
  | .count => .string "count"
  | .min => .string "min"
  | .max => .string "max"
  | .countDistinct => .string "count_distinct"
  | .custom name => .object [("custom", .string name)]

def formula (f : Formula) : Value :=
  .object [("expression", .string f.expression), ("label", optionalText f.label),
    ("format", optionalText f.format)]

def measure (m : Measure) : Value :=
  .object [("formula", formula m.formula), ("aggregation", aggregation m.aggregation)]

def dimension (d : Dimension) : Value :=
  .object [("name", .string d.name), ("label", optionalText d.label)]

def timeDimension (td : TimeDimension) : Value :=
  .object [("dimension", .string td.dimension), ("granularity", .string td.granularity.dateTruncUnit),
    ("label", optionalText td.label)]

def filter (f : Filter) : Value :=
  .object [("field", .string f.field), ("operator", .string f.operator.debugName), ("value", f.value),
    ("or_condition", .bool f.orCondition)]

def orderBy (o : OrderBy) : Value :=
  .object [("field", .string o.field), ("descending", .bool o.descending)]

def sourceSpec (s : SourceSpec) : Value :=
  .object [("model", .string s.model), ("datasource", optionalText s.datasource),
    ("alias", optionalText s.aliasName)]

def query (q : Query) : Value :=
  .object [("name", optionalText q.name), ("source_model", optional sourceSpec q.sourceModel),
    ("measures", .array (q.measures.map measure)), ("dimensions", .array (q.dimensions.map dimension)),
    ("time_dimensions", .array (q.timeDimensions.map timeDimension)),
    ("filters", .array (q.filters.map filter)), ("order", .array (q.order.map orderBy)),
    ("limit", optionalCount q.limit), ("offset", optionalCount q.offset),
    ("whole_periods_only", optionalFlag q.wholePeriodsOnly),
    ("distinct_dimension_values", optionalFlag q.distinctDimensionValues),
    ("stage_ref", optionalText q.stageRef)]

end Json

/-- `serde_json::to_string` of a query. -/
def Query.toJson (q : Query) : String := (Json.query q).toJson

end GraphNight
