import GraphNight.Core.Models
import GraphNight.Lib.LetterCase
import Mathlib.Algebra.Order.Ring.Rat

/-!
# Queries as the typed surfaces take them

The inputs of REST (`graphnight-server/src/rest.rs`), GraphQL
(`graphnight-graphql/src/schema.rs`) and Node (`graphnight-node/src/lib.rs`), and the core
query each converts its own into. REST and GraphQL take the same records; where REST takes
a text, the GraphQL schema has an enumeration. `serde_json::from_str` is a parameter.
-/

namespace GraphNight

namespace Surface

structure MeasureInput (Aggregation : Type) where
  formula : String
  label : Option String := none
  format : Option String := none
  aggregation : Aggregation

structure TimeDimensionInput (Granularity : Type) where
  dimension : String
  granularity : Granularity
  label : Option String := none

structure FilterInput (Operator : Type) where
  field : String
  operator : Operator
  value : Value
  orCondition : Option Bool := none

structure OrderByInput where
  field : String
  descending : Option Bool := none

def OrderByInput.core (o : OrderByInput) : OrderBy := ⟨o.field, o.descending.getD false⟩

/-- A query as REST and GraphQL take it. -/
structure QueryInput (Aggregation Granularity Operator : Type) where
  name : Option String := none
  sourceModel : Option SourceSpec := none
  measures : Option (List (MeasureInput Aggregation)) := none
  dimensions : Option (List Dimension) := none
  timeDimensions : Option (List (TimeDimensionInput Granularity)) := none
  filters : Option (List (FilterInput Operator)) := none
  order : Option (List OrderByInput) := none
  limit : Option Int32 := none
  offset : Option Int32 := none
  wholePeriodsOnly : Option Bool := none
  distinctDimensionValues : Option Bool := none
  stageRef : Option String := none

/-- `i32 as usize` where a `usize` has 64 bits: a negative number wraps. -/
def asUsize (i : Int32) : Nat := (i.toInt % 2 ^ 64).toNat

/-- What the bindings read a word as: an unknown one is `sum`. -/
def parseAggregation (s : String) : AggregationType :=
  match Str.toLowercase s with
  | "sum" => .sum
  | "avg" => .avg
  | "count" => .count
  | "min" => .min
  | "max" => .max
  | "count_distinct" => .countDistinct
  | _ => .sum

/-- What the bindings read a word as: an unknown one is `day`. -/
def parseGranularity (s : String) : TimeGranularity :=
  match Str.toLowercase s with
  | "second" => .second
  | "minute" => .minute
  | "hour" => .hour
  | "day" => .day
  | "week" => .week
  | "month" => .month
  | "quarter" => .quarter
  | "year" => .year
  | _ => .day

abbrev RestQueryInput := QueryInput String String String

namespace RestQueryInput

/-- Reject aggregations that are not plain identifiers. -/
def rejectBadAggregations (v : RestQueryInput) : Except String Unit :=
  (v.measures.getD []).forM fun m => do let _ ← AggregationType.parseStrict m.aggregation

/-- Reject filter operators that are not recognised. -/
def rejectBadOperators (v : RestQueryInput) : Except String Unit :=
  (v.filters.getD []).forM fun f => do let _ ← FilterOperator.parseStrict f.operator

/-- Everything the infallible conversion relies on being valid. -/
def rejectBadInput (v : RestQueryInput) : Except String Unit := do
  v.rejectBadAggregations
  v.rejectBadOperators

def parseAggregation (s : String) : AggregationType := (AggregationType.parseStrict s).toOption.getD .sum

def parseGranularity (s : String) : TimeGranularity :=
  match Str.toUppercase s with
  | "SECOND" => .second
  | "MINUTE" => .minute
  | "HOUR" => .hour
  | "DAY" => .day
  | "WEEK" => .week
  | "MONTH" => .month
  | "QUARTER" => .quarter
  | "YEAR" => .year
  | _ => .day

def parseOperator (s : String) : FilterOperator := (FilterOperator.parseStrict s).toOption.getD .eq

def measure (m : MeasureInput String) : Measure :=
  ⟨⟨m.formula, some (m.label.getD ""), some (m.format.getD "")⟩, parseAggregation m.aggregation⟩

def dimension (d : Dimension) : Dimension := ⟨d.name, some (d.label.getD "")⟩

def timeDimension (t : TimeDimensionInput String) : TimeDimension :=
  ⟨t.dimension, parseGranularity t.granularity, some (t.label.getD "")⟩

def filter (f : FilterInput String) : Filter :=
  ⟨f.field, parseOperator f.operator, f.value, f.orCondition.getD false⟩

/-- `From<RestQueryInput>`. -/
def toCore (v : RestQueryInput) : Query where
  name := v.name
  sourceModel := v.sourceModel
  measures := (v.measures.getD []).map measure
  dimensions := (v.dimensions.getD []).map dimension
  timeDimensions := (v.timeDimensions.getD []).map timeDimension
  filters := (v.filters.getD []).map filter
  order := (v.order.getD []).map OrderByInput.core
  limit := v.limit.map asUsize
  offset := v.offset.map asUsize
  wholePeriodsOnly := v.wholePeriodsOnly
  distinctDimensionValues := v.distinctDimensionValues
  stageRef := v.stageRef

/-- What the handlers make of a request's query. -/
def convertQuery (v : RestQueryInput) : Except String Query := do
  v.rejectBadInput
  return v.toCore

theorem convertQuery_eq_ok {v : RestQueryInput} {q : Query} : v.convertQuery = .ok q ↔ v.rejectBadInput = .ok () ∧ v.toCore = q := by
  unfold convertQuery
  cases v.rejectBadInput with
  | error e => simp [bind, Except.bind]
  | ok u => simp [bind, Except.bind, pure, Except.pure]

end RestQueryInput

namespace GraphQl

inductive AggregationType where
  | sum | avg | count | min | max | countDistinct
deriving DecidableEq, Repr

def AggregationType.core : AggregationType → GraphNight.AggregationType
  | sum => .sum
  | avg => .avg
  | count => .count
  | min => .min
  | max => .max
  | countDistinct => .countDistinct

inductive TimeGranularity where
  | second | minute | hour | day | week | month | quarter | year
deriving DecidableEq, Repr

def TimeGranularity.core : TimeGranularity → GraphNight.TimeGranularity
  | second => .second
  | minute => .minute
  | hour => .hour
  | day => .day
  | week => .week
  | month => .month
  | quarter => .quarter
  | year => .year

inductive FilterOperator where
  | eq | neq | gt | gte | lt | lte | like | iLike | «in» | notIn | isNull | isNotNull | between | notBetween
deriving DecidableEq, Repr

def FilterOperator.core : FilterOperator → GraphNight.FilterOperator
  | eq => .eq
  | neq => .neq
  | gt => .gt
  | gte => .gte
  | lt => .lt
  | lte => .lte
  | like => .like
  | iLike => .iLike
  | «in» => .in
  | notIn => .notIn
  | isNull => .isNull
  | isNotNull => .isNotNull
  | between => .between
  | notBetween => .notBetween

abbrev QueryInput := Surface.QueryInput AggregationType TimeGranularity FilterOperator

namespace QueryInput

def measure (m : MeasureInput AggregationType) : Measure := ⟨⟨m.formula, m.label, m.format⟩, m.aggregation.core⟩

def timeDimension (t : TimeDimensionInput TimeGranularity) : TimeDimension :=
  ⟨t.dimension, t.granularity.core, t.label⟩

def filter (f : FilterInput FilterOperator) : Filter := ⟨f.field, f.operator.core, f.value, f.orCondition.getD false⟩

/-- `From<QueryInput>`. -/
def toCore (v : QueryInput) : Query where
  name := v.name
  sourceModel := v.sourceModel
  measures := (v.measures.getD []).map measure
  dimensions := v.dimensions.getD []
  timeDimensions := (v.timeDimensions.getD []).map timeDimension
  filters := (v.filters.getD []).map filter
  order := (v.order.getD []).map OrderByInput.core
  limit := v.limit.map asUsize
  offset := v.offset.map asUsize
  wholePeriodsOnly := v.wholePeriodsOnly
  distinctDimensionValues := v.distinctDimensionValues
  stageRef := v.stageRef

end QueryInput

end GraphQl

namespace Node

structure MeasureInput where
  formula : Formula
  aggregation : String

/-- The value is a text of JSON. -/
structure FilterInput where
  field : String
  operator : String
  value : Option String := none
  values : Option (List String) := none
  orCondition : Option Bool := none

/-- The counts are JavaScript numbers. -/
structure QueryInput where
  name : Option String := none
  sourceModel : Option SourceSpec := none
  measures : List MeasureInput := []
  dimensions : List Dimension := []
  timeDimensions : List (TimeDimensionInput String) := []
  filters : List FilterInput := []
  order : List OrderByInput := []
  limit : Option Int := none
  offset : Option Int := none
  wholePeriodsOnly : Option Bool := none
  distinctDimensionValues : Option Bool := none

/-- ToUint32: a number is handed over by its lowest 32 bits. -/
def toUint32 (i : Int) : Nat := (i % 4294967296).toNat

variable (parseJson : String → Option Value)

def parseAggregation (s : String) : AggregationType := Surface.parseAggregation s

def parseGranularity (s : String) : TimeGranularity := Surface.parseGranularity s

def parseFilterOperator (s : String) : Except String FilterOperator := FilterOperator.parseStrict s

def measure (m : MeasureInput) : Measure := ⟨m.formula, parseAggregation m.aggregation⟩

def timeDimension (t : TimeDimensionInput String) : TimeDimension :=
  ⟨t.dimension, parseGranularity t.granularity, t.label⟩

def filter (f : FilterInput) : Except String Filter := do
  let value := (f.value.bind parseJson).getD .null
  let operator ← parseFilterOperator f.operator
  return ⟨f.field, operator, value, f.orCondition.getD false⟩

def convertQuery (input : QueryInput) : Except String Query := do
  let filters ← input.filters.mapM (filter parseJson)
  return { name := input.name
           sourceModel := input.sourceModel
           measures := input.measures.map measure
           dimensions := input.dimensions
           timeDimensions := input.timeDimensions.map timeDimension
           filters
           order := input.order.map OrderByInput.core
           limit := input.limit.map toUint32
           offset := input.offset.map toUint32
           wholePeriodsOnly := input.wholePeriodsOnly
           distinctDimensionValues := input.distinctDimensionValues }

end Node

end Surface

end GraphNight
