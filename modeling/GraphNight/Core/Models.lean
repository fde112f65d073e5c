import GraphNight.Core.Value
import GraphNight.Lib.Str

/-!
# The semantic model (`graphnight-core/src/models.rs`)

Models, queries and their parts. A query names fields by text; what a text
refers to is decided by the SQL generator.
-/

namespace GraphNight

/-- A bare identifier: an ASCII letter or underscore, then letters, digits,
underscores or `$`. -/
def isPlainIdentifier (part : String) : Bool :=
  match part.toList with
  | [] => false
  | c :: cs =>
    (Str.isAsciiAlphabetic c || c == '_') &&
      cs.all fun c => Str.isAsciiAlphanumeric c || c == '_' || c == '$'

inductive AggregationType where
  | sum
  | avg
  | count
  | min
  | max
  | countDistinct
  /-- Custom aggregation function. -/
  | custom (name : String)
deriving DecidableEq, Repr

namespace AggregationType

/-- Build an aggregation from user input, rejecting anything that is not a plain
function name, optionally schema-qualified. -/
def parseStrict (input : String) : Except String AggregationType :=
  let trimmed := Str.trim input
  if trimmed = "" then .error "aggregation must not be empty"
  else
    match Str.toAsciiUppercase trimmed with
    | "SUM" => .ok sum
    | "AVG" | "AVERAGE" => .ok avg
    | "COUNT" => .ok count
    | "MIN" => .ok min
    | "MAX" => .ok max
    | "COUNT_DISTINCT" | "COUNTDISTINCT" => .ok countDistinct
    | _ =>
      if (Str.split trimmed '.').all isPlainIdentifier then .ok (custom trimmed)
      else .error (Value.quoteJson input ++ " is not a valid aggregation. Use one of SUM, AVG, COUNT, MIN, " ++
        "MAX, COUNT_DISTINCT, or a plain function name such as percentile_cont")

def sqlFunction : AggregationType → String
  | sum => "SUM"
  | avg => "AVG"
  | count => "COUNT"
  | min => "MIN"
  | max => "MAX"
  | countDistinct => "COUNT(DISTINCT "
  | custom name => name

def needsClosingParen : AggregationType → Bool
  | countDistinct => true
  | _ => false

end AggregationType

inductive TimeGranularity where
  | second | minute | hour | day | week | month | quarter | year
deriving DecidableEq, Repr

def TimeGranularity.dateTruncUnit : TimeGranularity → String
  | second => "second"
  | minute => "minute"
  | hour => "hour"
  | day => "day"
  | week => "week"
  | month => "month"
  | quarter => "quarter"
  | year => "year"

inductive JoinType where
  | inner | left | right | full
deriving DecidableEq, Repr

def JoinType.sqlKeyword : JoinType → String
  | inner => "INNER JOIN"
  | left => "LEFT JOIN"
  | right => "RIGHT JOIN"
  | full => "FULL JOIN"

inductive FilterOperator where
  | eq | neq | gt | gte | lt | lte | like | iLike | «in» | notIn | isNull | isNotNull
  | between | notBetween
  /-- Spatial: the row's geometry intersects the supplied geometry. -/
  | intersects
  /-- Spatial: the row's geometry lies within the supplied geometry. -/
  | within
  /-- Spatial: the row's geometry contains the supplied geometry. -/
  | contains
deriving DecidableEq, Repr

namespace FilterOperator

/-- The infix SQL operator, or `none` for operators that are not infix. -/
def sqlOperator : FilterOperator → Option String
  | eq => some "="
  | neq => some "!="
  | gt => some ">"
  | gte => some ">="
  | lt => some "<"
  | lte => some "<="
  | like => some "LIKE"
  | iLike => some "ILIKE"
  | «in» => some "IN"
  | notIn => some "NOT IN"
  | isNull => some "IS NULL"
  | isNotNull => some "IS NOT NULL"
  | between => some "BETWEEN"
  | notBetween => some "NOT BETWEEN"
  | intersects | within | contains => none

/-- The `ST_*` predicate for a spatial operator. -/
def spatialFunction : FilterOperator → Option String
  | intersects => some "ST_Intersects"
  | within => some "ST_Within"
  | contains => some "ST_Contains"
  | _ => none

/-- The operator takes no value at all. -/
def isValueless : FilterOperator → Bool
  | isNull | isNotNull => true
  | _ => false

def needsValue (op : FilterOperator) : Bool := !op.isValueless

def needsTwoValues : FilterOperator → Bool
  | between | notBetween => true
  | _ => false

/-- Build a filter operator from user input, rejecting anything unknown. -/
def parseStrict (input : String) : Except String FilterOperator :=
  match Str.toAsciiLowercase (Str.trim input) with
  | "eq" | "=" | "==" => .ok eq
  | "neq" | "!=" | "<>" => .ok neq
  | "gt" | ">" => .ok gt
  | "gte" | ">=" => .ok gte
  | "lt" | "<" => .ok lt
  | "lte" | "<=" => .ok lte
  | "like" => .ok like
  | "ilike" => .ok iLike
  | "in" => .ok «in»
  | "not_in" | "nin" => .ok notIn
  | "is_null" | "isnull" => .ok isNull
  | "is_not_null" | "isnotnull" => .ok isNotNull
  | "between" => .ok between
  | "not_between" => .ok notBetween
  | "intersects" => .ok intersects
  | "within" => .ok within
  | "contains" => .ok contains
  | _ => .error (Value.quoteJson input ++ " is not a valid filter operator. Use one of: eq, neq, gt, gte, " ++
      "lt, lte, like, ilike, in, not_in, is_null, is_not_null, between, " ++
      "not_between, intersects, within, contains")

/-- The name of the variant, which the derived `Debug` and `Serialize` write. -/
def debugName : FilterOperator → String
  | eq => "Eq"
  | neq => "Neq"
  | gt => "Gt"
  | gte => "Gte"
  | lt => "Lt"
  | lte => "Lte"
  | like => "Like"
  | iLike => "ILike"
  | «in» => "In"
  | notIn => "NotIn"
  | isNull => "IsNull"
  | isNotNull => "IsNotNull"
  | between => "Between"
  | notBetween => "NotBetween"
  | intersects => "Intersects"
  | within => "Within"
  | contains => "Contains"

/-- An operator is infix exactly when it is not spatial. -/
theorem sqlOperator_eq_none_iff {op : FilterOperator} :
    op.sqlOperator = none ↔ op.spatialFunction ≠ none := by
  cases op <;> decide

end FilterOperator

structure Formula where
  expression : String
  label : Option String := none
  format : Option String := none
deriving DecidableEq, Repr

structure Measure where
  formula : Formula
  aggregation : AggregationType
deriving DecidableEq, Repr

namespace Measure

def simple (expression : String) (aggregation : AggregationType) : Measure :=
  ⟨{ expression }, aggregation⟩

def label (m : Measure) : String := m.formula.label.getD m.formula.expression

end Measure

structure Dimension where
  name : String
  label : Option String := none
deriving DecidableEq, Repr

structure TimeDimension where
  dimension : String
  granularity : TimeGranularity
  label : Option String := none
deriving DecidableEq, Repr

structure Filter where
  field : String
  operator : FilterOperator
  value : Value
  /-- Join this filter to the previous one with OR instead of AND. -/
  orCondition : Bool := false
deriving DecidableEq, Repr

structure OrderBy where
  field : String
  descending : Bool := false
deriving DecidableEq, Repr

structure SourceSpec where
  model : String
  datasource : Option String := none
  aliasName : Option String := none
deriving DecidableEq, Repr

structure Query where
  name : Option String := none
  sourceModel : Option SourceSpec := none
  measures : List Measure := []
  dimensions : List Dimension := []
  timeDimensions : List TimeDimension := []
  filters : List Filter := []
  order : List OrderBy := []
  limit : Option Nat := none
  offset : Option Nat := none
  wholePeriodsOnly : Option Bool := none
  distinctDimensionValues : Option Bool := none
  /-- For multi-stage queries, the previous stage referred to. -/
  stageRef : Option String := none
deriving DecidableEq, Repr

structure Join where
  name : String
  model : String
  joinType : JoinType
  /-- Pairs of left field and right field. -/
  on : List (String × String)
  aliasName : Option String := none
deriving DecidableEq, Repr

structure Model where
  name : String
  datasource : String
  description : Option String := none
  measures : List Measure := []
  dimensions : List Dimension := []
  timeDimensions : List TimeDimension := []
  joins : List Join := []
  /-- Custom SQL override. -/
  sql : Option String := none
  metadata : List (String × Value) := []
deriving DecidableEq, Repr

namespace Model

/-- Key under which a model records which of its columns are geometry. -/
def geometryColumnsMetaKey : String := "graphnight_geometry_columns"

/-- `column` is declared as a geometry column on this model. -/
def isGeometryColumn (m : Model) (column : String) : Bool :=
  match (m.metadata.lookup geometryColumnsMetaKey).bind Value.asArray with
  | some items => items.any fun v => v.asStr == some column
  | none => false

/-- The columns declared as geometry, if any. -/
def geometryColumns (m : Model) : List String :=
  (((m.metadata.lookup geometryColumnsMetaKey).bind Value.asArray).getD []).filterMap Value.asStr

/-- Declare a column as geometry. -/
def markGeometryColumn (m : Model) (column : String) : Model :=
  let columns := m.geometryColumns
  let columns := if columns.contains column then columns else columns ++ [column]
  let columns := (columns.mergeSort fun a b => a ≤ b).destutter (· ≠ ·)
  { m with metadata := m.metadata.filter (·.1 != geometryColumnsMetaKey) ++
      [(geometryColumnsMetaKey, .array (columns.map .string))] }

end Model

structure DataSource where
  name : String
  driver : String
  connectionString : String
deriving DecidableEq, Repr

end GraphNight
