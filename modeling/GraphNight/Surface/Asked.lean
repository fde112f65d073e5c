import GraphNight.Lib.Traverse
import GraphNight.Surface.Python

/-!
# What a surface is asked

The question an input puts, whichever surface takes it: its words stand for what they mean,
if anything, and its counts are integers. A question with a word that means nothing, or a
negative count, has no core query.
-/

namespace GraphNight

namespace Surface

/-- A granularity by its name, in any letter case. -/
def TimeGranularity.named (w : String) : Option TimeGranularity :=
  match Str.toAsciiLowercase w with
  | "second" => some .second
  | "minute" => some .minute
  | "hour" => some .hour
  | "day" => some .day
  | "week" => some .week
  | "month" => some .month
  | "quarter" => some .quarter
  | "year" => some .year
  | _ => none

structure AskedMeasure where
  formula : Formula
  aggregation : Option AggregationType

structure AskedTimeDimension where
  dimension : String
  granularity : Option TimeGranularity
  label : Option String

structure AskedFilter where
  field : String
  operator : Option FilterOperator
  value : Value
  orCondition : Bool

structure Asked where
  name : Option String
  sourceModel : Option SourceSpec
  measures : List AskedMeasure
  dimensions : List Dimension
  timeDimensions : List AskedTimeDimension
  filters : List AskedFilter
  order : List OrderBy
  limit : Option Int
  offset : Option Int
  wholePeriodsOnly : Option Bool
  distinctDimensionValues : Option Bool
  stageRef : Option String

def AskedMeasure.core (m : AskedMeasure) : Option Measure := m.aggregation.map fun aggregation => ⟨m.formula, aggregation⟩

def AskedTimeDimension.core (t : AskedTimeDimension) : Option TimeDimension :=
  t.granularity.map fun granularity => ⟨t.dimension, granularity, t.label⟩

def AskedFilter.core (f : AskedFilter) : Option Filter :=
  f.operator.map fun operator => ⟨f.field, operator, f.value, f.orCondition⟩

/-- A count that is asked for, if it is not negative. -/
def askedCount : Option Int → Option (Option Nat)
  | none => some none
  | some i => if 0 ≤ i then some (some i.toNat) else none

/-- The core query that is asked for. -/
def Asked.core (a : Asked) : Option Query := do
  let measures ← a.measures.mapM AskedMeasure.core
  let timeDimensions ← a.timeDimensions.mapM AskedTimeDimension.core
  let filters ← a.filters.mapM AskedFilter.core
  let limit ← askedCount a.limit
  let offset ← askedCount a.offset
  return { name := a.name
           sourceModel := a.sourceModel
           measures
           dimensions := a.dimensions
           timeDimensions
           filters
           order := a.order
           limit
           offset
           wholePeriodsOnly := a.wholePeriodsOnly
           distinctDimensionValues := a.distinctDimensionValues
           stageRef := a.stageRef }

/-- The parts of a query that are the same whatever its words mean. -/
structure Asked.Plain (a : Asked) (q : Query) : Prop where
  name : q.name = a.name
  sourceModel : q.sourceModel = a.sourceModel
  dimensions : q.dimensions = a.dimensions
  order : q.order = a.order
  wholePeriodsOnly : q.wholePeriodsOnly = a.wholePeriodsOnly
  distinctDimensionValues : q.distinctDimensionValues = a.distinctDimensionValues
  stageRef : q.stageRef = a.stageRef

/-- A query is the one asked for where each of its parts is. -/
theorem Asked.core_eq_some {a : Asked} {q : Query} :
    a.core = some q ↔ a.Plain q ∧ a.measures.mapM AskedMeasure.core = some q.measures ∧
      a.timeDimensions.mapM AskedTimeDimension.core = some q.timeDimensions ∧
      a.filters.mapM AskedFilter.core = some q.filters ∧ askedCount a.limit = some q.limit ∧
      askedCount a.offset = some q.offset := by
  unfold Asked.core
  simp only [Option.bind_eq_bind, Option.bind_eq_some_iff]
  constructor
  · rintro ⟨measures, hmeasures, timeDimensions, htimes, filters, hfilters, limit, hlimit, offset, hoffset, h⟩
    obtain rfl := Option.some.inj h
    exact ⟨⟨rfl, rfl, rfl, rfl, rfl, rfl, rfl⟩, hmeasures, htimes, hfilters, hlimit, hoffset⟩
  · rintro ⟨hplain, hmeasures, htimes, hfilters, hlimit, hoffset⟩
    refine ⟨_, hmeasures, _, htimes, _, hfilters, _, hlimit, _, hoffset, ?_⟩
    rw [← hplain.name, ← hplain.sourceModel, ← hplain.dimensions, ← hplain.order, ← hplain.wholePeriodsOnly,
      ← hplain.distinctDimensionValues, ← hplain.stageRef]
    rfl

theorem askedCount_eq_some {o : Option Int} {n : Option Nat} :
    askedCount o = some n ↔ (∀ i, o = some i → 0 ≤ i) ∧ n = o.map Int.toNat := by
  cases o with
  | none => simp [askedCount, eq_comm]
  | some i =>
    by_cases hge : 0 ≤ i
    · rw [show askedCount (some i) = some (some i.toNat) from if_pos hge]
      simp [hge, eq_comm]
    · rw [show askedCount (some i) = none from if_neg hge]
      simp [hge]

/-- What a word for an aggregation means. -/
def readAggregation (w : String) : Option AggregationType := (AggregationType.parseStrict w).toOption

/-- What a word for an operator means. -/
def readOperator (w : String) : Option FilterOperator := (FilterOperator.parseStrict w).toOption

/-! ## REST -/

namespace RestQueryInput

def askedMeasure (m : MeasureInput String) : AskedMeasure := ⟨⟨m.formula, m.label, m.format⟩, readAggregation m.aggregation⟩

def askedTimeDimension (t : TimeDimensionInput String) : AskedTimeDimension :=
  ⟨t.dimension, TimeGranularity.named t.granularity, t.label⟩

def askedFilter (f : FilterInput String) : AskedFilter := ⟨f.field, readOperator f.operator, f.value, f.orCondition.getD false⟩

def asked (v : RestQueryInput) : Asked where
  name := v.name
  sourceModel := v.sourceModel
  measures := (v.measures.getD []).map askedMeasure
  dimensions := v.dimensions.getD []
  timeDimensions := (v.timeDimensions.getD []).map askedTimeDimension
  filters := (v.filters.getD []).map askedFilter
  order := (v.order.getD []).map OrderByInput.core
  limit := v.limit.map Int32.toInt
  offset := v.offset.map Int32.toInt
  wholePeriodsOnly := v.wholePeriodsOnly
  distinctDimensionValues := v.distinctDimensionValues
  stageRef := v.stageRef

end RestQueryInput

/-! ## GraphQL -/

namespace GraphQl

/-- The word the other surfaces have for it. -/
def AggregationType.word : AggregationType → String
  | sum => "sum"
  | avg => "avg"
  | count => "count"
  | min => "min"
  | max => "max"
  | countDistinct => "count_distinct"

/-- The word the other surfaces have for it. -/
def TimeGranularity.word : TimeGranularity → String
  | second => "second"
  | minute => "minute"
  | hour => "hour"
  | day => "day"
  | week => "week"
  | month => "month"
  | quarter => "quarter"
  | year => "year"

/-- The word the other surfaces have for it. -/
def FilterOperator.word : FilterOperator → String
  | eq => "eq"
  | neq => "neq"
  | gt => "gt"
  | gte => "gte"
  | lt => "lt"
  | lte => "lte"
  | like => "like"
  | iLike => "ilike"
  | «in» => "in"
  | notIn => "not_in"
  | isNull => "is_null"
  | isNotNull => "is_not_null"
  | between => "between"
  | notBetween => "not_between"

namespace QueryInput

def askedMeasure (m : MeasureInput AggregationType) : AskedMeasure :=
  ⟨⟨m.formula, m.label, m.format⟩, readAggregation m.aggregation.word⟩

def askedTimeDimension (t : TimeDimensionInput TimeGranularity) : AskedTimeDimension :=
  ⟨t.dimension, Surface.TimeGranularity.named t.granularity.word, t.label⟩

def askedFilter (f : FilterInput FilterOperator) : AskedFilter :=
  ⟨f.field, readOperator f.operator.word, f.value, f.orCondition.getD false⟩

def asked (v : QueryInput) : Asked where
  name := v.name
  sourceModel := v.sourceModel
  measures := (v.measures.getD []).map askedMeasure
  dimensions := v.dimensions.getD []
  timeDimensions := (v.timeDimensions.getD []).map askedTimeDimension
  filters := (v.filters.getD []).map askedFilter
  order := (v.order.getD []).map OrderByInput.core
  limit := v.limit.map Int32.toInt
  offset := v.offset.map Int32.toInt
  wholePeriodsOnly := v.wholePeriodsOnly
  distinctDimensionValues := v.distinctDimensionValues
  stageRef := v.stageRef

end QueryInput

end GraphQl

/-! ## Node -/

namespace Node

variable (parseJson : String → Option Value)

def askedMeasure (m : MeasureInput) : AskedMeasure := ⟨m.formula, readAggregation m.aggregation⟩

/-- A text stands for the JSON it is, or for itself. -/
def askedText (text : String) : Value := (parseJson text).getD (.string text)

/-- A filter has one value, or a list of them. -/
def askedValue (f : FilterInput) : Option Value :=
  match f.value, f.values with
  | none, none => some .null
  | some text, none => some (askedText parseJson text)
  | none, some texts => some (.array (texts.map (askedText parseJson)))
  | some _, some _ => none

def askedFilter (f : FilterInput) : Option AskedFilter :=
  (askedValue parseJson f).map fun value => ⟨f.field, readOperator f.operator, value, f.orCondition.getD false⟩

/-- The question of an input. -/
def asked (input : QueryInput) : Option Asked := do
  let filters ← input.filters.mapM (askedFilter parseJson)
  return { name := input.name
           sourceModel := input.sourceModel
           measures := input.measures.map askedMeasure
           dimensions := input.dimensions
           timeDimensions := input.timeDimensions.map RestQueryInput.askedTimeDimension
           filters
           order := input.order.map OrderByInput.core
           limit := input.limit
           offset := input.offset
           wholePeriodsOnly := input.wholePeriodsOnly
           distinctDimensionValues := input.distinctDimensionValues
           stageRef := none }

end Node

/-! ## Python -/

namespace PyValue

mutual

/-- The JSON value an object stands for, as `json.dumps` has it. -/
def toValue : PyValue → Option Value
  | none => some .null
  | bool b => some (.bool b)
  | int i => some (.number (toString i))
  | float text => text.map .number
  | str s => some (.string s)
  | list items => (itemsValue items).map .array
  | dict items => (fieldsValue items).map .object

def itemsValue : List PyValue → Option (List Value)
  | [] => some []
  | v :: vs => (toValue v).bind fun x => (itemsValue vs).map (x :: ·)

def fieldsValue : List (String × PyValue) → Option (List (String × Value))
  | [] => some []
  | (k, v) :: es => (toValue v).bind fun x => (fieldsValue es).map ((k, x) :: ·)

end

/-- An item that may be missing, or `None`. -/
def readItem {α : Type} (read : PyValue → Option α) : Option PyValue → Option (Option α)
  | Option.none => some Option.none
  | some none => some Option.none
  | some v => (read v).map some

/-- A list that may be missing, or `None`. -/
def readList {α : Type} (read : PyValue → Option α) : Option PyValue → Option (List α)
  | Option.none => some []
  | some none => some []
  | some (list items) => items.mapM read
  | some _ => Option.none

/-- A count that is no larger than any count. -/
def readCount : PyValue → Option Int
  | int i => if i < 2 ^ 64 then some i else Option.none
  | _ => Option.none

end PyValue

namespace Python

open PyValue (extractString extractBool readItem readList readCount)

def readFormula : PyValue → Option Formula
  | .str s => some ⟨s, none, none⟩
  | .dict fd => do
    let expression ← getString fd "expression"
    let label ← readItem extractString (fd.lookup "label")
    let format ← readItem extractString (fd.lookup "format")
    return ⟨expression, label, format⟩
  | _ => none

def readMeasure : PyValue → Option AskedMeasure
  | .dict obj => do
    let formula ← (obj.lookup "formula").bind readFormula
    let aggregation ← getString obj "aggregation"
    return ⟨formula, readAggregation aggregation⟩
  | _ => none

def readDimension : PyValue → Option Dimension
  | .str name => some ⟨name, none⟩
  | .dict d => do
    let name ← getString d "name"
    let label ← readItem extractString (d.lookup "label")
    return ⟨name, label⟩
  | _ => none

def readTimeDimension : PyValue → Option AskedTimeDimension
  | .dict obj => do
    let dimension ← getString obj "dimension"
    let granularity ← getString obj "granularity"
    let label ← readItem extractString (obj.lookup "label")
    return ⟨dimension, TimeGranularity.named granularity, label⟩
  | _ => none

def readFilter : PyValue → Option AskedFilter
  | .dict obj => do
    let field ← getString obj "field"
    let operator ← getString obj "operator"
    let value ← ((obj.lookup "value").getD .none).toValue
    let orCondition ← readItem extractBool (obj.lookup "or_condition")
    return ⟨field, readOperator operator, value, orCondition.getD false⟩
  | _ => none

def readOrder : PyValue → Option OrderBy
  | .dict obj => do
    let field ← getString obj "field"
    let descending ← readItem extractBool (obj.lookup "descending")
    return ⟨field, descending.getD false⟩
  | _ => none

def readSource : PyValue → Option SourceSpec
  | .dict obj => do
    let model ← getString obj "model"
    let datasource ← readItem extractString (obj.lookup "datasource")
    let aliasName ← readItem extractString (obj.lookup "alias")
    return ⟨model, datasource, aliasName⟩
  | _ => none

/-- The question of a dict whose items are of the types the client takes. -/
def asked (dict : List (String × PyValue)) : Option Asked := do
  let name ← readItem extractString (dict.lookup "name")
  let sourceModel ← readItem readSource (dict.lookup "source_model")
  let measures ← readList readMeasure (dict.lookup "measures")
  let dimensions ← readList readDimension (dict.lookup "dimensions")
  let timeDimensions ← readList readTimeDimension (dict.lookup "time_dimensions")
  let filters ← readList readFilter (dict.lookup "filters")
  let order ← readList readOrder (dict.lookup "order")
  let limit ← readItem readCount (dict.lookup "limit")
  let offset ← readItem readCount (dict.lookup "offset")
  let wholePeriodsOnly ← readItem extractBool (dict.lookup "whole_periods_only")
  let distinctDimensionValues ← readItem extractBool (dict.lookup "distinct_dimension_values")
  return { name, sourceModel, measures, dimensions, timeDimensions, filters, order, limit, offset, wholePeriodsOnly
           distinctDimensionValues, stageRef := none }

end Python

end Surface

end GraphNight
