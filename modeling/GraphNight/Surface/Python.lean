import GraphNight.Surface.Inputs

/-!
# Queries as the Python client takes them (`graphnight-python/src/lib.rs`)

A query is a dict. What cannot be read as what the core query needs is left out, but an
operator that is not known is an error. How Python reads an integer beyond 64 bits as a
float, and `serde_json::from_str`, are parameters.
-/

namespace GraphNight

namespace Surface

/-- A Python object; a finite float is kept as the text serde_json prints for it. -/
inductive PyValue where
  | none
  | bool (b : Bool)
  | int (i : Int)
  | float (text : Option String)
  | str (s : String)
  | list (items : List PyValue)
  | dict (items : List (String × PyValue))

/-- What reading values rests on. -/
structure PyLib where
  /-- `serde_json::from_str`. -/
  parseJson : String → Option Value
  /-- `extract::<f64>` of an integer and the text of that float; none beyond the floats. -/
  floatOfInt : Int → Option String

namespace PyValue

def extractString : PyValue → Option String
  | str s => some s
  | _ => .none

/-- A `bool` is a Python integer. -/
def extractInt : PyValue → Option Int
  | int i => some i
  | bool b => some (if b then 1 else 0)
  | _ => .none

/-- `extract::<i64>`. -/
def extractI64 (v : PyValue) : Option Int := v.extractInt.filter fun i => -(2 ^ 63) ≤ i ∧ i < 2 ^ 63

/-- `extract::<usize>`. -/
def extractUsize (v : PyValue) : Option Nat := (v.extractInt.filter fun i => 0 ≤ i ∧ i < 2 ^ 64).map Int.toNat

/-- `extract::<f64>`: the text of a finite float, if it is one. -/
def extractF64 (lib : PyLib) : PyValue → Option (Option String)
  | float text => some text
  | v => (v.extractInt.bind lib.floatOfInt).map some

def extractBool : PyValue → Option Bool
  | bool b => some b
  | _ => .none

def asList : PyValue → Option (List PyValue)
  | list items => some items
  | _ => .none

def asDict : PyValue → Option (List (String × PyValue))
  | dict items => some items
  | _ => .none

end PyValue

namespace Python

open PyValue (extractString extractBool extractUsize asList asDict)

/-- A dict's item as a text. -/
def getString (d : List (String × PyValue)) (key : String) : Option String := (d.lookup key).bind extractString

/-- A dict's item as a truth value. -/
def getBool (d : List (String × PyValue)) (key : String) : Option Bool := (d.lookup key).bind extractBool

/-- The entries of a dict's item, if it is a list. -/
def getList (d : List (String × PyValue)) (key : String) : List PyValue := ((d.lookup key).bind asList).getD []

def parseAggregation (s : String) : AggregationType := Surface.parseAggregation s

def parseGranularity (s : String) : TimeGranularity := Surface.parseGranularity s

def parseFilterOperator (s : String) : Except String FilterOperator := FilterOperator.parseStrict s

/-- Accept formula as a string or `{"expression", "label?", "format?"}`. -/
def extractFormula (obj : List (String × PyValue)) : Formula :=
  match obj.lookup "formula" with
  | some (.str s) => ⟨s, none, none⟩
  | some (.dict fd) => ⟨(getString fd "expression").getD "", getString fd "label", getString fd "format"⟩
  | _ => ⟨"", none, none⟩

def extractMeasure (obj : List (String × PyValue)) : Measure :=
  ⟨extractFormula obj, parseAggregation ((getString obj "aggregation").getD "sum")⟩

def extractDimensionFromObj : PyValue → Option Dimension
  | .str name => some ⟨name, none⟩
  | .dict d => some ⟨(getString d "name").getD "", getString d "label"⟩
  | _ => none

def extractTimeDimension (obj : List (String × PyValue)) : TimeDimension :=
  ⟨(getString obj "dimension").getD "", parseGranularity ((getString obj "granularity").getD "day"), getString obj "label"⟩

variable (lib : PyLib)

def extractPyValue (v : PyValue) : Value :=
  match v.extractString with
  | some s => (lib.parseJson s).getD (.string s)
  | none =>
    match v.extractI64 with
    | some n => .number (toString n)
    | none =>
      match v.extractF64 lib with
      | some n => (n.map .number).getD .null
      | none => (v.extractBool.map .bool).getD .null

def extractFilter (obj : List (String × PyValue)) : Except String Filter := do
  let operator ← parseFilterOperator ((getString obj "operator").getD "eq")
  return { field := (getString obj "field").getD ""
           operator
           value := ((obj.lookup "value").map (extractPyValue lib)).getD .null
           orCondition := (getBool obj "or_condition").getD false }

def extractOrder (obj : List (String × PyValue)) : OrderBy :=
  ⟨(getString obj "field").getD "", (getBool obj "descending").getD false⟩

def extractSource (obj : List (String × PyValue)) : SourceSpec :=
  ⟨(getString obj "model").getD "", getString obj "datasource", getString obj "alias"⟩

def dictToQuery (dict : List (String × PyValue)) : Except String Query := do
  let filters ← ((getList dict "filters").filterMap asDict).mapM (extractFilter lib)
  return { name := getString dict "name"
           sourceModel := ((dict.lookup "source_model").bind asDict).map extractSource
           measures := ((getList dict "measures").filterMap asDict).map extractMeasure
           dimensions := (getList dict "dimensions").filterMap extractDimensionFromObj
           timeDimensions := ((getList dict "time_dimensions").filterMap asDict).map extractTimeDimension
           filters
           order := ((getList dict "order").filterMap asDict).map extractOrder
           limit := (dict.lookup "limit").bind extractUsize
           offset := (dict.lookup "offset").bind extractUsize
           wholePeriodsOnly := getBool dict "whole_periods_only"
           distinctDimensionValues := getBool dict "distinct_dimension_values" }

end Python

end Surface

end GraphNight
