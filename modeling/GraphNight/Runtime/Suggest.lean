import GraphNight.Core.RustStd
import GraphNight.Runtime.Tools

/-!
# Shorthand queries and suggestions (`graphnight-runtime/src/suggest.rs`)

The texts an agent writes for measures, time dimensions, filters and orders, and what it
is told where one of them does not parse or names no field of the model.
-/

namespace GraphNight

/-- `str::parse::<i64>`. -/
def parseI64 (s : String) : Option Int :=
  let (negative, digits) := match s.toList with
    | '-' :: cs => (true, cs)
    | '+' :: cs => (false, cs)
    | cs => (false, cs)
  if digits.isEmpty ∨ !digits.all Str.isAsciiDigit then none
  else
    let n : Int := digits.foldl (fun n c => n * 10 + (c.toNat - '0'.toNat : Nat)) 0
    let n := if negative then -n else n
    if -(2 ^ 63) ≤ n ∧ n < 2 ^ 63 then some n else none

namespace Suggest

variable (std : RustStd)

/-- Parse `revenue:sum` into a measure. -/
def parseMeasure (spec : String) : Res ToolError Measure :=
  let spec := Str.trim spec
  if spec = "" then
    Res.fail ⟨"INVALID_MEASURE", "measure spec is empty", some
      "Use '<column>:<aggregation>', e.g. revenue:sum or *:count."⟩
  else if spec = "*" then .ok ⟨{ expression := "*", label := some "row_count" }, .count⟩
  else
    match Str.rsplitOnce spec ':' with
    | none => Res.fail ⟨"INVALID_MEASURE", "measure " ++ std.debug spec ++ " is missing an aggregation", some
        ("Use '<column>:<aggregation>'. Valid aggregations: " ++
          "sum, avg, count, min, max, count_distinct.")⟩
    | some (expression, aggregation) =>
      if Str.trim expression = "" then
        Res.fail ⟨"INVALID_MEASURE", "measure " ++ std.debug spec ++ " has no column", some
          "Use '<column>:<aggregation>', e.g. revenue:sum."⟩
      else
        let built := fun (agg : AggregationType) => (Except.ok
          ⟨{ expression := Str.trim expression, label := some agg.sqlFunction }, agg⟩ : Res ToolError Measure)
        match Str.toAsciiLowercase (Str.trim aggregation) with
        | "sum" => built .sum
        | "avg" | "average" | "mean" => built .avg
        | "count" => built .count
        | "min" => built .min
        | "max" => built .max
        | "count_distinct" | "countdistinct" | "distinct" => built .countDistinct
        | other => Res.fail ⟨"UNKNOWN_AGGREGATION", "unknown aggregation " ++ std.debug other, some
            ("Valid aggregations: sum, avg, count, min, max, count_distinct. " ++
              "Or use '*' alone to count rows.")⟩

/-- Parse `created_at@month` into a time dimension. -/
def parseTimeDimension (spec : String) : Res ToolError TimeDimension :=
  match Str.splitOnce spec '@' with
  | none => Res.fail ⟨"INVALID_TIME_DIMENSION", "time dimension " ++ std.debug spec ++ " is missing a granularity",
      some ("Use 'column@granularity', e.g. created_at@month. Valid granularities: " ++
        "second, minute, hour, day, week, month, quarter, year.")⟩
  | some (dimension, granularity) =>
    let built := fun g => (Except.ok ⟨Str.trim dimension, g, none⟩ : Res ToolError TimeDimension)
    match Str.toAsciiLowercase (Str.trim granularity) with
    | "second" | "sec" => built .second
    | "minute" | "min" => built .minute
    | "hour" | "hr" => built .hour
    | "day" => built .day
    | "week" | "wk" => built .week
    | "month" | "mo" => built .month
    | "quarter" | "qtr" => built .quarter
    | "year" | "yr" => built .year
    | other => Res.fail ⟨"UNKNOWN_GRANULARITY", "unknown granularity " ++ std.debug other, some
        "Valid granularities: second, minute, hour, day, week, month, quarter, year."⟩

/-- A number, a boolean, a null or a text. -/
def parseScalar (s : String) : Value :=
  let s := Str.trim s
  if s = "" then .string ""
  else
    match parseI64 s with
    | some i => .number (toString i)
    | none =>
      match std.parseF64 s with
      | some v => v
      | none =>
        match Str.toAsciiLowercase s with
        | "true" => .bool true
        | "false" => .bool false
        | "null" | "none" => .null
        | _ => .string s

/-- Interpret a filter's textual value: numbers, booleans, nulls, lists. -/
def coerceValue (operator : FilterOperator) (raw : String) : Value :=
  let raw := Str.trim raw
  let unquoted := ((Str.stripPrefix raw "'").bind fun r => Str.stripSuffixChar r '\'').getD raw
  if operator.isValueless then .null
  else if operator.needsTwoValues then
    let (a, b) := (Str.splitOnce unquoted ',').getD (unquoted, "")
    .array [parseScalar std a, parseScalar std b]
  else if operator = .in ∨ operator = .notIn then
    .array (((Str.split unquoted ',').map fun s => parseScalar std (Str.trim s)).filter (· ≠ .null))
  else parseScalar std unquoted

/-- The operator of a name, in lower case. -/
def parseOperator (name : String) : Res ToolError FilterOperator :=
  match name with
  | "eq" | "=" => .ok .eq
  | "neq" | "!=" | "ne" => .ok .neq
  | "gt" | ">" => .ok .gt
  | "gte" | ">=" | "ge" => .ok .gte
  | "lt" | "<" => .ok .lt
  | "lte" | "<=" | "le" => .ok .lte
  | "like" => .ok .like
  | "ilike" => .ok .iLike
  | "not_like" | "nlike" => Res.fail ⟨"UNKNOWN_OPERATOR", "not_like is not supported", some
      ("Use 'ilike' with a leading '%' to express a negated match, " ++
        "e.g. status:ilike:'%draft%' negated via neq.")⟩
  | "in" => .ok .in
  | "not_in" | "nin" => .ok .notIn
  | "is_null" | "isnull" => .ok .isNull
  | "is_not_null" | "isnotnull" => .ok .isNotNull
  | "between" => .ok .between
  | "not_between" | "notbetween" => .ok .notBetween
  | other => Res.fail ⟨"UNKNOWN_OPERATOR", "unknown filter operator " ++ std.debug other, some
      ("Valid operators: eq, neq, gt, gte, lt, lte, in, not_in, like, ilike, " ++
        "is_null, is_not_null, between, not_between.")⟩

/-- Parse `status:eq:completed` into a filter: only the first two separators are structural. -/
def parseFilter (spec : String) : Res ToolError Filter := do
  let (field, rest) := (Str.splitOnce spec ':').getD (spec, "")
  let (operator, rawValue) := (Str.splitOnce rest ':').getD (rest, "")
  let field := Str.trim field
  let operator := Str.trim operator
  if field = "" then
    Res.fail ⟨"INVALID_FILTER", "filter " ++ std.debug spec ++ " has no field", some
      "Use 'field:operator:value', e.g. status:eq:completed."⟩
  else if operator = "" then
    Res.fail ⟨"INVALID_FILTER", "filter " ++ std.debug spec ++ " is missing an operator", some
      ("Use 'field:operator:value'. Valid operators: eq, neq, gt, gte, lt, lte, " ++
        "in, not_in, like, ilike, not_like, is_null, is_not_null, between, not_between.")⟩
  else
    let operatorName := Str.toAsciiLowercase operator
    let operator ← parseOperator std operatorName
    if operator.needsValue ∧ rawValue = "" then
      Res.fail ⟨"INVALID_FILTER", "filter " ++ std.debug spec ++ " needs a value", some
        (operatorName ++ " requires a value, e.g. " ++ field ++ ":" ++ operatorName ++ ":some_value")⟩
    else .ok { field, operator, value := coerceValue std operator rawValue }

def parseDimension (d : String) : Res ToolError Dimension :=
  let name := Str.trim d
  if name = "" then Res.fail ⟨"INVALID_DIMENSION", "dimension name is empty", none⟩ else .ok { name }

def parseOrder (o : String) : Res ToolError OrderBy :=
  let o := Str.trim o
  let direction := match Str.rsplitOnce o ':' with
    | some (f, d) =>
      if Str.eqIgnoreAsciiCase d "desc" then some (f, true)
      else if Str.eqIgnoreAsciiCase d "asc" then some (f, false)
      else none
    | none => none
  match direction with
  | none => Res.fail ⟨"INVALID_ORDER", "order " ++ std.debug o ++ " needs a direction", some
      "Use 'field:asc' or 'field:desc'."⟩
  | some (field, descending) =>
    if Str.trim field = "" then Res.fail ⟨"INVALID_ORDER", "order " ++ std.debug o ++ " has no field", none⟩
    else .ok ⟨Str.trim field, descending⟩

/-- Convert a tool query into the core semantic query. -/
def toCoreQuery (input : ToolQuery) : Res ToolError Query := do
  let measures ← input.measures.mapM (parseMeasure std)
  let dimensions ← input.dimensions.mapM parseDimension
  let timeDimensions ← input.timeDimensions.mapM (parseTimeDimension std)
  let filters ← input.filters.mapM (parseFilter std)
  let order ← input.order.mapM (parseOrder std)
  if measures.isEmpty ∧ dimensions.isEmpty ∧ timeDimensions.isEmpty then
    Res.fail ⟨"EMPTY_QUERY", "query selects nothing", some
      "Add at least one measure (e.g. \"revenue:sum\") or dimension (e.g. \"status\")."⟩
  else
    -- `stage_ref` names a stage, never a model
    let name ← Res.ofOption ⟨"MISSING_MODEL", "query does not name a model", some
      "Set `name` to the model to query, e.g. \"orders\"."⟩ (input.name.filter fun n => Str.trim n ≠ "")
    return { name := some name, measures, dimensions, timeDimensions, filters, order, limit := input.limit,
             offset := input.offset, stageRef := input.stageRef }

/-- Every field name a model exposes, for validation and suggestions. -/
def fieldNames (model : Model) : List String :=
  model.measures.map (·.formula.expression) ++ model.dimensions.map (·.name) ++
    model.timeDimensions.map (·.dimension)

/-- The rest of a row of the distance table, from the row above and the entry to the left. -/
def distanceRow (c : Char) : List Char → List Nat → Nat → List Nat
  | b :: bs, diagonal :: above :: row, left =>
    let entry := min (min (above + 1) (left + 1)) (diagonal + if c = b then 0 else 1)
    entry :: distanceRow c bs (above :: row) entry
  | _, _, _ => []

/-- Row `i` of the table from the row above it, for each character in turn. -/
def distanceTable (b : List Char) : Nat → List Char → List Nat → List Nat
  | _, [], row => row
  | i, c :: cs, row => distanceTable b (i + 1) cs ((i + 1) :: distanceRow c b row (i + 1))

/-- Levenshtein distance, for did-you-mean suggestions. -/
def editDistance (a b : String) : Nat :=
  let a := (Str.toAsciiLowercase a).toList
  let b := (Str.toAsciiLowercase b).toList
  if a.isEmpty then b.length
  else if b.isEmpty then a.length
  else (distanceTable b 0 a (List.range (b.length + 1))).getLastD 0

/-- A near miss, or one text within the other. -/
def isClose (field known : String) (distance : Nat) : Bool :=
  distance ≤ max (max field.utf8ByteSize known.utf8ByteSize / 2) 1 ||
    Str.containsStr (Str.toAsciiLowercase known) (Str.toAsciiLowercase field) ||
    Str.containsStr (Str.toAsciiLowercase field) (Str.toAsciiLowercase known)

/-- Closest known field names to `field`, best first. -/
def closestMatches (field : String) (known : List String) (limit : Nat) : List String :=
  let scored := (known.map fun k => (editDistance field k, k)).filter fun p => isClose field p.2 p.1
  ((scored.mergeSort fun a b => a.1 < b.1 || (a.1 == b.1 && a.2 ≤ b.2)).take limit).map (·.2)

/-- A structured error naming the closest real fields. -/
def unknownFieldError (field : String) (known : List String) (role : String) : ToolError :=
  let suggestions := closestMatches field known 3
  let hint :=
    if known.isEmpty then "Call get_model to see this model's fields."
    else if suggestions.isEmpty then "Valid " ++ role ++ "s on this model: " ++ Str.join ", " known ++ "."
    else "Did you mean: " ++ Str.join ", " suggestions ++ "?"
  let hint := if known.isEmpty then hint else hint ++ " All fields: " ++ Str.join ", " known ++ "."
  ⟨"UNKNOWN_FIELD", "unknown " ++ role ++ " " ++ std.debug field, some hint⟩

/-- A JSON array of texts. -/
def texts (l : List String) : Value := .array (l.map .string)

/-- The measure an example asks for beside a dimension. -/
def exampleMeasure (model : Model) : String := (model.measures.head?.map (·.formula.expression)).getD "*"

/-- Worked example queries for a model, from its own shape. -/
def exampleQueries (model : Model) : List Value :=
  let example' := fun description query => Value.object [("description", .string description), ("query", .object query)]
  let total := model.measures.head?.map fun measure =>
    let agg := Str.toAsciiLowercase measure.aggregation.sqlFunction
    let agg := if agg = "count(distinct " then "count_distinct" else agg
    let column := measure.formula.expression
    let spec := if column = "*" then "*" else column ++ ":" ++ agg
    example' ("Total " ++ model.name ++ " across all rows") [("measures", texts [spec]), ("name", .string model.name)]
  let breakdown := model.dimensions.head?.map fun dim =>
    example' (model.name ++ " broken down by " ++ dim.name)
      [("dimensions", texts [dim.name]), ("measures", texts [exampleMeasure model]), ("name", .string model.name),
        ("order", texts [dim.name ++ ":desc"])]
  let overTime := model.timeDimensions.head?.map fun td =>
    example' (model.name ++ " over time by month")
      [("measures", texts [exampleMeasure model]), ("name", .string model.name),
        ("order", texts [td.dimension ++ ":asc"]), ("time_dimensions", texts [td.dimension ++ "@month"])]
  let filtered := model.dimensions.head?.map fun dim =>
    example' ("Filter " ++ model.name ++ " by " ++ dim.name)
      [("dimensions", texts [dim.name]), ("filters", texts [dim.name ++ ":eq:<value>"]), ("measures", texts ["*:count"]),
        ("name", .string model.name)]
  total.toList ++ breakdown.toList ++ overTime.toList ++ filtered.toList

end Suggest

end GraphNight
