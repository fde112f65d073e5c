import GraphNight.Core.JsonText
import GraphNight.Runtime.Catalog
import GraphNight.Runtime.Llm

/-!
# The JSON of the tools' answers (`graphnight-runtime/src/tools.rs`, `memory.rs`)

What `json!` makes of an answer: the fields of an object stand in the order of the map, which
sorts its keys. The schema of a tool's input, the text of a number and the text of a time
come from libraries and are parameters.
-/

namespace GraphNight

/-- What the libraries behind the answers write. -/
structure AnswerTexts where
  /-- `schema_for!` of a tool's input. -/
  inputSchema : String → Value
  /-- An `f32` in JSON. -/
  f32 : F32
  /-- `DateTime::to_rfc3339`. -/
  rfc3339 : Int → String

namespace Json

def count (n : Nat) : Value := .number (toString n)

def texts (l : List String) : Value := .array (l.map .string)

def optionalTexts : Option (List String) → Value := optional texts

end Json

open Json

/-- `MemoryRecord::to_json`. -/
def MemoryRecord.toJson (t : AnswerTexts) (m : MemoryRecord) : Value :=
  .object [("created_at", .string (t.rfc3339 m.createdAt)), ("description", optionalText m.description), ("id", .string m.id),
    ("importance", .number (t.f32.write m.importance)), ("kind", .string m.kind.asStr), ("linked_entities", texts m.linkedEntities),
    ("scope", .string m.scope.asStr), ("text", .string m.text), ("updated_at", .string (t.rfc3339 m.updatedAt))]

/-- `ToolCatalog::capabilities`. -/
def Capabilities.toJson (c : Capabilities) : Value :=
  .object [
    ("aggregations", texts ["sum", "avg", "count", "min", "max", "count_distinct"]),
    ("filter_operators", texts ["eq", "neq", "gt", "gte", "lt", "lte", "in", "not_in", "like", "ilike", "not_like", "is_null",
      "is_not_null", "between"]),
    ("formula_functions", texts ["time_shift(measure, -1, 'month')", "ratio(numerator, denominator)", "pct_change(measure)",
      "running_total(measure)"]),
    ("governance", .object [("allowed_datasources", optionalTexts c.allowedDatasources),
      ("allowed_models", optionalTexts c.allowedModels), ("column_masks", count c.columnMasks),
      ("forced_filters", count c.forcedFilters), ("row_level_security", .bool c.rowLevelSecurity)]),
    ("limits", .object [("default_max_rows", count c.defaultMaxRows), ("policy_max_rows", optionalCount c.policyMaxRows),
      ("query_timeout_secs", optionalCount c.queryTimeoutSecs)]),
    ("measure_shorthand", .object [
      ("description", .string "A measure is '<column>:<aggregation>', or '*' for row counts"),
      ("examples", texts ["revenue:sum", "amount_usd:sum", "*:count", "customer_id:count_distinct"])]),
    ("mutations_enabled", .bool c.mutationsEnabled),
    ("query_shorthand", .object [("filters", .string "field:operator:value, e.g. status:eq:completed"),
      ("order", .string "field:asc | field:desc"), ("time_dimensions", .string "column@granularity, e.g. created_at@month")]),
    ("recommended_flow", texts ["get_capabilities", "search_models", "get_model", "validate_query", "run_query"]),
    ("server", .string "graphnight"),
    ("sql_dialects", texts ["postgres", "mysql", "sqlite", "duckdb"]),
    ("time_granularities", texts ["second", "minute", "hour", "day", "week", "month", "quarter", "year"]),
    ("version", .string "2.0.0")]

def ModelSummary.toJson (m : ModelSummary) : Value :=
  .object [("datasource", .string m.datasource), ("description", optionalText m.description),
    ("dimension_count", count m.dimensionCount), ("measure_count", count m.measureCount), ("name", .string m.name)]

def ModelHit.toJson (t : AnswerTexts) (h : ModelHit) : Value :=
  .object [("datasource", .string h.datasource), ("matched_fields", texts h.matchedFields), ("model", .string h.model),
    ("retrieval", .string h.retrieval), ("score", .number (t.f32.write h.score)), ("snippet", .string h.snippet)]

def ModelSchema.toJson (m : ModelSchema) : Value :=
  let measure := fun (p : String × String × Option String × Option String) => Value.object
    [("aggregation", .string p.2.1), ("format", optionalText p.2.2.2), ("formula", .string p.1), ("label", optionalText p.2.2.1)]
  let dimension := fun (p : String × Option String) => Value.object [("label", optionalText p.2), ("name", .string p.1)]
  let timeDimension := fun (p : String × String × Option String) => Value.object
    [("dimension", .string p.1), ("granularity", .string p.2.1), ("label", optionalText p.2.2)]
  let join := fun (p : String × String × String × String) => Value.object
    [("alias", .string p.2.2.2), ("join_type", .string p.2.2.1), ("model", .string p.2.1), ("name", .string p.1)]
  .object [("datasource", .string m.datasource), ("description", optionalText m.description),
    ("dimensions", .array (m.dimensions.map dimension)), ("example_queries", .array m.exampleQueries),
    ("joins", .array (m.joins.map join)), ("measures", .array (m.measures.map measure)), ("name", .string m.name),
    ("next_step", .string "Use one of example_queries as a template; call validate_query before run_query."),
    ("time_dimensions", .array (m.timeDimensions.map timeDimension))]

/-- The text of a statement that is shown. -/
def shownSql : Option GeneratedSql → Value := optional fun sql => .string sql.display

def StageRows.toJson (s : StageRows) : Value :=
  .object [("columns", texts s.columns), ("dialect", .string s.dialect), ("row_count", count s.rowCount), ("rows", .array s.rows),
    ("sql", shownSql s.sql), ("stage", count s.stage)]

/-- One of `mcp_descriptors`. -/
def toolDescriptor (t : AnswerTexts) (tool : String × String) : Value :=
  .object [("description", .string tool.2), ("inputSchema", t.inputSchema tool.1), ("name", .string tool.1)]

/-- The JSON a tool returns, after as many milliseconds as its query took. -/
def ToolOutput.toJson (t : AnswerTexts) (elapsed : Nat) : ToolOutput → Value
  | .capabilities c => c.toJson
  | .tools descriptors => .object [("tools", .array (descriptors.map (toolDescriptor t)))]
  | .models found => .object [("models", .array (found.map (·.toJson))),
      ("next_step", .string "Call get_model with a name to see its full schema and example queries."),
      ("total", count found.length)]
  | .results hits retrieval => .object [("count", count hits.length),
      ("next_step", .string "Call get_model with the best match to see its fields before querying."),
      ("results", .array (hits.map (·.toJson t))), ("retrieval", .string retrieval)]
  | .schema model => model.toJson
  | .valid sql dialect => .object [("dialect", .string dialect),
      ("note", .string "Not executed. Call run_query to fetch rows."),
      ("sql", .string ((sql.map (·.display)).getD "")), ("valid", .bool true)]
  | .invalid error => .object [("error", error.toJson), ("valid", .bool false)]
  | .rows columns data rowCount truncated nextOffset dialect sql => .object [("columns", texts columns),
      ("dialect", .string dialect), ("execution_time_ms", .number (toString elapsed ++ ".0")),
      ("next_offset", optionalCount nextOffset), ("row_count", count rowCount), ("rows", .array data), ("sql", shownSql sql),
      ("truncated", .bool truncated)]
  | .stages outcomes dryRun => .object [("dry_run", .bool dryRun), ("stages", .array (outcomes.map (·.toJson)))]
  | .memories out => .object [("count", count out.count), ("memories", .array (out.memories.map (·.toJson t)))]
  | .remembered out => .object [("id", .string out.id), ("stored", .bool out.stored)]
  | .created name => .object [("created", .bool true), ("name", .string name)]
  | .createdDatasource name driver poolSize => .object [("created", .bool true), ("driver", .string driver),
      ("name", .string name), ("pool_size", optionalCount poolSize)]
  | .updated name => .object [("name", .string name), ("updated", .bool true)]
  | .deleted name => .object [("deleted", .bool true), ("name", .string name)]

end GraphNight
