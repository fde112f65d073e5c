import GraphNight.Core.Models
import GraphNight.Lib.Replace

/-!
# Importing Cube schemas (`graphnight-core/src/importers.rs`)

A Cube schema is free text in many places: the SQL of a measure, of a dimension, of a join.
What the importer recognises becomes a model; what it does not is reported. The report is
passed along and only ever grows. Reading the YAML is left to its parser.
-/

namespace GraphNight

/-- What an import produced, plus what it could not. -/
structure ImportReport where
  models : List Model := []
  /-- Non-fatal problems worth a human's attention. -/
  warnings : List String := []

namespace ImportReport

def warn (report : ImportReport) (message : String) : ImportReport :=
  { report with warnings := report.warnings ++ [message] }

@[simp] theorem warnings_warn (report : ImportReport) (message : String) :
    (report.warn message).warnings = report.warnings ++ [message] := rfl

@[simp] theorem models_warn (report : ImportReport) (message : String) : (report.warn message).models = report.models := rfl

end ImportReport

/-- `char::is_alphanumeric`, which is Unicode's beyond ASCII. -/
structure Alphanumeric where
  holds : Char → Bool
  ascii : ∀ c : Char, c.toNat < 128 → holds c = Str.isAsciiAlphanumeric c

/-- Whether an expression is a bare column reference: `*`, `column` and `schema.column` qualify. -/
def isPlainColumn (alphanumeric : Alphanumeric) (expr : String) : Bool :=
  let expr := Str.trim expr
  if expr = "*" then true
  else
    expr != "" && (Str.split expr '.').all fun part =>
      part != "" && part.toList.all fun c => alphanumeric.holds c || c == '_'

/-- A plain column has only dots beside what is alphanumeric; the star stands alone. -/
theorem not_mem_of_isPlainColumn {alphanumeric : Alphanumeric} {expr : String} (h : isPlainColumn alphanumeric expr = true) {c : Char}
    (hascii : c.toNat < 128) (hno : (Str.isAsciiAlphanumeric c || c == '_' || c == '.' || c == '*') = false) :
    c ∉ (Str.trim expr).toList := by
  intro hc
  simp only [Bool.or_eq_false_iff, beq_eq_false_iff_ne] at hno
  obtain ⟨⟨⟨halpha, hunder⟩, hdot⟩, hstar⟩ := hno
  unfold isPlainColumn at h
  dsimp only at h
  split_ifs at h with hwhole
  · rw [hwhole] at hc
    exact hstar (by simpa using hc)
  · rw [Bool.and_eq_true, List.all_eq_true] at h
    obtain hsep | ⟨part, hpart, hmem⟩ := @Str.mem_split _ '.' _ hc
    · exact hdot hsep
    · have hword := (Bool.and_eq_true _ _ ▸ h.2 part hpart).2
      have hchar := List.all_eq_true.1 hword c hmem
      rw [alphanumeric.ascii c hascii, halpha] at hchar
      simp [hunder] at hchar

/-- Report names that differ only in case, each beside the last one like it; `str::to_lowercase`
folds all of Unicode. -/
def warnOnCaseCollisions (toLowercase : String → String) (name : String) : List String → List (String × String) → ImportReport → ImportReport
  | [], _, report => report
  | field :: fields, seen, report =>
    let folded := toLowercase field
    let report := match seen.lookup folded with
      | some first => report.warn (name ++ ": `" ++ first ++ "` and `" ++ field ++ "` differ only in case; " ++
          "warehouse identifiers may not. Both were imported — rename one if queries fail.")
      | none => report
    warnOnCaseCollisions toLowercase name fields ((folded, field) :: seen) report

/-! ## What a schema file holds -/

structure CubeMeasure where
  name : String
  title : Option String := none
  /-- `{ sql: "sum(amount)" }` or a bare string. -/
  sql : Option Value := none
  measureType : Option String := none

structure CubeDimension where
  name : String
  title : Option String := none
  sql : Option Value := none
  dimensionType : Option String := none

structure CubeJoin where
  name : String
  sql : Option Value := none
  relationship : Option String := none

structure Cube where
  name : String
  title : Option String := none
  description : Option String := none
  /-- Cube allows a bare string; treat it as a model name. -/
  sqlTable : Option Value := none
  measures : List CubeMeasure := []
  dimensions : List CubeDimension := []
  joins : List CubeJoin := []

structure CubeSchema where
  cubes : List Cube := []

/-- Read a string that Cube allows to be either a scalar or `{ sql: ... }`. -/
def cubeSql : Option Value → Option String
  | some (.string s) => some s
  | some (.object map) => (map.lookup "sql").bind Value.asStr
  | _ => none

/-! ## Measures -/

/-- Split `sum(amount)` into `("sum", some "amount")`; `none` when the text is not a function call
at all. -/
def splitAggregate (sql : String) : Option (String × Option String) :=
  match Str.splitFirst '(' (Str.trim sql).toList with
  | none => none
  | some (before, body) =>
    let name := Str.trim (String.ofList before)
    if name = "" || !(name.toList.all fun c => Str.isAsciiAlphanumeric c || c == '_') then none
    else
      match Str.splitLast ')' body with
      | none => none
      | some (inner, _) =>
        let inner := Str.trim (String.ofList inner)
        if inner = "" then some (name, none) else some (name, some inner)

section

variable (alphanumeric : Alphanumeric)

/-- A measure that counts. -/
def CubeMeasure.isCount (raw : CubeMeasure) : Bool := (raw.measureType.map (Str.eqIgnoreAsciiCase · "count")).getD false

/-- Convert a Cube `sql:` expression into a GraphNight measure. -/
def cubeMeasureToMeasure (raw : CubeMeasure) (model : String) (report : ImportReport) : Option Measure × ImportReport :=
  let sql := (cubeSql raw.sql).getD raw.name
  let label := raw.title.or (some raw.name)
  if raw.isCount then
    (some ⟨{ expression := "*", label }, .count⟩, report)
  else
    match splitAggregate sql with
    | none =>
      (none, report.warn (model ++ "." ++ raw.name ++ ": `" ++ sql ++ "` is not an aggregate call, so no aggregation could be " ++
        "determined; measure skipped. Use `sql: sum(<column>)`."))
    | some (func, inner) =>
      match AggregationType.parseStrict func with
      | .error _ =>
        (none, report.warn (model ++ "." ++ raw.name ++ ": `" ++ func ++ "` is not a GraphNight aggregation; measure skipped"))
      | .ok aggregation =>
        match inner with
        | some expr =>
          let report :=
            if isPlainColumn alphanumeric expr then report
            else report.warn (model ++ "." ++ raw.name ++ ": `" ++ expr ++ "` is not a plain column reference; imported as a " ++
              "field name and will fail unless a column with that name exists.")
          (some ⟨{ expression := expr, label }, aggregation⟩, report)
        | none =>
          match raw.measureType.bind fun t => (AggregationType.parseStrict t).toOption with
          | some agg => (some ⟨{ expression := sql, label }, agg⟩, report)
          | none =>
            (none, report.warn (model ++ "." ++ raw.name ++ ": could not determine an aggregation from `" ++ sql ++ "`; " ++
              "measure skipped. Use `sql: sum(<column>)`."))

end

/-! ## Dimensions -/

/-- The dimension is one of time. -/
def CubeDimension.isTime (raw : CubeDimension) : Bool := (raw.dimensionType.map (Str.eqIgnoreAsciiCase · "time")).getD false

/-- Convert a Cube dimension. -/
def cubeDimensionToDimension (raw : CubeDimension) (model : String) (report : ImportReport) : Option Dimension × ImportReport :=
  let report := match cubeSql raw.sql with
    | some sql =>
      if sql ≠ raw.name ∧ Str.containsStr sql raw.name = false then
        report.warn (model ++ "." ++ raw.name ++ ": dimension is a SQL expression (`" ++ sql ++ "`); " ++
          "imported as a plain field named `" ++ raw.name ++ "`. Rewrite it as a model SQL override " ++
          "if you need the expression.")
      else report
    | none => report
  -- handled separately by the caller
  if raw.isTime then (none, report) else (some ⟨raw.name, raw.title⟩, report)

/-! ## Joins -/

/-- Strip a Cube member reference down to a bare column name. -/
def cleanJoinSide (side : String) (raw : CubeJoin) : String :=
  let side := Str.trim (Str.trimMatches '"' (Str.trim side))
  let side := Str.remove ("\x7b" ++ raw.name ++ "\x7d") (Str.remove ("$\x7b" ++ raw.name ++ "\x7d")
    (Str.remove "\x7bCUBE\x7d" (Str.remove "$\x7bCUBE\x7d" side)))
  -- a leading qualifier dot left behind by removing the prefix
  let side := (Str.stripPrefix side ".").getD side
  Str.trim (((Str.rsplitOnce side '.').map (·.2)).getD side)

def cubeJoinToJoin (raw : CubeJoin) (report : ImportReport) : Option Join × ImportReport :=
  match cubeSql raw.sql with
  | none => (none, report)
  | some sql =>
    match Str.splitOnce sql '=' with
    | none => (none, report)
    | some (left, right) =>
      let left := cleanJoinSide left raw
      let right := cleanJoinSide right raw
      if left = "" ∨ right = "" then
        (none, report.warn ("join `" ++ raw.name ++ "`: could not read `" ++ sql ++ "` as a column pair; join skipped"))
      else
        let relationship := raw.relationship.getD "many_to_one"
        let joinType := if Str.containsStr relationship "one_to_one" then .inner else .left
        (some { name := raw.name, model := "", joinType, on := [(left, right)] }, report)

/-! ## The schema -/

/-- `Iterator::filter_map` over conversions that report. -/
def convertAll {ρ α : Type} (convert : ρ → ImportReport → Option α × ImportReport) : List ρ → ImportReport → List α × ImportReport
  | [], report => ([], report)
  | raw :: rest, report =>
    let (converted, report) := convert raw report
    let (others, report) := convertAll convert rest report
    (converted.toList ++ others, report)

/-- The dimensions and the time dimensions of a cube. -/
def convertDimensions (model : String) : List CubeDimension → ImportReport → List Dimension × List TimeDimension × ImportReport
  | [], report => ([], [], report)
  | raw :: rest, report =>
    if raw.isTime then
      let (dimensions, timeDimensions, report) := convertDimensions model rest report
      (dimensions, { dimension := raw.name, granularity := .day, label := raw.title } :: timeDimensions, report)
    else
      let (converted, report) := cubeDimensionToDimension raw model report
      let (dimensions, timeDimensions, report) := convertDimensions model rest report
      (converted.toList ++ dimensions, timeDimensions, report)

section

variable (alphanumeric : Alphanumeric) (toLowercase : String → String)

/-- One round of the loop over the cubes. -/
def importCube (datasource : String) (report : ImportReport) (cube : Cube) : ImportReport :=
  let (measures, report) := convertAll (fun raw => cubeMeasureToMeasure alphanumeric raw cube.name) cube.measures report
  let (dimensions, timeDimensions, report) := convertDimensions cube.name cube.dimensions report
  let (joins, report) := convertAll cubeJoinToJoin cube.joins report
  let joins := joins.map fun join => if join.model = "" then { join with model := join.name } else join
  let report :=
    if measures.isEmpty then
      report.warn (cube.name ++ ": no measures were imported, so this model can only " ++
        "group and filter. Add measures in the Cube schema or edit the model after import.")
    else report
  let fieldNames := dimensions.map (·.name) ++ timeDimensions.map (·.dimension)
  let report := warnOnCaseCollisions toLowercase cube.name fieldNames [] report
  let sqlTable := cubeSql cube.sqlTable
  let sqlOverride := match sqlTable with
    | some table => if Str.eqIgnoreAsciiCase table cube.name then none else some ("SELECT * FROM " ++ table)
    | none => none
  let report :=
    if sqlTable.isSome ∧ sqlOverride = none then
      report.warn ("cube '" ++ cube.name ++ "': sql_table matches the cube name, so no SQL override was needed")
    else report
  { report with models := report.models ++ [{
      name := cube.name
      datasource
      description := cube.description.or cube.title
      measures
      dimensions
      timeDimensions
      joins
      sql := sqlOverride }] }

/-- Report joins whose target is not among the imported models. -/
def warnAboutDanglingJoins (report : ImportReport) : ImportReport :=
  let known := report.models.map (·.name)
  let dangling := report.models.flatMap fun model => (model.joins.filter fun join => !known.contains join.model).map fun join =>
    "join target `" ++ join.model ++ "` is not a registered model (reached from `" ++ model.name ++ "`). " ++
      "Register the model or remove the join."
  dangling.foldl ImportReport.warn report

/-- Import a Cube schema that has been read. -/
def importCubeSchema (schema : CubeSchema) (datasource : String) : ImportReport :=
  warnAboutDanglingJoins (schema.cubes.foldl (importCube alphanumeric toLowercase datasource) {})

end

end GraphNight
