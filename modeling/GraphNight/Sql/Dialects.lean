import GraphNight.Sql.Plan
import GraphNight.Lib.Fault

/-!
# SQL dialects (`graphnight-sql/src/dialects.rs`)
-/

namespace GraphNight

open SqlText

/-- The implementors of the `Dialect` trait. -/
inductive Dialect where
  | postgres | mySql | sqlite | duckDb
deriving DecidableEq, Repr

mutual

/-- `format_value` up to what the dialects write differently: booleans, the
escaping of a string literal, and the brackets and separator of an array. -/
def formatValueWith (bool : Bool → String) (escape : String → String) (arrayOpen sep arrayClose : String) :
    Value → String
  | .null => "NULL"
  | .bool b => bool b
  | .number n => n
  | .string s => "'" ++ escape s ++ "'"
  | .array items =>
    arrayOpen ++ Str.join sep (formatItemsWith bool escape arrayOpen sep arrayClose items) ++ arrayClose
  | .object fields => "'" ++ escape (Value.object fields).toJson ++ "'"

def formatItemsWith (bool : Bool → String) (escape : String → String) (arrayOpen sep arrayClose : String) :
    List Value → List String
  | [] => []
  | v :: vs =>
    formatValueWith bool escape arrayOpen sep arrayClose v ::
      formatItemsWith bool escape arrayOpen sep arrayClose vs

end

/-- `s.replace("'", "''")`. -/
def doubleQuotes (s : String) : String := Str.replaceChar '\'' "''" s

def trueFalse (b : Bool) : String := if b then "TRUE" else "FALSE"

/-- Geometry constructor shared by PostGIS and DuckDB spatial. -/
def ogcGeometryCtor (valueSql : SqlText) (fromWkt : Bool) : SqlText :=
  code ((if fromWkt then "ST_GeomFromText" else "ST_GeomFromGeoJSON") ++ "(CAST(") ++ valueSql ++
    code " AS VARCHAR))"

/-- `" LIMIT {lim}"` when there is a limit. -/
def limitText (limit : Option Nat) : SqlText :=
  match limit with
  | some lim => code (" LIMIT " ++ toString lim)
  | none => []

/-- `" OFFSET {off}"` when there is an offset. -/
def offsetText (offset : Option Nat) : SqlText :=
  match offset with
  | some off => code (" OFFSET " ++ toString off)
  | none => []

namespace PostgresDialect

def name : String := "postgres"

def quoteIdent (ident : String) : String := "\"" ++ Str.replaceChar '"' "\"\"" ident ++ "\""

def placeholder (index : Nat) : String := "$" ++ toString index

def formatValue : Value → String := formatValueWith trueFalse doubleQuotes "ARRAY[" ", " "]"

def dateTrunc (unit : String) (column : SqlText) : SqlText :=
  code ("DATE_TRUNC('" ++ unit ++ "', ") ++ column ++ code ")"

def limitOffset (sql : SqlText) (limit offset : Option Nat) : SqlText :=
  sql ++ limitText limit ++ offsetText offset

end PostgresDialect

namespace MySqlDialect

def name : String := "mysql"

def quoteIdent (ident : String) : String := "`" ++ Str.replaceChar '`' "``" ident ++ "`"

/-- Escape a MySQL string literal: backslash first, then the quote. -/
def escapeLiteral (s : String) : String := doubleQuotes (Str.replaceChar '\\' "\\\\" s)

def formatValue : Value → String := formatValueWith trueFalse escapeLiteral "JSON_ARRAY(" ", " ")"

def dateTrunc (unit : String) (column : SqlText) : SqlText :=
  let format :=
    match unit with
    | "second" => "%Y-%m-%d %H:%i:%s"
    | "minute" => "%Y-%m-%d %H:%i:00"
    | "hour" => "%Y-%m-%d %H:00:00"
    | "day" => "%Y-%m-%d"
    | "week" => "%Y-%u"
    | "month" => "%Y-%m"
    | "quarter" => "QUARTER"
    | "year" => "%Y"
    | _ => "%Y-%m-%d"
  if format = "QUARTER" then call "QUARTER" column
  else code "DATE_FORMAT(" ++ column ++ code (", '" ++ format ++ "')")

def limitOffset (sql : SqlText) (limit offset : Option Nat) : SqlText :=
  match limit with
  | some lim =>
    match offset with
    | some off => sql ++ code (" LIMIT " ++ toString off ++ " OFFSET " ++ toString lim)
    | none => sql ++ code (" LIMIT " ++ toString lim)
  | none =>
    match offset with
    | some off => sql ++ code (" LIMIT " ++ toString 18446744073709551615 ++ " OFFSET " ++ toString off)
    | none => sql

end MySqlDialect

namespace SqliteDialect

def name : String := "sqlite"

def quoteIdent (ident : String) : String := "\"" ++ Str.replaceChar '"' "\"\"" ident ++ "\""

def formatValue : Value → String :=
  formatValueWith (fun b => if b then "1" else "0") doubleQuotes "JSON_GROUP_ARRAY(" "," ")"

def dateTrunc (unit : String) (column : SqlText) : SqlText :=
  let format :=
    match unit with
    | "second" => "%Y-%m-%d %H:%M:%S"
    | "minute" => "%Y-%m-%d %H:%M:00"
    | "hour" => "%Y-%m-%d %H:00:00"
    | "day" => "%Y-%m-%d"
    | "week" => "%Y-%W"
    | "month" => "%Y-%m"
    | "quarter" => "((CAST(strftime('%m', \x7b\x7d) AS INTEGER) - 1) / 3) + 1"
    | "year" => "%Y"
    | _ => "%Y-%m-%d"
  if Str.containsStr format "quarter" then
    (((Str.splitStr format "\x7b\x7d").map code).intersperse column).flatten
  else code ("strftime('" ++ format ++ "', ") ++ column ++ code ")"

def limitOffset (sql : SqlText) (limit offset : Option Nat) : SqlText :=
  sql ++ limitText limit ++ offsetText offset

end SqliteDialect

namespace DuckDbDialect

def name : String := "duckdb"

def quoteIdent (ident : String) : String := "\"" ++ Str.replaceChar '"' "\"\"" ident ++ "\""

def formatValue : Value → String := formatValueWith trueFalse doubleQuotes "[" ", " "]"

def dateTrunc (unit : String) (column : SqlText) : SqlText :=
  if unit = "day" then code "CAST(DATE_TRUNC('day', " ++ column ++ code ") AS DATE)"
  else code ("DATE_TRUNC('" ++ unit ++ "', ") ++ column ++ code ")"

def limitOffset (sql : SqlText) (limit offset : Option Nat) : SqlText :=
  sql ++ limitText limit ++ offsetText offset

end DuckDbDialect

namespace Dialect

def name : Dialect → String
  | postgres => PostgresDialect.name
  | mySql => MySqlDialect.name
  | sqlite => SqliteDialect.name
  | duckDb => DuckDbDialect.name

def quoteIdent : Dialect → String → String
  | postgres => PostgresDialect.quoteIdent
  | mySql => MySqlDialect.quoteIdent
  | sqlite => SqliteDialect.quoteIdent
  | duckDb => DuckDbDialect.quoteIdent

def formatValue : Dialect → Value → String
  | postgres => PostgresDialect.formatValue
  | mySql => MySqlDialect.formatValue
  | sqlite => SqliteDialect.formatValue
  | duckDb => DuckDbDialect.formatValue

/-- The bind placeholder for the parameter at `index`; `?` is the trait's default. -/
def placeholder : Dialect → Nat → String
  | postgres, index => PostgresDialect.placeholder index
  | _, _ => "?"

/-- Wrap a rendered geometry value in a constructor; the trait's default is `none`. -/
def spatialGeometry : Dialect → SqlText → Bool → Option SqlText
  | postgres, valueSql, fromWkt | duckDb, valueSql, fromWkt => some (ogcGeometryCtor valueSql fromWkt)
  | _, _, _ => none

/-- Render a geometry column as GeoJSON; the trait's default is `none`. -/
def geometryAsGeojson : Dialect → SqlText → Option SqlText
  | postgres, columnSql | duckDb, columnSql => some (call "ST_AsGeoJSON" columnSql)
  | _, _ => none

def dateTrunc : Dialect → String → SqlText → SqlText
  | postgres => PostgresDialect.dateTrunc
  | mySql => MySqlDialect.dateTrunc
  | sqlite => SqliteDialect.dateTrunc
  | duckDb => DuckDbDialect.dateTrunc

def limitOffset : Dialect → SqlText → Option Nat → Option Nat → SqlText
  | postgres => PostgresDialect.limitOffset
  | mySql => MySqlDialect.limitOffset
  | sqlite => SqliteDialect.limitOffset
  | duckDb => DuckDbDialect.limitOffset

/-- The string of one piece. -/
def renderFrag (d : Dialect) : Frag → String
  | .code text => text
  | .raw name => name
  | .ident name => d.quoteIdent name
  | .func name => name
  | .number text => text
  | .param index => d.placeholder index
  | .value v => d.formatValue v

/-- The string of a text. -/
def render (d : Dialect) : SqlText → String
  | [] => ""
  | f :: t => d.renderFrag f ++ render d t

@[simp] theorem render_nil (d : Dialect) : d.render [] = "" := rfl

@[simp] theorem render_cons (d : Dialect) (f : Frag) (t : SqlText) :
    d.render (f :: t) = d.renderFrag f ++ d.render t := rfl

@[simp] theorem render_append (d : Dialect) (t u : SqlText) :
    d.render (t ++ u) = d.render t ++ d.render u := by
  induction t with
  | nil => simp
  | cons f t ih => simp [ih, String.append_assoc]

/-- The string of pieces with a separator. -/
theorem render_join (d : Dialect) (sep : String) (ts : List SqlText) : d.render (join sep ts) = Str.join sep (ts.map d.render) := by
  induction ts using join.induct with
  | case1 => rfl
  | case2 t => rfl
  | case3 t u rest ih =>
    rw [join, render_append, render_append, ih]
    simp [code, renderFrag]

/-- Render the FROM source: a table name as an identifier, a custom SQL override
as a subquery. -/
def renderSource (plan : LogicalPlan) : SqlText :=
  if plan.sourceIsSql then
    code ("(" ++ Str.trimEndMatches ';' (Str.trim plan.sourceTable) ++ ")")
  else ident plan.sourceTable

def selectItemText (item : SelectItem) : SqlText :=
  match item.aliasName with
  | some aliasName => item.expression ++ code " AS " ++ ident aliasName
  | none => item.expression

def joinText (join : JoinClause) : SqlText :=
  code (" " ++ join.joinType ++ " ") ++ ident join.table ++ code " " ++ ident join.aliasName ++
    code " ON " ++ join.on ++ code " "

def orderText (item : OrderByItem) : SqlText :=
  item.column ++ code (" " ++ if item.descending then "DESC" else "ASC")

/-- The statement of a plan before its final `trim`. The four dialects write the
same body out, each with its own `limit_offset`. -/
def statementText (d : Dialect) (plan : LogicalPlan) : SqlText :=
  let sql := code "SELECT " ++ if plan.distinct then code "DISTINCT " else []
  let sql := sql ++ join ", " (plan.selectItems.map selectItemText)
  let sql := sql ++ (code " FROM " ++ renderSource plan ++ code " ")
  let sql := sql ++ (ident plan.sourceAlias ++ code " ")
  let sql := sql ++ (plan.joins.map joinText).flatten
  let sql := sql ++
    match plan.whereClause with
    | some whereClause => code " WHERE " ++ whereClause ++ code " "
    | none => []
  let sql := sql ++
    if plan.groupBy.isEmpty then [] else code " GROUP BY " ++ join ", " plan.groupBy ++ code " "
  let sql := sql ++
    if plan.orderBy.isEmpty then []
    else code " ORDER BY " ++ join ", " (plan.orderBy.map orderText) ++ code " "
  d.limitOffset sql plan.limit plan.offset

def generateSql (d : Dialect) (plan : LogicalPlan) : Res String String :=
  .ok (Str.trim (d.render (d.statementText plan)))

/-- Get dialect by name. -/
def getDialect (name : String) : Dialect :=
  match Str.toLowercase name with
  | "postgres" | "postgresql" | "pg" => postgres
  | "mysql" | "mariadb" => mySql
  | "sqlite" | "sqlite3" => sqlite
  | "duckdb" => duckDb
  | _ => postgres

theorem name_injective {d d' : Dialect} (h : d.name = d'.name) : d = d' := by
  cases d <;> cases d' <;> first | rfl | simp [name, PostgresDialect.name, MySqlDialect.name,
    SqliteDialect.name, DuckDbDialect.name] at h

end Dialect

end GraphNight
