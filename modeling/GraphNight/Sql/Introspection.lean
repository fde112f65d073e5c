import GraphNight.Lib.Str
import GraphNight.Storage.Backend

/-!
# Models of tables (`graphnight-sql/src/introspection.rs`)

What a datasource's catalogue says of its tables, and the model inferred from one. The
Unicode tables of letter case are a parameter.
-/

namespace GraphNight

structure ColumnInfo where
  name : String
  dataType : String
  /-- The underlying type name where the driver reports a generic one. -/
  udtName : Option String := none
  isPrimaryKey : Bool := false
deriving DecidableEq, Repr

structure ForeignKeyInfo where
  column : String
  referencedTable : String
  referencedColumn : String
deriving DecidableEq, Repr

structure TableInfo where
  name : String
  columns : List ColumnInfo
  foreignKeys : List ForeignKeyInfo := []
deriving DecidableEq, Repr

structure LetterCase where
  /-- `str::to_lowercase`. -/
  toLowercase : String → String
  isUppercase : Char → Bool
  /-- The first character of `char::to_lowercase`. -/
  firstLower : Char → Char
  toUppercase : Char → List Char

namespace Introspection

variable (cases : LetterCase)

/-- The rest of a name, behind its first character or not, and behind a capital or not. -/
def snakeCaseFrom (first prevUpper : Bool) : List Char → List Char
  | [] => []
  | c :: rest =>
    if cases.isUppercase c then
      (if !first && !prevUpper then ['_'] else []) ++ cases.firstLower c :: snakeCaseFrom false true rest
    else c :: snakeCaseFrom false false rest

def toSnakeCase (s : String) : String := String.ofList (snakeCaseFrom cases true false s.toList)

def capitalize (word : String) : String :=
  match word.toList with
  | [] => ""
  | first :: rest => String.ofList (cases.toUppercase first ++ rest)

def toTitleCase (s : String) : String := Str.join " " ((Str.split s '_').map (capitalize cases))

def isNumericType (dataType : String) : Bool :=
  ["integer", "int", "bigint", "smallint", "tinyint", "mediumint", "decimal", "numeric", "float", "double", "real",
    "double precision", "money", "serial", "bigserial", "smallserial"].contains dataType

def isTemporalType (dataType : String) : Bool :=
  ["date", "time", "timestamp", "timestamptz", "timestamp with time zone", "timestamp without time zone", "datetime",
    "year"].contains dataType

/-- Only the name before a subtype in parentheses is significant. -/
def isGeometryType (dataType : String) : Bool :=
  let base := Str.toAsciiLowercase (Str.trim ((Str.split dataType '(').headD dataType))
  base == "geometry" || base == "geography"

/-- The fields a column gives. -/
def columnFields (column : ColumnInfo) : List Measure × List Dimension × List TimeDimension :=
  let dimension : Dimension := ⟨column.name, some (toTitleCase cases column.name)⟩
  let colType := cases.toLowercase column.dataType
  if column.isPrimaryKey then ([], [dimension], [])
  else if isTemporalType colType then ([], [dimension], [⟨column.name, .day, some (toTitleCase cases column.name)⟩])
  else if isNumericType colType then ([⟨⟨column.name, none, none⟩, .sum⟩], [dimension], [])
  else ([], [dimension], [])

def inferModelFromTable (table : TableInfo) (datasourceName : String) (allTables : List TableInfo) : StoredModel :=
  let modelName := toSnakeCase cases table.name
  let fields := table.columns.map (columnFields cases)
  let joins := (table.foreignKeys.filter fun fk => allTables.any (·.name == fk.referencedTable)).map fun fk =>
    let target := toSnakeCase cases fk.referencedTable
    ({ name := modelName ++ "_to_" ++ target, model := target, joinType := .left,
       on := [(fk.column, fk.referencedColumn)], aliasName := some target } : Join)
  let model : Model :=
    { name := modelName
      datasource := datasourceName
      description := some ("Auto-generated from table " ++ table.name)
      measures := fields.flatMap (·.1)
      dimensions := fields.flatMap (·.2.1)
      timeDimensions := fields.flatMap (·.2.2)
      joins }
  let geometry := table.columns.filter fun column => isGeometryType (column.udtName.getD column.dataType)
  ⟨geometry.foldl (fun model column => model.markGeometryColumn column.name) model⟩

/-- An inferred model reads the datasource it was inferred for. -/
theorem inferModelFromTable_datasource (table : TableInfo) (datasourceName : String) (allTables : List TableInfo) :
    (inferModelFromTable cases table datasourceName allTables).datasource = datasourceName := by
  have hmarks : ∀ (columns : List ColumnInfo) (model : Model),
      (columns.foldl (fun model column => model.markGeometryColumn column.name) model).datasource = model.datasource := by
    intro columns
    induction columns with
    | nil => exact fun model => rfl
    | cons column columns ih => exact fun model => ih (model.markGeometryColumn column.name)
  exact hmarks _ _

end Introspection

end GraphNight
