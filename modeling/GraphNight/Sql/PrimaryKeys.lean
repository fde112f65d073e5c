import GraphNight.Sql.Executor
import GraphNight.Sql.Introspection
import Mathlib.Algebra.Order.Ring.Rat

/-!
# Primary keys as introspection reads them (`graphnight-sql/src/introspection.rs`)

Postgres and MySQL are asked for the key in a query of its own and leave the flag of every
column false; SQLite counts the key columns in `pk`, of which the sources look for the 1.
-/

namespace GraphNight

/-- `Value::as_i64`. -/
def Value.asI64 : Value → Option Int
  | .number text => text.toInt?.filter fun n => -(2 ^ 63) ≤ n ∧ n < 2 ^ 63
  | _ => none

/-- What introspection reports of a table. -/
structure TableReport extends TableInfo where
  primaryKeys : List String

/-- The catalogues introspection reads. -/
inductive CatalogueKind where
  | postgres
  | mySql
  | sqlite
deriving DecidableEq, Repr

namespace Introspection

/-- `row.get(field).and_then(|v| v.as_str())`. -/
def textCell (row : RowMap) (field : String) : Option String := (row.get field).bind fun cell => cell.2.asStr

def intCell (row : RowMap) (field : String) : Option Int := (row.get field).bind fun cell => cell.2.asI64

/-- `data_type` is `USER-DEFINED` for an extension type, whose name is in `udt_name`. -/
def shownType (reported : String) (udtName : Option String) : String :=
  match udtName with
  | some udt => if reported = "USER-DEFINED" ∧ udt ≠ "" then udt else reported
  | none => reported

def postgresColumn (row : RowMap) : ColumnInfo :=
  let udtName := textCell row "udt_name"
  { name := (textCell row "column_name").getD ""
    dataType := shownType ((textCell row "data_type").getD "") udtName
    udtName }

def mySqlColumn (row : RowMap) : ColumnInfo :=
  { name := (textCell row "column_name").getD "", dataType := (textCell row "data_type").getD "" }

def sqliteColumn (row : RowMap) : ColumnInfo :=
  { name := (textCell row "name").getD ""
    dataType := (textCell row "type").getD ""
    isPrimaryKey := (intCell row "pk").getD 0 == 1 }

/-- `get_postgres_primary_keys`, `get_mysql_primary_keys`. -/
def keyColumns (rows : List RowMap) : List String := rows.filterMap (textCell · "column_name")

def sqlitePrimaryKeys (rows : List RowMap) : List String :=
  (rows.filter fun row => (intCell row "pk").getD 0 == 1).filterMap (textCell · "name")

/-- A foreign key, from the columns a catalogue names its ends in. -/
def foreignKey (column table target : String) (row : RowMap) : Option ForeignKeyInfo := do
  return ⟨← textCell row column, ← textCell row table, ← textCell row target⟩

/-- The rows a catalogue answers for one table. -/
structure TableRows where
  columns : List RowMap
  keys : List RowMap
  foreignKeys : List RowMap := []

def readTable (catalogue : CatalogueKind) (name : String) (rows : TableRows) : TableReport :=
  match catalogue with
  | .postgres =>
    { name, columns := rows.columns.map postgresColumn, primaryKeys := keyColumns rows.keys
      foreignKeys := rows.foreignKeys.filterMap (foreignKey "column_name" "foreign_table_name" "foreign_column_name") }
  | .mySql =>
    { name, columns := rows.columns.map mySqlColumn, primaryKeys := keyColumns rows.keys
      foreignKeys := rows.foreignKeys.filterMap (foreignKey "column_name" "referenced_table_name" "referenced_column_name") }
  | .sqlite =>
    { name, columns := rows.columns.map sqliteColumn, primaryKeys := sqlitePrimaryKeys rows.keys
      foreignKeys := rows.foreignKeys.filterMap (foreignKey "from" "table" "to") }

/-! ## Tables with keys -/

/-- A column of a table. -/
structure TableColumn where
  name : String
  dataType : String
  udtName : Option String := none
deriving DecidableEq, Repr

/-- A table: columns with distinct names, some of which are its key, in the key's order. -/
structure KeyedTable where
  name : String
  columns : List TableColumn
  key : List String
  distinct : (columns.map (·.name)).Nodup
  key_distinct : key.Nodup
  key_mem : ∀ k ∈ key, k ∈ columns.map (·.name)

/-- The place of a column in the key, counted from one; zero outside the key. -/
def KeyedTable.ordinal (t : KeyedTable) (column : String) : Int := if column ∈ t.key then t.key.idxOf column + 1 else 0

/-- The rows a catalogue answers for a table: its columns in their order, and the key. -/
def Describes (t : KeyedTable) (rows : TableRows) : CatalogueKind → Prop
  | .postgres => List.Forall₂ (fun row (c : TableColumn) => textCell row "column_name" = some c.name ∧
        textCell row "data_type" = some c.dataType ∧ textCell row "udt_name" = c.udtName) rows.columns t.columns ∧
      rows.keys.map (textCell · "column_name") = t.key.map some
  | .mySql => List.Forall₂ (fun row (c : TableColumn) => textCell row "column_name" = some c.name ∧
        textCell row "data_type" = some c.dataType) rows.columns t.columns ∧
      rows.keys.map (textCell · "column_name") = t.key.map some
  | .sqlite => List.Forall₂ (fun row (c : TableColumn) => textCell row "name" = some c.name ∧
        textCell row "type" = some c.dataType ∧ intCell row "pk" = some (t.ordinal c.name)) rows.columns t.columns ∧
      rows.keys = rows.columns

/-- The type name a column is classified by. -/
def TableColumn.readType (c : TableColumn) : CatalogueKind → String
  | .postgres => shownType c.dataType c.udtName
  | _ => c.dataType

variable (cases : LetterCase)

/-- The report names the key columns, and the inferred model has a dimension and no
measure for each of them. -/
def KeysKept (t : KeyedTable) (report : TableReport) (datasourceName : String) (allTables : List TableInfo) : Prop :=
  let model := inferModelFromTable cases report.toTableInfo datasourceName allTables
  report.primaryKeys = t.key ∧ ∀ k ∈ t.key, (∃ d ∈ model.dimensions, d.name = k) ∧ ∀ m ∈ model.measures, m.formula.expression ≠ k

/-- What the catalogue of a table must not show: for Postgres and MySQL a numeric key
column, for SQLite a second key column. -/
def KeyRead (t : KeyedTable) : CatalogueKind → Prop
  | .sqlite => t.key.length ≤ 1
  | catalogue => ∀ c ∈ t.columns, c.name ∈ t.key → isNumericType (cases.toLowercase (c.readType catalogue)) = false

variable {cases}

/-! ## What the inferred model has of a column -/

theorem inferred_fields (table : TableInfo) (datasourceName : String) (allTables : List TableInfo) :
    (inferModelFromTable cases table datasourceName allTables).measures = table.columns.flatMap (fun c => (columnFields cases c).1) ∧
    (inferModelFromTable cases table datasourceName allTables).dimensions =
      table.columns.flatMap (fun c => (columnFields cases c).2.1) := by
  have hmarks : ∀ (columns : List ColumnInfo) (model : Model),
      (columns.foldl (fun model column => model.markGeometryColumn column.name) model).measures = model.measures ∧
      (columns.foldl (fun model column => model.markGeometryColumn column.name) model).dimensions = model.dimensions := by
    intro columns
    induction columns with
    | nil => exact fun model => ⟨rfl, rfl⟩
    | cons column columns ih => exact fun model => ih (model.markGeometryColumn column.name)
  simp only [inferModelFromTable, hmarks, List.flatMap_map, and_self]

/-- Every column gives a dimension of its name. -/
theorem exists_dimension (column : ColumnInfo) : ∃ d ∈ (columnFields cases column).2.1, d.name = column.name := by
  unfold columnFields
  dsimp only
  split_ifs <;> simp

theorem isTemporalType_of_isNumericType {dataType : String} (h : isNumericType dataType = true) : isTemporalType dataType = false := by
  have hall : ["integer", "int", "bigint", "smallint", "tinyint", "mediumint", "decimal", "numeric", "float", "double", "real",
      "double precision", "money", "serial", "bigserial", "smallserial"].all (fun t => !isTemporalType t) = true := by decide
  have hno := List.all_eq_true.1 hall dataType (List.contains_iff_mem.1 h)
  simpa using hno

/-- A column gives a measure of its name unless it is flagged or its type is not numeric. -/
theorem columnFields_measures (column : ColumnInfo) : (columnFields cases column).1 =
    if column.isPrimaryKey = false ∧ isNumericType (cases.toLowercase column.dataType) = true then [⟨⟨column.name, none, none⟩, .sum⟩]
    else [] := by
  unfold columnFields
  dsimp only
  by_cases hkey : column.isPrimaryKey = true
  · simp [hkey]
  · by_cases hnumeric : isNumericType (cases.toLowercase column.dataType) = true
    · simp [hkey, hnumeric, isTemporalType_of_isNumericType hnumeric]
    · by_cases htemporal : isTemporalType (cases.toLowercase column.dataType) = true <;> simp [hkey, hnumeric, htemporal]

/-! ## What a report says of a table -/

variable {t : KeyedTable} {rows : TableRows} {catalogue : CatalogueKind}

/-- A column as it is reported. -/
def KeyedTable.readColumn (t : KeyedTable) (catalogue : CatalogueKind) (c : TableColumn) : ColumnInfo where
  name := c.name
  dataType := c.readType catalogue
  udtName := if catalogue = .postgres then c.udtName else none
  isPrimaryKey := catalogue = .sqlite ∧ t.ordinal c.name = 1

theorem map_of_forall₂ {α β γ : Type} {R : α → β → Prop} {f : α → γ} {g : β → γ} {as : List α} {bs : List β}
    (h : List.Forall₂ R as bs) (hfg : ∀ a b, R a b → f a = g b) : as.map f = bs.map g := by
  induction h with
  | nil => rfl
  | cons hab _ ih => rw [List.map_cons, List.map_cons, hfg _ _ hab, ih]

theorem readTable_columns (h : Describes t rows catalogue) :
    (readTable catalogue t.name rows).columns = t.columns.map (t.readColumn catalogue) := by
  cases catalogue with
  | postgres =>
    refine map_of_forall₂ h.1 ?_
    rintro row c ⟨hname, htype, hudt⟩
    simp [postgresColumn, KeyedTable.readColumn, TableColumn.readType, hname, htype, hudt]
  | mySql =>
    refine map_of_forall₂ h.1 ?_
    rintro row c ⟨hname, htype⟩
    simp [mySqlColumn, KeyedTable.readColumn, TableColumn.readType, hname, htype]
  | sqlite =>
    refine map_of_forall₂ h.1 ?_
    rintro row c ⟨hname, htype, hpk⟩
    simp [sqliteColumn, KeyedTable.readColumn, TableColumn.readType, hname, htype, hpk, beq_eq_decide]

/-- The key is read in full in a query of its own. -/
theorem keyColumns_eq {keys : List RowMap} (h : keys.map (textCell · "column_name") = t.key.map some) : keyColumns keys = t.key := by
  have hall : keyColumns keys = (keys.map (textCell · "column_name")).filterMap id := by
    rw [List.filterMap_map]
    rfl
  rw [hall, h, List.filterMap_map]
  simp

/-- From `pk` only the first key column is read. -/
theorem sqlitePrimaryKeys_eq (h : Describes t rows .sqlite) :
    sqlitePrimaryKeys rows.keys = (t.columns.filter fun c => t.ordinal c.name = 1).map (·.name) := by
  obtain ⟨hrows, hkeys⟩ := h
  rw [hkeys]
  unfold sqlitePrimaryKeys
  generalize rows.columns = columnRows at hrows
  generalize t.columns = columns at hrows
  induction hrows with
  | nil => rfl
  | @cons row c rows columns hrow _ ih =>
    obtain ⟨hname, -, hpk⟩ := hrow
    by_cases hone : t.ordinal c.name = 1
    · rw [List.filter_cons_of_pos (by simp [hpk, hone]), List.filter_cons_of_pos (by simp [hone]), List.map_cons, ← ih]
      simp only [List.filterMap_cons, hname]
    · rw [List.filter_cons_of_neg (by simp [hpk, hone]), List.filter_cons_of_neg (by simp [hone]), ih]

theorem ordinal_eq_one {column : String} : t.ordinal column = 1 ↔ t.key.head? = some column := by
  unfold KeyedTable.ordinal
  cases hkey : t.key with
  | nil => simp
  | cons k key =>
    rw [List.head?_cons, Option.some_inj]
    by_cases hk : k = column
    · simp [hk]
    · rw [List.idxOf_cons_ne _ hk]
      constructor
      · intro hone
        split_ifs at hone <;> omega
      · exact fun heq => absurd heq hk

/-! ## When keys are kept -/

/-- A measure of the inferred model is on a column that is numeric and not flagged. -/
theorem mem_measures (datasourceName : String) (allTables : List TableInfo) (h : Describes t rows catalogue) {m : Measure} :
    m ∈ (inferModelFromTable cases (readTable catalogue t.name rows).toTableInfo datasourceName allTables).measures ↔
      ∃ c ∈ t.columns, (t.readColumn catalogue c).isPrimaryKey = false ∧
        isNumericType (cases.toLowercase (c.readType catalogue)) = true ∧ m = ⟨⟨c.name, none, none⟩, .sum⟩ := by
  rw [(inferred_fields _ _ _).1, readTable_columns h, List.mem_flatMap]
  simp only [columnFields_measures, List.mem_map, exists_exists_and_eq_and]
  refine exists_congr fun c => and_congr_right fun _ => ?_
  split_ifs with hmeasure
  · simp only [KeyedTable.readColumn] at hmeasure ⊢
    simp [hmeasure]
  · refine iff_of_false List.not_mem_nil ?_
    rintro ⟨hflag, hnumeric, -⟩
    exact hmeasure ⟨hflag, hnumeric⟩

/-- The only column of a key is read as the key. -/
theorem filter_ordinal {k : String} (hkey : t.key = [k]) : (t.columns.filter fun c => t.ordinal c.name = 1).map (·.name) = [k] := by
  have hone : (fun c : TableColumn => decide (t.ordinal c.name = 1)) = (· == k) ∘ (·.name) := by
    funext c
    rw [Function.comp_apply, Bool.eq_iff_iff, decide_eq_true_iff, ordinal_eq_one, hkey, List.head?_cons, Option.some_inj, beq_iff_eq]
    exact eq_comm
  rw [hone, ← List.filter_map, List.filter_beq, List.count_eq_one_of_mem t.distinct (t.key_mem k (by rw [hkey]; exact List.mem_singleton_self k))]
  rfl

theorem KeysKept.of_read (datasourceName : String) (allTables : List TableInfo) (h : Describes t rows catalogue)
    (hread : KeyRead cases t catalogue) : KeysKept cases t (readTable catalogue t.name rows) datasourceName allTables := by
  refine ⟨?_, fun k hk => ⟨?_, fun m hm hname => ?_⟩⟩
  · cases catalogue with
    | postgres => exact keyColumns_eq h.2
    | mySql => exact keyColumns_eq h.2
    | sqlite =>
      refine (sqlitePrimaryKeys_eq h).trans ?_
      have hone : t.key.length ≤ 1 := hread
      cases hkey : t.key with
      | nil => simp [ordinal_eq_one, hkey]
      | cons k key =>
        obtain rfl : key = [] := List.eq_nil_of_length_eq_zero (by simp only [hkey, List.length_cons] at hone; omega)
        exact filter_ordinal hkey
  · obtain ⟨c, hc, rfl⟩ := List.mem_map.1 (t.key_mem k hk)
    obtain ⟨d, hd, hname⟩ := @exists_dimension cases (t.readColumn catalogue c)
    refine ⟨d, ?_, hname⟩
    rw [(inferred_fields _ _ _).2, readTable_columns h]
    exact List.mem_flatMap.2 ⟨_, List.mem_map_of_mem hc, hd⟩
  · obtain ⟨c, hc, hflag, hnumeric, rfl⟩ := (mem_measures datasourceName allTables h).1 hm
    obtain rfl : c.name = k := hname
    cases catalogue with
    | postgres => exact absurd hnumeric (by simp [hread c hc hk])
    | mySql => exact absurd hnumeric (by simp [hread c hc hk])
    | sqlite =>
      have hone : t.key.length ≤ 1 := hread
      have hordinal : t.ordinal c.name = 1 := by
        rw [ordinal_eq_one]
        obtain ⟨k, hkey⟩ := List.length_eq_one_iff.1 (le_antisymm hone (List.length_pos_of_mem hk))
        rw [hkey] at hk ⊢
        rw [List.mem_singleton.1 hk]
        rfl
      simp [KeyedTable.readColumn, hordinal] at hflag

theorem KeyRead.of_kept (datasourceName : String) (allTables : List TableInfo) (h : Describes t rows catalogue)
    (hkept : KeysKept cases t (readTable catalogue t.name rows) datasourceName allTables) : KeyRead cases t catalogue := by
  obtain ⟨hkeys, hfields⟩ := hkept
  have hnumeric : catalogue ≠ .sqlite → ∀ c ∈ t.columns, c.name ∈ t.key →
      isNumericType (cases.toLowercase (c.readType catalogue)) = false := by
    intro hother c hc hk
    by_contra hnumeric
    have hmeasure := (@mem_measures cases t rows catalogue datasourceName allTables h _).2
      ⟨c, hc, by simp [KeyedTable.readColumn, hother], by simpa using hnumeric, rfl⟩
    exact (hfields c.name hk).2 _ hmeasure rfl
  cases catalogue with
  | postgres => exact hnumeric (by decide)
  | mySql => exact hnumeric (by decide)
  | sqlite =>
    have hread : sqlitePrimaryKeys rows.keys = t.key := hkeys
    rw [sqlitePrimaryKeys_eq h] at hread
    show t.key.length ≤ 1
    match hkey : t.key with
    | [] => exact Nat.zero_le _
    | [k] => exact le_rfl
    | k :: k' :: key =>
      have hk' : k' ∈ t.key := by simp [hkey]
      rw [← hread] at hk'
      obtain ⟨c, hc, rfl⟩ := List.mem_map.1 hk'
      have hfirst := ordinal_eq_one.1 (of_decide_eq_true (List.mem_filter.1 hc).2)
      have hdistinct := t.key_distinct
      rw [hkey] at hfirst hdistinct
      rw [Option.some.inj hfirst] at hdistinct
      exact absurd List.mem_cons_self (List.nodup_cons.1 hdistinct).1

/-- Key columns are reported in full and become dimensions only, exactly where no key column
is numeric (Postgres, MySQL) or the key is one column (SQLite). -/
theorem keys_kept_iff (cases : LetterCase) (catalogue : CatalogueKind) (t : KeyedTable) (rows : TableRows) (datasourceName : String)
    (allTables : List TableInfo) (h : Describes t rows catalogue) :
    KeysKept cases t (readTable catalogue t.name rows) datasourceName allTables ↔ KeyRead cases t catalogue :=
  ⟨KeyRead.of_kept datasourceName allTables h, KeysKept.of_read datasourceName allTables h⟩

/-! ### Two tables -/

def asciiCase : LetterCase where
  toLowercase := Str.toAsciiLowercase
  isUppercase c := 'A' ≤ c && c ≤ 'Z'
  firstLower := Char.toLower
  toUppercase c := [c.toUpper]

/-- `orders (id integer primary key, status text)`. -/
def orders : KeyedTable where
  name := "orders"
  columns := [⟨"id", "integer", some "int4"⟩, ⟨"status", "text", some "text"⟩]
  key := ["id"]
  distinct := by decide
  key_distinct := by decide
  key_mem := by decide

def ordersRows : TableRows where
  columns := [.ofList [("column_name", .string "id"), ("data_type", .string "integer"), ("udt_name", .string "int4")],
    .ofList [("column_name", .string "status"), ("data_type", .string "text"), ("udt_name", .string "text")]]
  keys := [.ofList [("column_name", .string "id")]]

theorem orders_described : Describes orders ordersRows .postgres :=
  ⟨.cons ⟨rfl, rfl, rfl⟩ (.cons ⟨rfl, rfl, rfl⟩ .nil), rfl⟩

theorem orders_keys_kept : KeysKept asciiCase orders (readTable .postgres orders.name ordersRows) "warehouse" [] ↔
    KeyRead asciiCase orders .postgres :=
  keys_kept_iff asciiCase .postgres orders ordersRows "warehouse" [] orders_described

/-- A numeric key is summed up: the model inferred from Postgres has a measure on `id`. -/
theorem orders_key_measured : Describes orders ordersRows .postgres ∧
    ¬KeysKept asciiCase orders (readTable .postgres orders.name ordersRows) "warehouse" [] := by
  refine ⟨orders_described, fun hkept => ?_⟩
  have hmeasure : ⟨⟨"id", none, none⟩, .sum⟩ ∈
      (inferModelFromTable asciiCase (readTable .postgres orders.name ordersRows).toTableInfo "warehouse" []).measures :=
    (mem_measures "warehouse" [] orders_described).2 ⟨_, List.mem_cons_self, rfl, by decide, rfl⟩
  exact (hkept.2 "id" (by decide)).2 _ hmeasure rfl

end Introspection

end GraphNight
