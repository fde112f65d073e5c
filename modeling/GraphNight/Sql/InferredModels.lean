import GraphNight.Lib.Affix
import GraphNight.Sql.FieldColumns
import GraphNight.Sql.PrimaryKeys
import GraphNight.Sql.Sources

/-!
# What inferred models read

A model that is inferred from a table is queried through its own name and fields, and its foreign keys
become joins. The statements over such models read the tables they came from if the names survive both
ways: the case change on the way in, and the splices of the generator on the way out.
-/

namespace GraphNight

open SqlText SqlGenerator

namespace Introspection

/-- A foreign key: the table it refers to, and its pairs of columns. -/
structure ForeignKey where
  referencedTable : String
  pairs : List (String × String)
deriving DecidableEq, Repr

/-- A table as it is introspected, and the foreign keys the database has for it. -/
structure IntrospectedTable extends TableInfo where
  keys : List ForeignKey

section

variable (cases : LetterCase) (datasourceName : String) (tables : List IntrospectedTable)

/-- The model inferred from a table. -/
def inferred (t : IntrospectedTable) : Model :=
  (inferModelFromTable cases t.toTableInfo datasourceName (tables.map (·.toTableInfo))).toModel

/-- The foreign keys of a table that refer to an introspected one. -/
def keysWithin (t : IntrospectedTable) : List ForeignKey := t.keys.filter fun key => tables.any (·.name == key.referencedTable)

/-- The join of a key: it leads to the model of the referenced table, over all pairs of the key, and is alone under its name. -/
structure IsJoinOf (t : IntrospectedTable) (key : ForeignKey) (join : Join) : Prop where
  target : ∃ target ∈ tables, target.name = key.referencedTable ∧ join.model = (inferred cases datasourceName tables target).name
  pairs : join.on.Perm key.pairs
  alone : (inferred cases datasourceName tables t).joins.filter (·.name == join.name) = [join]

/-- Every key has a join of its own. -/
def KeysJoined (t : IntrospectedTable) : Prop :=
  ∃ own : List Join, List.Forall₂ (IsJoinOf cases datasourceName tables t) (keysWithin tables t) own ∧ (own.map (·.name)).Nodup

end

section

-- the texts the database reads as one identifier when nothing quotes them
variable (unquoted : String → Bool) (d : Dialect)

/-- A name behind an alias that the database reads as a column: the alias, which nothing quotes, is an identifier that
stands for the alias of FROM. -/
def ReadsColumn (sourceAlias column : String) : NameRef → Prop
  | .column owner name quoted =>
    (owner = sourceAlias ∧ Denotes unquoted d owner sourceAlias) ∧ (quoted = true ∨ unquoted name = true) ∧
      d.foldColumn quoted name = d.foldColumn true column
  | .alone _ => False

/-- A query over the fields of a model. -/
structure OverFields (query : Query) (m : Model) : Prop where
  measures : ∀ measure ∈ query.measures, measure ∈ m.measures
  dimensions : ∀ dim ∈ query.dimensions, dim.name ∈ m.dimensions.map (·.name)
  times : ∀ td ∈ query.timeDimensions, td.dimension ∈ m.timeDimensions.map (·.dimension)
  filters : ∀ filter ∈ query.filters, filter.field ∈ m.dimensions.map (·.name)
  orders : ∀ order ∈ query.order, order.field ∈ m.dimensions.map (·.name)

/-- The fields a query names: all but its measures. -/
def queryFields (query : Query) : List String :=
  plainFields query ++ query.timeDimensions.map (·.dimension) ++ query.order.map (·.field)

/-- A statement names each field of its query as the column of that name, and sums each measure up over its column. -/
structure ReadsColumns (query : Query) (sourceAlias : String) (plan : LogicalPlan) : Prop where
  fields : ∀ field ∈ queryFields query, usesOf query plan field ≠ [] ∧ ∀ r ∈ usesOf query plan field, ReadsColumn unquoted d sourceAlias field r
  measures : List.Forall₂ (fun (measure : Measure) (item : SelectItem) =>
      ReadsColumn unquoted d sourceAlias measure.formula.expression (.column sourceAlias measure.formula.expression true) ∧
        ∀ r, r ∈ refs item.expression ↔ r = .column sourceAlias measure.formula.expression true) query.measures
    (plan.selectItems.take query.measures.length)

/-- The alias of a query: the name of its model, or another that the database reads as it is spelt and no joined table has. -/
def PlainAlias (m : Model) (sourceAlias : String) (plan : LogicalPlan) : Prop :=
  sourceAlias = m.name ∨ Denotes unquoted d sourceAlias sourceAlias ∧ ((introduced plan).map d.foldQuoted).Nodup

/-- The statements over the model of a table, where the models of the tables are all there are: they read the table and join
tables that were introspected, and over the fields of the model, under a plain alias, they read its columns. -/
def StatementsRead (cases : LetterCase) (fp : FormulaParser) (datasourceName : String) (tables : List IntrospectedTable)
    (t : IntrospectedTable) : Prop :=
  ∀ (g : SqlGenerator) query out sourceAlias plan, g.formulaParser = fp → g.dialectFor (inferred cases datasourceName tables t).name = d →
    (∀ m ∈ g.modelRegistry.items, ∃ other ∈ tables, m = inferred cases datasourceName tables other) →
    g.Statement query out (inferred cases datasourceName tables t) sourceAlias plan →
    Dialect.renderSource plan = ident t.name ∧ (∀ clause ∈ plan.joins, clause.table ∈ tables.map (·.name)) ∧
      (PlainAlias unquoted d (inferred cases datasourceName tables t) sourceAlias plan →
        OverFields query (inferred cases datasourceName tables t) → ReadsColumns unquoted d query sourceAlias plan)

end

/-- The models of some tables are theirs. -/
structure ModelsRead (cases : LetterCase) (unquoted : String → Bool) (d : Dialect) (fp : FormulaParser) (datasourceName : String)
    (tables : List IntrospectedTable) : Prop where
  distinct : (tables.map fun t => (inferred cases datasourceName tables t).name).Nodup
  reads : ∀ t ∈ tables, StatementsRead unquoted d cases fp datasourceName tables t
  targets : ∀ t ∈ tables, ∀ join ∈ (inferred cases datasourceName tables t).joins, ∃ target ∈ tables,
    join.model = (inferred cases datasourceName tables target).name
  keys : ∀ t ∈ tables, KeysJoined cases datasourceName tables t

/-! ## What the names must be like -/

section

variable (cases : LetterCase) (unquoted : String → Bool) (d : Dialect) (fp : FormulaParser)

/-- The formula reader refuses a name, or takes it for the column alone, which may stand behind its model. -/
def PlainFormula (model column : String) : Prop :=
  ∀ reads, (SqlGenerator.new d fp).measureReads (Measure.simple column .sum) = .ok reads → reads.window = false ∧
    (∃ field ∈ reads.fields, field ≠ "*") ∧ ∀ field ∈ reads.fields, field ≠ "*" → field = column ∨ field = model ++ "." ++ column

/-- What a table and its columns are called. -/
structure PlainColumns (t : IntrospectedTable) : Prop where
  owner : t.columns ≠ [] → Denotes unquoted d t.name t.name
  undotted : ∀ c ∈ t.columns, c.name ≠ "*" ∧ '.' ∉ c.name.toList
  times : ∀ c ∈ t.columns, (columnFields cases c).2.2 ≠ [] → unquoted c.name = true ∧ d.foldColumn false c.name = d.foldColumn true c.name
  measures : ∀ c ∈ t.columns, (columnFields cases c).1 ≠ [] → PlainFormula d fp t.name c.name

/-- A table's keys go to different tables, and each has one pair, which is all that is reported of the referenced table. -/
structure SingleKeys (tables : List IntrospectedTable) (t : IntrospectedTable) : Prop where
  distinct : ((keysWithin tables t).map (·.referencedTable)).Nodup
  single : ∀ key ∈ keysWithin tables t, ∃ l r, key.pairs = [(l, r)] ∧
    t.foreignKeys.filter (·.referencedTable == key.referencedTable) = [⟨l, key.referencedTable, r⟩]

end

section

variable {cases : LetterCase} {unquoted : String → Bool} {d : Dialect} {fp : FormulaParser} {datasourceName : String}
  {tables : List IntrospectedTable} {t : IntrospectedTable}

/-! ## The inferred model -/

/-- Marking columns as geometry touches the metadata alone. -/
theorem exists_marked (columns : List ColumnInfo) (model : Model) :
    ∃ metadata, columns.foldl (fun model column => model.markGeometryColumn column.name) model = { model with metadata } := by
  induction columns generalizing model with
  | nil => exact ⟨model.metadata, rfl⟩
  | cons column columns ih => exact ih (model.markGeometryColumn column.name)

/-- The join of a foreign key that was reported. -/
def joinOf (cases : LetterCase) (t : IntrospectedTable) (fk : ForeignKeyInfo) : Join :=
  { name := toSnakeCase cases t.name ++ "_to_" ++ toSnakeCase cases fk.referencedTable
    model := toSnakeCase cases fk.referencedTable
    joinType := .left
    on := [(fk.column, fk.referencedColumn)]
    aliasName := some (toSnakeCase cases fk.referencedTable) }

/-- The reported foreign keys that refer to an introspected table. -/
def reportedWithin (tables : List IntrospectedTable) (t : IntrospectedTable) : List ForeignKeyInfo :=
  t.foreignKeys.filter fun fk => tables.any (·.name == fk.referencedTable)

theorem exists_inferred (cases : LetterCase) (datasourceName : String) (tables : List IntrospectedTable) (t : IntrospectedTable) :
    ∃ metadata, inferred cases datasourceName tables t =
      { name := toSnakeCase cases t.name
        datasource := datasourceName
        description := some ("Auto-generated from table " ++ t.name)
        measures := t.columns.flatMap fun c => (columnFields cases c).1
        dimensions := t.columns.flatMap fun c => (columnFields cases c).2.1
        timeDimensions := t.columns.flatMap fun c => (columnFields cases c).2.2
        joins := (reportedWithin tables t).map (joinOf cases t)
        metadata } := by
  obtain ⟨metadata, hmarked⟩ := exists_marked (t.columns.filter fun column => isGeometryType (column.udtName.getD column.dataType)) _
  refine ⟨metadata, hmarked.trans ?_⟩
  simp only [List.flatMap_map, reportedWithin, List.any_map, Function.comp_def]
  rfl

theorem inferred_name : (inferred cases datasourceName tables t).name = toSnakeCase cases t.name := by
  obtain ⟨metadata, h⟩ := exists_inferred cases datasourceName tables t
  rw [h]

theorem inferred_sql : (inferred cases datasourceName tables t).sql = none := by
  obtain ⟨metadata, h⟩ := exists_inferred cases datasourceName tables t
  rw [h]

theorem inferred_joins : (inferred cases datasourceName tables t).joins = (reportedWithin tables t).map (joinOf cases t) := by
  obtain ⟨metadata, h⟩ := exists_inferred cases datasourceName tables t
  rw [h]

theorem inferred_times : (inferred cases datasourceName tables t).timeDimensions = t.columns.flatMap fun c => (columnFields cases c).2.2 := by
  obtain ⟨metadata, h⟩ := exists_inferred cases datasourceName tables t
  rw [h]

theorem inferred_measures : (inferred cases datasourceName tables t).measures = t.columns.flatMap fun c => (columnFields cases c).1 := by
  obtain ⟨metadata, h⟩ := exists_inferred cases datasourceName tables t
  rw [h]

theorem inferred_dimensions : (inferred cases datasourceName tables t).dimensions = t.columns.flatMap fun c => (columnFields cases c).2.1 := by
  obtain ⟨metadata, h⟩ := exists_inferred cases datasourceName tables t
  rw [h]

/-- The fields a column gives are called as it is. -/
theorem columnFields_names (column : ColumnInfo) :
    (columnFields cases column).2.1.map (·.name) = [column.name] ∧
      (∀ td ∈ (columnFields cases column).2.2, td.dimension = column.name) ∧
      ∀ measure ∈ (columnFields cases column).1, measure = Measure.simple column.name .sum := by
  unfold columnFields
  dsimp only
  split_ifs <;> simp [Measure.simple]

theorem inferred_dimensionNames : (inferred cases datasourceName tables t).dimensions.map (·.name) = t.columns.map (·.name) := by
  rw [inferred_dimensions]
  induction t.columns with
  | nil => rfl
  | cons c columns ih =>
    rw [List.flatMap_cons, List.map_append, ih, (columnFields_names c).1]
    rfl

/-! ## Names of columns -/

/-- A dimension of the source is its own column. -/
theorem fieldRefs_dimension {g : SqlGenerator} {m : Model} {field : String} (hm : g.model m.name = some m)
    (hfield : field ∈ m.dimensions.map (·.name)) (hstar : field ≠ "*") (sourceAlias : String) :
    g.fieldRefs m.name sourceAlias field = [.column sourceAlias field true] := by
  have hplain : modelHasPlainField m field = true := by
    obtain ⟨dim, hdim, hname⟩ := List.mem_map.1 hfield
    have hany : (m.dimensions.any fun dim => dim.name == field) = true := List.any_eq_true.2 ⟨dim, hdim, beq_iff_eq.2 hname⟩
    rw [modelHasPlainField, if_neg hstar, if_pos hany]
  rw [fieldRefs, resolveField, if_neg hstar, hm]
  simp only [if_pos hplain]
  rfl

/-- Where no column holds a dot, no field does. -/
theorem not_plainField_dotted {other : IntrospectedTable} (h : ∀ c ∈ other.columns, '.' ∉ c.name.toList) {field : String}
    (hdot : '.' ∈ field.toList) : modelHasPlainField (inferred cases datasourceName tables other) field = false := by
  have hne {column : ColumnInfo} (hcolumn : column ∈ other.columns) {name : String} (hname : ∀ c ∈ name.toList, c ∈ column.name.toList) :
      name ≠ field := fun heq => h column hcolumn (hname '.' (heq ▸ hdot))
  have hdimensions : ((inferred cases datasourceName tables other).dimensions.any fun dim => dim.name == field) = false := by
    rw [List.any_eq_false]
    intro dim hdim heq
    have hmem : dim.name ∈ (inferred cases datasourceName tables other).dimensions.map (·.name) := List.mem_map_of_mem hdim
    rw [inferred_dimensionNames] at hmem
    obtain ⟨column, hcolumn, hname⟩ := List.mem_map.1 hmem
    exact hne hcolumn (fun c hc => hname ▸ hc) (beq_iff_eq.1 heq)
  have htimes : ((inferred cases datasourceName tables other).timeDimensions.any fun td => td.dimension == field) = false := by
    rw [List.any_eq_false]
    intro td htd heq
    rw [inferred_times] at htd
    obtain ⟨column, hcolumn, htd⟩ := List.mem_flatMap.1 htd
    exact hne hcolumn (fun c hc => (columnFields_names column).2.1 td htd ▸ hc) (beq_iff_eq.1 heq)
  have hmeasures : ((inferred cases datasourceName tables other).measures.any fun m =>
      let e := Str.trim m.formula.expression
      e == field && !FormulaParser.needsParse e) = false := by
    rw [List.any_eq_false]
    intro measure hmeasure heq
    rw [inferred_measures] at hmeasure
    obtain ⟨column, hcolumn, hmeasure⟩ := List.mem_flatMap.1 hmeasure
    obtain rfl := (columnFields_names column).2.2 measure hmeasure
    simp only [Bool.and_eq_true, beq_iff_eq] at heq
    exact hne hcolumn (fun c hc => Str.mem_of_mem_trim hc) heq.1
  unfold modelHasPlainField
  rw [hdimensions, htimes, hmeasures]
  split <;> rfl

/-- A field behind the source's name is the column behind the dot. -/
theorem fieldRefs_qualified {g : SqlGenerator} {column : String}
    (hm : g.model (inferred cases datasourceName tables t).name = some (inferred cases datasourceName tables t))
    (hmodels : ∀ m ∈ g.modelRegistry.items, ∃ other ∈ tables, m = inferred cases datasourceName tables other)
    (hundotted : ∀ other ∈ tables, ∀ c ∈ other.columns, '.' ∉ c.name.toList) (hcolumn : '.' ∉ column.toList) (sourceAlias : String) :
    g.fieldRefs (inferred cases datasourceName tables t).name sourceAlias ((inferred cases datasourceName tables t).name ++ "." ++ column) =
      [.column sourceAlias column true] := by
  have hdot : '.' ∈ ((inferred cases datasourceName tables t).name ++ "." ++ column).toList := by simp
  have hstar : (inferred cases datasourceName tables t).name ++ "." ++ column ≠ "*" := by
    intro heq
    rw [heq] at hdot
    exact absurd hdot (by decide)
  have hnone (m : Model) (hmem : m ∈ g.modelRegistry.items) :
      modelHasPlainField m ((inferred cases datasourceName tables t).name ++ "." ++ column) = false := by
    obtain ⟨other, hother, rfl⟩ := hmodels m hmem
    exact not_plainField_dotted (hundotted other hother) hdot
  have hjoin : g.findJoin (inferred cases datasourceName tables t).joins
      (fun _ joined => modelHasPlainField joined ((inferred cases datasourceName tables t).name ++ "." ++ column)) = none := by
    rw [findJoin_eq_none]
    intro join _ joined hjoined
    exact hnone joined (KeyedList.mem_of_get hjoined)
  have hsplit : Str.rsplitOnce ((inferred cases datasourceName tables t).name ++ "." ++ column) '.' =
      some ((inferred cases datasourceName tables t).name, column) := Str.rsplitOnce_append hcolumn _
  rw [fieldRefs, resolveField, if_neg hstar, hm]
  simp only [hnone _ (KeyedList.mem_of_get hm), hjoin, hsplit, if_true]
  rfl

/-! ## Statements over inferred models -/

theorem relationOf_inferred : relationOf (inferred cases datasourceName tables t) = ident (toSnakeCase cases t.name) := by
  have hnone : sourceOverride (some (inferred cases datasourceName tables t)) = none := by
    rw [sourceOverride, Option.bind_some, inferred_sql]
    rfl
  rw [relationOf_eq_ident.2 hnone, inferred_name]

/-- The joins of an inferred model lead to introspected tables. -/
theorem exists_target {join : Join} (hjoin : join ∈ (inferred cases datasourceName tables t).joins) :
    ∃ target ∈ tables, join.model = toSnakeCase cases target.name := by
  rw [inferred_joins] at hjoin
  obtain ⟨fk, hfk, rfl⟩ := List.mem_map.1 hjoin
  obtain ⟨target, htarget, hname⟩ := List.any_eq_true.1 (List.mem_filter.1 hfk).2
  exact ⟨target, htarget, congrArg (toSnakeCase cases) (beq_iff_eq.1 hname).symm⟩

/-- The formula reader is all of a generator that says what a measure reads. -/
theorem measureReads_congr {g : SqlGenerator} (h : g.formulaParser = fp) (measure : Measure) :
    g.measureReads measure = (SqlGenerator.new d fp).measureReads measure := by
  subst h
  rfl

/-- **Tables with plain columns are read by their columns.** -/
theorem readsColumns_of_plain (hcolumns : ∀ other ∈ tables, PlainColumns cases unquoted d fp other) (ht : t ∈ tables)
    (hname : toSnakeCase cases t.name = t.name) {g : SqlGenerator} {query : Query} {out : GeneratedSql} {sourceAlias : String} {plan : LogicalPlan}
    (hfp : g.formulaParser = fp) (hmodels : ∀ m ∈ g.modelRegistry.items, ∃ other ∈ tables, m = inferred cases datasourceName tables other)
    (h : g.Statement query out (inferred cases datasourceName tables t) sourceAlias plan)
    (halias : PlainAlias unquoted d (inferred cases datasourceName tables t) sourceAlias plan)
    (hover : OverFields query (inferred cases datasourceName tables t)) : ReadsColumns unquoted d query sourceAlias plan := by
  have hplain := hcolumns t ht
  have howner {c : ColumnInfo} (hc : c ∈ t.columns) : Denotes unquoted d sourceAlias sourceAlias := by
    rcases halias with hown | ⟨hread, -⟩
    · rw [hown, inferred_name, hname]
      exact hplain.owner (List.ne_nil_of_mem hc)
    · exact hread
  have hcolumn {field : String} (hfield : field ∈ (inferred cases datasourceName tables t).dimensions.map (·.name)) :
      ∃ c ∈ t.columns, c.name = field := by
    rw [inferred_dimensionNames] at hfield
    obtain ⟨c, hc, hcname⟩ := List.mem_map.1 hfield
    exact ⟨c, hc, hcname⟩
  have hquoted {c : ColumnInfo} (hc : c ∈ t.columns) (field : String) :
      ReadsColumn unquoted d sourceAlias field (.column sourceAlias field true) := ⟨⟨rfl, howner hc⟩, .inl rfl, rfl⟩
  have hplainField {field : String} (hfield : field ∈ plainFields query) : (∃ c, c ∈ t.columns) ∧
      g.fieldRefs (inferred cases datasourceName tables t).name sourceAlias field = [.column sourceAlias field true] := by
    have hmem : field ∈ (inferred cases datasourceName tables t).dimensions.map (·.name) := by
      rcases List.mem_append.1 hfield with hselected | hfiltered
      · obtain ⟨dim, hdim, heq⟩ := List.mem_map.1 hselected
        exact heq ▸ hover.dimensions dim hdim
      · obtain ⟨filter, hfilter, heq⟩ := List.mem_map.1 hfiltered
        exact heq ▸ hover.filters filter hfilter
    obtain ⟨c, hc, rfl⟩ := hcolumn hmem
    exact ⟨⟨c, hc⟩, fieldRefs_dimension h.model hmem (hplain.undotted c hc).1 sourceAlias⟩
  have htimeField {field : String} (hfield : field ∈ query.timeDimensions.map (·.dimension)) :
      ReadsColumn unquoted d sourceAlias field (rawRef (sourceAlias ++ "." ++ field)) := by
    obtain ⟨td, htd, rfl⟩ := List.mem_map.1 hfield
    obtain ⟨own, hown, hdimension⟩ := List.mem_map.1 (hover.times td htd)
    rw [inferred_times] at hown
    obtain ⟨c, hc, hown⟩ := List.mem_flatMap.1 hown
    have hcname : c.name = td.dimension := ((columnFields_names c).2.1 own hown).symm.trans hdimension
    obtain ⟨hunquoted, hfold⟩ := hplain.times c hc (List.ne_nil_of_mem hown)
    rw [← hcname, rawRef_append (hplain.undotted c hc).2]
    exact ⟨⟨rfl, howner hc⟩, .inr hunquoted, hfold⟩
  have horderField {field : String} (hfield : field ∈ query.order.map (·.field)) :
      (∃ c, c ∈ t.columns) ∧ orderRef sourceAlias field = .column sourceAlias field true := by
    obtain ⟨order, horder, rfl⟩ := List.mem_map.1 hfield
    obtain ⟨c, hc, hcname⟩ := hcolumn (hover.orders order horder)
    rw [← hcname]
    exact ⟨⟨c, hc⟩, orderRef_of_undotted (hplain.undotted c hc).2 sourceAlias⟩
  constructor
  · intro field hfield
    constructor
    · obtain ⟨r, hr⟩ : ∃ r, r ∈ usesOf query plan field := by
        simp only [h.mem_usesOf]
        rcases List.mem_append.1 hfield with hfield | horder
        · rcases List.mem_append.1 hfield with hfield | htime
          · exact ⟨_, .inl ⟨hfield, by rw [(hplainField hfield).2]; exact List.mem_cons_self⟩⟩
          · exact ⟨_, .inr (.inl ⟨htime, rfl⟩)⟩
        · exact ⟨_, .inr (.inr ⟨horder, rfl⟩)⟩
      exact List.ne_nil_of_mem hr
    · intro r hr
      rcases h.mem_usesOf.1 hr with ⟨hfield, hr⟩ | ⟨htime, rfl⟩ | ⟨horder, rfl⟩
      · obtain ⟨⟨c, hc⟩, hrefs⟩ := hplainField hfield
        rw [hrefs] at hr
        obtain rfl := List.mem_singleton.1 hr
        exact hquoted hc field
      · exact htimeField htime
      · obtain ⟨⟨c, hc⟩, hrefs⟩ := horderField horder
        rw [hrefs]
        exact hquoted hc field
  · obtain ⟨measures, dimensions, hmeasures, -, hitems⟩ := h.items_eq
    have hbuilt := Res.forall₂_of_mapM hmeasures
    rw [hitems, List.append_assoc, hbuilt.length_eq, List.take_left]
    refine ((List.forall₂_and_left query.measures measures).2 ⟨hover.measures, hbuilt⟩).imp ?_
    rintro measure item ⟨hmeasure, hitem⟩
    rw [inferred_measures] at hmeasure
    obtain ⟨c, hc, hmeasure⟩ := List.mem_flatMap.1 hmeasure
    have hformula := hplain.measures c hc (List.ne_nil_of_mem hmeasure)
    obtain rfl := (columnFields_names c).2.2 measure hmeasure
    refine ⟨hquoted hc _, fun r => ?_⟩
    obtain ⟨expr, hexpr, hitem⟩ := Res.bind_eq_ok.1 hitem
    obtain rfl := Except.ok.inj hitem
    obtain ⟨reads, hreads, hnames⟩ := names_buildMeasure hexpr
    obtain ⟨hwindow, ⟨field, hfield, hne⟩, hall⟩ := hformula reads ((measureReads_congr hfp _).symm.trans hreads)
    have hrefs {field : String} (hmem : field ∈ reads.fields) (hne : field ≠ "*") :
        g.fieldRefs (inferred cases datasourceName tables t).name sourceAlias field = [.column sourceAlias c.name true] := by
      rcases hall field hmem hne with rfl | rfl
      · refine fieldRefs_dimension h.model ?_ hne sourceAlias
        rw [inferred_dimensionNames]
        exact List.mem_map_of_mem hc
      · have hqualified := fieldRefs_qualified h.model hmodels (fun other hother c hc => ((hcolumns other hother).undotted c hc).2)
          (hplain.undotted c hc).2 sourceAlias
        rwa [inferred_name, hname] at hqualified ⊢
    rw [hnames r, hwindow]
    constructor
    · rintro (⟨field, hmem, hr⟩ | ⟨hfalse, -⟩)
      · by_cases hstar : field = "*"
        · rw [hstar, fieldRefs, resolveField_eq_none.2 rfl] at hr
          cases hr
        · rw [hrefs hmem hstar] at hr
          exact List.mem_singleton.1 hr
      · cases hfalse
    · rintro rfl
      refine .inl ⟨field, hfield, ?_⟩
      rw [hrefs hfield hne]
      exact List.mem_cons_self

theorem statementsRead_of_plain (hnames : ∀ other ∈ tables, toSnakeCase cases other.name = other.name)
    (hcolumns : ∀ other ∈ tables, PlainColumns cases unquoted d fp other) (ht : t ∈ tables) :
    StatementsRead unquoted d cases fp datasourceName tables t := by
  intro g query out sourceAlias plan hfp _ hmodels h
  refine ⟨?_, fun clause hclause => ?_, readsColumns_of_plain hcolumns ht (hnames t ht) hfp hmodels h⟩
  · rw [h.renderSource_eq, relationOf_inferred, hnames t ht]
  · obtain ⟨join, hjoin, htable⟩ := Statement.exists_declared h hclause
    obtain ⟨target, htarget, hmodel⟩ := exists_target hjoin
    rw [htable, hmodel, hnames target htarget]
    exact List.mem_map_of_mem htarget

/-! ## Queries over one field -/

/-- A generator with one model. -/
def alone (d : Dialect) (fp : FormulaParser) (m : Model) : SqlGenerator := (SqlGenerator.new d fp).registerModel m

theorem model_alone (m : Model) : (alone d fp m).model m.name = some m := by
  have hget := KeyedList.get_insert (SqlGenerator.new d fp).modelRegistry m m.name
  rwa [if_pos rfl] at hget

theorem mem_alone {m other : Model} (h : other ∈ (alone d fp m).modelRegistry.items) : other = m :=
  (KeyedList.mem_insert h).resolve_right fun hmem => absurd hmem List.not_mem_nil

theorem dialectFor_alone (m : Model) : (alone d fp m).dialectFor m.name = d := by
  rw [SqlGenerator.dialectFor, model_alone]
  rfl

/-! ## What statements that read their tables say -/

theorem exists_of_forall₂ {α β : Type} {R : α → β → Prop} {as : List α} {bs : List β} (h : List.Forall₂ R as bs) {a : α} (ha : a ∈ as) :
    ∃ b, R a b := by
  induction h with
  | nil => cases ha
  | cons hab _ ih =>
    rcases List.mem_cons.1 ha with rfl | ha
    · exact ⟨_, hab⟩
    · exact ih ha

/-- Under an alias that the database does not read as it is spelt no column is read. -/
theorem ReadsColumns.alias_denotes {query : Query} {sourceAlias : String} {plan : LogicalPlan}
    (h : ReadsColumns unquoted d query sourceAlias plan) (hasked : queryFields query ≠ [] ∨ query.measures ≠ []) :
    Denotes unquoted d sourceAlias sourceAlias := by
  have hdenotes {column : String} {r : NameRef} (hread : ReadsColumn unquoted d sourceAlias column r) :
      Denotes unquoted d sourceAlias sourceAlias := by
    cases r with
    | alone _ => exact absurd hread id
    | column owner name quoted =>
      obtain ⟨⟨rfl, hdenotes⟩, -⟩ := hread
      exact hdenotes
  rcases hasked with hfields | hmeasures
  · obtain ⟨field, hfield⟩ := List.exists_mem_of_ne_nil _ hfields
    obtain ⟨hused, hread⟩ := h.fields field hfield
    obtain ⟨r, hr⟩ := List.exists_mem_of_ne_nil _ hused
    exact hdenotes (hread r hr)
  · obtain ⟨measure, hmeasure⟩ := List.exists_mem_of_ne_nil _ hmeasures
    obtain ⟨item, hread, -⟩ := exists_of_forall₂ h.measures hmeasure
    exact hdenotes hread

/-- What follows a dot of a name is not the name. -/
theorem not_readsColumn_dotted {column : String} (hdot : '.' ∈ column.toList) (sourceAlias : String) :
    ¬ReadsColumn unquoted d sourceAlias column (orderRef sourceAlias column) := by
  intro h
  rw [orderRef, if_pos (by simpa [Str.containsChar] using hdot)] at h
  unfold rawRef at h
  cases hsplit : Str.rsplitOnce column '.' with
  | none =>
    rw [hsplit] at h
    exact h
  | some parts =>
    obtain ⟨owner, name⟩ := parts
    rw [hsplit] at h
    obtain ⟨-, -, hfold⟩ := h
    have hlength := congrArg (·.toList.length) hfold
    simp only [length_foldColumn] at hlength
    rw [(Str.rsplitOnce_eq_some hsplit).1] at hlength
    simp at hlength
    omega

/-- A field that stands for a column of the source is that column, alone or behind the source's name. -/
theorem eq_of_fieldRefs {m : Model} {field column : String} (hcolumn : column ∈ m.dimensions.map (·.name)) (hstar : column ≠ "*") (hne : field ≠ "*")
    (h : ∀ r ∈ (alone d fp m).fieldRefs m.name m.name field, r = .column m.name column true) : field = column ∨ field = m.name ++ "." ++ column := by
  have hresolved : (alone d fp m).resolveField m.name field m.name = some (m.name, column) := by
    cases hresolve : (alone d fp m).resolveField m.name field m.name with
    | none => exact absurd (resolveField_eq_none.1 hresolve) hne
    | some p =>
      obtain ⟨owner, name⟩ := p
      rw [fieldRefs, hresolve] at h
      obtain ⟨rfl, rfl, -⟩ := NameRef.column.inj (h _ List.mem_cons_self)
      rfl
  unfold resolveField at hresolved
  rw [if_neg hne, model_alone] at hresolved
  dsimp only at hresolved
  cases hplain : modelHasPlainField m field with
  | true =>
    rw [hplain, if_pos rfl] at hresolved
    exact .inl (Prod.mk.inj (Option.some.inj hresolved)).2
  | false =>
    rw [hplain, if_neg Bool.false_ne_true] at hresolved
    cases hjoin : (alone d fp m).findJoin m.joins fun _ joined => modelHasPlainField joined field with
    | some found =>
      obtain ⟨join, joined⟩ := found
      rw [hjoin] at hresolved
      exact .inl (Prod.mk.inj (Option.some.inj hresolved)).2
    | none =>
      rw [hjoin] at hresolved
      dsimp only at hresolved
      cases hsplit : Str.rsplitOnce field '.' with
      | none =>
        rw [hsplit] at hresolved
        exact .inl (Prod.mk.inj (Option.some.inj hresolved)).2
      | some parts =>
        obtain ⟨pre, name⟩ := parts
        rw [hsplit] at hresolved
        dsimp only at hresolved
        by_cases hbase : pre = m.name
        · rw [if_pos hbase] at hresolved
          obtain ⟨-, rfl⟩ := Prod.mk.inj (Option.some.inj hresolved)
          exact .inr (hbase ▸ (Str.rsplitOnce_eq_some hsplit).1)
        · rw [if_neg hbase] at hresolved
          cases hown : (alone d fp m).findJoin m.joins (joinOwns pre name) with
          | none =>
            rw [hown] at hresolved
            exact .inl (Prod.mk.inj (Option.some.inj hresolved)).2
          | some found =>
            obtain ⟨join, joined⟩ := found
            rw [hown] at hresolved
            obtain ⟨halias, -⟩ := Prod.mk.inj (Option.some.inj hresolved)
            obtain ⟨-, hmodel, htest⟩ := findJoin_eq_some hown
            obtain rfl := mem_alone (KeyedList.mem_of_get hmodel)
            have htarget : joined.name = join.model := KeyedList.key_of_get hmodel
            unfold joinOwns at htest
            simp only [Bool.and_eq_true, Bool.or_eq_true, beq_iff_eq] at htest
            rcases htest.1 with hpre | hpre
            · exact absurd (hpre.trans halias) hbase
            · exact absurd (hpre.trans htarget.symm) hbase

section

variable (ht : t ∈ tables) (h : StatementsRead unquoted d cases fp datasourceName tables t)

include ht h

/-- Queries over fields of the model alone have statements that read them. -/
theorem exists_reading (query : Query) (hname : query.name = some (inferred cases datasourceName tables t).name)
    (hsource : query.sourceModel = none) (hfilters : query.filters = [])
    (hover : OverFields query (inferred cases datasourceName tables t))
    (hitems : ∃ items, (alone d fp (inferred cases datasourceName tables t)).buildSelectItems query d
      (inferred cases datasourceName tables t).name (inferred cases datasourceName tables t).name = .ok items) :
    ∃ out plan, (alone d fp (inferred cases datasourceName tables t)).Statement query out (inferred cases datasourceName tables t)
        (inferred cases datasourceName tables t).name plan ∧
      Dialect.renderSource plan = ident t.name ∧
      ReadsColumns unquoted d query (inferred cases datasourceName tables t).name plan := by
  have hdialect : (alone d fp (inferred cases datasourceName tables t)).dialectFor (inferred cases datasourceName tables t).name = d := dialectFor_alone _
  obtain ⟨out, plan, hstatement⟩ := exists_statement_of_items (model_alone _) hname hsource hfilters (by rwa [hdialect])
  obtain ⟨hrender, -, hreads⟩ := h (alone d fp (inferred cases datasourceName tables t)) query out _ plan rfl hdialect
    (fun m hm => ⟨t, ht, mem_alone hm⟩) hstatement
  exact ⟨out, plan, hstatement, hrender, hreads (.inl rfl) hover⟩

theorem snakeCase_of_reads : toSnakeCase cases t.name = t.name := by
  obtain ⟨out, plan, hstatement, hrender, -⟩ := exists_reading ht h { name := some (inferred cases datasourceName tables t).name }
    rfl rfl rfl ⟨List.forall_mem_nil _, List.forall_mem_nil _, List.forall_mem_nil _,
      List.forall_mem_nil _, List.forall_mem_nil _⟩ ⟨[], rfl⟩
  rw [hstatement.renderSource_eq, relationOf_inferred] at hrender
  exact Frag.ident.inj (List.head_eq_of_cons_eq hrender)

/-- The model's name is read where nothing quotes it. -/
theorem owner_of_reads (hcolumns : t.columns ≠ []) : Denotes unquoted d t.name t.name := by
  obtain ⟨c, hc⟩ := List.exists_mem_of_ne_nil _ hcolumns
  have hdimension : c.name ∈ (inferred cases datasourceName tables t).dimensions.map (·.name) := by
    rw [inferred_dimensionNames]
    exact List.mem_map_of_mem hc
  obtain ⟨out, plan, hstatement, -, hreads⟩ := exists_reading ht h
    { name := some (inferred cases datasourceName tables t).name, order := [⟨c.name, false⟩] } rfl rfl rfl
    ⟨List.forall_mem_nil _, List.forall_mem_nil _, List.forall_mem_nil _,
      List.forall_mem_nil _, List.forall_mem_singleton.2 hdimension⟩ ⟨[], rfl⟩
  have hdenotes := hreads.alias_denotes (.inl (by simp [queryFields]))
  rwa [inferred_name, snakeCase_of_reads ht h] at hdenotes

theorem undotted_of_reads {c : ColumnInfo} (hc : c ∈ t.columns) : c.name ≠ "*" ∧ '.' ∉ c.name.toList := by
  have hdimension : c.name ∈ (inferred cases datasourceName tables t).dimensions.map (·.name) := by
    rw [inferred_dimensionNames]
    exact List.mem_map_of_mem hc
  constructor
  · intro hstar
    obtain ⟨out, plan, hstatement, -, hreads⟩ := exists_reading ht h
      { name := some (inferred cases datasourceName tables t).name, dimensions := [⟨c.name, none⟩] } rfl rfl rfl
      ⟨List.forall_mem_nil _, List.forall_mem_singleton.2 hdimension, List.forall_mem_nil _,
        List.forall_mem_nil _, List.forall_mem_nil _⟩ (by rw [hstar]; exact ⟨_, rfl⟩)
    obtain ⟨r, hr⟩ := List.exists_mem_of_ne_nil _ (hreads.fields c.name (by simp [queryFields, plainFields])).1
    rcases hstatement.mem_usesOf.1 hr with ⟨-, hr⟩ | ⟨htime, -⟩ | ⟨horder, -⟩
    · rw [hstar, fieldRefs, resolveField_eq_none.2 rfl] at hr
      cases hr
    · cases htime
    · cases horder
  · intro hdot
    obtain ⟨out, plan, hstatement, -, hreads⟩ := exists_reading ht h
      { name := some (inferred cases datasourceName tables t).name, order := [⟨c.name, false⟩] } rfl rfl rfl
      ⟨List.forall_mem_nil _, List.forall_mem_nil _, List.forall_mem_nil _,
        List.forall_mem_nil _, List.forall_mem_singleton.2 hdimension⟩ ⟨[], rfl⟩
    exact not_readsColumn_dotted hdot _ ((hreads.fields c.name (by simp [queryFields])).2 _
      (hstatement.mem_usesOf.2 (.inr (.inr ⟨List.mem_singleton.2 rfl, rfl⟩))))

theorem times_of_reads {c : ColumnInfo} (hc : c ∈ t.columns) (htimes : (columnFields cases c).2.2 ≠ []) :
    unquoted c.name = true ∧ d.foldColumn false c.name = d.foldColumn true c.name := by
  obtain ⟨td, htd⟩ := List.exists_mem_of_ne_nil _ htimes
  have hdimension := (columnFields_names c).2.1 td htd
  have hmem : td ∈ (inferred cases datasourceName tables t).timeDimensions := by
    rw [inferred_times]
    exact List.mem_flatMap.2 ⟨c, hc, htd⟩
  obtain ⟨out, plan, hstatement, -, hreads⟩ := exists_reading ht h
    { name := some (inferred cases datasourceName tables t).name, timeDimensions := [td] } rfl rfl rfl
    ⟨List.forall_mem_nil _, List.forall_mem_nil _,
      List.forall_mem_singleton.2 (List.mem_map_of_mem hmem),
      List.forall_mem_nil _, List.forall_mem_nil _⟩ ⟨_, rfl⟩
  have hread := (hreads.fields td.dimension (by simp [queryFields])).2 _
    (hstatement.mem_usesOf.2 (.inr (.inl ⟨List.mem_singleton.2 rfl, rfl⟩)))
  rw [hdimension, rawRef_append (undotted_of_reads ht h hc).2] at hread
  obtain ⟨-, hquoted | hunquoted, hfold⟩ := hread
  · cases hquoted
  · exact ⟨hunquoted, hfold⟩

theorem measures_of_reads {c : ColumnInfo} (hc : c ∈ t.columns) (hmeasures : (columnFields cases c).1 ≠ []) : PlainFormula d fp t.name c.name := by
  intro reads hreads
  obtain ⟨measure, hmeasure⟩ := List.exists_mem_of_ne_nil _ hmeasures
  have hmem : measure ∈ (inferred cases datasourceName tables t).measures := by
    rw [inferred_measures]
    exact List.mem_flatMap.2 ⟨c, hc, hmeasure⟩
  obtain rfl := (columnFields_names c).2.2 measure hmeasure
  have hreads' : (alone d fp (inferred cases datasourceName tables t)).measureReads (Measure.simple c.name .sum) = .ok reads :=
    (measureReads_congr rfl _).trans hreads
  obtain ⟨expr, hexpr⟩ := exists_buildMeasureExpression (inferred cases datasourceName tables t).name
    (inferred cases datasourceName tables t).name hreads'
  obtain ⟨out, plan, hstatement, -, hcolumns⟩ := exists_reading ht h
    { name := some (inferred cases datasourceName tables t).name, measures := [Measure.simple c.name .sum] } rfl rfl rfl
    ⟨List.forall_mem_singleton.2 hmem, List.forall_mem_nil _, List.forall_mem_nil _,
      List.forall_mem_nil _, List.forall_mem_nil _⟩ (by
        refine ⟨[⟨expr, some ((Measure.simple c.name .sum).formula.label.getD (Measure.simple c.name .sum).formula.expression)⟩], ?_⟩
        simp only [buildSelectItems, measureItem, hexpr, List.mapM_cons, List.mapM_nil, bind, Except.bind, pure, Except.pure]
        rfl)
  obtain ⟨measures, dimensions, hbuilt, -, hitems⟩ := hstatement.items_eq
  cases Res.forall₂_of_mapM hbuilt with
  | @cons _ item _ _ hitem hrest =>
    cases hrest
    obtain ⟨expr, hexpr, hitem⟩ := Res.bind_eq_ok.1 hitem
    obtain rfl := Except.ok.inj hitem
    obtain ⟨reads', hread, hnames⟩ := names_buildMeasure hexpr
    obtain rfl := Except.ok.inj (hread.symm.trans hreads')
    have hrefs := hcolumns.measures
    rw [hitems] at hrefs
    cases hrefs with
    | cons hrefs _ =>
      have hown {field : String} (hfield : field ∈ reads'.fields) (hne : field ≠ "*") : field = c.name ∨ field = t.name ++ "." ++ c.name := by
        have hdimension : c.name ∈ (inferred cases datasourceName tables t).dimensions.map (·.name) := by
          rw [inferred_dimensionNames]
          exact List.mem_map_of_mem hc
        have heq := eq_of_fieldRefs hdimension (undotted_of_reads ht h hc).1 hne fun r hr =>
          (hrefs.2 r).1 ((hnames r).2 (.inl ⟨field, hfield, hr⟩))
        rwa [inferred_name, snakeCase_of_reads ht h] at heq
      refine ⟨?_, ?_, fun field hfield hne => hown hfield hne⟩
      · rw [← Bool.not_eq_true]
        intro hwindow
        exact rawRef_ne_quoted _ _ _ ((hrefs.2 _).1 ((hnames _).2 (.inr ⟨hwindow, rfl⟩)))
      · rcases (hnames _).1 ((hrefs.2 _).2 rfl) with ⟨field, hfield, hr⟩ | ⟨-, hraw⟩
        · refine ⟨field, hfield, fun hstar => ?_⟩
          rw [hstar, fieldRefs, resolveField_eq_none.2 rfl] at hr
          cases hr
        · exact absurd hraw.symm (rawRef_ne_quoted _ _ _)

end

/-! ## Joins of keys -/

theorem exists_forall₂ {α β : Type} {R : α → β → Prop} {as : List α} (h : ∀ a ∈ as, ∃ b, R a b) : ∃ bs, List.Forall₂ R as bs := by
  induction as with
  | nil => exact ⟨[], .nil⟩
  | cons a as ih =>
    obtain ⟨b, hb⟩ := h a List.mem_cons_self
    obtain ⟨bs, hbs⟩ := ih fun a ha => h a (List.mem_cons_of_mem _ ha)
    exact ⟨b :: bs, .cons hb hbs⟩

theorem mem_keysWithin {key : ForeignKey} : key ∈ keysWithin tables t ↔ key ∈ t.keys ∧ ∃ target ∈ tables, target.name = key.referencedTable := by
  simp [keysWithin]

section

variable (hnames : ∀ other ∈ tables, toSnakeCase cases other.name = other.name)

include hnames

/-- The joins under the name of a reported key are those of the keys that are reported of its table. -/
theorem filter_joins {fk : ForeignKeyInfo} (hwithin : ∃ target ∈ tables, target.name = fk.referencedTable) :
    (inferred cases datasourceName tables t).joins.filter (·.name == (joinOf cases t fk).name) =
      (t.foreignKeys.filter (·.referencedTable == fk.referencedTable)).map (joinOf cases t) := by
  obtain ⟨target, htarget, hname⟩ := hwithin
  rw [inferred_joins, List.filter_map, reportedWithin, List.filter_filter]
  congr 1
  apply List.filter_congr
  intro other _
  cases hother : tables.any (·.name == other.referencedTable) with
  | true =>
    obtain ⟨table, htable, heq⟩ := List.any_eq_true.1 hother
    have hsnake : toSnakeCase cases other.referencedTable = other.referencedTable := beq_iff_eq.1 heq ▸ hnames table htable
    have hsnake' : toSnakeCase cases fk.referencedTable = fk.referencedTable := hname ▸ hnames target htarget
    rw [Bool.and_true, Bool.eq_iff_iff]
    simp only [Function.comp_apply, joinOf, hsnake, hsnake', beq_iff_eq]
    exact String.append_right_inj _
  | false =>
    rw [Bool.and_false]
    symm
    rw [Bool.eq_false_iff]
    intro heq
    rw [beq_iff_eq] at heq
    refine Bool.eq_false_iff.1 hother (List.any_eq_true.2 ⟨target, htarget, ?_⟩)
    rw [hname, heq]
    exact beq_self_eq_true _

theorem IsJoinOf.reported {key : ForeignKey} {join : Join} (h : IsJoinOf cases datasourceName tables t key join) : ∃ l r, key.pairs = [(l, r)] ∧ join = joinOf cases t ⟨l, key.referencedTable, r⟩ ∧
      t.foreignKeys.filter (·.referencedTable == key.referencedTable) = [⟨l, key.referencedTable, r⟩] := by
  obtain ⟨target, htarget, hname, hmodel⟩ := h.target
  have hjoin : join ∈ (inferred cases datasourceName tables t).joins :=
    List.mem_of_mem_filter (h.alone ▸ List.mem_singleton.2 rfl)
  rw [inferred_joins] at hjoin
  obtain ⟨fk, hfk, rfl⟩ := List.mem_map.1 hjoin
  obtain ⟨table, htable, htableName⟩ := List.any_eq_true.1 (List.mem_filter.1 hfk).2
  have href : fk.referencedTable = key.referencedTable := by
    have hsnake : toSnakeCase cases fk.referencedTable = toSnakeCase cases target.name := hmodel.trans inferred_name
    rw [← beq_iff_eq.1 htableName, hnames table htable, hnames target htarget, hname] at hsnake
    rw [← beq_iff_eq.1 htableName, hsnake]
  have halone := h.alone
  rw [filter_joins hnames ⟨table, htable, beq_iff_eq.1 htableName⟩] at halone
  obtain ⟨fk', hfilter, hfk'⟩ := List.map_eq_singleton_iff.1 halone
  have hmem : fk' ∈ t.foreignKeys.filter (·.referencedTable == fk.referencedTable) := hfilter ▸ List.mem_singleton.2 rfl
  have hsame : fk' = fk := by
    obtain ⟨hcolumn, hreferenced⟩ := Prod.mk.inj (List.head_eq_of_cons_eq (congrArg Join.on hfk'))
    have htable' := beq_iff_eq.1 (List.mem_filter.1 hmem).2
    obtain ⟨column, referenced, referencedColumn⟩ := fk'
    obtain ⟨column', referenced', referencedColumn'⟩ := fk
    simp only at hcolumn hreferenced htable'
    rw [hcolumn, hreferenced, htable']
  subst hsame
  rw [href] at hfilter
  refine ⟨fk'.column, fk'.referencedColumn, (List.singleton_perm.1 h.pairs).symm, ?_, ?_⟩
  · rw [← href]
  · rw [hfilter, ← href]

/-- **Every key has a join of its own** exactly if the keys are single. -/
theorem keysJoined_iff : KeysJoined cases datasourceName tables t ↔ SingleKeys tables t := by
  have hinjective {own : List Join} (hown : List.Forall₂ (fun (key : ForeignKey) (join : Join) =>
      join.name = toSnakeCase cases t.name ++ "_to_" ++ toSnakeCase cases key.referencedTable) (keysWithin tables t) own) :
      own.map (·.name) = ((keysWithin tables t).map (·.referencedTable)).map fun name =>
        toSnakeCase cases t.name ++ "_to_" ++ toSnakeCase cases name := by
    rw [List.map_map]
    exact (map_of_forall₂ hown fun _ _ h => h.symm).symm
  constructor
  · rintro ⟨own, hown, hdistinct⟩
    constructor
    · have hjoinNames := hinjective (hown.imp fun key join h => by
        obtain ⟨l, r, -, rfl, -⟩ := h.reported hnames
        rfl)
      rw [hjoinNames] at hdistinct
      exact hdistinct.of_map _
    · intro key hkey
      obtain ⟨join, hjoin⟩ := exists_of_forall₂ hown hkey
      obtain ⟨l, r, hpairs, -, hfilter⟩ := hjoin.reported hnames
      exact ⟨l, r, hpairs, hfilter⟩
  · intro h
    have hown (key : ForeignKey) (hkey : key ∈ keysWithin tables t) : ∃ join, IsJoinOf cases datasourceName tables t key join ∧
        join.name = toSnakeCase cases t.name ++ "_to_" ++ toSnakeCase cases key.referencedTable := by
      obtain ⟨l, r, hpairs, hfilter⟩ := h.single key hkey
      obtain ⟨-, target, htarget, hname⟩ := mem_keysWithin.1 hkey
      refine ⟨joinOf cases t ⟨l, key.referencedTable, r⟩, ⟨⟨target, htarget, hname, ?_⟩, ?_, ?_⟩, rfl⟩
      · rw [inferred_name, hname]
        rfl
      · rw [hpairs]
        exact List.Perm.refl _
      · rw [filter_joins hnames ⟨target, htarget, hname⟩, hfilter]
        rfl
    obtain ⟨own, hown⟩ := exists_forall₂ hown
    have hjoinNames := hinjective (hown.imp fun _ _ h => h.2)
    refine ⟨own, hown.imp fun _ _ h => h.1, ?_⟩
    rw [hjoinNames, List.nodup_map_iff_inj_on h.distinct]
    intro name hmem other hother heq
    obtain ⟨key, hkey, rfl⟩ := List.mem_map.1 hmem
    obtain ⟨key', hkey', rfl⟩ := List.mem_map.1 hother
    obtain ⟨-, target, htarget, hname⟩ := mem_keysWithin.1 hkey
    obtain ⟨-, target', htarget', hname'⟩ := mem_keysWithin.1 hkey'
    have hsnake := (String.append_right_inj _).1 heq
    rw [← hname, ← hname', hnames target htarget, hnames target' htarget'] at hsnake
    rw [← hname, ← hname', hsnake]

end

/-! ## All tables -/

theorem targets_inferred (t : IntrospectedTable) {join : Join} (hjoin : join ∈ (inferred cases datasourceName tables t).joins) :
    ∃ target ∈ tables, join.model = (inferred cases datasourceName tables target).name := by
  obtain ⟨target, htarget, hmodel⟩ := exists_target hjoin
  exact ⟨target, htarget, hmodel.trans inferred_name.symm⟩

end

def shopParser : FormulaParser := ⟨fun _ => false, fun _ => false⟩

def shopCustomers : IntrospectedTable where
  name := "customers"
  columns := [{ name := "id", dataType := "text" }]
  keys := []

/-- `orders (total numeric, created_at timestamp, customer_id text references customers (id))`. -/
def shopOrders : IntrospectedTable where
  name := "orders"
  columns := [{ name := "total", dataType := "numeric" }, { name := "created_at", dataType := "timestamp" },
    { name := "customer_id", dataType := "text" }]
  foreignKeys := [⟨"customer_id", "customers", "id"⟩]
  keys := [⟨"customers", [("customer_id", "id")]⟩]

theorem plainFormula_total : PlainFormula .postgres shopParser "orders" "total" := by
  intro reads h
  have hreads : (SqlGenerator.new .postgres shopParser).measureReads (Measure.simple "total" .sum) = .ok ⟨["total"], false⟩ := by decide +kernel
  obtain rfl := Except.ok.inj (hreads.symm.trans h)
  exact ⟨rfl, ⟨"total", List.mem_singleton.2 rfl, by decide⟩, fun field hfield _ => .inl (List.mem_singleton.1 hfield)⟩

/-- A table with a capital. -/
def capitalCustomers : IntrospectedTable := { shopCustomers with name := "Customers" }

def shopLines : IntrospectedTable where
  name := "lines"
  columns := [{ name := "order_id", dataType := "text" }, { name := "line", dataType := "text" }]
  keys := []

/-- What Postgres answers for a key of two columns: each of them beside each referenced one. -/
def linesRows : TableRows where
  columns := []
  keys := []
  foreignKeys := ["order_id", "line"].flatMap fun column => ["order_id", "line"].map fun referenced =>
    .ofList [("column_name", .string column), ("foreign_table_name", .string "lines"), ("foreign_column_name", .string referenced)]

def shopShipments : IntrospectedTable where
  name := "shipments"
  columns := [{ name := "order_id", dataType := "text" }, { name := "line", dataType := "text" }]
  foreignKeys := (readTable .postgres "shipments" linesRows).foreignKeys
  keys := [⟨"lines", [("order_id", "order_id"), ("line", "line")]⟩]

end Introspection

end GraphNight
