import GraphNight.Sql.Names

/-!
# Aliases in scope

FROM and the JOIN clauses introduce aliases in quotes; the columns of a statement name
them unquoted. A name resolves when the database reads it as one identifier and folds
it to an alias that is there.
-/

namespace GraphNight

open SqlText

namespace Dialect

/-- What a quoted alias is compared as: Postgres and MySQL keep its case. -/
def foldQuoted (d : Dialect) (name : String) : String :=
  match d with
  | postgres | mySql => name
  | sqlite | duckDb => Str.toAsciiLowercase name

/-- What an unquoted alias is compared as: Postgres folds it to lower case. -/
def foldPlain (d : Dialect) (name : String) : String :=
  match d with
  | postgres | sqlite | duckDb => Str.toAsciiLowercase name
  | mySql => name

end Dialect

section

-- the texts the database reads as one identifier when nothing quotes them: its lexical
-- rules, less the words it reserves
variable (unquoted : String → Bool) (d : Dialect)

/-- An unquoted name stands for an alias. -/
def Denotes (name aliasName : String) : Prop := unquoted name = true ∧ d.foldPlain name = d.foldQuoted aliasName

/-- The aliases a plan introduces. -/
def introduced (plan : LogicalPlan) : List String := plan.sourceAlias :: plan.joins.map (·.aliasName)

/-- The names of an ON condition. A part that was not recognised as a comparison of two
columns stands as it is. -/
def onRefs (t : SqlText) : List NameRef :=
  refs <| t.map fun
    | .code x => if x ∈ ["", ".", " = ", " AND "] then .code x else .raw x
    | f => f

/-- The names of a plan, clause by clause. -/
def planRefs (plan : LogicalPlan) : List NameRef :=
  plan.selectItems.flatMap (fun item => refs item.expression) ++ plan.whereClause.elim [] refs ++
    plan.groupBy.flatMap refs ++ plan.orderBy.flatMap (fun item => refs item.column) ++
    plan.joins.flatMap fun j => onRefs j.on

/-- Every qualifier stands for exactly one of the aliases, which are all different. -/
structure WellScoped (plan : LogicalPlan) : Prop where
  distinct : ((introduced plan).map d.foldQuoted).Nodup
  resolved : ∀ r ∈ planRefs plan, ∃! aliasName, aliasName ∈ introduced plan ∧ Denotes unquoted d r.qualifier aliasName

end

namespace SqlGenerator

/-- The aliases of a source and of the links it joins along. -/
def linkAliases (g : SqlGenerator) (m : Model) (sourceAlias : String) : List String :=
  sourceAlias :: (statementLinks g.modelRegistry.items m).map fun e => JoinWalker.targetAlias e.join

/-- The fields of the dimensions and the filters. -/
def plainFields (query : Query) : List String := query.dimensions.map (·.name) ++ query.filters.map (·.field)

section

variable (unquoted : String → Bool) (g : SqlGenerator) (query : Query) (m : Model) (sourceAlias : String)

/-- A name stands for one of the aliases. -/
def Known (name : String) : Prop :=
  ∃ aliasName ∈ g.linkAliases m sourceAlias, Denotes unquoted (g.dialectFor m.name) name aliasName

/-- The owner of a field is known. -/
def FieldKnown (field : String) : Prop :=
  ∀ owner column, g.resolveField m.name field sourceAlias = some (owner, column) →
    g.Known unquoted m sourceAlias owner

/-- The aliases the join walker hands out are different, and the owners the fields are
resolved to are among them. -/
structure InScope : Prop where
  distinct : ((g.linkAliases m sourceAlias).map (g.dialectFor m.name).foldQuoted).Nodup
  fields : ∀ field ∈ plainFields query, g.FieldKnown unquoted m sourceAlias field
  measures : ∀ measure ∈ query.measures, ∀ reads, g.measureReads measure = .ok reads →
    (∀ field ∈ reads.fields, g.FieldKnown unquoted m sourceAlias field) ∧
      (reads.window = true → g.Known unquoted m sourceAlias (rawRef sourceAlias).qualifier)
  times : ∀ td ∈ query.timeDimensions,
    g.Known unquoted m sourceAlias (rawRef (sourceAlias ++ "." ++ td.dimension)).qualifier
  orders : ∀ order ∈ query.order, g.Known unquoted m sourceAlias (orderRef sourceAlias order.field).qualifier
  conditions : ∀ e ∈ statementLinks g.modelRegistry.items m, ∀ r ∈ onRefs (writtenClause sourceAlias e).on,
    g.Known unquoted m sourceAlias r.qualifier

end

section

variable {unquoted : String → Bool} {g : SqlGenerator} {query : Query} {out : GeneratedSql} {m : Model}
  {sourceAlias : String} {plan : LogicalPlan}

theorem Statement.introduced_eq (h : g.Statement query out m sourceAlias plan) :
    introduced plan = g.linkAliases m sourceAlias := by
  rw [introduced, linkAliases, h.alias_eq, h.joins_eq, List.map_map]
  rfl

/-- Among different aliases a known name stands for exactly one. -/
theorem existsUnique_of_known
    (hdistinct : ((g.linkAliases m sourceAlias).map (g.dialectFor m.name).foldQuoted).Nodup) {name : String} :
    (∃! aliasName, aliasName ∈ g.linkAliases m sourceAlias ∧ Denotes unquoted (g.dialectFor m.name) name aliasName) ↔
      g.Known unquoted m sourceAlias name := by
  constructor
  · rintro ⟨aliasName, ⟨hmem, hdenotes⟩, -⟩
    exact ⟨aliasName, hmem, hdenotes⟩
  · rintro ⟨aliasName, hmem, hdenotes⟩
    refine ⟨aliasName, ⟨hmem, hdenotes⟩, ?_⟩
    rintro other ⟨hother, hdenotes'⟩
    apply List.inj_on_of_nodup_map hdistinct hother hmem
    exact hdenotes'.2.symm.trans hdenotes.2

theorem fieldKnown_iff {field : String} :
    (∀ r ∈ g.fieldRefs m.name sourceAlias field, g.Known unquoted m sourceAlias r.qualifier) ↔
      g.FieldKnown unquoted m sourceAlias field := by
  unfold fieldRefs FieldKnown
  cases g.resolveField m.name field sourceAlias with
  | none => simp
  | some p =>
    obtain ⟨owner, column⟩ := p
    simp [NameRef.qualifier]

/-- The names of the select list are those of the measures, the dimensions and the times. -/
theorem Statement.forall_selectRefs (h : g.Statement query out m sourceAlias plan) (P : NameRef → Prop) :
    (∀ item ∈ plan.selectItems, ∀ r ∈ refs item.expression, P r) ↔
      (∀ measure ∈ query.measures, ∀ reads, g.measureReads measure = .ok reads →
        (∀ field ∈ reads.fields, ∀ r ∈ g.fieldRefs m.name sourceAlias field, P r) ∧
          (reads.window = true → P (rawRef sourceAlias))) ∧
      (∀ dim ∈ query.dimensions, ∀ r ∈ g.fieldRefs m.name sourceAlias dim.name, P r) ∧
      ∀ td ∈ query.timeDimensions, P (rawRef (sourceAlias ++ "." ++ td.dimension)) := by
  obtain ⟨measures, dimensions, hmeasures, hdimensions, hitems⟩ := h.items_eq
  have hmeasure : ∀ measure item, g.measureItem sourceAlias m.name measure = .ok item →
      ((∀ r ∈ refs item.expression, P r) ↔ ∀ reads, g.measureReads measure = .ok reads →
        (∀ field ∈ reads.fields, ∀ r ∈ g.fieldRefs m.name sourceAlias field, P r) ∧
          (reads.window = true → P (rawRef sourceAlias))) := by
    intro measure item hitem
    obtain ⟨expr, hexpr, hitem⟩ := Res.bind_eq_ok.1 hitem
    obtain rfl := Except.ok.inj hitem
    obtain ⟨reads, hreads, hnames⟩ := names_buildMeasure hexpr
    rw [hreads]
    simp only [Except.ok.injEq, forall_eq']
    constructor
    · intro hall
      exact ⟨fun field hfield r hr => hall r ((hnames r).2 (.inl ⟨field, hfield, hr⟩)),
        fun hwindow => hall _ ((hnames _).2 (.inr ⟨hwindow, rfl⟩))⟩
    · rintro ⟨hfields, hwindow⟩ r hr
      rcases (hnames r).1 hr with ⟨field, hfield, hr⟩ | ⟨hw, rfl⟩
      · exact hfields field hfield r hr
      · exact hwindow hw
  have htime : ∀ td, refs (timeDimensionItem (g.dialectFor m.name) sourceAlias td).expression =
      [rawRef (sourceAlias ++ "." ++ td.dimension)] := fun td => refs_timeDimExpr td
  rw [hitems]
  constructor
  · intro hall
    refine ⟨fun measure hm' => ?_, fun dim hdim => ?_, fun td htd => ?_⟩
    · obtain ⟨item, hmem, hitem⟩ := Res.exists_of_mapM hmeasures measure hm'
      exact (hmeasure measure item hitem).1 (hall item (by simp [hmem]))
    · obtain ⟨item, hmem, hitem⟩ := Res.exists_of_mapM hdimensions dim hdim
      rw [← refs_dimensionItem hitem]
      exact hall item (by simp [hmem])
    · have hr := hall _ (List.mem_append_right _ (List.mem_map_of_mem htd))
      rw [htime] at hr
      exact hr _ (List.mem_singleton.2 rfl)
  · rintro ⟨hms, hds, hts⟩ item hitem
    rcases List.mem_append.1 hitem with hitem | hitem
    · rcases List.mem_append.1 hitem with hitem | hitem
      · obtain ⟨measure, hmem, hitem⟩ := Res.mem_of_mapM hmeasures item hitem
        exact (hmeasure measure item hitem).2 (hms measure hmem)
      · obtain ⟨dim, hmem, hitem⟩ := Res.mem_of_mapM hdimensions item hitem
        rw [refs_dimensionItem hitem]
        exact hds dim hmem
    · obtain ⟨td, htd, rfl⟩ := List.mem_map.1 hitem
      rw [htime]
      rintro r hr
      obtain rfl := List.mem_singleton.1 hr
      exact hts td htd

theorem Statement.forall_whereRefs (h : g.Statement query out m sourceAlias plan) (P : NameRef → Prop) :
    (∀ r ∈ plan.whereClause.elim [] refs, P r) ↔
      ∀ f ∈ query.filters, ∀ r ∈ g.fieldRefs m.name sourceAlias f.field, P r := by
  have hwhere := h.where_eq
  cases hclause : plan.whereClause with
  | none =>
    rw [hclause] at hwhere
    have hempty : query.filters = [] := by
      unfold buildWhereClause at hwhere
      split_ifs at hwhere with hempty
      · exact List.isEmpty_iff.1 hempty
      · obtain ⟨clause, -, hwhere⟩ := Res.bind_eq_ok.1 hwhere
        exact absurd (congrArg Prod.snd (Except.ok.inj hwhere)) (by simp)
    simp [hempty]
  | some t =>
    rw [hclause] at hwhere
    rw [Option.elim_some, refs_buildWhereClause hwhere]
    simp only [List.mem_flatMap, forall_exists_index, and_imp]
    exact ⟨fun hall f hf r hr => hall r f hf hr, fun hall r f hf hr => hall f hf r hr⟩

theorem Statement.forall_groupRefs (h : g.Statement query out m sourceAlias plan) (P : NameRef → Prop) :
    (∀ t ∈ plan.groupBy, ∀ r ∈ refs t, P r) ↔
      (∀ dim ∈ query.dimensions, ∀ r ∈ g.fieldRefs m.name sourceAlias dim.name, P r) ∧
        ∀ td ∈ query.timeDimensions, P (rawRef (sourceAlias ++ "." ++ td.dimension)) := by
  rw [h.groupBy_eq]
  simp [buildGroupBy, or_imp, forall_and, refs_qualifyField, refs_timeDimExpr]

end

/-! ## A join that goes by two names -/

namespace NamedJoin

/-- Orders with a named join to the customers, under an alias or none. -/
def orders (aliasName : Option String) : Model where
  name := "orders"
  datasource := "warehouse"
  dimensions := [⟨"status", none⟩]
  joins := [⟨"customer", "customers", .left, [("customer_id", "id")], aliasName⟩]

def customers : Model := { name := "customers", datasource := "warehouse", dimensions := [⟨"country", none⟩] }

def generator (aliasName : Option String) : SqlGenerator :=
  (new .postgres ⟨fun _ => false, fun _ => false⟩).withModels [orders aliasName, customers]

/-- The orders by the country of their customer. -/
def query : Query := { name := some "orders", dimensions := [⟨"country", none⟩] }

/-- Plain identifiers, less some words no dialect takes for a name. -/
def unquoted (name : String) : Bool :=
  isPlainIdentifier name &&
    Str.toAsciiLowercase name ∉ ["from", "group", "join", "left", "on", "order", "select", "where"]

end NamedJoin

end SqlGenerator

end GraphNight
