import GraphNight.Sql.Drivers

/-!
# Registration histories

A generator is registered with datasources and models, in any order and as often as one likes.
At every point the dialect of a model is that of the driver its datasource was last registered
with: the dialects map is only ever added to, and what it holds for a driver never changes.
-/

namespace GraphNight

/-- What a generator is told. -/
inductive Registration where
  | registerDatasource (ds : DataSource)
  | registerModel (model : Model)
  | unregisterModel (name : String)

namespace Registration

def apply (g : SqlGenerator) : Registration → SqlGenerator
  | registerDatasource ds => g.registerDatasource ds
  | registerModel model => g.registerModel model
  | unregisterModel name => g.unregisterModel name

/-- The driver a registration gives a datasource. -/
def driverOf (datasource : String) : Registration → Option String
  | registerDatasource ds => if ds.name = datasource then some ds.driver else none
  | registerModel _ => none
  | unregisterModel _ => none

end Registration

/-- The generator after a history. -/
def SqlGenerator.after (g : SqlGenerator) (history : List Registration) : SqlGenerator := history.foldl Registration.apply g

/-- The driver a datasource was last registered with. -/
def latestDriver (datasource : String) (history : List Registration) : Option String :=
  history.reverse.findSome? (Registration.driverOf datasource)

@[simp] theorem latestDriver_snoc (datasource : String) (history : List Registration) (last : Registration) :
    latestDriver datasource (history ++ [last]) = (last.driverOf datasource).or (latestDriver datasource history) := by
  rw [latestDriver, List.reverse_append, List.reverse_singleton, List.singleton_append, List.findSome?_cons]
  cases last.driverOf datasource <;> rfl

namespace SqlGenerator

/-- The drivers a generator has are those of its history, and it knows their dialects. -/
structure Follows (g : SqlGenerator) (history : List Registration) : Prop where
  knows : KnowsDrivers g
  drivers : ∀ datasource, (g.datasourceDrivers.get datasource).map (·.2) = latestDriver datasource history

theorem Follows.new (dialect : Dialect) (formulaParser : FormulaParser) : Follows (.new dialect formulaParser) [] where
  knows := .new dialect formulaParser
  drivers _ := rfl

theorem Follows.snoc {g : SqlGenerator} {history : List Registration} (h : Follows g history) (last : Registration) :
    Follows (last.apply g) (history ++ [last]) := by
  cases last with
  | registerDatasource ds =>
    refine ⟨h.knows.registerDatasource ds, fun datasource => ?_⟩
    rw [Registration.apply, registerDatasource_datasourceDrivers, KeyedList.get_insert, latestDriver_snoc, Registration.driverOf]
    by_cases hname : ds.name = datasource
    · rw [if_pos hname, if_pos hname]
      rfl
    · rw [if_neg hname, if_neg hname, h.drivers]
      rfl
  | registerModel model => exact ⟨⟨h.knows.dialects, h.knows.drivers⟩, fun datasource => by rw [latestDriver_snoc]; exact h.drivers datasource⟩
  | unregisterModel name => exact ⟨⟨h.knows.dialects, h.knows.drivers⟩, fun datasource => by rw [latestDriver_snoc]; exact h.drivers datasource⟩

/-- The invariant holds after every history. -/
theorem follows_after (dialect : Dialect) (formulaParser : FormulaParser) (history : List Registration) :
    Follows ((SqlGenerator.new dialect formulaParser).after history) history := by
  induction history using List.reverseRecOn with
  | nil => exact .new dialect formulaParser
  | append_singleton history last ih =>
    rw [SqlGenerator.after, List.foldl_append]
    exact ih.snoc last

theorem Follows.dialectFor {g : SqlGenerator} {history : List Registration} (h : Follows g history) {name driver : String} {model : Model}
    (hmodel : g.model name = some model) (hdriver : latestDriver model.datasource history = some driver) :
    g.dialectFor name = Dialect.getDialect driver := by
  rw [← h.drivers] at hdriver
  obtain ⟨entry, hentry, rfl⟩ := Option.map_eq_some_iff.1 hdriver
  have hkey : entry.1 = model.datasource := KeyedList.key_of_get hentry
  rw [dialectFor_of_model hmodel]
  exact h.knows.dialectOf (by rw [hentry, ← hkey])

/-- Generating in one dialect: the body of `generate` once the dialect is chosen. -/
def generateIn (g : SqlGenerator) (dialect : Dialect) (query : Query) : Res String GeneratedSql := do
  let (sourceTable, sourceAlias) ← g.resolveSource query
  let bound ← g.buildLogicalPlan query dialect sourceTable sourceAlias .placeholder
  let sql ← dialect.generateSql bound
  let shown ← g.buildLogicalPlan query dialect sourceTable sourceAlias .literal
  let display ← dialect.generateSql shown
  return ⟨sql, bound.params, display⟩

/-- The dialect a query is generated in is the one it is cached under. -/
theorem generate_eq_generateIn (g : SqlGenerator) (query : Query) :
    ∃ dialect, dialect.name = g.resolvedDialectName query ∧ g.generate query = g.generateIn dialect query := by
  unfold resolvedDialectName generate generateIn
  generalize g.resolveSource query = source
  cases source with
  | error fault =>
    refine ⟨g.defaultDialect, rfl, ?_⟩
    simp only [bind, Except.bind]
  | ok source =>
    refine ⟨g.dialectFor source.1, rfl, ?_⟩
    simp only [bind, Except.bind]

/-- **Dialects follow the datasources**: after every history a model on a registered datasource has
the dialect of its latest driver, and every query is generated in the dialect it resolves to. -/
theorem dialects_follow_datasources (dialect : Dialect) (formulaParser : FormulaParser) (history : List Registration) :
    let g := (SqlGenerator.new dialect formulaParser).after history
    (∀ name model driver, g.model name = some model → latestDriver model.datasource history = some driver →
        g.dialectFor name = Dialect.getDialect driver) ∧
      ∀ query, ∃ used, used.name = g.resolvedDialectName query ∧ g.generate query = g.generateIn used query :=
  ⟨fun _ _ _ hmodel hdriver => (follows_after dialect formulaParser history).dialectFor hmodel hdriver,
    fun query => generate_eq_generateIn _ query⟩

/-- A warehouse that moves from one database to another under its name. -/
def movedWarehouse : List Registration :=
  [.registerDatasource ⟨"warehouse", "pg", ""⟩, .registerModel { name := "orders", datasource := "warehouse" },
    .registerDatasource ⟨"warehouse", "sqlite3", ""⟩]

theorem dialects_follow_datasources_moved :
    ((SqlGenerator.new .mySql ⟨fun _ => false, fun _ => false⟩).after movedWarehouse).dialectFor "orders" = Dialect.getDialect "sqlite3" :=
  (dialects_follow_datasources .mySql ⟨fun _ => false, fun _ => false⟩ movedWarehouse).1 "orders"
    { name := "orders", datasource := "warehouse" } "sqlite3" (by decide +kernel) (by decide +kernel)

end SqlGenerator

end GraphNight
