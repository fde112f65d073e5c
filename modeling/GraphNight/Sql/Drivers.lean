import GraphNight.Sql.Engine

/-!
# Drivers and dialects

The dialect of a model is that of its datasource, and a datasource that was registered has
the dialect of its driver. Registries filled from lists hold what the lists name.
-/

namespace GraphNight

theorem Dialect.getDialect_name (d : Dialect) : Dialect.getDialect d.name = d := by
  cases d <;> decide +kernel

namespace SqlGenerator

variable {g : SqlGenerator}

/-- The dialect of the models of a datasource. -/
def dialectOf (g : SqlGenerator) (datasource : String) : Dialect :=
  match (g.datasourceDrivers.get datasource).map (·.2) with
  | some driver =>
    if driver ≠ g.defaultDialect.name then ((g.dialects.get driver).map (·.2)).getD g.defaultDialect
    else g.defaultDialect
  | none => g.defaultDialect

theorem dialectFor_of_model {name : String} {m : Model} (h : g.model name = some m) :
    g.dialectFor name = g.dialectOf m.datasource := by
  unfold dialectFor dialectOf
  rw [h]
  rfl

/-- Every driver that was registered has its dialect. -/
structure KnowsDrivers (g : SqlGenerator) : Prop where
  dialects : ∀ driver d, g.dialects.get driver = some (driver, d) → d = Dialect.getDialect driver
  drivers : ∀ name driver, g.datasourceDrivers.get name = some (name, driver) →
    driver = g.defaultDialect.name ∨ ∃ d, g.dialects.get driver = some (driver, d)

theorem KnowsDrivers.dialectOf (h : KnowsDrivers g) {name driver : String}
    (hdriver : g.datasourceDrivers.get name = some (name, driver)) : g.dialectOf name = Dialect.getDialect driver := by
  unfold SqlGenerator.dialectOf
  rw [hdriver]
  dsimp only [Option.map_some]
  split_ifs with hdefault
  · obtain hsame | ⟨d, hd⟩ := h.drivers name driver hdriver
    · exact absurd hsame hdefault
    · rw [hd, ← h.dialects driver d hd]
      rfl
  · rw [not_not.1 hdefault, Dialect.getDialect_name]

theorem KnowsDrivers.new (dialect : Dialect) (formulaParser : FormulaParser) : KnowsDrivers (.new dialect formulaParser) where
  dialects driver d h := by cases h
  drivers name driver h := by cases h

@[simp] theorem registerDatasource_defaultDialect (g : SqlGenerator) (ds : DataSource) :
    (g.registerDatasource ds).defaultDialect = g.defaultDialect := by
  unfold registerDatasource
  dsimp only
  split_ifs <;> rfl

@[simp] theorem registerDatasource_datasourceDrivers (g : SqlGenerator) (ds : DataSource) :
    (g.registerDatasource ds).datasourceDrivers = g.datasourceDrivers.insert (ds.name, ds.driver) := by
  unfold registerDatasource
  dsimp only
  split_ifs <;> rfl

/-- What registering a datasource makes of the dialects. -/
theorem registerDatasource_dialects (g : SqlGenerator) (ds : DataSource) :
    (g.registerDatasource ds).dialects = g.dialects ∧
        (ds.driver = g.defaultDialect.name ∨ ∃ d, g.dialects.get ds.driver = some (ds.driver, d)) ∨
      (g.registerDatasource ds).dialects = g.dialects.insert (ds.driver, Dialect.getDialect ds.driver) := by
  unfold registerDatasource
  dsimp only
  split_ifs with h
  · exact .inr rfl
  · refine .inl ⟨rfl, ?_⟩
    by_cases hdefault : ds.driver = g.defaultDialect.name
    · exact .inl hdefault
    · right
      cases hget : g.dialects.get ds.driver with
      | none => exact absurd ⟨hdefault, hget⟩ h
      | some entry =>
        have hkey : entry.1 = ds.driver := KeyedList.key_of_get hget
        exact ⟨entry.2, by rw [← hkey]⟩

theorem KnowsDrivers.registerDatasource (h : KnowsDrivers g) (ds : DataSource) : KnowsDrivers (g.registerDatasource ds) where
  dialects driver d hd := by
    rcases registerDatasource_dialects g ds with ⟨hsame, -⟩ | hput
    · exact h.dialects driver d (hsame ▸ hd)
    · rw [hput, KeyedList.get_insert] at hd
      split_ifs at hd with hdriver
      · obtain ⟨rfl, rfl⟩ := Prod.mk.inj (Option.some.inj hd)
        rfl
      · exact h.dialects driver d hd
  drivers name driver hdriver := by
    rw [registerDatasource_datasourceDrivers, KeyedList.get_insert] at hdriver
    rw [registerDatasource_defaultDialect]
    rcases registerDatasource_dialects g ds with ⟨hsame, hknown⟩ | hput
    · rw [hsame]
      split_ifs at hdriver with hname
      · obtain ⟨-, rfl⟩ := Prod.mk.inj (Option.some.inj hdriver)
        exact hknown
      · exact h.drivers name driver hdriver
    · rw [hput]
      simp only [KeyedList.get_insert]
      split_ifs at hdriver with hname
      · obtain ⟨-, rfl⟩ := Prod.mk.inj (Option.some.inj hdriver)
        exact .inr ⟨_, if_pos rfl⟩
      · refine (h.drivers name driver hdriver).imp_right fun ⟨d, hd⟩ => ?_
        split_ifs with hsame
        · exact ⟨_, by rw [hsame]⟩
        · exact ⟨d, hd⟩

/-- Datasources registered one after the other: each has the driver of one of them. -/
theorem withDatasources_cases (datasources : List DataSource) {g : SqlGenerator} (h : KnowsDrivers g) :
    KnowsDrivers (g.withDatasources datasources) ∧ ∀ ds ∈ datasources, ∃ other ∈ datasources, other.name = ds.name ∧
      (g.withDatasources datasources).datasourceDrivers.get ds.name = some (ds.name, other.driver) := by
  induction datasources using List.reverseRecOn with
  | nil => exact ⟨h, by simp⟩
  | append_singleton datasources last ih =>
    have hstep : g.withDatasources (datasources ++ [last]) = (g.withDatasources datasources).registerDatasource last := by
      simp [withDatasources]
    rw [hstep]
    refine ⟨ih.1.registerDatasource last, fun ds hds => ?_⟩
    rw [registerDatasource_datasourceDrivers, KeyedList.get_insert]
    by_cases hname : last.name = ds.name
    · exact ⟨last, by simp, hname, by rw [if_pos hname, hname]⟩
    · rw [if_neg hname]
      have hmem : ds ∈ datasources := by
        rcases List.mem_append.1 hds with hmem | hlast
        · exact hmem
        · exact absurd (by rw [List.mem_singleton.1 hlast]) hname
      obtain ⟨other, hother, hsame, hget⟩ := ih.2 ds hmem
      exact ⟨other, List.mem_append_left _ hother, hsame, hget⟩

/-- A registered datasource has the dialect of its driver, where its name has one driver. -/
theorem dialectOf_withDatasources {datasources : List DataSource} (h : KnowsDrivers g) {ds : DataSource}
    (hds : ds ∈ datasources) (hone : ∀ other ∈ datasources, other.name = ds.name → other.driver = ds.driver) :
    (g.withDatasources datasources).dialectOf ds.name = Dialect.getDialect ds.driver := by
  obtain ⟨hknows, hdrivers⟩ := withDatasources_cases datasources h
  obtain ⟨other, hother, hname, hget⟩ := hdrivers ds hds
  rw [hknows.dialectOf hget, hone other hother hname]

/-- Registering datasources leaves the registry. -/
theorem withDatasources_modelRegistry (g : SqlGenerator) (datasources : List DataSource) :
    (g.withDatasources datasources).modelRegistry = g.modelRegistry := by
  unfold withDatasources
  induction datasources generalizing g with
  | nil => rfl
  | cons ds datasources ih =>
    rw [List.foldl_cons, ih]
    unfold registerDatasource
    dsimp only
    split_ifs <;> rfl

/-- Registering models touches the registry alone. -/
theorem withModels_eq (g : SqlGenerator) (models : List Model) :
    g.withModels models = { g with modelRegistry := models.foldl KeyedList.insert g.modelRegistry } := by
  unfold withModels
  induction models generalizing g with
  | nil => rfl
  | cons m models ih =>
    rw [List.foldl_cons, ih, registerModel, List.foldl_cons]

@[simp] theorem withModels_dialectOf (g : SqlGenerator) (models : List Model) (datasource : String) :
    (g.withModels models).dialectOf datasource = g.dialectOf datasource := by
  rw [withModels_eq]
  rfl

/-- An empty registry filled with models of different names holds each of them, and no other. -/
theorem withModels_models {models : List Model} (h : g.modelRegistry = .empty)
    (hone : ∀ m ∈ models, ∀ other ∈ models, other.name = m.name → other = m) :
    (∀ m ∈ models, (g.withModels models).model m.name = some m) ∧
      ∀ m ∈ (g.withModels models).modelRegistry.items, m ∈ models := by
  rw [withModels_eq, h]
  have honly : ∀ m ∈ (models.foldl KeyedList.insert .empty : ModelRegistry).items, m ∈ models :=
    fun m hm => KeyedList.mem_ofList hm
  refine ⟨fun m hm => ?_, honly⟩
  obtain ⟨other, hget⟩ := @KeyedList.get_ofList_of_mem _ Model.name _ _ hm
  rw [← hone m hm other (honly other (KeyedList.mem_of_get hget)) (KeyedList.key_of_get hget)]
  rwa [KeyedList.key_of_get hget]

end SqlGenerator

end GraphNight
