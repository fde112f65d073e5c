import GraphNight.GraphQl.Mutations
import GraphNight.Runtime.Authoring
import GraphNight.Sql.Drivers

/-!
# The store and the engine's registry

An agent's tools change the store and tell the engine; a GraphQL mutation changes the store
alone, and no mutation tells the engine of a datasource. The two stay in step as long as
what the engine is not told of leaves the models and their dialects as they were.
-/

namespace GraphNight

/-- A mutation of models or datasources, through either surface, with its caller. -/
inductive AdminMutation where
  /-- A tool that authors the semantic layer, with the fresh id and the clock it is given. -/
  | tool (ctx : CallContext) (id : String) (now : Int) (call : ToolCall) (mutating : call.mutating = true)
  | graphQl (ctx : GraphQLContext) (mutation : GraphQl.Mutation)

/-- What a process is deployed with. -/
structure AdminHost where
  std : RustStd
  json : F32
  host : Host
  catalog : ToolCatalog
  mutations : GraphQl.MutationHost
  formulas : FormulaParser

section

variable {σ : Type} (b : Backend σ) (d : AdminHost)

/-- The state after a mutation, where it succeeds. -/
def AdminMutation.after (v : Server σ) : AdminMutation → Option (Server σ)
  | .tool ctx id now call _ =>
    match d.catalog.call b d.std d.json d.host v ctx id now call with
    | (.ok _, v) => some v
    | (.error _, _) => none
  | .graphQl ctx mutation =>
    match mutation.run b d.mutations ctx v.store with
    | (.ok _, store) => some { v with store }
    | (.error _, _) => none

/-- The engine of the server, the command line and the Elixir client: it is told of no datasource. -/
def serverEngine (formulas : FormulaParser) (models : List StoredModel) : SqlEngine :=
  (SqlEngine.new (Dialect.getDialect "postgres") formulas).withModels (models.map (·.toModel))

/-- The driver of the first datasource. -/
def defaultDriver : List StoredDataSource → String
  | [] => "postgres"
  | ds :: _ => ds.driver

/-- The engine of the Python and Node clients. -/
def clientEngine (formulas : FormulaParser) (datasources : List StoredDataSource) (models : List StoredModel) : SqlEngine :=
  ((SqlEngine.new (Dialect.getDialect (defaultDriver datasources)) formulas).withDatasources
    (datasources.map (·.toDataSource))).withModels (models.map (·.toModel))

/-- The engine was built from the stored models. -/
def BuiltByServer (v : Server σ) : Prop :=
  ∃ models, b.listModels v.store none = .ok models ∧ v.sqlEngine = serverEngine d.formulas models

/-- The engine was built from the stored datasources and models. -/
def BuiltByClient (v : Server σ) : Prop :=
  ∃ datasources models, b.listDatasources v.store = .ok datasources ∧ b.listModels v.store none = .ok models ∧
    v.sqlEngine = clientEngine d.formulas datasources models

/-- Runs of successful mutations that `may` allows, from a state that `start` allows. -/
inductive AdminRun (start : Server σ → Prop) (may : Server σ → AdminMutation → Prop) : Server σ → Prop where
  | start {v : Server σ} : BuiltByServer b d v ∨ BuiltByClient b d v → start v → AdminRun start may v
  | step {v v' : Server σ} (m : AdminMutation) : AdminRun start may v → may v m → m.after b d v = some v' →
      AdminRun start may v'

end

section

variable {σ : Type} {b : Backend σ} (c : b.Catalogue)

/-- The registry holds the stored models, each in the dialect of its datasource's driver. -/
structure InStep (v : Server σ) : Prop where
  held : ∀ m, c.Stores v.store m → v.sqlEngine.generator.model m.name = some m.toModel
  only : ∀ m ∈ v.sqlEngine.generator.modelRegistry.items, ∃ stored, c.Stores v.store stored ∧ stored.toModel = m
  dialects : ∀ m ds, c.Stores v.store m → ds ∈ c.datasources v.store → ds.name = m.datasource →
    v.sqlEngine.generator.dialectFor m.name = Dialect.getDialect ds.driver

/-- Models have names of their own. Where the engine was not told of the datasources, those
that models read are Postgres; where it was, each has a name of its own. -/
structure StartsInStep (d : AdminHost) (v : Server σ) : Prop where
  valid : c.valid v.store
  names : ∀ m m', c.Stores v.store m → c.Stores v.store m' → m'.name = m.name → m' = m
  drivers : BuiltByServer b d v ∧ (∀ m ds, c.Stores v.store m → ds ∈ c.datasources v.store → ds.name = m.datasource →
      Dialect.getDialect ds.driver = .postgres) ∨
    BuiltByClient b d v ∧ ∀ ds ∈ c.datasources v.store, ∀ ds' ∈ c.datasources v.store, ds'.name = ds.name →
      ds'.driver = ds.driver

/-- The engine has the dialect of the datasource a model is to read. -/
def KnowsDatasource (v : Server σ) (name : String) : Prop :=
  ∀ ds ∈ c.datasources v.store, ds.name = name → v.sqlEngine.generator.dialectOf name = Dialect.getDialect ds.driver

/-- The engine has the dialect of a driver for a new datasource, if a model reads it. -/
def KnowsDriver (v : Server σ) (name driver : String) : Prop :=
  ∀ m, c.Stores v.store m → m.datasource = name → v.sqlEngine.generator.dialectOf name = Dialect.getDialect driver

/-- A model is stored as it is, and at the key it would be written at there is no other. -/
def StoredAsIs (s : σ) (name : String) (m : StoredModel) : Prop :=
  c.Stores s m ∧ ∀ e ∈ c.entries s, e.1 = c.key name m.datasource → e.2 = m

/-- A tool takes a new name and a datasource whose dialect is known, or writes and deletes
where its name is the name of all it finds there. -/
def ToolCall.KeepsStep (v : Server σ) : ToolCall → Prop
  | createModel input => (∀ m, c.Stores v.store m → m.name ≠ input.name) ∧ KnowsDatasource c v input.datasource
  | updateModel input => ∀ m, b.getModel v.store input.name none = .ok (some m) →
      ∀ e ∈ c.entries v.store, e.1 = c.key input.name m.datasource ↔ e.2.name = m.name
  | deleteModel name datasource => ∀ e ∈ c.entries v.store, c.deletes name datasource e ↔ e.2.name = name
  | createDatasource input => KnowsDriver c v input.name input.driver
  | _ => True

/-- A GraphQL mutation writes no model that is not stored as it is, and deletes none. -/
def GraphQl.Mutation.KeepsStep (d : AdminHost) (v : Server σ) (ctx : GraphQLContext) : GraphQl.Mutation → Prop
  | .createModel input => c.Stores v.store (GraphQl.newModel input)
  | .updateModel name input => ∀ m, b.getModel v.store name none = .ok (some m) →
      StoredAsIs c v.store name (GraphQl.changeModel m input)
  | .deleteModel name datasource => ∀ e ∈ c.entries v.store, ¬c.deletes name datasource e
  | .createDatasource input => KnowsDriver c v input.name input.driver
  | .updateDatasource .. => True
  | .ingestModels datasource => ∀ models, GraphQl.inferModels b v.store ctx d.mutations datasource = .ok models →
      ∀ m ∈ models, StoredAsIs c v.store m.name m

def AdminMutation.KeepsStep (d : AdminHost) (v : Server σ) : AdminMutation → Prop
  | .tool _ _ _ call _ => call.KeepsStep c v
  | .graphQl ctx mutation => mutation.KeepsStep c d v ctx

end

/-! ## The start -/

section

variable {σ : Type} {b : Backend σ} {c : b.Catalogue} {d : AdminHost} {v : Server σ}

/-- The dialect of a stored model is the dialect of its datasource. -/
theorem dialects_of_held (hheld : ∀ m, c.Stores v.store m → v.sqlEngine.generator.model m.name = some m.toModel)
    (h : ∀ m ds, c.Stores v.store m → ds ∈ c.datasources v.store → ds.name = m.datasource →
      v.sqlEngine.generator.dialectOf ds.name = Dialect.getDialect ds.driver) :
    ∀ m ds, c.Stores v.store m → ds ∈ c.datasources v.store → ds.name = m.datasource →
      v.sqlEngine.generator.dialectFor m.name = Dialect.getDialect ds.driver := by
  intro m ds hm hds hname
  rw [SqlGenerator.dialectFor_of_model (hheld m hm), ← hname]
  exact h m ds hm hds hname

theorem InStep.dialectOf (h : InStep c v) {m : StoredModel} {ds : StoredDataSource} (hm : c.Stores v.store m)
    (hds : ds ∈ c.datasources v.store) (hname : ds.name = m.datasource) :
    v.sqlEngine.generator.dialectOf ds.name = Dialect.getDialect ds.driver := by
  rw [← h.dialects m ds hm hds hname, SqlGenerator.dialectFor_of_model (h.held m hm), hname]

/-- An engine filled with the stored models holds them and no others. -/
theorem inStep_of_models {models : List StoredModel} {g : SqlGenerator} (hvalid : c.valid v.store)
    (hmodels : b.listModels v.store none = .ok models) (hgenerator : v.sqlEngine.generator = g.withModels (models.map (·.toModel)))
    (hempty : g.modelRegistry = .empty) (hnames : ∀ m m', c.Stores v.store m → c.Stores v.store m' → m'.name = m.name → m' = m)
    (hdialects : ∀ m ds, c.Stores v.store m → ds ∈ c.datasources v.store → ds.name = m.datasource →
      g.dialectOf ds.name = Dialect.getDialect ds.driver) : InStep c v := by
  have hstored := c.listModels hvalid hmodels
  have hone : ∀ m ∈ models.map (·.toModel), ∀ other ∈ models.map (·.toModel), other.name = m.name → other = m := by
    intro _ hm _ hother hname
    obtain ⟨m, hmem, rfl⟩ := List.mem_map.1 hm
    obtain ⟨other, hmem', rfl⟩ := List.mem_map.1 hother
    rw [hnames m other ((hstored m).1 hmem) ((hstored other).1 hmem') hname]
  obtain ⟨hheld, honly⟩ := SqlGenerator.withModels_models hempty hone
  have hregistered : ∀ m, c.Stores v.store m → v.sqlEngine.generator.model m.name = some m.toModel := by
    intro m hm
    rw [hgenerator]
    exact hheld m.toModel (List.mem_map_of_mem ((hstored m).2 hm))
  refine ⟨hregistered, fun m hm => ?_, dialects_of_held hregistered fun m ds hm hds hname => ?_⟩
  · rw [hgenerator] at hm
    obtain ⟨stored, hmem, rfl⟩ := List.mem_map.1 (honly m hm)
    exact ⟨stored, (hstored stored).1 hmem, rfl⟩
  · rw [hgenerator, SqlGenerator.withModels_dialectOf]
    exact hdialects m ds hm hds hname

theorem StartsInStep.inStep (h : StartsInStep c d v) : InStep c v := by
  rcases h.drivers with ⟨⟨models, hmodels, hengine⟩, hpostgres⟩ | ⟨⟨datasources, models, hall, hmodels, hengine⟩, hone⟩
  · apply inStep_of_models h.valid hmodels (g := .new (Dialect.getDialect "postgres") d.formulas) _ rfl h.names
    · intro m ds hm hds hname
      rw [hpostgres m ds hm hds hname]
      rfl
    · rw [hengine]
      rfl
  · have hstored := c.listDatasources h.valid hall
    have hnew := SqlGenerator.KnowsDrivers.new (Dialect.getDialect (defaultDriver datasources)) d.formulas
    apply inStep_of_models h.valid hmodels (congrArg SqlEngine.generator hengine) _ h.names
    · intro m ds hm hds hname
      have hmem : ds.toDataSource ∈ datasources.map (·.toDataSource) := List.mem_map_of_mem ((hstored ds).2 hds)
      apply SqlGenerator.dialectOf_withDatasources hnew hmem
      intro other hother hsame
      obtain ⟨ds', hds', rfl⟩ := List.mem_map.1 hother
      exact hone ds hds ds' ((hstored ds').1 hds') hsame
    · exact SqlGenerator.withDatasources_modelRegistry _ _

/-! ## One change of the store and the registry -/

variable {store : σ}

/-- The models stay, and a datasource that comes has a known dialect. -/
theorem InStep.same (h : InStep c v) (hstores : ∀ m, c.Stores store m ↔ c.Stores v.store m)
    (hds : ∀ ds ∈ c.datasources store, ds ∈ c.datasources v.store ∨ KnowsDriver c v ds.name ds.driver) :
    InStep c { v with store } where
  held m hm := h.held m ((hstores m).1 hm)
  only m hm := by
    obtain ⟨stored, hstored, rfl⟩ := h.only m hm
    exact ⟨stored, (hstores stored).2 hstored, rfl⟩
  dialects := by
    refine dialects_of_held (fun m hm => h.held m ((hstores m).1 hm)) fun m ds hm hmem hname => ?_
    rcases hds ds hmem with hbefore | hknown
    · exact h.dialectOf ((hstores m).1 hm) hbefore hname
    · exact hknown m ((hstores m).1 hm) hname.symm

/-- A model is stored and registered, over the one of its name. -/
theorem InStep.registered (h : InStep c v) {m : StoredModel}
    (hstores : ∀ x, c.Stores store x ↔ x = m ∨ c.Stores v.store x ∧ x.name ≠ m.name)
    (hds : c.datasources store ⊆ c.datasources v.store) (hknows : KnowsDatasource c v m.datasource) :
    InStep c { v with store, sqlEngine := v.sqlEngine.registerModel m.toModel } := by
  have hmodel : ∀ name, (v.sqlEngine.registerModel m.toModel).generator.model name =
      if m.name = name then some m.toModel else v.sqlEngine.generator.model name :=
    fun name => KeyedList.get_insert _ m.toModel name
  have hheld : ∀ x, c.Stores store x → (v.sqlEngine.registerModel m.toModel).generator.model x.name = some x.toModel := by
    intro x hx
    rw [hmodel]
    rcases (hstores x).1 hx with rfl | ⟨hstored, hne⟩
    · exact if_pos rfl
    · rw [if_neg (Ne.symm hne)]
      exact h.held x hstored
  refine ⟨hheld, fun r hr => ?_, dialects_of_held hheld fun x ds hx hmem hname => ?_⟩
  · rcases KeyedList.mem_insert_iff.1 hr with rfl | ⟨hr, hne⟩
    · exact ⟨m, (hstores m).2 (.inl rfl), rfl⟩
    · obtain ⟨stored, hstored, rfl⟩ := h.only r hr
      exact ⟨stored, (hstores stored).2 (.inr ⟨hstored, hne⟩), rfl⟩
  · rcases (hstores x).1 hx with rfl | ⟨hstored, -⟩
    · rw [hname]
      exact hknows ds (hds hmem) hname
    · exact h.dialectOf hstored (hds hmem) hname

/-- The models of a name are deleted and unregistered. -/
theorem InStep.unregistered (h : InStep c v) {name : String}
    (hstores : ∀ x, c.Stores store x ↔ c.Stores v.store x ∧ x.name ≠ name)
    (hds : c.datasources store ⊆ c.datasources v.store) :
    InStep c { v with store, sqlEngine := v.sqlEngine.unregisterModel name } := by
  have hheld : ∀ x, c.Stores store x → (v.sqlEngine.unregisterModel name).generator.model x.name = some x.toModel := by
    intro x hx
    obtain ⟨hstored, hne⟩ := (hstores x).1 hx
    show (v.sqlEngine.generator.modelRegistry.erase name).get x.name = some x.toModel
    rw [KeyedList.get_erase, if_neg (Ne.symm hne)]
    exact h.held x hstored
  refine ⟨hheld, fun r hr => ?_, dialects_of_held hheld fun x ds hx hmem hname => ?_⟩
  · obtain ⟨hr, hne⟩ := KeyedList.mem_erase_iff.1 hr
    obtain ⟨stored, hstored, rfl⟩ := h.only r hr
    exact ⟨stored, (hstores stored).2 ⟨hstored, hne⟩, rfl⟩
  · exact h.dialectOf ((hstores x).1 hx).1 (hds hmem) hname

/-! ## The tools -/

section

variable {ctx : CallContext} {out : ToolOutput} {v' : Server σ}

/-- What was saved is registered where the caller may. -/
theorem register_eq_ok {code : String} {m : StoredModel} {f : Unit → ToolOutput}
    (h : ((ToolCatalog.register b v ctx code m).1.map f, (ToolCatalog.register b v ctx code m).2) = (.ok out, v')) :
    v' = { v with sqlEngine := v.sqlEngine.registerModel m.toModel } := by
  unfold ToolCatalog.register QueryService.registerModel at h
  cases hadmin : ctx.requireAdmin with
  | error e =>
    rw [hadmin] at h
    rcases e with e | _ <;> cases (Prod.mk.inj h).1
  | ok _ =>
    rw [hadmin] at h
    exact (Prod.mk.inj h).2.symm

theorem createModel_ok {input : CreateModelInput} (h : ToolCatalog.createModel b v ctx input = (.ok out, v')) :
    ∃ m saved, ToolCatalog.buildModel input = .ok m ∧ (b.createModel v.store m).1 = .ok saved ∧
      v' = { v with store := (b.createModel v.store m).2, sqlEngine := v.sqlEngine.registerModel saved.toModel } := by
  unfold ToolCatalog.createModel at h
  split at h
  · cases h
  · split at h
    · cases h
    · rename_i m hm
      dsimp only [ToolCatalog.wrote] at h
      split at h
      · cases h
      · rename_i saved hsaved
        exact ⟨m, saved, hm, Res.mapErr_eq_ok.1 hsaved, register_eq_ok h⟩

/-- The model an update writes: the stored one with its fields changed. -/
theorem updateModel_ok {input : UpdateModelInput} (h : ToolCatalog.updateModel b v ctx input = (.ok out, v')) :
    ∃ found m saved, b.getModel v.store input.name none = .ok (some found) ∧ ToolCatalog.changeModel found input = .ok m ∧
      (b.updateModel v.store input.name m).1 = .ok saved ∧
      v' = { v with store := (b.updateModel v.store input.name m).2,
                    sqlEngine := v.sqlEngine.registerModel saved.toModel } := by
  unfold ToolCatalog.updateModel at h
  split at h
  · cases h
  · split at h
    · cases h
    · rename_i m hm
      obtain ⟨found, hread, hchange⟩ := Res.bind_eq_ok.1 hm
      have hget := ToolCatalog.readModel_eq_ok hread
      dsimp only [ToolCatalog.wrote] at h
      split at h
      · cases h
      · rename_i saved hsaved
        exact ⟨found, m, saved, hget, hchange, Res.mapErr_eq_ok.1 hsaved, register_eq_ok h⟩

theorem deleteModel_ok {name : String} {datasource : Option String}
    (h : ToolCatalog.deleteModel b v ctx name datasource = (.ok out, v')) :
    (b.deleteModel v.store name datasource).1 = .ok true ∧
      v' = { v with store := (b.deleteModel v.store name datasource).2, sqlEngine := v.sqlEngine.unregisterModel name } := by
  unfold ToolCatalog.deleteModel at h
  split at h
  · cases h
  · dsimp only [ToolCatalog.wrote] at h
    split at h
    · cases h
    · cases h
    · rename_i hdeleted
      refine ⟨Res.mapErr_eq_ok.1 hdeleted, ?_⟩
      unfold QueryService.unregisterModel at h
      cases hadmin : ctx.requireAdmin with
      | error e =>
        rw [hadmin] at h
        rcases e with e | _ <;> cases (Prod.mk.inj h).1
      | ok _ =>
        rw [hadmin] at h
        exact (Prod.mk.inj h).2.symm

/-- The tools of datasources touch the store alone. -/
theorem createDatasource_ok {input : CreateDatasourceInput}
    (h : ToolCatalog.createDatasource b v ctx input = (.ok out, v')) :
    ∃ ds, ds.name = input.name ∧ ds.driver = input.driver ∧
      v' = { v with store := (b.createDatasource v.store ds).2 } := by
  unfold ToolCatalog.createDatasource at h
  split at h
  · cases h
  · exact ⟨_, rfl, rfl, (Prod.mk.inj h).2.symm⟩

theorem updateDatasource_ok {input : UpdateDatasourceInput}
    (h : ToolCatalog.updateDatasource b v ctx input = (.ok out, v')) :
    ∃ found ds, b.getDatasource v.store input.name = .ok (some found) ∧ ds.name = found.name ∧ ds.driver = found.driver ∧
      v' = { v with store := (b.updateDatasource v.store input.name ds).2 } := by
  unfold ToolCatalog.updateDatasource at h
  split at h
  · cases h
  · split at h
    · cases h
    · rename_i found hread
      refine ⟨found, _, ToolCatalog.readDatasource_eq_ok hread, ?_, ?_, (Prod.mk.inj h).2.symm⟩ <;> rfl

theorem deleteDatasource_ok {name : String} (h : ToolCatalog.deleteDatasource b v ctx name = (.ok out, v')) :
    v' = { v with store := (b.deleteDatasource v.store name).2 } := by
  unfold ToolCatalog.deleteDatasource at h
  split at h
  · cases h
  · dsimp only [ToolCatalog.wrote] at h
    split at h
    · cases h
    · cases h
    · exact (Prod.mk.inj h).2.symm

/-- A tool that succeeds was dispatched. -/
theorem dispatch_of_call {id : String} {now : Int} {tool : ToolCall}
    (h : d.catalog.call b d.std d.json d.host v ctx id now tool = (.ok out, v')) :
    d.catalog.dispatch b d.std d.json d.host v ctx id now tool = (.ok out, v') := by
  unfold ToolCatalog.call at h
  split at h
  · cases h
  · split_ifs at h
    · cases h
    · exact h

/-- The models and what they read are as before, whatever came of a call on datasources. -/
theorem InStep.datasources (h : InStep c v) (hv : c.valid v.store) {w : StorageWrite} (hputs : c.puts w = none)
    (htouches : ∀ e, ¬c.Touches w e)
    (hds : ∀ e, CatalogueLayout.putsDatasource w = some e → KnowsDriver c v e.2.name e.2.driver) :
    InStep c { v with store := (b.write v.store w).2 } := by
  have heffect := c.effect w hv
  apply h.same
  · apply heffect.stores_iff
    · intro key m hput
      rw [hputs] at hput
      cases hput
    · exact fun e _ htouch => absurd htouch (htouches e)
  · intro ds hmem
    rcases heffect.datasources hmem with ⟨name, hput⟩ | hbefore
    · exact .inr (hds (name, ds) hput)
    · exact .inl hbefore

/-- A stored datasource that is written again with its driver. -/
theorem InStep.knowsDriver (h : InStep c v) {found ds : StoredDataSource} (hfound : found ∈ c.datasources v.store)
    (hname : ds.name = found.name) (hdriver : ds.driver = found.driver) : KnowsDriver c v ds.name ds.driver := by
  intro m hm hreads
  rw [hname, hdriver]
  exact h.dialectOf hm hfound (hname.symm.trans hreads.symm)

/-- A model is written and registered where its name is its own. -/
theorem InStep.wrote (h : InStep c v) (hv : c.valid v.store) {w : StorageWrite} {key : String} {m : StoredModel}
    (hok : (b.write v.store w).1 = .ok ()) (hputs : c.puts w = some (key, m))
    (hds : CatalogueLayout.putsDatasource w = none) (htouches : ∀ e ∈ c.entries v.store, c.Touches w e ↔ e.2.name = m.name)
    (hknows : KnowsDatasource c v m.datasource) :
    InStep c { v with store := (b.write v.store w).2, sqlEngine := v.sqlEngine.registerModel m.toModel } := by
  apply h.registered _ (Backend.Catalogue.datasources_subset hv hds) hknows
  intro x
  rw [(Backend.Catalogue.wrote hv hok).stores_iff htouches, hputs]
  apply or_congr_left
  constructor
  · rintro ⟨key', hput⟩
    exact (Prod.mk.inj (Option.some.inj hput)).2.symm
  · rintro rfl
    exact ⟨key, rfl⟩

/-- **A tool keeps the engine in step.** -/
theorem InStep.tool (h : InStep c v) (hv : c.valid v.store) {id : String} {now : Int} {tool : ToolCall}
    (hmutating : tool.mutating = true) (hkeeps : tool.KeepsStep c v)
    (hcall : d.catalog.call b d.std d.json d.host v ctx id now tool = (.ok out, v')) :
    InStep c v' ∧ c.valid v'.store := by
  have hdispatch := dispatch_of_call hcall
  cases tool with
  | createModel input =>
    obtain ⟨m, saved, hm, hsaved, rfl⟩ := createModel_ok hdispatch
    obtain ⟨hname, hdatasource⟩ := ToolCatalog.buildModel_eq_ok hm
    have hok : (b.write v.store (.createModel m)).1 = .ok () := congrArg (·.map fun _ => ()) hsaved
    rw [c.createModel hsaved]
    refine ⟨h.wrote hv hok rfl rfl (fun e he => ?_) ?_, c.valid_write (.createModel m) hv⟩
    · exact iff_of_false not_false fun hsame => hkeeps.1 e.2 ⟨e.1, he⟩ (hsame.trans hname)
    · rw [hdatasource]
      exact hkeeps.2
  | updateModel input =>
    obtain ⟨found, m, saved, hfound, hm, hsaved, rfl⟩ := updateModel_ok hdispatch
    obtain ⟨hname, hdatasource⟩ := ToolCatalog.changeModel_eq_ok hm
    have hok : (b.write v.store (.updateModel input.name m)).1 = .ok () := congrArg (·.map fun _ => ()) hsaved
    rw [c.updateModel hsaved]
    refine ⟨h.wrote hv hok rfl rfl (fun e he => ?_) fun ds hds hof => ?_, c.valid_write (.updateModel input.name m) hv⟩
    · rw [hname, ← hkeeps found hfound e he, ← hdatasource]
      rfl
    · have hreads : ds.name = found.datasource := hof.trans hdatasource
      rw [← hof]
      exact h.dialectOf (c.getModel hv hfound) hds hreads
  | deleteModel name datasource =>
    obtain ⟨hdeleted, rfl⟩ := deleteModel_ok hdispatch
    have hok : (b.write v.store (.deleteModel name datasource)).1 = .ok () := congrArg (·.map fun _ => ()) hdeleted
    refine ⟨h.unregistered (fun x => ?_) ?_, c.valid_write (.deleteModel name datasource) hv⟩
    · refine ((Backend.Catalogue.wrote hv hok).stores_iff hkeeps x).trans ?_
      simp [CatalogueLayout.puts]
    · exact Backend.Catalogue.datasources_subset (w := .deleteModel name datasource) hv rfl
  | createDatasource input =>
    obtain ⟨ds, hname, hdriver, rfl⟩ := createDatasource_ok hdispatch
    refine ⟨h.datasources hv (w := .createDatasource ds) rfl (fun _ => not_false) fun ds' hput => ?_,
      c.valid_write (.createDatasource ds) hv⟩
    rw [← Option.some.inj hput, hname, hdriver]
    exact hkeeps
  | updateDatasource input =>
    obtain ⟨found, ds, hfound, hname, hdriver, rfl⟩ := updateDatasource_ok hdispatch
    refine ⟨h.datasources hv (w := .updateDatasource input.name ds) rfl (fun _ => not_false) fun ds' hput => ?_,
      c.valid_write (.updateDatasource input.name ds) hv⟩
    rw [← Option.some.inj hput]
    exact h.knowsDriver (c.getDatasource_mem hv hfound) hname hdriver
  | deleteDatasource name =>
    obtain rfl := deleteDatasource_ok hdispatch
    refine ⟨h.datasources hv (w := .deleteDatasource name) rfl (fun _ => not_false) fun ds' hput => ?_,
      c.valid_write (.deleteDatasource name) hv⟩
    cases hput
  | _ => cases hmutating

end

/-! ## The GraphQL mutations -/

section

variable {ctx : GraphQLContext}

/-- A write of what is stored, in its own place, whatever came of it. -/
theorem InStep.rewrote (h : InStep c v) (hv : c.valid v.store) {w : StorageWrite}
    (hputs : ∀ key m, c.puts w = some (key, m) → c.Stores v.store m)
    (htouches : ∀ e ∈ c.entries v.store, c.Touches w e → ∃ key, c.puts w = some (key, e.2))
    (hds : CatalogueLayout.putsDatasource w = none) : InStep c { v with store := (b.write v.store w).2 } := by
  apply h.same ((c.effect w hv).stores_iff hputs htouches)
  exact fun ds hmem => .inl (Backend.Catalogue.datasources_subset hv hds hmem)

theorem InStep.created (h : InStep c v) (hv : c.valid v.store) {m : StoredModel} (hm : c.Stores v.store m) :
    InStep c { v with store := (b.createModel v.store m).2 } := by
  refine h.rewrote hv (w := .createModel m) (fun key m' hput => ?_) (fun e _ htouch => htouch.elim) rfl
  rwa [← (Prod.mk.inj (Option.some.inj hput)).2]

theorem InStep.updated (h : InStep c v) (hv : c.valid v.store) {name : String} {m : StoredModel}
    (hm : StoredAsIs c v.store name m) : InStep c { v with store := (b.updateModel v.store name m).2 } := by
  refine h.rewrote hv (w := .updateModel name m) (fun key m' hput => ?_) (fun e he htouch => ?_) rfl
  · rw [← (Prod.mk.inj (Option.some.inj hput)).2]
    exact hm.1
  · rw [hm.2 e he htouch]
    exact ⟨_, rfl⟩

/-- Two stored models of one name are the same. -/
theorem InStep.unique (h : InStep c v) {m m' : StoredModel} (hm : c.Stores v.store m) (hm' : c.Stores v.store m')
    (hname : m'.name = m.name) : m' = m := by
  have hsame : m'.toModel = m.toModel := by
    apply Option.some.inj
    rw [← h.held m' hm', ← h.held m hm, hname]
  cases m
  cases m'
  exact congrArg StoredModel.mk hsame

/-- What is stored as it is stays so when another such model of its datasource is written. -/
theorem InStep.storedAsIs (h : InStep c v) (hv : c.valid v.store) {m m' : StoredModel}
    (hm : StoredAsIs c v.store m.name m) (hm' : StoredAsIs c v.store m'.name m') (hds : m.datasource = m'.datasource)
    {w : StorageWrite} (hw : w = .updateModel m'.name m' ∨ w = .createModel m') :
    StoredAsIs c (b.write v.store w).2 m.name m := by
  have hputs : c.puts w = some (c.key m'.name m'.datasource, m') := by
    rcases hw with rfl | rfl <;> rfl
  have htouches : ∀ e ∈ c.entries v.store, c.Touches w e → ∃ key, c.puts w = some (key, e.2) := by
    intro e he htouch
    rcases hw with rfl | rfl
    · rw [hm'.2 e he htouch]
      exact ⟨_, rfl⟩
    · exact htouch.elim
  refine ⟨((c.effect w hv).stores_iff (fun key x hput => ?_) htouches m).2 hm.1, fun e he hkey => ?_⟩
  · rw [hputs] at hput
    rw [← (Prod.mk.inj (Option.some.inj hput)).2]
    exact hm'.1
  · cases c.effect w hv with
    | wrote hwrote =>
      rcases (hwrote.models e).1 he with hput | ⟨he, -⟩
      · obtain rfl := Option.some.inj (hputs.symm.trans hput)
        have hname : m'.name = m.name := c.key_injective (hkey.trans (by rw [hds]))
        exact h.unique hm.1 hm'.1 hname
      · exact hm.2 e he hkey
    | failed hsame => exact hm.2 e (hsame ▸ he) hkey

/-- The store after an inferred model: as it was, or after one write of it. -/
theorem ingestModel_store (s : σ) (report : GraphQl.IngestionReport) (m : StoredModel) :
    (GraphQl.ingestModel b s report m).2 = s ∨
      ∃ w, (w = .updateModel m.name m ∨ w = .createModel m) ∧ (GraphQl.ingestModel b s report m).2 = (b.write s w).2 := by
  unfold GraphQl.ingestModel
  split
  · exact .inr ⟨_, .inl rfl, rfl⟩
  · exact .inr ⟨_, .inr rfl, rfl⟩
  · exact .inl rfl

/-- An ingestion that infers what is stored. -/
theorem InStep.ingested {datasource : String} {models : List StoredModel} (hof : ∀ m ∈ models, m.datasource = datasource)
    (report : GraphQl.IngestionReport) {s : σ} (h : InStep c { v with store := s }) (hv : c.valid s)
    (hstored : ∀ m ∈ models, StoredAsIs c s m.name m) :
    InStep c { v with store := (GraphQl.ingestAll b models report s).2 } ∧ c.valid (GraphQl.ingestAll b models report s).2 := by
  induction models generalizing report s with
  | nil => exact ⟨h, hv⟩
  | cons m models ih =>
    have hm := hstored m List.mem_cons_self
    -- one model keeps everything that the next ones need
    have hstep : InStep c { v with store := (GraphQl.ingestModel b s report m).2 } ∧
        c.valid (GraphQl.ingestModel b s report m).2 ∧
        ∀ m' ∈ models, StoredAsIs c (GraphQl.ingestModel b s report m).2 m'.name m' := by
      rcases ingestModel_store s report m with hsame | ⟨w, hw, hwrote⟩
      · rw [hsame]
        exact ⟨h, hv, fun m' hm' => hstored m' (List.mem_cons_of_mem _ hm')⟩
      · rw [hwrote]
        refine ⟨?_, c.valid_write w hv, fun m' hm' => ?_⟩
        · rcases hw with rfl | rfl
          · exact h.updated hv hm
          · exact h.created hv hm.1
        · have hds : m'.datasource = m.datasource :=
            (hof m' (List.mem_cons_of_mem _ hm')).trans (hof m List.mem_cons_self).symm
          exact h.storedAsIs hv (hstored m' (List.mem_cons_of_mem _ hm')) hm hds hw
    obtain ⟨hin, hvalid, hrest⟩ := hstep
    unfold GraphQl.ingestAll
    rcases hcall : GraphQl.ingestModel b s report m with ⟨_ | report', s'⟩
    · rw [hcall] at hin hvalid
      exact ⟨hin, hvalid⟩
    · rw [hcall] at hin hvalid hrest
      exact ih (fun m' hm' => hof m' (List.mem_cons_of_mem _ hm')) report' hin hvalid hrest

theorem inferModels_datasource {datasource : String} {models : List StoredModel} {s : σ}
    (h : GraphQl.inferModels b s ctx d.mutations datasource = .ok models) : ∀ m ∈ models, m.datasource = datasource := by
  unfold GraphQl.inferModels at h
  obtain ⟨_, -, h⟩ := Res.bind_eq_ok.1 h
  obtain ⟨_, -, h⟩ := Res.bind_eq_ok.1 h
  obtain ⟨tables, -, h⟩ := Res.bind_eq_ok.1 h
  obtain rfl := Except.ok.inj h
  intro m hm
  obtain ⟨table, -, rfl⟩ := List.mem_map.1 hm
  exact Introspection.inferModelFromTable_datasource _ _ _ _

theorem readDatasource_eq_ok {s : σ} {name : String} {found : StoredDataSource}
    (h : GraphQl.readDatasource b s name = .ok found) : b.getDatasource s name = .ok (some found) := by
  obtain ⟨got, hget, hsome⟩ := Res.bind_eq_ok.1 h
  rw [Res.ofOption_eq_ok] at hsome
  rwa [hsome] at hget

/-- An update of a datasource writes the stored one with its fields changed. -/
theorem planDatasource_eq_ok {s : σ} {env : Environment} {name : String} {input : GraphQl.UpdateDatasourceInput}
    {ds : StoredDataSource} (h : GraphQl.planDatasource b s ctx env name input = .ok ds) :
    ∃ found, b.getDatasource s name = .ok (some found) ∧ GraphQl.changeDatasource found input = ds := by
  unfold GraphQl.planDatasource at h
  obtain ⟨_, -, h⟩ := Res.bind_eq_ok.1 h
  obtain ⟨found, hread, h⟩ := Res.bind_eq_ok.1 h
  refine ⟨found, readDatasource_eq_ok hread, ?_⟩
  dsimp only at h
  split at h <;> obtain ⟨_, -, h⟩ := Res.bind_eq_ok.1 h <;> exact Except.ok.inj h

/-- **A GraphQL mutation keeps the engine in step**, whatever came of it. -/
theorem InStep.graphQl (h : InStep c v) (hv : c.valid v.store) {m : GraphQl.Mutation} (hkeeps : m.KeepsStep c d v ctx) :
    InStep c { v with store := (m.run b d.mutations ctx v.store).2 } ∧ c.valid (m.run b d.mutations ctx v.store).2 := by
  cases m with
  | createModel input =>
    dsimp only [GraphQl.Mutation.run, GraphQl.createModel]
    split
    · exact ⟨h, hv⟩
    · exact ⟨h.created hv hkeeps, c.valid_write (.createModel _) hv⟩
  | updateModel name input =>
    dsimp only [GraphQl.Mutation.run, GraphQl.updateModel]
    split
    · exact ⟨h, hv⟩
    · rename_i found hread
      obtain ⟨_, -, hread⟩ := Res.bind_eq_ok.1 hread
      obtain ⟨got, hget, hsome⟩ := Res.bind_eq_ok.1 hread
      rw [Res.ofOption_eq_ok] at hsome
      subst hsome
      exact ⟨h.updated hv (hkeeps found hget), c.valid_write (.updateModel name _) hv⟩
  | deleteModel name datasource =>
    dsimp only [GraphQl.Mutation.run, GraphQl.deleteModel]
    split
    · exact ⟨h, hv⟩
    · refine ⟨h.rewrote hv (w := .deleteModel name datasource) (fun key m hput => ?_) (fun e he htouch => ?_) rfl,
        c.valid_write (.deleteModel name datasource) hv⟩
      · cases hput
      · exact absurd htouch (hkeeps e he)
  | createDatasource input =>
    dsimp only [GraphQl.Mutation.run, GraphQl.createDatasource]
    split
    · exact ⟨h, hv⟩
    · refine ⟨h.datasources hv (w := .createDatasource _) rfl (fun _ => not_false) fun ds hput => ?_,
        c.valid_write (.createDatasource _) hv⟩
      rw [← Option.some.inj hput]
      exact hkeeps
  | updateDatasource name input =>
    dsimp only [GraphQl.Mutation.run, GraphQl.updateDatasource]
    split
    · exact ⟨h, hv⟩
    · rename_i ds hplan
      refine ⟨h.datasources hv (w := .updateDatasource name ds) rfl (fun _ => not_false) fun ds' hput => ?_,
        c.valid_write (.updateDatasource name ds) hv⟩
      obtain ⟨found, hfound, rfl⟩ := planDatasource_eq_ok hplan
      rw [← Option.some.inj hput]
      exact h.knowsDriver (c.getDatasource_mem hv hfound) rfl rfl
  | ingestModels datasource =>
    dsimp only [GraphQl.Mutation.run, GraphQl.ingestModels]
    split
    · exact ⟨h, hv⟩
    · rename_i models hmodels
      exact InStep.ingested (inferModels_datasource hmodels) {} h hv (hkeeps models hmodels)

end

/-- **The engine stays in step with the store** in every run whose mutations all keep it. -/
theorem engine_in_step (h : AdminRun b d (StartsInStep c d) (AdminMutation.KeepsStep c d) v) : InStep c v := by
  suffices hrun : InStep c v ∧ c.valid v.store from hrun.1
  induction h with
  | start _ hstart => exact ⟨hstart.inStep, hstart.valid⟩
  | @step v v' m _ hkeeps hafter ih =>
    cases m with
    | tool ctx id now call hmutating =>
      dsimp only [AdminMutation.after] at hafter
      split at hafter
      · rename_i out after hcall
        obtain rfl := Option.some.inj hafter
        exact ih.1.tool ih.2 hmutating hkeeps hcall
      · cases hafter
    | graphQl ctx mutation =>
      have hstep := ih.1.graphQl ih.2 hkeeps
      dsimp only [AdminMutation.after] at hafter
      split at hafter
      · rename_i reply store hrun
        obtain rfl := Option.some.inj hafter
        rwa [hrun] at hstep
      · cases hafter

end

/-! ## A model the engine is not told of -/

namespace Untold

def host : AdminHost where
  std := ⟨fun _ => false, id, List.Perm.refl, fun _ => 0, fun _ => none, id⟩
  json := ⟨fun r => r, fun _ => "0.5", fun _ => 1 / 2⟩
  host := ⟨fun _ _ => .rows [], true⟩
  catalog := { allowMutations := true }
  mutations := ⟨fun _ => none, ⟨Str.toAsciiLowercase, Char.isUpper, Char.toLower, fun c => [c.toUpper]⟩, fun _ => .ok []⟩
  formulas := ⟨fun _ => false, fun _ => false⟩

abbrev storage : Backend YamlStorage := YamlStorage.backend Str.toAsciiLowercase

abbrev catalogue : storage.Catalogue := YamlStorage.catalogue Str.toAsciiLowercase

def orders : StoredModel := { name := "orders", datasource := "warehouse", dimensions := [⟨"status", none⟩] }

/-- A server on an empty store. -/
def empty : Server YamlStorage where
  store := {}
  sqlEngine := serverEngine host.formulas []

def createOrders : AdminMutation :=
  .graphQl {} (.createModel
    { name := "orders", datasource := "warehouse", measures := [], dimensions := [⟨"status", none⟩], timeDimensions := [] })

/-- The server after a client of GraphQL has created orders. -/
def created : Server YamlStorage := { empty with store := { models := .ofList [("orders", orders)] } }

theorem startsInStep_empty : StartsInStep catalogue host empty where
  valid := trivial
  names := by
    rintro m m' ⟨key, hm⟩
    cases hm
  drivers := by
    left
    refine ⟨⟨[], rfl, rfl⟩, ?_⟩
    rintro m ds ⟨key, hm⟩
    cases hm

/-- A MySQL datasource that a stored model reads. -/
def mySqlStore : YamlStorage where
  models := .ofList [("orders", orders)]
  datasources := .ofList [("warehouse", { name := "warehouse", driver := "mysql", connectionString := "mysql://db" })]

/-- The server that starts on it. -/
def mySqlServer : Server YamlStorage where
  store := mySqlStore
  sqlEngine := serverEngine host.formulas [orders]

end Untold

open Untold in
/-- A model created over GraphQL is stored and not registered, and a server writes Postgres
for a model of a MySQL datasource. -/
theorem created_model_not_registered :
    (AdminRun storage host (fun _ => True) (fun _ _ => True) created ∧ ¬InStep catalogue created) ∧
      AdminRun storage host (fun _ => True) (fun _ _ => True) mySqlServer ∧ ¬InStep catalogue mySqlServer := by
  have hempty : AdminRun storage host (fun _ => True) (fun _ _ => True) empty := .start (.inl ⟨[], rfl, rfl⟩) trivial
  refine ⟨⟨?_, fun h => ?_⟩, ?_, fun h => ?_⟩
  · exact .step createOrders hempty trivial rfl
  · have hheld := h.held orders ⟨"orders", List.mem_singleton.2 rfl⟩
    cases hheld
  · exact .start (.inl ⟨[orders], rfl, rfl⟩) trivial
  · have hdialect := h.dialects orders _ ⟨"orders", List.mem_singleton.2 rfl⟩ (List.mem_singleton.2 rfl) rfl
    exact absurd hdialect (by decide +kernel)

namespace Untold

def admin : CallContext := { isAdmin := true }

def addWarehouse : AdminMutation :=
  .tool admin "" 0 (.createDatasource { name := "warehouse", driver := "pg", connectionString := "postgres://db" }) rfl

def addOrders : AdminMutation :=
  .tool admin "" 0 (.createModel { name := "orders", datasource := "warehouse", dimensions := [⟨"status", none⟩] }) rfl

/-- The server once both have been added. -/
def stocked : Server YamlStorage where
  store :=
    { models := .ofList [("orders", orders)]
      datasources := .ofList [("warehouse", { name := "warehouse", driver := "pg", connectionString := "postgres://db" })] }
  sqlEngine := serverEngine host.formulas [orders]

/-- The server between the two. -/
def furnished : Server YamlStorage := { empty with store := { stocked.store with models := .empty } }

end Untold

open Untold in
/-- An agent adds a datasource and a model that reads it. -/
theorem engine_in_step_stocked : InStep catalogue stocked := by
  have hnone : ∀ m, ¬catalogue.Stores furnished.store m := by
    rintro m ⟨key, hm⟩
    cases hm
  have hstart : AdminRun storage host (StartsInStep catalogue host) (AdminMutation.KeepsStep catalogue host) empty :=
    .start (.inl ⟨[], rfl, rfl⟩) startsInStep_empty
  have hfurnished : AdminRun storage host (StartsInStep catalogue host) (AdminMutation.KeepsStep catalogue host) furnished := by
    apply AdminRun.step addWarehouse hstart _ rfl
    exact fun m hm => absurd hm (hnone m)
  apply engine_in_step (AdminRun.step addOrders hfurnished _ rfl)
  refine ⟨fun m hm => absurd hm (hnone m), fun ds hds _ => ?_⟩
  obtain rfl := List.mem_singleton.1 hds
  decide +kernel

end GraphNight
