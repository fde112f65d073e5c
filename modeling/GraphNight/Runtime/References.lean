import GraphNight.Runtime.Authoring

/-!
# The datasources that models read

The tools keep every stored model on a stored datasource, if `create_model` is only asked
for models of datasources that are stored: it does not look itself.
-/

namespace GraphNight

section

variable {σ : Type} {b : Backend σ} (c : b.Catalogue)

/-- A datasource of the name is stored. -/
def HasDatasource (s : σ) (name : String) : Prop := ∃ ds ∈ c.datasources s, ds.name = name

/-- Every stored model reads a stored datasource. -/
def References (s : σ) : Prop := ∀ m, c.Stores s m → HasDatasource c s m.datasource

/-- Every datasource is stored at its name. -/
def NamedByKey (s : σ) : Prop := ∀ e ∈ c.datasourceEntries s, e.2.name = e.1

/-- Where a model is created at all, its datasource is stored: the catalog is open to the
caller, the model well formed and its place free. -/
def ToolCall.KeepsReferences (catalog : ToolCatalog) (s : σ) (ctx : CallContext) : ToolCall → Prop
  | .createModel input => catalog.allowMutations = true → ctx.isAdmin = true →
      (∃ model, ToolCatalog.buildModel input = .ok model) →
      (∀ e ∈ c.entries s, e.1 ≠ c.key input.name input.datasource) → HasDatasource c s input.datasource
  | _ => True

variable (std : RustStd) (f : F32) (host : Host) (catalog : ToolCatalog)

/-- Runs of calls of the authoring tools that `may` allows, from an empty store, whatever
comes of a call. -/
inductive AuthoringRun (may : σ → CallContext → ToolCall → Prop) : Server σ → Prop where
  | start {v : Server σ} : c.valid v.store → c.entries v.store = [] → c.datasourceEntries v.store = [] →
      AuthoringRun may v
  | call {v : Server σ} (ctx : CallContext) (id : String) (now : Int) (tool : ToolCall) : AuthoringRun may v →
      tool.mutating = true → may v.store ctx tool → AuthoringRun may (catalog.call b std f host v ctx id now tool).2

end

section

variable {σ : Type} {b : Backend σ} {c : b.Catalogue} {s : σ}

theorem NamedByKey.hasDatasource_iff (h : NamedByKey c s) (name : String) :
    HasDatasource c s name ↔ ∃ ds, (name, ds) ∈ c.datasourceEntries s := by
  constructor
  · rintro ⟨ds, hds, rfl⟩
    obtain ⟨e, he, rfl⟩ := List.mem_map.1 hds
    exact ⟨e.2, by rwa [h e he]⟩
  · rintro ⟨ds, he⟩
    exact ⟨ds, List.mem_map_of_mem he, h _ he⟩

/-- Datasources are put at their names. -/
theorem NamedByKey.write (h : NamedByKey c s) (hv : c.valid s) {w : StorageWrite}
    (hputs : ∀ e, CatalogueLayout.putsDatasource w = some e → e.2.name = e.1) : NamedByKey c (b.write s w).2 := by
  intro e he
  rcases (c.effect w hv).datasourceEntry he with hput | hbefore
  · exact hputs e hput
  · exact h e hbefore

/-- A write of a model on a stored datasource, that takes no datasource a model reads
without putting one in its place. -/
theorem References.write (h : References c s) (hnamed : NamedByKey c s) (hv : c.valid s) {w : StorageWrite}
    (hputs : ∀ key m, c.puts w = some (key, m) → HasDatasource c s m.datasource)
    (hputsDs : ∀ e, CatalogueLayout.putsDatasource w = some e → e.2.name = e.1)
    (htakes : ∀ e ∈ c.datasourceEntries s, CatalogueLayout.TouchesDatasource w e →
      (∃ ds, CatalogueLayout.putsDatasource w = some (e.1, ds)) ∨ c.puts w = none ∧ ∀ m, c.Stores s m → m.datasource ≠ e.1) :
    References c (b.write s w).2 := by
  cases c.effect w hv with
  | failed hmodels hds =>
    rintro m ⟨key, hm⟩
    obtain ⟨ds, hmem, hname⟩ := h m ⟨key, hmodels ▸ hm⟩
    refine ⟨ds, ?_, hname⟩
    show ds ∈ (c.datasourceEntries (b.write s w).2).map (·.2)
    rwa [hds]
  | wrote hwrote =>
    rintro m ⟨key, hm⟩
    have hread : HasDatasource c s m.datasource ∧ (c.puts w = none → c.Stores s m) := by
      rcases (hwrote.models (key, m)).1 hm with hput | ⟨hbefore, -⟩
      · exact ⟨hputs key m hput, fun hnone => by rw [hnone] at hput; cases hput⟩
      · exact ⟨h m ⟨key, hbefore⟩, fun _ => ⟨key, hbefore⟩⟩
    obtain ⟨hhas, hstored⟩ := hread
    obtain ⟨ds, he⟩ := (hnamed.hasDatasource_iff _).1 hhas
    apply ((hnamed.write hv hputsDs).hasDatasource_iff _).2
    by_cases htouch : CatalogueLayout.TouchesDatasource w (m.datasource, ds)
    · rcases htakes _ he htouch with ⟨ds', hput⟩ | ⟨hnone, hunread⟩
      · exact ⟨ds', (hwrote.datasources _).2 (.inl hput)⟩
      · exact absurd rfl (hunread m (hstored hnone))
    · exact ⟨ds, (hwrote.datasources _).2 (.inr ⟨he, htouch⟩)⟩

section

variable {std : RustStd} {f : F32} {host : Host} {catalog : ToolCatalog} {v : Server σ} {ctx : CallContext}
  {id : String} {now : Int} {tool : ToolCall}

/-- An unused datasource is one that no stored model reads. -/
theorem checkUnused_eq_ok (hv : c.valid v.store) {name : String} (h : ToolCatalog.checkUnused b v name = .ok ()) :
    ∀ m, c.Stores v.store m → m.datasource ≠ name := by
  obtain ⟨models, hmodels, horphans⟩ := Res.bind_eq_ok.1 h
  rintro m hm rfl
  have hmem : m ∈ models := (c.listModels hv (Res.mapErr_eq_ok.1 hmodels) m).2 hm
  have horphan : m.name ∈ (models.filter (·.datasource == m.datasource)).map (·.name) :=
    List.mem_map_of_mem (List.mem_filter.2 ⟨hmem, beq_self_eq_true _⟩)
  dsimp only at horphans
  split_ifs at horphans with hnone
  · rw [List.isEmpty_iff.1 hnone] at horphan
    cases horphan
  · cases horphans

/-- The datasource an update writes has the name it is written at. -/
theorem changeDatasource_name (hnamed : NamedByKey c v.store) (hv : c.valid v.store) {input : UpdateDatasourceInput}
    {found : StoredDataSource} (hfound : b.getDatasource v.store input.name = .ok (some found)) :
    (ToolCatalog.changeDatasource found input).name = input.name :=
  hnamed _ (c.getDatasource hv hfound)

/-- **A write of an authoring tool keeps every model on a stored datasource.** -/
theorem References.writes (h : References c v.store) (hnamed : NamedByKey c v.store) (hv : c.valid v.store)
    {w : StorageWrite} (hwrites : ToolCatalog.Writes b v tool w)
    (hmay : ∀ input, tool = .createModel input → HasDatasource c v.store input.datasource) :
    References c (b.write v.store w).2 ∧ NamedByKey c (b.write v.store w).2 := by
  cases hwrites with
  | @createModel input model hbuild =>
    refine ⟨h.write hnamed hv ?_ (by rintro _ ⟨⟩) fun e _ htouch => htouch.elim, hnamed.write hv (by rintro _ ⟨⟩)⟩
    intro key m hput
    obtain rfl := (Prod.mk.inj (Option.some.inj hput)).2
    rw [(ToolCatalog.buildModel_eq_ok hbuild).2]
    exact hmay input rfl
  | updateModel hfound hchange =>
    refine ⟨h.write hnamed hv ?_ (by rintro _ ⟨⟩) fun e _ htouch => htouch.elim, hnamed.write hv (by rintro _ ⟨⟩)⟩
    intro key m hput
    obtain rfl := (Prod.mk.inj (Option.some.inj hput)).2
    rw [(ToolCatalog.changeModel_eq_ok hchange).2]
    exact h _ (c.getModel hv hfound)
  | deleteModel =>
    refine ⟨h.write hnamed hv (by rintro _ _ ⟨⟩) (by rintro _ ⟨⟩) fun e _ htouch => htouch.elim, ?_⟩
    exact hnamed.write hv (by rintro _ ⟨⟩)
  | @createDatasource input =>
    have hname : ∀ e, CatalogueLayout.putsDatasource (.createDatasource (ToolCatalog.newDatasource input)) = some e →
        e.2.name = e.1 := by
      rintro e ⟨⟩
      rfl
    exact ⟨h.write hnamed hv (by rintro _ _ ⟨⟩) hname fun e _ htouch => htouch.elim, hnamed.write hv hname⟩
  | @updateDatasource input found hfound =>
    have hname : ∀ e, CatalogueLayout.putsDatasource (.updateDatasource input.name (ToolCatalog.changeDatasource found input)) =
        some e → e.2.name = e.1 := by
      rintro e ⟨⟩
      exact changeDatasource_name hnamed hv hfound
    refine ⟨h.write hnamed hv (by rintro _ _ ⟨⟩) hname ?_, hnamed.write hv hname⟩
    rintro e _ htouch
    exact .inl ⟨_, congrArg (fun k => some (k, _)) (Eq.symm htouch)⟩
  | @deleteDatasource name hunused =>
    refine ⟨h.write hnamed hv (by rintro _ _ ⟨⟩) (by rintro _ ⟨⟩) ?_, hnamed.write hv (by rintro _ ⟨⟩)⟩
    rintro e _ rfl
    exact .inr ⟨rfl, checkUnused_eq_ok hv hunused⟩

/-- A model is not created where another has its place, so only a free place counts. -/
theorem References.call (h : References c v.store) (hnamed : NamedByKey c v.store) (hv : c.valid v.store)
    (hmutating : tool.mutating = true) (hmay : tool.KeepsReferences c catalog v.store ctx) :
    References c (catalog.call b std f host v ctx id now tool).2.store ∧
      NamedByKey c (catalog.call b std f host v ctx id now tool).2.store ∧
      c.valid (catalog.call b std f host v ctx id now tool).2.store := by
  rcases catalog.call_writes b std f host v ctx id now hmutating with ⟨e, hrefused⟩ | ⟨hadmin, hallow, w, hwrites, hstore⟩
  · rw [hrefused]
    exact ⟨h, hnamed, hv⟩
  · rw [hstore]
    by_cases htaken : ∃ input model, tool = .createModel input ∧ w = .createModel model ∧
        ToolCatalog.buildModel input = .ok model ∧ ∃ e ∈ c.entries v.store, e.1 = c.key input.name input.datasource
    · obtain ⟨input, model, rfl, rfl, hbuild, e, he, hkey⟩ := htaken
      obtain ⟨hname, hdatasource⟩ := ToolCatalog.buildModel_eq_ok hbuild
      obtain ⟨err, hcreate⟩ := c.createModel_taken (m := model) hv he (by rw [hname, hdatasource, hkey])
      have hsame : (b.write v.store (.createModel model)).2 = v.store := congrArg Prod.snd hcreate
      rw [hsame]
      exact ⟨h, hnamed, hv⟩
    · obtain ⟨hreferences, hnamed'⟩ := h.writes hnamed hv hwrites (by
        rintro input rfl
        cases hwrites with
        | @createModel _ model hbuild =>
          refine hmay hallow hadmin ⟨model, hbuild⟩ fun e he hkey => htaken ?_
          exact ⟨input, model, rfl, rfl, hbuild, e, he, hkey⟩)
      exact ⟨hreferences, hnamed', c.valid_write w hv⟩

/-- A datasource that a model reads is not deleted. -/
theorem deleteDatasource_used (hv : c.valid v.store) {name : String} (hused : ∃ m, c.Stores v.store m ∧ m.datasource = name) :
    ∃ e, catalog.call b std f host v ctx id now (.deleteDatasource name) = (.error e, v) := by
  have hmutating : (ToolCall.deleteDatasource name).mutating = true := rfl
  rcases catalog.call_writes b std f host v ctx id now hmutating with hrefused | ⟨-, -, w, hwrites, -⟩
  · exact hrefused
  · obtain ⟨m, hm, hreads⟩ := hused
    cases hwrites with
    | deleteDatasource hunused => exact absurd hreads (checkUnused_eq_ok hv hunused m hm)

/-- **Every stored model reads a stored datasource**, in every run that creates models on
stored datasources, and a datasource that is read stays. -/
theorem models_read_stored_datasources
    (h : AuthoringRun c std f host catalog (fun s ctx tool => tool.KeepsReferences c catalog s ctx) v) :
    References c v.store ∧ ∀ ctx id now name, (∃ m, c.Stores v.store m ∧ m.datasource = name) →
      ∃ e, catalog.call b std f host v ctx id now (.deleteDatasource name) = (.error e, v) := by
  suffices hrun : References c v.store ∧ NamedByKey c v.store ∧ c.valid v.store from
    ⟨hrun.1, fun _ _ _ _ hused => deleteDatasource_used hrun.2.2 hused⟩
  induction h with
  | start hv hmodels hds =>
    refine ⟨?_, ?_, hv⟩
    · rintro m ⟨key, hm⟩
      rw [hmodels] at hm
      cases hm
    · intro e he
      rw [hds] at he
      cases he
  | call ctx id now tool _ hmutating hmay ih => exact ih.1.call ih.2.1 ih.2.2 hmutating hmay

end

end

/-! ## A model of no datasource -/

namespace Stranded

def std : RustStd := ⟨fun _ => false, id, List.Perm.refl, fun _ => 0, fun _ => none, id⟩

def json : F32 := ⟨fun r => r, fun _ => "0.5", fun _ => 1 / 2⟩

def host : Host := ⟨fun _ _ => .rows [], true⟩

def catalog : ToolCatalog := { allowMutations := true }

def admin : CallContext := { isAdmin := true }

abbrev storage : Backend YamlStorage := YamlStorage.backend Str.toAsciiLowercase

abbrev catalogue : storage.Catalogue := YamlStorage.catalogue Str.toAsciiLowercase

abbrev Run (may : YamlStorage → CallContext → ToolCall → Prop) : Server YamlStorage → Prop :=
  AuthoringRun catalogue std json host catalog may

def empty : Server YamlStorage where
  store := {}
  sqlEngine := SqlEngine.new .postgres ⟨fun _ => false, fun _ => false⟩

def addOrders : ToolCall := .createModel { name := "orders", datasource := "warehouse", dimensions := [⟨"status", none⟩] }

def orders : StoredModel := { name := "orders", datasource := "warehouse", dimensions := [⟨"status", none⟩] }

/-- The server with orders and no datasource. -/
def stranded : Server YamlStorage where
  store := { models := .ofList [("orders", orders)] }
  sqlEngine := empty.sqlEngine.registerModel orders.toModel

theorem run_empty (may : YamlStorage → CallContext → ToolCall → Prop) : Run may empty := .start trivial rfl rfl

end Stranded

open Stranded in
/-- A model is created of a datasource that nobody has created. -/
theorem create_model_strands : Run (fun _ _ _ => True) stranded ∧ ¬References catalogue stranded.store := by
  constructor
  · exact .call admin "" 0 addOrders (run_empty _) rfl trivial
  · intro h
    obtain ⟨ds, hds, -⟩ := h orders ⟨"orders", List.mem_singleton.2 rfl⟩
    cases hds

namespace Stranded

def addWarehouse : ToolCall := .createDatasource { name := "warehouse", driver := "pg", connectionString := "postgres://db" }

def warehouse : StoredDataSource := { name := "warehouse", driver := "pg", connectionString := "postgres://db" }

/-- The server with both. -/
def stocked : Server YamlStorage where
  store := { models := .ofList [("orders", orders)], datasources := .ofList [("warehouse", warehouse)] }
  sqlEngine := stranded.sqlEngine

def furnished : Server YamlStorage := { empty with store := { datasources := .ofList [("warehouse", warehouse)] } }

end Stranded

open Stranded in
/-- A datasource and a model of it; the datasource stays. -/
theorem models_read_stored_datasources_stocked : References catalogue stocked.store ∧
    ∃ e, catalog.call storage std json host stocked admin "" 0 (.deleteDatasource "warehouse") = (.error e, stocked) := by
  have hfurnished : Run (fun s ctx tool => tool.KeepsReferences catalogue catalog s ctx) furnished :=
    .call admin "" 0 addWarehouse (run_empty _) rfl trivial
  have hstocked : Run (fun s ctx tool => tool.KeepsReferences catalogue catalog s ctx) stocked := by
    refine .call admin "" 0 addOrders hfurnished rfl ?_
    exact fun _ _ _ _ => ⟨warehouse, List.mem_singleton.2 rfl, rfl⟩
  have h := models_read_stored_datasources hstocked
  exact ⟨h.1, h.2 admin "" 0 "warehouse" ⟨orders, ⟨"orders", List.mem_singleton.2 rfl⟩, rfl⟩⟩

end GraphNight
