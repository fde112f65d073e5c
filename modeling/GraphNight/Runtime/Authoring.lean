import GraphNight.Runtime.MutationGate
import GraphNight.Storage.Catalogue

/-!
# What the authoring tools write

A tool that authors the semantic layer makes at most one write of the store. Only
`create_model` writes a model of a datasource nobody has looked up, and only
`delete_datasource` takes one out, after a look at the models.
-/

namespace GraphNight

namespace ToolCatalog

/-- The datasource `create_datasource` stores. -/
def newDatasource (input : CreateDatasourceInput) : StoredDataSource :=
  { name := input.name
    driver := input.driver
    connectionString := input.connectionString
    description := input.description
    poolSize := input.poolSize }

/-- A datasource with the supplied fields changed. -/
def changeDatasource (ds : StoredDataSource) (input : UpdateDatasourceInput) : StoredDataSource :=
  { ds with
    description := input.description.or ds.description
    connectionString := input.connectionString.getD ds.connectionString
    poolSize := input.poolSize.or ds.poolSize }

/-- The write an authoring tool makes, once it is let through. -/
inductive Writes {σ : Type} (b : Backend σ) (v : Server σ) : ToolCall → StorageWrite → Prop where
  | createModel {input : CreateModelInput} {model : StoredModel} : buildModel input = .ok model →
      Writes b v (.createModel input) (.createModel model)
  | updateModel {input : UpdateModelInput} {found model : StoredModel} :
      b.getModel v.store input.name none = .ok (some found) → changeModel found input = .ok model →
      Writes b v (.updateModel input) (.updateModel input.name model)
  | deleteModel {name : String} {datasource : Option String} :
      Writes b v (.deleteModel name datasource) (.deleteModel name datasource)
  | createDatasource {input : CreateDatasourceInput} :
      Writes b v (.createDatasource input) (.createDatasource (newDatasource input))
  | updateDatasource {input : UpdateDatasourceInput} {found : StoredDataSource} :
      b.getDatasource v.store input.name = .ok (some found) →
      Writes b v (.updateDatasource input) (.updateDatasource input.name (changeDatasource found input))
  | deleteDatasource {name : String} : checkUnused b v name = .ok () →
      Writes b v (.deleteDatasource name) (.deleteDatasource name)

section

variable {σ : Type} {b : Backend σ} {std : RustStd} {f : F32} {host : Host} {catalog : ToolCatalog} {v : Server σ}
  {ctx : CallContext} {id : String} {now : Int} {tool : ToolCall}

theorem buildModel_eq_ok {input : CreateModelInput} {m : StoredModel} (h : buildModel input = .ok m) :
    m.name = input.name ∧ m.datasource = input.datasource := by
  unfold buildModel at h
  split_ifs at h
  · cases h
  · obtain ⟨measures, -, h⟩ := Res.bind_eq_ok.1 h
    obtain ⟨timeDimensions, -, h⟩ := Res.bind_eq_ok.1 h
    obtain rfl := Except.ok.inj h
    exact ⟨rfl, rfl⟩

theorem changeModel_eq_ok {input : UpdateModelInput} {m m' : StoredModel} (h : changeModel m input = .ok m') :
    m'.name = m.name ∧ m'.datasource = m.datasource := by
  unfold changeModel at h
  dsimp only at h
  split at h <;> obtain ⟨measures, -, h⟩ := Res.bind_eq_ok.1 h <;> split at h <;>
    obtain ⟨timeDimensions, -, h⟩ := Res.bind_eq_ok.1 h <;> obtain rfl := Except.ok.inj h <;> exact ⟨rfl, rfl⟩

theorem readModel_eq_ok {name : String} {found : StoredModel} (h : readModel b v name = .ok found) :
    b.getModel v.store name none = .ok (some found) := by
  obtain ⟨got, hget, hsome⟩ := Res.bind_eq_ok.1 h
  rw [Res.ofOption_eq_ok] at hsome
  rw [Res.mapErr_eq_ok.1 hget, hsome]

theorem readDatasource_eq_ok {name : String} {found : StoredDataSource} (h : readDatasource b v name = .ok found) :
    b.getDatasource v.store name = .ok (some found) := by
  obtain ⟨got, hget, hsome⟩ := Res.bind_eq_ok.1 h
  rw [Res.ofOption_eq_ok] at hsome
  rw [Res.mapErr_eq_ok.1 hget, hsome]

/-- **An authoring tool is turned away, or makes one write.** -/
theorem dispatch_writes (hmutating : tool.mutating = true) :
    (∃ e, catalog.dispatch b std f host v ctx id now tool = (.error e, v)) ∨
      ∃ w, Writes b v tool w ∧ (catalog.dispatch b std f host v ctx id now tool).2.store = (b.write v.store w).2 := by
  cases tool with
  | createModel input =>
    dsimp only [dispatch, createModel]
    split
    · exact .inl ⟨_, rfl⟩
    · split
      · exact .inl ⟨_, rfl⟩
      · rename_i model hmodel
        refine .inr ⟨_, .createModel hmodel, ?_⟩
        split <;> rfl
  | updateModel input =>
    dsimp only [dispatch, updateModel]
    split
    · exact .inl ⟨_, rfl⟩
    · split
      · exact .inl ⟨_, rfl⟩
      · rename_i model hmodel
        obtain ⟨found, hread, hchange⟩ := Res.bind_eq_ok.1 hmodel
        refine .inr ⟨_, .updateModel (readModel_eq_ok hread) hchange, ?_⟩
        split <;> rfl
  | deleteModel name datasource =>
    dsimp only [dispatch, deleteModel]
    split
    · exact .inl ⟨_, rfl⟩
    · refine .inr ⟨_, .deleteModel, ?_⟩
      split <;> rfl
  | createDatasource input =>
    dsimp only [dispatch, createDatasource]
    split
    · exact .inl ⟨_, rfl⟩
    · exact .inr ⟨_, .createDatasource, rfl⟩
  | updateDatasource input =>
    dsimp only [dispatch, updateDatasource]
    split
    · exact .inl ⟨_, rfl⟩
    · split
      · exact .inl ⟨_, rfl⟩
      · rename_i found hread
        exact .inr ⟨_, .updateDatasource (readDatasource_eq_ok hread), rfl⟩
  | deleteDatasource name =>
    dsimp only [dispatch, deleteDatasource]
    split
    · exact .inl ⟨_, rfl⟩
    · rename_i hchecked
      obtain ⟨-, -, hunused⟩ := Res.bind_eq_ok.1 hchecked
      refine .inr ⟨_, .deleteDatasource hunused, ?_⟩
      split <;> rfl
  | _ => cases hmutating

/-- A call of an authoring tool: only an administrator on an open catalog makes a write. -/
theorem call_writes (catalog : ToolCatalog) (b : Backend σ) (std : RustStd) (f : F32) (host : Host) (v : Server σ)
    (ctx : CallContext) (id : String) (now : Int) (hmutating : tool.mutating = true) :
    (∃ e, catalog.call b std f host v ctx id now tool = (.error e, v)) ∨
      ctx.isAdmin = true ∧ catalog.allowMutations = true ∧
        ∃ w, Writes b v tool w ∧ (catalog.call b std f host v ctx id now tool).2.store = (b.write v.store w).2 := by
  by_cases hgate : ctx.isAdmin = false ∨ catalog.allowMutations = false
  · rcases @call_gated σ b std f host catalog v ctx id now tool hgate with ⟨e, hrefused⟩ | ⟨hread, -⟩
    · exact .inl ⟨_, hrefused⟩
    · rw [hmutating] at hread
      cases hread
  · obtain ⟨hadmin, hallow⟩ := not_or.1 hgate
    have hknown : tool.Known := by
      cases tool with
      | unparsed tool reason => cases hmutating
      | unknown tool => cases hmutating
      | _ => trivial
    rw [Bool.not_eq_false] at hadmin hallow
    rw [call_open b std f host v ctx id now hknown (.inl hallow)]
    rcases dispatch_writes hmutating with hrefused | hwrites
    · exact .inl hrefused
    · exact .inr ⟨hadmin, hallow, hwrites⟩

end

end ToolCatalog

end GraphNight
