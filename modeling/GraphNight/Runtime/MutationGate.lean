import GraphNight.Runtime.Catalog
import GraphNight.Storage.Yaml

/-!
# The mutation gate

Behind the gate, or for a caller who is not an administrator, a call of the catalog may
read, plan, query and remember, and leaves models, datasources and the engine's registry
as they are. The tools that would change them answer with an error.
-/

namespace GraphNight

/-- The names of the tools that author the semantic layer. -/
def mutatingTools : List String := (builtinTools.filter (·.mutating)).map (·.name)

/-- `parse_args`, for whichever tool is named: the call that JSON arguments stand for. -/
structure ArgsParser where
  parse : String → Value → ToolCall
  name_parse : ∀ tool args, (parse tool args).name = tool

/-- One invocation of `ToolCatalog::call`: on which catalog, with what it has embedded by
then, by whom, and what it is given from outside. -/
structure ToolRequest where
  catalog : ToolCatalog
  embedCache : EmbedCache := .empty
  ctx : CallContext
  host : Host
  id : String := ""
  now : Int := 0
  tool : String
  args : Value := .null

namespace ToolRequest

/-- No administrator, or a catalog without mutations. -/
def Gated (r : ToolRequest) : Prop := r.ctx.isAdmin = false ∨ r.catalog.allowMutations = false

section

variable {σ : Type} (parser : ArgsParser) (b : Backend σ) (std : RustStd) (f : F32)

/-- `ToolCatalog::call` on JSON: no arguments are an empty object. -/
def call (r : ToolRequest) (v : Server σ) : Res ToolError ToolOutput × Server σ :=
  let args := match r.args with
    | .null => .object []
    | args => args
  r.catalog.call b std f r.host { v with embedCache := r.embedCache } r.ctx r.id r.now (parser.parse r.tool args)

/-- Calls made one after the other, with what each is answered. -/
def calls : List ToolRequest → Server σ → List (ToolRequest × Res ToolError ToolOutput) × Server σ
  | [], v => ([], v)
  | r :: requests, v =>
    let (answer, v) := r.call parser b std f v
    let (answers, v) := calls requests v
    ((r, answer) :: answers, v)

end

end ToolRequest

/-! ## One call -/

/-- A server with the models, the datasources and the registry of another one. -/
structure Server.SameLayer {σ : Type} (b : Backend σ) (v v' : Server σ) : Prop where
  store : SameCatalogue b v.store v'.store
  generator : v'.sqlEngine.generator = v.sqlEngine.generator

namespace ToolCatalog

variable {σ : Type} {b : Backend σ} {std : RustStd} {f : F32} {host : Host} {catalog : ToolCatalog} {v : Server σ}
  {ctx : CallContext} {id : String} {now : Int} {tool : ToolCall}

theorem requireAdmin_error (h : ctx.isAdmin = false) :
    ctx.requireAdmin.mapErr ToolError.ofService =
      Res.fail (ToolError.ofService (.policyViolation "Admin privileges required")) := by
  simp [CallContext.requireAdmin, h, Res.fail, Res.mapErr]

/-- A mutating tool turns away whoever is not an administrator. -/
theorem dispatch_not_admin (hadmin : ctx.isAdmin = false) (hmutating : tool.mutating = true) :
    catalog.dispatch b std f host v ctx id now tool =
      (Res.fail (ToolError.ofService (.policyViolation "Admin privileges required")), v) := by
  cases tool with
  | createModel input => simp only [dispatch, createModel, requireAdmin_error hadmin, Res.fail]
  | updateModel input => simp only [dispatch, updateModel, requireAdmin_error hadmin, Res.fail]
  | deleteModel name datasource => simp only [dispatch, deleteModel, requireAdmin_error hadmin, Res.fail]
  | createDatasource input => simp only [dispatch, createDatasource, requireAdmin_error hadmin, Res.fail]
  | updateDatasource input => simp only [dispatch, updateDatasource, requireAdmin_error hadmin, Res.fail]
  | deleteDatasource name =>
    simp only [dispatch, deleteDatasource, requireAdmin_error hadmin, Res.fail, bind, Except.bind]
  | _ => cases hmutating

/-- **A tool that does not mutate leaves the semantic layer alone.** -/
theorem dispatch_read (hb : b.MemoriesApart) (hread : tool.mutating = false) :
    Server.SameLayer b v (catalog.dispatch b std f host v ctx id now tool).2 := by
  have hsame : Server.SameLayer b v v := ⟨.refl v.store, rfl⟩
  cases tool with
  | searchModels input => exact ⟨.refl v.store, rfl⟩
  | validateQuery query =>
    rw [dispatch, validateQuery]
    split
    · exact hsame
    · exact hsame
    · have hframe := (v.service b).execute_frame host ctx ‹Query› .compile
      dsimp only
      split <;> exact ⟨.refl v.store, hframe.2⟩
  | runQuery input =>
    rw [dispatch, runQuery]
    split
    · exact hsame
    · have hframe := (v.service b).execute_frame host ctx ‹Query› (runOptions catalog input)
      exact ⟨.refl v.store, hframe.2⟩
  | multiStageQuery input =>
    rw [dispatch, multiStageQuery]
    split
    · exact hsame
    · have hframe := (v.service b).executeMultiStage_frame std host ctx ‹List (String × Query)› (input.dryRun.getD false)
      exact ⟨.refl v.store, hframe.2⟩
  | remember input =>
    rw [dispatch, remember]
    cases rememberRecord ctx input id now with
    | error e => exact hsame
    | ok record => exact ⟨hb v.store (record.toStorage f), rfl⟩
  | createModel input => cases hread
  | updateModel input => cases hread
  | deleteModel name datasource => cases hread
  | createDatasource input => cases hread
  | updateDatasource input => cases hread
  | deleteDatasource name => cases hread
  | _ => exact hsame

/-- The tools that mutate are the ones named so. -/
theorem mem_mutatingTools (h : tool.Known) : tool.name ∈ mutatingTools ↔ tool.mutating = true := by
  cases tool with
  | unparsed tool reason => exact h.elim
  | unknown tool => exact h.elim
  | _ =>
    simp only [ToolCall.name, ToolCall.mutating]
    decide +kernel

/-- A call that names no tool, or whose arguments do not parse, is answered with an error. -/
theorem dispatch_unknown (h : ¬tool.Known) :
    ∃ e, catalog.dispatch b std f host v ctx id now tool = (Res.fail e, v) := by
  cases tool with
  | unparsed tool reason => exact ⟨_, rfl⟩
  | unknown tool => exact ⟨_, rfl⟩
  | _ => exact absurd trivial h

/-- What a gated call comes to: a refusal, or a tool that does not mutate. -/
theorem call_gated (hgate : ctx.isAdmin = false ∨ catalog.allowMutations = false) :
    (∃ e, catalog.call b std f host v ctx id now tool = (Res.fail e, v)) ∨
      tool.mutating = false ∧ tool.name ∉ mutatingTools ∧
        catalog.call b std f host v ctx id now tool = catalog.dispatch b std f host v ctx id now tool := by
  by_cases hknown : tool.Known
  · cases hmutating : tool.mutating with
    | true =>
      left
      rcases hgate with hadmin | hallow
      · cases hallow : catalog.allowMutations with
        | true =>
          rw [call_open b std f host v ctx id now hknown (.inl hallow), dispatch_not_admin hadmin hmutating]
          exact ⟨_, rfl⟩
        | false => exact ⟨_, call_closed b std f host v ctx id now hknown hallow hmutating⟩
      · exact ⟨_, call_closed b std f host v ctx id now hknown hallow hmutating⟩
    | false =>
      refine .inr ⟨rfl, ?_, call_open b std f host v ctx id now hknown (.inr hmutating)⟩
      rw [mem_mutatingTools hknown, hmutating]
      decide
  · left
    unfold call
    split
    · exact ⟨_, rfl⟩
    · split
      · exact ⟨_, rfl⟩
      · exact dispatch_unknown hknown

end ToolCatalog

/-! ## Runs -/

namespace ToolRequest

variable {σ : Type} {parser : ArgsParser} {b : Backend σ} {std : RustStd} {f : F32}

/-- **A gated call is a frame.** -/
theorem call_frame (hb : b.MemoriesApart) {r : ToolRequest} (hgate : r.Gated) (v : Server σ) :
    Server.SameLayer b v (r.call parser b std f v).2 ∧
      (r.tool ∈ mutatingTools → ∃ e, (r.call parser b std f v).1 = Res.fail e) := by
  unfold ToolRequest.call
  generalize hargs : (match r.args with
    | .null => Value.object []
    | args => args) = args
  have hname := parser.name_parse r.tool args
  obtain ⟨e, hrefused⟩ | ⟨hread, hnot, hdispatch⟩ := @ToolCatalog.call_gated _ b std f r.host r.catalog
    { v with embedCache := r.embedCache } r.ctx r.id r.now (parser.parse r.tool args) hgate
  · rw [hrefused]
    exact ⟨⟨.refl v.store, rfl⟩, fun _ => ⟨e, rfl⟩⟩
  · rw [hdispatch]
    refine ⟨?_, fun hmutating => absurd hmutating (hname ▸ hnot)⟩
    have hlayer := @ToolCatalog.dispatch_read _ b std f r.host r.catalog { v with embedCache := r.embedCache } r.ctx r.id
      r.now (parser.parse r.tool args) hb hread
    exact ⟨hlayer.store, hlayer.generator⟩

/-- **The mutation gate.** -/
theorem calls_frame (parser : ArgsParser) {b : Backend σ} (std : RustStd) (f : F32) (hb : b.MemoriesApart)
    (requests : List ToolRequest) (hgate : ∀ r ∈ requests, r.Gated) (v : Server σ) :
    Server.SameLayer b v (calls parser b std f requests v).2 ∧
      ∀ p ∈ (calls parser b std f requests v).1, p.1.tool ∈ mutatingTools → ∃ e, p.2 = Res.fail e := by
  induction requests generalizing v with
  | nil => exact ⟨⟨.refl v.store, rfl⟩, by simp [calls]⟩
  | cons r requests ih =>
    obtain ⟨hlayer, herror⟩ := @call_frame _ parser b std f hb r (hgate r List.mem_cons_self) v
    obtain ⟨hrest, herrors⟩ := ih (fun r' hr' => hgate r' (List.mem_cons_of_mem _ hr')) (r.call parser b std f v).2
    refine ⟨⟨hlayer.store.trans hrest.store, hrest.generator.trans hlayer.generator⟩, ?_⟩
    intro p hp hmutating
    rcases List.mem_cons.1 hp with rfl | hp
    · exact herror hmutating
    · exact herrors p hp hmutating

end ToolRequest

/-! ## Deletions at a gate -/

namespace GatedDeletions

/-- The arguments of `delete_model` and `remember`; every other tool takes none here. -/
def parser : ArgsParser where
  parse tool args :=
    match args with
    | .object [("name", .string name)] =>
      if tool = "delete_model" then .deleteModel name none else .unparsed tool "unknown field"
    | .object [("text", .string text)] =>
      if tool = "remember" then .remember { text } else .unparsed tool "unknown field"
    | _ => .unparsed tool "invalid type"
  name_parse tool args := by
    split
    · split_ifs with h
      · exact h.symm
      · rfl
    · split_ifs with h
      · exact h.symm
      · rfl
    · rfl

def std : RustStd := ⟨fun _ => false, id, List.Perm.refl, fun _ => 0, fun _ => none, id⟩

def host : Host := ⟨fun _ _ => .rows [], true⟩

/-- Somebody deletes on an open catalog, an administrator behind the gate, and between them
something is remembered. -/
def requests : List ToolRequest :=
  let payroll := Value.object [("name", .string "payroll")]
  [{ catalog := { allowMutations := true }, ctx := {}, host, tool := "delete_model", args := payroll },
    { catalog := {}, ctx := { userId := some "ana" }, host, id := "m1", tool := "remember",
      args := .object [("text", .string "The merger closes in May")] },
    { catalog := {}, ctx := { isAdmin := true }, host, tool := "delete_model", args := payroll }]

def server : Server YamlStorage where
  store := { models := .ofList [("payroll", { name := "payroll", datasource := "hr" })] }
  sqlEngine := .new .postgres ⟨fun _ => false, fun _ => false⟩

end GatedDeletions

open GatedDeletions in
theorem ToolRequest.calls_frame_deletions :
    (∀ r ∈ requests, r.Gated) ∧
      SameCatalogue (YamlStorage.backend Str.toAsciiLowercase) server.store
        (calls parser (YamlStorage.backend Str.toAsciiLowercase) std ⟨fun r => r, fun _ => "0.5", fun _ => 1 / 2⟩ requests
          server).2.store :=
  have hgated : ∀ r ∈ requests, r.Gated := by
    simp [requests, Gated]
  ⟨hgated, (calls_frame parser std ⟨fun r => r, fun _ => "0.5", fun _ => 1 / 2⟩ (YamlStorage.memoriesApart Str.toAsciiLowercase)
    requests hgated server).1.store⟩

end GraphNight
