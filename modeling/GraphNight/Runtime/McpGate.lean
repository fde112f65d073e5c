import GraphNight.Runtime.McpReplies

/-!
# A session behind the mutation gate

Where the operator has not opened the gate, no line a client sends, whoever it is, changes the
models, the datasources or the engine's registry. The tools that would are not named in any
answer, and a call of one is answered as that of a tool there is not.
-/

namespace GraphNight

namespace Mcp

/-- The names in a list of tools. -/
def listedTools (v : Value) : List String := ((v.field "tools").asArray.getD []).filterMap fun d => (d.field "name").asStr

/-- The tools a response lists, as `tools/list` does or the tool of that name. -/
def JsonRpcResponse.listed (r : JsonRpcResponse) : List String :=
  let result := r.result.getD .null
  listedTools result ++ listedTools (result.field "structuredContent")

/-- What a closed gate withholds from an answer: the name of a tool that mutates, and its effect. -/
def Withheld (fromStr : JsonReader) (p : Arrival × Res Empty (Option JsonRpcResponse)) : Prop :=
  (∀ r, p.2 = .ok (some r) → ∀ tool ∈ mutatingTools, tool ∉ r.listed) ∧
    ∀ tool ∈ mutatingTools, calledTool fromStr p.1.line = some tool → ∃ r, p.2 = .ok (some r) ∧ r.failure = some "UNKNOWN_TOOL"

theorem listedTools_descriptors (t : AnswerTexts) (tools : List (String × String)) :
    listedTools (.object [("tools", .array (tools.map (toolDescriptor t)))]) = tools.map (·.1) := by
  simp only [listedTools, Value.field, List.lookup_cons, Value.asArray, beq_self_eq_true, Option.getD_some, List.filterMap_map]
  induction tools with
  | nil => rfl
  | cons tool tools ih =>
    rw [List.filterMap_cons, List.map_cons, ih]
    rfl

/-- The answer of a tool lists tools where it is that of `tools_list`. -/
theorem listedTools_output {t : AnswerTexts} {elapsed : Nat} {output : ToolOutput} (h : ∀ ds, output ≠ .tools ds) :
    listedTools (output.toJson t elapsed) = [] := by
  cases output with
  | tools descriptors => exact absurd rfl (h descriptors)
  | _ => rfl

theorem listedTools_error (e : ToolError) : listedTools e.toJson = [] := by
  cases e with
  | mk code message hint => cases hint <;> rfl

theorem listed_toolResult (id answer : Value) (isError : Bool) :
    (JsonRpcResponse.ok id (McpServer.toolResult answer isError)).listed = listedTools answer := rfl

/-- No tool that mutates is in a closed catalog. -/
theorem not_mem_specs {catalog : ToolCatalog} (hclosed : catalog.allowMutations = false) {tool : String} (h : tool ∈ mutatingTools) :
    tool ∉ catalog.specs.map (·.name) := by
  have hspecs : catalog.specs = builtinTools.filter fun spec => !spec.mutating := by simp [ToolCatalog.specs, hclosed]
  have hall : ∀ name ∈ mutatingTools, decide (name ∉ (builtinTools.filter fun spec => !spec.mutating).map (·.name)) = true :=
    List.all_eq_true.1 (by decide +kernel)
  rw [hspecs]
  exact of_decide_eq_true (hall tool h)

section

variable {σ : Type} {server : McpServer} {lib : Libraries} {b : Backend σ} {v : Server σ} {a : Arrival}

/-- A tool that is not in the catalog is unknown. -/
theorem call_unknown {catalog : ToolCatalog} {std : RustStd} {f : F32} {host : Host} {ctx : CallContext} {id : String} {now : Int}
    {tool : ToolCall} (h : tool.name ∉ catalog.specs.map (·.name)) :
    catalog.call b std f host v ctx id now tool = (Res.fail (ToolError.ofService (.unknownTool tool.name)), v) := by
  have hget : catalog.get tool.name = none := by
    unfold ToolCatalog.get
    cases hfind : builtinTools.find? (·.name == tool.name) with
    | none => rfl
    | some spec =>
      have hname : spec.name = tool.name := by simpa using List.find?_some hfind
      rw [Option.filter_eq_none_iff]
      intro spec' hspec' hvisible
      cases hspec'
      apply h
      rw [← hname]
      exact List.mem_map_of_mem (List.mem_filter.2 ⟨List.mem_of_find?_eq_some hfind, hvisible⟩)
  rw [ToolCatalog.call, hget]

theorem request_unknown {r : ToolRequest} (h : r.tool ∉ r.catalog.specs.map (·.name)) :
    (r.call lib.parser b lib.std lib.texts.f32 v).1 = Res.fail (ToolError.ofService (.unknownTool r.tool)) := by
  rw [ToolRequest.call, call_unknown (by rwa [lib.parser.name_parse]), lib.parser.name_parse]

/-- A call of a tool shows no more than the gate lets through. -/
theorem callTool_withheld {id : Value} {name : String} {arguments : Value} (hclosed : server.catalog.allowMutations = false)
    (htool : calledTool lib.fromStr a.line = some name) :
    Withheld lib.fromStr (a, (server.callTool lib b v a id name arguments).1.map some) := by
  unfold McpServer.callTool
  generalize hcall : (server.toolRequest v a name arguments).call lib.parser b lib.std lib.texts.f32 v = called
  refine ⟨?_, ?_⟩
  · intro r hr tool hmutating
    obtain ⟨answer, v'⟩ := called
    cases answer with
    | error fault =>
      cases fault with
      | panic => cases hr
      | err e =>
        cases hr
        rw [listed_toolResult, listedTools_error]
        exact List.not_mem_nil
    | ok output =>
      cases hr
      rw [listed_toolResult]
      have hdispatch := ToolCatalog.call_eq_ok (congrArg Prod.fst hcall)
      cases output with
      | tools descriptors =>
        have hdescriptors : descriptors = server.catalog.specs.map fun spec => (spec.name, spec.description) := by
          generalize lib.parser.parse _ _ = parsed at hdispatch
          have hgives := ToolCatalog.dispatch_gives hdispatch
          cases parsed with
          | toolsList =>
            cases hdispatch
            rfl
          | _ => exact hgives.elim
        rw [ToolOutput.toJson, listedTools_descriptors, hdescriptors, List.map_map]
        exact not_mem_specs hclosed hmutating
      | _ =>
        rw [listedTools_output (by simp)]
        exact List.not_mem_nil
  · intro tool hmutating hcalled
    obtain rfl : name = tool := Option.some.inj (htool.symm.trans hcalled)
    have hunknown : called.1 = Res.fail (ToolError.ofService (.unknownTool name)) := by
      rw [← hcall]
      exact request_unknown (not_mem_specs hclosed hmutating)
    obtain ⟨answer, v'⟩ := called
    subst hunknown
    exact ⟨_, rfl, failure_toolResult_error id _⟩

/-- A call of a tool behind the gate is a frame. -/
theorem callTool_frame {id : Value} {name : String} {arguments : Value} (hb : b.MemoriesApart)
    (hclosed : server.catalog.allowMutations = false) : Server.SameLayer b v (server.callTool lib b v a id name arguments).2 := by
  have hframe := (@ToolRequest.call_frame σ lib.parser b lib.std lib.texts.f32 hb (server.toolRequest v a name arguments)
    (.inr hclosed) v).1
  unfold McpServer.callTool
  generalize (server.toolRequest v a name arguments).call lib.parser b lib.std lib.texts.f32 v = called at hframe
  obtain ⟨answer, v'⟩ := called
  cases answer with
  | ok output => exact hframe
  | error fault =>
    cases fault with
    | panic => exact hframe
    | err e => exact ⟨hframe.store, hframe.generator⟩

/-- One line behind the gate. -/
theorem respond_closed (hb : b.MemoriesApart) (hclosed : server.catalog.allowMutations = false) :
    Server.SameLayer b v (server.respond lib b v a).2 ∧ Withheld lib.fromStr (a, (server.respond lib b v a).1) := by
  have hsame : Server.SameLayer b v v := ⟨.refl v.store, rfl⟩
  -- a line that calls no tool, and lists none that mutates
  have hquiet {answer : Res Empty (Option JsonRpcResponse)} (hcalled : calledTool lib.fromStr a.line = none)
      (hlisted : ∀ r, answer = .ok (some r) → ∀ tool ∈ mutatingTools, tool ∉ r.listed) :
      Withheld lib.fromStr (a, answer) := by
    refine ⟨hlisted, ?_⟩
    intro tool _ htool
    rw [hcalled] at htool
    cases htool
  have hnone {r : JsonRpcResponse} (h : r.listed = []) :
      ∀ r', (Except.ok (some r) : Res Empty (Option JsonRpcResponse)) = .ok (some r') → ∀ tool ∈ mutatingTools, tool ∉ r'.listed := by
    intro r' hr' tool _
    cases hr'
    rw [h]
    exact List.not_mem_nil
  unfold McpServer.respond
  cases hparse : parseRequest lib.fromStr a.line with
  | error e => exact ⟨hsame, hquiet (by simp [calledTool, hparse]) (hnone rfl)⟩
  | ok request =>
    cases hid : request.id with
    | none =>
      simp only [hid]
      exact ⟨hsame, hquiet (by simp [calledTool, hparse, hid]) (by simp)⟩
    | some id =>
      have hother (h : request.method ≠ "tools/call") : calledTool lib.fromStr a.line = none := by
        simp [calledTool, hparse, h]
      simp only [McpServer.handle, hid, Option.getD_some]
      split
      · exact ⟨hsame, hquiet (hother (by simp [*])) (hnone rfl)⟩
      · exact ⟨hsame, hquiet (hother (by simp [*])) (hnone rfl)⟩
      · refine ⟨hsame, hquiet (hother (by simp [*])) ?_⟩
        intro r hr tool hmutating
        cases hr
        have hlisted : (JsonRpcResponse.ok id (.object [("tools", .array (server.descriptors lib.texts))])).listed =
            server.catalog.specs.map (·.name) := by
          have hlist := listedTools_descriptors lib.texts (server.catalog.specs.map fun spec => (spec.name, spec.description))
          rw [List.map_map, List.map_map] at hlist
          simp only [JsonRpcResponse.listed, JsonRpcResponse.ok, Option.getD_some]
          exact (congrArg₂ (· ++ ·) hlist rfl).trans (List.append_nil _)
        rw [hlisted]
        exact not_mem_specs hclosed hmutating
      · rename_i hmethod
        split_ifs with hname
        · refine ⟨hsame, ⟨hnone rfl, ?_⟩⟩
          intro tool hmutating htool
          have hempty : (request.params.field "name").asStr = some tool := by
            simpa [calledTool, hparse, hid, hmethod] using htool
          simp only [hempty, Option.getD_some] at hname
          subst hname
          exact absurd hmutating (by decide +kernel)
        · refine ⟨callTool_frame hb hclosed, callTool_withheld hclosed ?_⟩
          have hsome : (request.params.field "name").asStr ≠ none := by
            intro hnone
            simp [hnone] at hname
          obtain ⟨name, hname⟩ := Option.ne_none_iff_exists'.1 hsome
          simp [calledTool, hparse, hid, hmethod, hname]
      · exact ⟨hsame, hquiet (hother (by simp [*])) (hnone rfl)⟩
      · exact ⟨hsame, hquiet (hother (by simp [*])) (hnone rfl)⟩
      · rename_i hmethod _ _
        exact ⟨hsame, hquiet (hother hmethod) (hnone rfl)⟩

/-- **A session behind the gate**, by induction on its lines. -/
theorem session_closed (server : McpServer) (lib : Libraries) (hb : b.MemoriesApart) (hclosed : server.catalog.allowMutations = false)
    (arrivals : List Arrival) (v : Server σ) :
    Server.SameLayer b v (server.session lib b arrivals v).2 ∧ ∀ p ∈ (server.session lib b arrivals v).1, Withheld lib.fromStr p := by
  induction arrivals generalizing v with
  | nil => exact ⟨⟨.refl v.store, rfl⟩, by simp [McpServer.session]⟩
  | cons a arrivals ih =>
    obtain ⟨hlayer, hwithheld⟩ := @respond_closed σ server lib b v a hb hclosed
    obtain ⟨hrest, hall⟩ := ih (server.respond lib b v a).2
    refine ⟨⟨hlayer.store.trans hrest.store, hrest.generator.trans hlayer.generator⟩, ?_⟩
    intro p hp
    rcases List.mem_cons.1 hp with rfl | hp
    · exact hwithheld
    · exact hall p hp

end

open PingSession in
/-- An administrator who calls for a deletion is told of no such tool, and the model is still there. -/
theorem session_closed_deletion :
    SameCatalogue (YamlStorage.backend Str.toAsciiLowercase) GatedDeletions.server.store
        (McpServer.session ⟨{}, "graphnight", "2.0.0"⟩ libraries (YamlStorage.backend Str.toAsciiLowercase) arrivals
          GatedDeletions.server).2.store ∧
      calledTool fromStr deletion = some "delete_model" :=
  ⟨(session_closed ⟨{}, "graphnight", "2.0.0"⟩ libraries (YamlStorage.memoriesApart Str.toAsciiLowercase) rfl arrivals
    GatedDeletions.server).1.store, by decide +kernel⟩

end Mcp

end GraphNight
