import GraphNight.Runtime.McpAudit

/-!
# What an MCP session replies

Every line but a notification is answered, under its own id, on one line that reads back as
one JSON value. Whether it is a JSON-RPC error is settled by the line alone: a tool that fails
is not one.
-/

namespace GraphNight

/-! ## Answers of well-formed values -/

/-- Every value of a row is one. -/
def Row.WellFormed (row : Row) : Prop := ∀ e ∈ row.items, e.2.WellFormed

/-- A database that answers with JSON values. -/
def Host.WellFormed (host : Host) : Prop := ∀ ds sql rows, host.executeSqlx ds sql = .rows rows → ∀ row ∈ rows, Row.WellFormed row

def QueryOutcome.WellFormed (out : QueryOutcome) : Prop := ∀ row ∈ out.data, row.WellFormed

namespace QueryService

theorem maskColumn_wellFormed {mask : String × MaskFn} {row row' : Row} (h : maskColumn row mask = .ok row')
    (hrow : Row.WellFormed row) : Row.WellFormed row' := by
  unfold maskColumn at h
  split at h
  · split at h
    · cases h
      intro e he
      rcases KeyedList.mem_insert he with rfl | he
      · exact .string _
      · exact hrow e he
    · cases h
  · cases h
    exact hrow

/-- Masked values are values. -/
theorem maskRow_wellFormed {masks : List (String × MaskFn)} {row row' : Row} (h : maskRow masks row = .ok row')
    (hrow : Row.WellFormed row) : Row.WellFormed row' := by
  induction masks generalizing row with
  | nil =>
    cases h
    exact hrow
  | cons mask masks ih =>
    rw [maskRow, List.foldlM_cons] at h
    obtain ⟨row₁, hfirst, hrest⟩ := Res.bind_eq_ok.1 h
    exact ih hrest (maskColumn_wellFormed hfirst hrow)

theorem execute_wellFormed {s : QueryService} {host : Host} {ctx : CallContext} {query : Query} {options : ExecuteOptions}
    {out : QueryOutcome} (hhost : host.WellFormed) (h : (s.execute host ctx query options).1 = .ok out) : out.WellFormed := by
  obtain ⟨gov, sql, -, -, ⟨-, rfl, -⟩ | ⟨-, ds, -, hout, -⟩⟩ := execute_eq_ok h
  · exact fun row hrow => by cases hrow
  · obtain ⟨rows, masked, hreply, hmasked, hdata, -⟩ := outcome_eq_ok hout
    intro row hrow
    rw [hdata] at hrow
    obtain ⟨m, hm, rfl⟩ := List.mem_map.1 hrow
    obtain ⟨raw, hraw, hmask⟩ := Res.mem_of_mapM hmasked m hm
    exact .object (maskRow_wellFormed hmask (hhost ds sql rows hreply raw hraw))

end QueryService

/-- The outcomes of the stages, by induction on the stages still to be run. -/
theorem MultiStage.run_wellFormed {std : RustStd} {host : Host} {ctx : CallContext} {stages : List (String × Query)}
    {position : KeyedList (String × Nat) Prod.fst} {options : ExecuteOptions} (hhost : host.WellFormed) {order : List String}
    {byName : Outcomes} {out outs : List (Option QueryOutcome)} {s : QueryService}
    (hout : ∀ o, some o ∈ out → o.WellFormed)
    (h : (run std host ctx stages position options order byName out s).1 = .ok outs) : ∀ o, some o ∈ outs → o.WellFormed := by
  induction order generalizing byName out s with
  | nil =>
    rw [run] at h
    cases h
    exact hout
  | cons name order ih =>
    rw [run] at h
    cases hprepare : prepare std stages byName name with
    | error e => simp [hprepare] at h
    | ok query =>
      simp only [hprepare] at h
      cases hexec : (s.execute host ctx query options).1 with
      | error e => simp [hexec] at h
      | ok outcome =>
        simp only [hexec] at h
        cases hplace : position.get name with
        | none => simp [hplace] at h
        | some place =>
          simp only [hplace] at h
          refine ih ?_ h
          intro o ho
          rcases List.mem_or_eq_of_mem_set ho with ho | ho
          · exact hout o ho
          · cases ho
            exact QueryService.execute_wellFormed hhost hexec

theorem QueryService.executeMultiStage_wellFormed {std : RustStd} {s : QueryService} {host : Host} {ctx : CallContext}
    {stages : List (String × Query)} {dryRun : Bool} {outs : List QueryOutcome} (hhost : host.WellFormed)
    (h : (s.executeMultiStage std host ctx stages dryRun).1 = .ok outs) : ∀ o ∈ outs, o.WellFormed := by
  unfold executeMultiStage at h
  cases hplan : MultiStage.plan std stages with
  | error e => simp [hplan] at h
  | ok planned =>
    simp only [hplan] at h
    cases hrun : (MultiStage.run std host ctx stages planned.2 (if dryRun then .compile else .executing) planned.1 .empty
        (stages.map fun _ => none) s).1 with
    | error e =>
      simp only [hrun, Except.map] at h
      cases h
    | ok filled =>
      simp only [hrun, Except.map, Except.ok.injEq] at h
      subst h
      intro o ho
      obtain ⟨o', ho', heq⟩ := List.mem_filterMap.1 ho
      rw [id_eq] at heq
      subst heq
      refine MultiStage.run_wellFormed hhost ?_ hrun o ho'
      intro o hnone
      simp at hnone

/-- The values a tool hands through are values. -/
def ToolOutput.WellFormed : ToolOutput → Prop
  | .rows _ data .. => ∀ row ∈ data, row.WellFormed
  | .stages outcomes _ => ∀ s ∈ outcomes, ∀ row ∈ s.rows, row.WellFormed
  | .schema model => ∀ v ∈ model.exampleQueries, v.WellFormed
  | _ => True

/-- The kind of answer each tool gives. -/
def ToolCall.Gives : ToolCall → ToolOutput → Prop
  | .getCapabilities, .capabilities _ => True
  | .toolsList, .tools _ => True
  | .listModels _, .models _ => True
  | .searchModels _, .results .. => True
  | .getModel _, .schema _ => True
  | .validateQuery _, .valid .. => True
  | .validateQuery _, .invalid _ => True
  | .runQuery _, .rows .. => True
  | .multiStageQuery _, .stages .. => True
  | .recallMemories _, .memories _ => True
  | .remember _, .remembered _ => True
  | .createModel _, .created _ => True
  | .updateModel _, .updated _ => True
  | .deleteModel .., .deleted _ => True
  | .createDatasource _, .createdDatasource .. => True
  | .updateDatasource _, .updated _ => True
  | .deleteDatasource _, .deleted _ => True
  | _, _ => False

theorem Suggest.texts_wellFormed (l : List String) : (texts l).WellFormed := by
  refine .array fun v hv => ?_
  obtain ⟨s, -, rfl⟩ := List.mem_map.1 hv
  exact .string s

theorem Suggest.exampleQueries_wellFormed (model : Model) : ∀ v ∈ exampleQueries model, v.WellFormed := by
  have htexts := texts_wellFormed
  intro v hv
  simp only [exampleQueries, List.mem_append, Option.mem_toList, Option.map_eq_some_iff] at hv
  rcases hv with ((⟨m, -, rfl⟩ | ⟨m, -, rfl⟩) | ⟨m, -, rfl⟩) | ⟨m, -, rfl⟩
  · exact Json.wellFormed_fields ⟨.string _, Json.wellFormed_fields ⟨htexts _, .string _⟩⟩
  · exact Json.wellFormed_fields ⟨.string _, Json.wellFormed_fields ⟨htexts _, htexts _, .string _, htexts _⟩⟩
  · exact Json.wellFormed_fields ⟨.string _, Json.wellFormed_fields ⟨htexts _, .string _, htexts _, htexts _⟩⟩
  · exact Json.wellFormed_fields ⟨.string _, Json.wellFormed_fields ⟨htexts _, htexts _, htexts _, .string _⟩⟩

namespace ToolCatalog

variable {σ : Type} {b : Backend σ} {std : RustStd} {f : F32} {host : Host} {catalog : ToolCatalog} {v : Server σ}
  {ctx : CallContext} {id : String} {now : Int} {tool : ToolCall} {output : ToolOutput}

/-- What holds of an answer, whichever value it is made of. -/
theorem map_holds {ε α : Type} {r : Res ε α} {g : α → ToolOutput} {P : ToolOutput → Prop} (h : r.map g = .ok output)
    (hg : ∀ a, r = .ok a → P (g a)) : P output := by
  cases r with
  | error e => cases h
  | ok a =>
    cases h
    exact hg a rfl

theorem createModel_gives {input : CreateModelInput} (h : (createModel b v ctx input).1 = .ok output) : (ToolCall.createModel input).Gives output := by
  unfold createModel at h
  repeat' split at h
  · cases h
  · cases h
  · cases h
  · exact map_holds h fun _ _ => trivial

theorem updateModel_gives {input : UpdateModelInput} (h : (updateModel b v ctx input).1 = .ok output) : (ToolCall.updateModel input).Gives output := by
  unfold updateModel at h
  repeat' split at h
  · cases h
  · cases h
  · cases h
  · exact map_holds h fun _ _ => trivial

theorem deleteModel_gives {name : String} {datasource : Option String}
    (h : (deleteModel b v ctx name datasource).1 = .ok output) : (ToolCall.deleteModel name datasource).Gives output := by
  unfold deleteModel at h
  repeat' split at h
  · cases h
  · cases h
  · cases h
  · exact map_holds h fun _ _ => trivial

theorem createDatasource_gives {input : CreateDatasourceInput} (h : (createDatasource b v ctx input).1 = .ok output) :
    (ToolCall.createDatasource input).Gives output := by
  unfold createDatasource at h
  split at h
  · cases h
  · exact map_holds h fun _ _ => trivial

theorem updateDatasource_gives {input : UpdateDatasourceInput} (h : (updateDatasource b v ctx input).1 = .ok output) :
    (ToolCall.updateDatasource input).Gives output := by
  unfold updateDatasource at h
  repeat' split at h
  · cases h
  · cases h
  · exact map_holds h fun _ _ => trivial

theorem deleteDatasource_gives {name : String} (h : (deleteDatasource b v ctx name).1 = .ok output) : (ToolCall.deleteDatasource name).Gives output := by
  unfold deleteDatasource at h
  repeat' split at h
  · cases h
  · cases h
  · cases h
  · cases h
    trivial

theorem validateQuery_gives {query : ToolQuery} (h : (validateQuery b std host v ctx query).1 = .ok output) : (ToolCall.validateQuery query).Gives output := by
  unfold validateQuery at h
  repeat' split at h
  all_goals cases h
  all_goals trivial

theorem runQuery_wellFormed {input : RunQueryInput} (hhost : host.WellFormed)
    (h : (runQuery b std host catalog v ctx input).1 = .ok output) : output.WellFormed := by
  unfold runQuery at h
  split at h
  · cases h
  · refine map_holds h fun out hout => ?_
    exact QueryService.execute_wellFormed hhost (Res.mapErr_eq_ok.1 hout)

theorem multiStageQuery_wellFormed {input : MultiStageInput} (hhost : host.WellFormed)
    (h : (multiStageQuery b std host v ctx input).1 = .ok output) : output.WellFormed := by
  unfold multiStageQuery at h
  split at h
  · cases h
  · refine map_holds h fun outs houts => ?_
    intro stage hstage row hrow
    obtain ⟨p, hp, rfl⟩ := List.mem_map.1 hstage
    have hmem := (List.mem_zipIdx_iff_getElem?.1 hp)
    exact QueryService.executeMultiStage_wellFormed hhost (Res.mapErr_eq_ok.1 houts) p.1 (List.mem_of_getElem? hmem) row hrow

/-- **Each tool gives answers of its own kind.** -/
theorem dispatch_gives (h : (catalog.dispatch b std f host v ctx id now tool).1 = .ok output) : tool.Gives output := by
  cases tool with
  | getCapabilities =>
    cases h
    trivial
  | toolsList =>
    cases h
    trivial
  | validateQuery query => exact validateQuery_gives h
  | runQuery input =>
    simp only [dispatch, runQuery] at h
    split at h
    · cases h
    · exact map_holds h fun _ _ => trivial
  | multiStageQuery input =>
    simp only [dispatch, multiStageQuery] at h
    split at h
    · cases h
    · exact map_holds h fun _ _ => trivial
  | createModel input => exact createModel_gives h
  | updateModel input => exact updateModel_gives h
  | deleteModel name datasource => exact deleteModel_gives h
  | createDatasource input => exact createDatasource_gives h
  | updateDatasource input => exact updateDatasource_gives h
  | deleteDatasource name => exact deleteDatasource_gives h
  | unparsed tool reason => cases h
  | unknown tool => cases h
  | _ => exact map_holds h fun _ _ => trivial

theorem dispatch_wellFormed (hhost : host.WellFormed) (h : (catalog.dispatch b std f host v ctx id now tool).1 = .ok output) :
    output.WellFormed := by
  cases tool with
  | getModel input => exact map_holds h fun m _ => Suggest.exampleQueries_wellFormed m.toModel
  | runQuery input => exact runQuery_wellFormed hhost h
  | multiStageQuery input => exact multiStageQuery_wellFormed hhost h
  | _ =>
    have hgives := dispatch_gives h
    cases output <;> trivial

theorem call_eq_ok (h : (catalog.call b std f host v ctx id now tool).1 = .ok output) :
    (catalog.dispatch b std f host v ctx id now tool).1 = .ok output := by
  unfold call at h
  split at h
  · cases h
  · split_ifs at h
    · cases h
    · exact h

end ToolCatalog

/-! ## The JSON of the answers -/

/-- The libraries write values: every schema is one, and an `f32` is written as a number. -/
structure AnswerTexts.Lawful (t : AnswerTexts) : Prop where
  inputSchema : ∀ tool, (t.inputSchema tool).WellFormed
  f32 : ∀ x, (Value.number (t.f32.write x)).WellFormed

namespace Json

theorem wellFormed_count (n : Nat) : (count n).WellFormed := wellFormed_optionalCount (some n)

theorem wellFormed_texts (l : List String) : (texts l).WellFormed := Suggest.texts_wellFormed l

theorem wellFormed_optionalTexts (o : Option (List String)) : (optionalTexts o).WellFormed :=
  wellFormed_optional wellFormed_texts o

theorem wellFormed_shownSql (o : Option GeneratedSql) : (shownSql o).WellFormed := by
  unfold shownSql
  exact wellFormed_optional (fun sql => .string sql.display) o

end Json

open Json

theorem ToolError.toJson_wellFormed (e : ToolError) : e.toJson.WellFormed := by
  obtain ⟨code, message, hint⟩ := e
  cases hint with
  | none => exact wellFormed_fields ⟨.string _, .string _⟩
  | some hint => exact wellFormed_fields ⟨.string _, .string _, .string _⟩

theorem Capabilities.toJson_wellFormed (c : Capabilities) : c.toJson.WellFormed :=
  wellFormed_fields ⟨wellFormed_texts _, wellFormed_texts _, wellFormed_texts _,
    wellFormed_fields ⟨wellFormed_optionalTexts _, wellFormed_optionalTexts _, wellFormed_count _, wellFormed_count _, .bool _⟩,
    wellFormed_fields ⟨wellFormed_count _, wellFormed_optionalCount _, wellFormed_optionalCount _⟩,
    wellFormed_fields ⟨.string _, wellFormed_texts _⟩, .bool _, wellFormed_fields ⟨.string _, .string _, .string _⟩,
    wellFormed_texts _, .string _, wellFormed_texts _, wellFormed_texts _, .string _⟩

theorem ModelSchema.toJson_wellFormed {m : ModelSchema} (h : ∀ v ∈ m.exampleQueries, v.WellFormed) : m.toJson.WellFormed :=
  wellFormed_fields ⟨.string _, wellFormed_optionalText _,
    wellFormed_map fun _ _ => wellFormed_fields ⟨wellFormed_optionalText _, .string _⟩, .array h,
    wellFormed_map fun _ _ => wellFormed_fields ⟨.string _, .string _, .string _, .string _⟩,
    wellFormed_map fun _ _ => wellFormed_fields ⟨.string _, wellFormed_optionalText _, .string _, wellFormed_optionalText _⟩,
    .string _, .string _, wellFormed_map fun _ _ => wellFormed_fields ⟨.string _, .string _, wellFormed_optionalText _⟩⟩

theorem StageRows.toJson_wellFormed {s : StageRows} (h : ∀ row ∈ s.rows, row.WellFormed) : s.toJson.WellFormed :=
  wellFormed_fields ⟨wellFormed_texts _, .string _, wellFormed_count _, .array h, wellFormed_shownSql _, wellFormed_count _⟩

theorem MemoryRecord.toJson_wellFormed {t : AnswerTexts} (ht : t.Lawful) (m : MemoryRecord) : (m.toJson t).WellFormed :=
  wellFormed_fields ⟨.string _, wellFormed_optionalText _, .string _, ht.f32 _, .string _, wellFormed_texts _, .string _, .string _,
    .string _⟩

theorem toolDescriptor_wellFormed {t : AnswerTexts} (ht : t.Lawful) (tool : String × String) : (toolDescriptor t tool).WellFormed :=
  wellFormed_fields ⟨.string _, ht.inputSchema _, .string _⟩

/-- A count of milliseconds is written as a number. -/
theorem wellFormed_elapsed (n : Nat) : (Value.number (toString n ++ ".0")).WellFormed := by
  refine .number ?_ ?_
  · intro h
    simpa using congrArg String.toList h
  · intro c hc
    rw [String.toList_append] at hc
    rcases List.mem_append.1 hc with hc | hc
    · exact isNumberChar_of_toString hc
    · exact List.all_eq_true.1 (show ".0".toList.all isNumberChar = true by decide) c hc

/-- **The JSON of an answer is well formed.** -/
theorem ToolOutput.toJson_wellFormed {t : AnswerTexts} (ht : t.Lawful) (elapsed : Nat) {output : ToolOutput} (h : output.WellFormed) :
    (output.toJson t elapsed).WellFormed := by
  cases output with
  | capabilities c => exact c.toJson_wellFormed
  | tools descriptors => exact wellFormed_fields (wellFormed_map fun d _ => toolDescriptor_wellFormed ht d)
  | models found =>
    exact wellFormed_fields ⟨wellFormed_map fun m _ => wellFormed_fields
      ⟨.string _, wellFormed_optionalText _, wellFormed_count _, wellFormed_count _, .string _⟩, .string _, wellFormed_count _⟩
  | results hits retrieval =>
    exact wellFormed_fields ⟨wellFormed_count _, .string _, wellFormed_map fun m _ => wellFormed_fields
      ⟨.string _, wellFormed_texts _, .string _, .string _, ht.f32 _, .string _⟩, .string _⟩
  | schema model => exact ModelSchema.toJson_wellFormed h
  | valid sql dialect => exact wellFormed_fields ⟨.string _, .string _, .string _, .bool _⟩
  | invalid error => exact wellFormed_fields ⟨error.toJson_wellFormed, .bool _⟩
  | rows columns data rowCount truncated nextOffset dialect sql =>
    exact wellFormed_fields ⟨wellFormed_texts _, .string _, wellFormed_elapsed _, wellFormed_optionalCount _, wellFormed_count _,
      .array h, wellFormed_shownSql _, .bool _⟩
  | stages outcomes dryRun => exact wellFormed_fields ⟨.bool _, wellFormed_map fun s hs => StageRows.toJson_wellFormed (h s hs)⟩
  | memories out => exact wellFormed_fields ⟨wellFormed_count _, wellFormed_map fun m _ => m.toJson_wellFormed ht⟩
  | remembered out => exact wellFormed_fields ⟨.string _, .bool _⟩
  | created name => exact wellFormed_fields ⟨.bool _, .string _⟩
  | createdDatasource name driver poolSize =>
    exact wellFormed_fields ⟨.bool _, .string _, .string _, wellFormed_optionalCount _⟩
  | updated name => exact wellFormed_fields ⟨.string _, .bool _⟩
  | deleted name => exact wellFormed_fields ⟨.bool _, .string _⟩

/-! ## The server -/

namespace Mcp

/-- What the server runs on is what its documentation says. -/
structure Libraries.Lawful (lib : Libraries) : Prop where
  fromStr : ∀ line v, lib.fromStr line = .ok v → v.WellFormed
  texts : lib.texts.Lawful

/-- The id a line is answered under, if it is answered. -/
def answerId (fromStr : JsonReader) (line : String) : Option Value :=
  match parseRequest fromStr line with
  | .error _ => some .null
  | .ok request => request.id

/-- The methods that are answered whatever their parameters are. -/
def plainMethods : List String := ["initialize", "ping", "tools/list", "notifications/initialized", "initialized"]

/-- The code of the JSON-RPC error a line is answered with. -/
def protocolError (fromStr : JsonReader) (line : String) : Option Int :=
  match parseRequest fromStr line with
  | .error e => some e.code
  | .ok request =>
    if request.method ∈ plainMethods then none
    else if request.method = "tools/call" then
      if (request.params.field "name").asStr.getD "" = "" then some ErrorCodes.invalidParams else none
    else some ErrorCodes.methodNotFound

/-- A response to a line. -/
structure Answers (fromStr : JsonReader) (line : String) (r : JsonRpcResponse) : Prop where
  id : answerId fromStr line = some r.id
  error : r.error.map (·.code) = protocolError fromStr line
  result : r.result.isSome = r.error.isNone
  /-- What is written has no line break, nor any other control character. -/
  oneLine : ∀ c ∈ r.toJson.toJson.toList, 32 ≤ c.toNat
  /-- What is written is read as the response and as nothing else. -/
  readsBack : ∀ v : Value, v.WellFormed → v.toJson = r.toJson.toJson → v = r.toJson

/-- Notifications alone are left unanswered, and a handler panics in nothing but a tool. -/
def Replied (fromStr : JsonReader) (p : Arrival × Res Empty (Option JsonRpcResponse)) : Prop :=
  match p.2 with
  | .ok none => answerId fromStr p.1.line = none
  | .ok (some r) => Answers fromStr p.1.line r
  | .error _ => (answerId fromStr p.1.line).isSome ∧ (calledTool fromStr p.1.line).isSome

theorem wellFormed_code (code : Int) : (Value.number (toString code)).WellFormed := by
  cases code with
  | ofNat n => exact Json.wellFormed_count n
  | negSucc n =>
    have hneg : toString (Int.negSucc n) = "-" ++ toString (n + 1) := rfl
    rw [hneg]
    refine .number ?_ ?_
    · intro h
      simpa using congrArg String.toList h
    · intro c hc
      rw [String.toList_append] at hc
      rcases List.mem_append.1 hc with hc | hc
      · rw [List.mem_singleton.1 hc]
        rfl
      · exact isNumberChar_of_toString hc

theorem JsonRpcResponse.ok_wellFormed {id result : Value} (hid : id.WellFormed) (hresult : result.WellFormed) :
    (JsonRpcResponse.ok id result).toJson.WellFormed := Json.wellFormed_fields ⟨hid, .string _, hresult⟩

theorem JsonRpcResponse.error_wellFormed {id : Value} {e : JsonRpcError} (hid : id.WellFormed) (hdata : (e.data.getD .null).WellFormed) :
    ({ id, error := some e } : JsonRpcResponse).toJson.WellFormed :=
  Json.wellFormed_fields ⟨Json.wellFormed_fields ⟨wellFormed_code _, hdata, .string _⟩, hid, .string _⟩

/-- A response that is well formed is written on one line and read back. -/
theorem Answers.mk_of_wellFormed {fromStr : JsonReader} {line : String} {r : JsonRpcResponse} (hid : answerId fromStr line = some r.id)
    (herror : r.error.map (·.code) = protocolError fromStr line) (hresult : r.result.isSome = r.error.isNone)
    (h : r.toJson.WellFormed) : Answers fromStr line r where
  id := hid
  error := herror
  result := hresult
  oneLine := Value.shown_toJson h
  readsBack _ hv heq := Value.eq_of_toJson hv h heq

theorem toolResult_wellFormed {answer : Value} (h : answer.WellFormed) (isError : Bool) : (McpServer.toolResult answer isError).WellFormed :=
  Json.wellFormed_fields ⟨.array fun d hd => by
    rw [List.mem_singleton.1 hd]
    exact Json.wellFormed_fields ⟨.string _, .string _⟩, .bool _, h⟩

theorem description_wellFormed (server : McpServer) : server.description.WellFormed :=
  Json.wellFormed_fields ⟨Json.wellFormed_fields (Json.wellFormed_fields (.bool _)), .string _, .string _,
    Json.wellFormed_fields ⟨.string _, .string _⟩⟩

theorem descriptors_wellFormed (server : McpServer) {t : AnswerTexts} (ht : t.Lawful) :
    (Value.object [("tools", .array (server.descriptors t))]).WellFormed :=
  Json.wellFormed_fields (Json.wellFormed_map fun _ _ => toolDescriptor_wellFormed ht _)

section

variable {σ : Type} {server : McpServer} {lib : Libraries} {b : Backend σ} {v : Server σ} {a : Arrival}

/-- A line that is no request is answered without an id. -/
theorem replied_malformed {e : JsonRpcError} (hparse : parseRequest lib.fromStr a.line = .error e) (hdata : e.data = none) :
    Replied lib.fromStr (a, .ok (some (.nullId e))) := by
  refine .mk_of_wellFormed (by simp [answerId, hparse, JsonRpcResponse.nullId]) (by simp [protocolError, hparse, JsonRpcResponse.nullId])
    rfl ?_
  exact JsonRpcResponse.error_wellFormed .null (by simpa [hdata] using Value.WellFormed.null)

theorem parseRequest_data {fromStr : JsonReader} {line : String} {e : JsonRpcError} (h : parseRequest fromStr line = .error e) :
    e.data = none := by
  unfold parseRequest at h
  split at h
  · cases h
    rfl
  · dsimp only at h
    split_ifs at h
    · cases h
      rfl
    · split at h
      · cases h
        rfl
      · cases h
  · cases h
    rfl

theorem parseRequest_id (hlib : lib.Lawful) {line : String} {request : JsonRpcRequest} {id : Value}
    (h : parseRequest lib.fromStr line = .ok request) (hid : request.id = some id) : id.WellFormed := by
  unfold parseRequest at h
  split at h
  · cases h
  · rename_i fields hread
    have hfields := hlib.fromStr _ _ hread
    dsimp only at h
    split_ifs at h with hversion
    split at h
    · cases h
    · cases h
      obtain ⟨hget, -⟩ := Option.filter_eq_some_iff.1 hid
      obtain ⟨before, after, heq, -⟩ := List.lookup_eq_some_iff.1 hget
      cases hfields with
      | object hall => exact hall ("id", id) (by simp [heq])
  · cases h

/-- An answer to a request, under its id. -/
theorem replied_ok {request : JsonRpcRequest} {id result : Value} (hparse : parseRequest lib.fromStr a.line = .ok request)
    (hid : request.id = some id) (hwf : id.WellFormed) (hresult : result.WellFormed)
    (herror : protocolError lib.fromStr a.line = none) : Replied lib.fromStr (a, .ok (some (.ok id result))) :=
  .mk_of_wellFormed (by simp [answerId, hparse, hid, JsonRpcResponse.ok]) (by simp [herror, JsonRpcResponse.ok]) rfl
    (JsonRpcResponse.ok_wellFormed hwf hresult)

/-- A JSON-RPC error, under the id of the request. -/
theorem replied_error {request : JsonRpcRequest} {id : Value} {e : JsonRpcError}
    (hparse : parseRequest lib.fromStr a.line = .ok request) (hid : request.id = some id) (hwf : id.WellFormed)
    (hdata : (e.data.getD .null).WellFormed) (herror : protocolError lib.fromStr a.line = some e.code) :
    Replied lib.fromStr (a, .ok (some { id, error := some e })) :=
  .mk_of_wellFormed (by simp [answerId, hparse, hid]) (by simp [herror]) rfl (JsonRpcResponse.error_wellFormed hwf hdata)

/-- A tool is answered with a result, whether it succeeds or fails. -/
theorem replied_callTool {request : JsonRpcRequest} {id : Value} {name : String} {arguments : Value} (hlib : lib.Lawful)
    (hhost : a.host.WellFormed) (hparse : parseRequest lib.fromStr a.line = .ok request) (hid : request.id = some id)
    (hwf : id.WellFormed) (herror : protocolError lib.fromStr a.line = none) (htool : calledTool lib.fromStr a.line = some name) :
    Replied lib.fromStr (a, (server.callTool lib b v a id name arguments).1.map some) := by
  unfold McpServer.callTool
  generalize hcall : (server.toolRequest v a name arguments).call lib.parser b lib.std lib.texts.f32 v = called
  obtain ⟨answer, v'⟩ := called
  cases answer with
  | ok output =>
    have houtput : output.WellFormed := ToolCatalog.dispatch_wellFormed hhost (ToolCatalog.call_eq_ok (congrArg Prod.fst hcall))
    exact replied_ok hparse hid hwf (toolResult_wellFormed (ToolOutput.toJson_wellFormed hlib.texts a.elapsed houtput) false) herror
  | error fault =>
    cases fault with
    | panic =>
      refine ⟨?_, ?_⟩
      · simp [answerId, hparse, hid]
      · simp [htool]
    | err e => exact replied_ok hparse hid hwf (toolResult_wellFormed e.toJson_wellFormed true) herror

/-- Whatever a line is, it is replied to as it should be. -/
theorem replied (hlib : lib.Lawful) (hhost : a.host.WellFormed) : Replied lib.fromStr (a, (server.respond lib b v a).1) := by
  unfold McpServer.respond
  cases hparse : parseRequest lib.fromStr a.line with
  | error e => exact replied_malformed hparse (parseRequest_data hparse)
  | ok request =>
    cases hid : request.id with
    | none =>
      simp only [hid]
      exact (by simp [answerId, hparse, hid] : answerId lib.fromStr a.line = none)
    | some id =>
      have hwf := parseRequest_id hlib hparse hid
      have hplain (h : request.method ∈ plainMethods) : protocolError lib.fromStr a.line = none := by
        simp [protocolError, hparse, h]
      have hempty : (Value.object []).WellFormed := .object (by simp)
      simp only [McpServer.handle, hid, Option.getD_some]
      split
      · rename_i hmethod
        exact replied_ok hparse hid hwf (description_wellFormed server) (hplain (by simp [hmethod, plainMethods]))
      · rename_i hmethod
        exact replied_ok hparse hid hwf hempty (hplain (by simp [hmethod, plainMethods]))
      · rename_i hmethod
        exact replied_ok hparse hid hwf (descriptors_wellFormed server hlib.texts) (hplain (by simp [hmethod, plainMethods]))
      · rename_i hmethod
        have hcode : protocolError lib.fromStr a.line =
            if (request.params.field "name").asStr.getD "" = "" then some ErrorCodes.invalidParams else none := by
          simp [protocolError, hparse, hmethod, plainMethods]
        split_ifs with hname
        · exact replied_error hparse hid hwf .null (by rw [hcode, if_pos hname])
        · refine replied_callTool hlib hhost hparse hid hwf (by rw [hcode, if_neg hname]) ?_
          have hsome : (request.params.field "name").asStr ≠ none := by
            intro hnone
            simp [hnone] at hname
          obtain ⟨name, hname⟩ := Option.ne_none_iff_exists'.1 hsome
          simp [calledTool, hparse, hid, hmethod, hname]
      · rename_i hmethod
        exact replied_ok hparse hid hwf hempty (hplain (by simp [hmethod, plainMethods]))
      · rename_i hmethod
        exact replied_ok hparse hid hwf hempty (hplain (by simp [hmethod, plainMethods]))
      · rename_i h₁ h₂ h₃ h₄ h₅ h₆
        refine replied_error hparse hid hwf ?_ ?_
        · exact Json.wellFormed_fields (Json.wellFormed_texts _)
        · have hnot : request.method ∉ plainMethods := by
            simp only [plainMethods, List.mem_cons, List.not_mem_nil, or_false, not_or]
            exact ⟨h₁, h₂, h₃, h₅, h₆⟩
          simp only [protocolError, hparse, if_neg hnot, if_neg h₄]

/-- **The replies of a session**, by induction on its lines. -/
theorem session_replies (server : McpServer) (hlib : lib.Lawful) (b : Backend σ) {arrivals : List Arrival}
    (hhosts : ∀ a ∈ arrivals, a.host.WellFormed) (v : Server σ) :
    ∀ p ∈ (server.session lib b arrivals v).1, Replied lib.fromStr p := by
  induction arrivals generalizing v with
  | nil => simp [McpServer.session]
  | cons a arrivals ih =>
    intro p hp
    rcases List.mem_cons.1 hp with rfl | hp
    · exact replied hlib (hhosts a List.mem_cons_self)
    · exact ih (fun a' ha' => hhosts a' (List.mem_cons_of_mem _ ha')) _ p hp

end

/-! ## A ping, a notification and a call -/

namespace PingSession

def ping : String := "\x7b\"jsonrpc\":\"2.0\",\"id\":7,\"method\":\"ping\"\x7d"

def initialized : String := "\x7b\"jsonrpc\":\"2.0\",\"method\":\"notifications/initialized\"\x7d"

def deletion : String := "\x7b\"jsonrpc\":\"2.0\",\"id\":8,\"method\":\"tools/call\"," ++
  "\"params\":\x7b\"name\":\"delete_model\",\"arguments\":\x7b\"name\":\"payroll\"\x7d\x7d\x7d"

/-- What the three lines are read as; anything else here ends where a key should stand. -/
def fromStr : JsonReader := fun line =>
  if line = ping then .ok (.object [("id", .number "7"), ("jsonrpc", .string "2.0"), ("method", .string "ping")])
  else if line = initialized then .ok (.object [("jsonrpc", .string "2.0"), ("method", .string "notifications/initialized")])
  else if line = deletion then
    .ok (.object [("id", .number "8"), ("jsonrpc", .string "2.0"), ("method", .string "tools/call"),
      ("params", .object [("arguments", .object [("name", .string "payroll")]), ("name", .string "delete_model")])])
  else .error "key must be a string at line 1 column 2"

def libraries : Libraries where
  fromStr
  parser := GatedDeletions.parser
  std := GatedDeletions.std
  texts := ⟨fun _ => .object [("type", .string "object")], ⟨fun r => r, fun _ => "0.5", fun _ => 1 / 2⟩, fun _ => "2026-01-01T00:00:00+00:00"⟩

theorem lawful : libraries.Lawful where
  fromStr line v h := by
    have hnumber : ∀ text ∈ ["7", "8"], (Value.number text).WellFormed := by
      intro text htext
      simp only [List.mem_cons, List.not_mem_nil, or_false] at htext
      rcases htext with rfl | rfl
      · exact Json.wellFormed_count 7
      · exact Json.wellFormed_count 8
    simp only [libraries, fromStr] at h
    split_ifs at h
    · cases h
      exact Json.wellFormed_fields ⟨hnumber "7" (by simp), .string _, .string _⟩
    · cases h
      exact Json.wellFormed_fields ⟨.string _, .string _⟩
    · cases h
      exact Json.wellFormed_fields ⟨hnumber "8" (by simp), .string _, .string _,
        Json.wellFormed_fields ⟨Json.wellFormed_fields (.string _), .string _⟩⟩
  texts :=
    { inputSchema := fun _ => Json.wellFormed_fields (.string _)
      f32 := fun _ => .number (by simp [libraries]) fun c hc => List.all_eq_true.1 (show "0.5".toList.all isNumberChar = true by decide) c hc }

/-- An administrator's lines, on a server that is not open to mutations. -/
def arrivals : List Arrival :=
  [ping, initialized, "\x7bnot json", deletion].map fun line => { ctx := { isAdmin := true }, line, host := GatedDeletions.host }

theorem host_wellFormed : ∀ a ∈ arrivals, a.host.WellFormed := by
  intro a ha ds sql rows hrows
  obtain ⟨line, -, rfl⟩ := List.mem_map.1 ha
  cases hrows
  simp

end PingSession

open PingSession in
theorem session_replies_ping :
    (∀ a ∈ arrivals, a.host.WellFormed) ∧
      ∀ p ∈ (McpServer.session ⟨{}, "graphnight", "2.0.0"⟩ libraries (YamlStorage.backend Str.toAsciiLowercase) arrivals
        GatedDeletions.server).1, Replied fromStr p :=
  ⟨host_wellFormed, session_replies _ lawful (YamlStorage.backend Str.toAsciiLowercase) host_wellFormed GatedDeletions.server⟩

end Mcp

end GraphNight
