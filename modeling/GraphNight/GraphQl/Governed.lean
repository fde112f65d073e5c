import GraphNight.GraphQl.Resolvers

/-!
# GraphQL beside the governed service

What a GraphQL field runs and hands out, against what the service would for the same
caller and query. `query` repeats the service's steps. A tick of `live_query` takes
none of those that look at the caller, so it agrees only where they change nothing.
-/

namespace GraphNight

open QueryService

/-- The GraphQL fields that run a query. -/
inductive QueryField where
  | query (dryRun : Option Bool)
  | liveQuery

/-- The call of the service that a field stands for: `ExecuteOptions::live` for a tick. -/
def QueryField.options : QueryField → ExecuteOptions
  | query dryRun => { dryRun := dryRun.getD false, explain := true }
  | liveQuery => {}

/-- What a field or the service has done: the rows handed out, none for a refusal or
nothing yielded, and the statements sent so far. -/
structure Served where
  rows : Option (List Value)
  sent : List (DataSource × GeneratedSql)
deriving DecidableEq

section

variable (r : SchemaRoot) (host : Host) (late : LateReply) (ctx : GraphQLContext) (query : Query)

def QueryField.serve : QueryField → Served
  | .query dryRun =>
    let (result, r) := r.query host ctx query dryRun
    ⟨result.toOption.map (·.data), r.sent⟩
  | .liveQuery =>
    let (yielded, r) := r.liveTick host late query
    ⟨yielded.map (·.data), r.sent⟩

/-- What the service would have done. -/
def QueryField.serviceServes (field : QueryField) : Served :=
  let (result, s) := r.service.execute host ctx.callContext query field.options
  ⟨result.toOption.map (·.data), s.sent⟩

/-- A field is governed when it does what the service would. -/
def QueryField.Governed (field : QueryField) : Prop :=
  field.serve r host late ctx query = field.serviceServes r host ctx query

/-! ## The condition -/

/-- The statement a tick of `live_query` runs: that of the query as it stands. -/
def SchemaRoot.liveStatement : Option (DataSource × GeneratedSql) := do
  let modelName ← query.name.or (query.sourceModel.map (·.model))
  let model ← (r.storage.getModel modelName none).toOption.join
  let ds ← (r.storage.getDatasource model.datasource).toOption.join
  let sql ← (r.sqlEngine.generateSql query).1.toOption
  return (ds, sql)

/-- The service lets a query through and has a statement for it. -/
structure SchemaRoot.Runs (gov : Governed) (ds : DataSource) (sql : GeneratedSql) : Prop where
  governed : r.service.govern ctx.callContext query {} = .ok gov
  generated : (r.sqlEngine.generateSql gov.query).1 = .ok sql
  stored : r.storage.getDatasource gov.model.datasource = .ok (some ds)

/-- The offset after a page of `n` rows is a `usize`, where the build checks and the page is full. -/
def PageFits (cap n : Nat) : Prop :=
  host.overflowChecks = true → cap ≤ n → query.offset.getD 0 + n < UInt64.size

/-- The masks of a caller. -/
def GraphQLContext.masks : List (String × MaskFn) := ctx.callContext.sessionPolicy.columnMasks.items

/-- The service hands out the rows of a reply as they are. -/
def KeepsReply (cap : Nat) (ds : DataSource) (sql : GeneratedSql) : ExecReply → Prop
  | .rows rows => rows.mapM (maskRow ctx.masks) = .ok rows ∧ PageFits host query cap rows.length
  | .failed _ => True
  | .timedOut => late ds sql = none

/-- The service has nothing to add to a statement or to take from its reply. -/
structure SchemaRoot.NothingToGovern (ds : DataSource) (sql : GeneratedSql) : Prop where
  authenticated : ctx.callContext.requireAuthenticated = .ok ()
  admitted : ∀ modelName model, governedName query = some modelName →
    r.storage.getModel modelName none = .ok (some model) →
    Admits ctx.callContext.sessionPolicy modelName model.datasource
  unchanged : (r.sqlEngine.generateSql (governedQuery ctx.callContext.sessionPolicy query none)).1 = .ok sql
  reply : ∀ cap, (governedQuery ctx.callContext.sessionPolicy query none).limit = some cap →
    KeepsReply host late ctx query cap ds sql (host.executeSqlx ds sql)

/-- When a field is governed. -/
def QueryField.GovernedWhen : QueryField → Prop
  -- the response to `query` has no next offset, which the service computes
  | .query dryRun => dryRun.getD false = false → ∀ gov ds sql rows masked, r.Runs ctx query gov ds sql →
      host.executeSqlx ds sql = .rows rows → rows.mapM (maskRow ctx.masks) = .ok masked →
      PageFits host query gov.effectiveLimit rows.length
  | .liveQuery =>
    match r.liveStatement query with
    | none => ∀ gov ds sql, ¬r.Runs ctx query gov ds sql
    | some (ds, sql) => r.NothingToGovern host late ctx query ds sql

end

/-! ## The steps side by side -/

section

variable {r : SchemaRoot} {host : Host} {late : LateReply} {ctx : GraphQLContext} {query : Query}

/-- The two copies of the row cap agree. -/
theorem enforceRowLimit_eq (policy : SessionPolicy) (query : Query) :
    PolicyEnforcer.enforceRowLimit ⟨policy⟩ query = (applyRowCap policy query none).1 := by
  obtain ⟨name, source, measures, dimensions, times, filters, order, limit, offset, whole, distinct, stage⟩ := query
  cases limit with
  | none => rfl
  | some l =>
    show (if l > policy.maxRows.getD 10000 then _ else _) = _
    by_cases hl : l > policy.maxRows.getD 10000
    · rw [if_pos hl]
      simp only [applyRowCap, rowCap, defaultMaxRows, Query.mk.injEq, Option.some.injEq, true_and, and_true]
      omega
    · rw [if_neg hl]
      simp only [applyRowCap, rowCap, defaultMaxRows, Query.mk.injEq, Option.some.injEq, true_and, and_true]
      omega

/-- `enforce_policy` checks and adds what the service does. -/
theorem enforcePolicy_eq_ok {query' : Query} {modelName datasource : String} :
    ctx.enforcePolicy query modelName datasource = .ok query' ↔
      Admits ctx.callContext.sessionPolicy modelName datasource ∧
        query' = governedQuery ctx.callContext.sessionPolicy query none := by
  have hpolicy : ctx.sessionPolicy.getD {} = ctx.callContext.sessionPolicy := rfl
  simp only [GraphQLContext.enforcePolicy, Res.bind_eq_ok, PolicyEnforcer.applyRls_applyForcedFilters,
    enforceRowLimit_eq, hpolicy, pure, Except.pure, Except.ok.injEq, Admits, governedQuery]
  constructor
  · rintro ⟨_, hmodel, _, hds, rfl⟩
    exact ⟨⟨hmodel, hds⟩, rfl⟩
  · rintro ⟨⟨hmodel, hds⟩, rfl⟩
    exact ⟨(), hmodel, (), hds, rfl⟩

/-- A gate that opens for both or for neither. -/
theorem rejectIfAuthRequired_eq_ok :
    ctx.rejectIfAuthRequired = .ok () ↔ ctx.callContext.requireAuthenticated = .ok () := by
  unfold GraphQLContext.rejectIfAuthRequired CallContext.requireAuthenticated
  by_cases hauth : ctx.authRequired = true ∧ ctx.userId = none
  · rw [if_pos hauth, if_pos (show ctx.callContext.authRequired = true ∧ ctx.callContext.userId = none from hauth)]
    exact iff_of_false (by simp [Res.fail]) (by simp [Res.fail])
  · rw [if_neg hauth,
      if_neg (show ¬(ctx.callContext.authRequired = true ∧ ctx.callContext.userId = none) from hauth)]
    exact iff_of_true rfl rfl

/-- Of the options only the cap of a call matters to governance, and no field sets one. -/
theorem govern_options (field : QueryField) :
    r.service.govern ctx.callContext query field.options = r.service.govern ctx.callContext query {} := by
  cases field <;> rfl

/-- The service on a statement it runs. -/
theorem execute_of_steps {s : QueryService} {ctx : CallContext} {options : ExecuteOptions} {gov : Governed}
    {sql : GeneratedSql} {ds : DataSource} (hgov : s.govern ctx query options = .ok gov)
    (hsql : (s.sqlEngine.generateSql gov.query).1 = .ok sql) (hdry : options.dryRun = false)
    (hds : s.storage.getDatasource gov.model.datasource = .ok (some ds)) :
    (s.execute host ctx query options).1 = outcome host ctx.sessionPolicy options gov sql
        (s.sqlEngine.dialectNameForModel gov.modelName) (host.executeSqlx ds sql) ∧
      (s.execute host ctx query options).2.sent = s.sent ++ [(ds, sql)] := by
  have hconnect : connect { s with sqlEngine := (s.sqlEngine.generateSql gov.query).2 } gov.model.datasource =
      .ok ds := connect_eq_ok.2 hds
  have hdialect : (s.sqlEngine.generateSql gov.query).2.dialectNameForModel gov.modelName =
      s.sqlEngine.dialectNameForModel gov.modelName := by
    simp [SqlEngine.dialectNameForModel]
  simp only [execute, hgov, hsql, Res.mapErr, hdialect, hdry, Bool.false_eq_true, if_false, hconnect]
  cases outcome host ctx.sessionPolicy options gov sql (s.sqlEngine.dialectNameForModel gov.modelName)
    (host.executeSqlx ds sql) <;> exact ⟨rfl, rfl⟩

/-- The service where no statement is run. -/
theorem execute_of_no_statement {s : QueryService} {ctx : CallContext} {options : ExecuteOptions}
    (hdry : options.dryRun = false)
    (h : ∀ gov sql ds, s.govern ctx query options = .ok gov → (s.sqlEngine.generateSql gov.query).1 = .ok sql →
      s.storage.getDatasource gov.model.datasource ≠ .ok (some ds)) :
    (∃ e, (s.execute host ctx query options).1 = .error e) ∧
      (s.execute host ctx query options).2.sent = s.sent := by
  unfold execute
  cases hgov : s.govern ctx query options with
  | error e => exact ⟨⟨e, rfl⟩, rfl⟩
  | ok gov =>
    cases hsql : (s.sqlEngine.generateSql gov.query).1 with
    | error e => cases e <;> simp [hsql, Res.mapErr]
    | ok sql =>
      simp only [hsql, Res.mapErr, hdry, Bool.false_eq_true, if_false]
      cases hds : connect { s with sqlEngine := (s.sqlEngine.generateSql gov.query).2 } gov.model.datasource with
      | error e => exact ⟨⟨e, rfl⟩, rfl⟩
      | ok ds => exact absurd (connect_eq_ok.1 hds) (h gov sql ds hgov hsql)

/-- A dry run of the service. -/
theorem execute_dry {s : QueryService} {ctx : CallContext} {options : ExecuteOptions} (hdry : options.dryRun = true) :
    (s.execute host ctx query options).2.sent = s.sent ∧
      ((s.execute host ctx query options).1.toOption.map (·.data) = some [] ↔
        ∃ gov sql, s.govern ctx query options = .ok gov ∧ (s.sqlEngine.generateSql gov.query).1 = .ok sql) ∧
      ∀ data, (s.execute host ctx query options).1.toOption.map (·.data) = some data → data = [] := by
  unfold execute
  cases hgov : s.govern ctx query options with
  | error e => simp [Except.toOption]
  | ok gov =>
    cases hsql : (s.sqlEngine.generateSql gov.query).1 with
    | error e => cases e <;> simp [Except.toOption, Res.mapErr, hsql]
    | ok sql => simp [Except.toOption, Res.mapErr, hdry, hsql, dryOutcome]

/-- Auditing changes neither the response nor what was sent. -/
theorem query_eq_executeQuery (dryRun : Option Bool) :
    (r.query host ctx query dryRun).1 = (r.executeQuery host ctx query dryRun).2.1 ∧
      (r.query host ctx query dryRun).2.sent = (r.executeQuery host ctx query dryRun).2.2.sent := by
  unfold SchemaRoot.query
  dsimp only
  split_ifs <;> exact ⟨rfl, rfl⟩

theorem findModel_eq_ok {modelName : String} {model : Model} :
    r.findModel modelName = .ok model ↔ r.storage.getModel modelName none = .ok (some model) := by
  simp only [SchemaRoot.findModel, Res.bind_eq_ok, Res.ofOption_eq_ok]
  constructor
  · rintro ⟨found, hfound, rfl⟩
    exact hfound
  · exact fun h => ⟨_, h, rfl⟩

theorem findDatasource_eq_ok {name : String} {ds : DataSource} :
    r.findDatasource name = .ok ds ↔ r.storage.getDatasource name = .ok (some ds) := by
  simp only [SchemaRoot.findDatasource, Res.bind_eq_ok, Res.ofOption_eq_ok]
  constructor
  · rintro ⟨found, hfound, rfl⟩
    exact hfound
  · exact fun h => ⟨_, h, rfl⟩

theorem nameModel_eq_ok {modelName : String} :
    SchemaRoot.nameModel ctx query = .ok modelName ↔
      ctx.callContext.requireAuthenticated = .ok () ∧ governedName query = some modelName := by
  simp only [SchemaRoot.nameModel, Res.bind_eq_ok, Res.ofOption_eq_ok, governedName]
  constructor
  · rintro ⟨_, hauth, hname⟩
    exact ⟨rejectIfAuthRequired_eq_ok.1 hauth, hname⟩
  · rintro ⟨hauth, hname⟩
    exact ⟨(), rejectIfAuthRequired_eq_ok.2 hauth, hname⟩

theorem governModel_eq_ok {modelName : String} {model : Model} {query' : Query} :
    r.governModel ctx query modelName = .ok (model, query') ↔
      r.storage.getModel modelName none = .ok (some model) ∧
        Admits ctx.callContext.sessionPolicy modelName model.datasource ∧
          query' = governedQuery ctx.callContext.sessionPolicy query none := by
  simp only [SchemaRoot.governModel, Res.bind_eq_ok, findModel_eq_ok, enforcePolicy_eq_ok, pure, Except.pure,
    Except.ok.injEq, Prod.mk.injEq]
  constructor
  · rintro ⟨model, hmodel, query', hquery, rfl, rfl⟩
    exact ⟨hmodel, hquery⟩
  · rintro ⟨hmodel, hquery⟩
    exact ⟨model, hmodel, query', hquery, rfl, rfl⟩

/-- **The resolver's steps before any SQL are governance.** -/
theorem executeQuery_cases (dryRun : Option Bool) :
    (∃ gov, r.service.govern ctx.callContext query {} = .ok gov ∧ (r.executeQuery host ctx query dryRun).2 =
        r.executeGoverned host ctx gov.model gov.query dryRun) ∨
      (∀ gov, r.service.govern ctx.callContext query {} ≠ .ok gov) ∧
        ∃ e, (r.executeQuery host ctx query dryRun).2 = (.error e, r) := by
  unfold SchemaRoot.executeQuery
  cases hname : SchemaRoot.nameModel ctx query with
  | error e =>
    refine .inr ⟨fun gov hgov => ?_, e, rfl⟩
    obtain ⟨hauth, hnamed, -⟩ := govern_eq_ok.1 hgov
    rw [nameModel_eq_ok.2 ⟨hauth, hnamed⟩] at hname
    cases hname
  | ok modelName =>
    obtain ⟨hauth, hnamed⟩ := nameModel_eq_ok.1 hname
    cases hgoverned : r.governModel ctx query modelName with
    | error e =>
      refine .inr ⟨fun gov hgov => ?_, e, by simp only [hgoverned]⟩
      obtain ⟨-, hnamed', hmodel, hadmits, -, -⟩ := govern_eq_ok.1 hgov
      obtain rfl := Option.some.inj (hnamed.symm.trans hnamed')
      rw [governModel_eq_ok.2 ⟨hmodel, hadmits, rfl⟩] at hgoverned
      cases hgoverned
    | ok governed =>
      obtain ⟨model, query'⟩ := governed
      obtain ⟨hmodel, hadmits, rfl⟩ := governModel_eq_ok.1 hgoverned
      have hgov : r.service.govern ctx.callContext query {} = .ok ⟨modelName, model,
          governedQuery ctx.callContext.sessionPolicy query none,
          (applyRowCap ctx.callContext.sessionPolicy query none).2⟩ :=
        govern_eq_ok.2 ⟨hauth, hnamed, hmodel, hadmits, rfl, rfl⟩
      exact .inl ⟨_, hgov, by simp only [hgoverned]⟩

/-- The resolver on a statement it runs. -/
theorem query_of_runs {dryRun : Option Bool} (hdry : dryRun.getD false = false) {gov : Governed}
    {ds : DataSource} {sql : GeneratedSql} (h : r.Runs ctx query gov ds sql) :
    (r.query host ctx query dryRun).1 = SchemaRoot.respond ctx sql (host.executeSqlx ds sql) ∧
      (r.query host ctx query dryRun).2.sent = r.sent ++ [(ds, sql)] := by
  rw [(query_eq_executeQuery dryRun).1, (query_eq_executeQuery dryRun).2]
  obtain ⟨gov', hgov, heq⟩ | ⟨hnone, -⟩ := @executeQuery_cases r host ctx query dryRun
  · obtain rfl : gov' = gov := Except.ok.inj (hgov.symm.trans h.governed)
    rw [heq]
    unfold SchemaRoot.executeGoverned
    simp only [hdry, Bool.false_eq_true, if_false, findDatasource_eq_ok.2 h.stored, h.generated]
    exact ⟨trivial, trivial⟩
  · exact absurd h.governed (hnone gov)

/-- The resolver where no statement is run. -/
theorem query_of_no_statement {dryRun : Option Bool} (hdry : dryRun.getD false = false)
    (h : ∀ gov ds sql, ¬r.Runs ctx query gov ds sql) :
    (∃ e, (r.query host ctx query dryRun).1 = .error e) ∧ (r.query host ctx query dryRun).2.sent = r.sent := by
  rw [(query_eq_executeQuery dryRun).1, (query_eq_executeQuery dryRun).2]
  obtain ⟨gov, hgov, heq⟩ | ⟨-, e, heq⟩ := @executeQuery_cases r host ctx query dryRun
  · rw [heq]
    unfold SchemaRoot.executeGoverned
    simp only [hdry, Bool.false_eq_true, if_false]
    cases hds : r.findDatasource gov.model.datasource with
    | error e => exact ⟨⟨e, rfl⟩, rfl⟩
    | ok ds =>
      cases hsql : (r.sqlEngine.generateSql gov.query).1 with
      | error e => exact ⟨⟨e, rfl⟩, rfl⟩
      | ok sql => exact absurd ⟨hgov, hsql, findDatasource_eq_ok.1 hds⟩ (h gov ds sql)
  · rw [heq]
    exact ⟨⟨e, rfl⟩, rfl⟩

/-- A dry run of the resolver. -/
theorem query_dry {dryRun : Option Bool} (hdry : dryRun.getD false = true) :
    (r.query host ctx query dryRun).2.sent = r.sent ∧
      ((r.query host ctx query dryRun).1.toOption.map (·.data) = some [] ↔
        ∃ gov sql, r.service.govern ctx.callContext query {} = .ok gov ∧
          (r.sqlEngine.generateSql gov.query).1 = .ok sql) ∧
      ∀ data, (r.query host ctx query dryRun).1.toOption.map (·.data) = some data → data = [] := by
  rw [(query_eq_executeQuery dryRun).1, (query_eq_executeQuery dryRun).2]
  obtain ⟨gov, hgov, heq⟩ | ⟨hnone, e, heq⟩ := @executeQuery_cases r host ctx query dryRun
  · rw [heq]
    unfold SchemaRoot.executeGoverned
    simp only [hdry, if_true]
    cases hsql : (r.sqlEngine.generateSql gov.query).1 with
    | error e => simp [Except.toOption, Except.map, hgov, hsql]
    | ok sql => simp [Except.toOption, Except.map, hgov, hsql]
  · rw [heq]
    simp [Except.toOption, hnone]

/-! ## The rows of a reply -/

/-- The service numbers the next page exactly when it fits. -/
theorem nextOffsetOf_ok_iff {cap n : Nat} :
    (∃ next, nextOffsetOf host query.offset n (decide (cap ≤ n)) = .ok next) ↔ PageFits host query cap n := by
  unfold nextOffsetOf PageFits Host.usizeAdd
  by_cases hcap : cap ≤ n <;> by_cases hfit : query.offset.getD 0 + n < UInt64.size <;>
    cases host.overflowChecks <;> simp [hcap, hfit, Except.map]

/-- The rows of the service, of a reply. -/
theorem outcome_data {options : ExecuteOptions} {gov : Governed} {sql : GeneratedSql} {dialect : String}
    (hoffset : gov.query.offset = query.offset) {rows : List Row} {data : List Value} :
    (outcome host ctx.callContext.sessionPolicy options gov sql dialect (.rows rows)).toOption.map (·.data) =
        some data ↔
      (∃ masked, rows.mapM (maskRow ctx.masks) = .ok masked ∧ data = masked.map fun row => .object row.items) ∧
        PageFits host query gov.effectiveLimit rows.length := by
  have hmasks : ctx.masks = ctx.callContext.sessionPolicy.columnMasks.items := rfl
  rw [hmasks, ← nextOffsetOf_ok_iff, ← hoffset]
  cases hmasked : rows.mapM (maskRow ctx.callContext.sessionPolicy.columnMasks.items) with
  | error e => simp [outcome, replyRows, hmasked, bind, Except.bind, Except.toOption]
  | ok masked =>
    cases hnext : nextOffsetOf host gov.query.offset rows.length (decide (gov.effectiveLimit ≤ rows.length)) with
    | error e =>
      simp [outcome, replyRows, hmasked, hnext, bind, Except.bind, Except.toOption]
    | ok next =>
      obtain ⟨out, hout, hdata, -⟩ :=
        @outcome_rows host ctx.callContext.sessionPolicy options gov sql dialect rows masked next hmasked hnext
      rw [hout, Except.toOption, Option.map_some, Option.some.injEq, hdata]
      constructor
      · rintro rfl
        exact ⟨⟨masked, rfl, rfl⟩, next, rfl⟩
      · rintro ⟨⟨masked', heq, rfl⟩, -⟩
        rw [Except.ok.inj heq]

/-- The rows of the resolver, of a reply. -/
theorem respond_data {sql : GeneratedSql} {rows : List Row} {data : List Value} :
    (SchemaRoot.respond ctx sql (.rows rows)).toOption.map (·.data) = some data ↔
      ∃ masked, rows.mapM (maskRow ctx.masks) = .ok masked ∧ data = masked.map fun row => .object row.items := by
  have hmasks : (ctx.sessionPolicy.map (·.columnMasks.items)).getD [] = ctx.masks := by
    unfold GraphQLContext.masks CallContext.sessionPolicy GraphQLContext.callContext
    cases ctx.sessionPolicy <;> rfl
  cases hmasked : rows.mapM (maskRow ctx.masks) with
  | error e =>
    cases e <;>
      simp [SchemaRoot.respond, SchemaRoot.replyRows, hmasks, hmasked, Res.mapErr, bind, Except.bind, Except.toOption]
  | ok masked =>
    simp [SchemaRoot.respond, SchemaRoot.replyRows, hmasks, hmasked, Res.mapErr, bind, Except.bind, Except.toOption,
      pure, Except.pure, eq_comm]

theorem rows_of_objects {rows masked : List Row}
    (h : rows.map (fun row => Value.object row.items) = masked.map fun row => Value.object row.items) :
    rows = masked := by
  refine List.map_injective_iff.2 (fun row row' heq => ?_) h
  obtain ⟨items, distinct⟩ := row
  obtain ⟨items', distinct'⟩ := row'
  obtain rfl : items = items' := Value.object.inj heq
  rfl

/-- The service hands out what a tick does exactly when it keeps the reply. -/
theorem outcome_eq_awaited {options : ExecuteOptions} {gov : Governed} {dialect : String} {ds : DataSource}
    {sql : GeneratedSql} (hoffset : gov.query.offset = query.offset) (reply : ExecReply) :
    (SchemaRoot.awaitedRows late ds sql reply).map (fun rows => rows.map fun row => Value.object row.items) =
        (outcome host ctx.callContext.sessionPolicy options gov sql dialect reply).toOption.map (·.data) ↔
      KeepsReply host late ctx query gov.effectiveLimit ds sql reply := by
  cases reply with
  | rows rows =>
    show some _ = _ ↔ _
    rw [eq_comm, outcome_data hoffset]
    constructor
    · rintro ⟨⟨masked, hmasked, heq⟩, hfits⟩
      rw [← rows_of_objects heq] at hmasked
      exact ⟨hmasked, hfits⟩
    · rintro ⟨hkept, hfits⟩
      exact ⟨⟨rows, hkept, rfl⟩, hfits⟩
  | failed reason => exact iff_of_true rfl trivial
  | timedOut =>
    show (late ds sql).map _ = none ↔ late ds sql = none
    rw [Option.map_eq_none_iff]

/-! ## One tick -/

theorem liveStatement_eq_some {ds : DataSource} {sql : GeneratedSql} :
    r.liveStatement query = some (ds, sql) ↔ ∃ modelName model, governedName query = some modelName ∧
      r.storage.getModel modelName none = .ok (some model) ∧
      r.storage.getDatasource model.datasource = .ok (some ds) ∧ (r.sqlEngine.generateSql query).1 = .ok sql := by
  have hstored : ∀ {α : Type} {found : Res String (Option α)} {a : α},
      found.toOption.join = some a ↔ found = .ok (some a) := by
    intro α found a
    cases found <;> simp [Except.toOption]
  have hgenerated : ∀ {result : Res String GeneratedSql}, result.toOption = some sql ↔ result = .ok sql := by
    intro result
    cases result <;> simp [Except.toOption]
  simp only [SchemaRoot.liveStatement, Option.bind_eq_bind, Option.bind_eq_some_iff, hstored, pure,
    Option.some.injEq, Prod.mk.injEq, governedName]
  constructor
  · rintro ⟨modelName, hname, model, hmodel, ds', hds, sql', hsql, rfl, rfl⟩
    exact ⟨modelName, model, hname, hmodel, hds, hgenerated.1 hsql⟩
  · rintro ⟨modelName, model, hname, hmodel, hds, hsql⟩
    exact ⟨modelName, hname, model, hmodel, ds, hds, sql, hgenerated.2 hsql, rfl, rfl⟩

/-- **A tick** runs the statement of the query as it stands, if there is one. -/
theorem serve_live : QueryField.liveQuery.serve r host late ctx query =
    match r.liveStatement query with
    | none => ⟨none, r.sent⟩
    | some (ds, sql) =>
      ⟨(SchemaRoot.awaitedRows late ds sql (host.executeSqlx ds sql)).map fun rows =>
        rows.map fun row => Value.object row.items, r.sent ++ [(ds, sql)]⟩ := by
  unfold QueryField.serve SchemaRoot.liveTick SchemaRoot.liveStatement
  dsimp only
  cases query.name.or (query.sourceModel.map (·.model)) with
  | none => rfl
  | some modelName =>
    rcases hmodel : r.storage.getModel modelName none with _ | _ | model
    · simp [hmodel, Except.toOption]
    · simp [hmodel, Except.toOption]
    rcases hds : r.storage.getDatasource model.datasource with _ | _ | ds
    · simp [hmodel, hds, Except.toOption]
    · simp [hmodel, hds, Except.toOption]
    cases hsql : (r.sqlEngine.generateSql query).1 with
    | error e => simp [hmodel, hds, Except.toOption]
    | ok sql =>
      simp only [hmodel, hds, Except.toOption, Option.join_some, Option.bind_eq_bind, Option.bind_some, Option.map_map,
        pure]
      rfl

/-- Two logs that begin alike and end in one statement each. -/
theorem sent_inj {α : Type} {sent : List α} {a b : α} (h : sent ++ [a] = sent ++ [b]) : a = b := by
  simpa using h

theorem served_ne {rows rows' : Option (List Value)} {sent : List (DataSource × GeneratedSql)}
    {p : DataSource × GeneratedSql} : (⟨rows, sent⟩ : Served) ≠ ⟨rows', sent ++ [p]⟩ := by
  intro h
  have hlength := congrArg (fun s : Served => s.sent.length) h
  simp at hlength

/-- The service, where it runs nothing. -/
theorem serviceServes_of_no_statement {field : QueryField} (hdry : field.options.dryRun = false)
    (h : ∀ gov ds sql, ¬r.Runs ctx query gov ds sql) :
    field.serviceServes r host ctx query = ⟨none, r.sent⟩ := by
  obtain ⟨⟨e, hresult⟩, hsent⟩ := @execute_of_no_statement host query r.service ctx.callContext field.options hdry
    fun gov sql ds hgov hsql hds => h gov ds sql ⟨(govern_options field).symm.trans hgov, hsql, hds⟩
  unfold QueryField.serviceServes
  simp only [hresult, hsent]
  rfl

/-- The service, where it runs a statement. -/
theorem serviceServes_of_runs {field : QueryField} (hdry : field.options.dryRun = false) {gov : Governed}
    {ds : DataSource} {sql : GeneratedSql} (h : r.Runs ctx query gov ds sql) :
    field.serviceServes r host ctx query =
      ⟨(outcome host ctx.callContext.sessionPolicy field.options gov sql
          (r.sqlEngine.dialectNameForModel gov.modelName) (host.executeSqlx ds sql)).toOption.map (·.data),
        r.sent ++ [(ds, sql)]⟩ := by
  obtain ⟨hresult, hsent⟩ := @execute_of_steps host query r.service ctx.callContext field.options gov sql ds
    ((govern_options field).trans h.governed) h.generated hdry h.stored
  unfold QueryField.serviceServes
  simp only [hresult, hsent]
  rfl

theorem SchemaRoot.Runs.offset {gov : Governed} {ds : DataSource} {sql : GeneratedSql} (h : r.Runs ctx query gov ds sql) :
    gov.query.offset = query.offset := by
  obtain ⟨-, -, -, -, hquery, -⟩ := govern_eq_ok.1 h.governed
  rw [hquery]
  rfl

/-- What the service would do, where it runs a statement, is decided by it alone. -/
theorem SchemaRoot.Runs.unique {gov gov' : Governed} {ds ds' : DataSource} {sql sql' : GeneratedSql}
    (h : r.Runs ctx query gov ds sql) (h' : r.Runs ctx query gov' ds' sql') : gov = gov' ∧ ds = ds' ∧ sql = sql' := by
  obtain rfl : gov = gov' := Except.ok.inj (h.governed.symm.trans h'.governed)
  exact ⟨rfl, Option.some.inj (Except.ok.inj (h.stored.symm.trans h'.stored)),
    Except.ok.inj (h.generated.symm.trans h'.generated)⟩

/-- Governance stores the cap it applies. -/
theorem SchemaRoot.Runs.limit {gov : Governed} {ds : DataSource} {sql : GeneratedSql}
    (h : r.Runs ctx query gov ds sql) :
    gov.query = governedQuery ctx.callContext.sessionPolicy query none ∧
      (governedQuery ctx.callContext.sessionPolicy query none).limit = some gov.effectiveLimit := by
  obtain ⟨-, -, -, -, hquery, hlimit⟩ := govern_eq_ok.1 h.governed
  exact ⟨hquery, hquery ▸ hlimit⟩

theorem eq_of_empty {a b : Option (List Value)} (ha : ∀ data, a = some data → data = [])
    (hb : ∀ data, b = some data → data = []) (h : a = some [] ↔ b = some []) : a = b := by
  refine Option.ext fun data => ⟨fun hdata => ?_, fun hdata => ?_⟩
  · obtain rfl := ha data hdata
    exact h.1 hdata
  · obtain rfl := hb data hdata
    exact h.2 hdata

/-- `query` does what the service does, but for the next offset. -/
theorem query_governed_iff (dryRun : Option Bool) :
    (QueryField.query dryRun).Governed r host late ctx query ↔
      (QueryField.query dryRun).GovernedWhen r host late ctx query := by
  unfold QueryField.Governed
  have hserve : (QueryField.query dryRun).serve r host late ctx query =
      ⟨(r.query host ctx query dryRun).1.toOption.map (·.data), (r.query host ctx query dryRun).2.sent⟩ := rfl
  cases hdry : dryRun.getD false with
  | true =>
    refine iff_of_true ?_ fun h => absurd (hdry.symm.trans h) (by decide)
    obtain ⟨hsent, hsome, hempty⟩ := @query_dry r host ctx query dryRun hdry
    obtain ⟨hsent', hsome', hempty'⟩ :=
      @execute_dry host query r.service ctx.callContext (QueryField.query dryRun).options hdry
    rw [govern_options] at hsome'
    rw [hserve, hsent, eq_of_empty hempty hempty' (hsome.trans hsome'.symm)]
    exact congrArg (Served.mk _) hsent'.symm
  | false =>
    have hoptions : (QueryField.query dryRun).options.dryRun = false := hdry
    by_cases hruns : ∃ gov ds sql, r.Runs ctx query gov ds sql
    · obtain ⟨gov, ds, sql, h⟩ := hruns
      obtain ⟨hresult, hsent⟩ := @query_of_runs r host ctx query dryRun hdry gov ds sql h
      rw [hserve, hresult, hsent, serviceServes_of_runs hoptions h, Served.mk.injEq, and_iff_left rfl]
      constructor
      · rintro heq - gov' ds' sql' rows masked h' hreply hmasked
        obtain ⟨rfl, rfl, rfl⟩ := h.unique h'
        rw [hreply] at heq
        exact ((outcome_data h.offset).1 (heq ▸ respond_data.2 ⟨masked, hmasked, rfl⟩)).2
      · intro hfits
        cases hreply : host.executeSqlx ds sql with
        | rows rows =>
          refine Option.ext fun data => ?_
          rw [respond_data, outcome_data h.offset, iff_self_and]
          rintro ⟨masked, hmasked, -⟩
          exact hfits hdry gov ds sql rows masked h hreply hmasked
        | failed reason => rfl
        | timedOut => rfl
    · have hnone : ∀ gov ds sql, ¬r.Runs ctx query gov ds sql := fun gov ds sql h => hruns ⟨gov, ds, sql, h⟩
      obtain ⟨⟨e, hresult⟩, hsent⟩ := @query_of_no_statement r host ctx query dryRun hdry hnone
      rw [hserve, hresult, hsent, serviceServes_of_no_statement hoptions hnone]
      exact iff_of_true rfl fun _ gov ds sql rows masked h => absurd h (hnone gov ds sql)

/-- A tick does what the service does where there is nothing to govern. -/
theorem live_governed_iff :
    QueryField.liveQuery.Governed r host late ctx query ↔
      QueryField.liveQuery.GovernedWhen r host late ctx query := by
  have hdry : QueryField.liveQuery.options.dryRun = false := rfl
  unfold QueryField.Governed QueryField.GovernedWhen
  rw [serve_live]
  cases hlive : r.liveStatement query with
  | none =>
    by_cases hruns : ∃ gov ds sql, r.Runs ctx query gov ds sql
    · obtain ⟨gov, ds, sql, h⟩ := hruns
      rw [serviceServes_of_runs hdry h]
      exact iff_of_false served_ne fun hnone => hnone gov ds sql h
    · have hnone : ∀ gov ds sql, ¬r.Runs ctx query gov ds sql := fun gov ds sql h => hruns ⟨gov, ds, sql, h⟩
      rw [serviceServes_of_no_statement hdry hnone]
      exact iff_of_true rfl hnone
  | some statement =>
    obtain ⟨ds, sql⟩ := statement
    obtain ⟨modelName, model, hname, hmodel, hds, hsql⟩ := liveStatement_eq_some.1 hlive
    constructor
    · intro heq
      by_cases hruns : ∃ gov ds sql, r.Runs ctx query gov ds sql
      · obtain ⟨gov, ds', sql', h⟩ := hruns
        rw [serviceServes_of_runs hdry h, Served.mk.injEq] at heq
        obtain ⟨hrows, hsent⟩ := heq
        obtain ⟨rfl, rfl⟩ := Prod.mk.inj (sent_inj hsent)
        obtain ⟨hauth, hname', hmodel', hadmits, -, -⟩ := govern_eq_ok.1 h.governed
        obtain ⟨hquery, hlimit⟩ := h.limit
        refine ⟨hauth, fun name' model' hn hm => ?_, hquery ▸ h.generated, fun cap hcap => ?_⟩
        · obtain rfl := Option.some.inj (hname'.symm.trans hn)
          obtain rfl := Option.some.inj (Except.ok.inj (hmodel'.symm.trans hm))
          exact hadmits
        · obtain rfl := Option.some.inj (hlimit.symm.trans hcap)
          exact (outcome_eq_awaited h.offset _).1 hrows
      · have hnone : ∀ gov ds sql, ¬r.Runs ctx query gov ds sql := fun gov ds sql h => hruns ⟨gov, ds, sql, h⟩
        rw [serviceServes_of_no_statement hdry hnone] at heq
        exact absurd heq.symm served_ne
    · intro h
      have hruns : r.Runs ctx query ⟨modelName, model, governedQuery ctx.callContext.sessionPolicy query none,
          (applyRowCap ctx.callContext.sessionPolicy query none).2⟩ ds sql :=
        ⟨govern_eq_ok.2 ⟨h.authenticated, hname, hmodel, h.admitted modelName model hname hmodel, rfl, rfl⟩,
          h.unchanged, hds⟩
      rw [serviceServes_of_runs hdry hruns, Served.mk.injEq]
      exact ⟨(outcome_eq_awaited hruns.offset _).2 (h.reply _ hruns.limit.2), rfl⟩

/-- **Every GraphQL path to data is governed** exactly when a `query` numbers its next
page and a tick of `live_query` has nothing to govern. -/
theorem QueryField.governed_iff (field : QueryField) :
    field.Governed r host late ctx query ↔ field.GovernedWhen r host late ctx query := by
  cases field with
  | query dryRun => exact query_governed_iff dryRun
  | liveQuery => exact live_governed_iff

end

/-! ## An anonymous subscriber -/

namespace Subscriber

def payroll : Model := { name := "payroll", datasource := "hr", dimensions := [⟨"salary", none⟩] }

def hr : DataSource := ⟨"hr", "postgres", "postgres://hr"⟩

/-- A server that stores one model and its datasource. -/
def root : SchemaRoot where
  sqlEngine := (SqlEngine.new .postgres ⟨fun _ => false, fun _ => false⟩).withModels [payroll]
  storage := ⟨fun name _ => .ok (if name = "payroll" then some payroll else none),
    fun name => .ok (if name = "hr" then some hr else none)⟩

/-- One salary. -/
def salary : Row := ⟨[("salary", .number "90000")], by decide⟩

def host : Host := ⟨fun _ _ => .rows [salary], true⟩

/-- Nobody, on a server that requires authentication. -/
def nobody : GraphQLContext := { authRequired := true }

def query : Query := { name := some "payroll", dimensions := [⟨"salary", none⟩] }

end Subscriber

open Subscriber in
/-- The service refuses the caller; `live_query` runs the statement and yields the row. -/
theorem live_query_serves_anonymous :
    (QueryField.liveQuery.serve root host (fun _ _ => none) nobody query).rows =
        some [.object [("salary", .number "90000")]] ∧
      QueryField.liveQuery.serviceServes root host nobody query = ⟨none, []⟩ ∧
      ¬QueryField.liveQuery.Governed root host (fun _ _ => none) nobody query := by
  have hserve : (QueryField.liveQuery.serve root host (fun _ _ => none) nobody query).rows =
      some [.object [("salary", .number "90000")]] := by decide +kernel
  have hservice : QueryField.liveQuery.serviceServes root host nobody query = ⟨none, []⟩ := by decide +kernel
  refine ⟨hserve, hservice, fun hgoverned => ?_⟩
  rw [QueryField.Governed, hservice] at hgoverned
  rw [hgoverned] at hserve
  cases hserve

end GraphNight
