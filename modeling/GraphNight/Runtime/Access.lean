import GraphNight.Runtime.Governance

/-!
# Which model a governed call reads

Governance checks the model called `name` before the one `sourceModel` names; the
generator reads from the one `sourceModel` names first, and neither looks at its
datasource. The model read is a checked one when the two agree.
-/

namespace GraphNight

open QueryService SqlGenerator

/-- The statement was generated for the query with the model called `name` in FROM, in
the dialect `d`. -/
def ReadsFrom (query : Query) (sql : GeneratedSql) (name : String) (d : Dialect) : Prop :=
  ∃ g : SqlGenerator, ∃ aliasName, g.resolveSource query = .ok (name, aliasName) ∧
    g.generate query = .ok sql ∧ g.dialectFor name = d

/-- The statement of a call: handed back by a dry run, else the last one sent. -/
def StatementOf (s : QueryService) (host : Host) (ctx : CallContext) (query : Query) (options : ExecuteOptions)
    (out : QueryOutcome) (sql : GeneratedSql) (dsName : String) : Prop :=
  if options.dryRun then out.sql = some sql
  else ∃ ds, (s.execute host ctx query options).2.sent = s.sent ++ [(ds, sql)] ∧ ds.name = dsName

/-- The model a call reads is a model its policy admits, on the datasource asked for. -/
structure ReadsChecked (s : QueryService) (host : Host) (ctx : CallContext) (query : Query)
    (options : ExecuteOptions) (out : QueryOutcome) (m : Model) (sql : GeneratedSql) : Prop where
  registered : s.sqlEngine.generator.model m.name = some m
  reads : ReadsFrom (governedQuery ctx.sessionPolicy query options.maxRows) sql m.name
    (s.sqlEngine.generator.dialectFor m.name)
  admitted : Admits ctx.sessionPolicy m.name m.datasource
  dialect : out.dialect = (s.sqlEngine.generator.dialectFor m.name).name
  connection : StatementOf s host ctx query options out sql m.datasource
  asked : ∀ src d, query.sourceModel = some src → src.datasource = some d → d = m.datasource

/-- `name` and `sourceModel` lead to models that stand for each other: where both are
given and differ, the one to be read is admitted and on the same datasource (on a dry
run, of the same dialect), and a datasource given with it is its own. -/
structure SourceAgrees (g : SqlGenerator) (policy : SessionPolicy) (dryRun : Bool) (query : Query) : Prop where
  names : ∀ src name, query.sourceModel = some src → query.name = some name → name ≠ src.model →
    ∃ m checked, g.model src.model = some m ∧ g.model name = some checked ∧
      Admits policy m.name m.datasource ∧
      if dryRun then g.dialectFor m.name = g.dialectFor checked.name else m.datasource = checked.datasource
  datasource : ∀ src d, query.sourceModel = some src → src.datasource = some d →
    ∃ m, g.model src.model = some m ∧ m.datasource = d

section

variable {s : QueryService} {host : Host} {ctx : CallContext} {query : Query} {options : ExecuteOptions}
  {out : QueryOutcome}

theorem readName_governed (policy : SessionPolicy) (perCall : Option Nat) :
    readName (governedQuery policy query perCall) = readName query := rfl

/-- A generated statement reads from the model the query names. -/
theorem readsFrom_of_generate {g : SqlGenerator} {sql : GeneratedSql} (h : g.generate query = .ok sql) :
    ∃ name, readName query = some name ∧ ReadsFrom query sql name (g.dialectFor name) ∧
      g.resolvedDialectName query = (g.dialectFor name).name := by
  obtain ⟨name, aliasName, bound, shown, hsource, -, -, -⟩ := generate_eq_ok.1 h
  exact ⟨name, (resolveSource_eq_ok.1 hsource).1, ⟨g, aliasName, hsource, h, rfl⟩,
    by simp [resolvedDialectName, hsource]⟩

/-- The statement, its connection and its dialect are those of the governed model. -/
theorem statement_of_execute {gov : Governed} (h : (s.execute host ctx query options).1 = .ok out)
    (hgov : s.govern ctx query options = .ok gov)
    (hnamed : ∀ name ds, s.storage.getDatasource name = .ok (some ds) → ds.name = name) :
    ∃ sql, (s.sqlEngine.generateSql gov.query).1 = .ok sql ∧
      StatementOf s host ctx query options out sql gov.model.datasource ∧
      out.dialect = (s.sqlEngine.generator.dialectFor gov.modelName).name := by
  obtain ⟨gov', sql, hgov', hsql, hend⟩ := execute_eq_ok h
  obtain rfl : gov = gov' := Except.ok.inj (hgov.symm.trans hgov')
  refine ⟨sql, hsql, ?_⟩
  unfold StatementOf
  rcases hend with ⟨hdry, rfl, -⟩ | ⟨hdry, ds, hds, hout, hsent⟩
  · rw [if_pos hdry]
    exact ⟨rfl, rfl⟩
  · obtain ⟨-, -, -, -, -, hdialect⟩ := outcome_eq_ok hout
    rw [if_neg (by simp [hdry])]
    exact ⟨⟨ds, hsent, hnamed _ ds hds⟩, hdialect⟩

/-- A call has one statement, on one connection. -/
theorem StatementOf.unique {sql sql' : GeneratedSql} {name name' : String}
    (h : StatementOf s host ctx query options out sql name)
    (h' : StatementOf s host ctx query options out sql' name') :
    sql = sql' ∧ (options.dryRun = false → name = name') := by
  unfold StatementOf at h h'
  split_ifs at h h' with hdry
  · exact ⟨Option.some.inj (h.symm.trans h'), fun hno => absurd hdry (by simp [hno])⟩
  · obtain ⟨ds, hsent, rfl⟩ := h
    obtain ⟨ds', hsent', rfl⟩ := h'
    have heq := List.append_cancel_left (hsent.symm.trans hsent')
    simp only [List.cons.injEq, Prod.mk.injEq, and_true] at heq
    exact ⟨heq.2, fun _ => by rw [heq.1]⟩

/-- **The model that is read is the model that is checked** exactly when `name` and
`sourceModel` agree. -/
theorem readsChecked_iff (h : (s.execute host ctx query options).1 = .ok out)
    (hagree : ∀ name, s.storage.getModel name none = .ok (s.sqlEngine.generator.model name))
    (hnamed : ∀ name ds, s.storage.getDatasource name = .ok (some ds) → ds.name = name)
    (horigin : s.sqlEngine.PlanOrigin (governedQuery ctx.sessionPolicy query options.maxRows)) :
    (∃ m sql, ReadsChecked s host ctx query options out m sql) ↔
      SourceAgrees s.sqlEngine.generator ctx.sessionPolicy options.dryRun query := by
  obtain ⟨gov, -, hgov, -, -⟩ := execute_eq_ok h
  obtain ⟨-, hname, hmodel, hadmits, hquery, -⟩ := govern_eq_ok.1 hgov
  obtain ⟨sql, hsql, hstatement, hdialect⟩ := statement_of_execute h hgov hnamed
  have hchecked : s.sqlEngine.generator.model gov.modelName = some gov.model :=
    Except.ok.inj ((hagree _).symm.trans hmodel)
  have hcheckedName : gov.model.name = gov.modelName := KeyedList.key_of_get hchecked
  rw [← hcheckedName] at hname hchecked hdialect hadmits
  rw [hquery] at hsql
  obtain ⟨g', hgen, hdialect'⟩ := SqlEngine.generateSql_origin horigin hsql
  obtain ⟨readFrom, hread, hreads, hnamed'⟩ := readsFrom_of_generate hgen
  rw [readName_governed] at hread
  -- a model registered under the name read has the statement's dialect
  have hsame : ∀ m, s.sqlEngine.generator.model readFrom = some m →
      g'.dialectFor readFrom = s.sqlEngine.generator.dialectFor readFrom := fun m hm => by
    refine Dialect.name_injective (hnamed'.symm.trans (hdialect'.trans ?_))
    exact resolvedDialectName_of_read hread (by rw [hm]; rfl)
  constructor
  · rintro ⟨m, sql', hm⟩
    obtain ⟨-, hconn⟩ := hm.connection.unique hstatement
    obtain ⟨g'', aliasName, hsource, -, -⟩ := hm.reads
    have hmread : readName query = some m.name := (resolveSource_eq_ok.1 hsource).1
    have hsrcName : ∀ src, query.sourceModel = some src → src.model = m.name := fun src hsrc => by
      simpa [readName, hsrc] using hmread
    refine ⟨fun src name hsrc hqname _ => ?_, fun src d hsrc hd => ?_⟩
    · obtain rfl : name = gov.model.name := by simpa [governedName, hqname] using hname
      rw [hsrcName src hsrc]
      refine ⟨m, gov.model, hm.registered, hchecked, hm.admitted, ?_⟩
      split_ifs with hdry
      · exact Dialect.name_injective (hm.dialect.symm.trans hdialect)
      · exact hconn (by simpa using hdry)
    · rw [hsrcName src hsrc]
      exact ⟨m, hm.registered, (hm.asked src d hsrc hd).symm⟩
  · intro hagrees
    -- the model read, which is the checked one unless `name` and `sourceModel` differ
    obtain ⟨m, hm, hadm, hdial, hconn⟩ : ∃ m, s.sqlEngine.generator.model readFrom = some m ∧
        Admits ctx.sessionPolicy m.name m.datasource ∧
        s.sqlEngine.generator.dialectFor m.name = s.sqlEngine.generator.dialectFor gov.model.name ∧
        (options.dryRun = false → m.datasource = gov.model.datasource) := by
      by_cases heq : readFrom = gov.model.name
      · exact ⟨gov.model, heq ▸ hchecked, hadmits, rfl, fun _ => rfl⟩
      · cases hsrc : query.sourceModel with
        | none =>
          have hboth : query.name = some readFrom ∧ query.name = some gov.model.name := by
            simpa [readName, governedName, hsrc] using And.intro hread hname
          exact absurd (Option.some.inj (hboth.1.symm.trans hboth.2)) heq
        | some src =>
          obtain rfl : src.model = readFrom := by simpa [readName, hsrc] using hread
          cases hqname : query.name with
          | none =>
            have : src.model = gov.model.name := by simpa [governedName, hsrc, hqname] using hname
            exact absurd this heq
          | some name =>
            obtain rfl : name = gov.model.name := by simpa [governedName, hqname] using hname
            obtain ⟨m, checked, hm, hc, hadm, hsame⟩ := hagrees.names src _ hsrc hqname (Ne.symm heq)
            obtain rfl : checked = gov.model := Option.some.inj (hc.symm.trans hchecked)
            have hkey : m.name = src.model := KeyedList.key_of_get hm
            split_ifs at hsame with hdry
            · exact ⟨m, hm, hadm, hsame, fun hno => absurd hdry (by simp [hno])⟩
            · exact ⟨m, hm, hadm, hkey ▸ dialectFor_congr hm hchecked hsame, fun _ => hsame⟩
    have hkey : m.name = readFrom := KeyedList.key_of_get hm
    refine ⟨m, sql, hkey ▸ hm, ?_, hadm, hdialect.trans (congrArg Dialect.name hdial.symm), ?_, ?_⟩
    · rw [hkey, ← hsame m hm]
      exact hreads
    · unfold StatementOf at hstatement ⊢
      split_ifs at hstatement ⊢ with hdry
      · exact hstatement
      · rw [hconn (by simpa using hdry)]
        exact hstatement
    · intro src d hsrc hd
      obtain rfl : src.model = readFrom := by simpa [readName, hsrc] using hread
      obtain ⟨m', hm', rfl⟩ := hagrees.datasource src d hsrc hd
      rw [Option.some.inj (hm'.symm.trans hm)]

end

/-! ## Two names in one query -/

namespace TwoNames

def orders : Model := { name := "orders", datasource := "warehouse", dimensions := [⟨"status", none⟩] }

def salaries : Model := { name := "salaries", datasource := "hr", dimensions := [⟨"amount", none⟩] }

def storage : StorageBackend where
  getModel name _ := .ok ((KeyedList.ofList [orders, salaries] : ModelRegistry).get name)
  getDatasource name := .ok (if name = "warehouse" ∨ name = "hr" then some ⟨name, "postgres", ""⟩ else none)

def service : QueryService :=
  .new ((SqlEngine.new .postgres ⟨fun _ => false, fun _ => false⟩).withModels [orders, salaries]) storage

/-- A caller who may read orders and nothing else. -/
def ctx : CallContext :=
  { policy := some { allowedModels := some ["orders"], allowedDatasources := some ["warehouse"] } }

/-- `name` says orders, `source_model` says salaries. -/
def query : Query :=
  { name := some "orders", sourceModel := some { model := "salaries" }, dimensions := [⟨"amount", none⟩] }

/-- The query for orders alone. -/
def honest : Query := { name := some "orders", dimensions := [⟨"status", none⟩] }

/-- A database with one row. -/
def host : Host where
  executeSqlx _ _ := .rows [.ofList [("amount", .number "90000")]]
  overflowChecks := true

end TwoNames

open TwoNames in
/-- The statement sent reads salaries, which the policy does not admit, over the
connection of the datasource of orders. -/
theorem source_model_escapes_policy : ∃ out ds sql,
    (service.execute host ctx query {}).1 = .ok out ∧ (service.execute host ctx query {}).2.sent = [(ds, sql)] ∧
      ds.name = "warehouse" ∧
      sql.sql = "SELECT salaries.\"amount\" AS \"amount\" FROM \"salaries\" \"salaries\"  " ++
        "GROUP BY salaries.\"amount\"  LIMIT 10000" ∧
      ¬∃ m sql, ReadsChecked service host ctx query {} out m sql := by
  refine ⟨_, _, _, rfl, rfl, rfl, by decide +kernel, ?_⟩
  rintro ⟨m, sql, hm⟩
  obtain ⟨g, aliasName, hsource, -, -⟩ := hm.reads
  have hname : "salaries" = m.name := Option.some.inj (resolveSource_eq_ok.1 hsource).1
  have hmodel := hm.admitted.1
  rw [← hname] at hmodel
  exact absurd hmodel (by decide)

open TwoNames in
/-- A query that names one model reads a model that was checked. -/
theorem readsChecked_iff_honest : ∃ out, (service.execute host ctx honest {}).1 = .ok out ∧
    ∃ m sql, ReadsChecked service host ctx honest {} out m sql := by
  refine ⟨_, rfl, (readsChecked_iff rfl (fun name => rfl) ?_ ?_).2 ⟨?_, ?_⟩⟩
  · intro name ds hds
    simp only [service, QueryService.new, TwoNames.storage, Except.ok.injEq] at hds
    split_ifs at hds
    rw [← Option.some.inj hds]
  · intro sql hsql
    cases hsql
  · rintro src name ⟨⟩
  · rintro src d ⟨⟩

end GraphNight
