import GraphNight.Runtime.MultiStage

/-!
# What the audit trail records

The entry of a call is the last thing `execute` writes, so a call that ends before leaves
none: a refusal, a dry run, a statement that fails. A pipeline leaves one for each stage
that gets that far.
-/

namespace GraphNight

namespace QueryService

section

variable (s : QueryService) (host : Host) (ctx : CallContext) (query : Query) (options : ExecuteOptions)

/-- The entry names the caller and the model, and its flag is set where the call returned `Ok`. -/
structure Records (e : AuditEntry) : Prop where
  userId : e.userId = ctx.userId
  tenantId : e.tenantId = ctx.tenantId
  model : e.model = governedName query
  success : e.success = true ↔ ∃ out, (s.execute host ctx query options).1 = .ok out

/-- The call adds one entry to the trail, and that entry records it. -/
def AuditsOnce (entries : List AuditEntry) : Prop :=
  ∃ e, (s.execute host ctx query options).2.auditSink = some (entries ++ [e]) ∧ s.Records host ctx query options e

/-- Every step of the call up to its last one succeeds: it is governed, gets its SQL and its
datasource, executes, and the rows that come back can be masked and paged. -/
def RunsToEnd : Prop :=
  options.dryRun = false ∧ ∃ gov sql ds rows, s.govern ctx query options = .ok gov ∧
    (s.sqlEngine.generateSql gov.query).1 = .ok sql ∧
    s.storage.getDatasource gov.model.datasource = .ok (some ds) ∧ host.executeSqlx ds sql = .rows rows ∧
    (∃ masked, rows.mapM (maskRow ctx.sessionPolicy.columnMasks.items) = .ok masked) ∧
    ∃ next, nextOffsetOf host gov.query.offset rows.length (decide (gov.effectiveLimit ≤ rows.length)) = .ok next

end

/-! ## One call -/

variable {s : QueryService} {host : Host} {ctx : CallContext} {query : Query} {options : ExecuteOptions}

theorem outcome_isOk {policy : SessionPolicy} {gov : Governed} {sql : GeneratedSql} {dialect : String}
    {reply : ExecReply} :
    (∃ out, outcome host policy options gov sql dialect reply = .ok out) ↔
      ∃ rows, reply = .rows rows ∧ (∃ masked, rows.mapM (maskRow policy.columnMasks.items) = .ok masked) ∧
        ∃ next, nextOffsetOf host gov.query.offset rows.length (decide (gov.effectiveLimit ≤ rows.length)) = .ok next := by
  constructor
  · rintro ⟨out, h⟩
    obtain ⟨rows, masked, hreply, hmasked, -, -⟩ := outcome_eq_ok h
    refine ⟨rows, hreply, ⟨masked, hmasked⟩, ?_⟩
    subst hreply
    simp only [outcome, replyRows, hmasked, Res.bind_eq_ok, Except.ok.injEq, exists_eq_left'] at h
    obtain ⟨next, hnext, -⟩ := h
    exact ⟨next, hnext⟩
  · rintro ⟨rows, rfl, ⟨masked, hmasked⟩, next, hnext⟩
    obtain ⟨out, hout, -⟩ := @outcome_rows host policy options gov sql dialect rows masked next hmasked hnext
    exact ⟨out, hout⟩

/-- A call that runs to its end adds an entry of success. -/
theorem RunsToEnd.audited (h : s.RunsToEnd host ctx query options) :
    (∃ out, (s.execute host ctx query options).1 = .ok out) ∧
      ∃ e, (s.execute host ctx query options).2.auditSink = s.auditSink.map (· ++ [e]) ∧ e.userId = ctx.userId ∧
        e.tenantId = ctx.tenantId ∧ e.model = governedName query ∧ e.success = true := by
  obtain ⟨hdry, gov, sql, ds, rows, hgov, hsql, hds, hreply, hmask, hnext⟩ := h
  obtain ⟨out, hout⟩ := outcome_isOk.2 ⟨rows, hreply, hmask, hnext⟩
  have hconnect : connect { s with sqlEngine := (s.sqlEngine.generateSql gov.query).2 } gov.model.datasource = .ok ds :=
    connect_eq_ok.2 hds
  obtain ⟨-, hname, -⟩ := govern_eq_ok.1 hgov
  simp only [execute, hgov, hsql, Res.mapErr, hdry, Bool.false_eq_true, if_false, hconnect]
  rw [hout]
  exact ⟨⟨out, rfl⟩, _, rfl, rfl, rfl, hname.symm, rfl⟩

/-- A call that does not run to its end adds nothing. -/
theorem auditSink_of_not_runsToEnd (h : ¬s.RunsToEnd host ctx query options) :
    (s.execute host ctx query options).2.auditSink = s.auditSink := by
  unfold execute
  cases hgov : s.govern ctx query options with
  | error e => rfl
  | ok gov =>
    dsimp only
    cases hsql : (s.sqlEngine.generateSql gov.query).1.mapErr ServiceError.invalidQuery with
    | error e => rfl
    | ok sql =>
      dsimp only
      cases hdry : options.dryRun with
      | true => rfl
      | false =>
        rw [if_neg Bool.false_ne_true]
        cases hds : connect { s with sqlEngine := (s.sqlEngine.generateSql gov.query).2 } gov.model.datasource with
        | error e => rfl
        | ok ds =>
          dsimp only
          split
          · rfl
          · rename_i out hout
            obtain ⟨rows, hreply, hmask, hnext⟩ := outcome_isOk.1 ⟨out, hout⟩
            exact absurd ⟨hdry, gov, sql, ds, rows, hgov, Res.mapErr_eq_ok.1 hsql, connect_eq_ok.1 hds, hreply, hmask,
              hnext⟩ h

/-- **A call is recorded** exactly where it runs to its end. -/
theorem auditsOnce_iff {entries : List AuditEntry} (hsink : s.auditSink = some entries) :
    s.AuditsOnce host ctx query options entries ↔ s.RunsToEnd host ctx query options := by
  constructor
  · rintro ⟨e, hadded, -⟩
    by_contra h
    rw [auditSink_of_not_runsToEnd h, hsink] at hadded
    simp at hadded
  · intro h
    obtain ⟨hok, e, hadded, huser, htenant, hmodel, hsuccess⟩ := h.audited
    refine ⟨e, ?_, huser, htenant, hmodel, ?_⟩
    · rw [hadded, hsink]
      rfl
    · simp only [hsuccess, hok]

/-! ## A pipeline -/

/-- A stage that is attempted: the service it is handed to, and its query. -/
structure Attempt where
  service : QueryService
  query : Query

end QueryService

namespace MultiStage

variable (std : RustStd) (host : Host) (ctx : CallContext) (stages : List (String × Query))

/-- The stages `run` hands to `execute`, in order. -/
def attempts (position : KeyedList (String × Nat) Prod.fst) (options : ExecuteOptions) :
    List String → Outcomes → QueryService → List QueryService.Attempt
  | [], _, _ => []
  | name :: order, byName, s =>
    match prepare std stages byName name with
    | .error _ => []
    | .ok query =>
      let (result, s') := s.execute host ctx query options
      ⟨s, query⟩ ::
        match result, position.get name with
        | .ok outcome, some _ => attempts position options order (byName.insert (name, outcome)) s'
        | _, _ => []

variable {std stages}

/-- The entries of a run: at most one for each attempted stage, one for each where all of them
run to their end, and as many as stages only there. -/
structure Trail (a : List QueryService.Attempt) (options : ExecuteOptions) (added : List AuditEntry) : Prop where
  length_le : added.length ≤ a.length
  runsToEnd : added.length = a.length → ∀ t ∈ a, t.service.RunsToEnd host ctx t.query options
  records : (∀ t ∈ a, t.service.RunsToEnd host ctx t.query options) →
    List.Forall₂ (fun (t : QueryService.Attempt) e => t.service.Records host ctx t.query options e) a added

variable {host ctx}

theorem Trail.nil {options : ExecuteOptions} : Trail host ctx [] options [] :=
  ⟨Nat.le_refl 0, by simp, fun _ => .nil⟩

/-- An attempt that does not run to its end leaves a stage without its entry. -/
theorem Trail.skip {t : QueryService.Attempt} {a : List QueryService.Attempt} {options : ExecuteOptions}
    {added : List AuditEntry} (h : Trail host ctx a options added)
    (ht : ¬t.service.RunsToEnd host ctx t.query options) : Trail host ctx (t :: a) options added where
  length_le := Nat.le_succ_of_le h.length_le
  runsToEnd hlength := by
    have := h.length_le
    simp only [List.length_cons] at hlength
    omega
  records hall := absurd (hall t List.mem_cons_self) ht

theorem Trail.cons {t : QueryService.Attempt} {a : List QueryService.Attempt} {options : ExecuteOptions}
    {e : AuditEntry} {added : List AuditEntry} (h : Trail host ctx a options added)
    (ht : t.service.RunsToEnd host ctx t.query options) (he : t.service.Records host ctx t.query options e) :
    Trail host ctx (t :: a) options (e :: added) where
  length_le := Nat.succ_le_succ h.length_le
  runsToEnd hlength := by
    intro t' ht'
    rcases List.mem_cons.1 ht' with rfl | ht'
    · exact ht
    · exact h.runsToEnd (Nat.succ.inj hlength) t' ht'
  records hall := .cons he (h.records fun t' ht' => hall t' (List.mem_cons_of_mem _ ht'))

/-- A stage and those after it. -/
theorem Trail.step {s s' : QueryService} {query : Query} {options : ExecuteOptions} {a : List QueryService.Attempt}
    {entries : List AuditEntry} (hsink : s.auditSink = some entries)
    (hrest : ∀ entries', (s.execute host ctx query options).2.auditSink = some entries' →
      ∃ added, s'.auditSink = some (entries' ++ added) ∧ Trail host ctx a options added) :
    ∃ added, s'.auditSink = some (entries ++ added) ∧ Trail host ctx (⟨s, query⟩ :: a) options added := by
  by_cases hends : s.RunsToEnd host ctx query options
  · obtain ⟨e, hadded, hrecords⟩ := (QueryService.auditsOnce_iff hsink).2 hends
    obtain ⟨added, hafter, htrail⟩ := hrest _ hadded
    refine ⟨e :: added, ?_, htrail.cons hends hrecords⟩
    rw [hafter, List.append_assoc, List.singleton_append]
  · obtain ⟨added, hafter, htrail⟩ := hrest entries ((QueryService.auditSink_of_not_runsToEnd hends).trans hsink)
    exact ⟨added, hafter, htrail.skip hends⟩

/-- **The trail of a run**, by induction on the stages still to be run. -/
theorem run_auditSink {position : KeyedList (String × Nat) Prod.fst} {options : ExecuteOptions} (order : List String)
    (byName : Outcomes) (out : List (Option QueryOutcome)) (s : QueryService) {entries : List AuditEntry}
    (hsink : s.auditSink = some entries) :
    ∃ added, (run std host ctx stages position options order byName out s).2.auditSink = some (entries ++ added) ∧
      Trail host ctx (attempts std host ctx stages position options order byName s) options added := by
  induction order generalizing byName out s entries with
  | nil => exact ⟨[], by simp [run, hsink], .nil⟩
  | cons name order ih =>
    rw [run, attempts]
    cases prepare std stages byName name with
    | error e => exact ⟨[], by simp [hsink], .nil⟩
    | ok query =>
      dsimp only
      cases (s.execute host ctx query options).1 with
      | error e =>
        apply Trail.step hsink
        intro entries' hsink'
        exact ⟨[], by simp [hsink'], .nil⟩
      | ok outcome =>
        dsimp only
        cases position.get name with
        | none =>
          apply Trail.step hsink
          intro entries' hsink'
          exact ⟨[], by simp [hsink'], .nil⟩
        | some place =>
          apply Trail.step hsink
          intro entries' hsink'
          exact ih (byName.insert (name, outcome)) (out.set place.2 (some outcome)) _ hsink'

end MultiStage

namespace QueryService

variable {s : QueryService} {host : Host} {ctx : CallContext}

/-- How every stage of a pipeline is run. -/
def stageOptions (dryRun : Bool) : ExecuteOptions := if dryRun then .compile else .executing

/-- The stages of a pipeline that are attempted. -/
def stageAttempts (std : RustStd) (s : QueryService) (host : Host) (ctx : CallContext) (stages : List (String × Query))
    (dryRun : Bool) : List Attempt :=
  match MultiStage.plan std stages with
  | .error _ => []
  | .ok (order, position) => MultiStage.attempts std host ctx stages position (stageOptions dryRun) order .empty s

/-- The pipeline adds one entry for each attempted stage, in order, and each records its stage. -/
def AuditsStages (std : RustStd) (s : QueryService) (host : Host) (ctx : CallContext) (stages : List (String × Query))
    (dryRun : Bool) (entries : List AuditEntry) : Prop :=
  ∃ added, (s.executeMultiStage std host ctx stages dryRun).2.auditSink = some (entries ++ added) ∧
    List.Forall₂ (fun (a : Attempt) e => a.service.Records host ctx a.query (stageOptions dryRun) e)
      (s.stageAttempts std host ctx stages dryRun) added

theorem auditsStages_iff {std : RustStd} {stages : List (String × Query)} {dryRun : Bool} {entries : List AuditEntry}
    (hsink : s.auditSink = some entries) :
    s.AuditsStages std host ctx stages dryRun entries ↔
      ∀ a ∈ s.stageAttempts std host ctx stages dryRun, a.service.RunsToEnd host ctx a.query (stageOptions dryRun) := by
  have htrail : ∃ added, (s.executeMultiStage std host ctx stages dryRun).2.auditSink = some (entries ++ added) ∧
      MultiStage.Trail host ctx (s.stageAttempts std host ctx stages dryRun) (stageOptions dryRun) added := by
    unfold executeMultiStage stageAttempts
    cases MultiStage.plan std stages with
    | error e => exact ⟨[], by simp [hsink], .nil⟩
    | ok planned => exact MultiStage.run_auditSink planned.1 .empty (stages.map fun _ => none) s hsink
  obtain ⟨added, hadded, htrail⟩ := htrail
  constructor
  · rintro ⟨added', hadded', hall⟩
    obtain rfl : added' = added := by
      rw [hadded] at hadded'
      exact (List.append_cancel_left (Option.some.inj hadded')).symm
    exact htrail.runsToEnd hall.length_eq.symm
  · intro hall
    exact ⟨added, hadded, htrail.records hall⟩

/-- **The audit trail is complete** for the calls, and the stages, that run to their end, and
for no others. -/
theorem audit_trail_iff {entries : List AuditEntry} (hsink : s.auditSink = some entries) :
    (∀ (host : Host) (ctx : CallContext) (query : Query) (options : ExecuteOptions),
        s.AuditsOnce host ctx query options entries ↔ s.RunsToEnd host ctx query options) ∧
      ∀ (std : RustStd) (host : Host) (ctx : CallContext) (stages : List (String × Query)) (dryRun : Bool),
        s.AuditsStages std host ctx stages dryRun entries ↔
          ∀ a ∈ s.stageAttempts std host ctx stages dryRun,
            a.service.RunsToEnd host ctx a.query (stageOptions dryRun) :=
  ⟨fun _ _ _ _ => auditsOnce_iff hsink, fun _ _ _ _ _ => auditsStages_iff hsink⟩

end QueryService

/-! ## A refusal and a failure -/

namespace UserListing

def model : Model := { name := "users", datasource := "crm", dimensions := [⟨"id", none⟩] }

def dataSource : DataSource := { name := "crm", driver := "postgres", connectionString := "" }

def service : QueryService where
  sqlEngine := (SqlEngine.new .postgres ⟨fun _ => false, fun _ => false⟩).withModels [model]
  storage := ⟨fun name _ => .ok (if name = "users" then some model else none), fun _ => .ok (some dataSource)⟩
  auditSink := some []
  sent := []

def query : Query := { name := some "users", dimensions := [⟨"id", none⟩] }

/-- A database that answers, and one that does not. -/
def answering : Host := ⟨fun _ _ => .rows [.ofList [("id", .number "7")]], true⟩

def failing : Host := ⟨fun _ _ => .failed "connection refused", true⟩

def ana : CallContext := { userId := some "ana" }

def std : RustStd := ⟨fun _ => false, id, List.Perm.refl, fun _ => 0, fun _ => none, id⟩

theorem runsToEnd : service.RunsToEnd answering ana query {} :=
  ⟨rfl, _, _, _, _, rfl, rfl, rfl, rfl, ⟨_, rfl⟩, _, rfl⟩

end UserListing

open UserListing in
/-- A call whose statement fails, and one without the credentials it needs, leave no entry. -/
theorem failed_call_unrecorded :
    service.auditSink = some [] ∧ (service.execute failing ana query {}).2.auditSink = some [] ∧
      (service.execute answering { authRequired := true } query {}).2.auditSink = some [] ∧
      ¬service.AuditsOnce failing ana query {} [] ∧
      ¬service.AuditsOnce answering { authRequired := true } query {} [] := by
  have hfailed : (service.execute failing ana query {}).2.auditSink = some [] := rfl
  have hrefused : (service.execute answering { authRequired := true } query {}).2.auditSink = some [] := rfl
  refine ⟨rfl, hfailed, hrefused, ?_, ?_⟩
  · rintro ⟨e, hadded, -⟩
    rw [hfailed] at hadded
    cases hadded
  · rintro ⟨e, hadded, -⟩
    rw [hrefused] at hadded
    cases hadded

open UserListing in
/-- A listing that is answered is recorded, and so is the pipeline of that one stage. -/
theorem QueryService.audit_trail_iff_answered :
    service.AuditsOnce answering ana query {} [] ∧
      service.AuditsStages std answering ana [("all", query)] false [] := by
  obtain ⟨hcalls, hpipelines⟩ := @audit_trail_iff service [] rfl
  refine ⟨(hcalls answering ana query {}).2 runsToEnd, (hpipelines std answering ana _ false).2 ?_⟩
  have hattempts : service.stageAttempts std answering ana [("all", query)] false = [⟨service, query⟩] := rfl
  rw [hattempts]
  intro a ha
  rw [List.mem_singleton.1 ha]
  exact runsToEnd

end GraphNight
