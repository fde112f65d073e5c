import GraphNight.Sql.FormulaText
import GraphNight.Sql.PieceTokens
import GraphNight.Sql.Scope

/-!
# A generated statement as the databases read it

What a statement splices as it stands decides whether it can be read: the qualifiers, the times, the
order fields with a dot, the parts of the ON conditions, the names of custom aggregations and the SQL
of the source. Where these are as they should be, the whole statement is.
-/

namespace GraphNight

open SqlText

/-! ## What a measure is written as -/

namespace FormulaParser

/-- A formula never names a custom aggregation. -/
theorem parseMeasureWithin_not_custom {fp : FormulaParser} {fuel : Nat} {text : String} {measure : Measure}
    (h : fp.parseMeasureWithin fuel text = .ok measure) : ∀ name, measure.aggregation ≠ .custom name := by
  induction fuel generalizing text measure with
  | zero => cases h
  | succ fuel ih =>
    unfold parseMeasureWithin at h
    dsimp only at h
    generalize Str.trim text = expr at h
    by_cases hempty : expr = ""
    · rw [if_pos hempty] at h
      exact absurd h Res.fail_ne_ok
    rw [if_neg hempty] at h
    cases hshift : fp.timeShiftCaptures expr with
    | some caps =>
      obtain ⟨inner, offset, granularity⟩ := caps
      rw [hshift] at h
      simp only [Res.bind_eq_ok] at h
      obtain ⟨_, -, innerMeasure, hinner, h⟩ := h
      obtain rfl := Except.ok.inj h
      exact fun name hname => ih hinner name hname
    | none =>
      rw [hshift] at h
      cases hratio : ratioCaptures expr with
      | some caps =>
        obtain ⟨num, denom⟩ := caps
        rw [hratio] at h
        simp only [Res.bind_eq_ok] at h
        obtain ⟨_, -, _, -, h⟩ := h
        obtain rfl := Except.ok.inj h
        exact fun name hname => by cases hname
      | none =>
        rw [hratio] at h
        cases hagg : fp.aggCaptures expr with
        | some caps =>
          obtain ⟨field, agg⟩ := caps
          rw [hagg] at h
          simp only [Res.bind_eq_ok] at h
          obtain ⟨aggregation, haggregation, h⟩ := h
          obtain rfl := Except.ok.inj h
          rintro name rfl
          unfold parseAggregation at haggregation
          split at haggregation <;> cases haggregation
        | none =>
          rw [hagg] at h
          obtain rfl := Except.ok.inj h
          exact fun name hname => by cases hname

theorem parseMeasure_not_custom {fp : FormulaParser} {text : String} {measure : Measure} (h : fp.parseMeasure text = .ok measure) :
    ∀ name, measure.aggregation ≠ .custom name := parseMeasureWithin_not_custom h

end FormulaParser

namespace SqlGenerator

/-- The text of a measure, by the form its expression has, with what it reads. -/
inductive MeasureText (g : SqlGenerator) (sourceAlias base : String) (measure : Measure) : SqlText → MeasureReads → Prop where
  | direct {column : SqlText} {fields : List String} (hform : FormulaParser.needsParse (Str.trim measure.formula.expression) = false)
      (hcolumn : g.resolveExpression sourceAlias base measure.formula.expression = .ok column)
      (hfields : expressionFields measure.formula.expression = .ok fields) :
      MeasureText g sourceAlias base measure (aggregateText measure.aggregation column) ⟨fields, false⟩
  | shorthand {parsed : Measure} {column : SqlText} {fields : List String} (hagg : ∀ name, parsed.aggregation ≠ .custom name)
      (hcolumn : g.resolveExpression sourceAlias base parsed.formula.expression = .ok column)
      (hfields : expressionFields parsed.formula.expression = .ok fields) :
      MeasureText g sourceAlias base measure (aggregateText parsed.aggregation column) ⟨fields, false⟩
  | timeShift {inner : Measure} (hagg : ∀ name, inner.aggregation ≠ .custom name) :
      MeasureText g sourceAlias base measure
        (code "LAG(" ++ g.aggregateColumn sourceAlias base inner ++ code ") OVER (ORDER BY " ++ raw sourceAlias ++ code ")")
        ⟨[inner.formula.expression], true⟩
  | ratio {num denom : Measure} (hnum : ∀ name, num.aggregation ≠ .custom name) (hdenom : ∀ name, denom.aggregation ≠ .custom name) :
      MeasureText g sourceAlias base measure (ratioText (g.aggregateColumn sourceAlias base num) (g.aggregateColumn sourceAlias base denom))
        ⟨[num.formula.expression, denom.formula.expression], false⟩
  | pctChange {inner : Measure} (hagg : ∀ name, inner.aggregation ≠ .custom name) :
      MeasureText g sourceAlias base measure (pctChangeText sourceAlias (g.aggregateColumn sourceAlias base inner))
        ⟨[inner.formula.expression], true⟩
  | runningTotal {inner : Measure} (hagg : ∀ name, inner.aggregation ≠ .custom name) :
      MeasureText g sourceAlias base measure (runningTotalText sourceAlias (g.aggregateColumn sourceAlias base inner))
        ⟨[inner.formula.expression], true⟩

section

variable {g : SqlGenerator} {sourceAlias base : String} {measure : Measure} {t : SqlText}

theorem exists_measureText (h : g.buildMeasureExpression sourceAlias base measure = .ok t) :
    ∃ reads, g.measureReads measure = .ok reads ∧ g.MeasureText sourceAlias base measure t reads := by
  have hnotCustom : ∀ {text : String} {parsed : Measure}, g.formulaParser.parseMeasure text = .ok parsed →
      ∀ name, parsed.aggregation ≠ .custom name := FormulaParser.parseMeasure_not_custom
  have hstandard : ∀ {parsed : Measure} {u : SqlText}, g.buildStandardAggregation sourceAlias base parsed = .ok u →
      ∃ column fields, u = aggregateText parsed.aggregation column ∧
        g.resolveExpression sourceAlias base parsed.formula.expression = .ok column ∧
        expressionFields parsed.formula.expression = .ok fields ∧ standardReads parsed = .ok ⟨fields, false⟩ := by
    intro parsed u hu
    obtain ⟨column, hcolumn, hu⟩ := Res.bind_eq_ok.1 hu
    obtain ⟨fields, hfields, -⟩ := refs_resolveExpression hcolumn
    refine ⟨column, fields, (Except.ok.inj hu).symm, hcolumn, hfields, ?_⟩
    simp only [standardReads, hfields, bind, Except.bind, pure, Except.pure]
  unfold buildMeasureExpression at h
  unfold measureReads
  dsimp only at h ⊢
  by_cases hparse : FormulaParser.needsParse (Str.trim measure.formula.expression) = true
  · rw [if_pos hparse] at h ⊢
    generalize Str.trim measure.formula.expression = expr at h ⊢
    by_cases hshift : Str.startsWith expr "time_shift(" = true
    · rw [if_pos hshift] at h ⊢
      obtain ⟨⟨inner, offset, granularity⟩, hcaps, h⟩ := Res.bind_eq_ok.1 h
      obtain ⟨parsed, hparsed, h⟩ := Res.bind_eq_ok.1 h
      obtain rfl := Except.ok.inj h
      refine ⟨⟨[parsed.formula.expression], true⟩, ?_, .timeShift (hnotCustom hparsed)⟩
      simp only [timeShiftReads, hcaps, hparsed, bind, Except.bind, pure, Except.pure]
    rw [if_neg hshift] at h ⊢
    by_cases hratio : Str.startsWith expr "ratio(" = true
    · rw [if_pos hratio] at h ⊢
      obtain ⟨⟨num, denom⟩, hcaps, h⟩ := Res.bind_eq_ok.1 h
      obtain ⟨numMeasure, hnum, h⟩ := Res.bind_eq_ok.1 h
      obtain ⟨denomMeasure, hdenom, h⟩ := Res.bind_eq_ok.1 h
      obtain rfl := Except.ok.inj h
      refine ⟨⟨[numMeasure.formula.expression, denomMeasure.formula.expression], false⟩, ?_, .ratio (hnotCustom hnum) (hnotCustom hdenom)⟩
      simp only [ratioReads, hcaps, hnum, hdenom, bind, Except.bind, pure, Except.pure]
    rw [if_neg hratio] at h ⊢
    by_cases hpct : Str.startsWith expr "pct_change(" = true
    · rw [if_pos hpct] at h ⊢
      obtain ⟨inner, hinner, h⟩ := Res.bind_eq_ok.1 h
      obtain ⟨parsed, hparsed, h⟩ := Res.bind_eq_ok.1 h
      obtain rfl := Except.ok.inj h
      refine ⟨⟨[parsed.formula.expression], true⟩, ?_, .pctChange (hnotCustom hparsed)⟩
      simp only [windowReads, hinner, hparsed, bind, Except.bind, pure, Except.pure]
    rw [if_neg hpct] at h ⊢
    by_cases htotal : Str.startsWith expr "running_total(" = true
    · rw [if_pos htotal] at h ⊢
      obtain ⟨inner, hinner, h⟩ := Res.bind_eq_ok.1 h
      obtain ⟨parsed, hparsed, h⟩ := Res.bind_eq_ok.1 h
      obtain rfl := Except.ok.inj h
      refine ⟨⟨[parsed.formula.expression], true⟩, ?_, .runningTotal (hnotCustom hparsed)⟩
      simp only [windowReads, hinner, hparsed, bind, Except.bind, pure, Except.pure]
    rw [if_neg htotal] at h ⊢
    obtain ⟨parsed, hparsed, h⟩ := Res.bind_eq_ok.1 h
    obtain ⟨column, fields, rfl, hcolumn, hfields, hreads⟩ := hstandard h
    refine ⟨⟨fields, false⟩, ?_, .shorthand (hnotCustom ((Res.mapErr_eq_ok).1 hparsed)) hcolumn hfields⟩
    simp only [hparsed, hreads, bind, Except.bind]
  · rw [if_neg hparse] at h ⊢
    obtain ⟨column, fields, rfl, hcolumn, hfields, hreads⟩ := hstandard h
    exact ⟨⟨fields, false⟩, hreads, .direct (Bool.eq_false_iff.2 hparse) hcolumn hfields⟩

end

/-! ## What is spliced as it stands -/

end SqlGenerator

/-- A part of an ON condition that was not recognised as a comparison of two columns stands for a
name. -/
def onName : Frag → Frag
  | .code x => if x ∈ ["", ".", " = ", " AND "] then .code x else .raw x
  | f => f

def onNames (t : SqlText) : SqlText := t.map onName

/-- The statement of a plan, its ON conditions by their parts. -/
def Dialect.statementParts (d : Dialect) (plan : LogicalPlan) : SqlText :=
  d.statementText { plan with joins := plan.joins.map fun j => { j with on := onNames j.on } }

theorem renderFrag_onName (d : Dialect) (f : Frag) : d.renderFrag (onName f) = d.renderFrag f := by
  cases f with
  | code x =>
    unfold onName
    dsimp only
    split_ifs <;> rfl
  | _ => rfl

theorem render_onNames (d : Dialect) (t : SqlText) : d.render (onNames t) = d.render t := by
  induction t with
  | nil => rfl
  | cons f t ih =>
    rw [onNames, List.map_cons, Dialect.render_cons, renderFrag_onName, Dialect.render_cons, ← ih]
    rfl

theorem Dialect.render_joinText (d : Dialect) (j : JoinClause) : d.render (joinText { j with on := onNames j.on }) = d.render (joinText j) := by
  simp only [joinText, render_append, render_onNames]

/-- Both are the same text. -/
theorem Dialect.render_statementParts (d : Dialect) (plan : LogicalPlan) : d.render (d.statementParts plan) = d.render (d.statementText plan) := by
  have hjoins : d.render ((plan.joins.map fun j => ({ j with on := onNames j.on } : JoinClause)).map joinText).flatten =
      d.render (plan.joins.map joinText).flatten := by
    induction plan.joins with
    | nil => rfl
    | cons j joins ih =>
      simp only [List.map_cons, List.flatten_cons, render_append, render_joinText, ih]
  unfold statementParts statementText
  dsimp only
  rw [limitOffset_append, limitOffset_append d (_ ++ _)]
  simp only [render_append, hjoins]
  rfl

namespace SqlGenerator

section

variable (k : Reading) (g : SqlGenerator) (query : Query) (m : Model) (sourceAlias : String)

/-- A qualifier is read up to its dot, or to what ends it. -/
def Qualifies (d : Dialect) (owner : String) : Prop := Leads k d Spot.ready (raw owner) (Spot.qualifies d)

/-- The owner of a field is read as a qualifier, and its column has no NUL. -/
def FieldQualifies (field : String) : Prop :=
  ∀ owner column, g.resolveField m.name field sourceAlias = some (owner, column) →
    Qualifies k (g.dialectFor m.name) owner ∧ '\x00' ∉ column.toList

/-- What the statement splices as it stands is read as what it is there, and what it quotes has no NUL. -/
structure Spliceable : Prop where
  fields : ∀ field ∈ plainFields query, g.FieldQualifies k m sourceAlias field
  measures : ∀ measure ∈ query.measures, ∀ reads, g.measureReads measure = .ok reads →
    (∀ field ∈ reads.fields, g.FieldQualifies k m sourceAlias field) ∧ (reads.window = true → Qualifies k (g.dialectFor m.name) sourceAlias)
  aggregations : ∀ measure ∈ query.measures, FormulaParser.needsParse (Str.trim measure.formula.expression) = false →
    ∀ name, measure.aggregation = .custom name → k.closedBefore (g.dialectFor m.name) '(' name = true
  times : ∀ td ∈ query.timeDimensions,
    Leads k (g.dialectFor m.name) Spot.ready (raw sourceAlias ++ code "." ++ raw td.dimension) (Spot.stopped (g.dialectFor m.name))
  orders : ∀ order ∈ query.order,
    Leads k (g.dialectFor m.name) Spot.ready (orderByItem sourceAlias order).column (Spot.stopped (g.dialectFor m.name))
  conditions : ∀ e ∈ statementLinks g.modelRegistry.items m,
    Leads k (g.dialectFor m.name) Spot.ready (onNames (writtenClause sourceAlias e).on) (Spot.stopped (g.dialectFor m.name))
  source : ∀ sql, sourceOverride (some m) = some sql →
    k.closedBefore (g.dialectFor m.name) ')' (Str.trimEndMatches ';' (Str.trim sql)) = true
  table : sourceOverride (some m) = none → '\x00' ∉ m.name.toList
  named : '\x00' ∉ sourceAlias.toList
  labels : ∀ name ∈ query.selectedNames, '\x00' ∉ name.toList
  joined : ∀ e ∈ statementLinks g.modelRegistry.items m,
    '\x00' ∉ (writtenClause sourceAlias e).table.toList ∧ '\x00' ∉ (writtenClause sourceAlias e).aliasName.toList

end

section

variable {k : Reading} {g : SqlGenerator} {query : Query} {d : Dialect} {m : Model} {base sourceAlias : String}

theorem leads_star : Leads k d Spot.ready (code "*") (Spot.stopped d) :=
  leads_ready (by decide) (by cases k <;> cases d <;> decide)

theorem leads_field {field : String} (h : ∀ owner column, g.resolveField base field sourceAlias = some (owner, column) → Qualifies k d owner ∧ '\x00' ∉ column.toList) :
    Leads k d Spot.ready (g.qualifyField base field sourceAlias) (Spot.stopped d) := by
  rw [qualifyField_eq]
  cases hfield : g.resolveField base field sourceAlias with
  | none => exact leads_star
  | some p => exact leads_qualified (h p.1 p.2 hfield).1 (h p.1 p.2 hfield).2

/-- A column or a call. -/
theorem leads_resolveExpression {expr : String} {column : SqlText} {fields : List String}
    (h : g.resolveExpression sourceAlias base expr = .ok column) (hfields : expressionFields expr = .ok fields)
    (howners : ∀ field ∈ fields, ∀ owner column, g.resolveField base field sourceAlias = some (owner, column) → Qualifies k d owner ∧ '\x00' ∉ column.toList) :
    Leads k d Spot.ready column (Spot.stopped d) := by
  unfold expressionFields at hfields
  obtain ⟨call, hcall, hfields⟩ := Res.bind_eq_ok.1 hfields
  obtain rfl := Except.ok.inj hfields
  have hparse := Res.mapErr_eq_ok.1 hcall
  cases call with
  | none =>
    rw [resolveExpression_of_no_call hparse] at h
    obtain rfl := Except.ok.inj h
    exact leads_field (howners expr (List.mem_singleton.2 rfl))
  | some call =>
    rw [resolveExpression_of_call hparse] at h
    obtain rfl := Except.ok.inj h
    have hiscall := parseFunctionCall_eq_some.1 hparse
    have hallowed : isAllowedFunction call.name = true := by
      obtain ⟨lead, gap, body, -, -, -, hallowed, -⟩ := hiscall
      exact hallowed
    have hword : Leads k d Spot.ready [.func call.name] (Spot.qualifies d) := leads_word rfl (identifier_of_isAllowedFunction hallowed)
    have hname : Leads k d Spot.ready [.func call.name] (Spot.stopped d) := hword.to_mono fun _ hspot => Spot.stopped_of_qualifies hspot
    refine (((hname.append leads_open).append (leads_join leads_comma ?_)).append leads_close).stopped_of_ready
    rintro t ht
    obtain ⟨arg, harg, rfl⟩ := List.mem_map.1 ht
    obtain ⟨word, hword⟩ := hiscall.isArg arg harg
    cases hword with
    | number hnumber => exact leads_number hnumber
    | column hcolumn =>
      refine leads_field (howners word ?_)
      exact List.mem_filterMap.2 ⟨_, harg, rfl⟩

theorem leads_aggregateColumn {measure : Measure} (hagg : ∀ name, measure.aggregation ≠ .custom name)
    (howner : ∀ owner column, g.resolveField base measure.formula.expression sourceAlias = some (owner, column) → Qualifies k d owner ∧ '\x00' ∉ column.toList) :
    Leads k d Spot.ready (g.aggregateColumn sourceAlias base measure) Spot.ready :=
  leads_aggregation (fun name hname => absurd hname (hagg name)) (leads_field howner)

/-- A window over what is before it. -/
theorem leads_window {t : SqlText} (ht : Leads k d Spot.ready t Spot.ready) (halias : Qualifies k d sourceAlias) {fn mid close : String}
    (hfn : Leads k d Spot.ready (code fn) Spot.ready) (hmid : Leads k d (Spot.stopped d) (code mid) Spot.ready)
    (hclose : Leads k d (Spot.stopped d) (code close) Spot.ready) :
    Leads k d Spot.ready (code fn ++ t ++ code mid ++ raw sourceAlias ++ code close) Spot.ready :=
  ((((hfn.append ht).append hmid.of_stopped).append (halias.to_mono fun _ hspot => Spot.stopped_of_qualifies hspot)).append hclose)

/-- **A measure is read whole.** -/
theorem MeasureText.leads {measure : Measure} {t : SqlText} {reads : MeasureReads} (h : g.MeasureText sourceAlias base measure t reads)
    (hfields : ∀ field ∈ reads.fields, ∀ owner column, g.resolveField base field sourceAlias = some (owner, column) → Qualifies k d owner ∧ '\x00' ∉ column.toList)
    (hwindow : reads.window = true → Qualifies k d sourceAlias)
    (hagg : FormulaParser.needsParse (Str.trim measure.formula.expression) = false →
      ∀ name, measure.aggregation = .custom name → k.closedBefore d '(' name = true) :
    Leads k d Spot.ready t (Spot.stopped d) := by
  have hlag : Leads k d Spot.ready (code "LAG(") Spot.ready := leads_ready (by decide) (by cases k <;> cases d <;> decide)
  have hover : Leads k d (Spot.stopped d) (code ") OVER (ORDER BY ") Spot.ready :=
    leads_stopped (by decide) (by cases k <;> cases d <;> decide)
  cases h with
  | direct hform hcolumn hread => exact (leads_aggregation (hagg hform) (leads_resolveExpression hcolumn hread hfields)).stopped_of_ready
  | shorthand hfixed hcolumn hread =>
    exact (leads_aggregation (fun name hname => absurd hname (hfixed name)) (leads_resolveExpression hcolumn hread hfields)).stopped_of_ready
  | timeShift hfixed =>
    exact (leads_window (leads_aggregateColumn hfixed (hfields _ (List.mem_singleton.2 rfl))) (hwindow rfl) hlag hover
      leads_close).stopped_of_ready
  | ratio hnum hdenom =>
    have hopen : Leads k d Spot.ready (code "(") Spot.ready := leads_open.of_stopped
    have hmid : Leads k d Spot.ready (code " / NULLIF(") Spot.ready := leads_ready (by decide) (by cases k <;> cases d <;> decide)
    have hclose : Leads k d Spot.ready (code ", 0))") Spot.ready := leads_ready (by decide) (by cases k <;> cases d <;> decide)
    exact ((((hopen.append (leads_aggregateColumn hnum (hfields _ List.mem_cons_self))).append hmid).append
      (leads_aggregateColumn hdenom (hfields _ (List.mem_cons_of_mem _ (List.mem_singleton.2 rfl))))).append hclose).stopped_of_ready
  | pctChange hfixed =>
    have hcurrent := leads_aggregateColumn hfixed (hfields _ (List.mem_singleton.2 rfl))
    have hprevious := leads_window hcurrent (hwindow rfl) hlag hover leads_close
    have hopen : Leads k d Spot.ready (code "((") Spot.ready := leads_ready (by decide) (by cases k <;> cases d <;> decide)
    have hminus : Leads k d Spot.ready (code " - ") Spot.ready := leads_ready (by decide) (by cases k <;> cases d <;> decide)
    have hmid : Leads k d Spot.ready (code ") / NULLIF(") Spot.ready := leads_ready (by decide) (by cases k <;> cases d <;> decide)
    have hclose : Leads k d Spot.ready (code ", 0)) * 100") (Spot.stopped d) := leads_ready (by decide) (by cases k <;> cases d <;> decide)
    exact (((((hopen.append hcurrent).append hminus).append hprevious).append hmid).append hprevious).append hclose
  | runningTotal hfixed =>
    have hsum : Leads k d Spot.ready (code "SUM(") Spot.ready := leads_ready (by decide) (by cases k <;> cases d <;> decide)
    have hrows : Leads k d (Spot.stopped d) (code " ROWS UNBOUNDED PRECEDING)") Spot.ready :=
      leads_stopped (by decide) (by cases k <;> cases d <;> decide)
    exact (leads_window (leads_aggregateColumn hfixed (hfields _ (List.mem_singleton.2 rfl))) (hwindow rfl) hsum hover hrows).stopped_of_ready

/-! ### Dimensions and times -/

theorem leads_dimensionItem {dim : Dimension} {item : SelectItem} (h : g.dimensionItem d sourceAlias base dim = .ok item)
    (hfield : ∀ owner column, g.resolveField base dim.name sourceAlias = some (owner, column) → Qualifies k d owner ∧ '\x00' ∉ column.toList) :
    Leads k d Spot.ready item.expression (Spot.stopped d) := by
  have hcolumn := leads_field hfield
  rcases (dimensionItem_parts h).2 with ⟨-, hexpr⟩ | ⟨-, hexpr⟩
  · have hopen : Leads k d Spot.ready (code "ST_AsGeoJSON(") Spot.ready := leads_ready (by decide) (by cases k <;> cases d <;> decide)
    have hcall : Leads k d Spot.ready (call "ST_AsGeoJSON" (g.qualifyField base dim.name sourceAlias)) (Spot.stopped d) :=
      ((hopen.append hcolumn).append leads_close).stopped_of_ready
    cases d with
    | postgres | duckDb => exact Option.some.inj hexpr ▸ hcall
    | mySql | sqlite => cases hexpr
  · rw [hexpr, ← qualifyField_eq]
    exact hcolumn

/-- A time between what truncates it. -/
theorem leads_timeDimExpr {td : TimeDimension}
    (h : Leads k d Spot.ready (raw sourceAlias ++ code "." ++ raw td.dimension) (Spot.stopped d)) :
    Leads k d Spot.ready (timeDimExpr d td sourceAlias) (Spot.stopped d) := by
  rw [timeDimExpr, dateTrunc_eq]
  have hopen : Leads k d Spot.ready (code (bucketTexts d td.granularity).1) Spot.ready := by
    generalize td.granularity = granularity
    refine leads_ready ?_ ?_
    · cases d <;> cases granularity <;> decide
    · cases k <;> cases d <;> cases granularity <;> decide +kernel
  have hclose : Leads k d (Spot.stopped d) (code (bucketTexts d td.granularity).2) (Spot.stopped d) := by
    generalize td.granularity = granularity
    refine leads_stopped ?_ ?_
    · cases d <;> cases granularity <;> decide
    · cases k <;> cases d <;> cases granularity <;> decide +kernel
  exact (hopen.append h).append hclose

/-! ### Filters -/

/-- A bound operand is one placeholder. -/
theorem param_of_mem_renderValues {params vs : List Value} {t : SqlText} (ht : t ∈ (renderValues .placeholder params vs).2) :
    ∃ index, t = [.param index] := by
  induction vs generalizing params with
  | nil => cases ht
  | cons v vs ih =>
    rw [renderValues_cons] at ht
    rcases List.mem_cons.1 ht with rfl | ht
    · exact ⟨_, rfl⟩
    · exact ih ht

theorem leads_spatialGeometry {t : SqlText} (wkt : Bool) (ht : Leads k d Spot.ready t (Spot.stopped d)) :
    Leads k d Spot.ready ((d.spatialGeometry t wkt).getD []) (Spot.stopped d) := by
  have hclose : Leads k d (Spot.stopped d) (code " AS VARCHAR))") (Spot.stopped d) :=
    leads_stopped (by decide) (by cases k <;> cases d <;> decide)
  have hctor : Leads k d Spot.ready (ogcGeometryCtor t wkt) (Spot.stopped d) := by
    have hopen : Leads k d Spot.ready (code ((if wkt then "ST_GeomFromText" else "ST_GeomFromGeoJSON") ++ "(CAST(")) Spot.ready := by
      refine leads_ready ?_ ?_
      · cases wkt <;> decide
      · cases wkt <;> cases k <;> cases d <;> decide
    exact (hopen.append ht).append hclose
  cases d with
  | postgres | duckDb => exact hctor
  | mySql | sqlite => exact (Leads.nil Spot.ready).stopped_of_ready

/-- **A comparison is read whole.** -/
theorem leads_comparison {column : SqlText} {f : Filter} {items : List SqlText} (hcolumn : Leads k d Spot.ready column (Spot.stopped d))
    (hitems : ∀ t ∈ items, Leads k d Spot.ready t (Spot.stopped d)) :
    Leads k d Spot.ready (comparison d column f items) (Spot.stopped d) := by
  have hitem : ∀ i, Leads k d Spot.ready (items.getD i []) (Spot.stopped d) := by
    intro i
    rw [List.getD_eq_getElem?_getD]
    cases hi : items[i]? with
    | none => exact (Leads.nil Spot.ready).stopped_of_ready
    | some t => exact hitems t (List.mem_of_getElem? hi)
  unfold comparison
  generalize f.operator = op
  cases hs : op.spatialFunction with
  | some function =>
    have hopen : Leads k d Spot.ready (code (function ++ "(")) Spot.ready := by
      refine leads_ready ?_ ?_
      · cases op <;> cases hs <;> decide
      · cases op <;> cases hs <;> cases k <;> cases d <;> decide
    exact ((((hopen.append hcolumn).append leads_comma).append (leads_spatialGeometry _ (hitem 0))).append leads_close).stopped_of_ready
  | none =>
    have hcode : ∀ x : String, (" " ++ x).toList.head?.any (· ∈ Spot.stops) = true := fun x => by simp [Spot.stops]
    dsimp only
    by_cases hin : op = .in ∨ op = .notIn
    · rw [if_pos hin]
      have hopen : Leads k d (Spot.stopped d) (code (" " ++ op.sqlOperator.getD "" ++ " (")) Spot.ready := by
        refine leads_stopped ?_ ?_
        · rw [String.append_assoc]
          exact hcode _
        · cases op <;> cases k <;> cases d <;> decide
      exact (((hcolumn.append hopen).append (leads_join leads_comma hitems)).append leads_close).stopped_of_ready
    rw [if_neg hin]
    by_cases htwo : op.needsTwoValues = true
    · rw [if_pos htwo]
      have hopen : Leads k d (Spot.stopped d) (code (" " ++ op.sqlOperator.getD "" ++ " BETWEEN ")) Spot.ready := by
        refine leads_stopped ?_ ?_
        · rw [String.append_assoc]
          exact hcode _
        · cases op <;> cases k <;> cases d <;> decide
      have hand : Leads k d (Spot.stopped d) (code " AND ") Spot.ready := leads_stopped (by decide) (by cases k <;> cases d <;> decide)
      exact (((hcolumn.append hopen).append (hitem 0)).append hand).append (hitem 1)
    rw [if_neg htwo]
    by_cases hone : op.needsValue = true
    · rw [if_pos hone]
      have hopen : Leads k d (Spot.stopped d) (code (" " ++ op.sqlOperator.getD "" ++ " ")) Spot.ready := by
        refine leads_stopped ?_ ?_
        · rw [String.append_assoc]
          exact hcode _
        · cases op <;> cases k <;> cases d <;> decide
      exact (hcolumn.append hopen).append (hitem 0)
    · rw [if_neg hone]
      have hopen : Leads k d (Spot.stopped d) (code (" " ++ op.sqlOperator.getD "")) (Spot.stopped d) := by
        refine leads_stopped (hcode _) ?_
        cases op <;> cases k <;> cases d <;> decide
      exact hcolumn.append hopen

/-- The loop over the filters. -/
theorem leads_buildConditions {first : Bool} {params params' : List Value} {filters : List Filter} {ts : List SqlText}
    (h : g.buildConditions d sourceAlias base .placeholder first params filters = .ok (params', ts))
    (hfields : ∀ f ∈ filters, ∀ owner column, g.resolveField base f.field sourceAlias = some (owner, column) → Qualifies k d owner ∧ '\x00' ∉ column.toList) :
    Leads k d (if first then Spot.ready else Spot.stopped d) ts.flatten (Spot.stopped d) := by
  induction filters generalizing first params ts with
  | nil =>
    obtain ⟨rfl, rfl⟩ := Prod.mk.inj (Except.ok.inj h)
    cases first with
    | true => exact (Leads.nil Spot.ready).stopped_of_ready
    | false => exact Leads.nil _
  | cons f filters ih =>
    simp only [buildConditions, Res.bind_eq_ok] at h
    obtain ⟨⟨p, condition⟩, hcondition, ⟨p', rest⟩, hrest, h⟩ := h
    obtain ⟨rfl, rfl⟩ := Prod.mk.inj (Except.ok.inj h)
    obtain ⟨-, -, rfl⟩ := buildCondition_eq_ok hcondition
    have htail := ih hrest fun f hf => hfields f (List.mem_cons_of_mem _ hf)
    have hhead : Leads k d Spot.ready (comparison d (g.qualifyField base f.field sourceAlias) f (renderValues .placeholder params f.operands).2)
        (Spot.stopped d) := by
      refine leads_comparison (leads_field (hfields f List.mem_cons_self)) fun t ht => ?_
      obtain ⟨index, rfl⟩ := param_of_mem_renderValues ht
      exact leads_param index
    have hseparator : Leads k d (if first then Spot.ready else Spot.stopped d) (separator first f) Spot.ready := by
      cases first with
      | true => exact Leads.nil Spot.ready
      | false =>
        show Leads k d (Spot.stopped d) (if f.orCondition then code " OR " else code " AND ") Spot.ready
        cases f.orCondition <;> exact leads_stopped (by decide) (by cases k <;> cases d <;> decide)
    exact (hseparator.append hhead).append htail

theorem leads_buildWhereClause {params : List Value} {t : SqlText}
    (h : g.buildWhereClause query d sourceAlias base .placeholder = .ok (params, some t))
    (hfields : ∀ f ∈ query.filters, ∀ owner column, g.resolveField base f.field sourceAlias = some (owner, column) → Qualifies k d owner ∧ '\x00' ∉ column.toList) :
    Leads k d Spot.ready t (Spot.stopped d) := by
  unfold buildWhereClause at h
  split_ifs at h
  · cases h
  · obtain ⟨⟨params', conditions⟩, hconditions, h⟩ := Res.bind_eq_ok.1 h
    obtain ⟨rfl, ht⟩ := Prod.mk.inj (Except.ok.inj h)
    obtain rfl := Option.some.inj ht
    exact leads_buildConditions hconditions hfields

/-! ### The statement -/

theorem leads_selectItemText {item : SelectItem} (h : Leads k d Spot.ready item.expression (Spot.stopped d))
    (hlabel : ∀ label, item.aliasName = some label → '\x00' ∉ label.toList) :
    Leads k d Spot.ready (Dialect.selectItemText item) (Spot.stopped d) := by
  unfold Dialect.selectItemText
  cases halias : item.aliasName with
  | none => exact h
  | some aliasName =>
    have has : Leads k d (Spot.stopped d) (code " AS ") Spot.ready := leads_stopped (by decide) (by cases k <;> cases d <;> decide)
    exact (h.append has).append (leads_ident (hlabel aliasName halias))

theorem leads_joinText {j : JoinClause} {joinType : JoinType} (htype : j.joinType = joinType.sqlKeyword)
    (hon : Leads k d Spot.ready (onNames j.on) (Spot.stopped d)) (htable : '\x00' ∉ j.table.toList) (halias : '\x00' ∉ j.aliasName.toList) :
    Leads k d Spot.ready (Dialect.joinText { j with on := onNames j.on }) Spot.ready := by
  have hopen : Leads k d Spot.ready (code (" " ++ j.joinType ++ " ")) Spot.ready := by
    rw [htype]
    refine leads_ready ?_ ?_
    · cases joinType <;> decide
    · cases joinType <;> cases k <;> cases d <;> decide
  have honText : Leads k d (Spot.stopped d) (code " ON ") Spot.ready := leads_stopped (by decide) (by cases k <;> cases d <;> decide)
  exact ((((((hopen.append (leads_ident htable)).append leads_blank).append (leads_ident halias)).append honText).append hon).append
    leads_blank)

theorem leads_orderText {item : OrderByItem} (h : Leads k d Spot.ready item.column (Spot.stopped d)) :
    Leads k d Spot.ready (Dialect.orderText item) (Spot.stopped d) := by
  have hdirection : Leads k d (Spot.stopped d) (code (" " ++ if item.descending then "DESC" else "ASC")) (Spot.stopped d) := by
    refine leads_stopped ?_ ?_
    · cases item.descending <;> decide
    · cases item.descending <;> cases k <;> cases d <;> decide
  exact h.append hdirection

/-- A limit and an offset. -/
theorem leads_limitOffset (limit offset : Option Nat) : Leads k d (Spot.stopped d) (d.limitOffset [] limit offset) (Spot.stopped d) := by
  have hlimit : ∀ n : Nat, Leads k d (Spot.stopped d) (code (" LIMIT " ++ toString n)) (Spot.stopped d) := fun n =>
    (leads_stopped (by decide) (by cases k <;> cases d <;> decide)).code_append (leads_toString n)
  have hoffset : ∀ n : Nat, Leads k d (Spot.stopped d) (code (" OFFSET " ++ toString n)) (Spot.stopped d) := fun n =>
    (leads_stopped (by decide) (by cases k <;> cases d <;> decide)).code_append (leads_toString n)
  have hstandard : Leads k d (Spot.stopped d) ([] ++ limitText limit ++ offsetText offset) (Spot.stopped d) := by
    have hfirst : Leads k d (Spot.stopped d) (limitText limit) (Spot.stopped d) := by
      cases limit with
      | none => exact Leads.nil _
      | some n => exact hlimit n
    have hsecond : Leads k d (Spot.stopped d) (offsetText offset) (Spot.stopped d) := by
      cases offset with
      | none => exact Leads.nil _
      | some n => exact hoffset n
    exact ((Leads.nil _).append hfirst).append hsecond
  have hboth : ∀ n n' : Nat, Leads k d (Spot.stopped d) (code (" LIMIT " ++ toString n ++ " OFFSET " ++ toString n')) (Spot.stopped d) := by
    intro n n'
    rw [String.append_assoc]
    exact (hlimit n).code_append (hoffset n')
  cases d with
  | postgres | sqlite | duckDb => exact hstandard
  | mySql =>
    cases limit with
    | none =>
      cases offset with
      | none => exact Leads.nil _
      | some n => exact hboth _ n
    | some n =>
      cases offset with
      | none => exact hlimit n
      | some n' => exact hboth n' n

theorem leads_source {plan : LogicalPlan}
    (h : plan.sourceIsSql = true → k.closedBefore d ')' (Str.trimEndMatches ';' (Str.trim plan.sourceTable)) = true)
    (hname : plan.sourceIsSql = false → '\x00' ∉ plan.sourceTable.toList) :
    Leads k d Spot.ready (Dialect.renderSource plan) (Spot.stopped d) := by
  unfold Dialect.renderSource
  split_ifs with hsql
  · refine Leads.stopped_of_ready ?_
    generalize Str.trimEndMatches ';' (Str.trim plan.sourceTable) = sql at h
    have hopen : Leads k d Spot.ready (code "(") Spot.ready := leads_open.of_stopped
    have hclosed : Leads k d Spot.ready (code sql) (Spot.anew d · ')') := by
      intro spot hspot
      obtain ⟨spot', hspot', hanew⟩ := exists_pass_closed hspot (h hsql)
      exact ⟨spot', by rw [reads_code, hspot'], hanew⟩
    have hclose : Leads k d (Spot.anew d · ')') (code ")") Spot.ready :=
      leads_of_passed rfl (fun _ hspot => hspot) (by cases k <;> cases d <;> decide)
    exact (hopen.code_append hclosed).code_append hclose
  · exact leads_ident (hname (by simpa using hsql))

variable {out : GeneratedSql} {plan : LogicalPlan}

namespace Statement

theorem leads_items (h : g.Statement query out m sourceAlias plan) (hs : g.Spliceable k query m sourceAlias) :
    ∀ item ∈ plan.selectItems, Leads k (g.dialectFor m.name) Spot.ready item.expression (Spot.stopped (g.dialectFor m.name)) := by
  intro item hitem
  obtain ⟨measures, dimensions, hmeasures, hdimensions, heq⟩ := h.items_eq
  rw [heq] at hitem
  rcases List.mem_append.1 hitem with hitem | hitem
  · rcases List.mem_append.1 hitem with hitem | hitem
    · obtain ⟨measure, hmem, hitem⟩ := Res.mem_of_mapM hmeasures item hitem
      obtain ⟨expr, hexpr, hitem⟩ := Res.bind_eq_ok.1 hitem
      obtain rfl := Except.ok.inj hitem
      obtain ⟨reads, hreads, htext⟩ := exists_measureText hexpr
      obtain ⟨hfields, hwindow⟩ := hs.measures measure hmem reads hreads
      exact htext.leads hfields hwindow (hs.aggregations measure hmem)
    · obtain ⟨dim, hmem, hitem⟩ := Res.mem_of_mapM hdimensions item hitem
      exact leads_dimensionItem hitem (hs.fields _ (List.mem_append_left _ (List.mem_map_of_mem hmem)))
  · obtain ⟨td, htd, rfl⟩ := List.mem_map.1 hitem
    exact leads_timeDimExpr (hs.times td htd)

/-- A property of the names of what a query selects is one of the labels of its statement. -/
theorem label_parts (h : g.Statement query out m sourceAlias plan) {p : String → Prop} (hp : ∀ name ∈ query.selectedNames, p name) :
    ∀ item ∈ plan.selectItems, ∀ label, item.aliasName = some label → p label := by
  intro item hitem label hlabel
  have hmem : some label ∈ query.selectedNames.map some := by
    rw [← h.aliasNames, ← hlabel]
    exact List.mem_map_of_mem hitem
  obtain ⟨name, hname, heq⟩ := List.mem_map.1 hmem
  exact Option.some.inj heq ▸ hp name hname

theorem leads_from (h : g.Statement query out m sourceAlias plan) (hs : g.Spliceable k query m sourceAlias) :
    Leads k (g.dialectFor m.name) Spot.ready (Dialect.renderSource plan) (Spot.stopped (g.dialectFor m.name)) := by
  obtain ⟨items, clause, joins, -, -, -, rfl⟩ := h.parts
  refine leads_source (fun hsql => ?_) fun hno => ?_
  · obtain ⟨sql, hsql⟩ := Option.isSome_iff_exists.1 hsql
    have hclosed := hs.source sql hsql
    rwa [show (sourceOverride (some m)).getD m.name = sql by rw [hsql, Option.getD_some]]
  · have hnone : sourceOverride (some m) = none := by simpa using hno
    rw [show (sourceOverride (some m)).getD m.name = m.name by rw [hnone, Option.getD_none]]
    exact hs.table hnone

theorem leads_joins (h : g.Statement query out m sourceAlias plan) (hs : g.Spliceable k query m sourceAlias) :
    Leads k (g.dialectFor m.name) Spot.ready ((plan.joins.map fun j => ({ j with on := onNames j.on } : JoinClause)).map Dialect.joinText).flatten
      Spot.ready := by
  refine leads_flatten fun t ht => ?_
  rw [h.joins_eq, List.map_map, List.map_map] at ht
  obtain ⟨e, he, rfl⟩ := List.mem_map.1 ht
  exact leads_joinText rfl (hs.conditions e he) (hs.joined e he).1 (hs.joined e he).2

theorem leads_where (h : g.Statement query out m sourceAlias plan) (hs : g.Spliceable k query m sourceAlias) {t : SqlText}
    (ht : plan.whereClause = some t) : Leads k (g.dialectFor m.name) Spot.ready t (Spot.stopped (g.dialectFor m.name)) := by
  have hclause := h.where_eq
  rw [ht] at hclause
  exact leads_buildWhereClause hclause fun f hf => hs.fields _ (List.mem_append_right _ (List.mem_map_of_mem hf))

theorem leads_groupBy (h : g.Statement query out m sourceAlias plan) (hs : g.Spliceable k query m sourceAlias) :
    ∀ t ∈ plan.groupBy, Leads k (g.dialectFor m.name) Spot.ready t (Spot.stopped (g.dialectFor m.name)) := by
  intro t ht
  rw [h.groupBy_eq, buildGroupBy] at ht
  rcases List.mem_append.1 ht with ht | ht
  · obtain ⟨dim, hmem, rfl⟩ := List.mem_map.1 ht
    exact leads_field (hs.fields _ (List.mem_append_left _ (List.mem_map_of_mem hmem)))
  · obtain ⟨td, htd, rfl⟩ := List.mem_map.1 ht
    exact leads_timeDimExpr (hs.times td htd)

theorem leads_orderBy (h : g.Statement query out m sourceAlias plan) (hs : g.Spliceable k query m sourceAlias) :
    ∀ item ∈ plan.orderBy, Leads k (g.dialectFor m.name) Spot.ready item.column (Spot.stopped (g.dialectFor m.name)) := by
  intro item hitem
  rw [h.orderBy_eq, buildOrderBy] at hitem
  obtain ⟨order, hmem, rfl⟩ := List.mem_map.1 hitem
  exact hs.orders order hmem

end Statement

/-- A text between a keyword and a blank. -/
theorem leads_keyword {word : String} {t : SqlText} (hne : word.toList ≠ []) (hword : (passed k d word).any Spot.ready = true)
    (ht : Leads k d Spot.ready t (Spot.stopped d)) : Leads k d Spot.ready (code word ++ t ++ code " ") Spot.ready :=
  ((leads_ready hne hword).append ht).append leads_blank

/-- The keyword of a statement. -/
theorem leads_select (distinct : Bool) : Leads k d Spot.first (code "SELECT " ++ if distinct then code "DISTINCT " else []) Spot.ready := by
  have hselect : Leads k d Spot.first (code "SELECT ") Spot.ready := by
    refine leads_of_passed rfl ?_ (by cases k <;> cases d <;> decide)
    rintro ⟨state, ended⟩ hspot
    simp only [Spot.first, Bool.and_eq_true, Bool.not_eq_true', Option.isNone_iff_eq_none] at hspot
    obtain ⟨rfl, rfl⟩ := hspot
    cases d <;> decide
  have hdistinct : Leads k d Spot.ready (if distinct then code "DISTINCT " else []) Spot.ready := by
    split_ifs
    · exact leads_ready (by decide) (by cases k <;> cases d <;> decide)
    · exact Leads.nil _
  exact hselect.append hdistinct

/-- **A plan is read whole** where its parts are. -/
theorem leads_statementParts {plan : LogicalPlan}
    (hitems : ∀ item ∈ plan.selectItems, Leads k d Spot.ready item.expression (Spot.stopped d))
    (hlabels : ∀ item ∈ plan.selectItems, ∀ label, item.aliasName = some label → '\x00' ∉ label.toList) (halias : '\x00' ∉ plan.sourceAlias.toList)
    (hfrom : Leads k d Spot.ready (Dialect.renderSource plan) (Spot.stopped d))
    (hjoins : Leads k d Spot.ready ((plan.joins.map fun j => ({ j with on := onNames j.on } : JoinClause)).map Dialect.joinText).flatten Spot.ready)
    (hwhere : ∀ t, plan.whereClause = some t → Leads k d Spot.ready t (Spot.stopped d))
    (hgroup : ∀ t ∈ plan.groupBy, Leads k d Spot.ready t (Spot.stopped d))
    (horder : ∀ item ∈ plan.orderBy, Leads k d Spot.ready item.column (Spot.stopped d)) :
    ∃ spot, reads k d ⟨none, false⟩ (d.statementParts plan) = some spot := by
  have hlist : Leads k d Spot.ready (join ", " (plan.selectItems.map Dialect.selectItemText)) (Spot.stopped d) := by
    refine leads_join leads_comma fun t ht => ?_
    obtain ⟨item, hitem, rfl⟩ := List.mem_map.1 ht
    exact leads_selectItemText (hitems item hitem) (hlabels item hitem)
  have hsource : Leads k d (Spot.stopped d) (code " FROM " ++ Dialect.renderSource plan ++ code " ") Spot.ready :=
    ((leads_stopped (by decide) (by cases k <;> cases d <;> decide)).append hfrom).append leads_blank
  have hcondition : Leads k d Spot.ready (plan.whereClause.elim [] fun whereClause => code " WHERE " ++ whereClause ++ code " ") Spot.ready := by
    cases hc : plan.whereClause with
    | none => exact Leads.nil _
    | some t => exact leads_keyword (by decide) (by cases k <;> cases d <;> decide) (hwhere t hc)
  have hgroups : Leads k d Spot.ready (if plan.groupBy.isEmpty then [] else code " GROUP BY " ++ join ", " plan.groupBy ++ code " ")
      Spot.ready := by
    split_ifs
    · exact Leads.nil _
    · exact leads_keyword (by decide) (by cases k <;> cases d <;> decide) (leads_join leads_comma hgroup)
  have horders : Leads k d Spot.ready
      (if plan.orderBy.isEmpty then [] else code " ORDER BY " ++ join ", " (plan.orderBy.map Dialect.orderText) ++ code " ") Spot.ready := by
    split_ifs
    · exact Leads.nil _
    · refine leads_keyword (by decide) (by cases k <;> cases d <;> decide) (leads_join leads_comma fun t ht => ?_)
      obtain ⟨item, hitem, rfl⟩ := List.mem_map.1 ht
      exact leads_orderText (horder item hitem)
  have hwhole := (((((((leads_select plan.distinct).append hlist).append hsource).append ((leads_ident halias).append leads_blank)).append
    hjoins).append hcondition).append hgroups).append horders
  have hall := hwhole.stopped_of_ready.append (leads_limitOffset plan.limit plan.offset)
  obtain ⟨spot, hspot, -⟩ := hall ⟨none, false⟩ rfl
  refine ⟨spot, ?_⟩
  rw [Dialect.statementParts, Dialect.statementText, limitOffset_append]
  cases hc : plan.whereClause with
  | none =>
    rw [hc] at hspot
    exact hspot
  | some t =>
    rw [hc] at hspot
    exact hspot

/-- **A statement is read whole** where what it splices is read as what it is there. -/
theorem Statement.reads_parts (h : g.Statement query out m sourceAlias plan) (hs : g.Spliceable k query m sourceAlias) :
    ∃ spot, reads k (g.dialectFor m.name) ⟨none, false⟩ ((g.dialectFor m.name).statementParts plan) = some spot :=
  leads_statementParts (h.leads_items hs) (h.label_parts hs.labels) (h.alias_eq ▸ hs.named) (h.leads_from hs) (h.leads_joins hs) (fun _ ht => h.leads_where hs ht) (h.leads_groupBy hs)
    (h.leads_orderBy hs)

end

end SqlGenerator

end GraphNight
