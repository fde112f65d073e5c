import GraphNight.Sql.StatementTokens

/-!
# What a statement is made of

A property that the generator's own text, allow-listed functions and numbers have holds of every piece
of a statement where it holds of the names in it, those that are spliced as they stand and those that
are quoted.
-/

namespace GraphNight

open SqlText

/-- The pieces that no name of a query or of the registry is written into have the property. -/
structure Settled (P : Frag → Prop) : Prop where
  code : ∀ x, P (.code x)
  func : ∀ name, isAllowedFunction name = true → P (.func name)
  number : ∀ x : String, NumericLiteral x.toList → P (.number x)

section

variable {P : Frag → Prop} {t u : SqlText}

theorem forall_code (hcode : ∀ x, P (.code x)) (x : String) : (∀ f ∈ code x, P f) ↔ True := by
  simp [SqlText.code, hcode x]

theorem forall_ident (x : String) : (∀ f ∈ ident x, P f) ↔ P (.ident x) := by
  simp [SqlText.ident]

theorem forall_raw (x : String) : (∀ f ∈ raw x, P f) ↔ P (.raw x) := by
  simp [SqlText.raw]

theorem forall_qualified (hP : Settled P) (owner column : String) :
    (∀ f ∈ qualified owner column, P f) ↔ P (.raw owner) ∧ P (.ident column) := by
  simp only [qualified, List.forall_mem_append, forall_code hP.code, forall_ident, forall_raw, and_true]

theorem forall_join (hcode : ∀ x, P (.code x)) (sep : String) (ts : List SqlText) : (∀ f ∈ join sep ts, P f) ↔ ∀ t ∈ ts, ∀ f ∈ t, P f := by
  induction ts using join.induct with
  | case1 => simp [join]
  | case2 t => simp [join]
  | case3 t u rest ih =>
    rw [join, List.forall_mem_append, List.forall_mem_append, ih, forall_code hcode, and_true, List.forall_mem_cons (a := t)]

theorem forall_aggregateText (hP : Settled P) (agg : AggregationType) (column : SqlText) :
    (∀ f ∈ aggregateText agg column, P f) ↔ ∀ f ∈ column, P f := by
  unfold aggregateText
  split_ifs <;> simp only [List.forall_mem_append, forall_code hP.code, true_and, and_true]

end

theorem onNames_append (t u : SqlText) : onNames (t ++ u) = onNames t ++ onNames u := List.map_append

theorem onNames_join {sep : String} (h : onNames (code sep) = code sep) (ts : List SqlText) : onNames (join sep ts) = join sep (ts.map onNames) := by
  induction ts using join.induct with
  | case1 => rfl
  | case2 t => rfl
  | case3 t u rest ih =>
    rw [join, onNames_append, onNames_append, h, ih]
    rfl

namespace SqlGenerator

/-- A field has the property: its owner where it is spliced, and its column where it is quoted. -/
def Owned (P : Frag → Prop) (g : SqlGenerator) (base sourceAlias field : String) : Prop :=
  ∀ owner column, g.resolveField base field sourceAlias = some (owner, column) → P (.raw owner) ∧ P (.ident column)

/-- The names in a statement have the property. -/
structure Spliced (P : Frag → Prop) (g : SqlGenerator) (query : Query) (m : Model) (sourceAlias : String) : Prop where
  fields : ∀ field ∈ plainFields query, g.Owned P m.name sourceAlias field
  measures : ∀ measure ∈ query.measures, ∀ reads, g.measureReads measure = .ok reads →
    (∀ field ∈ reads.fields, g.Owned P m.name sourceAlias field) ∧ (reads.window = true → P (.raw sourceAlias))
  times : ∀ td ∈ query.timeDimensions, P (.raw sourceAlias) ∧ P (.raw td.dimension)
  orders : ∀ order ∈ query.order,
    if Str.containsChar order.field '.' then P (.raw order.field) else P (.raw sourceAlias) ∧ P (.ident order.field)
  conditions : ∀ e ∈ statementLinks g.modelRegistry.items m, ∀ f ∈ onNames (writtenClause sourceAlias e).on, P f
  joined : ∀ e ∈ statementLinks g.modelRegistry.items m,
    P (.ident (writtenClause sourceAlias e).table) ∧ P (.ident (writtenClause sourceAlias e).aliasName)
  labels : ∀ name ∈ query.selectedNames, P (.ident name)
  named : P (.ident sourceAlias)
  table : sourceOverride (some m) = none → P (.ident m.name)

section

variable {P : Frag → Prop} {g : SqlGenerator} {query : Query} {d : Dialect} {base sourceAlias : String}

/-- An ON condition is made of generator text, spliced names and quoted ones. -/
theorem forall_onNames (hcode : ∀ x, P (.code x)) (hraw : ∀ x, P (.raw x)) (hident : ∀ x, P (.ident x)) (on : String) :
    ∀ f ∈ onNames (quoteJoinOn on), P f := by
  have hpart : ∀ f, P f → P (onName f) := by
    intro f hf
    unfold onName
    split
    · split_ifs
      · exact hcode _
      · exact hraw _
    · exact hf
  have hside : ∀ side, ∀ f ∈ quoteQualified side, P f := by
    intro side
    unfold quoteQualified
    split <;> simp [SqlText.code, SqlText.raw, SqlText.ident, hcode, hraw, hident]
  have hwhole : ∀ f ∈ quoteJoinOn on, P f := by
    rw [quoteJoinOn_eq, forall_join hcode]
    intro t ht
    obtain ⟨cond, -, rfl⟩ := List.mem_map.1 ht
    unfold quoteCond
    split
    · simp only [List.forall_mem_append, forall_code hcode, and_true]
      exact ⟨hside _, hside _⟩
    · exact (forall_code hcode cond).2 trivial
  intro f hf
  obtain ⟨f, hmem, rfl⟩ := List.mem_map.1 hf
  exact hpart f (hwhole f hmem)

theorem Spliced.of_forall {m : Model} (hcode : ∀ x, P (.code x)) (hraw : ∀ x, P (.raw x)) (hident : ∀ x, P (.ident x)) :
    Spliced P g query m sourceAlias where
  fields _ _ owner column _ := ⟨hraw owner, hident column⟩
  measures _ _ _ _ := ⟨fun _ _ owner column _ => ⟨hraw owner, hident column⟩, fun _ => hraw _⟩
  times _ _ := ⟨hraw _, hraw _⟩
  orders order _ := by
    split_ifs
    · exact hraw _
    · exact ⟨hraw _, hident _⟩
  conditions _ _ := forall_onNames hcode hraw hident _
  joined _ _ := ⟨hident _, hident _⟩
  labels _ _ := hident _
  named := hident _
  table _ := hident _

theorem forall_qualifyField (hP : Settled P) (field : String) :
    (∀ f ∈ g.qualifyField base field sourceAlias, P f) ↔ g.Owned P base sourceAlias field := by
  unfold Owned
  rw [qualifyField_eq]
  cases g.resolveField base field sourceAlias with
  | none => simp [columnText, forall_code hP.code]
  | some p =>
    obtain ⟨owner, column⟩ := p
    simp [columnText, forall_qualified hP]

theorem forall_resolveExpression (hP : Settled P) {expr : String} {column : SqlText} {fields : List String}
    (h : g.resolveExpression sourceAlias base expr = .ok column) (hfields : expressionFields expr = .ok fields) :
    (∀ f ∈ column, P f) ↔ ∀ field ∈ fields, g.Owned P base sourceAlias field := by
  unfold expressionFields at hfields
  obtain ⟨call, hcall, hfields⟩ := Res.bind_eq_ok.1 hfields
  obtain rfl := Except.ok.inj hfields
  have hparse := Res.mapErr_eq_ok.1 hcall
  cases call with
  | none =>
    rw [resolveExpression_of_no_call hparse] at h
    obtain rfl := Except.ok.inj h
    rw [forall_qualifyField hP]
    simp
  | some call =>
    rw [resolveExpression_of_call hparse] at h
    obtain rfl := Except.ok.inj h
    have hiscall := parseFunctionCall_eq_some.1 hparse
    have hallowed : isAllowedFunction call.name = true := by
      obtain ⟨lead, gap, body, -, -, -, hallowed, -⟩ := hiscall
      exact hallowed
    have hname : ∀ f ∈ [Frag.func call.name], P f := fun f hf => List.mem_singleton.1 hf ▸ hP.func _ hallowed
    have hargs : (∀ t ∈ call.args.map (g.functionArgText sourceAlias base), ∀ f ∈ t, P f) ↔
        ∀ field ∈ argFields call.args, g.Owned P base sourceAlias field := by
      constructor
      · intro hall field hfield
        obtain ⟨arg, harg, hcol⟩ := List.mem_filterMap.1 hfield
        cases arg with
        | column col =>
          obtain rfl := Option.some.inj hcol
          exact (forall_qualifyField hP col).1 (hall _ (List.mem_map_of_mem harg))
        | number n => cases hcol
      · intro howned t ht
        obtain ⟨arg, harg, rfl⟩ := List.mem_map.1 ht
        obtain ⟨word, hword⟩ := hiscall.isArg arg harg
        cases hword with
        | number hnumber => exact fun f hf => List.mem_singleton.1 hf ▸ hP.number _ hnumber
        | column hcolumn => exact (forall_qualifyField hP word).2 (howned word (List.mem_filterMap.2 ⟨_, harg, rfl⟩))
    show _ ↔ ∀ field ∈ argFields call.args, _
    rw [← hargs]
    simp only [List.forall_mem_append, forall_code hP.code, forall_join hP.code, and_true]
    exact ⟨fun hall => hall.2, fun hall => ⟨hname, hall⟩⟩

theorem forall_aggregateColumn (hP : Settled P) (measure : Measure) :
    (∀ f ∈ g.aggregateColumn sourceAlias base measure, P f) ↔ g.Owned P base sourceAlias measure.formula.expression := by
  rw [aggregateColumn, forall_aggregateText hP, forall_qualifyField hP]

/-- **A measure has what it reads, and the source alias where it opens a window.** -/
theorem MeasureText.forall_iff (hP : Settled P) {measure : Measure} {t : SqlText} {reads : MeasureReads}
    (h : g.MeasureText sourceAlias base measure t reads) :
    (∀ f ∈ t, P f) ↔ (∀ field ∈ reads.fields, g.Owned P base sourceAlias field) ∧ (reads.window = true → P (.raw sourceAlias)) := by
  cases h with
  | direct _ hcolumn hfields | shorthand _ hcolumn hfields =>
    rw [forall_aggregateText hP, forall_resolveExpression hP hcolumn hfields]
    simp
  | timeShift =>
    simp only [List.forall_mem_append, forall_code hP.code, forall_raw, forall_aggregateColumn hP, List.forall_mem_singleton]
    simp
  | ratio =>
    simp only [ratioText, List.forall_mem_append, forall_code hP.code, forall_aggregateColumn hP, List.forall_mem_cons]
    simp
  | pctChange =>
    simp only [pctChangeText, List.forall_mem_append, forall_code hP.code, forall_raw, forall_aggregateColumn hP, List.forall_mem_singleton]
    simp
  | runningTotal =>
    simp only [runningTotalText, List.forall_mem_append, forall_code hP.code, forall_raw, forall_aggregateColumn hP, List.forall_mem_singleton]
    simp

theorem forall_dimensionItem (hP : Settled P) {dim : Dimension} {item : SelectItem} (h : g.dimensionItem d sourceAlias base dim = .ok item) :
    (∀ f ∈ item.expression, P f) ↔ g.Owned P base sourceAlias dim.name := by
  rcases (dimensionItem_parts h).2 with ⟨-, hexpr⟩ | ⟨-, hexpr⟩
  · cases d with
    | postgres | duckDb =>
      rw [← Option.some.inj hexpr]
      simp only [call, List.forall_mem_append, forall_code hP.code, forall_qualifyField hP, true_and, and_true]
    | mySql | sqlite => cases hexpr
  · rw [hexpr, ← qualifyField_eq, forall_qualifyField hP]

theorem forall_timeDimExpr (hP : Settled P) (td : TimeDimension) :
    (∀ f ∈ timeDimExpr d td sourceAlias, P f) ↔ P (.raw sourceAlias) ∧ P (.raw td.dimension) := by
  rw [timeDimExpr, dateTrunc_eq]
  simp only [List.forall_mem_append, forall_code hP.code, forall_raw, true_and, and_true]

theorem forall_orderByItem (hP : Settled P) (order : OrderBy) : (∀ f ∈ (orderByItem sourceAlias order).column, P f) ↔
    if Str.containsChar order.field '.' then P (.raw order.field) else P (.raw sourceAlias) ∧ P (.ident order.field) := by
  unfold orderByItem
  dsimp only
  split_ifs
  · exact forall_raw _
  · simp only [List.forall_mem_append, forall_code hP.code, forall_raw, forall_ident, and_true]

theorem forall_comparison (hP : Settled P) {column : SqlText} {f : Filter} {items : List SqlText} (hitems : ∀ t ∈ items, ∀ x ∈ t, P x) :
    (∀ x ∈ comparison d column f items, P x) ↔ ∀ x ∈ column, P x := by
  have hitem : ∀ i, ∀ x ∈ items.getD i [], P x := by
    intro i
    rw [List.getD_eq_getElem?_getD]
    cases hi : items[i]? with
    | none => exact fun x hx => absurd hx List.not_mem_nil
    | some t => exact hitems t (List.mem_of_getElem? hi)
  have hgeometry : ∀ wkt, ∀ x ∈ (d.spatialGeometry (items.getD 0 []) wkt).getD [], P x := by
    intro wkt
    cases d with
    | postgres | duckDb => simpa only [Dialect.spatialGeometry, ogcGeometryCtor, Option.getD_some, List.forall_mem_append, forall_code hP.code, true_and, and_true] using hitem 0
    | mySql | sqlite => exact fun x hx => absurd hx List.not_mem_nil
  unfold comparison
  split
  · simpa only [List.forall_mem_append, forall_code hP.code, and_true, true_and, and_iff_left_iff_imp] using fun _ => hgeometry _
  · dsimp only
    split_ifs
    · simpa only [List.forall_mem_append, forall_code hP.code, forall_join hP.code, and_true, and_iff_left_iff_imp] using fun _ => hitems
    · simpa only [List.forall_mem_append, forall_code hP.code, and_true, and_assoc, and_iff_left_iff_imp] using fun _ => ⟨hitem 0, hitem 1⟩
    · simpa only [List.forall_mem_append, forall_code hP.code, and_true, and_iff_left_iff_imp] using fun _ => hitem 0
    · simp only [List.forall_mem_append, forall_code hP.code, and_true]

/-- The loop over the filters. -/
theorem forall_buildConditions (hP : Settled P) (hparam : ∀ i, P (.param i)) {first : Bool} {params params' : List Value} {filters : List Filter}
    {ts : List SqlText} (h : g.buildConditions d sourceAlias base .placeholder first params filters = .ok (params', ts)) :
    (∀ f ∈ ts.flatten, P f) ↔ ∀ f ∈ filters, g.Owned P base sourceAlias f.field := by
  induction filters generalizing first params ts with
  | nil =>
    obtain ⟨rfl, rfl⟩ := Prod.mk.inj (Except.ok.inj h)
    simp
  | cons f filters ih =>
    simp only [buildConditions, Res.bind_eq_ok] at h
    obtain ⟨⟨p, condition⟩, hcondition, ⟨p', rest⟩, hrest, h⟩ := h
    obtain ⟨rfl, rfl⟩ := Prod.mk.inj (Except.ok.inj h)
    obtain ⟨-, -, rfl⟩ := buildCondition_eq_ok hcondition
    have hitems : ∀ t ∈ (renderValues .placeholder params f.operands).2, ∀ x ∈ t, P x := by
      intro t ht x hx
      obtain ⟨index, rfl⟩ := param_of_mem_renderValues ht
      exact List.mem_singleton.1 hx ▸ hparam index
    have hseparator : ∀ x ∈ separator first f, P x := by
      cases first <;> cases ho : f.orCondition <;> simp [separator, ho, SqlText.code, hP.code]
    rw [List.flatten_cons, List.forall_mem_append, List.forall_mem_append, ih hrest, forall_comparison hP hitems, forall_qualifyField hP,
      List.forall_mem_cons]
    exact and_congr_left fun _ => and_iff_right hseparator

theorem forall_buildWhereClause (hP : Settled P) (hparam : ∀ i, P (.param i)) {params : List Value} {t : Option SqlText}
    (h : g.buildWhereClause query d sourceAlias base .placeholder = .ok (params, t)) :
    (∀ f ∈ t.getD [], P f) ↔ ∀ f ∈ query.filters, g.Owned P base sourceAlias f.field := by
  unfold buildWhereClause at h
  split_ifs at h with hempty
  · obtain ⟨-, rfl⟩ := Prod.mk.inj (Except.ok.inj h)
    simp [List.isEmpty_iff.1 hempty]
  · obtain ⟨⟨params', conditions⟩, hconditions, h⟩ := Res.bind_eq_ok.1 h
    obtain ⟨-, rfl⟩ := Prod.mk.inj (Except.ok.inj h)
    exact forall_buildConditions hP hparam hconditions

end

/-! ### What is read in a condition -/

/-- A part of a condition is read: a qualifier up to its dot, and a quoted name without a NUL. -/
def ReadPart (k : Reading) (d : Dialect) : Frag → Prop
  | .raw x => Qualifies k d x
  | .ident x => '\x00' ∉ x.toList
  | _ => True

section

variable {k : Reading} {d : Dialect}

/-- A side of a condition. -/
theorem leads_quoteQualified {side : String} (h : ∀ f ∈ onNames (quoteQualified side), ReadPart k d f) :
    Leads k d Spot.ready (onNames (quoteQualified side)) (Spot.stopped d) := by
  unfold quoteQualified at h ⊢
  split at h
  · next owner column rest _ =>
    have howner : Qualifies k d owner := h (.raw owner) (by simp [onNames, onName, SqlText.raw])
    have hcolumn : '\x00' ∉ column.toList := h (.ident column) (by simp [onNames, onName, SqlText.ident])
    exact leads_qualified howner hcolumn
  · exact leads_ident (h (.ident side) (by simp [onNames, onName, SqlText.ident]))

/-- One condition, with its operator or spliced whole. -/
theorem leads_quoteCond {cond : String} (h : ∀ f ∈ onNames (quoteCond cond), ReadPart k d f) :
    Leads k d Spot.ready (onNames (quoteCond cond)) (Spot.stopped d) := by
  unfold quoteCond at h ⊢
  split at h
  · next left right _ =>
    have hequals : Leads k d (Spot.stopped d) (onNames (code " = ")) Spot.ready := leads_stopped (by decide) (by cases k <;> cases d <;> decide)
    rw [onNames_append, onNames_append] at h ⊢
    exact ((leads_quoteQualified fun f hf => h f (by simp [hf])).append hequals).append (leads_quoteQualified fun f hf => h f (by simp [hf]))
  · by_cases hknown : cond ∈ ["", ".", " = ", " AND "]
    · have hcode : onNames (code cond) = code cond := by simp only [onNames, SqlText.code, List.map_cons, List.map_nil, onName, if_pos hknown]
      rw [hcode]
      simp only [List.mem_cons, List.not_mem_nil, or_false] at hknown
      rcases hknown with rfl | rfl | rfl | rfl
      · exact fun spot hspot => ⟨spot, by rw [reads_code]; rfl, Spot.stopped_of_ready hspot⟩
      all_goals exact leads_ready (by decide) (by cases k <;> cases d <;> decide)
    · have hraw : onNames (code cond) = raw cond := by
        simp only [onNames, SqlText.code, SqlText.raw, List.map_cons, List.map_nil, onName, if_neg hknown]
      rw [hraw] at h ⊢
      have hwhole : Qualifies k d cond := h (.raw cond) List.mem_cons_self
      exact hwhole.to_mono fun _ hspot => Spot.stopped_of_qualifies hspot

/-- The parts of an ON condition, where they are read. -/
theorem leads_onNames {on : String} (h : ∀ f ∈ onNames (quoteJoinOn on), ReadPart k d f) :
    Leads k d Spot.ready (onNames (quoteJoinOn on)) (Spot.stopped d) := by
  have hjoin : onNames (quoteJoinOn on) = join " AND " (((Str.splitStr on " AND ").map quoteCond).map onNames) := onNames_join rfl _
  rw [hjoin] at h ⊢
  rw [forall_join fun _ => trivial] at h
  refine leads_join (leads_stopped (by decide) (by cases k <;> cases d <;> decide)) fun t ht => ?_
  obtain ⟨t, hmem, rfl⟩ := List.mem_map.1 ht
  obtain ⟨cond, hcond, rfl⟩ := List.mem_map.1 hmem
  exact leads_quoteCond (h _ ht)

end

end SqlGenerator

/-! ## The statement -/

/-- The clause of a condition. -/
def whereText : Option SqlText → SqlText
  | some whereClause => code " WHERE " ++ whereClause ++ code " "
  | none => []

theorem Dialect.statementParts_eq (d : Dialect) (plan : LogicalPlan) : d.statementParts plan =
    code "SELECT " ++ (if plan.distinct then code "DISTINCT " else []) ++ join ", " (plan.selectItems.map Dialect.selectItemText) ++
      (code " FROM " ++ Dialect.renderSource plan ++ code " ") ++ (ident plan.sourceAlias ++ code " ") ++
      ((plan.joins.map fun j => ({ j with on := onNames j.on } : JoinClause)).map Dialect.joinText).flatten ++ whereText plan.whereClause ++
      (if plan.groupBy.isEmpty then [] else code " GROUP BY " ++ join ", " plan.groupBy ++ code " ") ++
      (if plan.orderBy.isEmpty then [] else code " ORDER BY " ++ join ", " (plan.orderBy.map Dialect.orderText) ++ code " ") ++
      d.limitOffset [] plan.limit plan.offset := by
  rw [Dialect.statementParts, Dialect.statementText, limitOffset_append]
  rfl

theorem forall_selectItemText {P : Frag → Prop} (hP : Settled P) (item : SelectItem) :
    (∀ f ∈ Dialect.selectItemText item, P f) ↔ (∀ f ∈ item.expression, P f) ∧ ∀ label, item.aliasName = some label → P (.ident label) := by
  unfold Dialect.selectItemText
  cases item.aliasName with
  | none => simp
  | some aliasName => simp only [List.forall_mem_append, forall_code hP.code, forall_ident, and_true, Option.some.injEq, forall_eq']

theorem forall_joinText {P : Frag → Prop} (hP : Settled P) (j : JoinClause) :
    (∀ f ∈ Dialect.joinText j, P f) ↔ (P (.ident j.table) ∧ P (.ident j.aliasName)) ∧ ∀ f ∈ j.on, P f := by
  simp only [Dialect.joinText, List.forall_mem_append, forall_code hP.code, forall_ident, true_and, and_true, and_assoc]

theorem forall_flatten {P : Frag → Prop} {ts : List SqlText} : (∀ f ∈ ts.flatten, P f) ↔ ∀ t ∈ ts, ∀ f ∈ t, P f := by
  simp only [List.mem_flatten]
  exact ⟨fun hall t ht f hf => hall f ⟨t, ht, hf⟩, fun hall f ⟨t, ht, hf⟩ => hall t ht f hf⟩

theorem forall_limitOffset {P : Frag → Prop} (hcode : ∀ x, P (.code x)) (d : Dialect) (limit offset : Option Nat) :
    ∀ f ∈ d.limitOffset [] limit offset, P f := by
  cases d <;> cases limit <;> cases offset <;>
    simp [Dialect.limitOffset, PostgresDialect.limitOffset, MySqlDialect.limitOffset, SqliteDialect.limitOffset, DuckDbDialect.limitOffset,
      limitText, offsetText, SqlText.code, hcode]

namespace SqlGenerator

section

variable {P : Frag → Prop} {g : SqlGenerator} {query : Query} {m : Model} {sourceAlias : String} {out : GeneratedSql} {plan : LogicalPlan}

namespace Statement

theorem forall_items (h : g.Statement query out m sourceAlias plan) (hP : Settled P) :
    (∀ item ∈ plan.selectItems, ∀ f ∈ item.expression, P f) ↔
      (∀ measure ∈ query.measures, ∀ reads, g.measureReads measure = .ok reads →
        (∀ field ∈ reads.fields, g.Owned P m.name sourceAlias field) ∧ (reads.window = true → P (.raw sourceAlias))) ∧
      (∀ dim ∈ query.dimensions, g.Owned P m.name sourceAlias dim.name) ∧
      ∀ td ∈ query.timeDimensions, P (.raw sourceAlias) ∧ P (.raw td.dimension) := by
  obtain ⟨measures, dimensions, hmeasures, hdimensions, heq⟩ := h.items_eq
  rw [heq, List.forall_mem_append, List.forall_mem_append, and_assoc]
  refine and_congr ?_ (and_congr ?_ ?_)
  · have hone : ∀ {measure item}, g.measureItem sourceAlias m.name measure = .ok item → ∀ reads, g.measureReads measure = .ok reads →
        ((∀ f ∈ item.expression, P f) ↔
          (∀ field ∈ reads.fields, g.Owned P m.name sourceAlias field) ∧ (reads.window = true → P (.raw sourceAlias))) := by
      intro measure item hitem reads hreads
      obtain ⟨expr, hexpr, hitem⟩ := Res.bind_eq_ok.1 hitem
      obtain rfl := Except.ok.inj hitem
      obtain ⟨reads', hreads', htext⟩ := exists_measureText hexpr
      obtain rfl := Except.ok.inj (hreads.symm.trans hreads')
      exact htext.forall_iff hP
    constructor
    · intro hall measure hmeasure reads hreads
      obtain ⟨item, hmem, hitem⟩ := Res.exists_of_mapM hmeasures measure hmeasure
      exact (hone hitem reads hreads).1 (hall item hmem)
    · intro hall item hitem
      obtain ⟨measure, hmem, hitem⟩ := Res.mem_of_mapM hmeasures item hitem
      obtain ⟨expr, hexpr, -⟩ := Res.bind_eq_ok.1 hitem
      obtain ⟨reads, hreads, -⟩ := exists_measureText hexpr
      exact (hone hitem reads hreads).2 (hall measure hmem reads hreads)
  · constructor
    · intro hall dim hdim
      obtain ⟨item, hmem, hitem⟩ := Res.exists_of_mapM hdimensions dim hdim
      exact (forall_dimensionItem hP hitem).1 (hall item hmem)
    · intro hall item hitem
      obtain ⟨dim, hmem, hitem⟩ := Res.mem_of_mapM hdimensions item hitem
      exact (forall_dimensionItem hP hitem).2 (hall dim hmem)
  · rw [List.forall_mem_map]
    exact forall₂_congr fun td _ => forall_timeDimExpr hP td

/-- The labels of a statement are the names of what its query selects. -/
theorem forall_labels (h : g.Statement query out m sourceAlias plan) {p : String → Prop} :
    (∀ item ∈ plan.selectItems, ∀ label, item.aliasName = some label → p label) ↔ ∀ name ∈ query.selectedNames, p name := by
  refine ⟨fun hall name hname => ?_, h.label_parts⟩
  have hmem : some name ∈ plan.selectItems.map (·.aliasName) := by
    rw [h.aliasNames]
    exact List.mem_map_of_mem hname
  obtain ⟨item, hitem, halias⟩ := List.mem_map.1 hmem
  exact hall item hitem name halias

theorem forall_joins (h : g.Statement query out m sourceAlias plan) {p : JoinClause → Prop} :
    (∀ j ∈ plan.joins, p j) ↔ ∀ e ∈ statementLinks g.modelRegistry.items m, p (writtenClause sourceAlias e) := by
  rw [h.joins_eq, List.forall_mem_map]

theorem forall_source (h : g.Statement query out m sourceAlias plan) (hP : Settled P) :
    (∀ f ∈ Dialect.renderSource plan, P f) ↔ (sourceOverride (some m) = none → P (.ident m.name)) := by
  obtain ⟨items, clause, joins, -, -, -, rfl⟩ := h.parts
  unfold Dialect.renderSource
  cases sourceOverride (some m) with
  | none => simp [forall_ident]
  | some sql => simp [forall_code hP.code]

theorem forall_where (h : g.Statement query out m sourceAlias plan) (hP : Settled P) (hparam : ∀ i, P (.param i)) :
    (∀ f ∈ plan.whereClause.getD [], P f) ↔ ∀ f ∈ query.filters, g.Owned P m.name sourceAlias f.field :=
  forall_buildWhereClause hP hparam h.where_eq

theorem forall_groupBy (h : g.Statement query out m sourceAlias plan) (hP : Settled P) :
    (∀ t ∈ plan.groupBy, ∀ f ∈ t, P f) ↔ (∀ dim ∈ query.dimensions, g.Owned P m.name sourceAlias dim.name) ∧
      ∀ td ∈ query.timeDimensions, P (.raw sourceAlias) ∧ P (.raw td.dimension) := by
  rw [h.groupBy_eq, buildGroupBy, List.forall_mem_append, List.forall_mem_map, List.forall_mem_map]
  exact and_congr (forall₂_congr fun dim _ => forall_qualifyField hP _) (forall₂_congr fun td _ => forall_timeDimExpr hP td)

theorem forall_orderBy (h : g.Statement query out m sourceAlias plan) (hP : Settled P) :
    (∀ item ∈ plan.orderBy, ∀ f ∈ item.column, P f) ↔
      ∀ order ∈ query.order,
        if Str.containsChar order.field '.' then P (.raw order.field) else P (.raw sourceAlias) ∧ P (.ident order.field) := by
  rw [h.orderBy_eq, buildOrderBy, List.forall_mem_map]
  exact forall₂_congr fun order _ => forall_orderByItem hP order

/-- **A property of the names in a statement** is one of all its pieces. -/
theorem forall_parts (h : g.Statement query out m sourceAlias plan) (hP : Settled P) (hparam : ∀ i, P (.param i)) :
    (∀ f ∈ (g.dialectFor m.name).statementParts plan, P f) ↔ Spliced P g query m sourceAlias := by
  have hlist : (∀ f ∈ join ", " (plan.selectItems.map Dialect.selectItemText), P f) ↔
      (∀ item ∈ plan.selectItems, ∀ f ∈ item.expression, P f) ∧ ∀ name ∈ query.selectedNames, P (.ident name) := by
    rw [forall_join hP.code, List.forall_mem_map, ← h.forall_labels, ← forall₂_and]
    exact forall₂_congr fun item _ => forall_selectItemText hP item
  have hjoins : (∀ f ∈ ((plan.joins.map fun j => ({ j with on := onNames j.on } : JoinClause)).map Dialect.joinText).flatten, P f) ↔
      ∀ j ∈ plan.joins, (P (.ident j.table) ∧ P (.ident j.aliasName)) ∧ ∀ f ∈ onNames j.on, P f := by
    rw [List.map_map, forall_flatten, List.forall_mem_map]
    exact forall₂_congr fun j _ => forall_joinText hP _
  have hwhere : (∀ f ∈ whereText plan.whereClause, P f) ↔ ∀ f ∈ plan.whereClause.getD [], P f := by
    cases plan.whereClause with
    | none => exact Iff.rfl
    | some t => simp only [whereText, List.forall_mem_append, forall_code hP.code, true_and, and_true, Option.getD_some]
  have hgroup : (∀ f ∈ (if plan.groupBy.isEmpty then [] else code " GROUP BY " ++ join ", " plan.groupBy ++ code " "), P f) ↔
      ∀ t ∈ plan.groupBy, ∀ f ∈ t, P f := by
    split_ifs with hempty
    · simp [List.isEmpty_iff.1 hempty]
    · simp only [List.forall_mem_append, forall_code hP.code, forall_join hP.code, true_and, and_true]
  have horder : (∀ f ∈ (if plan.orderBy.isEmpty then [] else code " ORDER BY " ++ join ", " (plan.orderBy.map Dialect.orderText) ++ code " "),
      P f) ↔ ∀ item ∈ plan.orderBy, ∀ f ∈ item.column, P f := by
    split_ifs with hempty
    · simp [List.isEmpty_iff.1 hempty]
    · simp only [Dialect.orderText, List.forall_mem_append, forall_code hP.code, forall_join hP.code, true_and, and_true, List.forall_mem_map]
  have hdistinct : ∀ f ∈ (if plan.distinct then code "DISTINCT " else []), P f := by
    split_ifs
    · exact (forall_code hP.code _).2 trivial
    · exact fun f hf => absurd hf List.not_mem_nil
  have hlimit : ∀ f ∈ (g.dialectFor m.name).limitOffset [] plan.limit plan.offset, P f := forall_limitOffset hP.code _ _ _
  rw [Dialect.statementParts_eq]
  simp only [List.forall_mem_append]
  rw [hlist, hjoins, hwhere, hgroup, horder, h.forall_items hP, h.forall_joins, h.forall_where hP hparam, h.forall_groupBy hP, h.forall_orderBy hP,
    h.forall_source hP, h.alias_eq]
  simp only [forall_code hP.code, forall_ident, true_and, and_true]
  have hfields : (∀ field ∈ plainFields query, g.Owned P m.name sourceAlias field) ↔
      (∀ dim ∈ query.dimensions, g.Owned P m.name sourceAlias dim.name) ∧ ∀ f ∈ query.filters, g.Owned P m.name sourceAlias f.field := by
    rw [plainFields, List.forall_mem_append, List.forall_mem_map, List.forall_mem_map]
  constructor
  · rintro ⟨⟨⟨⟨⟨⟨⟨⟨-, ⟨hmeasures, hdimensions, htimes⟩, hlabels⟩, htable⟩, hnamed⟩, hjoins⟩, hfilters⟩, -⟩, horders⟩, -⟩
    exact ⟨hfields.2 ⟨hdimensions, hfilters⟩, hmeasures, htimes, horders, fun e he => (hjoins e he).2, fun e he => (hjoins e he).1, hlabels, hnamed,
      htable⟩
  · rintro ⟨hspliced, hmeasures, htimes, horders, hconditions, hjoined, hlabels, hnamed, htable⟩
    obtain ⟨hdimensions, hfilters⟩ := hfields.1 hspliced
    exact ⟨⟨⟨⟨⟨⟨⟨⟨hdistinct, ⟨hmeasures, hdimensions, htimes⟩, hlabels⟩, htable⟩, hnamed⟩, fun e he => ⟨hjoined e he, hconditions e he⟩⟩, hfilters⟩,
      hdimensions, htimes⟩, horders⟩, hlimit⟩

end Statement

end

end SqlGenerator

end GraphNight
