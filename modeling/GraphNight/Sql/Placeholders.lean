import GraphNight.Core.JsonText
import GraphNight.Sql.StatementPieces
import GraphNight.Sql.TrimmedText

/-!
# The statement that runs and the statement that is shown

The placeholders of the text that runs are those the generator wrote, one for every parameter and in
their order, and putting the values in their place gives the text that is shown, as long as no text
that is spliced as it stands holds a placeholder of its own or leaves something open.
-/

namespace GraphNight

open SqlText

namespace Dialect

/-- The placeholders of a statement, as the database reads it. -/
def placeholders (d : Dialect) (s : String) : List String := (Lexer.marks LexState.isParam (d.lex s)).map String.ofList

/-- A statement with its placeholders replaced, one after the other, by written values. -/
def fill (d : Dialect) (s : String) (values : List Value) : String :=
  String.ofList (Lexer.refill LexState.isParam (d.lex s) (values.map fun v => (d.formatValue v).toList))

end Dialect

/-- Read by itself, a text holds no placeholder and leaves nothing open, and what stands behind it is
read anew. -/
def Dialect.Inert (d : Dialect) (x : String) : Prop := (passed .binds d x).any (Spot.qualifies d) = true

instance (d : Dialect) (x : String) : Decidable (d.Inert x) := inferInstanceAs (Decidable (_ = true))

/-- Text of the same kind that is used whole. -/
def Dialect.InertWhole (d : Dialect) (x : String) : Prop := (passed .binds d x).any (Spot.stopped d) = true

instance (d : Dialect) (x : String) : Decidable (d.InertWhole x) := inferInstanceAs (Decidable (_ = true))

/-- What is quoted is a name the database reads. -/
def Dialect.LegiblePiece (d : Dialect) : Frag → Prop
  | .ident x => d.Legible x
  | _ => True

/-- The placeholders are numbered as the parameters are, and the shown text is the one that runs with
the parameters written in. -/
structure SameStatement (d : Dialect) (out : GeneratedSql) : Prop where
  numbered : d.placeholders out.sql = (List.range out.params.length).map fun i => d.placeholder (i + 1)
  filled : d.fill out.sql out.params = out.display

/-! ## The parameters of a text -/

/-- The placeholders a text is written with. -/
def paramIndexes (t : SqlText) : List Nat := t.filterMap fun | .param index => some index | _ => none

@[simp] theorem paramIndexes_nil : paramIndexes [] = [] := rfl

@[simp] theorem paramIndexes_append (t u : SqlText) : paramIndexes (t ++ u) = paramIndexes t ++ paramIndexes u := List.filterMap_append

@[simp] theorem paramIndexes_code (x : String) : paramIndexes (code x) = [] := rfl

@[simp] theorem paramIndexes_ident (x : String) : paramIndexes (ident x) = [] := rfl

theorem paramIndexes_join (sep : String) (ts : List SqlText) : paramIndexes (join sep ts) = ts.flatMap paramIndexes := by
  induction ts using join.induct with
  | case1 => rfl
  | case2 t => simp [join]
  | case3 t u rest ih => simp [join, ih]

/-- No placeholder is written by what only holds pieces of other kinds. -/
theorem paramIndexes_eq_nil {t : SqlText} (h : ∀ f ∈ t, ∀ i, f ≠ .param i) : paramIndexes t = [] := by
  refine List.filterMap_eq_nil_iff.2 fun f hf => ?_
  cases f with
  | param i => exact absurd rfl (h _ hf i)
  | _ => rfl

/-- A text without placeholders is the same whatever is bound. -/
theorem bindParams_of_no_param {t : SqlText} (h : paramIndexes t = []) (params : List Value) : bindParams params t = t := by
  induction t with
  | nil => rfl
  | cons f t ih =>
    have hsplit : paramIndexes [f] ++ paramIndexes t = [] := by rwa [← paramIndexes_append]
    obtain ⟨hf, ht⟩ := List.append_eq_nil_iff.1 hsplit
    have hfrag : bindFrag params f = f := by
      cases f with
      | param index => cases hf
      | _ => rfl
    rw [bindParams, List.map_cons, hfrag]
    exact congrArg _ (ih ht)

/-! ## The two conditions -/

theorem paramIndexes_of_columnText {t : SqlText} (h : ColumnText t) : paramIndexes t = [] := by cases h <;> rfl

/-- A comparison is written with the placeholders of its operands. -/
theorem paramIndexes_comparison {d : Dialect} {column : SqlText} (hcol : ColumnText column) {f : Filter} (hf : Buildable d f)
    {items : List SqlText} (hlen : items.length = f.operands.length) :
    paramIndexes (comparison d column f items) = items.flatMap paramIndexes := by
  have hcolumn := paramIndexes_of_columnText hcol
  unfold comparison
  split
  · rename_i function hs
    have hgeo := hf.spatial (by simp [hs]) (items.getD 0 [])
    rw [operands_spatial (by simp [hs])] at hlen
    obtain ⟨item, rfl⟩ := List.length_eq_one_iff.1 hlen
    cases d <;> simp [Dialect.spatialGeometry, ogcGeometryCtor, hcolumn] at hgeo ⊢
  · dsimp only
    split_ifs with hin htwo hone
    · simp [hcolumn, paramIndexes_join]
    · obtain ⟨low, high, rfl⟩ := List.length_eq_two.1 (hlen.trans (hf.range htwo))
      simp [hcolumn]
    · rw [Filter.operands, if_neg hin, if_neg htwo, if_pos hone] at hlen
      obtain ⟨item, rfl⟩ := List.length_eq_one_iff.1 hlen
      simp [hcolumn]
    · rw [Filter.operands, if_neg hin, if_neg htwo, if_neg hone] at hlen
      obtain rfl := List.length_eq_zero_iff.1 hlen
      simp [hcolumn]

theorem length_renderValues (mode : ValueMode) (params vs : List Value) : (renderValues mode params vs).2.length = vs.length := by
  induction vs generalizing params with
  | nil => rfl
  | cons v vs ih => rw [renderValues_cons, List.length_cons, List.length_cons, ih]

/-- Bound operands are numbered on from the parameters collected before them. -/
theorem renderValues_placeholder (params vs : List Value) :
    (renderValues .placeholder params vs).1 = params ++ vs ∧
      (renderValues .placeholder params vs).2.flatMap paramIndexes = List.range' (params.length + 1) vs.length := by
  induction vs generalizing params with
  | nil => exact ⟨(List.append_nil params).symm, rfl⟩
  | cons v vs ih =>
    obtain ⟨hparams, hindexes⟩ := ih (params ++ [v])
    have hone : renderValue .placeholder params v = (params ++ [v], [.param (params.length + 1)]) := by simp [renderValue]
    rw [renderValues_cons, hone]
    refine ⟨by rw [hparams, List.append_assoc]; rfl, ?_⟩
    rw [List.flatMap_cons, hindexes, List.length_append, List.length_singleton, List.length_cons, List.range'_succ]
    rfl

theorem renderValues_literal (params vs : List Value) :
    (renderValues .literal params vs).1 = params ∧ (renderValues .literal params vs).2 = vs.map operandText := by
  induction vs generalizing params with
  | nil => exact ⟨rfl, rfl⟩
  | cons v vs ih =>
    obtain ⟨hparams, htexts⟩ := ih params
    rw [renderValues_cons]
    exact ⟨hparams, congrArg _ htexts⟩

namespace SqlGenerator

section

variable {g : SqlGenerator} {d : Dialect} {base sourceAlias : String}

/-- **The conditions as they run and as they are shown**: the placeholders are numbered on, and the
shown text has the values in their places. -/
theorem buildConditions_bound {first : Bool} {params params' shown shown' final : List Value} {filters : List Filter} {ts us : List SqlText}
    (hbound : g.buildConditions d sourceAlias base .placeholder first params filters = .ok (params', ts))
    (hshown : g.buildConditions d sourceAlias base .literal first shown filters = .ok (shown', us)) (hfinal : params' <+: final) :
    us.flatten = bindParams final ts.flatten ∧ params <+: params' ∧
      paramIndexes ts.flatten = List.range' (params.length + 1) (params'.length - params.length) := by
  induction filters generalizing first params shown ts us with
  | nil =>
    obtain ⟨rfl, rfl⟩ := Prod.mk.inj (Except.ok.inj hbound)
    obtain ⟨rfl, rfl⟩ := Prod.mk.inj (Except.ok.inj hshown)
    exact ⟨rfl, List.prefix_rfl, by simp⟩
  | cons f filters ih =>
    simp only [buildConditions, Res.bind_eq_ok, pure, Except.pure, Except.ok.injEq, Prod.mk.injEq] at hbound hshown
    obtain ⟨⟨params₁, t⟩, ht, ⟨params₂, ts'⟩, hrest, rfl, rfl⟩ := hbound
    obtain ⟨⟨shown₁, u⟩, hu, ⟨shown₂, us'⟩, hrestShown, rfl, rfl⟩ := hshown
    obtain ⟨htail, hpre, hindexes⟩ := ih hrest hrestShown
    have hcol := columnText_qualifyField g base f.field sourceAlias
    obtain ⟨hbind, -, -, hone⟩ := bind_buildCondition ht (hpre.trans hfinal)
    obtain ⟨hf, hparams₁, rfl⟩ := buildCondition_eq_ok ht
    obtain ⟨-, -, rfl⟩ := buildCondition_eq_ok hu
    obtain ⟨hcollected, hnumbered⟩ := renderValues_placeholder params f.operands
    have hsep : bindParams final (separator first f) = separator first f ∧ paramIndexes (separator first f) = [] := by
      cases first <;> cases ho : f.orCondition <;> simp [separator, ho]
    have hlength : params₁.length = params.length + f.operands.length := by rw [hparams₁, hcollected, List.length_append]
    refine ⟨?_, hone.trans hpre, ?_⟩
    · rw [List.flatten_cons, List.flatten_cons, bindParams_append, bindParams_append, hsep.1, hbind, htail, (renderValues_literal _ _).2]
      rfl
    · have hle : params₁.length ≤ params₂.length := hpre.length_le
      rw [List.flatten_cons, paramIndexes_append, paramIndexes_append, hsep.2, List.nil_append, hindexes,
        paramIndexes_comparison hcol hf (length_renderValues _ _ _), hnumbered,
        show params₁.length + 1 = params.length + 1 + f.operands.length by omega, List.range'_append_1]
      exact congrArg (List.range' _) (show f.operands.length + (params₂.length - params₁.length) = params₂.length - params.length by omega)

/-- The WHERE clause of the text that is shown is that of the text that runs, with its values. -/
theorem buildWhereClause_bound {query : Query} {params shown : List Value} {t u : Option SqlText}
    (hbound : g.buildWhereClause query d sourceAlias base .placeholder = .ok (params, t))
    (hshown : g.buildWhereClause query d sourceAlias base .literal = .ok (shown, u)) :
    u = t.map (bindParams params) ∧ (t.map paramIndexes).getD [] = List.range' 1 params.length := by
  unfold buildWhereClause at hbound hshown
  split_ifs at hbound hshown
  · obtain ⟨rfl, rfl⟩ := Prod.mk.inj (Except.ok.inj hbound)
    obtain ⟨-, rfl⟩ := Prod.mk.inj (Except.ok.inj hshown)
    exact ⟨rfl, rfl⟩
  · obtain ⟨⟨params', ts⟩, hts, hbound⟩ := Res.bind_eq_ok.1 hbound
    obtain ⟨⟨shown', us⟩, hus, hshown⟩ := Res.bind_eq_ok.1 hshown
    obtain ⟨rfl, rfl⟩ := Prod.mk.inj (Except.ok.inj hbound)
    obtain ⟨rfl, rfl⟩ := Prod.mk.inj (Except.ok.inj hshown)
    obtain ⟨htexts, -, hindexes⟩ := buildConditions_bound hts hus List.prefix_rfl
    exact ⟨congrArg some htexts, hindexes⟩

end

end SqlGenerator

/-! ## The whole statement -/

theorem paramIndexes_flatten {ts : List SqlText} (h : ∀ t ∈ ts, paramIndexes t = []) : paramIndexes ts.flatten = [] := by
  induction ts with
  | nil => rfl
  | cons t ts ih =>
    obtain ⟨ht, hts⟩ := List.forall_mem_cons.1 h
    rw [List.flatten_cons, paramIndexes_append, ht, ih hts]
    rfl

theorem paramIndexes_joined {sep : String} {ts : List SqlText} (h : ∀ t ∈ ts, paramIndexes t = []) : paramIndexes (join sep ts) = [] := by
  rw [paramIndexes_join]
  exact List.flatMap_eq_nil_iff.2 h

/-- What stands around the condition of a statement holds no placeholder of the generator's. -/
theorem exists_around {d : Dialect} {plan : LogicalPlan} (hitems : ∀ item ∈ plan.selectItems, paramIndexes item.expression = [])
    (hjoins : ∀ j ∈ plan.joins, paramIndexes (onNames j.on) = []) (hgroup : ∀ t ∈ plan.groupBy, paramIndexes t = [])
    (horder : ∀ item ∈ plan.orderBy, paramIndexes item.column = []) :
    ∃ before behind, paramIndexes before = [] ∧ paramIndexes behind = [] ∧
      ∀ clause params, d.statementParts { plan with whereClause := clause, params } = before ++ whereText clause ++ behind := by
  let joins := plan.joins.map fun j => ({ j with on := onNames j.on } : JoinClause)
  let select := code "SELECT " ++ (if plan.distinct then code "DISTINCT " else []) ++ join ", " (plan.selectItems.map Dialect.selectItemText)
  let source := code " FROM " ++ Dialect.renderSource plan ++ code " " ++ (ident plan.sourceAlias ++ code " ")
  let groups := if plan.groupBy.isEmpty then [] else code " GROUP BY " ++ join ", " plan.groupBy ++ code " "
  let orders := if plan.orderBy.isEmpty then [] else code " ORDER BY " ++ join ", " (plan.orderBy.map Dialect.orderText) ++ code " "
  have hselect : paramIndexes select = [] := by
    have hlist : paramIndexes (join ", " (plan.selectItems.map Dialect.selectItemText)) = [] := by
      refine paramIndexes_joined fun t ht => ?_
      obtain ⟨item, hitem, rfl⟩ := List.mem_map.1 ht
      unfold Dialect.selectItemText
      cases item.aliasName <;> simp [hitems item hitem]
    simp only [select]
    split_ifs <;> simp [hlist]
  have hsource : paramIndexes source = [] := by
    simp only [source, Dialect.renderSource]
    split_ifs <;> simp
  have hjoined : paramIndexes (joins.map Dialect.joinText).flatten = [] := by
    refine paramIndexes_flatten fun t ht => ?_
    obtain ⟨j', hj', rfl⟩ := List.mem_map.1 ht
    obtain ⟨j, hj, rfl⟩ := List.mem_map.1 hj'
    simp [Dialect.joinText, hjoins j hj]
  have hgroups : paramIndexes groups = [] := by
    simp only [groups]
    split_ifs
    · rfl
    · simp [paramIndexes_joined hgroup]
  have horders : paramIndexes orders = [] := by
    have hlist : paramIndexes (join ", " (plan.orderBy.map Dialect.orderText)) = [] := by
      refine paramIndexes_joined fun t ht => ?_
      obtain ⟨item, hitem, rfl⟩ := List.mem_map.1 ht
      simp [Dialect.orderText, horder item hitem]
    simp only [orders]
    split_ifs
    · rfl
    · simp [hlist]
  have hlimit : paramIndexes (d.limitOffset [] plan.limit plan.offset) = [] := by
    cases d <;> cases plan.limit <;> cases plan.offset <;> rfl
  refine ⟨select ++ source ++ (joins.map Dialect.joinText).flatten, groups ++ orders ++ d.limitOffset [] plan.limit plan.offset, ?_, ?_, ?_⟩
  · simp [hselect, hsource, hjoined]
  · simp [hgroups, horders, hlimit]
  · intro clause params
    rw [Dialect.statementParts_eq]
    simp only [select, source, groups, orders, joins, List.append_assoc]
    rfl

namespace SqlGenerator

variable {g : SqlGenerator} {query : Query} {m : Model} {sourceAlias : String} {out : GeneratedSql} {plan : LogicalPlan}

namespace Statement

/-- Only the condition of a statement holds placeholders. -/
theorem parts_no_param (h : g.Statement query out m sourceAlias plan) :
    (∀ item ∈ plan.selectItems, paramIndexes item.expression = []) ∧ (∀ j ∈ plan.joins, paramIndexes (onNames j.on) = []) ∧
      (∀ t ∈ plan.groupBy, paramIndexes t = []) ∧ ∀ item ∈ plan.orderBy, paramIndexes item.column = [] := by
  let P : Frag → Prop := fun f => ∀ i, f ≠ .param i
  have hP : Settled P := ⟨fun _ _ => by simp, fun _ _ _ => by simp, fun _ _ _ => by simp⟩
  have hraw : ∀ x, P (.raw x) := fun _ _ => by simp
  have hident : ∀ x, P (.ident x) := fun _ _ => by simp
  have howned : ∀ field, g.Owned P m.name sourceAlias field := fun _ owner column _ => ⟨hraw owner, hident column⟩
  refine ⟨fun item hitem => paramIndexes_eq_nil ?_, fun j hj => paramIndexes_eq_nil ?_, fun t ht => paramIndexes_eq_nil ?_,
    fun item hitem => paramIndexes_eq_nil ?_⟩
  · refine (h.forall_items hP).2 ⟨fun _ _ _ _ => ⟨fun field _ => howned field, fun _ => hraw _⟩, fun _ _ => howned _, fun _ _ => ⟨hraw _, hraw _⟩⟩
      item hitem
  · exact (h.forall_joins (p := fun j => ∀ f ∈ onNames j.on, P f)).2 (fun _ _ => forall_onNames hP.code hraw hident _) j hj
  · exact (h.forall_groupBy hP).2 ⟨fun _ _ => howned _, fun _ _ => ⟨hraw _, hraw _⟩⟩ t ht
  · refine (h.forall_orderBy hP).2 (fun order _ => ?_) item hitem
    split_ifs
    · exact hraw _
    · exact ⟨hraw _, hident _⟩

/-- **The parts of the statement that runs and of the one that is shown.** -/
theorem shown_eq (h : g.Statement query out m sourceAlias plan) :
    out.display = Str.trim ((g.dialectFor m.name).render (bindParams plan.params ((g.dialectFor m.name).statementParts plan))) ∧
      paramIndexes ((g.dialectFor m.name).statementParts plan) = List.range' 1 plan.params.length := by
  obtain ⟨sourceTable, sourceAlias', bound, shown, hsource, hbound, hshown, rfl⟩ := generate_eq_ok.1 h.generated
  obtain ⟨rfl, rfl⟩ := Prod.mk.inj (Except.ok.inj (hsource.symm.trans h.source))
  obtain rfl : bound = plan := Except.ok.inj (hbound.symm.trans h.planned)
  obtain ⟨items, clause, joins, hitems, hclause, hjoins, hplan⟩ := buildLogicalPlan_eq_ok.1 hbound
  obtain ⟨items', clause', joins', hitems', hclause', hjoins', hplan'⟩ := buildLogicalPlan_eq_ok.1 hshown
  obtain rfl := Except.ok.inj (hitems.symm.trans hitems')
  obtain rfl := Except.ok.inj (hjoins.symm.trans hjoins')
  obtain ⟨hwhere, hindexes⟩ := buildWhereClause_bound hclause hclause'
  have hshape : shown = { bound with whereClause := bound.whereClause.map (bindParams bound.params), params := clause'.1 } := by
    rw [hplan', hplan, hwhere]
  obtain ⟨hitems, hjoins, hgroup, horder⟩ := h.parts_no_param
  obtain ⟨before, behind, hbefore, hbehind, hparts⟩ := @exists_around (g.dialectFor m.name) _ hitems hjoins hgroup horder
  have hrun : (g.dialectFor m.name).statementParts bound = before ++ whereText bound.whereClause ++ behind := hparts _ _
  have hwhereText : whereText (bound.whereClause.map (bindParams bound.params)) = bindParams bound.params (whereText bound.whereClause) := by
    cases bound.whereClause <;> simp [whereText]
  refine ⟨?_, ?_⟩
  · show Str.trim ((g.dialectFor m.name).render ((g.dialectFor m.name).statementText shown)) = _
    rw [← Dialect.render_statementParts, hshape, hparts, hrun, hwhereText, bindParams_append, bindParams_append,
      bindParams_of_no_param hbefore, bindParams_of_no_param hbehind]
  · rw [hrun, paramIndexes_append, paramIndexes_append, hbefore, hbehind, List.append_nil, List.nil_append]
    obtain ⟨hcondition, hparams⟩ : bound.whereClause = clause.2 ∧ bound.params = clause.1 := by
      rw [hplan]
      exact ⟨rfl, rfl⟩
    rw [hcondition, hparams, ← hindexes]
    cases clause.2 <;> simp [whereText]

end Statement

end SqlGenerator

/-! ## Values end in no blank -/

theorem solid_value (d : Dialect) {v : Value} (h : v.WellFormed) : Solid d (.value v) := by
  have hquote : ∀ x : String, (("'" ++ x ++ "'") : String).toList = ('\'' :: x.toList) ++ ['\''] := fun x => by simp
  cases h with
  | null => cases d <;> exact solid_of_wordy (by decide) (List.all_eq_true.1 (by decide))
  | bool b => cases d <;> cases b <;> exact solid_of_wordy (by decide) (List.all_eq_true.1 (by decide))
  | number hne htext =>
    rename_i text
    have hwordy : Wordy text.toList := by
      intro c hc
      have hchar := htext c hc
      simp only [isNumberChar, isWordPart, Str.isAsciiAlphanumeric, Bool.or_eq_true, beq_iff_eq] at hchar ⊢
      rcases hchar with ((((hdigit | rfl) | rfl) | rfl) | rfl) | rfl
      · simp [hdigit]
      all_goals decide
    cases d <;> exact solid_of_wordy (f := .value (.number text)) (fun hnil => hne (String.toList_eq_nil_iff.1 hnil)) hwordy
  | string x => cases d <;> exact solid_of_concat (hquote _) (by decide)
  | object hfields => cases d <;> exact solid_of_concat (hquote _) (by decide)
  | array hitems =>
    have hclose : ∀ (close : String) (c : Char) {x y : String}, close.toList = [c] → (x ++ y ++ close).toList = (x ++ y).toList ++ [c] :=
      fun close c x y h => by rw [String.toList_append, h]
    cases d with
    | postgres | duckDb => exact solid_of_concat (hclose "]" ']' (by decide)) (by decide)
    | mySql | sqlite => exact solid_of_concat (hclose ")" ')' (by decide)) (by decide)

theorem wellFormed_operands {f : Filter} (h : f.value.WellFormed) : ∀ v ∈ f.operands, v.WellFormed := by
  have hitems : ∀ v ∈ f.value.asArray.getD [], v.WellFormed := by
    cases hv : f.value with
    | array items =>
      rw [hv] at h
      cases h with
      | array hitems => exact hitems
    | _ => exact fun v hv => absurd hv List.not_mem_nil
  unfold Filter.operands
  split_ifs
  · exact hitems
  · exact fun v hv => hitems v (List.mem_of_mem_take hv)
  · exact fun v hv => List.mem_singleton.1 hv ▸ h
  · exact fun v hv => absurd hv List.not_mem_nil

/-! ## Trimming and filling in -/

section

variable {d : Dialect} {params : List Value} {t : SqlText}

theorem blank_append_iff {cs ds : List Char} : Str.Blank (cs ++ ds) ↔ Str.Blank cs ∧ Str.Blank ds := List.forall_mem_append

theorem solid_bindFrag (hparams : ∀ v ∈ params, v.WellFormed) (index : Nat) : Solid d (bindFrag params (.param index)) := by
  show Solid d ((params[index - 1]?.map Frag.value).getD (.param index))
  cases hv : params[index - 1]? with
  | none => exact solid_param d index
  | some v => exact solid_value d (hparams v (List.mem_of_getElem? hv))

theorem blank_bindParams (hparams : ∀ v ∈ params, v.WellFormed) :
    Str.Blank (d.render (bindParams params t)).toList ↔ Str.Blank (d.render t).toList := by
  induction t with
  | nil => exact Iff.rfl
  | cons f t ih =>
    rw [bindParams, List.map_cons, render_toList_cons, render_toList_cons, blank_append_iff, blank_append_iff]
    refine and_congr ?_ ih
    cases f with
    | param index => exact iff_of_false (not_blank_of_solid (solid_bindFrag hparams index)) (not_blank_of_solid (solid_param d index))
    | _ => exact Iff.rfl

/-- Trimming a text and writing its values in are independent. -/
theorem trimText_bindParams (hparams : ∀ v ∈ params, v.WellFormed) : trimText d (bindParams params t) = bindParams params (trimText d t) := by
  induction t with
  | nil => rfl
  | cons f t ih =>
    have hfrag : trimFrag (bindFrag params f) = bindFrag params (trimFrag f) := by
      cases f with
      | param index => exact trimFrag_of_solid (d := d) (solid_bindFrag hparams index)
      | _ => rfl
    rw [bindParams, List.map_cons, trimText, trimText]
    split_ifs with hbound hrun hrun
    · rw [hfrag]
      rfl
    · exact absurd (all_whitespace_iff.2 ((blank_bindParams hparams).1 (all_whitespace_iff.1 hbound))) hrun
    · exact absurd (all_whitespace_iff.2 ((blank_bindParams hparams).2 (all_whitespace_iff.1 hrun))) hbound
    · exact congrArg _ ih

theorem paramIndexes_of_blank (h : Str.Blank (d.render t).toList) : paramIndexes t = [] := by
  refine paramIndexes_eq_nil ?_
  rintro f hf i rfl
  obtain ⟨before, behind, rfl⟩ := List.append_of_mem hf
  rw [Dialect.render_append, String.toList_append, render_toList_cons, blank_append_iff, blank_append_iff] at h
  exact not_blank_of_solid (solid_param d i) h.2.1

/-- No placeholder is trimmed. -/
theorem paramIndexes_trimText (d : Dialect) (t : SqlText) : paramIndexes (trimText d t) = paramIndexes t := by
  induction t with
  | nil => rfl
  | cons f t ih =>
    have hcons : ∀ f t, paramIndexes (f :: t) = paramIndexes [f] ++ paramIndexes t := fun f t => paramIndexes_append [f] t
    rw [trimText, hcons f t]
    split_ifs with hblank
    · rw [paramIndexes_of_blank (all_whitespace_iff.1 hblank), List.append_nil]
      cases f <;> rfl
    · rw [hcons f, ih]

/-- A placeholder is read as one. -/
theorem lex_placeholder (d : Dialect) (index : Nat) : d.lexRules.lexer.lex (d.placeholder index).toList = [(.param false, (d.placeholder index).toList)] := by
  obtain ⟨c, cs, htext, -, htakes⟩ := takes_placeholder d index
  rw [htext]
  exact Lexer.lex_of_takes htakes

/-- The placeholders of the pieces. -/
theorem marks_pieces (d : Dialect) (t : SqlText) :
    ((d.pieces .binds t).filter (·.apart)).flatMap (fun p => Lexer.marks LexState.isParam (d.lexRules.lexer.lex p.chars)) =
      (paramIndexes t).map fun index => (d.placeholder index).toList := by
  induction t with
  | nil => rfl
  | cons f t ih =>
    cases f with
    | param index =>
      have hone : Lexer.marks LexState.isParam (d.lexRules.lexer.lex (d.placeholder index).toList) = [(d.placeholder index).toList] := by
        rw [lex_placeholder]
        rfl
      exact congrArg₂ (· ++ ·) hone ih
    | _ => exact ih

/-- **Filling in the pieces** is writing the values in. -/
theorem refillPieces_eq {i n : Nat} (h : paramIndexes t = List.range' (i + 1) n) (hlen : params.length = i + n) :
    d.lexRules.lexer.refillPieces LexState.isParam (d.pieces .binds t) ((params.drop i).map fun v => (d.formatValue v).toList) =
      (d.render (bindParams params t)).toList := by
  induction t generalizing i n with
  | nil => rfl
  | cons f t ih =>
    rw [bindParams, List.map_cons, render_toList_cons]
    cases f with
    | param index =>
      have hcons : index :: paramIndexes t = List.range' (i + 1) n := h
      cases n with
      | zero => cases hcons
      | succ n =>
        rw [List.range'_succ] at hcons
        obtain ⟨rfl, hrest⟩ := List.cons.inj hcons
        have hi : i < params.length := by omega
        have hbind : bindFrag params (.param (i + 1)) = .value params[i] := by
          simp [bindFrag, List.getElem?_eq_getElem hi]
        have htail := ih hrest (by omega)
        have hfill : ∀ cs v vs, Lexer.refill LexState.isParam [(.param false, cs)] (v :: vs) = v := fun cs v vs => List.append_nil v
        have hlex : d.lexRules.lexer.lex (d.renderFrag (.param (i + 1))).toList = [(.param false, (d.placeholder (i + 1)).toList)] :=
          lex_placeholder d (i + 1)
        rw [hbind, List.drop_eq_getElem_cons hi, List.map_cons, Dialect.pieces, List.map_cons, Lexer.refillPieces, if_pos (apart_param .binds (i + 1)), hlex, hfill]
        exact congrArg _ htail
    | _ => exact congrArg _ (ih h hlen)

end

/-! ## What may be spliced -/

section

variable {d : Dialect}

/-- Inert text is read from where a blank, a bracket or a comma ends. -/
theorem pass_of_inert {x : String} {Q : Spot → Bool} (hready : ∀ spot : Spot, spot.ready = true → Q spot = true)
    (h : (passed .binds d x).any Q = true) {spot : Spot} (hspot : spot.ready = true) :
    ∃ spot', d.lexRules.lexer.pass Reading.binds.watched spot x.toList = some spot' ∧ Q spot' = true := by
  obtain ⟨spot', hpassed, hQ⟩ := (Option.any_eq_true _ _).1 h
  rw [passed] at hpassed
  cases hchars : x.toList with
  | nil => exact ⟨spot, rfl, hready spot hspot⟩
  | cons c cs =>
    rw [hchars] at hpassed
    exact ⟨spot', by rw [pass_of_anew (anew_of_ready hspot c), hpassed], hQ⟩

theorem Dialect.Inert.qualifies {x : String} (h : d.Inert x) : SqlGenerator.Qualifies .binds d x := by
  intro spot hspot
  obtain ⟨spot', hpass, hQ⟩ := pass_of_inert (fun _ => Spot.qualifies_of_ready) h hspot
  exact ⟨spot', (reads_loose rfl spot).trans hpass, hQ⟩

theorem Dialect.InertWhole.leads {x : String} (h : d.InertWhole x) : Leads .binds d Spot.ready (raw x) (Spot.stopped d) := by
  intro spot hspot
  obtain ⟨spot', hpass, hQ⟩ := pass_of_inert (fun _ => Spot.stopped_of_ready) h hspot
  exact ⟨spot', (reads_loose rfl spot).trans hpass, hQ⟩

/-- Names spliced one after the other are one text. -/
theorem Dialect.InertWhole.leads_dotted {x y : String} (h : d.InertWhole (x ++ "." ++ y)) :
    Leads .binds d Spot.ready (raw x ++ code "." ++ raw y) (Spot.stopped d) := by
  intro spot hspot
  obtain ⟨spot', hpass, hQ⟩ := pass_of_inert (fun _ => Spot.stopped_of_ready) h hspot
  refine ⟨spot', ?_, hQ⟩
  have hraw : ∀ (spot : Spot) z, reads .binds d spot (raw z) = d.lexRules.lexer.pass Reading.binds.watched spot z.toList :=
    fun spot z => reads_loose rfl spot
  rw [String.toList_append, String.toList_append, Lexer.pass_append, Lexer.pass_append] at hpass
  rw [reads_append, reads_append]
  simp only [hraw, reads_code]
  exact hpass

end

namespace SqlGenerator

section

variable {g : SqlGenerator} {query : Query} {m : Model} {sourceAlias : String} {out : GeneratedSql} {plan : LogicalPlan}

/-- The parameters are the values of the filters and of the lists in them. -/
theorem wellFormed_buildConditions {d : Dialect} {base : String} {first : Bool} {params params' : List Value} {filters : List Filter}
    {ts : List SqlText} (h : g.buildConditions d sourceAlias base .placeholder first params filters = .ok (params', ts))
    (hparams : ∀ v ∈ params, v.WellFormed) (hfilters : ∀ f ∈ filters, f.value.WellFormed) : ∀ v ∈ params', v.WellFormed := by
  induction filters generalizing first params ts with
  | nil =>
    obtain ⟨rfl, rfl⟩ := Prod.mk.inj (Except.ok.inj h)
    exact hparams
  | cons f filters ih =>
    simp only [buildConditions, Res.bind_eq_ok] at h
    obtain ⟨⟨params₁, t⟩, hcondition, ⟨params₂, rest⟩, hrest, h⟩ := h
    obtain ⟨rfl, rfl⟩ := Prod.mk.inj (Except.ok.inj h)
    obtain ⟨-, hcollected, -⟩ := buildCondition_eq_ok hcondition
    refine ih hrest ?_ fun f hf => hfilters f (List.mem_cons_of_mem _ hf)
    rw [hcollected, (renderValues_placeholder params f.operands).1, List.forall_mem_append]
    exact ⟨hparams, wellFormed_operands (hfilters f List.mem_cons_self)⟩

theorem Statement.wellFormed_params (h : g.Statement query out m sourceAlias plan) (hquery : query.WellFormed) :
    ∀ v ∈ plan.params, v.WellFormed := by
  have hclause := h.where_eq
  unfold buildWhereClause at hclause
  split_ifs at hclause
  · obtain ⟨hparams, -⟩ := Prod.mk.inj (Except.ok.inj hclause)
    rw [← hparams]
    exact fun v hv => absurd hv List.not_mem_nil
  · obtain ⟨⟨params, ts⟩, hconditions, hclause⟩ := Res.bind_eq_ok.1 hclause
    obtain ⟨hparams, -⟩ := Prod.mk.inj (Except.ok.inj hclause)
    rw [← hparams]
    exact wellFormed_buildConditions hconditions (fun v hv => absurd hv List.not_mem_nil) hquery

/-- What a statement splices as it stands is inert, and what it quotes are names the database reads. -/
structure InertSplices (g : SqlGenerator) (query : Query) (m : Model) (sourceAlias : String) : Prop where
  quoted : Spliced (g.dialectFor m.name).LegiblePiece g query m sourceAlias
  fields : ∀ field ∈ plainFields query, ∀ owner column, g.resolveField m.name field sourceAlias = some (owner, column) →
    (g.dialectFor m.name).Inert owner
  measures : ∀ measure ∈ query.measures, ∀ reads, g.measureReads measure = .ok reads →
    (∀ field ∈ reads.fields, ∀ owner column, g.resolveField m.name field sourceAlias = some (owner, column) →
      (g.dialectFor m.name).Inert owner) ∧ (reads.window = true → (g.dialectFor m.name).Inert sourceAlias)
  aggregations : ∀ measure ∈ query.measures, FormulaParser.needsParse (Str.trim measure.formula.expression) = false →
    ∀ name, measure.aggregation = .custom name → Reading.closedBefore .binds (g.dialectFor m.name) '(' name = true
  times : ∀ td ∈ query.timeDimensions, (g.dialectFor m.name).InertWhole (sourceAlias ++ "." ++ td.dimension)
  orders : ∀ order ∈ query.order, if Str.containsChar order.field '.' then (g.dialectFor m.name).InertWhole order.field
    else (g.dialectFor m.name).Inert sourceAlias
  conditions : ∀ e ∈ statementLinks g.modelRegistry.items m, ∀ x, .raw x ∈ onNames (writtenClause sourceAlias e).on →
    (g.dialectFor m.name).Inert x
  source : ∀ sql, sourceOverride (some m) = some sql →
    Reading.closedBefore .binds (g.dialectFor m.name) ')' (Str.trimEndMatches ';' (Str.trim sql)) = true

/-- Inert splices are read as what they are. -/
theorem InertSplices.spliceable (h : g.InertSplices query m sourceAlias) : g.Spliceable .binds query m sourceAlias where
  fields field hfield owner column hresolve :=
    ⟨(h.fields field hfield owner column hresolve).qualifies, (h.quoted.fields field hfield owner column hresolve).2.1⟩
  measures measure hmeasure reads hreads :=
    ⟨fun field hfield owner column hresolve =>
      ⟨((h.measures measure hmeasure reads hreads).1 field hfield owner column hresolve).qualifies,
        ((h.quoted.measures measure hmeasure reads hreads).1 field hfield owner column hresolve).2.1⟩,
      fun hwindow => ((h.measures measure hmeasure reads hreads).2 hwindow).qualifies⟩
  aggregations := h.aggregations
  times td htd := (h.times td htd).leads_dotted
  orders order horder := by
    have hinert := h.orders order horder
    have hquoted := h.quoted.orders order horder
    unfold orderByItem
    dsimp only
    split_ifs at hinert hquoted ⊢
    · exact hinert.leads
    · exact leads_qualified hinert.qualifies hquoted.2.1
  conditions e he := by
    refine leads_onNames fun f hf => ?_
    have hquoted := h.quoted.conditions e he f hf
    cases f with
    | raw x => exact (h.conditions e he x hf).qualifies
    | ident x => exact hquoted.1
    | _ => trivial
  source := h.source
  table hnone := (h.quoted.table hnone).1
  named := h.quoted.named.1
  labels name hname := (h.quoted.labels name hname).1
  joined e he := ⟨(h.quoted.joined e he).1.1, (h.quoted.joined e he).2.1⟩

end

/-! ## An alias that is a placeholder -/

namespace AliasedOrders

def orders : Model := { name := "orders", datasource := "warehouse", dimensions := [⟨"status", none⟩] }

def generator (d : Dialect) : SqlGenerator := (new d ⟨fun _ => false, fun _ => false⟩).withModels [orders]

/-- The orders of one status by an alias. -/
def query (aliasName : String) : Query where
  sourceModel := some ⟨"orders", none, some aliasName⟩
  measures := [⟨{ expression := "amount" }, .sum⟩]
  filters := [{ field := "status", operator := .eq, value := .string "paid?" }]

end AliasedOrders

end SqlGenerator

end GraphNight
