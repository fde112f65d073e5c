import GraphNight.Sql.FieldOwners
import GraphNight.Sql.Scope

/-!
# One field, one column

A field is spliced by a builder of each clause. A dimension and a filter go through
`qualify_field`; a time dimension and an order entry do not, so that what a field
stands for can differ from clause to clause.
-/

namespace GraphNight

open SqlText

section

-- the texts the database reads as one identifier when nothing quotes them
variable (unquoted : String → Bool) (d : Dialect)

/-- What a column name is compared as: Postgres keeps the case of a quoted one. -/
def Dialect.foldColumn (quoted : Bool) (name : String) : String :=
  match d, quoted with
  | .postgres, true => name
  | _, _ => Str.toAsciiLowercase name

/-- The alias and the column a name stands for, as the database compares them. -/
def columnKey : NameRef → Option (String × String)
  | .column owner name quoted =>
    if unquoted owner && (quoted || unquoted name) then some (d.foldPlain owner, d.foldColumn quoted name) else none
  | .alone _ => none

/-- Two names of one column. -/
def SameColumn (r s : NameRef) : Prop :=
  r = s ∨ (columnKey unquoted d r = columnKey unquoted d s ∧ (columnKey unquoted d r).isSome = true)

/-- The names a clause uses for a field: those of the texts its builder wrote for the
elements of that name. -/
def usesIn {α : Type} (name : α → String) (field : String) (xs : List α) (texts : List SqlText) : List NameRef :=
  (xs.zip texts).flatMap fun p => if name p.1 = field then refs p.2 else []

/-- The names a plan uses for a field, in SELECT, GROUP BY, WHERE and ORDER BY. -/
def usesOf (query : Query) (plan : LogicalPlan) (field : String) : List NameRef :=
  let items := plan.selectItems.map (·.expression)
  usesIn Dimension.name field query.dimensions (items.drop query.measures.length) ++
    usesIn TimeDimension.dimension field query.timeDimensions
      (items.drop (query.measures.length + query.dimensions.length)) ++
    usesIn Dimension.name field query.dimensions plan.groupBy ++
    usesIn TimeDimension.dimension field query.timeDimensions (plan.groupBy.drop query.dimensions.length) ++
    -- a filter on the star names no column
    (((query.filters.filter (·.field ≠ "*")).zip (plan.whereClause.elim [] refs)).filter
      (·.1.field = field)).map (·.2) ++
    usesIn OrderBy.field field query.order (plan.orderBy.map (·.column))

/-- A text that is a column and nothing else. -/
def IsColumn (t : SqlText) (r : NameRef) : Prop :=
  (∃ owner name, t = qualified owner name ∧ r = .column owner name true) ∨ ∃ text, t = raw text ∧ r = rawRef text

/-- An order entry that sorts by a select item: by its expression, by its output alias,
or by the column it is. -/
def SortsBy (column : SqlText) (item : SelectItem) : Prop :=
  column = item.expression ∨ (∃ aliasName, item.aliasName = some aliasName ∧ column = ident aliasName) ∨
    ∃ r s, IsColumn column r ∧ IsColumn item.expression s ∧ SameColumn unquoted d r s

/-- A field that is selected is the same column wherever it is used, an order entry
naming an output alias sorts by the item under it, and beside a measure only what is
grouped by is selected. -/
structure FieldsConsistent (query : Query) (plan : LogicalPlan) : Prop where
  agree : ∀ field, field ∈ query.dimensions.map (·.name) ∨ field ∈ query.timeDimensions.map (·.dimension) →
    ∀ r ∈ usesOf query plan field, ∀ s ∈ usesOf query plan field, SameColumn unquoted d r s
  sorted : ∀ p ∈ query.order.zip plan.orderBy, ∀ item ∈ plan.selectItems, item.aliasName = some p.1.field →
    SortsBy unquoted d p.2.column item
  grouped : query.measures ≠ [] → ∀ item ∈ plan.selectItems.drop query.measures.length, ∃ t ∈ plan.groupBy,
    item.expression = t ∨ d.geometryAsGeojson t = some item.expression

end

namespace SqlGenerator

section

variable (unquoted : String → Bool) (g : SqlGenerator) (query : Query) (m : Model) (sourceAlias : String)

/-- The column a dimension or a filter resolves a field to is also the one of a name. -/
def ResolvesLike (field : String) (r : NameRef) : Prop :=
  ∀ s ∈ g.fieldRefs m.name sourceAlias field, SameColumn unquoted (g.dialectFor m.name) s r

/-- What agreement asks of the fields of a query: the source's own column for a time
dimension that is filtered or selected plainly too, and for an order entry; and that an
order entry names no measure, no time dimension and no geometry by its output alias. -/
structure FieldsSettled : Prop where
  times : ∀ td ∈ query.timeDimensions, td.dimension ∈ plainFields query →
    g.ResolvesLike unquoted m sourceAlias td.dimension (rawRef (sourceAlias ++ "." ++ td.dimension))
  ordersPlain : ∀ order ∈ query.order, order.field ∈ query.dimensions.map (·.name) →
    g.ResolvesLike unquoted m sourceAlias order.field (orderRef sourceAlias order.field)
  ordersTimes : ∀ order ∈ query.order, order.field ∈ query.timeDimensions.map (·.dimension) →
    SameColumn unquoted (g.dialectFor m.name) (rawRef (sourceAlias ++ "." ++ order.field))
      (orderRef sourceAlias order.field)
  aliasMeasures : ∀ order ∈ query.order, ∀ measure ∈ query.measures, measure.label ≠ order.field
  aliasTimes : ∀ order ∈ query.order, ∀ td ∈ query.timeDimensions,
    td.label.getD (td.dimension ++ "_" ++ td.granularity.dateTruncUnit) ≠ order.field
  aliasDimensions : ∀ order ∈ query.order, ∀ dim ∈ query.dimensions, dim.label.getD dim.name = order.field →
    dim.name ≠ "*" ∧ g.fieldIsGeometry m.name dim.name = false ∧
      g.ResolvesLike unquoted m sourceAlias dim.name (orderRef sourceAlias order.field)

end

end SqlGenerator

/-! ## Names of one column -/

section

variable {unquoted : String → Bool} {d : Dialect} {r s t : NameRef}

theorem length_foldColumn (quoted : Bool) (name : String) : (d.foldColumn quoted name).toList.length = name.toList.length := by
  unfold Dialect.foldColumn
  split <;> simp [Str.toAsciiLowercase]

theorem SameColumn.symm (h : SameColumn unquoted d r s) : SameColumn unquoted d s r := by
  rcases h with rfl | ⟨hkey, hsome⟩
  · exact .inl rfl
  · exact .inr ⟨hkey.symm, hkey ▸ hsome⟩

theorem SameColumn.trans (h : SameColumn unquoted d r s) (h' : SameColumn unquoted d s t) :
    SameColumn unquoted d r t := by
  rcases h with rfl | ⟨hkey, hsome⟩
  · exact h'
  · rcases h' with rfl | ⟨hkey', -⟩
    · exact .inr ⟨hkey, hsome⟩
    · exact .inr ⟨hkey.trans hkey', hsome⟩

/-- A text is one column at most. -/
theorem IsColumn.unique {text : SqlText} (h : IsColumn text r) (h' : IsColumn text s) : r = s := by
  rcases h with ⟨owner, name, rfl, rfl⟩ | ⟨x, rfl, rfl⟩ <;> rcases h' with ⟨owner', name', heq, rfl⟩ | ⟨x', heq, rfl⟩
  · cases heq
    rfl
  · cases heq
  · cases heq
  · cases heq
    rfl

/-- Text that begins with code is no column. -/
theorem not_isColumn_code {x : String} {u : SqlText} : ¬IsColumn (code x ++ u) r := by
  rintro (⟨owner, name, heq, -⟩ | ⟨text, heq, -⟩) <;> cases heq

/-- The names of a clause whose texts name what their elements stand for. -/
theorem mem_usesIn {α : Type} {name : α → String} {names : String → List NameRef} {field : String} {xs : List α}
    {texts more : List SqlText} (h : List.Forall₂ (fun x t => refs t = names (name x)) xs texts) :
    r ∈ usesIn name field xs (texts ++ more) ↔ field ∈ xs.map name ∧ r ∈ names field := by
  induction h with
  | nil => simp [usesIn]
  | @cons x t xs texts hx _ ih =>
    have hcons : usesIn name field (x :: xs) (t :: texts ++ more) =
        (if name x = field then refs t else []) ++ usesIn name field xs (texts ++ more) := rfl
    rw [hcons, List.mem_append, ih, List.map_cons, List.mem_cons, hx]
    by_cases heq : name x = field
    · subst heq
      simp only [if_true, true_or, true_and]
      exact ⟨fun h => h.elim id fun h => h.2, .inl⟩
    · simp [heq, Ne.symm heq]

end

namespace SqlGenerator

section

variable {unquoted : String → Bool} {g : SqlGenerator} {query : Query} {out : GeneratedSql} {m : Model}
  {sourceAlias : String} {plan : LogicalPlan}

/-- Filters on columns, each with the name of its column. -/
theorem zip_filterRefs (filters : List Filter) (base : String) :
    (filters.filter (·.field ≠ "*")).zip (filters.flatMap fun f => g.fieldRefs base sourceAlias f.field) =
      filters.flatMap fun f => (g.fieldRefs base sourceAlias f.field).map fun r => (f, r) := by
  induction filters with
  | nil => rfl
  | cons f filters ih =>
    rw [List.flatMap_cons, List.flatMap_cons, ← ih]
    cases hresolve : g.resolveField base f.field sourceAlias with
    | none =>
      have hrefs : g.fieldRefs base sourceAlias f.field = [] := by rw [fieldRefs, hresolve]; rfl
      have hstar := resolveField_eq_none.1 hresolve
      rw [List.filter_cons_of_neg (by simpa using hstar), hrefs]
      rfl
    | some p =>
      have hrefs : g.fieldRefs base sourceAlias f.field = [.column p.1 p.2 true] := by rw [fieldRefs, hresolve]; rfl
      have hstar : f.field ≠ "*" := fun h => by simp [resolveField_eq_none.2 h] at hresolve
      rw [List.filter_cons_of_pos (by simpa using hstar), hrefs]
      rfl

theorem Statement.whereRefs_eq (h : g.Statement query out m sourceAlias plan) :
    plan.whereClause.elim [] refs = query.filters.flatMap fun f => g.fieldRefs m.name sourceAlias f.field := by
  have hwhere := h.where_eq
  cases hclause : plan.whereClause with
  | none =>
    rw [hclause] at hwhere
    unfold buildWhereClause at hwhere
    split_ifs at hwhere with hempty
    · simp [List.isEmpty_iff.1 hempty]
    · obtain ⟨clause, -, hwhere⟩ := Res.bind_eq_ok.1 hwhere
      exact absurd (congrArg Prod.snd (Except.ok.inj hwhere)) (by simp)
  | some t =>
    rw [hclause] at hwhere
    exact refs_buildWhereClause hwhere

/-- **The names a plan uses for a field**, by what the query uses it as. -/
theorem Statement.mem_usesOf (h : g.Statement query out m sourceAlias plan) {field : String} {r : NameRef} :
    r ∈ usesOf query plan field ↔
      (field ∈ plainFields query ∧ r ∈ g.fieldRefs m.name sourceAlias field) ∨
      (field ∈ query.timeDimensions.map (·.dimension) ∧ r = rawRef (sourceAlias ++ "." ++ field)) ∨
      (field ∈ query.order.map (·.field) ∧ r = orderRef sourceAlias field) := by
  obtain ⟨measures, dimensions, hmeasures, hdimensions, hitems⟩ := h.items_eq
  have hmlen := (Res.forall₂_of_mapM hmeasures).length_eq
  have hdlen := (Res.forall₂_of_mapM hdimensions).length_eq
  have htime : ∀ tds : List TimeDimension,
      List.Forall₂ (fun (td : TimeDimension) t => refs t = [rawRef (sourceAlias ++ "." ++ td.dimension)]) tds
        (tds.map fun td => timeDimExpr (g.dialectFor m.name) td sourceAlias) := by
    intro tds
    induction tds with
    | nil => exact .nil
    | cons td tds ih => exact .cons (refs_timeDimExpr td) ih
  have hdim : List.Forall₂ (fun (dim : Dimension) t => refs t = g.fieldRefs m.name sourceAlias dim.name)
      query.dimensions (dimensions.map (·.expression)) := by
    rw [List.forall₂_map_right_iff]
    exact (Res.forall₂_of_mapM hdimensions).imp fun dim item hitem => refs_dimensionItem hitem
  have hgroup : List.Forall₂ (fun (dim : Dimension) t => refs t = g.fieldRefs m.name sourceAlias dim.name)
      query.dimensions (query.dimensions.map fun dim => g.qualifyField m.name dim.name sourceAlias) := by
    rw [List.forall₂_map_right_iff, List.forall₂_same]
    exact fun dim _ => refs_qualifyField g m.name dim.name sourceAlias
  have horder : List.Forall₂ (fun (order : OrderBy) t => refs t = [orderRef sourceAlias order.field])
      query.order (plan.orderBy.map (·.column)) := by
    rw [h.orderBy_eq, buildOrderBy, List.map_map, List.forall₂_map_right_iff, List.forall₂_same]
    exact fun order _ => refs_orderByItem order
  have hselectDims : (plan.selectItems.map (·.expression)).drop query.measures.length =
      dimensions.map (·.expression) ++
        query.timeDimensions.map fun td => timeDimExpr (g.dialectFor m.name) td sourceAlias := by
    rw [hitems, List.map_append, List.map_append, List.append_assoc, hmlen, ← List.length_map (·.expression),
      List.drop_left, List.map_map]
    rfl
  have hselectTimes : (plan.selectItems.map (·.expression)).drop (query.measures.length + query.dimensions.length) =
      query.timeDimensions.map fun td => timeDimExpr (g.dialectFor m.name) td sourceAlias := by
    rw [← List.drop_drop, hselectDims, hdlen, ← List.length_map (·.expression), List.drop_left]
  have hgroupTimes : plan.groupBy.drop query.dimensions.length =
      query.timeDimensions.map fun td => timeDimExpr (g.dialectFor m.name) td sourceAlias := by
    rw [h.groupBy_eq, buildGroupBy,
      ← List.length_map fun dim : Dimension => g.qualifyField m.name dim.name sourceAlias, List.drop_left]
  have hwhere : r ∈ (((query.filters.filter (·.field ≠ "*")).zip (plan.whereClause.elim [] refs)).filter
      (·.1.field = field)).map (·.2) ↔
      field ∈ query.filters.map (·.field) ∧ r ∈ g.fieldRefs m.name sourceAlias field := by
    rw [h.whereRefs_eq, zip_filterRefs]
    simp only [List.mem_map, List.mem_filter, List.mem_flatMap, decide_eq_true_eq]
    constructor
    · rintro ⟨p, ⟨⟨f, hf, r', hr', rfl⟩, rfl⟩, rfl⟩
      exact ⟨⟨f, hf, rfl⟩, hr'⟩
    · rintro ⟨⟨f, hf, rfl⟩, hr⟩
      exact ⟨(f, r), ⟨⟨f, hf, r, hr, rfl⟩, rfl⟩, rfl⟩
  have hselectDimsMem : r ∈ usesIn Dimension.name field query.dimensions (dimensions.map (·.expression) ++
      query.timeDimensions.map fun td => timeDimExpr (g.dialectFor m.name) td sourceAlias) ↔
      field ∈ query.dimensions.map (·.name) ∧ r ∈ g.fieldRefs m.name sourceAlias field := mem_usesIn hdim
  have hselectTimesMem : r ∈ usesIn TimeDimension.dimension field query.timeDimensions
      ((query.timeDimensions.map fun td => timeDimExpr (g.dialectFor m.name) td sourceAlias) ++ []) ↔
      field ∈ query.timeDimensions.map (·.dimension) ∧ r ∈ [rawRef (sourceAlias ++ "." ++ field)] :=
    @mem_usesIn _ _ _ (fun field => [rawRef (sourceAlias ++ "." ++ field)]) _ _ _ _ (htime query.timeDimensions)
  have hgroupDimsMem : r ∈ usesIn Dimension.name field query.dimensions
      ((query.dimensions.map fun dim => g.qualifyField m.name dim.name sourceAlias) ++
        query.timeDimensions.map fun td => timeDimExpr (g.dialectFor m.name) td sourceAlias) ↔
      field ∈ query.dimensions.map (·.name) ∧ r ∈ g.fieldRefs m.name sourceAlias field := mem_usesIn hgroup
  have horderMem : r ∈ usesIn OrderBy.field field query.order (plan.orderBy.map (·.column) ++ []) ↔
      field ∈ query.order.map (·.field) ∧ r ∈ [orderRef sourceAlias field] :=
    @mem_usesIn _ _ _ (fun field => [orderRef sourceAlias field]) _ _ _ _ horder
  rw [List.append_nil] at hselectTimesMem horderMem
  unfold usesOf
  simp only [List.mem_append]
  rw [hselectDims, hselectTimes, hgroupTimes, hwhere, hselectDimsMem, hselectTimesMem, horderMem, h.groupBy_eq,
    buildGroupBy, hgroupDimsMem, plainFields, List.mem_append, List.mem_singleton, List.mem_singleton]
  constructor
  · rintro (((((⟨hd, hr⟩ | ht) | ⟨hd, hr⟩) | ht) | ⟨hf, hr⟩) | ho)
    · exact .inl ⟨.inl hd, hr⟩
    · exact .inr (.inl ht)
    · exact .inl ⟨.inl hd, hr⟩
    · exact .inr (.inl ht)
    · exact .inl ⟨.inr hf, hr⟩
    · exact .inr (.inr ho)
  · rintro (⟨hd | hf, hr⟩ | ht | ho)
    · exact .inl (.inl (.inl (.inl (.inl ⟨hd, hr⟩))))
    · exact .inl (.inr ⟨hf, hr⟩)
    · exact .inl (.inl (.inr ht))
    · exact .inr ho

theorem aggregateText_code (agg : AggregationType) (column : SqlText) :
    ∃ x u, aggregateText agg column = code x ++ u := by
  unfold aggregateText
  split_ifs
  · exact ⟨agg.sqlFunction, column ++ code ")", List.append_assoc _ _ _⟩
  · exact ⟨agg.sqlFunction, code "(" ++ column ++ code ")", by simp only [List.append_assoc]⟩

/-- A measure begins with code of the generator's. -/
theorem measure_code {measure : Measure} {t : SqlText}
    (h : g.buildMeasureExpression sourceAlias m.name measure = .ok t) : ∃ x u, t = code x ++ u := by
  have hstandard : ∀ {measure : Measure}, g.buildStandardAggregation sourceAlias m.name measure = .ok t →
      ∃ x u, t = code x ++ u := by
    intro measure h
    obtain ⟨column, -, h⟩ := Res.bind_eq_ok.1 h
    obtain rfl := Except.ok.inj h
    exact aggregateText_code _ _
  unfold buildMeasureExpression at h
  dsimp only at h
  generalize Str.trim measure.formula.expression = expr at h
  by_cases hparse : FormulaParser.needsParse expr = true
  · rw [if_pos hparse] at h
    by_cases hshift : Str.startsWith expr "time_shift(" = true
    · rw [if_pos hshift] at h
      obtain ⟨_, -, h⟩ := Res.bind_eq_ok.1 h
      obtain ⟨inner, -, h⟩ := Res.bind_eq_ok.1 h
      obtain rfl := Except.ok.inj h
      simp only [List.append_assoc]
      exact ⟨_, _, rfl⟩
    rw [if_neg hshift] at h
    by_cases hratio : Str.startsWith expr "ratio(" = true
    · rw [if_pos hratio] at h
      obtain ⟨_, -, h⟩ := Res.bind_eq_ok.1 h
      obtain ⟨num, -, h⟩ := Res.bind_eq_ok.1 h
      obtain ⟨denom, -, h⟩ := Res.bind_eq_ok.1 h
      obtain rfl := Except.ok.inj h
      simp only [List.append_assoc]
      exact ⟨_, _, rfl⟩
    rw [if_neg hratio] at h
    by_cases hpct : Str.startsWith expr "pct_change(" = true
    · rw [if_pos hpct] at h
      obtain ⟨_, -, h⟩ := Res.bind_eq_ok.1 h
      obtain ⟨inner, -, h⟩ := Res.bind_eq_ok.1 h
      obtain rfl := Except.ok.inj h
      simp only [List.append_assoc]
      exact ⟨_, _, rfl⟩
    rw [if_neg hpct] at h
    by_cases htotal : Str.startsWith expr "running_total(" = true
    · rw [if_pos htotal] at h
      obtain ⟨_, -, h⟩ := Res.bind_eq_ok.1 h
      obtain ⟨inner, -, h⟩ := Res.bind_eq_ok.1 h
      obtain rfl := Except.ok.inj h
      simp only [List.append_assoc]
      exact ⟨_, _, rfl⟩
    rw [if_neg htotal] at h
    obtain ⟨parsed, -, h⟩ := Res.bind_eq_ok.1 h
    exact hstandard h
  · rw [if_neg hparse] at h
    exact hstandard h

theorem orderByItem_column (sourceAlias : String) (order : OrderBy) :
    IsColumn (orderByItem sourceAlias order).column (orderRef sourceAlias order.field) := by
  unfold orderByItem orderRef
  split_ifs
  · exact .inr ⟨order.field, rfl, rfl⟩
  · exact .inl ⟨sourceAlias, order.field, rfl, rfl⟩

/-- No order entry sorts by an expression of more than a column. -/
theorem not_sortsBy_code {d : Dialect} {order : OrderBy} {item : SelectItem} {x : String} {u : SqlText}
    (hitem : item.expression = code x ++ u) : ¬SortsBy unquoted d (orderByItem sourceAlias order).column item := by
  have hcolumn := orderByItem_column sourceAlias order
  rintro (heq | ⟨aliasName, -, heq⟩ | ⟨r, s, -, hs, -⟩)
  · rw [heq, hitem] at hcolumn
    exact not_isColumn_code hcolumn
  · rw [heq] at hcolumn
    rcases hcolumn with ⟨_, _, h, -⟩ | ⟨_, h, -⟩ <;> cases h
  · rw [hitem] at hs
    exact not_isColumn_code hs

/-- An order entry sorts by a plain dimension when both are one column. -/
theorem sortsBy_dimension {d : Dialect} {order : OrderBy} {dim : Dimension} {item : SelectItem}
    (hitem : g.dimensionItem d sourceAlias m.name dim = .ok item) :
    SortsBy unquoted d (orderByItem sourceAlias order).column item ↔
      dim.name ≠ "*" ∧ g.fieldIsGeometry m.name dim.name = false ∧
        ∀ s ∈ g.fieldRefs m.name sourceAlias dim.name, SameColumn unquoted d s (orderRef sourceAlias order.field) := by
  rcases (dimensionItem_parts hitem).2 with ⟨hgeo, hexpr⟩ | ⟨hgeo, hexpr⟩
  · have hcode : ∃ x u, item.expression = code x ++ u := by
      cases d with
      | postgres | duckDb =>
        rw [← Option.some.inj hexpr]
        exact ⟨_, _, List.append_assoc _ _ _⟩
      | mySql | sqlite => cases hexpr
    obtain ⟨x, u, hcode⟩ := hcode
    refine iff_of_false (not_sortsBy_code hcode) ?_
    rintro ⟨-, hnot, -⟩
    rw [hgeo] at hnot
    cases hnot
  · have hrefs : g.fieldRefs m.name sourceAlias dim.name =
        (g.resolveField m.name dim.name sourceAlias).toList.map fun p => .column p.1 p.2 true := rfl
    rw [hrefs]
    cases hresolve : g.resolveField m.name dim.name sourceAlias with
    | none =>
      rw [hresolve] at hexpr
      exact iff_of_false (not_sortsBy_code (x := "*") (u := []) hexpr) fun h => h.1 (resolveField_eq_none.1 hresolve)
    | some p =>
      rw [hresolve] at hexpr
      have hstar : dim.name ≠ "*" := fun h => by simp [resolveField_eq_none.2 h] at hresolve
      have hcolumn : IsColumn item.expression (.column p.1 p.2 true) := .inl ⟨p.1, p.2, hexpr, rfl⟩
      have horder := orderByItem_column sourceAlias order
      have hiff : SortsBy unquoted d (orderByItem sourceAlias order).column item ↔
          SameColumn unquoted d (.column p.1 p.2 true) (orderRef sourceAlias order.field) := by
        constructor
        · rintro (heq | ⟨aliasName, -, heq⟩ | ⟨r, s, hr, hs, hsame⟩)
          · rw [heq] at horder
            exact .inl (hcolumn.unique horder)
          · rw [heq] at horder
            rcases horder with ⟨_, _, h, -⟩ | ⟨_, h, -⟩ <;> cases h
          · obtain rfl := hr.unique horder
            obtain rfl := hs.unique hcolumn
            exact hsame.symm
        · exact fun hsame => .inr (.inr ⟨_, _, horder, hcolumn, hsame.symm⟩)
      rw [hiff]
      simp [hstar, hgeo]

theorem fieldRefs_unique {base field : String} {r s : NameRef} (hr : r ∈ g.fieldRefs base sourceAlias field)
    (hs : s ∈ g.fieldRefs base sourceAlias field) : r = s := by
  unfold fieldRefs at hr hs
  cases hresolve : g.resolveField base field sourceAlias with
  | none => simp [hresolve] at hr
  | some p =>
    simp only [hresolve, Option.toList_some, List.map_cons, List.map_nil, List.mem_singleton] at hr hs
    rw [hr, hs]

/-- The clauses agree on the columns of the selected fields when those are settled. -/
theorem agree_iff (h : g.Statement query out m sourceAlias plan) :
    (∀ field, field ∈ query.dimensions.map (·.name) ∨ field ∈ query.timeDimensions.map (·.dimension) →
      ∀ r ∈ usesOf query plan field, ∀ s ∈ usesOf query plan field,
        SameColumn unquoted (g.dialectFor m.name) r s) ↔
    (∀ td ∈ query.timeDimensions, td.dimension ∈ plainFields query →
      g.ResolvesLike unquoted m sourceAlias td.dimension (rawRef (sourceAlias ++ "." ++ td.dimension))) ∧
    (∀ order ∈ query.order, order.field ∈ query.dimensions.map (·.name) →
      g.ResolvesLike unquoted m sourceAlias order.field (orderRef sourceAlias order.field)) ∧
    ∀ order ∈ query.order, order.field ∈ query.timeDimensions.map (·.dimension) →
      SameColumn unquoted (g.dialectFor m.name) (rawRef (sourceAlias ++ "." ++ order.field))
        (orderRef sourceAlias order.field) := by
  constructor
  · intro hagree
    refine ⟨fun td htd hplain s hs => ?_, fun order horder hdim s hs => ?_, fun order horder htime => ?_⟩
    · have htime : td.dimension ∈ query.timeDimensions.map (·.dimension) := List.mem_map_of_mem htd
      exact hagree td.dimension (.inr htime) s (h.mem_usesOf.2 (.inl ⟨hplain, hs⟩)) _
        (h.mem_usesOf.2 (.inr (.inl ⟨htime, rfl⟩)))
    · exact hagree order.field (.inl hdim) s (h.mem_usesOf.2 (.inl ⟨List.mem_append_left _ hdim, hs⟩)) _
        (h.mem_usesOf.2 (.inr (.inr ⟨List.mem_map_of_mem horder, rfl⟩)))
    · exact hagree order.field (.inr htime) _ (h.mem_usesOf.2 (.inr (.inl ⟨htime, rfl⟩))) _
        (h.mem_usesOf.2 (.inr (.inr ⟨List.mem_map_of_mem horder, rfl⟩)))
  · rintro ⟨htimes, hplain, hordered⟩ field hselected
    by_cases htime : field ∈ query.timeDimensions.map (·.dimension)
    · -- every use is the column of the time
      have huse : ∀ r ∈ usesOf query plan field,
          SameColumn unquoted (g.dialectFor m.name) r (rawRef (sourceAlias ++ "." ++ field)) := by
        intro r hr
        obtain ⟨td, htd, rfl⟩ := List.mem_map.1 htime
        rcases h.mem_usesOf.1 hr with ⟨hmem, hr⟩ | ⟨-, rfl⟩ | ⟨hmem, rfl⟩
        · exact htimes td htd hmem r hr
        · exact .inl rfl
        · obtain ⟨order, horder, heq⟩ := List.mem_map.1 hmem
          exact heq ▸ (hordered order horder (heq ▸ htime)).symm
      exact fun r hr s hs => (huse r hr).trans (huse s hs).symm
    · have hdim := hselected.resolve_right htime
      have hplainOrder : ∀ r ∈ g.fieldRefs m.name sourceAlias field, field ∈ query.order.map (·.field) →
          SameColumn unquoted (g.dialectFor m.name) r (orderRef sourceAlias field) := by
        intro r hr hmem
        obtain ⟨order, horder, rfl⟩ := List.mem_map.1 hmem
        exact hplain order horder hdim r hr
      intro r hr s hs
      rcases h.mem_usesOf.1 hr with ⟨-, hr⟩ | ⟨hmem, -⟩ | ⟨hmem, rfl⟩
      · rcases h.mem_usesOf.1 hs with ⟨-, hs⟩ | ⟨hmem, -⟩ | ⟨hmem, rfl⟩
        · exact .inl (fieldRefs_unique hr hs)
        · exact absurd hmem htime
        · exact hplainOrder r hr hmem
      · exact absurd hmem htime
      · rcases h.mem_usesOf.1 hs with ⟨-, hs⟩ | ⟨hmem', -⟩ | ⟨-, rfl⟩
        · exact (hplainOrder s hs hmem).symm
        · exact absurd hmem' htime
        · exact .inl rfl

/-- The order entries sort by the items whose output aliases they name when these are
plain dimensions of the same column. -/
theorem sorted_iff (h : g.Statement query out m sourceAlias plan) :
    (∀ p ∈ query.order.zip plan.orderBy, ∀ item ∈ plan.selectItems, item.aliasName = some p.1.field →
      SortsBy unquoted (g.dialectFor m.name) p.2.column item) ↔
    (∀ order ∈ query.order, ∀ measure ∈ query.measures, measure.label ≠ order.field) ∧
    (∀ order ∈ query.order, ∀ td ∈ query.timeDimensions,
      td.label.getD (td.dimension ++ "_" ++ td.granularity.dateTruncUnit) ≠ order.field) ∧
    ∀ order ∈ query.order, ∀ dim ∈ query.dimensions, dim.label.getD dim.name = order.field →
      dim.name ≠ "*" ∧ g.fieldIsGeometry m.name dim.name = false ∧
        g.ResolvesLike unquoted m sourceAlias dim.name (orderRef sourceAlias order.field) := by
  obtain ⟨measures, dimensions, hmeasures, hdimensions, hitems⟩ := h.items_eq
  have hzip : ∀ P : OrderBy → SqlText → Prop, (∀ p ∈ query.order.zip plan.orderBy, P p.1 p.2.column) ↔
      ∀ order ∈ query.order, P order (orderByItem sourceAlias order).column := by
    intro P
    rw [h.orderBy_eq, buildOrderBy]
    induction query.order with
    | nil => simp
    | cons order orders ih => simpa using fun _ => ih
  have hmeasure : ∀ measure item, g.measureItem sourceAlias m.name measure = .ok item →
      item.aliasName = some measure.label ∧
        ∀ order, ¬SortsBy unquoted (g.dialectFor m.name) (orderByItem sourceAlias order).column item := by
    intro measure item hitem
    obtain ⟨expr, hexpr, hitem⟩ := Res.bind_eq_ok.1 hitem
    obtain rfl := Except.ok.inj hitem
    obtain ⟨x, u, rfl⟩ := measure_code hexpr
    exact ⟨rfl, fun order => not_sortsBy_code rfl⟩
  have htime : ∀ td order, ¬SortsBy unquoted (g.dialectFor m.name) (orderByItem sourceAlias order).column
      (timeDimensionItem (g.dialectFor m.name) sourceAlias td) := by
    intro td order
    obtain ⟨x, y, -, hshape⟩ := Dialect.dateTrunc_shape (g.dialectFor m.name) td.granularity
    exact not_sortsBy_code ((hshape _).trans (List.append_assoc _ _ _))
  rw [hzip fun order column => ∀ item ∈ plan.selectItems, item.aliasName = some order.field →
    SortsBy unquoted (g.dialectFor m.name) column item, hitems]
  constructor
  · intro hsorted
    refine ⟨fun order horder measure hmem heq => ?_, fun order horder td htd heq => ?_,
      fun order horder dim hdim heq => ?_⟩
    · obtain ⟨item, hitem, hbuilt⟩ := Res.exists_of_mapM hmeasures measure hmem
      obtain ⟨hlabel, hnot⟩ := hmeasure measure item hbuilt
      exact hnot order (hsorted order horder item (by simp [hitem]) (heq ▸ hlabel))
    · exact htime td order (hsorted order horder _ (List.mem_append_right _ (List.mem_map_of_mem htd))
        (congrArg some heq))
    · obtain ⟨item, hitem, hbuilt⟩ := Res.exists_of_mapM hdimensions dim hdim
      apply (sortsBy_dimension hbuilt).1
      exact hsorted order horder item (by simp [hitem]) (heq ▸ (dimensionItem_parts hbuilt).1)
  · rintro ⟨hmeasuresApart, htimesApart, hdims⟩ order horder item hitem hlabel
    rcases List.mem_append.1 hitem with hitem | hitem
    · rcases List.mem_append.1 hitem with hitem | hitem
      · obtain ⟨measure, hmem, hbuilt⟩ := Res.mem_of_mapM hmeasures item hitem
        have heq := Option.some.inj ((hmeasure measure item hbuilt).1.symm.trans hlabel)
        exact absurd heq (hmeasuresApart order horder measure hmem)
      · obtain ⟨dim, hmem, hbuilt⟩ := Res.mem_of_mapM hdimensions item hitem
        have heq := Option.some.inj ((dimensionItem_parts hbuilt).1.symm.trans hlabel)
        exact (sortsBy_dimension hbuilt).2 (hdims order horder dim hmem heq)
    · obtain ⟨td, htd, rfl⟩ := List.mem_map.1 hitem
      exact absurd (Option.some.inj hlabel) (htimesApart order horder td htd)

/-- Beside the measures a statement selects what it groups by. -/
theorem Statement.grouped (h : g.Statement query out m sourceAlias plan) :
    ∀ item ∈ plan.selectItems.drop query.measures.length, ∃ t ∈ plan.groupBy,
      item.expression = t ∨ (g.dialectFor m.name).geometryAsGeojson t = some item.expression := by
  obtain ⟨measures, dimensions, hmeasures, hdimensions, hitems⟩ := h.items_eq
  rw [hitems, (Res.forall₂_of_mapM hmeasures).length_eq, List.append_assoc, List.drop_left, h.groupBy_eq]
  intro item hitem
  rcases List.mem_append.1 hitem with hitem | hitem
  · obtain ⟨dim, hdim, hbuilt⟩ := Res.mem_of_mapM hdimensions item hitem
    refine ⟨_, List.mem_append_left _ (List.mem_map_of_mem hdim), ?_⟩
    rcases (dimensionItem_parts hbuilt).2 with ⟨-, hexpr⟩ | ⟨-, hexpr⟩
    · exact .inr hexpr
    · exact .inl (hexpr.trans (qualifyField_eq g m.name dim.name sourceAlias).symm)
  · obtain ⟨td, htd, rfl⟩ := List.mem_map.1 hitem
    exact ⟨_, List.mem_append_right _ (List.mem_map_of_mem htd), .inl rfl⟩

/-- **A field is one column in every clause** exactly when the query's fields are settled. -/
theorem fieldsConsistent_iff (h : g.Statement query out m sourceAlias plan) :
    FieldsConsistent unquoted (g.dialectFor m.name) query plan ↔ g.FieldsSettled unquoted query m sourceAlias := by
  constructor
  · rintro ⟨hagree, hsorted, -⟩
    obtain ⟨htimes, hplain, hordered⟩ := (agree_iff h).1 hagree
    obtain ⟨hmeasures, htimesApart, hdims⟩ := (sorted_iff h).1 hsorted
    exact ⟨htimes, hplain, hordered, hmeasures, htimesApart, hdims⟩
  · rintro ⟨htimes, hplain, hordered, hmeasures, htimesApart, hdims⟩
    exact ⟨(agree_iff h).2 ⟨htimes, hplain, hordered⟩, (sorted_iff h).2 ⟨hmeasures, htimesApart, hdims⟩,
      fun _ => h.grouped⟩

end

/-- One dimension of the orders, ordered by it. -/
def orderedBy (field : String) : Query := { name := some "orders", dimensions := [⟨field, none⟩], order := [⟨field, false⟩] }

open NamedJoin in
/-- Rows grouped by the customer's country are ordered by a column of the orders. -/
theorem joined_field_ordered_elsewhere : ∃ out plan,
    (generator (some "customer")).Statement (orderedBy "country") out (orders (some "customer")) "orders" plan ∧
      out.sql = "SELECT customer.\"country\" AS \"country\" FROM \"orders\" \"orders\"  " ++
        "LEFT JOIN \"customers\" \"customer\" ON orders.\"customer_id\" = customer.\"id\"  " ++
        "GROUP BY customer.\"country\"  ORDER BY orders.\"country\" ASC" ∧
      ¬FieldsConsistent unquoted .postgres (orderedBy "country") plan := by
  refine ⟨_, _, ⟨rfl, rfl, rfl, rfl⟩, by decide +kernel, fun hconsistent => ?_⟩
  have hsame := hconsistent.agree "country" (.inl (by decide)) (.column "customer" "country" true)
    (by decide +kernel) (.column "orders" "country" true) (by decide +kernel)
  rcases hsame with heq | ⟨hkey, -⟩
  · exact absurd heq (by decide)
  · exact absurd hkey (by decide)

open NamedJoin in
/-- A column of the orders is the same in every clause. -/
theorem fieldsConsistent_iff_own_field : ∃ out plan,
    (generator (some "customer")).Statement (orderedBy "status") out (orders (some "customer")) "orders" plan ∧
      FieldsConsistent unquoted .postgres (orderedBy "status") plan := by
  have hstatement : ∃ out plan,
      (generator (some "customer")).Statement (orderedBy "status") out (orders (some "customer")) "orders" plan :=
    ⟨_, _, rfl, rfl, rfl, rfl⟩
  obtain ⟨out, plan, h⟩ := hstatement
  have hown : (generator (some "customer")).ResolvesLike unquoted (orders (some "customer")) "orders" "status"
      (orderRef "orders" "status") := by
    have hrefs : (generator (some "customer")).fieldRefs "orders" "orders" "status" =
        [orderRef "orders" "status"] := by decide +kernel
    exact fun s hs => .inl (List.mem_singleton.1 (hrefs ▸ hs))
  refine ⟨out, plan, h, (fieldsConsistent_iff h).2 ⟨?_, ?_, ?_, ?_, ?_, ?_⟩⟩
  · exact fun td htd => absurd htd List.not_mem_nil
  · intro order horder _
    obtain rfl := List.mem_singleton.1 horder
    exact hown
  · exact fun order _ htime => absurd htime List.not_mem_nil
  · exact fun order _ measure hmeasure => absurd hmeasure List.not_mem_nil
  · exact fun order _ td htd => absurd htd List.not_mem_nil
  · intro order horder dim hdim _
    obtain rfl := List.mem_singleton.1 horder
    obtain rfl := List.mem_singleton.1 hdim
    exact ⟨by decide, by decide +kernel, hown⟩

end SqlGenerator

end GraphNight
