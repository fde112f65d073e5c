import GraphNight.Runtime.SelectedItems
import GraphNight.Runtime.StageOrder
import GraphNight.Runtime.ForcedFilters

/-!
# What a stage reference restricts

The first row of the referenced stage comes back masked and under the names of its output
columns. Each of its entries becomes an equality behind the filters of the stage that
refers to it, in one flat AND/OR list.
-/

namespace GraphNight

open SqlGenerator

/-! ## A condition on the rows of a table -/

/-- A comparison with NULL, which is true of no row. -/
def Filter.ComparesNull (f : Filter) : Prop := f.operator = .eq ∧ f.value = .null

/-- The field has the value, which for NULL is said in another way. -/
def Filter.pin (field : String) (value : Value) : Filter :=
  if value = .null then ⟨field, .isNull, .null, false⟩ else ⟨field, .eq, value, false⟩

theorem Filter.buildable_pin (d : Dialect) (field : String) (value : Value) : Buildable d (pin field value) := by
  unfold pin
  split_ifs
  · exact ⟨by rintro ⟨⟩, fun h => absurd rfl h⟩
  · exact ⟨by rintro ⟨⟩, fun h => absurd rfl h⟩

/-- The runs of a list of filters; without filters, one run that asks nothing. -/
def runsOf (filters : List Filter) : List (List Filter) := if filters = [] then [[]] else andRuns filters

section

variable {g : SqlGenerator} {d : Dialect} {sourceAlias base : String} {query : Query} {mode : ValueMode}
  {params : List Value} {clause : Option SqlText}

/-- What comparisons say of a row of a table: none with NULL is true. -/
def RowTruth (g : SqlGenerator) (d : Dialect) (sourceAlias base : String) (ρ : SqlText → Truth) : Prop :=
  ∀ f : Filter, f.ComparesNull → ρ (g.filterPredicate d sourceAlias base f) ≠ .yes

theorem comparesNull_of_same {f f' : Filter} (h : SameComparison g sourceAlias base f f') (hf' : f'.ComparesNull) :
    f.ComparesNull := by
  have hop : f.operator = .eq := h.operator.trans hf'.1
  have hoperands := h.operands
  unfold Filter.operands at hoperands
  rw [hop, hf'.1] at hoperands
  exact ⟨hop, (List.cons.inj hoperands).1.trans hf'.2⟩

theorem buildable_of_comparesNull {f : Filter} (h : f.ComparesNull) : Buildable d f := by
  refine ⟨fun htwo => ?_, fun hspatial => ?_⟩
  · rw [h.1] at htwo
    cases htwo
  · rw [h.1] at hspatial
    exact absurd rfl hspatial

/-- The runs of a condition that is written are those of its filters. -/
theorem runs_of_clause (h : g.buildWhereClause query d sourceAlias base mode = .ok (params, clause)) :
    (clause = none ∧ query.filters = []) ∨
      ∃ first rest t, clause = some t ∧ query.filters = first :: rest ∧ (∀ f ∈ query.filters, Buildable d f) ∧
        ∀ ρ, Passes ρ params clause ↔
          ((flatFilters first rest).map (g.filterPredicate d sourceAlias base)).eval ρ = .yes := by
  cases clause with
  | none =>
    refine .inl ⟨rfl, ?_⟩
    by_contra hne
    simp [SqlGenerator.buildWhereClause, hne, Res.bind_eq_ok, pure, Except.pure] at h
  | some t =>
    obtain ⟨first, rest, hfilters, hbuild, hread⟩ := read_buildWhereClause h
    refine .inr ⟨first, rest, t, rfl, hfilters, hbuild, fun ρ => ?_⟩
    unfold Passes
    dsimp only
    rw [hread]

/-- A run is never true when one of its filters compares with NULL. -/
theorem exists_never_iff {run : List Filter} (hbuild : ∀ f ∈ run, Buildable d f) :
    (∃ t ∈ run.map (g.filterPredicate d sourceAlias base), ∃ f : Filter, f.ComparesNull ∧
        t = g.filterPredicate d sourceAlias base f) ↔ ∃ f ∈ run, f.ComparesNull := by
  constructor
  · rintro ⟨t, ht, f, hnull, rfl⟩
    obtain ⟨f', hf', heq⟩ := List.mem_map.1 ht
    exact ⟨f', hf', comparesNull_of_same ((filterPredicate_eq_iff (hbuild f' hf') (buildable_of_comparesNull hnull)).1 heq) hnull⟩
  · rintro ⟨f, hf, hnull⟩
    exact ⟨_, List.mem_map_of_mem hf, f, hnull, rfl⟩

theorem mem_filters_of_run {first : Filter} {rest run : List Filter} {f : Filter}
    (hrun : run ∈ (flatFilters first rest).groups) (hf : f ∈ run) : f ∈ first :: rest := by
  have hflat := List.mem_flatten.2 ⟨run, hrun, hf⟩
  rw [FlatCondition.flatten_groups] at hflat
  simpa [flatFilters, List.map_map] using hflat

theorem rowTruth_iff {ρ : SqlText → Truth} : RowTruth g d sourceAlias base ρ ↔
    ∀ t, (∃ f : Filter, f.ComparesNull ∧ t = g.filterPredicate d sourceAlias base f) → ρ t ≠ .yes := by
  constructor
  · rintro h t ⟨f, hnull, rfl⟩
    exact h f hnull
  · exact fun h f hnull => h _ ⟨f, hnull, rfl⟩

theorem rowTruth_no : RowTruth g d sourceAlias base fun _ => .no := by rintro f - ⟨⟩

/-- **What the rows that pass a clause have in common**: a comparison is true of each when every
run is never true or contains it. -/
theorem passes_entails_iff (h : g.buildWhereClause query d sourceAlias base mode = .ok (params, clause)) {p : Filter}
    (hp : Buildable d p) :
    (∀ ρ, RowTruth g d sourceAlias base ρ → Passes ρ params clause → ρ (g.filterPredicate d sourceAlias base p) = .yes) ↔
      ∀ run ∈ runsOf query.filters, (∃ f ∈ run, f.ComparesNull) ∨ ∃ f ∈ run, SameComparison g sourceAlias base f p := by
  rcases runs_of_clause h with ⟨rfl, hnone⟩ | ⟨first, rest, t, rfl, hfilters, hbuild, hpasses⟩
  · rw [runsOf, if_pos hnone]
    constructor
    · intro hall
      have hno := hall (fun _ => .no) rowTruth_no trivial
      cases hno
    · intro hruns
      simp at hruns
  · rw [runsOf, if_neg (by rw [hfilters]; exact List.cons_ne_nil _ _)]
    have hentails := @FlatCondition.entails_iff_of_never _ _
      ((flatFilters first rest).map (g.filterPredicate d sourceAlias base))
      (fun t => ∃ f : Filter, f.ComparesNull ∧ t = g.filterPredicate d sourceAlias base f)
      (g.filterPredicate d sourceAlias base p)
    simp only [← rowTruth_iff, ← hpasses] at hentails
    rw [hentails, FlatCondition.groups_map, List.forall_mem_map, hfilters]
    refine forall₂_congr fun run hrun => ?_
    have hrunBuild : ∀ f ∈ run, Buildable d f := fun f hf => hbuild f (hfilters ▸ mem_filters_of_run hrun hf)
    rw [exists_never_iff hrunBuild, List.mem_map]
    refine or_congr_right (exists_congr fun f => and_congr_right fun hf => ?_)
    exact filterPredicate_eq_iff (hrunBuild f hf) hp

/-- No row passes a clause when every run is never true. -/
theorem passes_none_iff (h : g.buildWhereClause query d sourceAlias base mode = .ok (params, clause)) :
    (∀ ρ, RowTruth g d sourceAlias base ρ → ¬Passes ρ params clause) ↔
      ∀ run ∈ runsOf query.filters, ∃ f ∈ run, f.ComparesNull := by
  rcases runs_of_clause h with ⟨rfl, hnone⟩ | ⟨first, rest, t, rfl, hfilters, hbuild, hpasses⟩
  · rw [runsOf, if_pos hnone]
    constructor
    · exact fun hall => absurd trivial (hall (fun _ => .no) rowTruth_no)
    · intro hruns
      simp at hruns
  · rw [runsOf, if_neg (by rw [hfilters]; exact List.cons_ne_nil _ _)]
    have hnever := @FlatCondition.never_iff _ _
      ((flatFilters first rest).map (g.filterPredicate d sourceAlias base))
      (fun t => ∃ f : Filter, f.ComparesNull ∧ t = g.filterPredicate d sourceAlias base f)
    simp only [← rowTruth_iff, ne_eq, ← hpasses] at hnever
    rw [hnever, FlatCondition.groups_map, List.forall_mem_map, hfilters]
    refine forall₂_congr fun run hrun => ?_
    exact exists_never_iff fun f hf => hbuild f (hfilters ▸ mem_filters_of_run hrun hf)

end

/-! ## The rows of the referenced stage -/

/-- A row as the drivers make it of the cells of a statement's items. -/
def Returned (d : Dialect) (items : List SelectItem) (row : Row) : Prop :=
  ∃ cells : List (SelectItem × Value), cells.map (·.1) = items ∧
    row = rowToMap (cells.map fun cell => (d.sentName cell.1, cell.2))

/-- A row has an entry for each output column. -/
theorem Returned.get_isSome {d : Dialect} {items : List SelectItem} {row : Row} (h : Returned d items row) (name : String) :
    (row.get name).isSome ↔ name ∈ items.map d.sentName := by
  obtain ⟨cells, rfl, rfl⟩ := h
  unfold rowToMap
  constructor
  · intro hsome
    obtain ⟨entry, hentry⟩ := Option.isSome_iff_exists.1 hsome
    obtain ⟨column, hcolumn, rfl⟩ := List.mem_map.1 (KeyedList.mem_ofList (KeyedList.mem_of_get hentry))
    obtain ⟨cell, hcell, rfl⟩ := List.mem_map.1 hcolumn
    rw [← KeyedList.key_of_get hentry]
    exact List.mem_map_of_mem (List.mem_map_of_mem hcell)
  · intro hname
    obtain ⟨item, hitem, rfl⟩ := List.mem_map.1 hname
    obtain ⟨cell, hcell, rfl⟩ := List.mem_map.1 hitem
    obtain ⟨entry, hentry⟩ := KeyedList.get_ofList_of_mem (List.mem_map_of_mem (List.mem_map_of_mem hcell))
    exact Option.isSome_iff_exists.2 ⟨entry, hentry⟩

/-- The rows a database replied with to the statement of a call. -/
def QueryService.Replies (s : QueryService) (host : Host) (ctx : CallContext) (query : Query) (options : ExecuteOptions)
    (raw : List Row) : Prop :=
  ∃ gov sql ds, s.govern ctx query options = .ok gov ∧ (s.sqlEngine.generateSql gov.query).1 = .ok sql ∧
    s.storage.getDatasource gov.model.datasource = .ok (some ds) ∧ host.executeSqlx ds sql = .rows raw

/-- What an executed call returns: the rows of the reply, masked. -/
theorem QueryService.masked_of_execute {s : QueryService} {host : Host} {ctx : CallContext} {query : Query}
    {options : ExecuteOptions} {out : QueryOutcome} {raw : List Row} (h : (s.execute host ctx query options).1 = .ok out)
    (hdry : options.dryRun = false) (hreply : s.Replies host ctx query options raw) :
    ∃ masked, raw.mapM (maskRow ctx.sessionPolicy.columnMasks.items) = .ok masked ∧
      out.data = masked.map fun row => .object row.items := by
  obtain ⟨gov, sql, ds, hgov, hsql, hds, hrows⟩ := hreply
  obtain ⟨gov', sql', hgov', hsql', hend⟩ := execute_eq_ok h
  obtain rfl := Except.ok.inj (hgov.symm.trans hgov')
  obtain rfl := Except.ok.inj (hsql.symm.trans hsql')
  obtain ⟨hdry', -⟩ | ⟨-, ds', hds', hout, -⟩ := hend
  · rw [hdry] at hdry'
    cases hdry'
  · obtain rfl := Option.some.inj (Except.ok.inj (hds.symm.trans hds'))
    obtain ⟨rows, masked, hreplied, hmasked, hdata, -⟩ := outcome_eq_ok hout
    rw [hrows] at hreplied
    obtain rfl := ExecReply.rows.inj hreplied
    exact ⟨masked, hmasked, hdata⟩

/-- Masks change values, never which columns there are. -/
theorem maskRow_isSome {masks : List (String × MaskFn)} {row row' : Row} (h : QueryService.maskRow masks row = .ok row')
    (name : String) : (row'.get name).isSome = (row.get name).isSome := by
  induction masks generalizing row with
  | nil => rw [Except.ok.inj h]
  | cons mask masks ih =>
    obtain ⟨middle, hfirst, hrest⟩ := Res.bind_eq_ok.1 h
    rw [ih hrest]
    by_cases hname : mask.1 = name
    · cases hcell : row.get name with
      | none =>
        unfold QueryService.maskColumn at hfirst
        rw [hname, hcell] at hfirst
        rw [← Except.ok.inj hfirst, hcell]
      | some cell =>
        obtain rfl : cell.1 = name := KeyedList.key_of_get hcell
        obtain ⟨cell', -, hmiddle⟩ := maskColumn_get hfirst hcell
        rw [hmiddle]
        rfl
    · rw [maskColumn_other hfirst hname]

/-! ## The filters a reference adds -/

namespace MultiStage

/-- An entry under this name is left out. -/
def Unusable (name : String) : Prop := Str.containsChar name ' ' = true ∨ name = ""

/-- The filters that the first row of a result adds. -/
def addedFilters (previous : QueryOutcome) : List Filter :=
  match previous.data with
  | .object first :: _ =>
    (first.filter fun e => !(Str.containsChar e.1 ' ' || e.1 == "")).map fun e => ⟨e.1, .eq, e.2, false⟩
  | _ => []

theorem filters_applyStageRef (query : Query) (previous : QueryOutcome) :
    (applyStageRef query previous).filters = query.filters ++ addedFilters previous := by
  unfold applyStageRef addedFilters
  rcases previous.data with _ | ⟨value, rest⟩
  · exact (List.append_nil _).symm
  · cases value <;> first | rfl | exact (List.append_nil _).symm

/-- The entries of a masked row that become filters. -/
theorem mem_addedFilters {previous : QueryOutcome} {first : Row} {rest : List Value}
    (h : previous.data = .object first.items :: rest) {f : Filter} :
    f ∈ addedFilters previous ↔ ∃ value, f = ⟨f.field, .eq, value, false⟩ ∧ first.get f.field = some (f.field, value) ∧
      ¬Unusable f.field := by
  rw [addedFilters, h]
  simp only [List.mem_map, List.mem_filter, Unusable]
  constructor
  · rintro ⟨⟨name, value⟩, ⟨hmem, husable⟩, rfl⟩
    refine ⟨value, rfl, KeyedList.get_eq_some.2 ⟨hmem, rfl⟩, ?_⟩
    simpa using husable
  · rintro ⟨value, hf, hget, husable⟩
    refine ⟨(f.field, value), ⟨KeyedList.mem_of_get hget, ?_⟩, hf.symm⟩
    simpa using husable

/-- The name a dimension comes back under. -/
def outputName (d : Dialect) (dim : Dimension) : String := d.columnName (dim.label.getD dim.name)

/-- A clause restricts a stage to the rows of another: a row that passes has, on each field selected
there as a dimension, the value of the first row; without a row none passes; and no filter that
was added is on a computed column or a label. -/
structure Restricts (g : SqlGenerator) (d : Dialect) (sourceAlias base : String) (sent : Dialect) (referenced : Query) (raw : List Row)
    (added : List Filter) (params : List Value) (clause : Option SqlText) : Prop where
  values : ∀ first ∈ raw.head?, ∀ dim ∈ referenced.dimensions, ∀ value,
    first.get (outputName sent dim) = some (outputName sent dim, value) → ∀ ρ, RowTruth g d sourceAlias base ρ →
      Passes ρ params clause → ρ (g.filterPredicate d sourceAlias base (.pin dim.name value)) = .yes
  empty : raw = [] → ∀ ρ, RowTruth g d sourceAlias base ρ → ¬Passes ρ params clause
  measures : ∀ f ∈ added, ∀ m ∈ referenced.measures, sent.columnName (m.formula.label.getD m.formula.expression) ≠ f.field
  times : ∀ f ∈ added, ∀ td ∈ referenced.timeDimensions,
    sent.columnName (td.label.getD (td.dimension ++ "_" ++ td.granularity.dateTruncUnit)) ≠ f.field
  labels : ∀ f ∈ added, ∀ dim ∈ referenced.dimensions, outputName sent dim = f.field → dim.name = f.field

/-- Each run of the filters compares with NULL, or holds the first row's value of every dimension;
measures and time dimensions come under names that are left out, and dimensions under their own
or one that is left out. -/
structure Pinned (g : SqlGenerator) (sourceAlias base : String) (sent : Dialect) (referenced : Query) (raw : List Row)
    (filters : List Filter) : Prop where
  runs : ∀ run ∈ runsOf filters, (∃ f ∈ run, f.ComparesNull) ∨
    ∃ first ∈ raw.head?, ∀ dim ∈ referenced.dimensions, ∀ value,
      first.get (outputName sent dim) = some (outputName sent dim, value) →
        ∃ f ∈ run, SameComparison g sourceAlias base f (.pin dim.name value)
  measures : raw ≠ [] → ∀ m ∈ referenced.measures, Unusable (sent.columnName (m.formula.label.getD m.formula.expression))
  times : raw ≠ [] → ∀ td ∈ referenced.timeDimensions,
    Unusable (sent.columnName (td.label.getD (td.dimension ++ "_" ++ td.granularity.dateTruncUnit)))
  dimensions : raw ≠ [] → ∀ dim ∈ referenced.dimensions, Unusable (outputName sent dim) ∨ outputName sent dim = dim.name

section

variable {g : SqlGenerator} {d sent : Dialect} {sourceAlias base : String} {mode : ValueMode} {params : List Value}
  {clause : Option SqlText} {policy : SessionPolicy} {referenced query : Query} {raw masked : List Row}
  {previous : QueryOutcome}

/-- The entries of the first row that become filters go by the names that are selected and usable. -/
theorem exists_added_iff (hmasked : raw.mapM (QueryService.maskRow policy.columnMasks.items) = .ok masked)
    (hdata : previous.data = masked.map fun row => .object row.items)
    (hcolumns : ∀ row ∈ raw, ∀ name, (row.get name).isSome ↔ name ∈ referenced.selectedNames.map sent.columnName) (name : String) :
    (∃ f ∈ addedFilters previous, f.field = name) ↔ raw ≠ [] ∧ name ∈ referenced.selectedNames.map sent.columnName ∧ ¬Unusable name := by
  cases Res.forall₂_of_mapM hmasked with
  | nil =>
    rw [List.map_nil] at hdata
    simp [addedFilters, hdata]
  | @cons first first' rest rest' hfirst hrest =>
    rw [List.map_cons] at hdata
    have hsome : (first'.get name).isSome ↔ name ∈ referenced.selectedNames.map sent.columnName := by
      rw [maskRow_isSome hfirst]
      exact hcolumns first List.mem_cons_self name
    rw [← hsome, Option.isSome_iff_exists]
    constructor
    · rintro ⟨f, hf, rfl⟩
      obtain ⟨value, -, hget, husable⟩ := (mem_addedFilters hdata).1 hf
      exact ⟨List.cons_ne_nil _ _, ⟨_, hget⟩, husable⟩
    · rintro ⟨-, ⟨entry, hget⟩, husable⟩
      obtain rfl : entry.1 = name := KeyedList.key_of_get hget
      exact ⟨⟨entry.1, .eq, entry.2, false⟩, (mem_addedFilters hdata).2 ⟨entry.2, rfl, hget, husable⟩, rfl⟩

/-- **When a stage is restricted** to the one it refers to. -/
theorem restricts_iff (hclause : g.buildWhereClause query d sourceAlias base mode = .ok (params, clause))
    (hmasked : raw.mapM (QueryService.maskRow policy.columnMasks.items) = .ok masked)
    (hdata : previous.data = masked.map fun row => .object row.items)
    (hcolumns : ∀ row ∈ raw, ∀ name, (row.get name).isSome ↔ name ∈ referenced.selectedNames.map sent.columnName) :
    Restricts g d sourceAlias base sent referenced raw (addedFilters previous) params clause ↔
      Pinned g sourceAlias base sent referenced raw query.filters := by
  have hadded := exists_added_iff hmasked hdata hcolumns
  have hmeasure : ∀ m ∈ referenced.measures,
      sent.columnName (m.formula.label.getD m.formula.expression) ∈ referenced.selectedNames.map sent.columnName :=
    fun m hm => List.mem_map_of_mem (List.mem_append_left _ (List.mem_append_left _ (List.mem_map.2 ⟨m, hm, rfl⟩)))
  have hdim : ∀ dim ∈ referenced.dimensions, outputName sent dim ∈ referenced.selectedNames.map sent.columnName :=
    fun dim hdim => List.mem_map_of_mem (List.mem_append_left _ (List.mem_append_right _ (List.mem_map.2 ⟨dim, hdim, rfl⟩)))
  have htime : ∀ td ∈ referenced.timeDimensions,
      sent.columnName (td.label.getD (td.dimension ++ "_" ++ td.granularity.dateTruncUnit)) ∈ referenced.selectedNames.map sent.columnName :=
    fun td htd => List.mem_map_of_mem (List.mem_append_right _ (List.mem_map.2 ⟨td, htd, rfl⟩))
  constructor
  · intro h
    refine ⟨fun run hrun => ?_, fun hne m hm => ?_, fun hne td htd => ?_, fun hne dim hmem => ?_⟩
    · cases hraw : raw with
      | nil => exact .inl ((passes_none_iff hclause).1 (h.empty hraw) run hrun)
      | cons first rest =>
        refine or_iff_not_imp_left.2 fun hlive => ⟨first, rfl, fun dim hmem value hvalue => ?_⟩
        have hentails := (passes_entails_iff hclause (Filter.buildable_pin d dim.name value)).1
          (h.values first (by rw [hraw]; rfl) dim hmem value hvalue) run hrun
        exact hentails.resolve_left hlive
    · by_contra husable
      obtain ⟨f, hf, hfield⟩ := (hadded _).2 ⟨hne, hmeasure m hm, husable⟩
      exact h.measures f hf m hm hfield.symm
    · by_contra husable
      obtain ⟨f, hf, hfield⟩ := (hadded _).2 ⟨hne, htime td htd, husable⟩
      exact h.times f hf td htd hfield.symm
    · refine or_iff_not_imp_left.2 fun husable => ?_
      obtain ⟨f, hf, hfield⟩ := (hadded _).2 ⟨hne, hdim dim hmem, husable⟩
      exact hfield.symm.trans (h.labels f hf dim hmem hfield.symm).symm
  · intro h
    have hused : ∀ f ∈ addedFilters previous, raw ≠ [] ∧ ¬Unusable f.field := fun f hf =>
      have hfield := (hadded f.field).1 ⟨f, hf, rfl⟩
      ⟨hfield.1, hfield.2.2⟩
    refine ⟨fun first hfirst dim hmem value hvalue => ?_, fun hraw => ?_, fun f hf m hm heq => ?_,
      fun f hf td htd heq => ?_, fun f hf dim hmem heq => ?_⟩
    · refine (passes_entails_iff hclause (Filter.buildable_pin d dim.name value)).2 fun run hrun => ?_
      refine (h.runs run hrun).imp_right ?_
      rintro ⟨first', hfirst', hpins⟩
      obtain rfl := Option.some.inj (hfirst.symm.trans hfirst')
      exact hpins dim hmem value hvalue
    · refine (passes_none_iff hclause).2 fun run hrun => ?_
      refine (h.runs run hrun).resolve_right ?_
      rintro ⟨first, hfirst, -⟩
      rw [hraw] at hfirst
      cases hfirst
    · exact (hused f hf).2 (heq ▸ h.measures (hused f hf).1 m hm)
    · exact (hused f hf).2 (heq ▸ h.times (hused f hf).1 td htd)
    · rcases h.dimensions (hused f hf).1 dim hmem with hunusable | hown
      · exact absurd (heq ▸ hunusable) (hused f hf).2
      · exact hown.symm.trans heq

end

/-! ## A stage and the one it refers to -/

/-- A stage that ran, and one that refers to it and ran with its outcome. -/
structure Linked (std : RustStd) (host : Host) (ctx : CallContext) (stages : List (String × Query))
    (options : ExecuteOptions) (referenced dependent : StageCall) (q : Query) (s s₂ : QueryService) : Prop where
  stage : stages.find? (·.1 == dependent.name) = some (dependent.name, q)
  reference : q.stageRef = some referenced.name
  first : (s.execute host ctx referenced.query options).1 = .ok referenced.outcome
  prepared : ∃ byName : Outcomes, byName.get referenced.name = some (referenced.name, referenced.outcome) ∧
    prepare std stages byName dependent.name = .ok dependent.query
  second : (s₂.execute host ctx dependent.query options).1 = .ok dependent.outcome

variable {std : RustStd} {host : Host} {ctx : CallContext} {stages : List (String × Query)} {options : ExecuteOptions}

/-- The stage that is prepared keeps its filters, and gets those of its reference behind them. -/
theorem filters_of_prepare {byName : Outcomes} {name reference : String} {q query : Query} {previous : QueryOutcome}
    (hstage : stages.find? (·.1 == name) = some (name, q)) (href : q.stageRef = some reference)
    (hprevious : byName.get reference = some (reference, previous)) (h : prepare std stages byName name = .ok query) :
    query.filters = q.filters ++ addedFilters previous := by
  unfold prepare at h
  rw [hstage] at h
  simp only [Option.map, href, hprevious] at h
  obtain ⟨restricted, hrestricted, h⟩ := Res.bind_eq_ok.1 h
  obtain rfl := Except.ok.inj hrestricted
  split_ifs at h <;>
    · obtain rfl := Except.ok.inj h
      exact filters_applyStageRef q previous

end MultiStage

open MultiStage

/-- The plan of the statement a call runs. -/
def QueryService.Plans (s : QueryService) (ctx : CallContext) (query : Query) (options : ExecuteOptions)
    (g : SqlGenerator) (m : Model) (sourceAlias : String) (plan : LogicalPlan) : Prop :=
  ∃ sql, (s.sqlEngine.generateSql (governedQuery ctx.sessionPolicy query options.maxRows)).1 = .ok sql ∧
    g.Statement (governedQuery ctx.sessionPolicy query options.maxRows) sql m sourceAlias plan

theorem QueryService.exists_plans {s : QueryService} {host : Host} {ctx : CallContext} {query : Query}
    {options : ExecuteOptions} {out : QueryOutcome} (h : (s.execute host ctx query options).1 = .ok out)
    (horigin : s.sqlEngine.PlanOrigin (governedQuery ctx.sessionPolicy query options.maxRows)) :
    ∃ g m sourceAlias plan, s.Plans ctx query options g m sourceAlias plan := by
  obtain ⟨-, items, g, sql, m, sourceAlias, plan, hsql, hstatement, -, -⟩ := exists_selects h horigin
  exact ⟨g, m, sourceAlias, plan, sql, hsql, hstatement⟩

namespace RegionStages

def orders : Model where
  name := "orders"
  datasource := "shop"
  measures := [⟨{ expression := "revenue" }, .sum⟩]
  dimensions := [⟨"region", none⟩, ⟨"status", none⟩]

def dataSource : DataSource := { name := "shop", driver := "postgres", connectionString := "" }

def service : QueryService :=
  .new ((SqlEngine.new .postgres ⟨fun _ => false, fun _ => false⟩).withModels [orders])
    ⟨fun name _ => .ok (if name = "orders" then some orders else none), fun _ => .ok (some dataSource)⟩

/-- A database that replies with the given rows. -/
def host (raw : List Row) : Host := ⟨fun _ _ => .rows raw, true⟩

def std : RustStd := ⟨fun _ => false, id, List.Perm.refl, fun _ => 0, fun _ => none, id⟩

def regions : Query := { name := some "orders", dimensions := [⟨"region", none⟩] }

/-- The total of each region. -/
def totals : Query := { regions with measures := [⟨{ expression := "revenue", label := some "SUM" }, .sum⟩] }

/-- The statuses, of the region that was found. -/
def statuses (filters : List Filter) : Query :=
  { name := some "orders", dimensions := [⟨"status", none⟩], filters, stageRef := some "regions" }

def paid : Filter := ⟨"status", .eq, .string "paid", false⟩

/-- `OR status = 'open'`. -/
def orOpen : Filter := ⟨"status", .eq, .string "open", true⟩

def west : Row := .ofList [("region", .string "west")]

def westTotal : Row := .ofList [("SUM", .number "10"), ("region", .string "west")]

/-- The statuses and the stage they refer to, both run. -/
theorem linked {raw : List Row} {first : Query} {filters : List Filter} {out out' : QueryOutcome}
    (hfirst : (service.execute (host raw) {} first .executing).1 = .ok out)
    (hsecond : (service.execute (host raw) {} (applyStageRef (statuses filters) out) .executing).1 = .ok out') :
    Linked std (host raw) {} [("regions", first), ("statuses", statuses filters)] .executing ⟨"regions", first, out⟩
      ⟨"statuses", applyStageRef (statuses filters) out, out'⟩ (statuses filters) service service where
  stage := rfl
  reference := rfl
  first := hfirst
  prepared := by
    refine ⟨KeyedList.empty.insert ("regions", out), rfl, ?_⟩
    have hname : (applyStageRef (statuses filters) out).name = some "orders" := by
      unfold applyStageRef
      split <;> rfl
    show (if (applyStageRef (statuses filters) out).name = none ∧ _ then _ else _) = _
    rw [if_neg (by rw [hname]; exact fun h => by cases h.1)]
  second := hsecond

/-- The other statuses pass where one of them alone is asked for. -/
theorem rowTruth_open : RowTruth service.sqlEngine.generator .postgres "orders" "orders" fun t =>
    if t = service.sqlEngine.generator.filterPredicate .postgres "orders" "orders" paid then .yes else .no := by
  intro f hnull htrue
  dsimp only at htrue
  have hbuild : Buildable .postgres paid := ⟨by rintro ⟨⟩, fun h => absurd rfl h⟩
  split_ifs at htrue with heq
  have hsame := (filterPredicate_eq_iff (buildable_of_comparesNull hnull) hbuild).1 heq
  have hpaid := comparesNull_of_same ⟨hsame.column.symm, hsame.operator.symm, hsame.operands.symm⟩ hnull
  cases hpaid.2

/-- The statuses are not restricted to what the stage they refer to found. -/
def Escapes (raw : List Row) (first : Query) (filters : List Filter) : Prop :=
  ∃ referenced dependent, Linked std (host raw) {} [("regions", first), ("statuses", statuses filters)] .executing
      referenced dependent (statuses filters) service service ∧
    service.Replies (host raw) {} referenced.query .executing raw ∧
    ∃ g m sourceAlias plan, service.Plans {} dependent.query .executing g m sourceAlias plan ∧
      ¬Restricts g (g.dialectFor m.name) sourceAlias m.name .postgres referenced.query raw (addedFilters referenced.outcome)
        plan.params plan.whereClause

end RegionStages

end GraphNight
