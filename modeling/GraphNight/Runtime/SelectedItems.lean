import GraphNight.Runtime.Masking
import GraphNight.Runtime.Suggest
import GraphNight.Sql.Executor
import GraphNight.Sql.Statement
import GraphNight.Surface.Inputs

/-!
# The cells of a selected row

A row becomes a map keyed by the names its columns come back under: the aliases of the select
items, labels where there are any, else names, as far as the database keeps them. Two items
under one name share a cell. How the names come to be the same, or empty, differs between the
surfaces that build queries.
-/

namespace GraphNight

/-- Every item of a statement keeps a cell of its own: no two columns come back under one name, none
under an empty one, and a row is mapped to one entry for each item, with its value. -/
structure KeepsItems (d : Dialect) (items : List SelectItem) : Prop where
  distinct : (items.map d.sentName).Nodup
  named : "" ∉ items.map d.sentName
  row : ∀ cells : List (SelectItem × Value), cells.map (·.1) = items →
    (rowToMap (cells.map fun cell => (d.sentName cell.1, cell.2))).items.Perm
      (cells.map fun cell => (d.sentName cell.1, cell.2))

theorem keepsItems_iff {d : Dialect} {items : List SelectItem} :
    KeepsItems d items ↔ (items.map d.sentName).Nodup ∧ "" ∉ items.map d.sentName := by
  constructor
  · exact fun h => ⟨h.distinct, h.named⟩
  · rintro ⟨hdistinct, hnamed⟩
    refine ⟨hdistinct, hnamed, ?_⟩
    rintro cells rfl
    rw [items_rowToMap]
    rwa [List.map_map] at hdistinct ⊢

/-- The aliases of a statement are the names of what its query selects. -/
theorem SqlGenerator.Statement.itemNames {g : SqlGenerator} {query : Query} {out : GeneratedSql} {m : Model}
    {sourceAlias : String} {plan : LogicalPlan} (h : g.Statement query out m sourceAlias plan) :
    plan.selectItems.map itemName = query.selectedNames := by
  have hnames := congrArg (List.map fun name : Option String => name.getD "") h.aliasNames
  rw [List.map_map, List.map_map] at hnames
  exact hnames.trans (List.map_id _)

/-! ## The name of a time dimension -/

/-- The name a time dimension without a label is selected under. -/
def unitName (dimension : String) (granularity : TimeGranularity) : String := dimension ++ "_" ++ granularity.dateTruncUnit

theorem unitName_ne_empty (dimension : String) (granularity : TimeGranularity) : unitName dimension granularity ≠ "" := by
  intro h
  have hlength := congrArg String.length h
  simp [unitName] at hlength

/-- A short word that no such name is comes back for none. -/
theorem columnName_unitName_ne {word : String} (hsize : Utf8.size word.toList < 60)
    (hne : ∀ dimension granularity, unitName dimension granularity ≠ word) (d : Dialect) (dimension : String) (granularity : TimeGranularity) :
    d.columnName (unitName dimension granularity) ≠ word := by
  cases d with
  | sqlite | duckDb => exact hne dimension granularity
  | mySql =>
    -- what is left out stands before the unit
    intro h
    let blank : Char → Bool := fun c => c.toNat ≤ 0x20 || c.toNat == 0x7F
    have hrest : ('_' :: granularity.dateTruncUnit.toList).dropWhile blank = '_' :: granularity.dateTruncUnit.toList :=
      List.dropWhile_cons_of_neg (by decide)
    have hchars : (unitName dimension granularity).toList = dimension.toList ++ '_' :: granularity.dateTruncUnit.toList := by
      simp [unitName]
    have hkept : (unitName dimension granularity).toList.dropWhile blank =
        (unitName (String.ofList (dimension.toList.dropWhile blank)) granularity).toList := by
      rw [hchars, List.dropWhile_append, hrest]
      split_ifs with hempty
      · simp [unitName, List.isEmpty_iff.1 hempty]
      · simp [unitName]
    refine hne (String.ofList (dimension.toList.dropWhile blank)) granularity ?_
    rw [← h, ← String.toList_inj, ← hkept]
    exact (String.toList_ofList).symm
  | postgres =>
    intro h
    obtain rfl : String.ofList (Utf8.clip 63 (unitName dimension granularity).toList) = word := h
    rw [String.toList_ofList] at hsize
    by_cases hfits : Utf8.size (unitName dimension granularity).toList ≤ 63
    · refine hne dimension granularity ?_
      rw [Utf8.clip_eq_self.2 hfits, String.ofList_toList]
    · have hcut := Utf8.lt_size_clip (Nat.lt_of_not_le hfits)
      omega

/-! ## What the surfaces ask for -/

/-! ## REST -/

namespace Surface

/-- The labels an input gives. -/
def QueryInput.labels {Aggregation Granularity Operator : Type} (v : QueryInput Aggregation Granularity Operator) :
    List (Option String) :=
  (v.measures.getD []).map (·.label) ++ (v.dimensions.getD []).map (·.label) ++ (v.timeDimensions.getD []).map (·.label)

/-- Every item is given a label, none comes back empty and no two come back the same. -/
structure RestQueryInput.Labelled (d : Dialect) (v : RestQueryInput) : Prop where
  given : ∀ label ∈ v.labels, ∃ text, label = some text ∧ d.columnName text ≠ ""
  distinct : (v.labels.map (·.map d.columnName)).Nodup

theorem RestQueryInput.selectedNames (v : RestQueryInput) : v.toCore.selectedNames = v.labels.map (·.getD "") := by
  simp only [Query.selectedNames, QueryInput.labels, toCore, List.map_append, List.map_map]
  rfl

theorem columnName_empty (d : Dialect) : d.columnName "" = "" := by cases d <;> rfl

theorem RestQueryInput.labelled_iff {d : Dialect} {v : RestQueryInput} :
    (v.toCore.selectedNames.map d.columnName).Nodup ∧ "" ∉ v.toCore.selectedNames.map d.columnName ↔ v.Labelled d := by
  have hsent : v.toCore.selectedNames.map d.columnName = (v.labels.map (·.map d.columnName)).map (·.getD "") := by
    rw [v.selectedNames, List.map_map, List.map_map]
    refine List.map_congr_left fun label _ => ?_
    cases label with
    | none => exact columnName_empty d
    | some text => rfl
  have hgiven : "" ∉ v.toCore.selectedNames.map d.columnName ↔ ∀ label ∈ v.labels, ∃ text, label = some text ∧ d.columnName text ≠ "" := by
    rw [hsent, List.map_map, List.mem_map, not_exists]
    refine forall_congr' fun label => ?_
    cases label <;> simp
  rw [hgiven, hsent]
  constructor
  · exact fun h => ⟨h.2, h.1.of_map⟩
  · intro h
    refine ⟨(List.nodup_map_iff_inj_on h.distinct).2 fun l hl l' hl' heq => ?_, h.given⟩
    obtain ⟨label, hlabel, rfl⟩ := List.mem_map.1 hl
    obtain ⟨label', hlabel', rfl⟩ := List.mem_map.1 hl'
    obtain ⟨text, rfl, -⟩ := h.given label hlabel
    obtain ⟨text', rfl, -⟩ := h.given label' hlabel'
    exact congrArg some heq

/-! ## GraphQL -/

/-- What the items of an input go by: their labels, else their own names. -/
def GraphQl.QueryInput.names (v : GraphQl.QueryInput) : List String :=
  (v.measures.getD []).map (fun m => m.label.getD m.formula) ++ (v.dimensions.getD []).map (fun d => d.label.getD d.name) ++
    (v.timeDimensions.getD []).map fun t => t.label.getD (unitName t.dimension t.granularity.core)

/-- No label comes back empty, nor the name of a measure or a dimension without one, and no two items
come back under the same name. -/
structure GraphQl.QueryInput.Named (d : Dialect) (v : GraphQl.QueryInput) : Prop where
  labels : ∀ label, some label ∈ v.labels → d.columnName label ≠ ""
  formulas : ∀ m ∈ v.measures.getD [], m.label = none → d.columnName m.formula ≠ ""
  dimensions : ∀ dim ∈ v.dimensions.getD [], dim.label = none → d.columnName dim.name ≠ ""
  distinct : (v.names.map d.columnName).Nodup

theorem GraphQl.QueryInput.selectedNames (v : GraphQl.QueryInput) : v.toCore.selectedNames = v.names := by
  simp only [Query.selectedNames, names, toCore, List.map_map]
  rfl

/-- A name that comes back, where the one it stands in for may not. -/
theorem columnName_getD_ne {d : Dialect} {label : Option String} {name : String} : d.columnName (label.getD name) ≠ "" ↔
    (∀ text, label = some text → d.columnName text ≠ "") ∧ (label = none → d.columnName name ≠ "") := by
  cases label <;> simp

theorem GraphQl.QueryInput.named_iff {d : Dialect} {v : GraphQl.QueryInput} :
    (v.toCore.selectedNames.map d.columnName).Nodup ∧ "" ∉ v.toCore.selectedNames.map d.columnName ↔ v.Named d := by
  have hmem : "" ∉ v.names.map d.columnName ↔ (∀ m ∈ v.measures.getD [], d.columnName (m.label.getD m.formula) ≠ "") ∧
      (∀ dim ∈ v.dimensions.getD [], d.columnName (dim.label.getD dim.name) ≠ "") ∧ ∀ t ∈ v.timeDimensions.getD [],
        d.columnName (t.label.getD (unitName t.dimension t.granularity.core)) ≠ "" := by
    simp only [names, List.map_append, List.map_map, List.mem_append, List.mem_map, not_or, not_exists, not_and, and_assoc, Function.comp_apply]
  have hlabels : (∀ label, some label ∈ v.labels → d.columnName label ≠ "") ↔
      (∀ m ∈ v.measures.getD [], ∀ text, m.label = some text → d.columnName text ≠ "") ∧
        (∀ dim ∈ v.dimensions.getD [], ∀ text, dim.label = some text → d.columnName text ≠ "") ∧
        ∀ t ∈ v.timeDimensions.getD [], ∀ text, t.label = some text → d.columnName text ≠ "" := by
    simp only [Surface.QueryInput.labels, List.mem_append, List.mem_map]
    constructor
    · exact fun h => ⟨fun m hm text ht => h text (.inl (.inl ⟨m, hm, ht⟩)), fun dim hdim text ht => h text (.inl (.inr ⟨dim, hdim, ht⟩)),
        fun t ht text htext => h text (.inr ⟨t, ht, htext⟩)⟩
    · rintro ⟨hm, hd, ht⟩ label ((⟨m, hmem, hl⟩ | ⟨dim, hmem, hl⟩) | ⟨t, hmem, hl⟩)
      · exact hm m hmem label hl
      · exact hd dim hmem label hl
      · exact ht t hmem label hl
  have hunit : ∀ dimension granularity, d.columnName (unitName dimension granularity) ≠ "" := fun _ _ =>
    columnName_unitName_ne (by decide) (fun dimension granularity => unitName_ne_empty dimension granularity) d _ _
  simp only [columnName_getD_ne] at hmem
  rw [v.selectedNames, hmem]
  constructor
  · rintro ⟨hdistinct, hm, hd, ht⟩
    exact ⟨hlabels.2 ⟨fun m h => (hm m h).1, fun dim h => (hd dim h).1, fun t h => (ht t h).1⟩, fun m h => (hm m h).2,
      fun dim h => (hd dim h).2, hdistinct⟩
  · intro h
    obtain ⟨hm, hd, ht⟩ := hlabels.1 h.labels
    exact ⟨h.distinct, fun m hmem => ⟨hm m hmem, h.formulas m hmem⟩, fun dim hmem => ⟨hd dim hmem, h.dimensions dim hmem⟩,
      fun t hmem => ⟨ht t hmem, fun _ => hunit _ _⟩⟩

end Surface

/-! ## The agents' shorthand -/

namespace Suggest

/-- The aggregation a measure is written with; the bare star has none. -/
def written (spec : String) (m : Measure) : Option AggregationType := if Str.trim spec = "*" then none else some m.aggregation

/-- The label a measure gets. -/
def writtenLabel : Option AggregationType → String
  | none => "row_count"
  | some aggregation => aggregation.sqlFunction

/-- The ways a measure can be written. -/
def writings : List (Option AggregationType) :=
  [none, some .sum, some .avg, some .count, some .min, some .max, some .countDistinct]

variable {std : RustStd}

theorem parseMeasure_eq_ok {spec : String} {m : Measure} (h : parseMeasure std spec = .ok m) :
    m.formula.label = some (writtenLabel (written spec m)) ∧ written spec m ∈ writings := by
  unfold parseMeasure at h
  unfold written
  dsimp only at h
  split_ifs at h with hempty hstar
  · cases h
  · obtain rfl := Except.ok.inj h
    rw [if_pos hstar]
    exact ⟨rfl, by decide⟩
  · rw [if_neg hstar]
    split at h
    · cases h
    · split_ifs at h
      · cases h
      · split at h <;> first
          | exact absurd h Res.fail_ne_ok
          | (obtain rfl := Except.ok.inj h; exact ⟨rfl, by simp [writings]⟩)

theorem parseTimeDimension_eq_ok {spec : String} {td : TimeDimension} (h : parseTimeDimension std spec = .ok td) :
    td.label = none := by
  unfold parseTimeDimension at h
  split at h
  · cases h
  · dsimp only at h
    split at h <;> first
      | exact absurd h Res.fail_ne_ok
      | (obtain rfl := Except.ok.inj h; rfl)

theorem parseDimension_eq_ok {spec : String} {dim : Dimension} (h : parseDimension spec = .ok dim) :
    dim.label = none := by
  unfold parseDimension at h
  dsimp only at h
  split_ifs at h with hempty
  · cases h
  · obtain rfl := Except.ok.inj h
    rfl

/-- The parts of a query that is built. -/
theorem toCoreQuery_eq_ok {input : ToolQuery} {query : Query} (h : toCoreQuery std input = .ok query) :
    input.measures.mapM (parseMeasure std) = .ok query.measures ∧
      input.dimensions.mapM parseDimension = .ok query.dimensions ∧
      input.timeDimensions.mapM (parseTimeDimension std) = .ok query.timeDimensions := by
  unfold toCoreQuery at h
  obtain ⟨measures, hmeasures, h⟩ := Res.bind_eq_ok.1 h
  obtain ⟨dimensions, hdimensions, h⟩ := Res.bind_eq_ok.1 h
  obtain ⟨timeDimensions, htimes, h⟩ := Res.bind_eq_ok.1 h
  obtain ⟨filters, -, h⟩ := Res.bind_eq_ok.1 h
  obtain ⟨order, -, h⟩ := Res.bind_eq_ok.1 h
  split_ifs at h
  · cases h
  · obtain ⟨name, -, h⟩ := Res.bind_eq_ok.1 h
    obtain rfl := Except.ok.inj h
    exact ⟨hmeasures, hdimensions, htimes⟩

/-- The name a time dimension without a label goes by. -/
def timeName (td : TimeDimension) : String := unitName td.dimension td.granularity

/-- No aggregation is written twice, the bare star counting as one of its own; no two dimensions and no
two time dimensions with their units come back under one name; no dimension comes back under an empty
name, a label that a measure gets or the name of a time dimension with its unit. -/
structure Separate (d : Dialect) (input : ToolQuery) (query : Query) : Prop where
  measures : (List.zipWith written input.measures query.measures).Nodup
  named : ∀ dim ∈ query.dimensions, d.columnName dim.name ≠ ""
  dimensions : (query.dimensions.map fun dim => d.columnName dim.name).Nodup
  timeDimensions : (query.timeDimensions.map fun td => d.columnName (timeName td)).Nodup
  labels : ∀ dim ∈ query.dimensions, ∀ w ∈ List.zipWith written input.measures query.measures, d.columnName dim.name ≠ writtenLabel w
  times : ∀ dim ∈ query.dimensions, ∀ td ∈ query.timeDimensions, d.columnName dim.name ≠ d.columnName (timeName td)

theorem writtenLabel_inj {w w' : Option AggregationType} (hw : w ∈ writings) (hw' : w' ∈ writings)
    (h : writtenLabel w = writtenLabel w') : w = w' := by
  have hall : ∀ w ∈ writings, ∀ w' ∈ writings, writtenLabel w = writtenLabel w' → w = w' := by decide +kernel
  exact hall w hw w' hw' h

/-- The name of a time dimension is no label of a measure: its last word is a unit. -/
theorem writtenLabel_ne_unitName {w : Option AggregationType} (hw : w ∈ writings) (dimension : String) (granularity : TimeGranularity) :
    unitName dimension granularity ≠ writtenLabel w := by
  have hunits : ∀ w ∈ writings, ∀ word, (Str.rsplitOnce (writtenLabel w) '_').map (·.2) = some word → word = "count" := by
    decide +kernel
  intro h
  have hunit : '_' ∉ granularity.dateTruncUnit.toList := by cases granularity <;> decide
  have hsplit : Str.rsplitOnce (unitName dimension granularity) '_' = some (dimension, granularity.dateTruncUnit) :=
    Str.rsplitOnce_append (c := '_') hunit dimension
  have hword := hunits w hw granularity.dateTruncUnit (by rw [← h, hsplit]; rfl)
  cases hg : granularity <;> rw [hg] at hword <;> exact absurd hword (by decide)

/-- A label comes back as it is. -/
theorem columnName_writtenLabel {w : Option AggregationType} (hw : w ∈ writings) (d : Dialect) :
    d.columnName (writtenLabel w) = writtenLabel w := by
  have hall : ∀ w ∈ writings, d.columnName (writtenLabel w) = writtenLabel w := by cases d <;> decide +kernel
  exact hall w hw

theorem size_writtenLabel {w : Option AggregationType} (hw : w ∈ writings) : Utf8.size (writtenLabel w).toList < 60 := by
  have hall : ∀ w ∈ writings, Utf8.size (writtenLabel w).toList < 60 := by decide +kernel
  exact hall w hw

/-- Each measure is labelled by how it is written. -/
theorem measures_labels {specs : List String} {measures : List Measure}
    (h : specs.mapM (parseMeasure std) = .ok measures) :
    measures.map (fun m => m.formula.label.getD m.formula.expression) =
        (List.zipWith written specs measures).map writtenLabel ∧
      ∀ w ∈ List.zipWith written specs measures, w ∈ writings := by
  have hall := Res.forall₂_of_mapM h
  clear h
  induction hall with
  | nil => exact ⟨rfl, by simp⟩
  | cons hparsed _ ih =>
    obtain ⟨hlabel, hwritten⟩ := parseMeasure_eq_ok hparsed
    obtain ⟨ihlabels, ihwritten⟩ := ih
    rw [List.zipWith_cons_cons, List.map_cons, List.map_cons, hlabel, ihlabels]
    exact ⟨rfl, List.forall_mem_cons.2 ⟨hwritten, ihwritten⟩⟩

theorem timeDimension_name {td : TimeDimension} (h : td.label = none) :
    td.label.getD (td.dimension ++ "_" ++ td.granularity.dateTruncUnit) = timeName td := by
  rw [h]
  rfl

/-- **What a query built from the shorthand selects is named apart** exactly when the items are
separate. -/
theorem separate_iff {d : Dialect} {input : ToolQuery} {query : Query} (h : toCoreQuery std input = .ok query) :
    (query.selectedNames.map d.columnName).Nodup ∧ "" ∉ query.selectedNames.map d.columnName ↔ Separate d input query := by
  obtain ⟨hmeasures, hdimensions, htimes⟩ := toCoreQuery_eq_ok h
  obtain ⟨hlabels, hwritings⟩ := measures_labels hmeasures
  have hdims : ∀ dim ∈ query.dimensions, dim.label = none := fun dim hdim => by
    obtain ⟨spec, -, hspec⟩ := Res.mem_of_mapM hdimensions dim hdim
    exact parseDimension_eq_ok hspec
  have htds : ∀ td ∈ query.timeDimensions, td.label = none := fun td htd => by
    obtain ⟨spec, -, hspec⟩ := Res.mem_of_mapM htimes td htd
    exact parseTimeDimension_eq_ok hspec
  have hwritten : ((List.zipWith written input.measures query.measures).map writtenLabel).map d.columnName =
      (List.zipWith written input.measures query.measures).map writtenLabel := by
    rw [List.map_map]
    exact List.map_congr_left fun w hw => columnName_writtenLabel (hwritings w hw) d
  have hnames : query.selectedNames.map d.columnName = (List.zipWith written input.measures query.measures).map writtenLabel ++
      query.dimensions.map (fun dim => d.columnName dim.name) ++ query.timeDimensions.map fun td => d.columnName (timeName td) := by
    rw [Query.selectedNames, hlabels, List.map_append, List.map_append, hwritten, List.map_map, List.map_map]
    congr 1
    · congr 1
      exact List.map_congr_left fun dim hdim => by rw [Function.comp_apply, hdims dim hdim]; rfl
    · exact List.map_congr_left fun td htd => congrArg d.columnName (timeDimension_name (htds td htd))
  have hempty : "" ∉ query.selectedNames.map d.columnName ↔ ∀ dim ∈ query.dimensions, d.columnName dim.name ≠ "" := by
    rw [hnames]
    simp only [List.mem_append, List.mem_map, not_or, not_exists, not_and]
    refine ⟨fun hall => hall.1.2, fun hdim => ⟨⟨fun w hw => ?_, hdim⟩, fun td _ => ?_⟩⟩
    · have hall : ∀ w ∈ writings, writtenLabel w ≠ "" := by decide +kernel
      exact hall w (hwritings w hw)
    · exact columnName_unitName_ne (by decide) (fun dimension granularity => unitName_ne_empty dimension granularity) d _ _
  have hmeasure : ((List.zipWith written input.measures query.measures).map writtenLabel).Nodup ↔
      (List.zipWith written input.measures query.measures).Nodup := by
    refine ⟨List.Nodup.of_map _, fun hn => hn.map_on fun w hw w' hw' => ?_⟩
    exact writtenLabel_inj (hwritings w hw) (hwritings w' hw')
  rw [hempty, hnames, List.nodup_append, List.nodup_append, hmeasure]
  constructor
  · rintro ⟨⟨⟨hm, hd, hlabel⟩, ht, htime⟩, hnamed⟩
    refine ⟨hm, hnamed, hd, ht, fun dim hdim w hw heq => ?_, fun dim hdim td htd heq => ?_⟩
    · exact hlabel _ (List.mem_map_of_mem hw) _ (List.mem_map.2 ⟨dim, hdim, rfl⟩) heq.symm
    · exact htime _ (List.mem_append_right _ (List.mem_map.2 ⟨dim, hdim, rfl⟩)) _ (List.mem_map.2 ⟨td, htd, rfl⟩) heq
  · intro h
    refine ⟨⟨⟨h.measures, h.dimensions, ?_⟩, h.timeDimensions, ?_⟩, h.named⟩
    · intro name hname name' hname' heq
      obtain ⟨w, hw, rfl⟩ := List.mem_map.1 hname
      obtain ⟨dim, hdim, rfl⟩ := List.mem_map.1 hname'
      exact h.labels dim hdim w hw heq.symm
    · intro name hname name' hname' heq
      obtain ⟨td, htd, rfl⟩ := List.mem_map.1 hname'
      rcases List.mem_append.1 hname with hname | hname
      · obtain ⟨w, hw, rfl⟩ := List.mem_map.1 hname
        have hw' := hwritings w hw
        exact columnName_unitName_ne (size_writtenLabel hw') (fun dimension granularity => writtenLabel_ne_unitName hw' dimension granularity) d
          _ _ heq.symm
      · obtain ⟨dim, hdim, rfl⟩ := List.mem_map.1 hname
        exact h.times dim hdim td htd heq

end Suggest

/-! ## The three surfaces -/

/-- What a surface makes a query of. -/
inductive Request
  | rest (input : Surface.RestQueryInput)
  | graphQl (input : Surface.GraphQl.QueryInput)
  | shorthand (std : RustStd) (input : ToolQuery)

namespace Request

/-- The query that is built. -/
def Builds : Request → Query → Prop
  | rest input, query => input.convertQuery = .ok query
  | graphQl input, query => input.toCore = query
  | shorthand std input, query => Suggest.toCoreQuery std input = .ok query

/-- The items are told apart in the way the surface asks for. -/
def Distinct (d : Dialect) : Request → Query → Prop
  | rest input, _ => input.Labelled d
  | graphQl input, _ => input.Named d
  | shorthand _ input, query => Suggest.Separate d input query

theorem distinct_iff {d : Dialect} {r : Request} {query : Query} (h : r.Builds query) :
    (query.selectedNames.map d.columnName).Nodup ∧ "" ∉ query.selectedNames.map d.columnName ↔ r.Distinct d query := by
  cases r with
  | rest input =>
    obtain ⟨-, rfl⟩ := Surface.RestQueryInput.convertQuery_eq_ok.1 h
    exact Surface.RestQueryInput.labelled_iff
  | graphQl input =>
    obtain rfl := h
    exact Surface.GraphQl.QueryInput.named_iff
  | shorthand std input => exact Suggest.separate_iff h

end Request

namespace QueryService

variable {s : QueryService} {ctx : CallContext} {query : Query} {options : ExecuteOptions}

/-- The dialect and the items in the SELECT list of the statement a call runs. -/
def Selects (s : QueryService) (ctx : CallContext) (query : Query) (options : ExecuteOptions) (d : Dialect)
    (items : List SelectItem) : Prop :=
  ∃ g sql m sourceAlias plan,
    (s.sqlEngine.generateSql (governedQuery ctx.sessionPolicy query options.maxRows)).1 = .ok sql ∧
      SqlGenerator.Statement g (governedQuery ctx.sessionPolicy query options.maxRows) sql m sourceAlias plan ∧
      g.dialectFor m.name = d ∧ plan.selectItems = items

/-- Governance changes what is filtered and how much is returned, never what is selected. -/
theorem Selects.sentNames {d : Dialect} {items : List SelectItem} (h : s.Selects ctx query options d items) :
    items.map d.sentName = query.selectedNames.map d.columnName := by
  obtain ⟨g, sql, m, sourceAlias, plan, -, hstatement, -, rfl⟩ := h
  have hnames := congrArg (List.map d.columnName) hstatement.itemNames
  rw [List.map_map] at hnames
  exact hnames

theorem exists_selects {host : Host} {out : QueryOutcome} (h : (s.execute host ctx query options).1 = .ok out)
    (horigin : s.sqlEngine.PlanOrigin (governedQuery ctx.sessionPolicy query options.maxRows)) :
    ∃ d items, s.Selects ctx query options d items := by
  obtain ⟨gov, sql, hgov, hsql, -⟩ := execute_eq_ok h
  obtain ⟨-, -, -, -, hquery, -⟩ := govern_eq_ok.1 hgov
  rw [hquery] at hsql
  obtain ⟨g, hgen, -⟩ := SqlEngine.generateSql_origin horigin hsql
  obtain ⟨m, sourceAlias, plan, hstatement⟩ := SqlGenerator.exists_statement hgen
  exact ⟨_, _, g, sql, m, sourceAlias, plan, hsql, hstatement, rfl, rfl⟩

end QueryService

namespace OrderTotals

def orders : Model where
  name := "orders"
  datasource := "shop"
  measures := [⟨{ expression := "revenue" }, .sum⟩, ⟨{ expression := "cost" }, .sum⟩]
  dimensions := [⟨"status", none⟩]

def dataSource : DataSource := { name := "shop", driver := "postgres", connectionString := "" }

def service : QueryService :=
  .new ((SqlEngine.new .postgres ⟨fun _ => false, fun _ => false⟩).withModels [orders])
    ⟨fun name _ => .ok (if name = "orders" then some orders else none), fun _ => .ok (some dataSource)⟩

def host : Host := ⟨fun _ _ => .rows [], true⟩

def std : RustStd := ⟨fun _ => false, id, List.Perm.refl, fun _ => 0, fun _ => none, id⟩

/-- Two totals, as an agent asks for them. -/
def totals : ToolQuery := { name := some "orders", measures := ["revenue:sum", "cost:sum"] }

def totalsQuery : Query where
  name := some "orders"
  measures :=
    [⟨{ expression := "revenue", label := some "SUM" }, .sum⟩, ⟨{ expression := "cost", label := some "SUM" }, .sum⟩]

/-- A total and an average of one column, through GraphQL. -/
def spread : Surface.GraphQl.QueryInput where
  name := some "orders"
  measures := some [{ formula := "revenue", aggregation := .sum }, { formula := "revenue", aggregation := .avg }]

/-- A dimension without a label, through REST. -/
def listing : Surface.RestQueryInput := { name := some "orders", dimensions := some [⟨"status", none⟩] }

/-- A total for each status. -/
def byStatus : ToolQuery := { name := some "orders", measures := ["revenue:sum", "*"], dimensions := ["status"] }

def byStatusQuery : Query where
  name := some "orders"
  measures :=
    [⟨{ expression := "revenue", label := some "SUM" }, .sum⟩,
      ⟨{ expression := "*", label := some "row_count" }, .count⟩]
  dimensions := [⟨"status", none⟩]

end OrderTotals

end GraphNight
