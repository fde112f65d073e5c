import GraphNight.Surface.Asked

/-!
# One question, one query

A surface that accepts an input converts it to the core query that is asked for only under
a condition of its own, and where each surface meets its condition they agree. REST fills in
labels and formats that are absent; REST, GraphQL and Node wrap a negative count, which Python
drops; the bindings take a word they do not know for `sum` or `day`; Node drops a list of values
and a text that is no JSON, and Python reads most values that are not numbers as others.
-/

namespace GraphNight

namespace Surface

section Words

variable {w : String}

theorem named_iff {g : TimeGranularity} : TimeGranularity.named w = some g ↔ Str.toAsciiLowercase w = g.dateTruncUnit := by
  unfold TimeGranularity.named
  generalize Str.toAsciiLowercase w = lower
  constructor
  · intro h
    split at h <;> cases h <;> rfl
  · rintro rfl
    cases g <;> rfl

theorem isKeyword_of_named {g : TimeGranularity} (h : TimeGranularity.named w = some g) : Str.isKeyword w = true := by
  apply Str.isKeyword_of_lower
  rw [named_iff.1 h]
  cases g <;> decide

/-- The name of a granularity in any case is read as that granularity by REST. -/
theorem rest_parseGranularity {g : TimeGranularity} (h : TimeGranularity.named w = some g) :
    RestQueryInput.parseGranularity w = g := by
  unfold RestQueryInput.parseGranularity
  rw [Str.toUppercase_of_isKeyword (isKeyword_of_named h), ← Str.toAsciiUppercase_toAsciiLowercase, named_iff.1 h]
  cases g <;> decide

/-- The name of a granularity in any case is read as that granularity by the bindings. -/
theorem parseGranularity_eq {g : TimeGranularity} (h : TimeGranularity.named w = some g) : parseGranularity w = g := by
  unfold parseGranularity
  rw [Str.toLowercase_of_isKeyword (isKeyword_of_named h), named_iff.1 h]
  cases g <;> rfl

/-- The words for aggregations the bindings know. -/
def aggregationNames : List (String × AggregationType) :=
  [("sum", .sum), ("avg", .avg), ("count", .count), ("min", .min), ("max", .max), ("count_distinct", .countDistinct)]

/-- A word for an aggregation the bindings know, in any case, or any word for a sum. -/
def SpelledOut (w : String) : Prop :=
  Str.toAsciiLowercase w ∈ aggregationNames.map Prod.fst ∨ readAggregation w = some .sum

theorem parseAggregation_named {n : String} {a : AggregationType} (h : (n, a) ∈ aggregationNames)
    (hlower : Str.toLowercase w = n) : parseAggregation w = a := by
  unfold parseAggregation
  rw [hlower]
  simp only [aggregationNames, List.mem_cons, Prod.mk.injEq, List.not_mem_nil, or_false] at h
  rcases h with ⟨rfl, rfl⟩ | ⟨rfl, rfl⟩ | ⟨rfl, rfl⟩ | ⟨rfl, rfl⟩ | ⟨rfl, rfl⟩ | ⟨rfl, rfl⟩ <;> rfl

theorem parseAggregation_unknown (h : Str.toLowercase w ∉ aggregationNames.map Prod.fst) : parseAggregation w = .sum := by
  unfold parseAggregation
  generalize Str.toLowercase w = lower at h
  split <;> first | rfl | exact absurd (by decide) h

theorem readAggregation_named {n : String} {a : AggregationType} (h : (n, a) ∈ aggregationNames)
    (hlower : Str.toAsciiLowercase w = n) : readAggregation w = some a := by
  have hkey : Str.isKeyword w = true := by
    apply Str.isKeyword_of_lower
    rw [hlower]
    exact List.all_eq_true.1 (by decide : aggregationNames.all fun e => Str.isKeyword e.1) _ h
  have hne : w ≠ "" := by
    rintro rfl
    have hempty : aggregationNames.all (fun e => e.1 != "") = true := by decide
    simpa [← hlower, Str.toAsciiLowercase] using List.all_eq_true.1 hempty _ h
  unfold readAggregation AggregationType.parseStrict
  rw [Str.trim_of_isKeyword hkey]
  dsimp only
  rw [if_neg hne, ← Str.toAsciiUppercase_toAsciiLowercase, hlower]
  simp only [aggregationNames, List.mem_cons, Prod.mk.injEq, List.not_mem_nil, or_false] at h
  rcases h with ⟨rfl, rfl⟩ | ⟨rfl, rfl⟩ | ⟨rfl, rfl⟩ | ⟨rfl, rfl⟩ | ⟨rfl, rfl⟩ | ⟨rfl, rfl⟩ <;> rfl

theorem readAggregation_of_lower (h : Str.toAsciiLowercase w ∈ aggregationNames.map Prod.fst) :
    readAggregation w = some (parseAggregation w) := by
  obtain ⟨⟨n, a⟩, hmem, hlower⟩ := List.mem_map.1 h
  have hkey : Str.isKeyword w = true := by
    apply Str.isKeyword_of_lower
    rw [← hlower]
    exact List.all_eq_true.1 (by decide : aggregationNames.all fun e => Str.isKeyword e.1) _ hmem
  rw [readAggregation_named hmem hlower.symm,
    parseAggregation_named hmem ((Str.toLowercase_of_isKeyword hkey).trans hlower.symm)]

theorem lower_mem_of_toLowercase (h : Str.toLowercase w ∈ aggregationNames.map Prod.fst) :
    Str.toAsciiLowercase w ∈ aggregationNames.map Prod.fst := by
  have hnok : (aggregationNames.map Prod.fst).all fun n => !n.toList.contains 'k' := by decide
  have hk : 'k' ∉ (Str.toLowercase w).toList := by simpa using List.all_eq_true.1 hnok _ h
  rwa [Str.toAsciiLowercase_of_toLowercase rfl hk]

/-- The bindings read a word for an aggregation as what it means where it is spelled out. -/
theorem readAggregation_iff : readAggregation w = some (parseAggregation w) ↔ SpelledOut w := by
  by_cases hmem : Str.toLowercase w ∈ aggregationNames.map Prod.fst
  · have hlower := lower_mem_of_toLowercase hmem
    exact iff_of_true (readAggregation_of_lower hlower) (.inl hlower)
  · constructor
    · intro h
      exact .inr (h.trans (congrArg some (parseAggregation_unknown hmem)))
    · rintro (hlower | hsum)
      · exact readAggregation_of_lower hlower
      · rw [hsum, parseAggregation_unknown hmem]

end Words

/-- A count that is not negative. -/
def NotNegative (count : Option Int) : Prop := ∀ i, count = some i → 0 ≤ i

theorem asUsize_of_nonneg {i : Int32} (h : 0 ≤ i.toInt) : asUsize i = i.toInt.toNat := by
  have hlt := i.toInt_lt
  unfold asUsize
  omega

theorem askedCount_asUsize (count : Option Int32) :
    askedCount (count.map Int32.toInt) = some (count.map asUsize) ↔ NotNegative (count.map Int32.toInt) := by
  rw [askedCount_eq_some]
  refine and_iff_left_of_imp fun h => ?_
  cases count with
  | none => rfl
  | some i => exact congrArg some (asUsize_of_nonneg (h _ rfl))

/-! ## REST -/

namespace RestQueryInput

/-- Every label and format is given, every granularity is one, and no count is negative. -/
structure Kept (v : RestQueryInput) : Prop where
  measures : ∀ m ∈ v.measures.getD [], m.label ≠ none ∧ m.format ≠ none
  dimensions : ∀ d ∈ v.dimensions.getD [], d.label ≠ none
  timeDimensions : ∀ t ∈ v.timeDimensions.getD [], t.label ≠ none ∧ TimeGranularity.named t.granularity ≠ none
  limit : NotNegative (v.limit.map Int32.toInt)
  offset : NotNegative (v.offset.map Int32.toInt)

theorem some_getD_eq {o : Option String} : some (o.getD "") = o ↔ o ≠ none := by
  cases o <;> simp

theorem measure_iff {m : MeasureInput String} (h : ∃ a, readAggregation m.aggregation = some a) :
    (askedMeasure m).core = some (measure m) ↔ m.label ≠ none ∧ m.format ≠ none := by
  obtain ⟨a, ha⟩ := h
  have hparse : parseAggregation m.aggregation = a := by
    show (readAggregation m.aggregation).getD .sum = a
    rw [ha, Option.getD_some]
  unfold AskedMeasure.core askedMeasure measure
  rw [ha, hparse]
  simp only [Option.map_some, Option.some.injEq, Measure.mk.injEq, Formula.mk.injEq, true_and, and_true]
  rw [eq_comm, some_getD_eq, eq_comm, some_getD_eq]

theorem dimension_iff {d : Dimension} : dimension d = d ↔ d.label ≠ none := by
  rw [← some_getD_eq]
  exact ⟨fun h => congrArg Dimension.label h, fun h => by rw [dimension, h]⟩

theorem timeDimension_iff {t : TimeDimensionInput String} : (askedTimeDimension t).core = some (timeDimension t) ↔
    t.label ≠ none ∧ TimeGranularity.named t.granularity ≠ none := by
  unfold AskedTimeDimension.core askedTimeDimension timeDimension
  cases h : TimeGranularity.named t.granularity with
  | none => simp
  | some g =>
    rw [rest_parseGranularity h, ← some_getD_eq]
    simp [eq_comm]

theorem filter_eq {f : FilterInput String} (h : ∃ op, readOperator f.operator = some op) :
    (askedFilter f).core = some (filter f) := by
  obtain ⟨op, hop⟩ := h
  have hparse : parseOperator f.operator = op := by
    show (readOperator f.operator).getD .eq = op
    rw [hop, Option.getD_some]
  unfold AskedFilter.core askedFilter filter
  rw [hop, hparse]
  rfl

theorem toOption_of_discard {ε α : Type} {r : Except ε α} (h : (do let _ ← r) = Except.ok ()) : ∃ a, r.toOption = some a := by
  cases r with
  | error e => cases h
  | ok a => exact ⟨a, rfl⟩

variable {v : RestQueryInput}

/-- What the check of the handlers is for. -/
theorem known_of_accepted (h : v.rejectBadInput = .ok ()) :
    (∀ m ∈ v.measures.getD [], ∃ a, readAggregation m.aggregation = some a) ∧
      ∀ f ∈ v.filters.getD [], ∃ op, readOperator f.operator = some op := by
  unfold rejectBadInput at h
  cases haggregations : v.rejectBadAggregations with
  | error e =>
    rw [haggregations] at h
    cases h
  | ok u =>
    rw [haggregations] at h
    exact ⟨fun m hm => toOption_of_discard (Traverse.forM_eq_ok.1 haggregations m hm),
      fun f hf => toOption_of_discard (Traverse.forM_eq_ok.1 h f hf)⟩

theorem core_iff (h : v.rejectBadInput = .ok ()) : v.asked.core = some v.toCore ↔ v.Kept := by
  obtain ⟨haggregations, hoperators⟩ := known_of_accepted h
  have hmeasures : v.asked.measures.mapM AskedMeasure.core = some v.toCore.measures ↔
      ∀ m ∈ v.measures.getD [], m.label ≠ none ∧ m.format ≠ none :=
    Traverse.mapM_map_iff fun m hm => measure_iff (haggregations m hm)
  have htimes : v.asked.timeDimensions.mapM AskedTimeDimension.core = some v.toCore.timeDimensions ↔
      ∀ t ∈ v.timeDimensions.getD [], t.label ≠ none ∧ TimeGranularity.named t.granularity ≠ none :=
    Traverse.mapM_map_iff fun t _ => timeDimension_iff
  have hfilters : v.asked.filters.mapM AskedFilter.core = some v.toCore.filters :=
    Traverse.mapM_map_eq fun f hf => filter_eq (hoperators f hf)
  have hdimensions : v.toCore.dimensions = v.asked.dimensions ↔ ∀ d ∈ v.dimensions.getD [], d.label ≠ none := by
    show (v.dimensions.getD []).map dimension = v.dimensions.getD [] ↔ _
    conv_lhs => rhs; rw [← List.map_id (v.dimensions.getD [])]
    rw [List.map_inj_left]
    exact forall₂_congr fun d _ => dimension_iff
  rw [Asked.core_eq_some, hmeasures, htimes]
  constructor
  · rintro ⟨hplain, hlabels, hgranularities, -, hlimit, hoffset⟩
    exact ⟨hlabels, hdimensions.1 hplain.dimensions, hgranularities, (askedCount_asUsize _).1 hlimit,
      (askedCount_asUsize _).1 hoffset⟩
  · intro hkept
    exact ⟨⟨rfl, rfl, hdimensions.2 hkept.dimensions, rfl, rfl, rfl, rfl⟩, hkept.measures, hkept.timeDimensions, hfilters,
      (askedCount_asUsize _).2 hkept.limit, (askedCount_asUsize _).2 hkept.offset⟩

end RestQueryInput

/-! ## GraphQL -/

namespace GraphQl.QueryInput

/-- No count is negative. -/
structure Kept (v : QueryInput) : Prop where
  limit : NotNegative (v.limit.map Int32.toInt)
  offset : NotNegative (v.offset.map Int32.toInt)

theorem readAggregation_word (a : AggregationType) : readAggregation a.word = some a.core := by
  apply readAggregation_named (n := a.word) <;> cases a <;> decide +kernel

theorem named_word (g : TimeGranularity) : Surface.TimeGranularity.named g.word = some g.core := by
  cases g <;> rfl

theorem readOperator_word (op : FilterOperator) : readOperator op.word = some op.core := by
  cases op <;> decide +kernel

theorem measure_eq (m : MeasureInput AggregationType) : (askedMeasure m).core = some (measure m) := by
  unfold AskedMeasure.core askedMeasure
  rw [readAggregation_word]
  rfl

theorem timeDimension_eq (t : TimeDimensionInput TimeGranularity) : (askedTimeDimension t).core = some (timeDimension t) := by
  unfold AskedTimeDimension.core askedTimeDimension
  rw [named_word]
  rfl

theorem filter_eq (f : FilterInput FilterOperator) : (askedFilter f).core = some (filter f) := by
  unfold AskedFilter.core askedFilter
  rw [readOperator_word]
  rfl

/-- GraphQL converts an input to what is asked where no count is negative. -/
theorem core_iff (v : QueryInput) : v.asked.core = some v.toCore ↔ v.Kept := by
  rw [Asked.core_eq_some]
  constructor
  · rintro ⟨-, -, -, -, hlimit, hoffset⟩
    exact ⟨(askedCount_asUsize _).1 hlimit, (askedCount_asUsize _).1 hoffset⟩
  · rintro ⟨hlimit, hoffset⟩
    exact ⟨⟨rfl, rfl, rfl, rfl, rfl, rfl, rfl⟩, Traverse.mapM_map_eq fun m _ => measure_eq m,
      Traverse.mapM_map_eq fun t _ => timeDimension_eq t, Traverse.mapM_map_eq fun f _ => filter_eq f,
      (askedCount_asUsize _).2 hlimit, (askedCount_asUsize _).2 hoffset⟩

end GraphQl.QueryInput

/-! ## Node -/

theorem askedMeasure_iff {formula : Formula} {w : String} :
    (⟨formula, readAggregation w⟩ : AskedMeasure).core = some ⟨formula, parseAggregation w⟩ ↔ SpelledOut w := by
  rw [← readAggregation_iff]
  unfold AskedMeasure.core
  cases readAggregation w with
  | none => simp
  | some a => simp

theorem askedTimeDimension_iff {dimension w : String} {label : Option String} :
    (⟨dimension, TimeGranularity.named w, label⟩ : AskedTimeDimension).core =
      some ⟨dimension, parseGranularity w, label⟩ ↔ TimeGranularity.named w ≠ none := by
  unfold AskedTimeDimension.core
  cases h : TimeGranularity.named w with
  | none => simp
  | some g => simp [parseGranularity_eq h]

/-- Where the operator is known, a filter is the one asked for when its value is. -/
theorem askedFilter_iff {field w : String} {op : FilterOperator} {value value' : Value} {orCondition : Bool}
    (h : FilterOperator.parseStrict w = .ok op) :
    (⟨field, readOperator w, value, orCondition⟩ : AskedFilter).core = some ⟨field, op, value', orCondition⟩ ↔
      value = value' := by
  unfold AskedFilter.core readOperator
  rw [h]
  simp [Except.toOption]

namespace Node

variable (parseJson : String → Option Value)

/-- The filter does not list its values, and the text of its value is JSON. -/
def KeepsValue (f : FilterInput) : Prop := f.values = none ∧ ∀ text, f.value = some text → parseJson text ≠ none

/-- A count that is handed over as it is. -/
def KeepsCount (count : Option Int) : Prop := ∀ i, count = some i → 0 ≤ i ∧ i < 4294967296

/-- Every aggregation is spelled out, every granularity is one, every filter's value is kept and so is every count. -/
structure Kept (input : QueryInput) : Prop where
  measures : ∀ m ∈ input.measures, SpelledOut m.aggregation
  timeDimensions : ∀ t ∈ input.timeDimensions, TimeGranularity.named t.granularity ≠ none
  filters : ∀ f ∈ input.filters, KeepsValue parseJson f
  limit : KeepsCount input.limit
  offset : KeepsCount input.offset

variable {parseJson}

/-- A listed value is asked for as a list, and a text that is no JSON as itself; both are converted to null. -/
theorem askedValue_iff {f : FilterInput} {value : Value} (h : askedValue parseJson f = some value) :
    value = (f.value.bind parseJson).getD .null ↔ KeepsValue parseJson f := by
  obtain ⟨field, operator, text, texts, orCondition⟩ := f
  cases text with
  | none =>
    cases texts with
    | none =>
      obtain rfl := Option.some.inj h
      exact iff_of_true rfl ⟨rfl, by rintro _ ⟨⟩⟩
    | some texts =>
      obtain rfl := Option.some.inj h
      refine iff_of_false (by rintro ⟨⟩) ?_
      rintro ⟨⟨⟩, -⟩
  | some text =>
    cases texts with
    | none =>
      obtain rfl := Option.some.inj h
      rw [Option.bind_some, askedText]
      cases hparse : parseJson text with
      | none => exact iff_of_false (by rintro ⟨⟩) fun hkeeps => hkeeps.2 text rfl hparse
      | some json =>
        refine iff_of_true rfl ⟨rfl, ?_⟩
        rintro _ ⟨⟩ hnone
        rw [hnone] at hparse
        cases hparse
    | some texts => cases h

theorem askedCount_toUint32 (count : Option Int) : askedCount count = some (count.map toUint32) ↔ KeepsCount count := by
  cases count with
  | none => exact iff_of_true rfl (by rintro _ ⟨⟩)
  | some i =>
    have hsame : (0 ≤ i ∧ toUint32 i = i.toNat) ↔ 0 ≤ i ∧ i < 4294967296 := by
      unfold toUint32
      omega
    rw [askedCount_eq_some]
    simpa [KeepsCount] using hsame

theorem filter_iff {f : FilterInput} {asked : AskedFilter} {converted : Filter}
    (hasked : askedFilter parseJson f = some asked) (hconverted : (filter parseJson f).toOption = some converted) :
    asked.core = some converted ↔ KeepsValue parseJson f := by
  obtain ⟨value, hvalue, rfl⟩ := Option.map_eq_some_iff.1 hasked
  unfold filter parseFilterOperator at hconverted
  cases hop : FilterOperator.parseStrict f.operator with
  | error e =>
    rw [hop] at hconverted
    cases hconverted
  | ok op =>
    rw [hop] at hconverted
    obtain rfl := Option.some.inj hconverted
    exact (askedFilter_iff hop).trans (askedValue_iff hvalue)

/-- An input is taken where its operators are known. -/
theorem exists_convertQuery_iff {input : QueryInput} :
    (∃ q, convertQuery parseJson input = .ok q) ↔ ∀ f ∈ input.filters, readOperator f.operator ≠ none := by
  have hread : ∀ f, (filter parseJson f).toOption ≠ none ↔ readOperator f.operator ≠ none := by
    intro f
    unfold filter parseFilterOperator readOperator
    cases FilterOperator.parseStrict f.operator with
    | error e => simp [bind, Except.bind, Except.toOption]
    | ok op => simp [bind, Except.bind, Except.toOption, pure, Except.pure]
  rw [← forall₂_congr fun f _ => hread f, ← Traverse.exists_mapM_iff]
  unfold convertQuery
  cases hfilters : input.filters.mapM (filter parseJson) with
  | error e =>
    refine iff_of_false (by rintro ⟨_, ⟨⟩⟩) ?_
    rintro ⟨filters, hsome⟩
    rw [Traverse.mapM_toOption.2 hsome] at hfilters
    cases hfilters
  | ok filters => exact iff_of_true ⟨_, rfl⟩ ⟨filters, Traverse.mapM_toOption.1 hfilters⟩

theorem core_iff {input : QueryInput} {a : Asked} {q : Query} (hasked : asked parseJson input = some a)
    (hq : convertQuery parseJson input = .ok q) : a.core = some q ↔ Kept parseJson input := by
  obtain ⟨askedFilters, hreads, ha⟩ := Option.bind_eq_some_iff.1 hasked
  obtain rfl := Option.some.inj ha
  unfold convertQuery at hq
  cases hfilters : input.filters.mapM (filter parseJson) with
  | error e =>
    rw [hfilters] at hq
    cases hq
  | ok filters =>
    rw [hfilters] at hq
    obtain rfl := Except.ok.inj hq
    have hmeasures : (input.measures.map askedMeasure).mapM AskedMeasure.core = some (input.measures.map measure) ↔
        ∀ m ∈ input.measures, SpelledOut m.aggregation := Traverse.mapM_map_iff fun m _ => askedMeasure_iff
    have htimes : (input.timeDimensions.map RestQueryInput.askedTimeDimension).mapM AskedTimeDimension.core =
        some (input.timeDimensions.map timeDimension) ↔
          ∀ t ∈ input.timeDimensions, TimeGranularity.named t.granularity ≠ none :=
      Traverse.mapM_map_iff fun t _ => askedTimeDimension_iff
    have hvalues : askedFilters.mapM AskedFilter.core = some filters ↔ ∀ f ∈ input.filters, KeepsValue parseJson f :=
      Traverse.mapM_iff hreads (Traverse.mapM_toOption.1 hfilters) fun f _ x y hx hy => filter_iff hx hy
    rw [Asked.core_eq_some]
    constructor
    · rintro ⟨-, hm, ht, hf, hlimit, hoffset⟩
      exact ⟨hmeasures.1 hm, htimes.1 ht, hvalues.1 hf, (askedCount_toUint32 _).1 hlimit, (askedCount_toUint32 _).1 hoffset⟩
    · intro hkept
      exact ⟨⟨rfl, rfl, rfl, rfl, rfl, rfl, rfl⟩, hmeasures.2 hkept.measures, htimes.2 hkept.timeDimensions,
        hvalues.2 hkept.filters, (askedCount_toUint32 _).2 hkept.limit, (askedCount_toUint32 _).2 hkept.offset⟩

end Node

/-! ## Python -/

namespace Python

open PyValue (extractString extractBool extractUsize asList asDict toValue readItem readList readCount)

/-- An object whose JSON value is what the client reads it as. -/
def KeepsValue (lib : PyLib) : PyValue → Prop
  | .none | .float _ => True
  | .str s => lib.parseJson s = none ∨ lib.parseJson s = some (.string s)
  | .int i => (-(2 ^ 63) ≤ i ∧ i < 2 ^ 63) ∨ lib.floatOfInt i = some (toString i)
  | .bool _ | .list _ | .dict _ => False

/-- Every aggregation is spelled out, every granularity is one, every filter's value is kept
and no count is negative. -/
structure Kept (lib : PyLib) (dict : List (String × PyValue)) : Prop where
  measures : ∀ obj, .dict obj ∈ getList dict "measures" → SpelledOut ((getString obj "aggregation").getD "sum")
  timeDimensions : ∀ obj, .dict obj ∈ getList dict "time_dimensions" →
    TimeGranularity.named ((getString obj "granularity").getD "day") ≠ none
  filters : ∀ obj, .dict obj ∈ getList dict "filters" → ∀ v, obj.lookup "value" = some v → KeepsValue lib v
  limit : ∀ i, dict.lookup "limit" = some (.int i) → 0 ≤ i
  offset : ∀ i, dict.lookup "offset" = some (.int i) → 0 ≤ i

variable {lib : PyLib}

theorem extractI64_int {i : Int} : (PyValue.int i).extractI64 = if -(2 ^ 63) ≤ i ∧ i < 2 ^ 63 then some i else none := by
  simp only [PyValue.extractI64, PyValue.extractInt, Option.filter, decide_eq_true_eq]

theorem extractPyValue_iff {v : PyValue} {value : Value} (h : v.toValue = some value) :
    value = extractPyValue lib v ↔ KeepsValue lib v := by
  cases v with
  | none =>
    obtain rfl := Option.some.inj h
    exact iff_of_true rfl trivial
  | bool b =>
    obtain rfl := Option.some.inj h
    refine iff_of_false (fun heq => ?_) not_false
    cases b <;> cases heq
  | int i =>
    obtain rfl := Option.some.inj h
    by_cases hrange : -(2 ^ 63) ≤ i ∧ i < 2 ^ 63
    · have hread : extractPyValue lib (.int i) = .number (toString i) := by
        unfold extractPyValue
        rw [extractI64_int, if_pos hrange]
        rfl
      exact iff_of_true hread.symm (.inl hrange)
    · have hread : extractPyValue lib (.int i) = ((lib.floatOfInt i).map .number).getD .null := by
        unfold extractPyValue
        rw [extractI64_int, if_neg hrange]
        simp only [PyValue.extractString, PyValue.extractF64, PyValue.extractInt, Option.bind_some]
        cases lib.floatOfInt i with
        | none => rfl
        | some text => rfl
      have hkeeps : KeepsValue lib (.int i) ↔ lib.floatOfInt i = some (toString i) := or_iff_right hrange
      rw [hread, hkeeps]
      cases lib.floatOfInt i with
      | none => simp
      | some text => simp [eq_comm]
  | float text =>
    obtain ⟨text, rfl, rfl⟩ := Option.map_eq_some_iff.1 h
    exact iff_of_true rfl trivial
  | str s =>
    obtain rfl := Option.some.inj h
    show Value.string s = (lib.parseJson s).getD (.string s) ↔ _
    cases hparse : lib.parseJson s with
    | none => simp [KeepsValue, hparse]
    | some parsed => simp [KeepsValue, hparse, eq_comm]
  | list items =>
    obtain ⟨values, -, rfl⟩ := Option.map_eq_some_iff.1 h
    exact iff_of_false (by rintro ⟨⟩) not_false
  | dict items =>
    obtain ⟨fields, -, rfl⟩ := Option.map_eq_some_iff.1 h
    exact iff_of_false (by rintro ⟨⟩) not_false

/-- An item that is read as one thing by two readers. -/
theorem bind_of_readItem {α : Type} {read convert : PyValue → Option α} (hnone : convert .none = none)
    (hsome : ∀ v x, read v = some x → convert v = some x) {v : Option PyValue} {o : Option α}
    (h : readItem read v = some o) : v.bind convert = o := by
  cases v with
  | none =>
    obtain rfl := Option.some.inj h
    rfl
  | some v =>
    cases v with
    | none =>
      obtain rfl := Option.some.inj h
      exact hnone
    | _ =>
      obtain ⟨x, hx, rfl⟩ := Option.map_eq_some_iff.1 h
      exact hsome _ _ hx

theorem getString_of_readItem {d : List (String × PyValue)} {key : String} {o : Option String}
    (h : readItem extractString (d.lookup key) = some o) : getString d key = o :=
  bind_of_readItem rfl (fun _ _ hx => hx) h

theorem getBool_of_readItem {d : List (String × PyValue)} {key : String} {o : Option Bool}
    (h : readItem extractBool (d.lookup key) = some o) : getBool d key = o :=
  bind_of_readItem rfl (fun _ _ hx => hx) h

theorem mapM_of_readList {α : Type} {read : PyValue → Option α} {d : List (String × PyValue)} {key : String} {xs : List α}
    (h : readList read (d.lookup key) = some xs) : (getList d key).mapM read = some xs := by
  unfold getList
  cases hv : d.lookup key with
  | none =>
    rw [hv] at h
    exact h
  | some v =>
    rw [hv] at h
    cases v with
    | none => exact h
    | list items => exact h
    | _ => cases h

/-- Where every entry that is read is a dict, all of them are. -/
theorem mapM_asDict {α : Type} {read : PyValue → Option α} {items : List PyValue} {xs : List α}
    (h : items.mapM read = some xs) (hdict : ∀ item x, read item = some x → ∃ obj, asDict item = some obj) :
    items.mapM asDict = some (items.filterMap asDict) :=
  Traverse.mapM_of_mapM h hdict

theorem mapM_dicts {α β : Type} {read : PyValue → Option α} {f : List (String × PyValue) → β} {items : List PyValue}
    {xs : List α} (h : items.mapM read = some xs) (hdict : ∀ item x, read item = some x → ∃ obj, asDict item = some obj) :
    items.mapM (fun item => (asDict item).bind fun obj => some (f obj)) = some ((items.filterMap asDict).map f) :=
  Traverse.mapM_bind (mapM_asDict h hdict) (Traverse.mapM_some f _)

theorem extractFormula_of_read {obj : List (String × PyValue)} {formula : Formula}
    (h : (obj.lookup "formula").bind readFormula = some formula) : extractFormula obj = formula := by
  obtain ⟨v, hv, hread⟩ := Option.bind_eq_some_iff.1 h
  unfold extractFormula
  rw [hv]
  cases v with
  | str s => exact Option.some.inj hread
  | dict fd =>
    obtain ⟨expression, hexpression, hread⟩ := Option.bind_eq_some_iff.1 hread
    obtain ⟨label, hlabel, hread⟩ := Option.bind_eq_some_iff.1 hread
    obtain ⟨format, hformat, hread⟩ := Option.bind_eq_some_iff.1 hread
    obtain rfl := Option.some.inj hread
    show Formula.mk _ _ _ = _
    rw [hexpression, getString_of_readItem hlabel, getString_of_readItem hformat]
    rfl
  | _ => cases hread

theorem readMeasure_iff {obj : List (String × PyValue)} {x : AskedMeasure} (h : readMeasure (.dict obj) = some x) :
    x.core = some (extractMeasure obj) ↔ SpelledOut ((getString obj "aggregation").getD "sum") := by
  obtain ⟨formula, hformula, h⟩ := Option.bind_eq_some_iff.1 h
  obtain ⟨w, hw, h⟩ := Option.bind_eq_some_iff.1 h
  obtain rfl := Option.some.inj h
  unfold extractMeasure
  rw [extractFormula_of_read hformula, hw]
  exact askedMeasure_iff

theorem extractDimension_of_read {item : PyValue} {dim : Dimension} (h : readDimension item = some dim) :
    extractDimensionFromObj item = some dim := by
  cases item with
  | str name => exact h
  | dict d =>
    obtain ⟨name, hname, h⟩ := Option.bind_eq_some_iff.1 h
    obtain ⟨label, hlabel, h⟩ := Option.bind_eq_some_iff.1 h
    obtain rfl := Option.some.inj h
    show some (Dimension.mk _ _) = _
    rw [hname, getString_of_readItem hlabel]
    rfl
  | _ => cases h

theorem readTimeDimension_iff {obj : List (String × PyValue)} {x : AskedTimeDimension}
    (h : readTimeDimension (.dict obj) = some x) : x.core = some (extractTimeDimension obj) ↔
      TimeGranularity.named ((getString obj "granularity").getD "day") ≠ none := by
  obtain ⟨dimension, hdimension, h⟩ := Option.bind_eq_some_iff.1 h
  obtain ⟨w, hw, h⟩ := Option.bind_eq_some_iff.1 h
  obtain ⟨label, hlabel, h⟩ := Option.bind_eq_some_iff.1 h
  obtain rfl := Option.some.inj h
  unfold extractTimeDimension
  rw [hdimension, hw, getString_of_readItem hlabel]
  exact askedTimeDimension_iff

theorem readFilter_iff {obj : List (String × PyValue)} {x : AskedFilter} {y : Filter} (h : readFilter (.dict obj) = some x)
    (hy : (extractFilter lib obj).toOption = some y) :
    x.core = some y ↔ ∀ v, obj.lookup "value" = some v → KeepsValue lib v := by
  obtain ⟨field, hfield, h⟩ := Option.bind_eq_some_iff.1 h
  obtain ⟨w, hw, h⟩ := Option.bind_eq_some_iff.1 h
  obtain ⟨value, hvalue, h⟩ := Option.bind_eq_some_iff.1 h
  obtain ⟨orCondition, hor, h⟩ := Option.bind_eq_some_iff.1 h
  obtain rfl := Option.some.inj h
  unfold extractFilter parseFilterOperator at hy
  rw [hw, Option.getD_some] at hy
  cases hop : FilterOperator.parseStrict w with
  | error e =>
    rw [hop] at hy
    cases hy
  | ok op =>
    rw [hop] at hy
    obtain rfl := Option.some.inj hy
    rw [hfield, getBool_of_readItem hor]
    refine (askedFilter_iff hop).trans ?_
    cases hlookup : obj.lookup "value" with
    | none =>
      rw [hlookup] at hvalue
      obtain rfl := Option.some.inj hvalue
      simp
    | some v =>
      rw [hlookup, Option.getD_some] at hvalue
      rw [Option.map_some, Option.getD_some, extractPyValue_iff hvalue]
      simp

theorem extractOrder_of_read {obj : List (String × PyValue)} {o : OrderBy} (h : readOrder (.dict obj) = some o) :
    extractOrder obj = o := by
  obtain ⟨field, hfield, h⟩ := Option.bind_eq_some_iff.1 h
  obtain ⟨descending, hdescending, h⟩ := Option.bind_eq_some_iff.1 h
  obtain rfl := Option.some.inj h
  unfold extractOrder
  rw [hfield, getBool_of_readItem hdescending]
  rfl

theorem extractSource_of_read {v : PyValue} {source : SourceSpec} (h : readSource v = some source) :
    (asDict v).map extractSource = some source := by
  cases v with
  | dict obj =>
    obtain ⟨model, hmodel, h⟩ := Option.bind_eq_some_iff.1 h
    obtain ⟨datasource, hdatasource, h⟩ := Option.bind_eq_some_iff.1 h
    obtain ⟨aliasName, halias, h⟩ := Option.bind_eq_some_iff.1 h
    obtain rfl := Option.some.inj h
    show some (SourceSpec.mk _ _ _) = _
    rw [hmodel, getString_of_readItem hdatasource, getString_of_readItem halias]
    rfl
  | _ => cases h

/-- A count is the one asked for where it is not negative. -/
theorem askedCount_read {v : Option PyValue} {o : Option Int} (h : readItem readCount v = some o) :
    askedCount o = some (v.bind extractUsize) ↔ ∀ i, v = some (.int i) → 0 ≤ i := by
  cases v with
  | none =>
    obtain rfl := Option.some.inj h
    exact iff_of_true rfl (by rintro _ ⟨⟩)
  | some v =>
    cases v with
    | none =>
      obtain rfl := Option.some.inj h
      exact iff_of_true rfl (by rintro _ ⟨⟩)
    | int i =>
      obtain ⟨n, hn, rfl⟩ := Option.map_eq_some_iff.1 h
      simp only [readCount] at hn
      split at hn
      · rename_i hlt
        obtain rfl := Option.some.inj hn
        rw [askedCount_eq_some]
        simp only [Option.some.injEq, forall_eq', PyValue.int.injEq]
        refine and_iff_left_of_imp fun hge => ?_
        have hrange : 0 ≤ i ∧ i < 2 ^ 64 := ⟨hge, hlt⟩
        simp only [Option.bind_some, extractUsize, PyValue.extractInt, Option.filter, decide_eq_true_eq, if_pos hrange]
      · cases hn
    | _ => cases h

/-- The entries of a list that are dicts. -/
theorem exists_dict {α : Type} {read : PyValue → Option α} (hother : ∀ v, asDict v = none → read v = none) (item : PyValue)
    (x : α) (h : read item = some x) : ∃ obj, asDict item = some obj := by
  cases hdict : asDict item with
  | none =>
    rw [hother item hdict] at h
    cases h
  | some obj => exact ⟨obj, rfl⟩

theorem eq_dict {v : PyValue} {obj : List (String × PyValue)} (h : asDict v = some obj) : v = .dict obj := by
  cases v with
  | dict items => rw [Option.some.inj h]
  | _ => cases h

/-- Where a dict's entries are read, so is what the client makes of those that are dicts. -/
theorem mapM_core_dicts {α β : Type} {read : PyValue → Option α} {core : α → Option β} {f : List (String × PyValue) → β}
    {P : List (String × PyValue) → Prop} {items : List PyValue} {xs : List α}
    (h : items.mapM read = some xs) (hother : ∀ v, asDict v = none → read v = none)
    (hitem : ∀ obj x, read (.dict obj) = some x → (core x = some (f obj) ↔ P obj)) :
    xs.mapM core = some ((items.filterMap asDict).map f) ↔ ∀ obj, .dict obj ∈ items → P obj := by
  rw [Traverse.mapM_iff (P := fun item => ∀ obj, item = .dict obj → P obj) h (mapM_dicts h (exists_dict hother))
    fun item _ x y hx hy => ?_]
  · exact ⟨fun hall obj hobj => hall _ hobj obj rfl, fun hall item hmem obj hobj => hall obj (hobj ▸ hmem)⟩
  · obtain ⟨obj, hobj, hy⟩ := Option.bind_eq_some_iff.1 hy
    obtain rfl := Option.some.inj hy
    obtain rfl := eq_dict hobj
    rw [hitem obj x hx]
    exact ⟨fun hP obj' hobj' => PyValue.dict.inj hobj' ▸ hP, fun hall => hall obj rfl⟩

section

variable {items : List PyValue}

theorem measures_iff {xs : List AskedMeasure} (h : items.mapM readMeasure = some xs) :
    xs.mapM AskedMeasure.core = some ((items.filterMap asDict).map extractMeasure) ↔
      ∀ obj, .dict obj ∈ items → SpelledOut ((getString obj "aggregation").getD "sum") := by
  refine mapM_core_dicts h (fun v hv => ?_) fun obj x hx => readMeasure_iff hx
  cases v <;> first | rfl | cases hv

theorem dimensions_eq {dims : List Dimension} (h : items.mapM readDimension = some dims) :
    items.filterMap extractDimensionFromObj = dims := by
  rw [Traverse.mapM_eq_some] at h
  exact Traverse.filterMap_of_mapM (Traverse.mapM_eq_some.2 (h.imp fun item dim hdim => extractDimension_of_read hdim))

theorem timeDimensions_iff {xs : List AskedTimeDimension} (h : items.mapM readTimeDimension = some xs) :
    xs.mapM AskedTimeDimension.core = some ((items.filterMap asDict).map extractTimeDimension) ↔
      ∀ obj, .dict obj ∈ items → TimeGranularity.named ((getString obj "granularity").getD "day") ≠ none := by
  refine mapM_core_dicts h (fun v hv => ?_) fun obj x hx => readTimeDimension_iff hx
  cases v <;> first | rfl | cases hv

theorem filters_iff {xs : List AskedFilter} {converted : List Filter} (h : items.mapM readFilter = some xs)
    (hconverted : (items.filterMap asDict).mapM (extractFilter lib) = .ok converted) :
    xs.mapM AskedFilter.core = some converted ↔
      ∀ obj, .dict obj ∈ items → ∀ v, obj.lookup "value" = some v → KeepsValue lib v := by
  have hother : ∀ v, asDict v = none → readFilter v = none := by
    intro v hv
    cases v <;> first | rfl | cases hv
  have hreads := Traverse.mapM_bind (mapM_asDict h (exists_dict hother)) (Traverse.mapM_toOption.1 hconverted)
  rw [Traverse.mapM_iff (P := fun item => ∀ obj, item = .dict obj → ∀ v, obj.lookup "value" = some v → KeepsValue lib v)
    h hreads fun item _ x y hx hy => ?_]
  · exact ⟨fun hall obj hobj => hall _ hobj obj rfl, fun hall item hmem obj hobj => hall obj (hobj ▸ hmem)⟩
  · obtain ⟨obj, hobj, hfilter⟩ := Option.bind_eq_some_iff.1 hy
    obtain rfl := eq_dict hobj
    rw [readFilter_iff hx hfilter]
    exact ⟨fun hP obj' hobj' => PyValue.dict.inj hobj' ▸ hP, fun hall => hall obj rfl⟩

theorem order_eq {order : List OrderBy} (h : items.mapM readOrder = some order) :
    (items.filterMap asDict).map extractOrder = order := by
  have hother : ∀ v, asDict v = none → readOrder v = none := by
    intro v hv
    cases v <;> first | rfl | cases hv
  have hsame : order.mapM some = some ((items.filterMap asDict).map extractOrder) :=
    (mapM_core_dicts (P := fun _ => True) h hother fun obj x hx =>
      iff_true_intro (congrArg some (extractOrder_of_read hx).symm)).2 fun _ _ => trivial
  rw [Traverse.mapM_some (fun x => x), List.map_id'] at hsame
  exact (Option.some.inj hsame).symm

end

/-- What the client makes of a dict whose filters it takes. -/
def coreOf (dict : List (String × PyValue)) (filters : List Filter) : Query where
  name := getString dict "name"
  sourceModel := ((dict.lookup "source_model").bind asDict).map extractSource
  measures := ((getList dict "measures").filterMap asDict).map extractMeasure
  dimensions := (getList dict "dimensions").filterMap extractDimensionFromObj
  timeDimensions := ((getList dict "time_dimensions").filterMap asDict).map extractTimeDimension
  filters
  order := ((getList dict "order").filterMap asDict).map extractOrder
  limit := (dict.lookup "limit").bind extractUsize
  offset := (dict.lookup "offset").bind extractUsize
  wholePeriodsOnly := getBool dict "whole_periods_only"
  distinctDimensionValues := getBool dict "distinct_dimension_values"

theorem dictToQuery_eq_ok {dict : List (String × PyValue)} {q : Query} (h : dictToQuery lib dict = .ok q) :
    ∃ filters, ((getList dict "filters").filterMap asDict).mapM (extractFilter lib) = .ok filters ∧ q = coreOf dict filters := by
  unfold dictToQuery at h
  cases hfilters : ((getList dict "filters").filterMap asDict).mapM (extractFilter lib) with
  | error e =>
    rw [hfilters] at h
    cases h
  | ok filters =>
    rw [hfilters] at h
    exact ⟨filters, rfl, (Except.ok.inj h).symm⟩

/-- A dict is taken where its operators are known. -/
theorem exists_dictToQuery_iff {dict : List (String × PyValue)} : (∃ q, dictToQuery lib dict = .ok q) ↔
    ∀ obj, .dict obj ∈ getList dict "filters" → readOperator ((getString obj "operator").getD "eq") ≠ none := by
  have hread : ∀ obj, (extractFilter lib obj).toOption ≠ none ↔ readOperator ((getString obj "operator").getD "eq") ≠ none := by
    intro obj
    unfold extractFilter parseFilterOperator readOperator
    cases FilterOperator.parseStrict ((getString obj "operator").getD "eq") with
    | error e => simp [bind, Except.bind, Except.toOption]
    | ok op => simp [bind, Except.bind, Except.toOption, pure, Except.pure]
  have hmem : ∀ obj, obj ∈ (getList dict "filters").filterMap asDict ↔ .dict obj ∈ getList dict "filters" := by
    intro obj
    rw [List.mem_filterMap]
    constructor
    · rintro ⟨v, hv, hobj⟩
      exact eq_dict hobj ▸ hv
    · exact fun h => ⟨_, h, rfl⟩
  rw [← forall₂_congr fun obj _ => hread obj, ← forall_congr' fun obj => imp_congr_left (hmem obj),
    ← Traverse.exists_mapM_iff]
  unfold dictToQuery
  cases hfilters : ((getList dict "filters").filterMap asDict).mapM (extractFilter lib) with
  | error e =>
    refine iff_of_false (by rintro ⟨_, ⟨⟩⟩) ?_
    rintro ⟨filters, hsome⟩
    rw [Traverse.mapM_toOption.2 hsome] at hfilters
    cases hfilters
  | ok filters => exact iff_of_true ⟨_, rfl⟩ ⟨filters, Traverse.mapM_toOption.1 hfilters⟩

theorem core_iff {dict : List (String × PyValue)} {a : Asked} {q : Query} (hasked : asked dict = some a)
    (hq : dictToQuery lib dict = .ok q) : a.core = some q ↔ Kept lib dict := by
  obtain ⟨converted, hconverted, rfl⟩ := dictToQuery_eq_ok hq
  unfold asked at hasked
  simp only [Option.bind_eq_bind, Option.bind_eq_some_iff] at hasked
  obtain ⟨name, hname, source, hsource, measures, hmeasures, dimensions, hdimensions, times, htimes, filters, hfilters,
    order, horder, limit, hlimit, offset, hoffset, whole, hwhole, distinct, hdistinct, ha⟩ := hasked
  obtain rfl := Option.some.inj ha
  have hm := measures_iff (mapM_of_readList hmeasures)
  have ht := timeDimensions_iff (mapM_of_readList htimes)
  have hf := filters_iff (mapM_of_readList hfilters) hconverted
  have hs : ((dict.lookup "source_model").bind asDict).map extractSource = source := by
    rw [Option.map_bind]
    exact bind_of_readItem rfl (fun v x hx => extractSource_of_read hx) hsource
  rw [Asked.core_eq_some]
  constructor
  · rintro ⟨-, hmeasures', htimes', hfilters', hlimit', hoffset'⟩
    exact ⟨hm.1 hmeasures', ht.1 htimes', hf.1 hfilters', (askedCount_read hlimit).1 hlimit', (askedCount_read hoffset).1 hoffset'⟩
  · intro hkept
    refine ⟨⟨getString_of_readItem hname, hs, dimensions_eq (mapM_of_readList hdimensions),
      order_eq (mapM_of_readList horder), getBool_of_readItem hwhole, getBool_of_readItem hdistinct, rfl⟩, ?_⟩
    exact ⟨hm.2 hkept.measures, ht.2 hkept.timeDimensions, hf.2 hkept.filters, (askedCount_read hlimit).2 hkept.limit,
      (askedCount_read hoffset).2 hkept.offset⟩

end Python

/-! ## The four surfaces -/

inductive Kind where
  | rest | graphQl | node | python
deriving DecidableEq, Repr

namespace Kind

/-- What a surface takes. -/
def Input : Kind → Type
  | rest => RestQueryInput
  | graphQl => GraphQl.QueryInput
  | node => Node.QueryInput
  | python => List (String × PyValue)

variable (lib : PyLib)

/-- The question an input puts, if it is one. -/
def asked : (s : Kind) → s.Input → Option Asked
  | rest, v => some (RestQueryInput.asked v)
  | graphQl, v => some (GraphQl.QueryInput.asked v)
  | node, input => Node.asked lib.parseJson input
  | python, dict => Python.asked dict

/-- The core query a surface converts an input to, unless it refuses it. -/
def convert : (s : Kind) → s.Input → Option Query
  | rest, v => (RestQueryInput.convertQuery v).toOption
  | graphQl, v => some (GraphQl.QueryInput.toCore v)
  | node, input => (Node.convertQuery lib.parseJson input).toOption
  | python, dict => (Python.dictToQuery lib dict).toOption

/-- The condition under which a surface takes an input for what it asks. -/
def Kept : (s : Kind) → s.Input → Prop
  | rest, v => RestQueryInput.Kept v
  | graphQl, v => GraphQl.QueryInput.Kept v
  | node, input => Node.Kept lib.parseJson input
  | python, dict => Python.Kept lib dict

/-- No operator, and on REST no aggregation, is one that a surface does not know. -/
def Known : (s : Kind) → s.Input → Prop
  | rest, v => RestQueryInput.rejectBadInput v = .ok ()
  | graphQl, _ => True
  | node, input => ∀ f ∈ (show Node.QueryInput from input).filters, readOperator f.operator ≠ none
  | python, dict => ∀ obj, .dict obj ∈ Python.getList dict "filters" →
      readOperator ((Python.getString obj "operator").getD "eq") ≠ none

variable {lib} {s : Kind} {i : s.Input} {a : Asked}

theorem exists_convert_iff : (∃ q, s.convert lib i = some q) ↔ s.Known i := by
  have hok : ∀ {r : Except String Query}, (∃ q, r.toOption = some q) ↔ ∃ q, r = .ok q := by
    rintro (e | q) <;> simp [Except.toOption]
  cases s with
  | rest =>
    refine hok.trans ⟨?_, fun h => ⟨_, RestQueryInput.convertQuery_eq_ok.2 ⟨h, rfl⟩⟩⟩
    rintro ⟨q, hq⟩
    exact (RestQueryInput.convertQuery_eq_ok.1 hq).1
  | graphQl => exact iff_of_true ⟨_, rfl⟩ trivial
  | node => exact hok.trans Node.exists_convertQuery_iff
  | python => exact hok.trans Python.exists_dictToQuery_iff

theorem core_iff (hasked : s.asked lib i = some a) {q : Query} (hq : s.convert lib i = some q) :
    a.core = some q ↔ s.Kept lib i := by
  have hok : ∀ {r : Except String Query}, r.toOption = some q → r = .ok q := by
    rintro (e | q) h <;> simp_all [Except.toOption]
  cases s with
  | rest =>
    obtain rfl := Option.some.inj hasked
    obtain ⟨haccepted, rfl⟩ := RestQueryInput.convertQuery_eq_ok.1 (hok hq)
    exact RestQueryInput.core_iff haccepted
  | graphQl =>
    obtain rfl := Option.some.inj hasked
    obtain rfl := Option.some.inj hq
    exact GraphQl.QueryInput.core_iff _
  | node => exact Node.core_iff hasked (hok hq)
  | python => exact Python.core_iff hasked (hok hq)

end Kind

/-- Every surface that accepts a question converts it to the core query that is asked for, with
its absent labels, its filter values and its counts, and none where a word means nothing or a
count is negative; so any two convert it to the same. -/
structure Agree (lib : PyLib) (a : Asked) : Prop where
  same : ∀ (s t : Kind) (i : s.Input) (j : t.Input) (q r : Query), s.asked lib i = some a → t.asked lib j = some a →
    s.convert lib i = some q → t.convert lib j = some r → q = r
  asAsked : ∀ (s : Kind) (i : s.Input) (q : Query), s.asked lib i = some a → s.convert lib i = some q → a.core = some q

namespace Unlabelled

/-- A sum without a label, asked on REST and on GraphQL. -/
def rest : RestQueryInput := { name := some "orders", measures := some [{ formula := "revenue", aggregation := "sum" }] }

def graphQl : GraphQl.QueryInput := { name := some "orders", measures := some [{ formula := "revenue", aggregation := .sum }] }

end Unlabelled

end Surface

end GraphNight
