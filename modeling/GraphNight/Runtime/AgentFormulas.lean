import GraphNight.Lib.Affix
import GraphNight.Runtime.FilterValues
import GraphNight.Runtime.SelectedItems
import GraphNight.Sql.FormulaText
import GraphNight.Sql.ImportedFields

/-!
# Measures an agent writes and the formulas behind them

An agent's measure is split at its last colon, a formula taken apart by the parser of formulas. Both
know the shorthand, but the agent's parser wants an aggregation behind the last colon and so refuses
each formula function the server advertises; and of the columns it takes, the parser of formulas
knows only the runs of word characters.
-/

namespace GraphNight

open SqlText SqlGenerator

/-- `aggregations` of `get_capabilities`. -/
def advertisedAggregations : List String := ["sum", "avg", "count", "min", "max", "count_distinct"]

/-- `time_granularities` of `get_capabilities`. -/
def advertisedGranularities : List String := ["second", "minute", "hour", "day", "week", "month", "quarter", "year"]

/-- The measures `get_capabilities` tells an agent of: `measure_shorthand` and `formula_functions`. -/
inductive AgentFormula where
  | rows
  | shorthand (column aggregation : String)
  | timeShift (measure : AgentFormula) (offset : Int) (granularity : String)
  | ratio (numerator denominator : AgentFormula)
  | pctChange (measure : AgentFormula)
  | runningTotal (measure : AgentFormula)

namespace AgentFormula

/-- A formula as it is written, after the advertised patterns. -/
def text : AgentFormula → String
  | rows => "*"
  | shorthand column aggregation => column ++ ":" ++ aggregation
  | timeShift measure offset granularity => "time_shift(" ++ measure.text ++ ", " ++ toString offset ++ ", '" ++ granularity ++ "')"
  | ratio numerator denominator => "ratio(" ++ numerator.text ++ ", " ++ denominator.text ++ ")"
  | pctChange measure => "pct_change(" ++ measure.text ++ ")"
  | runningTotal measure => "running_total(" ++ measure.text ++ ")"

/-- Columns are without the punctuation of formulas, and aggregations and granularities are advertised. -/
def Advertised : AgentFormula → Prop
  | rows => True
  | shorthand column aggregation => WrittenColumn column ∧ aggregation ∈ advertisedAggregations
  | timeShift measure _ granularity => measure.Advertised ∧ granularity ∈ advertisedGranularities
  | ratio numerator denominator => numerator.Advertised ∧ denominator.Advertised
  | pctChange measure => measure.Advertised
  | runningTotal measure => measure.Advertised

end AgentFormula

/-- A run of word characters and `*`, with whitespace before it at most. -/
structure PlainColumn (fp : FormulaParser) (column : String) : Prop where
  ne_blank : Str.trim column ≠ ""
  last : ∀ c ∈ column.toList.getLast?, Str.isWhitespace c = false
  words : ∀ c ∈ (Str.trim column).toList, fp.isWord c = true ∨ c = '*'

/-- The formulas that both parsers read alike. -/
def AgentFormula.Plain (fp : FormulaParser) : AgentFormula → Prop
  | rows => True
  | shorthand column _ => PlainColumn fp column
  | timeShift .. | ratio .. | pctChange _ | runningTotal _ => False

/-- The measure of a text in the core query. A formula brings its own aggregation. -/
def Measure.direct (text : String) : Measure := ⟨{ expression := text }, .count⟩

/-- An agent's query for a measure is accepted, and compiled as the text is where it is the formula itself. -/
def AgentAgrees (std : RustStd) (fp : FormulaParser) (text : String) : Prop :=
  ∀ model, Str.trim model ≠ "" → ∃ query measure, Suggest.toCoreQuery std { name := some model, measures := [text] } = .ok query ∧
    query.measures = [measure] ∧ ∀ g : SqlGenerator, g.formulaParser = fp → ∀ sourceAlias base,
      g.buildMeasureExpression sourceAlias base measure = g.buildMeasureExpression sourceAlias base (.direct text)

/-! ## The agent's parser -/

namespace Suggest

variable {std : RustStd} {text column aggregation : String} {measure : Measure}

/-- A query for one measure. -/
theorem toCoreQuery_measure {model : String} (hmodel : Str.trim model ≠ "") (h : parseMeasure std text = .ok measure) :
    toCoreQuery std { name := some model, measures := [text] } = .ok { name := some model, measures := [measure] } := by
  have hname : (some model).filter (fun n => Str.trim n ≠ "") = some model := by simp [Option.filter, hmodel]
  unfold toCoreQuery
  rw [hname]
  simp [h, bind, Except.bind, pure, Except.pure, Res.ofOption]

theorem parseMeasure_of_toCoreQuery {model : String} {query : Query} (h : toCoreQuery std { name := some model, measures := [text] } = .ok query) :
    ∃ measure, parseMeasure std text = .ok measure ∧ query.measures = [measure] := by
  obtain ⟨hmeasures, -⟩ := toCoreQuery_eq_ok h
  dsimp only at hmeasures
  rw [List.mapM_cons] at hmeasures
  obtain ⟨measure, hmeasure, hrest⟩ := Res.bind_eq_ok.1 hmeasures
  exact ⟨measure, hmeasure, (Except.ok.inj hrest).symm⟩

/-- What stands at the end of a text that ends in no whitespace stands there after `trim`. -/
theorem exists_trim_closed (front : String) : ∃ more, Str.trim (front ++ ")") = more ++ ")" := by
  have hclose : Str.isWhitespace ')' = false := by decide
  by_cases hblank : Str.Blank front.toList
  · refine ⟨"", String.toList_injective ?_⟩
    have hdrop : (front ++ ")").toList.dropWhile Str.isWhitespace = [')'] := by
      rw [String.toList_append, List.dropWhile_append_of_pos hblank]
      rfl
    rw [Str.trim, hdrop]
    rfl
  · simp only [Str.Blank, not_forall, Bool.not_eq_true, exists_prop] at hblank
    obtain ⟨more, -, hmore⟩ := @Str.trim_append front ")" hblank ⟨')', by decide, hclose⟩
    exact ⟨more, hmore⟩

/-- **No measure ends in a bracket**: what stands behind its last colon is a word. -/
theorem parseMeasure_closed (front : String) : parseMeasure std (front ++ ")") ≠ .ok measure := by
  intro h
  obtain ⟨more, hmore⟩ := exists_trim_closed front
  unfold parseMeasure at h
  dsimp only at h
  rw [hmore] at h
  split_ifs at h with hempty hstar
  · exact absurd h Res.fail_ne_ok
  · have hlast := congrArg (·.toList.getLast?) hstar
    simp at hlast
  split at h
  · exact absurd h Res.fail_ne_ok
  rename_i expression word hsplit
  split_ifs at h with hblank
  · exact absurd h Res.fail_ne_ok
  have hbracket : ')' ∈ (Str.toAsciiLowercase (Str.trim word)).toList := by
    obtain ⟨⟨before, after⟩, hlast, hpair⟩ := Option.map_eq_some_iff.1 hsplit
    obtain ⟨-, rfl⟩ := Prod.mk.inj hpair
    obtain ⟨htext, -⟩ := Str.splitLast_eq_some.1 hlast
    have hend : (before ++ ':' :: after).getLast? = some ')' := by
      rw [← htext]
      simp
    have hmem : ')' ∈ after := by
      cases after with
      | nil => simp at hend
      | cons c after => exact List.mem_of_getLast? (by simpa using hend)
    rw [Str.toAsciiLowercase, String.toList_ofList]
    exact List.mem_map.2 ⟨')', (Str.mem_trim (by decide)).2 (by simpa using hmem), rfl⟩
  split at h
  all_goals first
    | exact absurd h Res.fail_ne_ok
    | (rename_i hname; rw [hname] at hbracket; exact absurd hbracket (by decide))

theorem not_agentAgrees_closed {fp : FormulaParser} (front : String) : ¬AgentAgrees std fp (front ++ ")") := by
  intro h
  obtain ⟨query, measure, hquery, -, -⟩ := h "orders" (by decide)
  obtain ⟨measure, hmeasure, -⟩ := parseMeasure_of_toCoreQuery hquery
  exact parseMeasure_closed front hmeasure

/-- What is left of a column where the text is trimmed around it. -/
def led (column : String) : String := String.ofList (column.toList.dropWhile Str.isWhitespace)

theorem trim_led (column : String) : Str.trim (led column) = Str.trim column := trim_dropWhile column

theorem aggregation_plain (hagg : aggregation ∈ advertisedAggregations) : aggregation ≠ "" ∧ ':' ∉ aggregation.toList ∧ '(' ∉ aggregation.toList ∧
    Str.trim aggregation = aggregation ∧ ∀ c ∈ aggregation.toList, (Str.isAsciiAlphanumeric c || c == '_') = true := by
  have hall : (advertisedAggregations.all fun name => name != "" && !name.toList.contains ':' && !name.toList.contains '(' &&
      Str.trim name == name && name.toList.all fun c => Str.isAsciiAlphanumeric c || c == '_') = true := by decide +kernel
  have hname := List.all_eq_true.1 hall aggregation hagg
  simpa [and_assoc] using hname

theorem isWordPart_of_aggregation {c : Char} (h : (Str.isAsciiAlphanumeric c || c == '_') = true) : isWordPart c = true := by
  unfold isWordPart
  rw [h]
  rfl

/-- Around a colon with a word behind it, only what stands before the column is trimmed. -/
theorem trim_colon {word : String} (hlast : ∃ c ∈ word.toList.getLast?, Str.isWhitespace c = false) :
    Str.trim (column ++ ":" ++ word) = led column ++ ":" ++ word := by
  obtain ⟨c, hc, hspace⟩ := hlast
  obtain ⟨front, hfront⟩ := List.getLast?_eq_some_iff.1 hc
  have hdrop : (column ++ ":" ++ word).toList.dropWhile Str.isWhitespace = (led column ++ ":" ++ word).toList := by
    have hrest : (':' :: word.toList).dropWhile Str.isWhitespace = ':' :: word.toList := List.dropWhile_cons_of_neg (by decide)
    simp only [led, String.toList_append, String.toList_ofList, List.append_assoc]
    rw [List.dropWhile_append]
    split_ifs with hnil
    · rw [List.isEmpty_iff.1 hnil]
      exact hrest
    · rfl
  have hkeep : (led column ++ ":" ++ word).toList.rdropWhile Str.isWhitespace = (led column ++ ":" ++ word).toList := by
    rw [List.rdropWhile_eq_self_iff]
    intro hnil
    simp [hfront, hspace]
  rw [Str.trim, hdrop, hkeep, String.ofList_toList]

theorem trim_shorthand (hagg : aggregation ∈ advertisedAggregations) : Str.trim (column ++ ":" ++ aggregation) = led column ++ ":" ++ aggregation := by
  obtain ⟨hne, -, -, -, hwords⟩ := aggregation_plain hagg
  obtain ⟨front, c, hfront⟩ := List.eq_nil_or_concat aggregation.toList |>.resolve_left (by simpa using hne)
  exact trim_colon ⟨c, by simp [hfront], not_isWhitespace_of_isWordPart (isWordPart_of_aggregation (hwords c (by simp [hfront])))⟩

/-- **The shorthand is taken** where there is a column. -/
theorem parseMeasure_shorthand (hagg : aggregation ∈ advertisedAggregations) :
    (Str.trim column = "" → ∀ measure, parseMeasure std (column ++ ":" ++ aggregation) ≠ .ok measure) ∧
      (Str.trim column ≠ "" → ∃ function label, FormulaParser.parseAggregation aggregation = .ok function ∧
        parseMeasure std (column ++ ":" ++ aggregation) = .ok ⟨{ expression := Str.trim column, label := some label }, function⟩) := by
  obtain ⟨-, hcolon, -, htrim, -⟩ := aggregation_plain hagg
  have hempty : led column ++ ":" ++ aggregation ≠ "" := fun h => by simpa using congrArg String.toList h
  have hstar : led column ++ ":" ++ aggregation ≠ "*" := by
    intro h
    have hmem : ':' ∈ (led column ++ ":" ++ aggregation).toList := by simp
    rw [h] at hmem
    exact absurd hmem (by decide)
  have hsplit : Str.rsplitOnce (led column ++ ":" ++ aggregation) ':' = some (led column, aggregation) := Str.rsplitOnce_append hcolon (led column)
  unfold parseMeasure
  dsimp only
  rw [trim_shorthand hagg, if_neg hempty, if_neg hstar, hsplit]
  dsimp only
  rw [trim_led, htrim]
  constructor
  · intro hblank
    rw [if_pos hblank]
    exact fun _ => Res.fail_ne_ok
  · intro hne
    rw [if_neg hne]
    simp only [advertisedAggregations, List.mem_cons, List.not_mem_nil, or_false] at hagg
    obtain rfl | rfl | rfl | rfl | rfl | rfl := hagg <;> exact ⟨_, _, rfl, rfl⟩

end Suggest

/-! ## The parser of formulas -/

namespace SqlGenerator

open Suggest

variable {g : SqlGenerator} {sourceAlias base column aggregation : String} {function : AggregationType}

/-- A column without brackets is aggregated as it is. -/
theorem buildMeasureExpression_of_column {measure : Measure} (hcolon : ':' ∉ measure.formula.expression.toList)
    (hbracket : '(' ∉ measure.formula.expression.toList) : g.buildMeasureExpression sourceAlias base measure =
      .ok (g.aggregateColumn sourceAlias base measure) := by
  have hneeds : FormulaParser.needsParse (Str.trim measure.formula.expression) = false :=
    FormulaParser.needsParse_eq_false (fun hc => hcolon (Str.mem_of_mem_trim (Str.mem_of_mem_trim hc)))
      fun hc => hbracket (Str.mem_of_mem_trim (Str.mem_of_mem_trim hc))
  unfold buildMeasureExpression
  dsimp only
  rw [hneeds, if_neg Bool.false_ne_true]
  unfold buildStandardAggregation
  rw [resolveExpression_of_no_call (parseFunctionCall_of_no_bracket hbracket)]
  rfl

/-- A shorthand without brackets is what the parser of formulas makes of it. -/
theorem buildMeasureExpression_of_shorthand {text : String} {measure : Measure} (hcolon : ':' ∈ (Str.trim text).toList)
    (hbracket : '(' ∉ (Str.trim text).toList) (hparse : g.formulaParser.parseMeasure (Str.trim text) = .ok measure)
    (hexpr : '(' ∉ measure.formula.expression.toList) :
    g.buildMeasureExpression sourceAlias base (.direct text) = .ok (g.aggregateColumn sourceAlias base measure) := by
  have hstarts : ∀ pre, '(' ∈ pre.toList → Str.startsWith (Str.trim text) pre = false := fun pre hpre => Str.startsWith_eq_false hpre hbracket
  have hneeds : FormulaParser.needsParse (Str.trim text) = true := by
    unfold FormulaParser.needsParse
    dsimp only
    rw [Str.trim_trim, if_neg (by rintro heq; rw [heq] at hcolon; exact absurd hcolon (by decide))]
    simp [Str.containsChar, hcolon]
  unfold buildMeasureExpression Measure.direct
  dsimp only
  rw [hneeds, hstarts "time_shift(" (by decide), hstarts "ratio(" (by decide), hstarts "pct_change(" (by decide),
    hstarts "running_total(" (by decide), hparse]
  simp only [if_true, Bool.false_eq_true, if_false, Res.mapErr, bind, Except.bind, buildStandardAggregation,
    resolveExpression_of_no_call (parseFunctionCall_of_no_bracket hexpr)]
  rfl

/-- **A shorthand is taken apart** where its column is a run of word characters, and is one column otherwise. -/
theorem buildMeasureExpression_direct (hcolumn : WrittenColumn column) (hagg : aggregation ∈ advertisedAggregations)
    (hfunction : FormulaParser.parseAggregation aggregation = .ok function) :
    (led column ≠ "" → (∀ c ∈ (led column).toList, g.formulaParser.isWord c = true ∨ c = '*') →
        g.buildMeasureExpression sourceAlias base (.direct (column ++ ":" ++ aggregation)) =
          .ok (aggregateText function (g.qualifyField base (led column) sourceAlias))) ∧
      (¬(∀ c ∈ (led column).toList, g.formulaParser.isWord c = true ∨ c = '*') →
        g.buildMeasureExpression sourceAlias base (.direct (column ++ ":" ++ aggregation)) =
          .ok (aggregateText .sum (g.qualifyField base (led column ++ ":" ++ aggregation) sourceAlias))) := by
  obtain ⟨hne, hnocolon, hnobracket, -, hwords⟩ := aggregation_plain hagg
  have htrim : Str.trim (led column ++ ":" ++ aggregation) = led column ++ ":" ++ aggregation := by
    rw [← trim_shorthand hagg, Str.trim_trim]
  have hempty : led column ++ ":" ++ aggregation ≠ "" := fun h => by simpa using congrArg String.toList h
  have hled : ∀ c ∈ (led column).toList, c ∈ column.toList := fun c hc =>
    (List.dropWhile_suffix _).mem (by simpa only [led, String.toList_ofList] using hc)
  have hbracket : '(' ∉ (led column).toList := fun hc => (hcolumn.plain _ (hled _ hc)).2.2.1 rfl
  have hcolon : ':' ∉ (led column).toList := fun hc => (hcolumn.plain _ (hled _ hc)).1 rfl
  have hopen : '(' ∉ (led column ++ ":" ++ aggregation).toList := by simp [hbracket, hnobracket]
  have haggWord : ∀ c ∈ aggregation.toList, g.formulaParser.isWord c = true := by
    intro c hc
    have hnat := toNat_of_isWordPart (isWordPart_of_aggregation (hwords c hc))
    rw [FormulaParser.isWord, if_pos (by omega)]
    exact hwords c hc
  have hparse := @FormulaParser.parseMeasure_of_no_bracket g.formulaParser _ htrim hempty hopen
  constructor
  · intro hledNe hword
    rw [FormulaParser.aggCaptures_eq_some.2 ⟨rfl, hledNe, hword, hne, haggWord⟩] at hparse
    simp only [hfunction, bind, Except.bind, pure, Except.pure] at hparse
    rw [← trim_shorthand hagg] at hparse
    exact buildMeasureExpression_of_shorthand (by rw [trim_shorthand hagg]; simp) (by rw [trim_shorthand hagg]; exact hopen) hparse hbracket
  · intro hno
    have hpair : ¬g.formulaParser.WordPair (led column ++ ":" ++ aggregation) := by
      rintro ⟨field, word, heq, -, hfield, -, hword⟩
      -- no run of word characters has a colon, so the pair is the column and its aggregation
      have hcolon' : ':' ∉ word.toList := fun hc => by
        have h := hword _ hc
        rw [FormulaParser.isWord_eq_false (by decide)] at h
        cases h
      have hsplit := Str.rsplitOnce_append hnocolon (led column)
      rw [show led column ++ String.singleton ':' ++ aggregation = field ++ String.singleton ':' ++ word from heq,
        Str.rsplitOnce_append hcolon' field] at hsplit
      rw [(Prod.mk.inj (Option.some.inj hsplit)).1] at hfield
      exact hno hfield
    rw [FormulaParser.aggCaptures_eq_none.2 hpair] at hparse
    rw [← trim_shorthand hagg] at hparse ⊢
    refine buildMeasureExpression_of_shorthand (by rw [trim_shorthand hagg]; simp) (by rw [trim_shorthand hagg]; exact hopen) hparse ?_
    rw [trim_shorthand hagg]
    exact hopen

/-- Where no model is known, a column goes by all of its text. -/
theorem mem_qualifyField_new {d : Dialect} {fp : FormulaParser} {field name : String} :
    Frag.ident name ∈ (SqlGenerator.new d fp).qualifyField base field sourceAlias ↔ field ≠ "*" ∧ name = field := by
  have hmodel : (SqlGenerator.new d fp).model base = none := rfl
  unfold qualifyField
  rw [hmodel]
  split_ifs with hstar
  · simp [code, hstar]
  · simp [qualified, code, raw, ident, hstar]

end SqlGenerator

/-! ## What both read alike -/

namespace Suggest

variable {std : RustStd} {fp : FormulaParser} {column aggregation : String}

theorem led_eq_trim (hne : Str.trim column ≠ "") : led column = Str.trim column ↔ ∀ c ∈ column.toList.getLast?, Str.isWhitespace c = false := by
  have hdrop : column.toList.dropWhile Str.isWhitespace ≠ [] := by
    intro hnil
    rw [Str.trim, hnil] at hne
    exact hne rfl
  have hlast : column.toList.getLast? = some ((column.toList.dropWhile Str.isWhitespace).getLast hdrop) := by
    rw [← List.getLast?_eq_some_getLast hdrop]
    conv_lhs => rw [← List.takeWhile_append_dropWhile (p := Str.isWhitespace) (l := column.toList)]
    rw [List.getLast?_append_of_ne_nil _ hdrop]
  rw [hlast, led, Str.trim, String.ofList_inj, eq_comm, List.rdropWhile_eq_self_iff]
  simp [hdrop]

/-- **The shorthand is read alike** exactly where its column is plain. -/
theorem agentAgrees_shorthand (hcolumn : WrittenColumn column) (hagg : aggregation ∈ advertisedAggregations) :
    AgentAgrees std fp (column ++ ":" ++ aggregation) ↔ PlainColumn fp column := by
  by_cases hblank : Str.trim column = ""
  · refine iff_of_false (fun h => ?_) fun h => h.ne_blank hblank
    obtain ⟨query, -, hquery, -⟩ := h "orders" (by decide)
    obtain ⟨measure, hmeasure, -⟩ := parseMeasure_of_toCoreQuery hquery
    exact (parseMeasure_shorthand hagg).1 hblank measure hmeasure
  obtain ⟨function, label, hfunction, hmeasure⟩ := (@parseMeasure_shorthand std column aggregation hagg).2 hblank
  have htrimmed (c : Char) (hc : c ∈ (Str.trim column).toList) := hcolumn.plain c (Str.mem_of_mem_trim hc)
  have hagent (g : SqlGenerator) (sourceAlias base : String) :
      g.buildMeasureExpression sourceAlias base ⟨{ expression := Str.trim column, label := some label }, function⟩ =
        .ok (aggregateText function (g.qualifyField base (Str.trim column) sourceAlias)) :=
    buildMeasureExpression_of_column (fun hc => (htrimmed _ hc).1 rfl) fun hc => (htrimmed _ hc).2.2.1 rfl
  constructor
  · intro h
    obtain ⟨query, measure, hquery, hmeasures, hsame⟩ := h "orders" (by decide)
    rw [toCoreQuery_measure (by decide) hmeasure] at hquery
    obtain rfl := Except.ok.inj hquery
    obtain rfl := List.singleton_inj.1 hmeasures
    -- a generator without models names what it was given
    have hsql := hsame (.new .postgres fp) rfl "orders" "orders"
    rw [hagent] at hsql
    obtain ⟨hpair, hwhole⟩ := @buildMeasureExpression_direct (.new .postgres fp) "orders" "orders" column aggregation function hcolumn hagg hfunction
    have hname {aggregation' : AggregationType} {field : String} (hfield : field ≠ "*")
        (heq : aggregateText function ((SqlGenerator.new .postgres fp).qualifyField "orders" (Str.trim column) "orders") =
          aggregateText aggregation' ((SqlGenerator.new .postgres fp).qualifyField "orders" field "orders")) : field = Str.trim column := by
      have hmem : Frag.ident field ∈ aggregateText aggregation' ((SqlGenerator.new .postgres fp).qualifyField "orders" field "orders") :=
        (mem_aggregateText (by simp) _ _).2 (mem_qualifyField_new.2 ⟨hfield, rfl⟩)
      rw [← heq, mem_aggregateText (by simp), mem_qualifyField_new] at hmem
      exact hmem.2
    by_cases hword : ∀ c ∈ (led column).toList, fp.isWord c = true ∨ c = '*'
    · have hled : led column ≠ "" := fun hled => hblank (by rw [← trim_led, hled, Str.trim_empty])
      have heq : led column = Str.trim column := by
        by_cases hstar : led column = "*"
        · rw [← trim_led, hstar]
          decide
        · rw [hpair hled hword] at hsql
          exact hname hstar (Except.ok.inj hsql)
      exact ⟨hblank, (led_eq_trim hblank).1 heq, heq ▸ hword⟩
    · rw [hwhole hword] at hsql
      have hstar : led column ++ ":" ++ aggregation ≠ "*" := by
        intro heq
        have hmem : ':' ∈ (led column ++ ":" ++ aggregation).toList := by simp
        rw [heq] at hmem
        exact absurd hmem (by decide)
      have heq := hname hstar (Except.ok.inj hsql)
      exact absurd rfl (htrimmed ':' (by rw [← heq]; simp)).1
  · intro hplain model hmodel
    refine ⟨_, _, toCoreQuery_measure hmodel hmeasure, rfl, fun g hg sourceAlias base => ?_⟩
    have heq := (led_eq_trim hblank).2 hplain.last
    subst hg
    rw [hagent, (buildMeasureExpression_direct hcolumn hagg hfunction).1 (heq ▸ hblank) (heq ▸ hplain.words), heq]

/-- **The agent's measures are those of the formulas** exactly for the row count and for shorthands of plain
columns. -/
theorem agent_reads_formula_iff (std : RustStd) (fp : FormulaParser) (formula : AgentFormula) (h : formula.Advertised) :
    AgentAgrees std fp formula.text ↔ formula.Plain fp := by
  cases formula with
  | rows =>
    refine iff_of_true (fun model hmodel => ?_) trivial
    refine ⟨_, _, toCoreQuery_measure hmodel rfl, rfl, fun g hg sourceAlias base => ?_⟩
    rfl
  | shorthand column aggregation => exact agentAgrees_shorthand h.1 h.2
  | timeShift measure offset granularity =>
    have hclose : "')" = "'" ++ ")" := by decide
    have htext : (AgentFormula.timeShift measure offset granularity).text =
        "time_shift(" ++ measure.text ++ ", " ++ toString offset ++ ", '" ++ granularity ++ "')" := rfl
    rw [hclose, ← String.append_assoc] at htext
    exact iff_of_false (htext ▸ not_agentAgrees_closed _) id
  | ratio numerator denominator => exact iff_of_false (not_agentAgrees_closed _) id
  | pctChange measure => exact iff_of_false (not_agentAgrees_closed _) id
  | runningTotal measure => exact iff_of_false (not_agentAgrees_closed _) id

theorem writtenColumn_of_all {text : String} (hne : text ≠ "")
    (h : (text.toList.all fun c => c != ':' && c != ',' && c != '(' && c != ')') = true) : WrittenColumn text :=
  ⟨hne, fun c hc => by simpa [and_assoc] using List.all_eq_true.1 h c hc⟩

theorem agent_reads_revenue : AgentAgrees digitFloats ordersGenerator.formulaParser (AgentFormula.shorthand "revenue" "sum").text ↔
    (AgentFormula.shorthand "revenue" "sum").Plain ordersGenerator.formulaParser :=
  agent_reads_formula_iff digitFloats ordersGenerator.formulaParser (.shorthand "revenue" "sum")
    ⟨writtenColumn_of_all (by decide) (by decide), by decide⟩

/-- A change in percent is refused from an agent, and compiled where it comes in the core query; the sum of a dotted
column is that of the column from an agent, and otherwise that of a column named like the formula. -/
theorem agent_formulas_differ :
    ((AgentFormula.pctChange (.shorthand "revenue" "sum")).text = "pct_change(revenue:sum)" ∧
        ¬AgentAgrees digitFloats ordersGenerator.formulaParser "pct_change(revenue:sum)" ∧
        (ordersGenerator.buildMeasureExpression "orders" "orders" (.direct "pct_change(revenue:sum)")).isOk = true) ∧
      (AgentFormula.shorthand "customers.amount" "sum").text = "customers.amount:sum" ∧
        ¬AgentAgrees digitFloats ordersGenerator.formulaParser "customers.amount:sum" := by
  refine ⟨⟨by decide, ?_, by decide +kernel⟩, by decide, ?_⟩
  · exact not_agentAgrees_closed "pct_change(revenue:sum"
  · have hcolumn : WrittenColumn "customers.amount" := writtenColumn_of_all (by decide) (by decide)
    intro h
    have hplain := (@agentAgrees_shorthand digitFloats ordersGenerator.formulaParser "customers.amount" "sum" hcolumn (by decide)).1 h
    obtain hword | hstar := hplain.words '.' (by decide +kernel)
    · rw [FormulaParser.isWord_eq_false (by decide)] at hword
      cases hword
    · cases hstar

end Suggest

end GraphNight
