import GraphNight.Core.FormulaTexts
import GraphNight.Sql.CallText

/-!
# What becomes of a formula

A formula is an aggregation of an expression, or a function of one or two of those, and an
expression a column or a call. The parser knows only columns of word characters: what it does not
take apart becomes the sum of a column that is named like the whole formula, and what stands around
a ratio is dropped.
-/

namespace GraphNight

open SqlText

namespace SqlGenerator

/-! ## Formulas and their SQL -/

section

variable (g : SqlGenerator) (sourceAlias base : String)

/-- The SQL of a column or a call. -/
inductive ExpressionSql : String → SqlText → Prop where
  | column {text : String} (htext : WrittenColumn text) : ExpressionSql text (g.qualifyField base text sourceAlias)
  | call {text : String} {call : FunctionCall} (htext : IsCall text call) : ExpressionSql text
      ([.func call.name] ++ code "(" ++ join ", " (call.args.map (g.functionArgText sourceAlias base)) ++ code ")")

/-- The SQL of one aggregation: the one that is written, or a sum where none is. -/
inductive TermSql : String → SqlText → Prop where
  | written {expr agg : String} {sql : SqlText} {aggregation : AggregationType} (hexpr : ExpressionSql g sourceAlias base expr sql)
      (hagg : FormulaParser.parseAggregation agg = .ok aggregation) : TermSql (expr ++ ":" ++ agg) (aggregateText aggregation sql)
  | bare {expr : String} {sql : SqlText} (hexpr : ExpressionSql g sourceAlias base expr sql) : TermSql expr (aggregateText .sum sql)

end

def ratioText (num denom : SqlText) : SqlText := code "(" ++ num ++ code " / NULLIF(" ++ denom ++ code ", 0))"

def pctChangeText (sourceAlias : String) (current : SqlText) : SqlText :=
  let lag := code "LAG(" ++ current ++ code ") OVER (ORDER BY " ++ raw sourceAlias ++ code ")"
  code "((" ++ current ++ code " - " ++ lag ++ code ") / NULLIF(" ++ lag ++ code ", 0)) * 100"

def runningTotalText (sourceAlias : String) (inner : SqlText) : SqlText :=
  code "SUM(" ++ inner ++ code ") OVER (ORDER BY " ++ raw sourceAlias ++ code " ROWS UNBOUNDED PRECEDING)"

/-- The SQL of a formula: what it aggregates, how, and all of it. -/
inductive FormulaSql (g : SqlGenerator) (sourceAlias base : String) : String → SqlText → Prop where
  | shorthand {expr agg : String} {sql : SqlText} {aggregation : AggregationType} (hexpr : ExpressionSql g sourceAlias base expr sql)
      (hagg : FormulaParser.parseAggregation agg = .ok aggregation) :
      FormulaSql g sourceAlias base (expr ++ ":" ++ agg) (aggregateText aggregation sql)
  | ratio {num denom : String} {numSql denomSql : SqlText} (hnum : TermSql g sourceAlias base (Str.trim num) numSql)
      (hdenom : TermSql g sourceAlias base (Str.trim denom) denomSql) :
      FormulaSql g sourceAlias base ("ratio(" ++ num ++ "," ++ denom ++ ")") (ratioText numSql denomSql)
  | pctChange {inner : String} {sql : SqlText} (hinner : TermSql g sourceAlias base (Str.trim inner) sql) :
      FormulaSql g sourceAlias base ("pct_change(" ++ inner ++ ")") (pctChangeText sourceAlias sql)
  | runningTotal {inner : String} {sql : SqlText} (hinner : TermSql g sourceAlias base (Str.trim inner) sql) :
      FormulaSql g sourceAlias base ("running_total(" ++ inner ++ ")") (runningTotalText sourceAlias sql)

/-- A pair of words, or a column. -/
def PlainTerm (fp : FormulaParser) (text : String) : Prop := fp.WordPair text ∨ WrittenColumn text

/-- The formulas the parser takes apart as they are written. -/
inductive PlainFormula (fp : FormulaParser) : String → Prop where
  | shorthand {text : String} (htext : fp.WordPair text) : PlainFormula fp text
  | ratio {num denom : String} (hnum : PlainTerm fp (Str.trim num)) (hdenom : PlainTerm fp (Str.trim denom)) :
      PlainFormula fp ("ratio(" ++ num ++ "," ++ denom ++ ")")
  | pctChange {inner : String} (hinner : PlainTerm fp (Str.trim inner)) : PlainFormula fp ("pct_change(" ++ inner ++ ")")
  | runningTotal {inner : String} (hinner : PlainTerm fp (Str.trim inner)) : PlainFormula fp ("running_total(" ++ inner ++ ")")

/-! ## Two marks of a text -/

/-- A text calls a function of the allow-list. -/
def Calls (t : SqlText) : Prop := ∃ name, Frag.func name ∈ t

/-- A text names a column that has a colon in its name. -/
def NamesColon (t : SqlText) : Prop := ∃ name, Frag.ident name ∈ t ∧ ':' ∈ name.toList

theorem mem_aggregateText {x : Frag} (hx : ∀ s, x ≠ .code s) (aggregation : AggregationType) (sql : SqlText) :
    x ∈ aggregateText aggregation sql ↔ x ∈ sql := by
  unfold aggregateText
  split_ifs <;> simp [code, hx]

@[simp] theorem calls_aggregateText {aggregation : AggregationType} {sql : SqlText} : Calls (aggregateText aggregation sql) ↔ Calls sql :=
  exists_congr fun name => mem_aggregateText (by simp) _ _

@[simp] theorem namesColon_aggregateText {aggregation : AggregationType} {sql : SqlText} :
    NamesColon (aggregateText aggregation sql) ↔ NamesColon sql :=
  exists_congr fun name => and_congr_left fun _ => mem_aggregateText (by simp) _ _

@[simp] theorem calls_ratioText {num denom : SqlText} : Calls (ratioText num denom) ↔ Calls num ∨ Calls denom := by
  simp [Calls, ratioText, code, exists_or]

@[simp] theorem namesColon_ratioText {num denom : SqlText} : NamesColon (ratioText num denom) ↔ NamesColon num ∨ NamesColon denom := by
  simp [NamesColon, ratioText, code, or_and_right, exists_or]

@[simp] theorem calls_pctChangeText {sourceAlias : String} {sql : SqlText} : Calls (pctChangeText sourceAlias sql) ↔ Calls sql := by
  simp [Calls, pctChangeText, code, raw]

@[simp] theorem namesColon_pctChangeText {sourceAlias : String} {sql : SqlText} : NamesColon (pctChangeText sourceAlias sql) ↔ NamesColon sql := by
  simp [NamesColon, pctChangeText, code, raw]

@[simp] theorem calls_runningTotalText {sourceAlias : String} {sql : SqlText} : Calls (runningTotalText sourceAlias sql) ↔ Calls sql := by
  simp [Calls, runningTotalText, code, raw]

@[simp] theorem namesColon_runningTotalText {sourceAlias : String} {sql : SqlText} :
    NamesColon (runningTotalText sourceAlias sql) ↔ NamesColon sql := by
  simp [NamesColon, runningTotalText, code, raw]

section

variable {g : SqlGenerator} {sourceAlias base : String}

/-- A column is no call, and goes by the last part of its text or by all of it. -/
theorem qualifyField_marks (field : String) : ¬Calls (g.qualifyField base field sourceAlias) ∧
    ∀ name, Frag.ident name ∈ g.qualifyField base field sourceAlias → name = field ∨ ∃ pre, Str.rsplitOnce field '.' = some (pre, name) := by
  rw [qualifyField_eq]
  cases hfield : g.resolveField base field sourceAlias with
  | none => simp [Calls, columnText, code]
  | some c =>
    obtain ⟨owner, column⟩ := c
    obtain ⟨-, hcolumn⟩ := resolveField_scope hfield
    refine ⟨by simp [Calls, columnText, qualified, code, raw, ident], fun name hname => ?_⟩
    obtain rfl : name = column := by simpa [columnText, qualified, code, raw, ident] using hname
    exact hcolumn

/-- A shorthand that is taken for a column keeps its colon in the name. -/
theorem namesColon_qualifyField {expr agg : String} {aggregation : AggregationType} (hagg : FormulaParser.parseAggregation agg = .ok aggregation) :
    NamesColon (g.qualifyField base (expr ++ ":" ++ agg) sourceAlias) := by
  have hstar : expr ++ ":" ++ agg ≠ "*" := by
    intro heq
    have hcolon : ':' ∈ "*".toList := by
      rw [← heq]
      simp
    revert hcolon
    decide
  obtain ⟨owner, column, hfield⟩ : ∃ owner column, g.resolveField base (expr ++ ":" ++ agg) sourceAlias = some (owner, column) := by
    cases hfield : g.resolveField base (expr ++ ":" ++ agg) sourceAlias with
    | none =>
      rw [resolveField_eq_resolveOwner, Option.map_eq_none_iff, resolveOwner_eq_none] at hfield
      exact absurd hfield hstar
    | some c => exact ⟨c.1, c.2, rfl⟩
  refine ⟨column, by simp [qualifyField_eq, hfield, columnText, qualified, ident], ?_⟩
  obtain ⟨-, rfl | ⟨pre, hsplit⟩⟩ := resolveField_scope hfield
  · simp
  · obtain ⟨⟨before, after⟩, hlast, hpair⟩ := Option.map_eq_some_iff.1 hsplit
    obtain ⟨rfl, rfl⟩ := Prod.mk.inj hpair
    obtain ⟨htext, hafter⟩ := Str.splitLast_eq_some.1 hlast
    -- the last dot is before the colon, since no aggregation has one in its name
    have hdot := FormulaParser.parseAggregation_plain hagg (show '.' ∈ [':', ',', '(', ')', '.'] by decide)
    rw [String.toList_ofList]
    have hlist : expr.toList ++ ':' :: agg.toList = before ++ '.' :: after := by
      rw [← htext]
      simp
    obtain ⟨rest, -, hrest⟩ | ⟨rest, -, hrest⟩ := List.append_eq_append_iff.1 hlist
    · cases rest with
      | nil => cases (List.cons.inj hrest).1
      | cons c rest =>
        have hmem : '.' ∈ agg.toList := by
          rw [(List.cons.inj hrest).2]
          simp
        exact absurd hmem hdot
    · cases rest with
      | nil => cases (List.cons.inj hrest).1
      | cons c rest =>
        rw [(List.cons.inj hrest).2]
        simp

/-! ## Terms -/

/-- What the parser makes of a text that it gives to one aggregation. -/
theorem resolveExpression_of_no_call {text : String} (h : parseFunctionCall text = .ok none) :
    g.resolveExpression sourceAlias base text = .ok (g.qualifyField base text sourceAlias) := by
  unfold resolveExpression
  rw [h]
  simp only [Res.mapErr, bind, Except.bind, pure, Except.pure]

theorem parseFunctionCall_of_no_bracket {text : String} (h : '(' ∉ text.toList) : parseFunctionCall text = .ok none := by
  refine parseFunctionCall_of_not_callShape ?_
  rintro ⟨lead, name, gap, rest, htext, -⟩
  rw [htext] at h
  simp at h

/-- Nothing but a call opens a bracket, and only a shorthand has a colon. -/
theorem TermSql.cases {text : String} {sql : SqlText} (h : TermSql g sourceAlias base text sql) : Calls sql ∨
    ¬NamesColon sql ∧ text ≠ "" ∧ (∀ c ∈ [',', '(', ')'], c ∉ text.toList) ∧
      (':' ∈ text.toList → ∃ expr agg aggregation, text = expr ++ ":" ++ agg ∧ FormulaParser.parseAggregation agg = .ok aggregation) := by
  have hcolumn {expr : String} (hexpr : WrittenColumn expr) : ¬NamesColon (g.qualifyField base expr sourceAlias) := by
    rintro ⟨name, hname, hcolon⟩
    obtain rfl | ⟨pre, hsplit⟩ := (qualifyField_marks expr).2 name hname
    · exact (hexpr.plain _ hcolon).1 rfl
    · obtain ⟨⟨before, after⟩, hlast, hpair⟩ := Option.map_eq_some_iff.1 hsplit
      obtain ⟨rfl, rfl⟩ := Prod.mk.inj hpair
      obtain ⟨htext, -⟩ := Str.splitLast_eq_some.1 hlast
      refine (hexpr.plain ':' ?_).1 rfl
      rw [htext]
      simp at hcolon
      simp [hcolon]
  have hplain {expr : String} (hexpr : WrittenColumn expr) : ∀ c ∈ [',', '(', ')'], c ∉ expr.toList := by
    intro c hc hmem
    have hne := hexpr.plain c hmem
    simp only [List.mem_cons, List.not_mem_nil, or_false] at hc
    obtain rfl | rfl | rfl := hc
    · exact hne.2.1 rfl
    · exact hne.2.2.1 rfl
    · exact hne.2.2.2 rfl
  cases h with
  | written hexpr hagg =>
    rename_i expr agg sql aggregation
    cases hexpr with
    | call htext =>
      rename_i call
      exact .inl (calls_aggregateText.2 ⟨call.name, by simp⟩)
    | column htext =>
      refine .inr ⟨by simpa using hcolumn htext, ?_, ?_, fun _ => ⟨expr, agg, aggregation, rfl, hagg⟩⟩
      · intro hempty
        have hlist := congrArg String.toList hempty
        simp at hlist
      · intro c hc
        have hagg' := FormulaParser.parseAggregation_plain hagg (show c ∈ [':', ',', '(', ')', '.'] by
          simp only [List.mem_cons, List.not_mem_nil, or_false] at hc ⊢
          obtain rfl | rfl | rfl := hc <;> simp)
        have hcolon : c ≠ ':' := by
          rintro rfl
          exact absurd hc (by decide)
        simp [hplain htext c hc, hagg', hcolon]
  | bare hexpr =>
    cases hexpr with
    | call htext =>
      rename_i call
      exact .inl (calls_aggregateText.2 ⟨call.name, by simp⟩)
    | column htext =>
      exact .inr ⟨by simpa using hcolumn htext, htext.ne_empty, hplain htext, fun hcolon => absurd rfl (htext.plain _ hcolon).1⟩

variable {fp : FormulaParser}

/-- A plain term has no bracket or comma. -/
theorem PlainTerm.not_mem {text : String} (h : PlainTerm fp text) : text ≠ "" ∧ ∀ c ∈ [',', '(', ')'], c ∉ text.toList := by
  obtain ⟨field, agg, rfl, hfield, hfieldWord, -, haggWord⟩ | h := h
  · refine ⟨?_, fun c hc hmem => ?_⟩
    · intro hempty
      have hlist := congrArg String.toList hempty
      simp at hlist
    · have hword : fp.isWord c = false := FormulaParser.isWord_eq_false (by
        simp only [List.mem_cons, List.not_mem_nil, or_false] at hc ⊢
        obtain rfl | rfl | rfl := hc <;> simp) fp
      have hother : c ≠ ':' ∧ c ≠ '*' := by
        simp only [List.mem_cons, List.not_mem_nil, or_false] at hc
        obtain rfl | rfl | rfl := hc <;> decide
      simp only [String.toList_append, List.mem_append] at hmem
      obtain (hmem | hmem) | hmem := hmem
      · obtain hc' | hc' := hfieldWord c hmem
        · rw [hword] at hc'
          cases hc'
        · exact hother.2 hc'
      · exact hother.1 (List.mem_singleton.1 hmem)
      · rw [haggWord c hmem] at hword
        cases hword
  · refine ⟨h.ne_empty, fun c hc hmem => ?_⟩
    have hne := h.plain c hmem
    simp only [List.mem_cons, List.not_mem_nil, or_false] at hc
    obtain rfl | rfl | rfl := hc
    · exact hne.2.1 rfl
    · exact hne.2.2.1 rfl
    · exact hne.2.2.2 rfl

/-- The column of a pair of words. -/
theorem writtenColumn_of_word {field : String} (hne : field ≠ "") (hword : ∀ c ∈ field.toList, fp.isWord c = true ∨ c = '*') :
    WrittenColumn field := by
  refine ⟨hne, fun c hc => ?_⟩
  have hno (d : Char) (hd : d ∈ [':', ',', '(', ')', '.']) (hstar : d ≠ '*') : c ≠ d := by
    rintro rfl
    obtain h | h := hword c hc
    · rw [FormulaParser.isWord_eq_false hd] at h
      cases h
    · exact hstar h
  exact ⟨hno ':' (by decide) (by decide), hno ',' (by decide) (by decide), hno '(' (by decide) (by decide), hno ')' (by decide) (by decide)⟩

/-- **A plain term is kept** by the parser. -/
theorem PlainTerm.termSql {text : String} {measure : Measure} (h : PlainTerm g.formulaParser text) (htrim : Str.trim text = text)
    (hparse : g.formulaParser.parseMeasure text = .ok measure) :
    TermSql g sourceAlias base text (g.aggregateColumn sourceAlias base measure) := by
  obtain ⟨hne, hplain⟩ := h.not_mem
  rw [FormulaParser.parseMeasure_of_no_bracket htrim hne (hplain '(' (by decide))] at hparse
  cases hcaps : g.formulaParser.aggCaptures text with
  | some caps =>
    obtain ⟨field, agg⟩ := caps
    rw [hcaps] at hparse
    obtain ⟨aggregation, hagg, hmeasure⟩ := Res.bind_eq_ok.1 hparse
    obtain rfl := Except.ok.inj hmeasure
    obtain ⟨rfl, hfield, hword, -⟩ := FormulaParser.aggCaptures_eq_some.1 hcaps
    exact .written (.column (writtenColumn_of_word hfield hword)) hagg
  | none =>
    rw [hcaps] at hparse
    obtain rfl := Except.ok.inj hparse
    obtain hpair | hcolumn := h
    · exact absurd hpair (FormulaParser.aggCaptures_eq_none.1 hcaps)
    · exact .bare (.column hcolumn)

/-- **A term that is no plain one is not kept**: it becomes the sum of a column with a colon in its name. -/
theorem plainTerm_or_namesColon {text : String} {measure : Measure} (hne : text ≠ "") (hplain : ∀ c ∈ [',', '(', ')'], c ∉ text.toList)
    (hcolon : ':' ∈ text.toList → ∃ expr agg aggregation, text = expr ++ ":" ++ agg ∧ FormulaParser.parseAggregation agg = .ok aggregation)
    (htrim : Str.trim text = text) (hparse : g.formulaParser.parseMeasure text = .ok measure) :
    PlainTerm g.formulaParser text ∨ NamesColon (g.aggregateColumn sourceAlias base measure) := by
  rw [FormulaParser.parseMeasure_of_no_bracket htrim hne (hplain '(' (by decide))] at hparse
  cases hcaps : g.formulaParser.aggCaptures text with
  | some caps => exact .inl (.inl ⟨caps.1, caps.2, FormulaParser.aggCaptures_eq_some.1 hcaps⟩)
  | none =>
    rw [hcaps] at hparse
    obtain rfl := Except.ok.inj hparse
    by_cases hmem : ':' ∈ text.toList
    · obtain ⟨expr, agg, aggregation, rfl, hagg⟩ := hcolon hmem
      exact .inr (namesColon_aggregateText.2 (namesColon_qualifyField hagg))
    · refine .inl (.inr ⟨hne, fun c hc => ⟨?_, ?_, ?_, ?_⟩⟩)
      · rintro rfl
        exact hmem hc
      · rintro rfl
        exact hplain ',' (by decide) hc
      · rintro rfl
        exact hplain '(' (by decide) hc
      · rintro rfl
        exact hplain ')' (by decide) hc

/-! ## What is compiled -/

/-- The argument of a function of one argument is all between its brackets. -/
theorem formulaArgument_eq_ok {fn text inner : String} :
    formulaArgument fn text = .ok inner ↔ ∃ written, text = fn ++ "(" ++ written ++ ")" ∧ inner = Str.trim written := by
  have hof {o : Option String} : Res.ofOption ("Invalid formula: malformed " ++ fn ++ " expression") o = .ok inner ↔ o = some inner := by
    cases o <;> simp [Res.ofOption, Res.fail]
  unfold formulaArgument
  rw [hof, Option.map_eq_some_iff]
  simp only [Option.bind_eq_some_iff]
  constructor
  · rintro ⟨written, ⟨rest, hpre, hsuf⟩, rfl⟩
    unfold Str.stripPrefix at hpre
    unfold Str.stripSuffixChar at hsuf
    split_ifs at hpre with hstarts
    split_ifs at hsuf with hlast
    refine ⟨written, String.toList_injective ?_, rfl⟩
    obtain ⟨tail, htail⟩ := List.isPrefixOf_iff_prefix.1 hstarts
    obtain rfl := Option.some.inj hpre
    obtain rfl := Option.some.inj hsuf
    rw [← htail, List.drop_left, String.toList_ofList] at hlast ⊢
    have hsplit := List.dropLast_append_getLast? ')' (Option.mem_def.2 hlast)
    simp [hsplit]
  · rintro ⟨written, rfl, rfl⟩
    refine ⟨written, ⟨written ++ ")", ?_, ?_⟩, rfl⟩
    · have hstarts : Str.startsWith (fn ++ "(" ++ written ++ ")") (fn ++ "(") = true := by
        rw [Str.startsWith, List.isPrefixOf_iff_prefix]
        exact ⟨(written ++ ")").toList, by simp⟩
      rw [Str.stripPrefix, if_pos hstarts]
      refine congrArg some (String.toList_injective ?_)
      rw [String.toList_ofList, show (fn ++ "(" ++ written ++ ")").toList = (fn ++ "(").toList ++ (written ++ ")").toList by simp, List.drop_left]
    · rw [Str.stripSuffixChar, if_pos (by simp)]
      refine congrArg some (String.toList_injective ?_)
      simp

/-- The SQL of a formula text that compiles. -/
inductive Compiled (g : SqlGenerator) (sourceAlias base text : String) : SqlText → Prop where
  | ratio {num denom : String} {numMeasure denomMeasure : Measure} (hstarts : Str.startsWith text "ratio(" = true)
      (hcaps : FormulaParser.ratioCaptures text = some (num, denom)) (hnum : g.formulaParser.parseMeasure (Str.trim num) = .ok numMeasure)
      (hdenom : g.formulaParser.parseMeasure (Str.trim denom) = .ok denomMeasure) :
      Compiled g sourceAlias base text (ratioText (g.aggregateColumn sourceAlias base numMeasure) (g.aggregateColumn sourceAlias base denomMeasure))
  | pctChange {inner : String} {measure : Measure} (hstarts : Str.startsWith text "pct_change(" = true)
      (harg : formulaArgument "pct_change" text = .ok inner) (hparse : g.formulaParser.parseMeasure inner = .ok measure) :
      Compiled g sourceAlias base text (pctChangeText sourceAlias (g.aggregateColumn sourceAlias base measure))
  | runningTotal {inner : String} {measure : Measure} (hstarts : Str.startsWith text "running_total(" = true)
      (harg : formulaArgument "running_total" text = .ok inner) (hparse : g.formulaParser.parseMeasure inner = .ok measure) :
      Compiled g sourceAlias base text (runningTotalText sourceAlias (g.aggregateColumn sourceAlias base measure))
  | aggregation {measure : Measure} {column : SqlText} (hcolon : ':' ∈ text.toList)
      (hother : Str.startsWith text "ratio(" = false ∧ Str.startsWith text "pct_change(" = false ∧ Str.startsWith text "running_total(" = false)
      (hparse : g.formulaParser.parseMeasure text = .ok measure)
      (hcolumn : g.resolveExpression sourceAlias base measure.formula.expression = .ok column) :
      Compiled g sourceAlias base text (aggregateText measure.aggregation column)

/-- The parser refuses a part of a formula, or the call it makes of it is refused. -/
def FormulaRefused (fp : FormulaParser) (text : String) : Prop :=
  let refused (part : String) : Prop := ∃ fault, fp.parseMeasure part = .error fault
  if Str.startsWith text "ratio(" then
    ∀ num denom, FormulaParser.ratioCaptures text = some (num, denom) → refused (Str.trim num) ∨ refused (Str.trim denom)
  else if Str.startsWith text "pct_change(" then ∀ inner, formulaArgument "pct_change" text = .ok inner → refused inner
  else if Str.startsWith text "running_total(" then ∀ inner, formulaArgument "running_total" text = .ok inner → refused inner
  else ∀ measure, fp.parseMeasure text = .ok measure → ∃ fault, parseFunctionCall measure.formula.expression = .error fault

/-- A formula is refused, or compiled one way. -/
theorem buildMeasureExpression_of_formula {measure : Measure} (hneeds : FormulaParser.needsParse (Str.trim measure.formula.expression) = true)
    (hshift : Str.startsWith (Str.trim measure.formula.expression) "time_shift(" = false) :
    (∃ fault, g.buildMeasureExpression sourceAlias base measure = .error fault) ∧
        FormulaRefused g.formulaParser (Str.trim measure.formula.expression) ∨
      (∃ sql, g.buildMeasureExpression sourceAlias base measure = .ok sql ∧
        Compiled g sourceAlias base (Str.trim measure.formula.expression) sql) ∧
        ¬FormulaRefused g.formulaParser (Str.trim measure.formula.expression) := by
  have htrim := Str.trim_trim measure.formula.expression
  unfold buildMeasureExpression FormulaRefused
  dsimp only
  rw [if_pos hneeds, if_neg (Bool.eq_false_iff.1 hshift)]
  generalize Str.trim measure.formula.expression = text at *
  by_cases hratio : Str.startsWith text "ratio(" = true
  · simp only [hratio, if_true, buildRatioExpression]
    cases hcaps : FormulaParser.ratioCaptures text with
    | none => exact .inl ⟨⟨_, rfl⟩, fun num denom h => by cases h⟩
    | some caps =>
      obtain ⟨num, denom⟩ := caps
      simp only [Res.ofOption, bind, Except.bind]
      cases hnum : g.formulaParser.parseMeasure (Str.trim num) with
      | error fault =>
        refine .inl ⟨⟨fault, rfl⟩, fun num' denom' h => .inl ⟨fault, ?_⟩⟩
        obtain ⟨rfl, -⟩ := Prod.mk.inj (Option.some.inj h)
        exact hnum
      | ok numMeasure =>
        cases hdenom : g.formulaParser.parseMeasure (Str.trim denom) with
        | error fault =>
          refine .inl ⟨⟨fault, rfl⟩, fun num' denom' h => .inr ⟨fault, ?_⟩⟩
          obtain ⟨-, rfl⟩ := Prod.mk.inj (Option.some.inj h)
          exact hdenom
        | ok denomMeasure =>
          refine .inr ⟨⟨_, rfl, .ratio hratio hcaps hnum hdenom⟩, fun hrefused => ?_⟩
          obtain ⟨fault, hfault⟩ | ⟨fault, hfault⟩ := hrefused num denom rfl
          · rw [hnum] at hfault
            cases hfault
          · rw [hdenom] at hfault
            cases hfault
  simp only [if_neg hratio]
  by_cases hpct : Str.startsWith text "pct_change(" = true
  · simp only [hpct, if_true, buildPctChangeExpression]
    cases harg : formulaArgument "pct_change" text with
    | error fault => exact .inl ⟨⟨fault, rfl⟩, fun inner h => by cases h⟩
    | ok inner =>
      simp only [bind, Except.bind]
      cases hparse : g.formulaParser.parseMeasure inner with
      | error fault => exact .inl ⟨⟨fault, rfl⟩, fun inner' h => ⟨fault, Except.ok.inj h ▸ hparse⟩⟩
      | ok inner' =>
        refine .inr ⟨⟨_, rfl, .pctChange hpct harg hparse⟩, fun hrefused => ?_⟩
        obtain ⟨fault, hfault⟩ := hrefused inner rfl
        rw [hparse] at hfault
        cases hfault
  simp only [if_neg hpct]
  by_cases htotal : Str.startsWith text "running_total(" = true
  · simp only [htotal, if_true, buildRunningTotalExpression]
    cases harg : formulaArgument "running_total" text with
    | error fault => exact .inl ⟨⟨fault, rfl⟩, fun inner h => by cases h⟩
    | ok inner =>
      simp only [bind, Except.bind]
      cases hparse : g.formulaParser.parseMeasure inner with
      | error fault => exact .inl ⟨⟨fault, rfl⟩, fun inner' h => ⟨fault, Except.ok.inj h ▸ hparse⟩⟩
      | ok inner' =>
        refine .inr ⟨⟨_, rfl, .runningTotal htotal harg hparse⟩, fun hrefused => ?_⟩
        obtain ⟨fault, hfault⟩ := hrefused inner rfl
        rw [hparse] at hfault
        cases hfault
  simp only [if_neg htotal]
  have hcolon : ':' ∈ text.toList := by
    unfold FormulaParser.needsParse at hneeds
    dsimp only at hneeds
    rw [htrim] at hneeds
    split_ifs at hneeds
    simpa [hshift, hratio, hpct, htotal, Str.containsChar] using hneeds
  cases hparse : g.formulaParser.parseMeasure text with
  | error fault =>
    refine .inl ⟨?_, fun measure h => by cases h⟩
    cases fault with
    | err message => exact ⟨_, rfl⟩
    | panic => exact ⟨_, rfl⟩
  | ok parsed =>
    simp only [Res.mapErr, bind, Except.bind, buildStandardAggregation]
    cases hcall : parseFunctionCall parsed.formula.expression with
    | error fault =>
      refine .inl ⟨?_, fun measure h => ⟨fault, Except.ok.inj h ▸ hcall⟩⟩
      unfold resolveExpression
      rw [hcall]
      cases fault with
      | err message => exact ⟨_, rfl⟩
      | panic => exact ⟨_, rfl⟩
    | ok call =>
      obtain ⟨column, hcolumn⟩ : ∃ column, g.resolveExpression sourceAlias base parsed.formula.expression = .ok column := by
        cases call with
        | none => exact ⟨_, resolveExpression_of_no_call hcall⟩
        | some call => exact ⟨_, resolveExpression_of_call hcall⟩
      rw [hcolumn]
      refine .inr ⟨⟨_, rfl, .aggregation hcolon ⟨by simpa using hratio, by simpa using hpct, by simpa using htotal⟩ hparse hcolumn⟩, fun hrefused => ?_⟩
      obtain ⟨fault, hfault⟩ := hrefused parsed rfl
      rw [hcall] at hfault
      cases hfault

/-- The column of an aggregation that is compiled. -/
theorem aggregation_column {text : String} {measure : Measure} {column : SqlText} (htrim : Str.trim text = text) (hcolon : ':' ∈ text.toList)
    (hparse : g.formulaParser.parseMeasure text = .ok measure)
    (hcolumn : g.resolveExpression sourceAlias base measure.formula.expression = .ok column) :
    column = g.qualifyField base measure.formula.expression sourceAlias := by
  have hnocall := FormulaParser.parseMeasure_not_call (by rwa [htrim]) hparse
  have hread : parseFunctionCall measure.formula.expression = .ok none := by
    unfold resolveExpression at hcolumn
    obtain ⟨call, hcall, -⟩ := Res.bind_eq_ok.1 hcolumn
    rw [Res.mapErr_eq_ok] at hcall
    cases call with
    | none => exact hcall
    | some call => exact absurd hcall (hnocall call)
  rw [resolveExpression_of_no_call hread] at hcolumn
  exact (Except.ok.inj hcolumn).symm

theorem aggregateColumn_no_calls (measure : Measure) : ¬Calls (g.aggregateColumn sourceAlias base measure) := fun h =>
  (qualifyField_marks measure.formula.expression).1 (calls_aggregateText.1 h)

/-- No call of a formula is compiled as one. -/
theorem Compiled.no_calls {text : String} {sql : SqlText} (h : Compiled g sourceAlias base text sql) (htrim : Str.trim text = text) :
    ¬Calls sql := by
  cases h with
  | ratio hstarts hcaps hnum hdenom =>
    rw [calls_ratioText]
    rintro (h | h)
    · exact aggregateColumn_no_calls _ h
    · exact aggregateColumn_no_calls _ h
  | pctChange hstarts harg hparse => exact fun h => aggregateColumn_no_calls _ (calls_pctChangeText.1 h)
  | runningTotal hstarts harg hparse => exact fun h => aggregateColumn_no_calls _ (calls_runningTotalText.1 h)
  | aggregation hcolon hother hparse hcolumn =>
    rw [calls_aggregateText, aggregation_column htrim hcolon hparse hcolumn]
    exact (qualifyField_marks _).1

theorem startsWith_append (pre rest : String) : Str.startsWith (pre ++ rest) pre = true := by
  rw [Str.startsWith, List.isPrefixOf_iff_prefix, String.toList_append]
  exact List.prefix_append _ _

theorem startsWith_append_eq_false {pre other : String} (h : ¬pre.toList <+: other.toList) (h' : ¬other.toList <+: pre.toList) (rest : String) :
    Str.startsWith (other ++ rest) pre = false := by
  rw [Str.startsWith, Bool.eq_false_iff, ne_eq, List.isPrefixOf_iff_prefix, String.toList_append]
  intro hpre
  obtain h'' | h'' := List.prefix_or_prefix_of_prefix hpre (List.prefix_append other.toList rest.toList)
  · exact h h''
  · exact h' h''

/-- A character that is no whitespace is in a text where it is in what `trim` leaves. -/
theorem not_mem_of_trim {text : String} {c : Char} (hspace : Str.isWhitespace c = false) (h : c ∉ (Str.trim text).toList) : c ∉ text.toList := by
  obtain ⟨lead, trail, htext, hlead, htrail, -⟩ := Str.exists_padding text
  rw [htext]
  simp only [List.mem_append, not_or]
  refine ⟨⟨fun hc => ?_, h⟩, fun hc => ?_⟩
  · rw [hlead c hc] at hspace
    cases hspace
  · rw [htrail c hc] at hspace
    cases hspace

theorem trim_dropWhile (text : String) : Str.trim (String.ofList (text.toList.dropWhile Str.isWhitespace)) = Str.trim text := by
  rw [Str.trim, Str.trim, String.toList_ofList, List.dropWhile_idempotent]

/-- The parts of a ratio that have no bracket or comma. -/
theorem ratio_parts {num denom : String} (hnum : Str.trim num ≠ "" ∧ ∀ c ∈ [',', '(', ')'], c ∉ (Str.trim num).toList)
    (hdenom : Str.trim denom ≠ "" ∧ ∀ c ∈ [',', '(', ')'], c ∉ (Str.trim denom).toList) :
    FormulaParser.ratioCaptures ("ratio(" ++ num ++ "," ++ denom ++ ")") = some (num, String.ofList (denom.toList.dropWhile Str.isWhitespace)) := by
  refine FormulaParser.ratioCaptures_of_plain rfl ?_ ?_ ?_ ?_
  · rintro rfl
    exact hnum.1 (by decide)
  · exact not_mem_of_trim (by decide) (hnum.2 ',' (by decide))
  · intro hblank
    exact hdenom.1 (by rw [← String.ofList_toList (s := denom)]; exact trim_eq_empty.2 hblank)
  · exact not_mem_of_trim (by decide) (hdenom.2 ')' (by decide))

/-- What is compiled of a ratio whose parts have no bracket or comma. -/
theorem Compiled.of_ratio {num denom : String} {sql : SqlText} (h : Compiled g sourceAlias base ("ratio(" ++ num ++ "," ++ denom ++ ")") sql)
    (hnum : Str.trim num ≠ "" ∧ ∀ c ∈ [',', '(', ')'], c ∉ (Str.trim num).toList)
    (hdenom : Str.trim denom ≠ "" ∧ ∀ c ∈ [',', '(', ')'], c ∉ (Str.trim denom).toList) :
    ∃ numMeasure denomMeasure, g.formulaParser.parseMeasure (Str.trim num) = .ok numMeasure ∧
      g.formulaParser.parseMeasure (Str.trim denom) = .ok denomMeasure ∧
      sql = ratioText (g.aggregateColumn sourceAlias base numMeasure) (g.aggregateColumn sourceAlias base denomMeasure) := by
  have hcaps := ratio_parts hnum hdenom
  rw [show "ratio(" ++ num ++ "," ++ denom ++ ")" = "ratio(" ++ (num ++ "," ++ denom ++ ")") by simp only [String.append_assoc]] at h hcaps
  cases h with
  | ratio hstarts hcaps' hparseNum hparseDenom =>
    rw [hcaps] at hcaps'
    obtain ⟨rfl, rfl⟩ := Prod.mk.inj (Option.some.inj hcaps')
    rw [trim_dropWhile] at hparseDenom
    exact ⟨_, _, hparseNum, hparseDenom, rfl⟩
  | pctChange hstarts => exact absurd (hstarts.symm.trans (startsWith_append_eq_false (by decide) (by decide) _)) (by decide)
  | runningTotal hstarts => exact absurd (hstarts.symm.trans (startsWith_append_eq_false (by decide) (by decide) _)) (by decide)
  | aggregation hcolon hother => exact absurd ((startsWith_append _ _).symm.trans hother.1) (by decide)

theorem Compiled.of_pctChange {inner : String} {sql : SqlText} (h : Compiled g sourceAlias base ("pct_change(" ++ inner ++ ")") sql) :
    ∃ measure, g.formulaParser.parseMeasure (Str.trim inner) = .ok measure ∧
      sql = pctChangeText sourceAlias (g.aggregateColumn sourceAlias base measure) := by
  rw [String.append_assoc] at h
  cases h with
  | ratio hstarts => exact absurd (hstarts.symm.trans (startsWith_append_eq_false (by decide) (by decide) _)) (by decide)
  | pctChange hstarts harg hparse =>
    obtain ⟨written, htext, rfl⟩ := formulaArgument_eq_ok.1 harg
    have hwritten : inner = written := String.toList_injective (by simpa using congrArg String.toList htext)
    subst hwritten
    exact ⟨_, hparse, rfl⟩
  | runningTotal hstarts => exact absurd (hstarts.symm.trans (startsWith_append_eq_false (by decide) (by decide) _)) (by decide)
  | aggregation hcolon hother => exact absurd ((startsWith_append _ _).symm.trans hother.2.1) (by decide)

theorem Compiled.of_runningTotal {inner : String} {sql : SqlText} (h : Compiled g sourceAlias base ("running_total(" ++ inner ++ ")") sql) :
    ∃ measure, g.formulaParser.parseMeasure (Str.trim inner) = .ok measure ∧
      sql = runningTotalText sourceAlias (g.aggregateColumn sourceAlias base measure) := by
  rw [String.append_assoc] at h
  cases h with
  | ratio hstarts => exact absurd (hstarts.symm.trans (startsWith_append_eq_false (by decide) (by decide) _)) (by decide)
  | pctChange hstarts => exact absurd (hstarts.symm.trans (startsWith_append_eq_false (by decide) (by decide) _)) (by decide)
  | runningTotal hstarts harg hparse =>
    obtain ⟨written, htext, rfl⟩ := formulaArgument_eq_ok.1 harg
    have hwritten : inner = written := String.toList_injective (by simpa using congrArg String.toList htext)
    subst hwritten
    exact ⟨_, hparse, rfl⟩
  | aggregation hcolon hother => exact absurd ((startsWith_append _ _).symm.trans hother.2.2) (by decide)

/-- What is compiled of a text without a bracket. -/
theorem Compiled.of_no_bracket {text : String} {sql : SqlText} (h : Compiled g sourceAlias base text sql) (htrim : Str.trim text = text)
    (hbracket : '(' ∉ text.toList) : ':' ∈ text.toList ∧ ∃ measure, g.formulaParser.parseMeasure text = .ok measure ∧
      sql = g.aggregateColumn sourceAlias base measure := by
  cases h with
  | ratio hstarts => exact absurd (hstarts.symm.trans (Str.startsWith_eq_false (by decide) hbracket)) (by decide)
  | pctChange hstarts => exact absurd (hstarts.symm.trans (Str.startsWith_eq_false (by decide) hbracket)) (by decide)
  | runningTotal hstarts => exact absurd (hstarts.symm.trans (Str.startsWith_eq_false (by decide) hbracket)) (by decide)
  | aggregation hcolon hother hparse hcolumn =>
    rw [aggregation_column htrim hcolon hparse hcolumn]
    exact ⟨hcolon, _, hparse, rfl⟩

/-- **What is compiled of a plain formula** is its SQL. -/
theorem PlainFormula.formulaSql {text : String} {sql : SqlText} (h : PlainFormula g.formulaParser text) (htrim : Str.trim text = text)
    (hcompiled : Compiled g sourceAlias base text sql) : FormulaSql g sourceAlias base text sql := by
  cases h with
  | shorthand hpair =>
    obtain ⟨hne, hplain⟩ := PlainTerm.not_mem (.inl hpair)
    have hbracket := hplain '(' (by decide)
    obtain ⟨-, measure, hparse, rfl⟩ := hcompiled.of_no_bracket htrim hbracket
    rw [FormulaParser.parseMeasure_of_no_bracket htrim hne hbracket] at hparse
    cases hcaps : g.formulaParser.aggCaptures text with
    | none => exact absurd hpair (FormulaParser.aggCaptures_eq_none.1 hcaps)
    | some caps =>
      obtain ⟨field, agg⟩ := caps
      rw [hcaps] at hparse
      obtain ⟨aggregation, hagg, hmeasure⟩ := Res.bind_eq_ok.1 hparse
      obtain rfl := Except.ok.inj hmeasure
      obtain ⟨rfl, hfield, hword, -⟩ := FormulaParser.aggCaptures_eq_some.1 hcaps
      exact .shorthand (.column (writtenColumn_of_word hfield hword)) hagg
  | ratio hnum hdenom =>
    obtain ⟨numMeasure, denomMeasure, hparseNum, hparseDenom, rfl⟩ := hcompiled.of_ratio hnum.not_mem hdenom.not_mem
    exact .ratio (hnum.termSql (Str.trim_trim _) hparseNum) (hdenom.termSql (Str.trim_trim _) hparseDenom)
  | pctChange hinner =>
    obtain ⟨measure, hparse, rfl⟩ := hcompiled.of_pctChange
    exact .pctChange (hinner.termSql (Str.trim_trim _) hparse)
  | runningTotal hinner =>
    obtain ⟨measure, hparse, rfl⟩ := hcompiled.of_runningTotal
    exact .runningTotal (hinner.termSql (Str.trim_trim _) hparse)

/-- **A formula that is compiled to its SQL is a plain one**: any other loses a call, or becomes a column
with a colon in its name. -/
theorem FormulaSql.plain {text : String} {sql : SqlText} (h : FormulaSql g sourceAlias base text sql) (htrim : Str.trim text = text)
    (hcompiled : Compiled g sourceAlias base text sql) : PlainFormula g.formulaParser text := by
  have hcalls := hcompiled.no_calls htrim
  cases h with
  | shorthand hexpr hagg =>
    rename_i expr agg column aggregation
    obtain hcalls' | ⟨hcolon, hne, hplain, hshort⟩ := (TermSql.written hexpr hagg).cases
    · exact absurd hcalls' hcalls
    obtain ⟨hmem, measure, hparse, hsql⟩ := hcompiled.of_no_bracket htrim (hplain '(' (by decide))
    obtain hterm | hnames := @plainTerm_or_namesColon g sourceAlias base _ _ hne hplain hshort htrim hparse
    · obtain hpair | hcolumn := hterm
      · exact .shorthand hpair
      · exact absurd rfl (hcolumn.plain _ hmem).1
    · rw [← hsql] at hnames
      exact absurd hnames hcolon
  | ratio hnum hdenom =>
    rename_i num denom numSql denomSql
    rw [calls_ratioText, not_or] at hcalls
    obtain hcalls' | ⟨hcolonNum, hneNum, hplainNum, hshortNum⟩ := hnum.cases
    · exact absurd hcalls' hcalls.1
    obtain hcalls' | ⟨hcolonDenom, hneDenom, hplainDenom, hshortDenom⟩ := hdenom.cases
    · exact absurd hcalls' hcalls.2
    obtain ⟨numMeasure, denomMeasure, hparseNum, hparseDenom, hsql⟩ := hcompiled.of_ratio ⟨hneNum, hplainNum⟩ ⟨hneDenom, hplainDenom⟩
    have hnone : ¬NamesColon (ratioText numSql denomSql) := by
      rw [namesColon_ratioText]
      rintro (h | h)
      · exact hcolonNum h
      · exact hcolonDenom h
    rw [hsql, namesColon_ratioText, not_or] at hnone
    refine .ratio ?_ ?_
    · exact (plainTerm_or_namesColon hneNum hplainNum hshortNum (Str.trim_trim _) hparseNum).resolve_right hnone.1
    · exact (plainTerm_or_namesColon hneDenom hplainDenom hshortDenom (Str.trim_trim _) hparseDenom).resolve_right hnone.2
  | pctChange hinner =>
    obtain hcalls' | ⟨hcolon, hne, hplain, hshort⟩ := hinner.cases
    · exact absurd (calls_pctChangeText.2 hcalls') hcalls
    obtain ⟨measure, hparse, hsql⟩ := hcompiled.of_pctChange
    rw [← namesColon_pctChangeText, hsql, namesColon_pctChangeText] at hcolon
    exact .pctChange ((plainTerm_or_namesColon hne hplain hshort (Str.trim_trim _) hparse).resolve_right hcolon)
  | runningTotal hinner =>
    obtain hcalls' | ⟨hcolon, hne, hplain, hshort⟩ := hinner.cases
    · exact absurd (calls_runningTotalText.2 hcalls') hcalls
    obtain ⟨measure, hparse, hsql⟩ := hcompiled.of_runningTotal
    rw [← namesColon_runningTotalText, hsql, namesColon_runningTotalText] at hcolon
    exact .runningTotal ((plainTerm_or_namesColon hne hplain hshort (Str.trim_trim _) hparse).resolve_right hcolon)

/-! ## A formula is refused with a message -/

theorem buildStandardAggregation_ne_panic (g : SqlGenerator) (sourceAlias base : String) (measure : Measure) :
    g.buildStandardAggregation sourceAlias base measure ≠ .error .panic := by
  unfold buildStandardAggregation resolveExpression
  apply Res.bind_ne_panic
  · apply Res.bind_ne_panic
    · exact Res.mapErr_ne_panic (parseFunctionCall_ne_panic _)
    · intro call _
      cases call <;> simp [pure, Except.pure]
  · intro column _
    simp [pure, Except.pure]

/-- The nesting of a formula ends within the length of its text, so the parser refuses what it does
not take apart, and so does the generator. -/
theorem buildMeasureExpression_ne_panic (g : SqlGenerator) (sourceAlias base : String) (measure : Measure) :
    g.buildMeasureExpression sourceAlias base measure ≠ .error .panic := by
  have hparse := g.formulaParser.parseMeasure_ne_panic
  have hok {sql : SqlText} : (pure sql : Res String SqlText) ≠ .error .panic := by simp [pure, Except.pure]
  unfold buildMeasureExpression
  dsimp only
  split_ifs
  · exact Res.bind_ne_panic (Res.ofOption_ne_panic _ _) fun _ _ => Res.bind_ne_panic (hparse _) fun _ _ => hok
  · apply Res.bind_ne_panic (Res.ofOption_ne_panic _ _)
    intro parts _
    exact Res.bind_ne_panic (hparse _) fun _ _ => Res.bind_ne_panic (hparse _) fun _ _ => hok
  · exact Res.bind_ne_panic (Res.ofOption_ne_panic _ _) fun _ _ => Res.bind_ne_panic (hparse _) fun _ _ => hok
  · exact Res.bind_ne_panic (Res.ofOption_ne_panic _ _) fun _ _ => Res.bind_ne_panic (hparse _) fun _ _ => hok
  · apply Res.bind_ne_panic (Res.mapErr_ne_panic (hparse _))
    intro parsed _
    apply buildStandardAggregation_ne_panic
  · apply buildStandardAggregation_ne_panic

/-- A formula is refused, or its SQL is that of all that is written. -/
def FormulaKept (g : SqlGenerator) (sourceAlias base : String) (measure : Measure) : Prop :=
  (∃ fault, g.buildMeasureExpression sourceAlias base measure = .error fault) ∨
    ∃ sql, g.buildMeasureExpression sourceAlias base measure = .ok sql ∧
      FormulaSql g sourceAlias base (Str.trim measure.formula.expression) sql

/-- **When a formula is kept**: where the parser refuses it, or it is a plain one. Compiling it never panics. -/
theorem formula_kept_iff (g : SqlGenerator) (sourceAlias base : String) (measure : Measure)
    (hneeds : FormulaParser.needsParse (Str.trim measure.formula.expression) = true)
    (hshift : Str.startsWith (Str.trim measure.formula.expression) "time_shift(" = false) :
    (g.FormulaKept sourceAlias base measure ↔ FormulaRefused g.formulaParser (Str.trim measure.formula.expression) ∨
        PlainFormula g.formulaParser (Str.trim measure.formula.expression)) ∧
      g.buildMeasureExpression sourceAlias base measure ≠ .error .panic := by
  refine ⟨?_, buildMeasureExpression_ne_panic g sourceAlias base measure⟩
  have htrim := Str.trim_trim measure.formula.expression
  have hbuilt := @buildMeasureExpression_of_formula g sourceAlias base measure hneeds hshift
  unfold FormulaKept
  generalize Str.trim measure.formula.expression = text at *
  obtain ⟨⟨fault, hfault⟩, hrefused⟩ | ⟨⟨sql, hsql, hcompiled⟩, hrefused⟩ := hbuilt
  · exact iff_of_true (.inl ⟨fault, hfault⟩) (.inl hrefused)
  · rw [hsql, or_iff_right hrefused]
    constructor
    · rintro (⟨fault, hfault⟩ | ⟨sql', hsql', hformula⟩)
      · cases hfault
      · obtain rfl := Except.ok.inj hsql'
        exact hformula.plain htrim hcompiled
    · exact fun hplain => .inr ⟨sql, rfl, hplain.formulaSql htrim hcompiled⟩

end

/-! ## Formulas that become columns -/

/-- A text that is no pair of words and has no bracket at its end is not kept where it is compiled. -/
theorem not_formulaKept {g : SqlGenerator} {sourceAlias base : String} {measure : Measure}
    (hneeds : FormulaParser.needsParse (Str.trim measure.formula.expression) = true)
    (hshift : Str.startsWith (Str.trim measure.formula.expression) "time_shift(" = false)
    (hpair : g.formulaParser.aggCaptures (Str.trim measure.formula.expression) = none)
    (hlast : (Str.trim measure.formula.expression).toList.getLast? ≠ some ')')
    (hok : (g.buildMeasureExpression sourceAlias base measure).toOption.isSome = true) : ¬g.FormulaKept sourceAlias base measure := by
  obtain ⟨⟨fault, hfault⟩, -⟩ | ⟨⟨sql, hsql, hcompiled⟩, -⟩ := @buildMeasureExpression_of_formula g sourceAlias base measure hneeds hshift
  · rw [hfault] at hok
    cases hok
  · rintro (⟨fault, hfault⟩ | ⟨sql', hsql', hformula⟩)
    · rw [hsql] at hfault
      cases hfault
    · rw [hsql] at hsql'
      obtain rfl := Except.ok.inj hsql'
      have hplain := hformula.plain (Str.trim_trim _) hcompiled
      have hend (opening : String) : (opening ++ ")").toList.getLast? = some ')' := by
        rw [String.toList_append]
        exact List.getLast?_concat
      generalize Str.trim measure.formula.expression = text at *
      cases hplain with
      | shorthand htext => exact FormulaParser.aggCaptures_eq_none.1 hpair htext
      | ratio hnum hdenom => exact hlast (hend _)
      | pctChange hinner => exact hlast (hend _)
      | runningTotal hinner => exact hlast (hend _)

def ordersGenerator : SqlGenerator := .new .postgres ⟨fun _ => false, fun _ => false⟩

def asked (text : String) : Measure := ⟨{ expression := text }, .avg⟩

theorem formula_kept_iff_average : (ordersGenerator.FormulaKept "orders" "orders" (asked "amount:avg") ↔
      FormulaRefused ordersGenerator.formulaParser "amount:avg" ∨ PlainFormula ordersGenerator.formulaParser "amount:avg") ∧
    ordersGenerator.buildMeasureExpression "orders" "orders" (asked "amount:avg") ≠ .error .panic :=
  formula_kept_iff ordersGenerator "orders" "orders" (asked "amount:avg") (by decide +kernel) (by decide +kernel)

/-- The average of a dotted column is compiled to the sum of a column that is named like the formula, and a
ratio of hundreds to a ratio. -/
theorem formulas_are_changed :
    ¬ordersGenerator.FormulaKept "orders" "orders" (asked "orders.amount:avg") ∧
      (ordersGenerator.buildMeasureExpression "orders" "orders" (asked "orders.amount:avg")).toOption.map Dialect.postgres.render =
        some "SUM(orders.\"orders.amount:avg\")" ∧
      ¬ordersGenerator.FormulaKept "orders" "orders" (asked "ratio(paid:sum, amount:sum) * 100") ∧
      (ordersGenerator.buildMeasureExpression "orders" "orders" (asked "ratio(paid:sum, amount:sum) * 100")).toOption.map Dialect.postgres.render =
        some "(SUM(orders.\"paid\") / NULLIF(SUM(orders.\"amount\"), 0))" := by
  refine ⟨not_formulaKept ?_ ?_ ?_ ?_ ?_, ?_, not_formulaKept ?_ ?_ ?_ ?_ ?_, ?_⟩
  all_goals decide +kernel

end SqlGenerator

end GraphNight
