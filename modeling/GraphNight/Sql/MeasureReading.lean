import GraphNight.Sql.ImportedFields
import GraphNight.Sql.QueryMeaning

/-!
# What a database reads of a measure

The columns, buckets and calls a generator writes are read as what they are, and the text of a
measure as the aggregation, or the quotient of two, that the measure asks for.
-/

namespace GraphNight

open SqlText

/-! ## Texts read back -/

section

variable {words : Words} {d : Dialect} {scope : List String}

theorem readColumn_of_sees {c : Column} (h : d.sees words scope c.owner = true) (hname : d.HasName c.name) :
    readColumn words d scope true c.owner c.name = some c :=
  if_pos ⟨h, hname⟩

theorem readRowExpr_qualified {c : Column} (h : d.sees words scope c.owner = true) (hname : d.HasName c.name) :
    readRowExpr words d scope (qualified c.owner c.name) = some (.column c) := by
  show (readColumn words d scope true c.owner c.name).map RowExpr.column = _
  rw [readColumn_of_sees h hname]
  rfl

theorem readRowExpr_geoJson {c : Column} {t : SqlText} (h : d.sees words scope c.owner = true) (hname : d.HasName c.name)
    (ht : d.geometryAsGeojson (qualified c.owner c.name) = some t) : readRowExpr words d scope t = some (.geoJson c) := by
  have hread : readRowExpr words d scope (call "ST_AsGeoJSON" (qualified c.owner c.name)) =
      if "ST_AsGeoJSON(" = "ST_AsGeoJSON(" ∧ d.hasSpatial = true then
        (readColumn words d scope true c.owner c.name).map .geoJson else none := rfl
  cases d with
  | mySql | sqlite => cases ht
  | postgres | duckDb =>
    obtain rfl := Option.some.inj ht
    rw [hread, if_pos ⟨rfl, rfl⟩, readColumn_of_sees h hname]
    rfl

/-- A bucket is read as the function the dialect buckets with. -/
theorem readRowExpr_bucket {b : BucketExpr} {owner : String} {td : TimeDimension} (h : d.sees words scope owner = true)
    (hcolumn : d.SeesColumn words td.dimension) (hb : bucketExpr d td.granularity = some b) :
    readRowExpr words d scope (SqlGenerator.timeDimExpr d td owner) = some (.bucket b ⟨owner, td.dimension⟩) := by
  have hread : readRowExpr words d scope (SqlGenerator.timeDimExpr d td owner) =
      (readBucket d (BucketToken.around d (bucketTexts d td.granularity).1 (bucketTexts d td.granularity).2)).bind fun b =>
        (readColumn words d scope false owner td.dimension).map (.bucket b) := by
    rw [SqlGenerator.timeDimExpr, dateTrunc_eq]
    rfl
  have hname : readColumn words d scope false owner td.dimension = some ⟨owner, td.dimension⟩ :=
    if_pos ⟨h, hcolumn⟩
  rw [hread, (readBucket_eq d td.granularity).1, hb, hname]
  rfl

theorem beforeBracket_append (bracket : String) (t : SqlText) : beforeBracket bracket (t ++ code bracket) = some t := by
  simp [beforeBracket, code]

/-- The call of a function, its argument in brackets. -/
theorem readAggregate_call {fn : String} (hfn : isPlainIdentifier fn = true ∧ words.aggregates fn = true) (arg : SqlText) :
    readAggregate words d scope (code fn ++ code "(" ++ arg ++ code ")") =
      if arg = [.code "*"] then if Str.toAsciiLowercase fn = "count" then some .countRows else none
      else (readRowExpr words d scope arg).map (namedAggregate fn) := by
  have hdistinct : fn ≠ "COUNT(DISTINCT " := by
    rintro rfl
    exact absurd hfn.1 (by decide)
  have htext : code fn ++ code "(" ++ arg ++ code ")" = .code fn :: .code "(" :: (arg ++ code ")") := rfl
  rw [htext, readAggregate, if_neg hdistinct, if_pos ⟨hfn, rfl⟩, List.tail_cons, beforeBracket_append, Option.bind_some]

end

/-- An aggregation of an expression. -/
def AggregationType.ofExpr (e : RowExpr) : AggregationType → GroupExpr
  | .count => .count false e
  | .countDistinct => .count true e
  | .sum => .aggregate "sum" e
  | .avg => .aggregate "avg" e
  | .min => .aggregate "min" e
  | .max => .aggregate "max" e
  | .custom name => .aggregate (Str.toAsciiLowercase name) e

section

variable {words : Words} {d : Dialect} {scope : List String}

theorem readAggregate_aggregateText {aggregation : AggregationType} {arg : SqlText} {e : RowExpr}
    (hread : readRowExpr words d scope arg = some e)
    (hnamed : aggregation.Named words) :
    readAggregate words d scope (aggregateText aggregation arg) = some (aggregation.ofExpr e) := by
  have hstar : arg ≠ [.code "*"] := by
    rintro rfl
    cases hread
  have hcall {fn : String} (hfn : isPlainIdentifier fn = true ∧ words.aggregates fn = true) :
      readAggregate words d scope (code fn ++ code "(" ++ arg ++ code ")") = some (namedAggregate fn e) := by
    rw [readAggregate_call hfn, if_neg hstar, hread]
    rfl
  cases aggregation with
  | countDistinct =>
    have hdistinct : readAggregate words d scope (code "COUNT(DISTINCT " ++ arg ++ code ")") =
        (beforeBracket ")" (arg ++ code ")")).bind fun arg => (readRowExpr words d scope arg).map (.count true) := rfl
    show readAggregate words d scope (code "COUNT(DISTINCT " ++ arg ++ code ")") = _
    rw [hdistinct, beforeBracket_append, Option.bind_some, hread]
    rfl
  | custom name =>
    obtain ⟨hname, hcount⟩ := hnamed
    refine (hcall hname).trans (congrArg some ?_)
    rw [namedAggregate, if_neg hcount]
    rfl
  | sum | avg | count | min | max => exact (hcall ⟨by decide, rfl⟩).trans rfl

end

namespace SqlGenerator

section

variable (g : SqlGenerator) (m : Model) (sourceAlias : String)

/-! ## Measures -/

/-- The column a field is read as. -/
def columnExpr (field : String) : Column := (g.columnOf m sourceAlias field).getD ⟨"", ""⟩

def termExpr (term : String × AggregationType) : GroupExpr :=
  if term.1 = "*" then .countRows else term.2.ofExpr (.column (g.columnExpr m sourceAlias term.1))

def argExpr : FunctionArg → Column ⊕ String
  | .column column => .inl (g.columnExpr m sourceAlias column)
  | .number n => .inr n

/-- What a measure is read as. -/
def measureExpr : AskedMeasure → GroupExpr
  | .ofField field aggregation => g.termExpr m sourceAlias (field, aggregation)
  | .ofCall call aggregation => aggregation.ofExpr (.call call.name (call.args.map (g.argExpr m sourceAlias)))
  | .ratio num denom => .quotient (g.termExpr m sourceAlias num) (g.termExpr m sourceAlias denom)

/-- The text of an aggregation of a field. -/
def termText (term : String × AggregationType) : SqlText := aggregateText term.2 (g.qualifyField m.name term.1 sourceAlias)

/-- The text of a measure. -/
def measureText : AskedMeasure → SqlText
  | .ofField field aggregation => g.termText m sourceAlias (field, aggregation)
  | .ofCall call aggregation => aggregateText aggregation
      ([.func call.name] ++ code "(" ++ join ", " (call.args.map (g.functionArgText sourceAlias m.name)) ++ code ")")
  | .ratio num denom => ratioText (g.termText m sourceAlias num) (g.termText m sourceAlias denom)

end

end SqlGenerator

section

open SqlGenerator

variable {g : SqlGenerator} {m : Model} {sourceAlias : String}

/-- A term has no bracket and no comma. -/
theorem AsksTerm.plainTerm {fp : FormulaParser} {text : String} {term : String × AggregationType} (h : AsksTerm fp text term) :
    PlainTerm fp text := by
  cases h with
  | written hfield hfieldWord hagg haggWord => exact .inl ⟨_, _, rfl, hfield, hfieldWord, hagg, haggWord⟩
  | bare hfield => exact .inr hfield

/-- A term is parsed as what it asks for. -/
theorem AsksTerm.parsed {text : String} {term : String × AggregationType} {measure : Measure}
    (h : AsksTerm g.formulaParser text term) (htrim : Str.trim text = text)
    (hparse : g.formulaParser.parseMeasure text = .ok measure) :
    g.aggregateColumn sourceAlias m.name measure = g.termText m sourceAlias term := by
  obtain ⟨hne, hplain⟩ := h.plainTerm.not_mem
  rw [FormulaParser.parseMeasure_of_no_bracket htrim hne (hplain '(' (by decide))] at hparse
  cases h with
  | written hfield hfieldWord hagg haggWord haggregation =>
    rw [FormulaParser.aggCaptures_eq_some.2 ⟨rfl, hfield, hfieldWord, hagg, haggWord⟩] at hparse
    obtain ⟨aggregation, haggregation', hmeasure⟩ := Res.bind_eq_ok.1 hparse
    obtain rfl := Except.ok.inj (haggregation.symm.trans haggregation')
    obtain rfl := Except.ok.inj hmeasure
    rfl
  | bare hfield =>
    have hnone : g.formulaParser.aggCaptures text = none := by
      refine FormulaParser.aggCaptures_eq_none.2 ?_
      rintro ⟨field, agg, rfl, -⟩
      exact (hfield.plain ':' (by simp)).1 rfl
    rw [hnone] at hparse
    obtain rfl := Except.ok.inj hparse
    rfl

/-- A formula that is built is compiled. -/
theorem compiled_of_built {measure : Measure} {t : SqlText}
    (hneeds : FormulaParser.needsParse (Str.trim measure.formula.expression) = true)
    (hshift : Str.startsWith (Str.trim measure.formula.expression) "time_shift(" = false)
    (hbuilt : g.buildMeasureExpression sourceAlias m.name measure = .ok t) :
    Compiled g sourceAlias m.name (Str.trim measure.formula.expression) t := by
  obtain ⟨⟨fault, hfault⟩, -⟩ | ⟨⟨sql, hsql, hcompiled⟩, -⟩ :=
    @buildMeasureExpression_of_formula g sourceAlias m.name measure hneeds hshift
  · rw [hfault] at hbuilt
    cases hbuilt
  · obtain rfl := Except.ok.inj (hsql.symm.trans hbuilt)
    exact hcompiled

/-- **The text of a measure** is that of what it asks for. -/
theorem AsksFor.built {measure : Measure} {asked : AskedMeasure} {t : SqlText} (h : AsksFor g.formulaParser measure asked)
    (hbuilt : g.buildMeasureExpression sourceAlias m.name measure = .ok t) : t = g.measureText m sourceAlias asked := by
  have htrim := Str.trim_trim measure.formula.expression
  cases h with
  | field hcolon hbracket =>
    have hneeds : FormulaParser.needsParse (Str.trim measure.formula.expression) = false :=
      FormulaParser.needsParse_eq_false (fun hmem => hcolon (Str.mem_of_mem_trim (htrim ▸ hmem)))
        fun hmem => hbracket (Str.mem_of_mem_trim (htrim ▸ hmem))
    have hcolumn : g.resolveExpression sourceAlias m.name measure.formula.expression =
        .ok (g.qualifyField m.name measure.formula.expression sourceAlias) :=
      resolveExpression_of_no_call (parseFunctionCall_of_no_bracket hbracket)
    rw [buildMeasureExpression, hneeds, buildStandardAggregation, hcolumn] at hbuilt
    exact (Except.ok.inj hbuilt).symm
  | call hneeds hcall =>
    rename_i call
    have hcalled : g.resolveExpression sourceAlias m.name measure.formula.expression =
        .ok ([.func call.name] ++ code "(" ++ join ", " (call.args.map (g.functionArgText sourceAlias m.name)) ++ code ")") :=
      resolveExpression_of_call (parseFunctionCall_eq_some.2 hcall)
    rw [buildMeasureExpression, hneeds, buildStandardAggregation, hcalled] at hbuilt
    exact (Except.ok.inj hbuilt).symm
  | shorthand hcolon hterm =>
    obtain ⟨hne, hplain⟩ := hterm.plainTerm.not_mem
    have hbracket := hplain '(' (by decide)
    have hneeds : FormulaParser.needsParse (Str.trim measure.formula.expression) = true := by
      have hcontains : Str.containsChar (Str.trim measure.formula.expression) ':' = true := by
        simpa [Str.containsChar] using hcolon
      unfold FormulaParser.needsParse
      dsimp only
      rw [htrim, if_neg hne, hcontains]
      rfl
    have hcompiled := compiled_of_built hneeds (Str.startsWith_eq_false (by decide) hbracket) hbuilt
    obtain ⟨-, parsed, hparse, rfl⟩ := hcompiled.of_no_bracket htrim hbracket
    exact hterm.parsed htrim hparse
  | ratio htext hnum hdenom =>
    rename_i num denom numTerm denomTerm
    have hstarts (fn : String) : Str.startsWith ("ratio(" ++ num ++ "," ++ denom ++ ")") fn =
        Str.startsWith ("ratio(" ++ (num ++ "," ++ denom ++ ")")) fn := by simp only [String.append_assoc]
    have hneeds : FormulaParser.needsParse (Str.trim measure.formula.expression) = true := by
      have hratio : Str.startsWith (Str.trim measure.formula.expression) "ratio(" = true := by
        rw [htext, hstarts]
        exact startsWith_append _ _
      have hne : Str.trim measure.formula.expression ≠ "" := by
        intro hempty
        rw [hempty] at hratio
        exact absurd hratio (by decide)
      unfold FormulaParser.needsParse
      dsimp only
      rw [htrim, if_neg hne, hratio]
      simp
    have hshift : Str.startsWith (Str.trim measure.formula.expression) "time_shift(" = false := by
      rw [htext, hstarts]
      exact startsWith_append_eq_false (by decide) (by decide) _
    have hcompiled := compiled_of_built hneeds hshift hbuilt
    rw [htext] at hcompiled
    obtain ⟨numMeasure, denomMeasure, hparseNum, hparseDenom, rfl⟩ :=
      hcompiled.of_ratio hnum.plainTerm.not_mem hdenom.plainTerm.not_mem
    have hnumText : g.aggregateColumn sourceAlias m.name numMeasure = g.termText m sourceAlias numTerm :=
      hnum.parsed (Str.trim_trim _) hparseNum
    have hdenomText : g.aggregateColumn sourceAlias m.name denomMeasure = g.termText m sourceAlias denomTerm :=
      hdenom.parsed (Str.trim_trim _) hparseDenom
    rw [hnumText, hdenomText]
    rfl

end

namespace SqlGenerator

section

variable {words : Words} {g : SqlGenerator} {m : Model} {sourceAlias : String}

/-- A field that is seen is written as its column. -/
theorem Seen.column {field : String} (h : Seen words g m sourceAlias field) :
    g.columnOf m sourceAlias field = some (g.columnExpr m sourceAlias field) ∧
      ((g.dialectFor m.name).sees words (g.linkAliases m sourceAlias) (g.columnExpr m sourceAlias field).owner = true ∧
        (g.dialectFor m.name).HasName (g.columnExpr m sourceAlias field).name) ∧
      g.qualifyField m.name field sourceAlias =
        qualified (g.columnExpr m sourceAlias field).owner (g.columnExpr m sourceAlias field).name := by
  obtain ⟨c, hc, hsees⟩ := h
  have hexpr : g.columnExpr m sourceAlias field = c := by rw [columnExpr, hc]; rfl
  rw [hexpr]
  refine ⟨hc, hsees, ?_⟩
  obtain ⟨p, hp, rfl⟩ := Option.map_eq_some_iff.1 hc
  rw [qualifyField_eq, hp]
  rfl

theorem Seen.read {field : String} (h : Seen words g m sourceAlias field) :
    readRowExpr words (g.dialectFor m.name) (g.linkAliases m sourceAlias) (g.qualifyField m.name field sourceAlias) =
      some (.column (g.columnExpr m sourceAlias field)) := by
  obtain ⟨-, hsees, htext⟩ := h.column
  rw [htext]
  exact readRowExpr_qualified hsees.1 hsees.2

/-- An aggregation of a field is read as one. -/
theorem SeenTerm.read {term : String × AggregationType} (h : SeenTerm words g m sourceAlias term) :
    readAggregate words (g.dialectFor m.name) (g.linkAliases m sourceAlias) (g.termText m sourceAlias term) =
      some (g.termExpr m sourceAlias term) := by
  obtain ⟨hnamed, hfield⟩ := h
  obtain ⟨field, aggregation⟩ := term
  unfold termExpr termText
  by_cases hstar : field = "*"
  · rw [if_pos hstar] at hfield ⊢
    subst hstar
    obtain rfl : aggregation = .count := hfield
    rfl
  · rw [if_neg hstar] at hfield ⊢
    exact readAggregate_aggregateText hfield.read hnamed

/-- The arguments of a call are read. -/
theorem readArgs_join {args : List FunctionArg} (h : ∀ column, .column column ∈ args → Seen words g m sourceAlias column) :
    readArgs words (g.dialectFor m.name) (g.linkAliases m sourceAlias)
        (join ", " (args.map (g.functionArgText sourceAlias m.name)) ++ code ")") =
      some (args.map (g.argExpr m sourceAlias)) := by
  have hcolumn {column : String} (hseen : Seen words g m sourceAlias column) :
      readColumn words (g.dialectFor m.name) (g.linkAliases m sourceAlias) true (g.columnExpr m sourceAlias column).owner
        (g.columnExpr m sourceAlias column).name = some (g.columnExpr m sourceAlias column) :=
    readColumn_of_sees hseen.column.2.1.1 hseen.column.2.1.2
  induction args with
  | nil => rfl
  | cons arg args ih =>
    have ih := ih fun column hmem => h column (List.mem_cons_of_mem _ hmem)
    cases args with
    | nil =>
      cases arg with
      | number n => rfl
      | column column =>
        have hseen := h column List.mem_cons_self
        have htext : join ", " ([FunctionArg.column column].map (g.functionArgText sourceAlias m.name)) =
            g.qualifyField m.name column sourceAlias := rfl
        rw [htext, hseen.column.2.2]
        show (readColumn _ _ _ true _ _).map _ = _
        rw [hcolumn hseen]
        rfl
    | cons arg' args =>
      have htext : join ", " ((arg :: arg' :: args).map (g.functionArgText sourceAlias m.name)) ++ code ")" =
          g.functionArgText sourceAlias m.name arg ++ .code ", " ::
            (join ", " ((arg' :: args).map (g.functionArgText sourceAlias m.name)) ++ code ")") := by
        rw [List.map_cons, List.map_cons, join, List.append_assoc, List.append_assoc]
        rfl
      rw [htext]
      generalize join ", " ((arg' :: args).map (g.functionArgText sourceAlias m.name)) ++ code ")" = rest at ih
      cases arg with
      | number n =>
        show (readArgs _ _ _ rest).map _ = _
        rw [ih]
        rfl
      | column column =>
        have hseen := h column List.mem_cons_self
        rw [functionArgText, hseen.column.2.2]
        show ((readColumn _ _ _ true _ _).bind fun c => (readArgs _ _ _ rest).bind _) = _
        rw [hcolumn hseen, ih]
        rfl

/-- No piece of an aggregation is the middle of a quotient. -/
theorem termText_no_quotient {term : String × AggregationType} (h : SeenTerm words g m sourceAlias term) :
    ∀ f ∈ g.termText m sourceAlias term, f ≠ .code " / NULLIF(" := by
  obtain ⟨hnamed, hfield⟩ := h
  obtain ⟨field, aggregation⟩ := term
  have hcolumn : ∀ f ∈ g.qualifyField m.name field sourceAlias, f ≠ .code " / NULLIF(" := by
    by_cases hstar : field = "*"
    · subst hstar
      have htext : g.qualifyField m.name "*" sourceAlias = [.code "*"] := rfl
      rw [htext]
      decide
    · rw [if_neg hstar] at hfield
      rw [hfield.column.2.2]
      simp [qualified, raw, code, ident]
  have hfn : .code aggregation.sqlFunction ≠ Frag.code " / NULLIF(" := by
    cases aggregation with
    | custom name =>
      intro heq
      obtain rfl := Frag.code.inj heq
      exact absurd hnamed.1.1 (by decide)
    | _ => decide
  unfold termText aggregateText
  split_ifs
  · simpa [code, or_imp, forall_and] using ⟨fun heq => hfn (congrArg Frag.code heq), hcolumn⟩
  · simpa [code, or_imp, forall_and] using ⟨fun heq => hfn (congrArg Frag.code heq), hcolumn⟩

/-- **A measure is read as what it asks for.** -/
theorem SeenMeasure.read {asked : AskedMeasure} (h : SeenMeasure words g m sourceAlias asked) :
    readGroupExpr words (g.dialectFor m.name) (g.linkAliases m sourceAlias) (g.measureText m sourceAlias asked) =
      some (g.measureExpr m sourceAlias asked) := by
  have haggregate {aggregation : AggregationType} (hnamed : aggregation.Named words) (arg : SqlText) :
      readGroupExpr words (g.dialectFor m.name) (g.linkAliases m sourceAlias) (aggregateText aggregation arg) =
        readAggregate words (g.dialectFor m.name) (g.linkAliases m sourceAlias) (aggregateText aggregation arg) := by
    have hfn : aggregation.sqlFunction ≠ "(" := by
      cases aggregation with
      | custom name =>
        rintro rfl
        exact absurd hnamed.1.1 (by decide)
      | _ => decide
    unfold aggregateText
    split_ifs
    · show (if aggregation.sqlFunction = "(" then _ else readAggregate _ _ _ _) = _
      rw [if_neg hfn]
      rfl
    · show (if aggregation.sqlFunction = "(" then _ else readAggregate _ _ _ _) = _
      rw [if_neg hfn]
      rfl
  cases asked with
  | ofField field aggregation => exact (haggregate h.1 _).trans (SeenTerm.read h)
  | ofCall call aggregation =>
    obtain ⟨⟨hnamed, hfunction⟩, hargs⟩ := h
    refine (haggregate hnamed _).trans (readAggregate_aggregateText ?_ hnamed)
    show ((readArgs _ _ _ (join ", " _ ++ code ")")).bind fun args => if words.ofRow call.name args.length then _ else _) = _
    rw [readArgs_join hargs, Option.bind_some, List.length_map, if_pos hfunction]
  | ratio num denom =>
    obtain ⟨hnum, hdenom⟩ := h
    have htext : g.measureText m sourceAlias (.ratio num denom) = .code "(" ::
        (g.termText m sourceAlias num ++ .code " / NULLIF(" :: (g.termText m sourceAlias denom ++ code ", 0))")) := by
      simp [measureText, ratioText, code]
    have htake : (g.termText m sourceAlias num ++ .code " / NULLIF(" ::
        (g.termText m sourceAlias denom ++ code ", 0))")).takeWhile (· ≠ .code " / NULLIF(") = g.termText m sourceAlias num := by
      rw [List.takeWhile_append_of_pos (by simpa using termText_no_quotient hnum)]
      simp
    have hdrop : (g.termText m sourceAlias num ++ .code " / NULLIF(" ::
        (g.termText m sourceAlias denom ++ code ", 0))")).dropWhile (· ≠ .code " / NULLIF(") =
          .code " / NULLIF(" :: (g.termText m sourceAlias denom ++ code ", 0))") := by
      rw [List.dropWhile_append_of_pos (by simpa using termText_no_quotient hnum)]
      simp
    rw [htext, readGroupExpr, if_pos rfl, htake, hdrop, List.drop_succ_cons, List.drop_zero, hnum.read,
      beforeBracket_append]
    simp only [bind, Option.bind, hdenom.read]
    rfl

end

end SqlGenerator

end GraphNight
