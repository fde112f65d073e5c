import GraphNight.Sql.Statement
import GraphNight.Sql.WhereClause

/-!
# The names a statement uses

A column is written after the alias of its table. Which aliases and columns a text
names is read back from its pieces; what a field stands for is decided once, by
`resolveField`, and every builder's text is described by the fields it was given.
-/

namespace GraphNight

open SqlText

/-- A name in a text. -/
inductive NameRef where
  /-- A column after its table's alias. -/
  | column (owner name : String) (quoted : Bool)
  /-- A name with no alias before it, spliced as it stands. -/
  | alone (name : String)
deriving DecidableEq, Repr

/-- The alias a name depends on; a name that stands alone is one itself. -/
def NameRef.qualifier : NameRef → String
  | .column owner _ _ => owner
  | .alone name => name

/-- A text spliced as it stands, read as a name. -/
def rawRef (text : String) : NameRef :=
  match Str.rsplitOnce text '.' with
  | some (owner, name) => .column owner name false
  | none => .alone text

/-- A name that does not hold a dot is behind the last dot. -/
theorem rawRef_append {column : String} (h : '.' ∉ column.toList) (owner : String) :
    rawRef (owner ++ "." ++ column) = .column owner column false := by
  have hsplit : Str.rsplitOnce (owner ++ "." ++ column) '.' = some (owner, column) := Str.rsplitOnce_append h owner
  rw [rawRef, hsplit]

/-- A name that is spliced as it stands has no quotes. -/
theorem rawRef_ne_quoted (text owner column : String) : rawRef text ≠ .column owner column true := by
  unfold rawRef
  cases Str.rsplitOnce text '.' with
  | none => exact fun h => by cases h
  | some parts => exact fun h => by cases h

/-- A name under way: an alias so far, with or without the dot after it. -/
inductive OpenName where
  | none
  | name (a : String)
  | dotted (a : String)

def OpenName.close : OpenName → List NameRef
  | none => []
  | name a | dotted a => [rawRef a]

/-- The names of a text that continues an open name, in order. -/
def refsFrom : OpenName → SqlText → List NameRef
  | s, [] => s.close
  | .dotted a, .ident c :: t => .column a c true :: refsFrom .none t
  | .dotted a, .raw c :: t => rawRef (a ++ "." ++ c) :: refsFrom .none t
  | .name a, .code x :: t => if x = "." then refsFrom (.dotted a) t else rawRef a :: refsFrom .none t
  | s, .raw a :: t => s.close ++ refsFrom (.name a) t
  | s, _ :: t => s.close ++ refsFrom .none t

/-- The names of a text, in order. -/
def refs (t : SqlText) : List NameRef := refsFrom .none t

/-! ## Reading a text piece by piece -/

@[simp] theorem refs_nil : refs [] = [] := rfl

@[simp] theorem refs_code_cons (x : String) (t : SqlText) : refs (code x ++ t) = refs t := rfl

@[simp] theorem refs_code (x : String) : refs (code x) = [] := rfl

theorem refsFrom_append_code {x : String} (hx : x ≠ ".") (s : OpenName) (t u : SqlText) :
    refsFrom s (t ++ (code x ++ u)) = refsFrom s t ++ refs u := by
  induction t generalizing s with
  | nil =>
    cases s with
    | none => rfl
    | name a =>
      show (if x = "." then refsFrom (.dotted a) u else rawRef a :: refsFrom .none u) = _
      rw [if_neg hx]
      rfl
    | dotted a => rfl
  | cons f t ih =>
    rw [List.cons_append]
    cases s with
    | none => cases f <;> simp [refsFrom, OpenName.close, ih]
    | dotted a => cases f <;> simp [refsFrom, OpenName.close, ih]
    | name a =>
      cases f with
      | code y =>
        simp only [refsFrom, ih]
        split_ifs <;> rfl
      | _ => simp [refsFrom, OpenName.close, ih]

/-- A piece of code other than a dot ends the names before it. -/
theorem refs_append_code {x : String} (hx : x ≠ ".") (t u : SqlText) :
    refs (t ++ (code x ++ u)) = refs t ++ refs u :=
  refsFrom_append_code hx .none t u

theorem refs_append_code_end {x : String} (hx : x ≠ ".") (t : SqlText) : refs (t ++ code x) = refs t := by
  have h := refs_append_code hx t []
  simpa using h

theorem refs_join {sep : String} (hsep : sep ≠ ".") (ts : List SqlText) : refs (join sep ts) = ts.flatMap refs := by
  induction ts using join.induct with
  | case1 => rfl
  | case2 t => simp [join]
  | case3 t u rest ih =>
    rw [join, List.append_assoc, refs_append_code hsep, ih]
    rfl

/-- Text that begins with a blank is not a dot. -/
theorem blank_ne_dot (s : String) : " " ++ s ≠ "." := by
  intro h
  have hlist := congrArg String.toList h
  simp at hlist

theorem refs_append_blank (s : String) (t u : SqlText) : refs (t ++ (code (" " ++ s) ++ u)) = refs t ++ refs u :=
  refs_append_code (blank_ne_dot s) t u

theorem refs_call (fn : String) (arg : SqlText) : refs (call fn arg) = refs arg := by
  rw [call, List.append_assoc, refs_code_cons, refs_append_code_end (by decide)]

@[simp] theorem refs_qualified (a c : String) : refs (qualified a c) = [.column a c true] := rfl

theorem refs_aggregateText (agg : AggregationType) (column : SqlText) :
    refs (aggregateText agg column) = refs column := by
  unfold aggregateText
  split_ifs
  · rw [List.append_assoc, refs_code_cons, refs_append_code_end (by decide)]
  · rw [List.append_assoc, List.append_assoc, refs_code_cons, refs_code_cons, refs_append_code_end (by decide)]

namespace Dialect

/-- A truncated time is its column between two pieces of code. -/
theorem dateTrunc_shape (d : Dialect) (granularity : TimeGranularity) :
    ∃ x y, y ≠ "." ∧ ∀ column, d.dateTrunc granularity.dateTruncUnit column = code x ++ column ++ code y := by
  cases d with
  | postgres => exact ⟨_, ")", by decide, fun _ => rfl⟩
  | mySql =>
    have hformat : ∀ format : String, ∃ x y, y ≠ "." ∧ ∀ column : SqlText,
        (if format = "QUARTER" then call "QUARTER" column
          else code "DATE_FORMAT(" ++ column ++ code (", '" ++ format ++ "')")) = code x ++ column ++ code y := by
      intro format
      split_ifs
      · exact ⟨"QUARTER(", ")", by decide, fun _ => rfl⟩
      · refine ⟨"DATE_FORMAT(", _, ?_, fun _ => rfl⟩
        intro h
        have hlist := congrArg String.toList h
        simp at hlist
    exact hformat _
  | sqlite =>
    -- no format spells the word the quarter's branch looks for
    have hformat : ∀ format : String, Str.containsStr format "quarter" = false →
        ∃ x y, y ≠ "." ∧ ∀ column : SqlText, (if Str.containsStr format "quarter" then
          (((Str.splitStr format "\x7b\x7d").map code).intersperse column).flatten
          else code ("strftime('" ++ format ++ "', ") ++ column ++ code ")") = code x ++ column ++ code y := by
      intro format hno
      rw [hno]
      exact ⟨_, ")", by decide, fun _ => rfl⟩
    exact hformat _ (by cases granularity <;> decide +kernel)
  | duckDb =>
    by_cases hday : granularity.dateTruncUnit = "day"
    · exact ⟨_, ") AS DATE)", by decide, fun _ => if_pos hday⟩
    · exact ⟨_, ")", by decide, fun _ => if_neg hday⟩

theorem refs_dateTrunc (d : Dialect) (granularity : TimeGranularity) (column : SqlText) :
    refs (d.dateTrunc granularity.dateTruncUnit column) = refs column := by
  obtain ⟨x, y, hy, hshape⟩ := dateTrunc_shape d granularity
  rw [hshape, List.append_assoc, refs_code_cons, refs_append_code_end hy]

end Dialect

/-! ## What a field stands for -/

namespace SqlGenerator

/-- The alias and column a field is resolved to; the star is no column. -/
def resolveField (g : SqlGenerator) (base field sourceAlias : String) : Option (String × String) :=
  if field = "*" then none
  else
    match g.model base with
    | none => some (sourceAlias, field)
    | some m =>
      if modelHasPlainField m field then some (sourceAlias, field)
      else
        match g.findJoin m.joins fun _ joined => modelHasPlainField joined field with
        | some (join, _) => some (joinAlias join, field)
        | none =>
          match Str.rsplitOnce field '.' with
          | some (pre, column) =>
            if pre = base then some (sourceAlias, column)
            else
              match g.findJoin m.joins (joinOwns pre column) with
              | some (join, _) => some (joinAlias join, column)
              | none => some (sourceAlias, field)
          | none => some (sourceAlias, field)

/-- The text of a resolved field. -/
def columnText : Option (String × String) → SqlText
  | none => code "*"
  | some (owner, column) => qualified owner column

theorem qualifyField_eq (g : SqlGenerator) (base field sourceAlias : String) :
    g.qualifyField base field sourceAlias = columnText (g.resolveField base field sourceAlias) := by
  unfold qualifyField resolveField
  by_cases hstar : field = "*"
  · simp only [if_pos hstar, columnText]
  simp only [if_neg hstar]
  cases g.model base with
  | none => rfl
  | some m =>
    by_cases hplain : modelHasPlainField m field = true
    · simp only [if_pos hplain, columnText]
    simp only [if_neg hplain]
    cases g.findJoin m.joins fun _ joined => modelHasPlainField joined field with
    | some found => rfl
    | none =>
      cases Str.rsplitOnce field '.' with
      | none => rfl
      | some parts =>
        by_cases hbase : parts.1 = base
        · simp only [if_pos hbase, columnText]
        · simp only [if_neg hbase]
          cases g.findJoin m.joins (joinOwns parts.1 parts.2) <;> rfl

theorem resolveField_eq_none {g : SqlGenerator} {base field sourceAlias : String} :
    g.resolveField base field sourceAlias = none ↔ field = "*" := by
  unfold resolveField
  constructor
  · intro h
    by_contra hstar
    rw [if_neg hstar] at h
    repeat' split at h
    all_goals cases h
  · intro h
    rw [if_pos h]

/-- The name a field stands for. -/
def fieldRefs (g : SqlGenerator) (base sourceAlias field : String) : List NameRef :=
  (g.resolveField base field sourceAlias).toList.map fun p => .column p.1 p.2 true

theorem refs_qualifyField (g : SqlGenerator) (base field sourceAlias : String) :
    refs (g.qualifyField base field sourceAlias) = g.fieldRefs base sourceAlias field := by
  rw [qualifyField_eq, fieldRefs]
  cases g.resolveField base field sourceAlias <;> rfl

/-- What a measure reads: some fields, and the source alias where it opens a window. -/
structure MeasureReads where
  fields : List String
  window : Bool
deriving DecidableEq, Repr

/-- The columns among the arguments of a call. -/
def argFields (args : List FunctionArg) : List String :=
  args.filterMap fun
    | .column col => some col
    | .number _ => none

/-- The fields of an expression: itself, or the arguments of a call. -/
def expressionFields (expr : String) : Res String (List String) := do
  let call ← (parseFunctionCall expr).mapErr fun e => "Invalid formula '" ++ expr ++ "': " ++ e
  return call.elim [expr] fun call => argFields call.args

section

variable (g : SqlGenerator)

def timeShiftReads (expr : String) : Res String MeasureReads := do
  let (inner, _, _) ← Res.ofOption "Invalid formula: malformed time_shift expression"
    (g.formulaParser.timeShiftCaptures expr)
  let inner ← g.formulaParser.parseMeasure (Str.trim inner)
  return ⟨[inner.formula.expression], true⟩

def ratioReads (expr : String) : Res String MeasureReads := do
  let (num, denom) ← Res.ofOption "Invalid formula: malformed ratio expression"
    (FormulaParser.ratioCaptures expr)
  let num ← g.formulaParser.parseMeasure (Str.trim num)
  let denom ← g.formulaParser.parseMeasure (Str.trim denom)
  return ⟨[num.formula.expression, denom.formula.expression], false⟩

/-- The functions of one measure that open a window. -/
def windowReads (fn expr : String) : Res String MeasureReads := do
  let inner ← formulaArgument fn expr
  let inner ← g.formulaParser.parseMeasure inner
  return ⟨[inner.formula.expression], true⟩

def standardReads (measure : Measure) : Res String MeasureReads := do
  let fields ← expressionFields measure.formula.expression
  return ⟨fields, false⟩

/-- What the expression of a measure reads, by the form it has. -/
def measureReads (measure : Measure) : Res String MeasureReads :=
  let expr := Str.trim measure.formula.expression
  if FormulaParser.needsParse expr then
    if Str.startsWith expr "time_shift(" then g.timeShiftReads expr
    else if Str.startsWith expr "ratio(" then g.ratioReads expr
    else if Str.startsWith expr "pct_change(" then g.windowReads "pct_change" expr
    else if Str.startsWith expr "running_total(" then g.windowReads "running_total" expr
    else do
      let parsed ← (g.formulaParser.parseMeasure expr).mapErr fun e =>
        "Invalid formula '" ++ expr ++ "': " ++ e
      standardReads parsed
  else standardReads measure

/-- A text names the fields a measure reads, and the source alias where that opens a
window. -/
def Names (base sourceAlias : String) (t : SqlText) (reads : MeasureReads) : Prop :=
  ∀ r, r ∈ refs t ↔ (∃ field ∈ reads.fields, r ∈ g.fieldRefs base sourceAlias field) ∨
    (reads.window = true ∧ r = rawRef sourceAlias)

end

section

variable {g : SqlGenerator} {query : Query} {d : Dialect} {base sourceAlias : String}

theorem refs_functionArgs (args : List FunctionArg) :
    (args.map (g.functionArgText sourceAlias base)).flatMap refs =
      (argFields args).flatMap (g.fieldRefs base sourceAlias) := by
  induction args with
  | nil => rfl
  | cons arg args ih =>
    rw [List.map_cons, List.flatMap_cons, ih]
    cases arg with
    | column col =>
      show refs (g.qualifyField base col sourceAlias) ++ _ = _
      rw [refs_qualifyField]
      rfl
    | number n => rfl

theorem refs_resolveExpression {expr : String} {t : SqlText}
    (h : g.resolveExpression sourceAlias base expr = .ok t) :
    ∃ fields, expressionFields expr = .ok fields ∧ refs t = fields.flatMap (g.fieldRefs base sourceAlias) := by
  unfold resolveExpression at h
  unfold expressionFields
  obtain ⟨call, hcall, h⟩ := Res.bind_eq_ok.1 h
  simp only [hcall, bind, Except.bind, pure, Except.pure, Except.ok.injEq, exists_eq_left']
  cases call with
  | none =>
    obtain rfl := Except.ok.inj h
    simp [refs_qualifyField]
  | some call =>
    obtain rfl := Except.ok.inj h
    show refs (code "(" ++ join ", " _ ++ code ")") = _
    rw [refs_append_code_end (by decide), refs_code_cons, refs_join (by decide), refs_functionArgs]
    rfl

theorem names_buildStandardAggregation {measure : Measure} {t : SqlText}
    (h : g.buildStandardAggregation sourceAlias base measure = .ok t) :
    ∃ reads, standardReads measure = .ok reads ∧ g.Names base sourceAlias t reads := by
  obtain ⟨column, hcolumn, h⟩ := Res.bind_eq_ok.1 h
  obtain rfl := Except.ok.inj h
  obtain ⟨fields, hfields, hrefs⟩ := refs_resolveExpression hcolumn
  refine ⟨⟨fields, false⟩, ?_, fun r => ?_⟩
  · simp only [standardReads, hfields, bind, Except.bind, pure, Except.pure]
  · rw [refs_aggregateText, hrefs]
    simp

theorem refs_aggregateColumn (measure : Measure) :
    refs (g.aggregateColumn sourceAlias base measure) = g.fieldRefs base sourceAlias measure.formula.expression := by
  rw [aggregateColumn, refs_aggregateText, refs_qualifyField]

/-- A window names what it is over, and the source alias it is ordered by. -/
theorem refs_window {fn mid close : String} (hmid : mid ≠ ".") (hclose : close ≠ ".") (t : SqlText) :
    refs (code fn ++ t ++ code mid ++ raw sourceAlias ++ code close) = refs t ++ [rawRef sourceAlias] := by
  have hend : refs (raw sourceAlias ++ code close) = [rawRef sourceAlias] := by
    rw [refs_append_code_end hclose]
    rfl
  simp only [List.append_assoc]
  rw [refs_code_cons, refs_append_code hmid, hend]

theorem names_buildTimeShift {expr : String} {t : SqlText}
    (h : g.buildTimeShiftExpression sourceAlias base expr = .ok t) :
    ∃ reads, g.timeShiftReads expr = .ok reads ∧ g.Names base sourceAlias t reads := by
  obtain ⟨⟨inner, offset, granularity⟩, hcaps, h⟩ := Res.bind_eq_ok.1 h
  obtain ⟨parsed, hparsed, h⟩ := Res.bind_eq_ok.1 h
  obtain rfl := Except.ok.inj h
  refine ⟨⟨[parsed.formula.expression], true⟩, ?_, fun r => ?_⟩
  · simp only [timeShiftReads, hcaps, hparsed, bind, Except.bind, pure, Except.pure]
  · rw [refs_window (by decide) (by decide), refs_aggregateColumn]
    simp

theorem names_buildRatio {expr : String} {t : SqlText}
    (h : g.buildRatioExpression sourceAlias base expr = .ok t) :
    ∃ reads, g.ratioReads expr = .ok reads ∧ g.Names base sourceAlias t reads := by
  obtain ⟨⟨num, denom⟩, hcaps, h⟩ := Res.bind_eq_ok.1 h
  obtain ⟨num, hnum, h⟩ := Res.bind_eq_ok.1 h
  obtain ⟨denom, hdenom, h⟩ := Res.bind_eq_ok.1 h
  obtain rfl := Except.ok.inj h
  refine ⟨⟨[num.formula.expression, denom.formula.expression], false⟩, ?_, fun r => ?_⟩
  · simp only [ratioReads, hcaps, hnum, hdenom, bind, Except.bind, pure, Except.pure]
  · simp only [List.append_assoc]
    rw [refs_code_cons, refs_append_code (by decide), refs_append_code_end (by decide), refs_aggregateColumn,
      refs_aggregateColumn]
    simp

theorem names_buildPctChange {expr : String} {t : SqlText}
    (h : g.buildPctChangeExpression sourceAlias base expr = .ok t) :
    ∃ reads, g.windowReads "pct_change" expr = .ok reads ∧ g.Names base sourceAlias t reads := by
  obtain ⟨inner, hinner, h⟩ := Res.bind_eq_ok.1 h
  obtain ⟨parsed, hparsed, h⟩ := Res.bind_eq_ok.1 h
  obtain rfl := Except.ok.inj h
  refine ⟨⟨[parsed.formula.expression], true⟩, ?_, fun r => ?_⟩
  · simp only [windowReads, hinner, hparsed, bind, Except.bind, pure, Except.pure]
  · generalize hlag : code "LAG(" ++ g.aggregateColumn sourceAlias base parsed ++
      code ") OVER (ORDER BY " ++ raw sourceAlias ++ code ")" = lag
    have hrefs : refs lag = g.fieldRefs base sourceAlias parsed.formula.expression ++ [rawRef sourceAlias] := by
      rw [← hlag, refs_window (by decide) (by decide), refs_aggregateColumn]
    simp only [List.append_assoc]
    rw [refs_code_cons, refs_append_code (by decide), refs_append_code (by decide),
      refs_append_code_end (by decide), refs_aggregateColumn, hrefs]
    simp only [List.mem_append, List.mem_singleton, exists_eq_left, true_and]
    have hmerge : ∀ p q : Prop, p ∨ (p ∨ q) ∨ p ∨ q ↔ p ∨ q := by simp
    exact hmerge _ _

theorem names_buildRunningTotal {expr : String} {t : SqlText}
    (h : g.buildRunningTotalExpression sourceAlias base expr = .ok t) :
    ∃ reads, g.windowReads "running_total" expr = .ok reads ∧ g.Names base sourceAlias t reads := by
  obtain ⟨inner, hinner, h⟩ := Res.bind_eq_ok.1 h
  obtain ⟨parsed, hparsed, h⟩ := Res.bind_eq_ok.1 h
  obtain rfl := Except.ok.inj h
  refine ⟨⟨[parsed.formula.expression], true⟩, ?_, fun r => ?_⟩
  · simp only [windowReads, hinner, hparsed, bind, Except.bind, pure, Except.pure]
  · rw [refs_window (by decide) (by decide), refs_aggregateColumn]
    simp

/-- **The names of a measure** are those of the fields it reads, and the source alias
when it opens a window. -/
theorem names_buildMeasure {measure : Measure} {t : SqlText}
    (h : g.buildMeasureExpression sourceAlias base measure = .ok t) :
    ∃ reads, g.measureReads measure = .ok reads ∧ g.Names base sourceAlias t reads := by
  unfold buildMeasureExpression at h
  unfold measureReads
  dsimp only at h ⊢
  generalize Str.trim measure.formula.expression = expr at h ⊢
  by_cases hparse : FormulaParser.needsParse expr = true
  · rw [if_pos hparse] at h ⊢
    by_cases hshift : Str.startsWith expr "time_shift(" = true
    · rw [if_pos hshift] at h ⊢
      exact names_buildTimeShift h
    rw [if_neg hshift] at h ⊢
    by_cases hratio : Str.startsWith expr "ratio(" = true
    · rw [if_pos hratio] at h ⊢
      exact names_buildRatio h
    rw [if_neg hratio] at h ⊢
    by_cases hpct : Str.startsWith expr "pct_change(" = true
    · rw [if_pos hpct] at h ⊢
      exact names_buildPctChange h
    rw [if_neg hpct] at h ⊢
    by_cases htotal : Str.startsWith expr "running_total(" = true
    · rw [if_pos htotal] at h ⊢
      exact names_buildRunningTotal h
    rw [if_neg htotal] at h ⊢
    obtain ⟨parsed, hparsed, h⟩ := Res.bind_eq_ok.1 h
    obtain ⟨reads, hreads, hnames⟩ := names_buildStandardAggregation h
    refine ⟨reads, ?_, hnames⟩
    simp only [hparsed, hreads, bind, Except.bind]
  · rw [if_neg hparse] at h ⊢
    exact names_buildStandardAggregation h

/-- What is read can be built. -/
theorem exists_buildStandardAggregation {measure : Measure} {reads : MeasureReads} (sourceAlias base : String)
    (h : standardReads measure = .ok reads) : ∃ t, g.buildStandardAggregation sourceAlias base measure = .ok t := by
  obtain ⟨fields, hfields, -⟩ := Res.bind_eq_ok.1 h
  obtain ⟨call, hcall, -⟩ := Res.bind_eq_ok.1 hfields
  have hresolve : ∃ column, g.resolveExpression sourceAlias base measure.formula.expression = .ok column := by
    cases call with
    | none => exact ⟨_, Res.bind_eq_ok.2 ⟨none, hcall, rfl⟩⟩
    | some call => exact ⟨_, Res.bind_eq_ok.2 ⟨some call, hcall, rfl⟩⟩
  obtain ⟨column, hcolumn⟩ := hresolve
  exact ⟨_, Res.bind_eq_ok.2 ⟨column, hcolumn, rfl⟩⟩

theorem exists_buildMeasureExpression {measure : Measure} {reads : MeasureReads} (sourceAlias base : String)
    (h : g.measureReads measure = .ok reads) : ∃ t, g.buildMeasureExpression sourceAlias base measure = .ok t := by
  unfold measureReads at h
  unfold buildMeasureExpression
  dsimp only at h ⊢
  generalize Str.trim measure.formula.expression = expr at h ⊢
  by_cases hparse : FormulaParser.needsParse expr = true
  · rw [if_pos hparse] at h ⊢
    by_cases hshift : Str.startsWith expr "time_shift(" = true
    · rw [if_pos hshift] at h ⊢
      obtain ⟨⟨inner, offset, granularity⟩, hcaps, h⟩ := Res.bind_eq_ok.1 h
      obtain ⟨parsed, hparsed, -⟩ := Res.bind_eq_ok.1 h
      exact ⟨_, Res.bind_eq_ok.2 ⟨_, hcaps, Res.bind_eq_ok.2 ⟨parsed, hparsed, rfl⟩⟩⟩
    rw [if_neg hshift] at h ⊢
    by_cases hratio : Str.startsWith expr "ratio(" = true
    · rw [if_pos hratio] at h ⊢
      obtain ⟨⟨num, denom⟩, hcaps, h⟩ := Res.bind_eq_ok.1 h
      obtain ⟨parsedNum, hnum, h⟩ := Res.bind_eq_ok.1 h
      obtain ⟨parsedDenom, hdenom, -⟩ := Res.bind_eq_ok.1 h
      exact ⟨_, Res.bind_eq_ok.2 ⟨_, hcaps, Res.bind_eq_ok.2 ⟨parsedNum, hnum, Res.bind_eq_ok.2 ⟨parsedDenom, hdenom, rfl⟩⟩⟩⟩
    rw [if_neg hratio] at h ⊢
    by_cases hpct : Str.startsWith expr "pct_change(" = true
    · rw [if_pos hpct] at h ⊢
      obtain ⟨inner, hinner, h⟩ := Res.bind_eq_ok.1 h
      obtain ⟨parsed, hparsed, -⟩ := Res.bind_eq_ok.1 h
      exact ⟨_, Res.bind_eq_ok.2 ⟨inner, hinner, Res.bind_eq_ok.2 ⟨parsed, hparsed, rfl⟩⟩⟩
    rw [if_neg hpct] at h ⊢
    by_cases htotal : Str.startsWith expr "running_total(" = true
    · rw [if_pos htotal] at h ⊢
      obtain ⟨inner, hinner, h⟩ := Res.bind_eq_ok.1 h
      obtain ⟨parsed, hparsed, -⟩ := Res.bind_eq_ok.1 h
      exact ⟨_, Res.bind_eq_ok.2 ⟨inner, hinner, Res.bind_eq_ok.2 ⟨parsed, hparsed, rfl⟩⟩⟩
    rw [if_neg htotal] at h ⊢
    obtain ⟨parsed, hparsed, h⟩ := Res.bind_eq_ok.1 h
    obtain ⟨t, ht⟩ := exists_buildStandardAggregation sourceAlias base h
    exact ⟨t, Res.bind_eq_ok.2 ⟨parsed, hparsed, ht⟩⟩
  · rw [if_neg hparse] at h ⊢
    exact exists_buildStandardAggregation sourceAlias base h

/-! ## Conditions -/

theorem refs_renderValues (mode : ValueMode) (params vs : List Value) :
    ∀ t ∈ (renderValues mode params vs).2, refs t = [] := by
  induction vs generalizing params with
  | nil => exact fun t ht => absurd ht List.not_mem_nil
  | cons v vs ih =>
    rw [renderValues_cons]
    intro t ht
    rcases List.mem_cons.1 ht with rfl | ht
    · cases mode <;> rfl
    · exact ih _ t ht

theorem refs_spatialGeometry (t : SqlText) (wkt : Bool) (ht : refs t = []) :
    refs ((d.spatialGeometry t wkt).getD []) = [] := by
  have hctor : refs (ogcGeometryCtor t wkt) = [] := by
    rw [ogcGeometryCtor, List.append_assoc, refs_code_cons, refs_append_code_end (by decide), ht]
  cases d with
  | postgres => exact hctor
  | mySql => rfl
  | sqlite => rfl
  | duckDb => exact hctor

/-- A comparison names its column. -/
theorem refs_comparison {column : SqlText} {f : Filter} {items : List SqlText} (hitems : ∀ t ∈ items, refs t = []) :
    refs (comparison d column f items) = refs column := by
  have hitem : ∀ i, refs (items.getD i []) = [] := by
    intro i
    rw [List.getD_eq_getElem?_getD]
    cases hi : items[i]? with
    | none => rfl
    | some t => exact hitems t (List.mem_of_getElem? hi)
  have hjoin : refs (join ", " items) = [] := by
    rw [refs_join (by decide)]
    exact List.flatMap_eq_nil_iff.2 hitems
  unfold comparison
  cases f.operator.spatialFunction with
  | some function =>
    simp only [List.append_assoc]
    rw [refs_code_cons, refs_append_code (by decide), refs_append_code_end (by decide),
      refs_spatialGeometry _ _ (hitem 0), List.append_nil]
  | none =>
    generalize f.operator.sqlOperator.getD "" = op
    dsimp only
    by_cases hin : f.operator = .in ∨ f.operator = .notIn
    · rw [if_pos hin]
      simp only [List.append_assoc, String.append_assoc]
      rw [refs_append_blank, refs_append_code_end (by decide), hjoin, List.append_nil]
    rw [if_neg hin]
    by_cases htwo : f.operator.needsTwoValues = true
    · rw [if_pos htwo]
      simp only [List.append_assoc, String.append_assoc]
      rw [refs_append_blank, refs_append_code (by decide), hitem, hitem, List.append_nil, List.append_nil]
    rw [if_neg htwo]
    by_cases hone : f.operator.needsValue = true
    · rw [if_pos hone]
      simp only [List.append_assoc, String.append_assoc]
      rw [refs_append_blank, hitem, List.append_nil]
    · rw [if_neg hone]
      exact refs_append_code_end (blank_ne_dot _) _

theorem refs_buildConditions {mode : ValueMode} {first : Bool} {params params' : List Value}
    {filters : List Filter} {ts : List SqlText}
    (h : g.buildConditions d sourceAlias base mode first params filters = .ok (params', ts)) :
    refs ts.flatten = filters.flatMap (fun f => g.fieldRefs base sourceAlias f.field) ∧
      (first = false → ∀ t, refs (t ++ ts.flatten) = refs t ++ refs ts.flatten) := by
  induction filters generalizing first params ts with
  | nil =>
    obtain ⟨rfl, rfl⟩ := Prod.mk.inj (Except.ok.inj h)
    exact ⟨rfl, fun _ t => by simp⟩
  | cons f filters ih =>
    simp only [buildConditions, Res.bind_eq_ok] at h
    obtain ⟨⟨p, condition⟩, hcondition, ⟨p', rest⟩, hrest, h⟩ := h
    obtain ⟨rfl, rfl⟩ := Prod.mk.inj (Except.ok.inj h)
    obtain ⟨-, -, rfl⟩ := buildCondition_eq_ok hcondition
    obtain ⟨hnames, happend⟩ := ih hrest
    have hhead : refs (comparison d (g.qualifyField base f.field sourceAlias) f
        (renderValues mode params f.operands).2) = g.fieldRefs base sourceAlias f.field := by
      rw [refs_comparison (refs_renderValues _ _ _), refs_qualifyField]
    have hbody : ∀ sep : SqlText, sep = [] ∨ (∃ x, sep = code x ∧ x ≠ ".") →
        refs (sep ++ comparison d (g.qualifyField base f.field sourceAlias) f
          (renderValues mode params f.operands).2 ++ rest.flatten) =
        g.fieldRefs base sourceAlias f.field ++ filters.flatMap fun f => g.fieldRefs base sourceAlias f.field := by
      rintro sep (rfl | ⟨x, rfl, -⟩)
      · rw [List.nil_append, happend rfl, hhead, hnames]
      · rw [List.append_assoc, refs_code_cons, happend rfl, hhead, hnames]
    have hsep : separator first f = [] ∨ (∃ x, separator first f = code x ∧ x ≠ ".") := by
      unfold separator
      split_ifs
      · exact .inl rfl
      · exact .inr ⟨_, rfl, by decide⟩
      · exact .inr ⟨_, rfl, by decide⟩
    refine ⟨hbody _ hsep, ?_⟩
    rintro rfl t
    obtain ⟨x, hx, hne⟩ : ∃ x, separator false f = code x ∧ x ≠ "." := by
      cases hor : f.orCondition
      · exact ⟨" AND ", by simp [separator, hor], by decide⟩
      · exact ⟨" OR ", by simp [separator, hor], by decide⟩
    simp only [List.flatten_cons, hx, List.append_assoc]
    rw [refs_append_code hne, refs_code_cons]

/-- **The names of a WHERE clause** are those of the filtered fields, in order. -/
theorem refs_buildWhereClause {mode : ValueMode} {params : List Value} {t : SqlText}
    (h : g.buildWhereClause query d sourceAlias base mode = .ok (params, some t)) :
    refs t = query.filters.flatMap fun f => g.fieldRefs base sourceAlias f.field := by
  unfold buildWhereClause at h
  split_ifs at h
  · cases h
  · obtain ⟨⟨params', conditions⟩, hconditions, h⟩ := Res.bind_eq_ok.1 h
    obtain ⟨rfl, ht⟩ := Prod.mk.inj (Except.ok.inj h)
    obtain rfl := Option.some.inj ht
    exact (refs_buildConditions hconditions).1

/-! ## Times, dimensions and orders -/

theorem refs_timeDimExpr (td : TimeDimension) :
    refs (timeDimExpr d td sourceAlias) = [rawRef (sourceAlias ++ "." ++ td.dimension)] := by
  rw [timeDimExpr, Dialect.refs_dateTrunc]
  rfl

theorem refs_geometryAsGeojson {t u : SqlText} (h : d.geometryAsGeojson t = some u) : refs u = refs t := by
  cases d with
  | postgres =>
    obtain rfl := Option.some.inj h
    exact refs_call _ _
  | mySql => cases h
  | sqlite => cases h
  | duckDb =>
    obtain rfl := Option.some.inj h
    exact refs_call _ _

theorem refs_dimensionItem {dim : Dimension} {item : SelectItem}
    (h : g.dimensionItem d sourceAlias base dim = .ok item) :
    refs item.expression = g.fieldRefs base sourceAlias dim.name := by
  unfold dimensionItem at h
  by_cases hgeo : g.fieldIsGeometry base dim.name = true
  · simp only [if_pos hgeo, Res.bind_eq_ok, Res.ofOption_eq_ok] at h
    obtain ⟨expr, hexpr, h⟩ := h
    obtain rfl := Except.ok.inj h
    rw [refs_geometryAsGeojson hexpr, refs_qualifyField]
  · simp only [if_neg hgeo, Res.bind_eq_ok, Except.ok.injEq, exists_eq_left'] at h
    obtain rfl := Except.ok.inj h
    exact refs_qualifyField g base dim.name sourceAlias

/-- The name an order entry is sorted by. -/
def orderRef (sourceAlias field : String) : NameRef :=
  if Str.containsChar field '.' then rawRef field else .column sourceAlias field true

theorem orderRef_of_undotted {column : String} (h : '.' ∉ column.toList) (sourceAlias : String) :
    orderRef sourceAlias column = .column sourceAlias column true := by
  rw [orderRef, if_neg (by simpa [Str.containsChar] using h)]

theorem refs_orderByItem (order : OrderBy) :
    refs (orderByItem sourceAlias order).column = [orderRef sourceAlias order.field] := by
  unfold orderByItem orderRef
  split_ifs <;> rfl

end

end SqlGenerator

end GraphNight
