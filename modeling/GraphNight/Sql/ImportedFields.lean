import GraphNight.Core.ImportRuns
import GraphNight.Lib.Aggregate
import GraphNight.Lib.LetterCase
import GraphNight.Sql.Generator

/-!
# What an imported Cube field denotes

A Cube field says in SQL what it computes; a field of a model is an aggregation of a column, or
a column. Both are read as terms over a table. Which words a database reads as columns, and
what a measure's type adds to its SQL, are a parameter.
-/

namespace GraphNight

/-- How Cube and the database behind it read a schema. -/
structure CubeReading where
  /-- A word the database reads as the name of a column. -/
  isColumn : String → Bool
  /-- The aggregation a measure's type puts around its SQL, where it does. -/
  typed : String → String → Option AggregationType

/-- A text in an aggregate's place: SQL, or one of the generator's own formulas. -/
inductive AggregateText where
  | sql (text : String)
  | formula (expr : String)
deriving DecidableEq, Repr

/-- An expression on a row. Its columns go by name; the column `*` is the row itself. -/
abbrev FieldTerm := Aggregate.Scalar String FunctionCall AggregateText

/-- An aggregate over a table. -/
abbrev MeasureTerm := Aggregate.Term AggregationType String FunctionCall AggregateText

instance : Nontrivial Value := ⟨.null, .bool true, by rintro ⟨⟩⟩

instance : Nonempty AggregationType := ⟨.sum⟩

namespace CubeReading

variable (reading : CubeReading)

/-- The name between two marks. -/
def quotedName (mark : Char) (s : String) : Option String :=
  ((Str.stripPrefix s (String.singleton mark)).bind (Str.stripSuffixChar · mark)).filter fun name =>
    !Str.containsChar name mark

/-- The column that a word names, bare or quoted; the star stands for the row itself. -/
def word (s : String) : Option String :=
  if s = "*" ∨ reading.isColumn s then some s else (quotedName '"' s).or (quotedName '\x60' s)

/-- What a column of a cube is written behind. -/
def qualifiers (cube : String) : List String :=
  ["$\x7bCUBE\x7d.", "\x7bCUBE\x7d.", "$\x7b" ++ cube ++ "\x7d.", "\x7b" ++ cube ++ "\x7d.", cube ++ "."]

/-- The column of the cube that a text refers to. -/
def columnOf (cube text : String) : Option String :=
  let text := Str.trim text
  match (qualifiers cube).findSome? (Str.stripPrefix text) with
  | some rest => reading.word rest
  | none => reading.word text

/-- The call of an allowed function that a text is. -/
def callOf (text : String) : Option FunctionCall := (parseFunctionCall text).toOption.join

/-- What a text says of a row. -/
def fieldTerm (cube text : String) : FieldTerm :=
  match reading.columnOf cube text with
  | some c => .column c
  | none =>
    match callOf text with
    | some call => .call call
    | none => .text (.sql text)

/-- The aggregation and the column of a text that is one call and nothing else. -/
def columnCall (cube text : String) : Option (AggregationType × String) :=
  match Str.splitFirst '(' (Str.trim text).toList with
  | none => none
  | some (before, rest) =>
    match AggregationType.parseStrict (Str.trim (String.ofList before)), Str.stripSuffixChar (String.ofList rest) ')' with
    | .ok aggregation, some inner => (reading.columnOf cube inner).map fun c => (aggregation, c)
    | _, _ => none

/-- What a text says of a table. -/
def aggregateTerm (cube text : String) : MeasureTerm :=
  match reading.columnCall cube text with
  | some (aggregation, c) => .of aggregation (.column c)
  | none => .text (.sql text)

end CubeReading

/-! ## What a Cube field denotes -/

namespace CubeMeasure

/-- The aggregation around the SQL of a measure. -/
def typed (reading : CubeReading) (raw : CubeMeasure) : Option AggregationType :=
  raw.measureType.bind fun t => reading.typed t raw.text

/-- What a measure denotes: a count without SQL counts the rows; else the SQL, in the aggregation
its type puts around it. -/
def term (reading : CubeReading) (cube : String) (raw : CubeMeasure) : MeasureTerm :=
  if raw.isCount ∧ cubeSql raw.sql = none then .of .count (.column "*")
  else
    match raw.typed reading with
    | some aggregation => .of aggregation (reading.fieldTerm cube raw.text)
    | none => reading.aggregateTerm cube raw.text

end CubeMeasure

/-- What a dimension denotes: its SQL, else the column of its name. -/
def CubeDimension.term (reading : CubeReading) (cube : String) (raw : CubeDimension) : FieldTerm :=
  match cubeSql raw.sql with
  | some sql => reading.fieldTerm cube sql
  | none => .column raw.name

/-! ## What a field of a model denotes -/

/-- What the generator writes for a measure, where it writes something. -/
def Measure.term (m : Measure) : Option MeasureTerm :=
  if FormulaParser.needsParse (Str.trim m.formula.expression) then some (.text (.formula m.formula.expression))
  else
    match parseFunctionCall m.formula.expression with
    | .error _ => none
    | .ok none => some (.of m.aggregation (.column m.formula.expression))
    | .ok (some call) => some (.of m.aggregation (.call call))

/-- A dimension is written as a quoted column. -/
def Dimension.term (dim : Dimension) : FieldTerm := .column dim.name

/-- A time dimension is written as it is, behind the name of its table. -/
def TimeDimension.term (reading : CubeReading) (table : String) (td : TimeDimension) : FieldTerm :=
  reading.fieldTerm table (table ++ "." ++ td.dimension)

theorem looksLikeFunctionCall_eq_false {expr : String} (h : '(' ∉ expr.toList) : looksLikeFunctionCall expr = false := by
  rw [looksLikeFunctionCall, Str.splitFirst_of_not_mem h]

theorem FormulaParser.needsParse_eq_false {expr : String} (hcolon : ':' ∉ (Str.trim expr).toList)
    (hparen : '(' ∉ (Str.trim expr).toList) : FormulaParser.needsParse expr = false := by
  unfold FormulaParser.needsParse
  dsimp only
  split_ifs
  · rfl
  · have hcontains : Str.containsChar (Str.trim expr) ':' = false := by simpa [Str.containsChar] using hcolon
    have hstarts : ∀ pre, '(' ∈ pre.toList → Str.startsWith (Str.trim expr) pre = false := fun pre hpre =>
      Str.startsWith_eq_false hpre hparen
    simp only [hcontains, hstarts "time_shift(" (by decide), hstarts "ratio(" (by decide), hstarts "pct_change(" (by decide),
      hstarts "running_total(" (by decide), Bool.or_self]

section

variable (reading : CubeReading) (alphanumeric : Alphanumeric) (cube : String)

/-- A measure is imported as what it denotes, or a warning names it. -/
def MeasureKept (raw : CubeMeasure) : Prop :=
  let (converted, report) := cubeMeasureToMeasure alphanumeric raw cube {}
  (∃ message ∈ report.warnings, IsAbout (cube ++ "." ++ raw.name) message) ∨
    ∃ m term, converted = some m ∧ m.term = some term ∧ Aggregate.Term.Same Value term (raw.term reading cube)

/-- A dimension is imported as what it denotes, or a warning names it. -/
def DimensionKept (raw : CubeDimension) : Prop :=
  let (dimensions, timeDimensions, report) := convertDimensions cube [raw] {}
  (∃ message ∈ report.warnings, IsAbout (cube ++ "." ++ raw.name) message) ∨
    (∃ dim, dimensions = [dim] ∧ Aggregate.Scalar.Same AggregationType Value dim.term (raw.term reading cube)) ∨
    ∃ td, timeDimensions = [td] ∧ Aggregate.Scalar.Same AggregationType Value (td.term reading cube) (raw.term reading cube)

/-- The SQL of a measure is one aggregation of one column, its type's or one it writes. -/
def CubeMeasure.Reads (raw : CubeMeasure) (aggregation : AggregationType) (column : String) : Prop :=
  (raw.typed reading = some aggregation ∧ reading.columnOf cube raw.text = some column) ∨
    (raw.typed reading = none ∧ reading.columnCall cube raw.text = some (aggregation, column))

/-- The measures that are imported as what they denote, or with a warning. A count has no SQL, or
counts the rows in it. Without a plain column in an aggregate call there is always a warning; with
one, the call is all there is. An empty call is one that the generator writes, and the measure's
type puts its aggregation around it. -/
def CubeMeasure.Carried (raw : CubeMeasure) : Prop :=
  (raw.isCount = true → cubeSql raw.sql = none ∨ raw.Reads reading cube .count "*") ∧
  (raw.isCount = false →
    (∀ func expr aggregation, splitAggregate raw.text = some (func, some expr) →
      AggregationType.parseStrict func = .ok aggregation → isPlainColumn alphanumeric expr = true →
      raw.Reads reading cube aggregation expr) ∧
    ∀ func t aggregation inner, splitAggregate raw.text = some (func, none) →
      AggregationType.parseStrict func = .ok inner → raw.measureType = some t → AggregationType.parseStrict t = .ok aggregation →
      raw.typed reading = some aggregation ∧ reading.columnOf cube raw.text = none ∧
        FormulaParser.needsParse (Str.trim raw.text) = false ∧ (CubeReading.callOf raw.text).isSome)

/-- Two texts say the same of a row: they name one column, or neither is a column and they are one
call, or one text. -/
def CubeReading.Alike (text text' : String) : Prop :=
  (∃ c, reading.columnOf cube text = some c ∧ reading.columnOf cube text' = some c) ∨
    (reading.columnOf cube text = none ∧ reading.columnOf cube text' = none ∧ CubeReading.callOf text = CubeReading.callOf text' ∧
      (CubeReading.callOf text = none → text = text'))

/-- The dimensions that are imported as what they denote, or with a warning. A dimension that is
not flagged has no SQL, or one that names the column of its name; a time dimension is never
flagged, and its name is read as SQL. -/
def CubeDimension.Carried (raw : CubeDimension) : Prop :=
  match raw.isTime, cubeSql raw.sql with
  | false, none => True
  | false, some sql => sql = raw.name ∨ Str.containsStr sql raw.name = true → reading.columnOf cube sql = some raw.name
  | true, none => reading.columnOf cube (cube ++ "." ++ raw.name) = some raw.name
  | true, some sql => reading.Alike cube (cube ++ "." ++ raw.name) sql

end

/-! ## Terms -/

section

variable {reading : CubeReading} {cube : String}

theorem CubeReading.fieldTerm_eq_column {text c : String} : reading.fieldTerm cube text = .column c ↔ reading.columnOf cube text = some c := by
  unfold CubeReading.fieldTerm
  cases reading.columnOf cube text with
  | some c' => simp
  | none => cases CubeReading.callOf text <;> simp

theorem CubeReading.fieldTerm_eq_call {text : String} {call : FunctionCall} :
    reading.fieldTerm cube text = .call call ↔ reading.columnOf cube text = none ∧ CubeReading.callOf text = some call := by
  unfold CubeReading.fieldTerm
  cases reading.columnOf cube text with
  | some c' => simp
  | none => cases CubeReading.callOf text <;> simp

theorem CubeReading.fieldTerm_eq_iff {text text' : String} :
    reading.fieldTerm cube text = reading.fieldTerm cube text' ↔ reading.Alike cube text text' := by
  unfold CubeReading.fieldTerm CubeReading.Alike
  cases reading.columnOf cube text with
  | some c =>
    cases reading.columnOf cube text' with
    | some c' => simp [eq_comm]
    | none => cases CubeReading.callOf text' <;> simp
  | none =>
    cases reading.columnOf cube text' with
    | some c' => cases CubeReading.callOf text <;> simp
    | none => cases CubeReading.callOf text <;> cases CubeReading.callOf text' <;> simp

theorem CubeReading.aggregateTerm_eq_column {text c : String} {aggregation : AggregationType} :
    reading.aggregateTerm cube text = .of aggregation (.column c) ↔ reading.columnCall cube text = some (aggregation, c) := by
  unfold CubeReading.aggregateTerm
  cases reading.columnCall cube text with
  | some call => simp [Prod.ext_iff]
  | none => simp

theorem CubeReading.aggregateTerm_ne_call {text : String} {aggregation : AggregationType} {call : FunctionCall} :
    reading.aggregateTerm cube text ≠ .of aggregation (.call call) := by
  unfold CubeReading.aggregateTerm
  cases reading.columnCall cube text <;> simp

/-- A measure with SQL denotes an aggregation of a column where its SQL reads so. -/
theorem CubeMeasure.term_eq_column {raw : CubeMeasure} {aggregation : AggregationType} {c : String}
    (hsql : ¬(raw.isCount = true ∧ cubeSql raw.sql = none)) :
    raw.term reading cube = .of aggregation (.column c) ↔ raw.Reads reading cube aggregation c := by
  rw [CubeMeasure.term, if_neg hsql, CubeMeasure.Reads]
  cases raw.typed reading with
  | some aggregation' => simp [CubeReading.fieldTerm_eq_column]
  | none => simp [CubeReading.aggregateTerm_eq_column]

/-- A measure denotes an aggregation of a call where its type aggregates the call. -/
theorem CubeMeasure.term_eq_call {raw : CubeMeasure} {aggregation : AggregationType} {call : FunctionCall}
    (hcount : raw.isCount = false) : raw.term reading cube = .of aggregation (.call call) ↔
      raw.typed reading = some aggregation ∧ reading.columnOf cube raw.text = none ∧ CubeReading.callOf raw.text = some call := by
  rw [CubeMeasure.term, if_neg (by simp [hcount])]
  cases raw.typed reading with
  | some aggregation' => simp [CubeReading.fieldTerm_eq_call]
  | none => simp [CubeReading.aggregateTerm_ne_call]

end

/-! ## What is written for the fields -/

section

variable {alphanumeric : Alphanumeric} {raw : CubeMeasure} {cube : String}

theorem term_plain {expr : String} (h : isPlainColumn alphanumeric expr = true) (label : Option String) (aggregation : AggregationType) :
    (Measure.mk { expression := expr, label } aggregation).term = some (.of aggregation (.column expr)) := by
  have hcolon : ':' ∉ (Str.trim expr).toList := not_mem_of_isPlainColumn h (by decide) (by decide)
  have hparen : '(' ∉ (Str.trim expr).toList := not_mem_of_isPlainColumn h (by decide) (by decide)
  have hneeds : FormulaParser.needsParse (Str.trim expr) = false :=
    FormulaParser.needsParse_eq_false (fun hc => hcolon (Str.mem_of_mem_trim hc)) fun hc => hparen (Str.mem_of_mem_trim hc)
  have hcall : parseFunctionCall expr = .ok none := by
    unfold parseFunctionCall
    dsimp only
    rw [looksLikeFunctionCall_eq_false hparen]
    rfl
  simp only [Measure.term, hneeds, hcall, Bool.false_eq_true, if_false]

theorem parseStrict_of_digit {c : Char} {cs : List Char} (hc : Str.isAsciiDigit c = true) {name : String} (hname : name.toList = c :: cs)
    (htrim : Str.trim name = name) (hdot : '.' ∉ name.toList) (aggregation : AggregationType) :
    AggregationType.parseStrict name ≠ .ok aggregation := by
  have hupper : ∀ s, Str.toAsciiUppercase name = s → s.toList.head? = some c := by
    rintro s rfl
    rw [Str.toAsciiUppercase, String.toList_ofList, hname, List.map_cons, Str.toUpper_of_isAsciiDigit hc]
    rfl
  have hletter : ∀ s, Str.toAsciiUppercase name = s → (s.toList.head?.any Str.isAsciiAlphabetic) = true → False := by
    intro s hs h
    rw [hupper s hs] at h
    have h' : Str.isAsciiAlphabetic c = true := h
    rw [Str.isAsciiAlphabetic_iff] at h'
    rw [Str.isAsciiDigit_iff] at hc
    omega
  have hplain : isPlainIdentifier name = false := by
    unfold isPlainIdentifier
    rw [hname]
    have hnot : Str.isAsciiAlphabetic c = false := by
      rw [Bool.eq_false_iff, Ne, Str.isAsciiAlphabetic_iff]
      rw [Str.isAsciiDigit_iff] at hc
      omega
    have hunder : (c == '_') = false := by
      rw [beq_eq_false_iff_ne]
      rintro rfl
      exact absurd hc (by decide)
    simp [hnot, hunder]
  unfold AggregationType.parseStrict
  dsimp only
  rw [htrim, Str.split_of_not_mem hdot]
  have hall : [name].all isPlainIdentifier = false := by simp [hplain]
  have hempty : name ≠ "" := by
    rintro rfl
    cases hname
  simp only [hall, hempty, Bool.false_eq_true, if_false]
  split
  case h_9 => simp
  all_goals
    rename_i heq
    exact fun _ => hletter _ heq (by decide)

/-- What is called by a name of word characters begins with no digit. -/
theorem isPlainIdentifier_of_parseStrict {name : String} {aggregation : AggregationType}
    (hword : ∀ c ∈ name.toList, (Str.isAsciiAlphanumeric c || c == '_') = true)
    (h : AggregationType.parseStrict name = .ok aggregation) : isPlainIdentifier name = true := by
  have htrim := Str.trim_of_isKeyword (Str.isKeyword_of_word hword)
  have hdot : '.' ∉ name.toList := fun hc => absurd (hword _ hc) (by decide)
  cases hname : name.toList with
  | nil =>
    have hempty : name = "" := String.toList_injective hname
    rw [hempty] at h
    cases h
  | cons c cs =>
    have hc : (Str.isAsciiAlphanumeric c || c == '_') = true := hword c (by simp [hname])
    cases hdigit : Str.isAsciiDigit c with
    | true => exact absurd h (parseStrict_of_digit hdigit hname htrim hdot aggregation)
    | false =>
      rw [Str.isAsciiAlphanumeric, hdigit, Bool.or_false] at hc
      unfold isPlainIdentifier
      rw [hname]
      dsimp only
      rw [hc, Bool.true_and, List.all_eq_true]
      intro d hd
      rw [hword d (by simp [hname, hd]), Bool.true_or]
/-- What is split off as an aggregate is a call to the generator as well. -/
theorem looksLikeFunctionCall_of_split {text func : String} {inner : Option String} {aggregation : AggregationType}
    (hsplit : splitAggregate text = some (func, inner)) (hfunc : AggregationType.parseStrict func = .ok aggregation) :
    looksLikeFunctionCall (Str.trim text) = true := by
  unfold splitAggregate at hsplit
  unfold looksLikeFunctionCall
  cases hopen : Str.splitFirst '(' (Str.trim text).toList with
  | none => rw [hopen] at hsplit; cases hsplit
  | some parts =>
    obtain ⟨before, body⟩ := parts
    simp only [hopen] at hsplit
    split_ifs at hsplit with hname
    rw [Bool.not_eq_true, Bool.or_eq_false_iff, decide_eq_false_iff_not, Bool.not_eq_false'] at hname
    obtain ⟨hne, hall⟩ := hname
    have hword := List.all_eq_true.1 hall
    have hf : func = Str.trim (String.ofList before) := by
      cases hclose : Str.splitLast ')' body with
      | none => rw [hclose] at hsplit; cases hsplit
      | some inside =>
        simp only [hclose] at hsplit
        split_ifs at hsplit <;> cases hsplit <;> rfl
    rw [hf] at hfunc
    have hdot : '.' ∉ (Str.trim (String.ofList before)).toList := fun hc => absurd (hword _ hc) (by decide)
    have hblank : ' ' ∉ (Str.trim (String.ofList before)).toList := fun hc => absurd (hword _ hc) (by decide)
    dsimp only
    rw [Str.split_of_not_mem hdot]
    have hplain := isPlainIdentifier_of_parseStrict hword hfunc
    simp [hne, hplain, Str.containsChar, hblank]

/-- A call that is read is one with a name, or is refused. -/
theorem parseFunctionCall_ne_none {text : String} (h : looksLikeFunctionCall (Str.trim text) = true) :
    parseFunctionCall text ≠ .ok none := by
  unfold parseFunctionCall
  dsimp only
  rw [if_pos h]
  cases hopen : Str.splitFirst '(' (Str.trim text).toList with
  | none =>
    rw [looksLikeFunctionCall, hopen] at h
    cases h
  | some parts =>
    dsimp only
    cases Str.splitLast ')' parts.2 with
    | none => exact Res.fail_ne_ok
    | some inside =>
      dsimp only
      split_ifs
      · exact Res.fail_ne_ok
      · exact Res.fail_ne_ok
      · simp
      · cases parseFunctionArgs (Str.trim text) (Str.split (String.ofList inside.1) ',') with
        | error e => simp [bind, Except.bind]
        | ok args => simp [bind, Except.bind, pure, Except.pure]

/-- What is written for an aggregate of a call. -/
theorem term_of_call {m : Measure} {term : MeasureTerm} (hlooks : looksLikeFunctionCall (Str.trim m.formula.expression) = true)
    (hneeds : FormulaParser.needsParse (Str.trim m.formula.expression) = false) :
    m.term = some term ↔ ∃ call, CubeReading.callOf m.formula.expression = some call ∧ term = .of m.aggregation (.call call) := by
  have hnone := parseFunctionCall_ne_none hlooks
  unfold Measure.term CubeReading.callOf
  rw [hneeds]
  cases hparse : parseFunctionCall m.formula.expression with
  | error e => simp [Except.toOption]
  | ok found =>
    cases found with
    | none => exact absurd hparse hnone
    | some call => simp [Except.toOption, eq_comm]

theorem term_of_formula {m : Measure} (hneeds : FormulaParser.needsParse (Str.trim m.formula.expression) = true) :
    m.term = some (.text (.formula m.formula.expression)) := if_pos hneeds

/-- A formula of the generator is nothing that a schema can say. -/
theorem CubeMeasure.term_ne_formula {reading : CubeReading} {raw : CubeMeasure} {expr : String} :
    raw.term reading cube ≠ .text (.formula expr) := by
  unfold CubeMeasure.term CubeReading.aggregateTerm
  split_ifs
  · simp
  · cases raw.typed reading with
    | some aggregation => simp
    | none => cases reading.columnCall cube raw.text <;> simp

/-! ## Measures -/

variable {reading : CubeReading}

/-- A measure imported without a warning is kept where what is written for it is what it denotes. -/
theorem measureKept_of_unwarned {m : Measure} (h : cubeMeasureToMeasure alphanumeric raw cube {} = (some m, {})) :
    MeasureKept reading alphanumeric cube raw ↔ m.term = some (raw.term reading cube) := by
  unfold MeasureKept
  rw [h]
  constructor
  · rintro (⟨message, hmessage, -⟩ | ⟨m', term, hm, hterm, hsame⟩)
    · cases hmessage
    · rw [Option.some.inj hm, hterm, Aggregate.Term.same_iff.1 hsame]
  · intro hterm
    exact .inr ⟨m, _, rfl, hterm, Aggregate.Term.same_iff.2 rfl⟩

theorem measureKept_counted (hcount : raw.isCount = true) :
    MeasureKept reading alphanumeric cube raw ↔ cubeSql raw.sql = none ∨ raw.Reads reading cube .count "*" := by
  have hstar : isPlainColumn alphanumeric "*" = true := rfl
  rw [measureKept_of_unwarned (convert_counted hcount {}), term_plain hstar]
  by_cases hsql : cubeSql raw.sql = none
  · simp [CubeMeasure.term, hcount, hsql]
  · rw [Option.some.injEq, eq_comm, CubeMeasure.term_eq_column fun h => hsql h.2]
    simp [hsql]

theorem measureKept_called {func expr : String} {aggregation : AggregationType} (hcount : raw.isCount = false)
    (hsplit : splitAggregate raw.text = some (func, some expr)) (hfunc : AggregationType.parseStrict func = .ok aggregation)
    (hplain : isPlainColumn alphanumeric expr = true) :
    MeasureKept reading alphanumeric cube raw ↔ raw.Reads reading cube aggregation expr := by
  rw [measureKept_of_unwarned (convert_called hcount hsplit hfunc hplain {}), term_plain hplain, Option.some.injEq, eq_comm]
  exact CubeMeasure.term_eq_column fun h => by simp [hcount] at h

theorem measureKept_applied {func t : String} {aggregation inner : AggregationType} (hcount : raw.isCount = false)
    (hsplit : splitAggregate raw.text = some (func, none)) (hfunc : AggregationType.parseStrict func = .ok inner)
    (htype : raw.measureType = some t) (hagg : AggregationType.parseStrict t = .ok aggregation) :
    MeasureKept reading alphanumeric cube raw ↔ raw.typed reading = some aggregation ∧ reading.columnOf cube raw.text = none ∧
      FormulaParser.needsParse (Str.trim raw.text) = false ∧ (CubeReading.callOf raw.text).isSome := by
  rw [measureKept_of_unwarned (convert_applied hcount hsplit hfunc htype hagg {})]
  cases hneeds : FormulaParser.needsParse (Str.trim raw.text) with
  | true =>
    have hterm : (Measure.mk { expression := raw.text, label := raw.label } aggregation).term = some (.text (.formula raw.text)) :=
      term_of_formula hneeds
    have hne : raw.term reading cube ≠ .text (.formula raw.text) := CubeMeasure.term_ne_formula
    rw [hterm]
    simp [hne.symm]
  | false =>
    have hlooks := looksLikeFunctionCall_of_split hsplit hfunc
    rw [@term_of_call ⟨{ expression := raw.text, label := raw.label }, aggregation⟩ _ hlooks hneeds]
    constructor
    · rintro ⟨call, hcall, hterm⟩
      obtain ⟨htyped, hcolumn, -⟩ := (CubeMeasure.term_eq_call hcount).1 hterm
      exact ⟨htyped, hcolumn, rfl, by rw [hcall]; rfl⟩
    · rintro ⟨htyped, hcolumn, -, hcall⟩
      obtain ⟨call, hcall⟩ := Option.isSome_iff_exists.1 hcall
      exact ⟨call, hcall, (CubeMeasure.term_eq_call hcount).2 ⟨htyped, hcolumn, hcall⟩⟩

theorem measureKept_iff : MeasureKept reading alphanumeric cube raw ↔ raw.Carried reading alphanumeric cube := by
  constructor
  · intro hkept
    refine ⟨fun hcount => (measureKept_counted hcount).1 hkept, fun hcount => ⟨?_, ?_⟩⟩
    · exact fun func expr aggregation hsplit hfunc hplain => (measureKept_called hcount hsplit hfunc hplain).1 hkept
    · exact fun func t aggregation inner hsplit hfunc htype hagg => (measureKept_applied hcount hsplit hfunc htype hagg).1 hkept
  · rintro ⟨hcounted, hother⟩
    obtain ⟨converted, messages, houtcome, hconvert⟩ := @measureOutcome alphanumeric raw cube
    have htold : (∃ message ∈ messages, IsAbout (cube ++ "." ++ raw.name) message) → MeasureKept reading alphanumeric cube raw := by
      intro htold
      unfold MeasureKept
      rw [hconvert {}]
      exact .inl htold
    cases houtcome with
    | counted hcount => exact (measureKept_counted hcount).2 (hcounted hcount)
    | skipped message habout => exact htold ⟨message, List.mem_singleton_self _, habout⟩
    | flagged m message habout => exact htold ⟨message, List.mem_singleton_self _, habout⟩
    | called func expr aggregation hcount hsplit hfunc hplain =>
      exact (measureKept_called hcount hsplit hfunc hplain).2 ((hother hcount).1 func expr aggregation hsplit hfunc hplain)
    | applied func t aggregation inner hcount hsplit hfunc htype hagg =>
      exact (measureKept_applied hcount hsplit hfunc htype hagg).2 ((hother hcount).2 func t aggregation inner hsplit hfunc htype hagg)

end

/-! ## Dimensions -/

section

variable {reading : CubeReading} {cube : String} {raw : CubeDimension}

/-- A time dimension is never flagged. -/
theorem dimensionKept_time (htime : raw.isTime = true) :
    DimensionKept reading cube raw ↔ reading.fieldTerm cube (cube ++ "." ++ raw.name) = raw.term reading cube := by
  unfold DimensionKept convertDimensions
  rw [htime]
  simp only [if_true, convertDimensions, Aggregate.Scalar.same_iff]
  simp [TimeDimension.term]

/-- The dimension's SQL is neither its name nor holds it. -/
def CubeDimension.Flagged (raw : CubeDimension) : Prop :=
  ∃ sql, cubeSql raw.sql = some sql ∧ sql ≠ raw.name ∧ Str.containsStr sql raw.name = false

theorem dimensionKept_flagged (htime : raw.isTime = false) (hflag : raw.Flagged) : DimensionKept reading cube raw := by
  obtain ⟨sql, hsql, hne, hcontains⟩ := hflag
  unfold DimensionKept convertDimensions cubeDimensionToDimension
  rw [htime, hsql]
  simp only [hne, hcontains, ne_eq, not_false_eq_true, and_self, if_true, Bool.false_eq_true, if_false, convertDimensions]
  refine .inl ⟨_, List.mem_append_right _ (List.mem_singleton_self _), ?_⟩
  have hmark := isAbout_of_mark (cube ++ "." ++ raw.name) ": dimension is a SQL expression (`" (by decide)
  exact (((((hmark.append _).append _).append _).append _).append _).append _

theorem dimensionKept_unflagged (htime : raw.isTime = false) (hflag : ¬raw.Flagged) :
    DimensionKept reading cube raw ↔ raw.term reading cube = .column raw.name := by
  have hconvert : cubeDimensionToDimension raw cube {} = (some ⟨raw.name, raw.title⟩, {}) := by
    unfold cubeDimensionToDimension
    rw [htime]
    cases hsql : cubeSql raw.sql with
    | none => rfl
    | some sql =>
      have hquiet : ¬(sql ≠ raw.name ∧ Str.containsStr sql raw.name = false) := fun h => hflag ⟨sql, hsql, h.1, h.2⟩
      simp only [if_neg hquiet]
      rfl
  unfold DimensionKept convertDimensions
  rw [htime, hconvert]
  simp only [Bool.false_eq_true, if_false, convertDimensions, Aggregate.Scalar.same_iff]
  simp [Dimension.term, eq_comm]

theorem dimensionKept_iff : DimensionKept reading cube raw ↔ raw.Carried reading cube := by
  unfold CubeDimension.Carried
  cases htime : raw.isTime with
  | true =>
    rw [dimensionKept_time htime, CubeDimension.term]
    cases cubeSql raw.sql with
    | none => exact CubeReading.fieldTerm_eq_column
    | some sql => exact CubeReading.fieldTerm_eq_iff
  | false =>
    by_cases hflag : raw.Flagged
    · obtain ⟨sql, hsql, hne, hcontains⟩ := id hflag
      rw [hsql]
      exact iff_of_true (dimensionKept_flagged htime hflag) fun h => by simp [hne, hcontains] at h
    · rw [dimensionKept_unflagged htime hflag, CubeDimension.term]
      cases hsql : cubeSql raw.sql with
      | none => exact iff_of_true rfl trivial
      | some sql =>
        have hunflagged : sql = raw.name ∨ Str.containsStr sql raw.name = true := by
          by_contra hnot
          rw [not_or, Bool.not_eq_true] at hnot
          exact hflag ⟨sql, hsql, hnot.1, hnot.2⟩
        exact CubeReading.fieldTerm_eq_column.trans ⟨fun h _ => h, fun h => h hunflagged⟩

end

/-! ## The fields of a schema -/

/-- **When the fields of a schema survive its import**: every model is made of its cube's fields, and
each measure and dimension is kept or told of exactly when it is one that is carried over. -/
theorem schema_fields_kept_iff (reading : CubeReading) (alphanumeric : Alphanumeric) (toLowercase : String → String)
    (schema : CubeSchema) (datasource : String) :
    List.Forall₂ (fun cube model =>
        CubeImported alphanumeric (importCubeSchema alphanumeric toLowercase schema datasource) cube model ∧
          (∀ raw ∈ cube.measures, MeasureKept reading alphanumeric cube.name raw ↔ raw.Carried reading alphanumeric cube.name) ∧
          ∀ raw ∈ cube.dimensions, DimensionKept reading cube.name raw ↔ raw.Carried reading cube.name)
      schema.cubes (importCubeSchema alphanumeric toLowercase schema datasource).models :=
  (importCubeSchema_models schema datasource).imp fun _ _ h => ⟨h, fun _ _ => measureKept_iff, fun _ _ => dimensionKept_iff⟩

/-- Letters and digits beyond ASCII left out. -/
def asciiAlphanumeric : Alphanumeric := ⟨Str.isAsciiAlphanumeric, fun _ _ => rfl⟩

/-- A table of orders, and the types of measures that aggregate their SQL. -/
def ordersReading : CubeReading where
  isColumn word := ["id", "amount", "status", "created_at"].contains word
  typed t _ :=
    match t with
    | "sum" => some .sum
    | "avg" => some .avg
    | "min" => some .min
    | "max" => some .max
    | "count" => some .count
    | "count_distinct" => some .countDistinct
    | _ => none

/-- A sum in cents. -/
def centsMeasure : CubeMeasure := { name := "cents", sql := some (.string "sum(amount) * 100") }

/-- A count of one column. -/
def paidMeasure : CubeMeasure := { name := "paid", sql := some (.string "amount"), measureType := some "count" }

/-- A status in capitals. -/
def statusDimension : CubeDimension := { name := "status", sql := some (.string "upper(status)") }

/-- A time without its hours. -/
def createdDimension : CubeDimension :=
  { name := "created_at", sql := some (.string "date(created_at)"), dimensionType := some "time" }

theorem centsMeasure_not_kept : ¬MeasureKept ordersReading asciiAlphanumeric "orders" centsMeasure := by
  have hread : ordersReading.columnCall "orders" centsMeasure.text = none := by decide +kernel
  have hsplit : splitAggregate centsMeasure.text = some ("sum", some "amount") := by decide +kernel
  have hfunc : AggregationType.parseStrict "sum" = .ok .sum := by decide +kernel
  rw [measureKept_called rfl hsplit hfunc (by decide +kernel)]
  rintro (⟨htyped, -⟩ | ⟨-, hcall⟩)
  · cases htyped
  · exact Option.some_ne_none _ (hcall.symm.trans hread)

theorem paidMeasure_not_kept : ¬MeasureKept ordersReading asciiAlphanumeric "orders" paidMeasure := by
  have hread : ordersReading.columnOf "orders" paidMeasure.text = some "amount" := by decide +kernel
  rw [measureKept_counted (by decide +kernel)]
  rintro (hsql | ⟨-, hcolumn⟩ | ⟨htyped, -⟩)
  · cases hsql
  · exact absurd (Option.some.inj (hread.symm.trans hcolumn)) (by decide)
  · cases htyped

theorem statusDimension_not_kept : ¬DimensionKept ordersReading "orders" statusDimension := by
  have hread : ordersReading.columnOf "orders" "upper(status)" = none := by decide +kernel
  rw [dimensionKept_iff]
  intro hcarried
  have hcolumn : ordersReading.columnOf "orders" "upper(status)" = some "status" := hcarried (.inr (by decide +kernel))
  exact Option.some_ne_none _ (hcolumn.symm.trans hread)

theorem createdDimension_not_kept : ¬DimensionKept ordersReading "orders" createdDimension := by
  have hname : ordersReading.columnOf "orders" ("orders" ++ "." ++ createdDimension.name) = some "created_at" := by
    decide +kernel
  have hread : ordersReading.columnOf "orders" "date(created_at)" = none := by decide +kernel
  rw [dimensionKept_time (by decide +kernel), CubeReading.fieldTerm_eq_column.2 hname]
  intro hterm
  have hsql : ordersReading.fieldTerm "orders" "date(created_at)" = .column "created_at" := hterm.symm
  have hcolumn := CubeReading.fieldTerm_eq_column.1 hsql
  exact Option.some_ne_none _ (hcolumn.symm.trans hread)

/-- `sum(amount) * 100` is imported as the sum of `amount`, a count of one column as the count of
all rows, `upper(status)` as the column, and a time dimension's SQL not at all. -/
theorem fields_change_silently :
    ¬MeasureKept ordersReading asciiAlphanumeric "orders" centsMeasure ∧
      ¬MeasureKept ordersReading asciiAlphanumeric "orders" paidMeasure ∧
      ¬DimensionKept ordersReading "orders" statusDimension ∧ ¬DimensionKept ordersReading "orders" createdDimension :=
  ⟨centsMeasure_not_kept, paidMeasure_not_kept, statusDimension_not_kept, createdDimension_not_kept⟩

end GraphNight
