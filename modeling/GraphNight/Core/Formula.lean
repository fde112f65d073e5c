import GraphNight.Core.Models
import GraphNight.Lib.Fault
import GraphNight.Lib.Regex

/-!
# Measure formulas (`graphnight-core/src/formula.rs`)

The shorthand `field:agg`, the functions `time_shift` and `ratio`, and calls to
allow-listed SQL functions.
-/

namespace GraphNight

open Regex

/-- `str::parse::<i32>`: one digit at a time, stopping at the first that is not
one or that leaves the range. -/
def parseI32Digits (negative : Bool) : List Char → Int → Res String Int
  | [], r => .ok r
  | c :: cs, r =>
    if Str.isAsciiDigit c then
      let d : Int := c.toNat - '0'.toNat
      let r := if negative then r * 10 - d else r * 10 + d
      if r < -2147483648 then Res.fail "number too small to fit in target type"
      else if 2147483647 < r then Res.fail "number too large to fit in target type"
      else parseI32Digits negative cs r
    else Res.fail "invalid digit found in string"

def parseI32 (s : String) : Res String Int :=
  match s.toList with
  | [] => Res.fail "cannot parse integer from empty string"
  | ['-'] | ['+'] => Res.fail "invalid digit found in string"
  | '-' :: cs => parseI32Digits true cs 0
  | '+' :: cs => parseI32Digits false cs 0
  | cs => parseI32Digits false cs 0

/-- Parses and validates formula expressions. The source holds compiled regular
expressions here; what they need beyond ASCII is the regex crate's Unicode
tables. -/
structure FormulaParser where
  /-- `\w` outside ASCII. -/
  unicodeWord : Char → Bool
  /-- `\d` outside ASCII. -/
  unicodeDigit : Char → Bool

namespace FormulaParser

/-- `\w`. -/
def isWord (fp : FormulaParser) (c : Char) : Bool :=
  if c.toNat < 128 then Str.isAsciiAlphanumeric c || c == '_' else fp.unicodeWord c

/-- `\d`. -/
def isDigit (fp : FormulaParser) (c : Char) : Bool :=
  if c.toNat < 128 then Str.isAsciiDigit c else fp.unicodeDigit c

/-- The text the numbered pieces of a match took. -/
def groupText (caps : List (List Char)) (pieces : List Nat) : String :=
  String.ofList (pieces.flatMap fun i => caps.getD i [])

/-- `^([\w*]+):(\w+)$`. -/
def aggRegex (fp : FormulaParser) : List Piece :=
  [plus fun c => fp.isWord c || c == '*'] ++ lit ":" ++ [plus fp.isWord, .eot]

def aggCaptures (fp : FormulaParser) (expr : String) : Option (String × String) :=
  (run fp.aggRegex expr.toList).map fun caps => (groupText caps [0], groupText caps [2])

/-- `time_shift\(([^,]+),\s*(-?\d+),\s*'(\w+)'\)`. -/
def timeShiftRegex (fp : FormulaParser) : List Piece :=
  lit "time_shift(" ++ [plus (· != ',')] ++ lit "," ++ [star Str.isWhitespace, opt '-', plus fp.isDigit] ++
    lit "," ++ [star Str.isWhitespace] ++ lit "'" ++ [plus fp.isWord] ++ lit "')"

def timeShiftCaptures (fp : FormulaParser) (expr : String) : Option (String × String × String) :=
  (search fp.timeShiftRegex expr.toList).map fun caps =>
    (groupText caps [11], groupText caps [14, 15], groupText caps [19])

/-- `ratio\(([^,]+),\s*([^)]+)\)`. -/
def ratioRegex : List Piece :=
  lit "ratio(" ++ [plus (· != ',')] ++ lit "," ++ [star Str.isWhitespace, plus (· != ')')] ++ lit ")"

def ratioCaptures (expr : String) : Option (String × String) :=
  (search ratioRegex expr.toList).map fun caps => (groupText caps [6], groupText caps [9])

/-- The expression uses shorthand or formula functions that need parsing. -/
def needsParse (expr : String) : Bool :=
  let expr := Str.trim expr
  if expr = "" then false
  else Str.containsChar expr ':' || Str.startsWith expr "time_shift(" || Str.startsWith expr "ratio(" ||
    Str.startsWith expr "pct_change(" || Str.startsWith expr "running_total("

def parseAggregation (s : String) : Res String AggregationType :=
  match Str.toLowercase s with
  | "sum" => .ok .sum
  | "avg" | "average" => .ok .avg
  | "count" => .ok .count
  | "min" => .ok .min
  | "max" => .ok .max
  | "count_distinct" | "countd" => .ok .countDistinct
  | other => Res.fail ("Invalid formula: unknown aggregation '" ++ other ++ "'")

/-- The measure of a time shift, from its parsed inner measure. -/
def timeShiftMeasure (inner : Measure) (offset : Int) (granularity : String) : Measure :=
  ⟨{ expression := "LAG(" ++ inner.formula.expression ++ "::" ++ inner.aggregation.sqlFunction ++
        ") OVER (ORDER BY " ++ granularity ++ ")"
     label := some (inner.label ++ "_shift_" ++ toString offset) }, inner.aggregation⟩

/-- The measure of a ratio, from its parsed parts. -/
def ratioMeasure (num denom : Measure) : Measure :=
  ⟨{ expression := "(" ++ num.formula.expression ++ "::" ++ num.aggregation.sqlFunction ++ ") / NULLIF(" ++
        denom.formula.expression ++ "::" ++ denom.aggregation.sqlFunction ++ ", 0)"
     label := some (num.label ++ "_per_" ++ denom.label) }, .avg⟩

/-- `parse_measure`; each nested call is on a part of the text between a
function's parentheses, so the length of the text bounds the nesting. -/
def parseMeasureWithin (fp : FormulaParser) : Nat → String → Res String Measure
  | 0, _ => .error .panic
  | fuel + 1, expr =>
    let expr := Str.trim expr
    if expr = "" then Res.fail "Invalid formula: expression is empty"
    else
      match fp.timeShiftCaptures expr with
      | some (inner, offset, granularity) => do
        let offset ← parseI32 offset
        let innerMeasure ← parseMeasureWithin fp fuel inner
        return timeShiftMeasure innerMeasure offset granularity
      | none =>
        match ratioCaptures expr with
        | some (num, denom) => do
          let numMeasure ← parseMeasureWithin fp fuel num
          let denomMeasure ← parseMeasureWithin fp fuel denom
          return ratioMeasure numMeasure denomMeasure
        | none =>
          match fp.aggCaptures expr with
          | some (field, agg) => do
            let aggregation ← parseAggregation agg
            return .simple field aggregation
          | none => .ok (.simple expr .sum)

/-- Parse a measure expression like `revenue:sum`. -/
def parseMeasure (fp : FormulaParser) (expr : String) : Res String Measure :=
  fp.parseMeasureWithin (expr.toList.length + 1) expr

/-! ## The nesting ends -/

theorem parseI32Digits_ne_panic (negative : Bool) (cs : List Char) (r : Int) :
    parseI32Digits negative cs r ≠ .error .panic := by
  induction cs generalizing r with
  | nil => simp [parseI32Digits]
  | cons c cs ih =>
    simp only [parseI32Digits]
    split_ifs
    all_goals first | exact Res.fail_ne_panic _ | exact ih _

theorem parseI32_ne_panic (s : String) : parseI32 s ≠ .error .panic := by
  unfold parseI32
  split
  all_goals first | exact Res.fail_ne_panic _ | exact parseI32Digits_ne_panic _ _ _

theorem parseAggregation_ne_panic (s : String) : parseAggregation s ≠ .error .panic := by
  unfold parseAggregation
  split
  all_goals first | exact Res.fail_ne_panic _ | simp

theorem timeShiftCaptures_lt {fp : FormulaParser} {expr inner offset granularity : String}
    (h : fp.timeShiftCaptures expr = some (inner, offset, granularity)) :
    inner.toList.length < expr.toList.length := by
  obtain ⟨caps, hsearch, hgroups⟩ := Option.map_eq_some_iff.1 h
  have hlt := search_group_lt hsearch 10
  obtain ⟨rfl, -⟩ := Prod.mk.inj hgroups
  simpa [groupText] using hlt

theorem ratioCaptures_lt {expr num denom : String} (h : ratioCaptures expr = some (num, denom)) :
    num.toList.length < expr.toList.length ∧ denom.toList.length < expr.toList.length := by
  obtain ⟨caps, hsearch, hgroups⟩ := Option.map_eq_some_iff.1 h
  have hnum := search_group_lt hsearch 5
  have hdenom := search_group_lt hsearch 8
  obtain ⟨rfl, rfl⟩ := Prod.mk.inj hgroups
  exact ⟨by simpa [groupText] using hnum, by simpa [groupText] using hdenom⟩

/-- **Parsing ends within its fuel**: the length of the text is enough. -/
theorem parseMeasureWithin_ne_panic {fp : FormulaParser} {fuel : Nat} {expr : String}
    (h : expr.toList.length < fuel) : fp.parseMeasureWithin fuel expr ≠ .error .panic := by
  induction fuel generalizing expr with
  | zero => omega
  | succ fuel ih =>
    have htrim := Str.trim_length expr
    rw [parseMeasureWithin]
    split_ifs
    · exact Res.fail_ne_panic _
    split
    · rename_i inner offset granularity hshift
      have hinner := timeShiftCaptures_lt hshift
      refine Res.bind_ne_panic (parseI32_ne_panic _) fun _ _ => ?_
      exact Res.bind_ne_panic (ih (by omega)) fun _ _ => by simp [pure, Except.pure]
    · split
      · rename_i num denom hratio
        obtain ⟨hnum, hdenom⟩ := ratioCaptures_lt hratio
        refine Res.bind_ne_panic (ih (by omega)) fun _ _ => ?_
        exact Res.bind_ne_panic (ih (by omega)) fun _ _ => by simp [pure, Except.pure]
      · split
        · exact Res.bind_ne_panic (parseAggregation_ne_panic _) fun _ _ => by simp [pure, Except.pure]
        · simp

theorem parseMeasure_ne_panic (fp : FormulaParser) (expr : String) :
    fp.parseMeasure expr ≠ .error .panic :=
  parseMeasureWithin_ne_panic (Nat.lt_succ_self _)

end FormulaParser

/-- An argument to an allow-listed formula function. -/
inductive FunctionArg where
  /-- A column reference, optionally qualified with a table or model alias. -/
  | column (col : String)
  /-- A numeric literal, kept as its original text. -/
  | number (n : String)
deriving DecidableEq, Repr

/-- A single-level call to an allow-listed function. -/
structure FunctionCall where
  name : String
  args : List FunctionArg
deriving DecidableEq, Repr

/-- Functions a measure expression may call. -/
def allowedFunctions : List String :=
  ["lower", "upper", "length", "char_length", "trim", "btrim", "ltrim", "rtrim", "substring",
    "substr", "replace", "concat", "left", "right",
    "abs", "round", "ceil", "ceiling", "floor", "trunc", "sqrt", "power", "pow", "sign", "mod",
    "greatest", "least",
    "date_trunc", "extract", "date_part", "to_char", "age",
    "st_area", "st_perimeter", "st_length", "st_npoints", "st_numgeometries",
    "st_numinteriorrings", "st_geometrytype", "st_srid", "st_isvalid", "st_isempty",
    "st_ismalformed", "st_dimension", "st_zmflag", "st_x", "st_y", "st_z", "st_m", "st_xmin",
    "st_xmax", "st_ymin", "st_ymax", "st_mindim", "st_maxdim", "st_envelope", "st_expand",
    "st_buffer", "st_simplify", "st_transform", "st_astext", "st_aswkt", "st_asbinary",
    "st_asgml", "st_asgeojson", "st_geohash", "st_point", "st_makepoint", "st_centroid",
    "st_contains", "st_within", "st_intersects", "st_disjoint", "st_touches", "st_overlaps",
    "st_crosses", "st_equals", "st_dwithin", "st_distance", "st_distancesphere",
    "st_distancewithin", "st_hausdorffdistance", "st_lineintersects", "st_linelocatepoint",
    "st_linelength", "st_azimuth", "st_boundingbox", "st_remap"]

/-- `name` is a function a measure expression may call. -/
def isAllowedFunction (name : String) : Bool :=
  allowedFunctions.any fun f => Str.eqIgnoreAsciiCase f name

/-- The expression names a function and opens a parenthesis. -/
def looksLikeFunctionCall (expr : String) : Bool :=
  match Str.splitFirst '(' expr.toList with
  | some (before, _) =>
    let name := Str.trim (String.ofList before)
    name != "" && (Str.split name '.').all isPlainIdentifier && !Str.containsChar name ' '
  | none => false

/-- Drop one leading sign. -/
def stripSign : List Char → List Char
  | '+' :: cs => cs
  | '-' :: cs => cs
  | cs => cs

/-- One or more ASCII digits. -/
def digitsOk (cs : List Char) : Bool := cs != [] && cs.all Str.isAsciiDigit

/-- The text before the first `e` or `E`, and the text after it if there is one. -/
def splitExponent : List Char → List Char × Option (List Char)
  | [] => ([], none)
  | c :: cs =>
    if c = 'e' ∨ c = 'E' then ([], some cs)
    else ((c :: (splitExponent cs).1), (splitExponent cs).2)

/-- A strict numeric literal: optional sign, digits with optional fraction and
optional exponent. -/
def isNumericLiteral (s : String) : Bool :=
  let (mantissa, exponent) := splitExponent (stripSign s.toList)
  let mantissaOk :=
    match mantissa.splitOn '.' with
    | [intPart] => digitsOk intPart
    | [intPart, fracPart] => digitsOk intPart && (fracPart == [] || digitsOk fracPart)
    | _ => false
  mantissaOk &&
    match exponent with
    | none => true
    | some e => digitsOk (stripSign e)

/-- The arguments of a call, each a number or a column reference. -/
def parseFunctionArgs (expr : String) : List String → Res String (List FunctionArg)
  | [] => .ok []
  | raw :: rest => do
    let part := Str.trim raw
    let arg ←
      if part = "" then Res.fail ("empty argument in function call '" ++ expr ++ "'")
      else if isNumericLiteral part then .ok (FunctionArg.number part)
      else if (Str.split part '.').length ≤ 2 && (Str.split part '.').all isPlainIdentifier then
        .ok (FunctionArg.column part)
      else
        Res.fail ("argument '" ++ part ++ "' in '" ++ expr ++
          "' is not a column reference or a number. " ++
          "Nested calls, string literals, operators and subqueries are not supported.")
    let args ← parseFunctionArgs expr rest
    return arg :: args

/-- Parse a measure expression as a call to an allow-listed function; `none` when
it is not a call at all. -/
def parseFunctionCall (expr : String) : Res String (Option FunctionCall) :=
  let expr := Str.trim expr
  if looksLikeFunctionCall expr then
    match Str.splitFirst '(' expr.toList with
    | none => .error .panic -- `expect("checked by looks_like_function_call")`
    | some (before, body) =>
      let name := Str.trim (String.ofList before)
      match Str.splitLast ')' body with
      | none => Res.fail ("unclosed '(' in function call '" ++ expr ++ "'")
      | some (argsSrc, after) =>
        if Str.trim (String.ofList after) != "" then
          Res.fail ("trailing text after ')' in function call '" ++ expr ++ "'")
        else if !isAllowedFunction name then
          Res.fail ("'" ++ name ++ "' is not an allowed function. Allowed functions are a fixed list; " ++
            "see the GraphNight docs for how to add one.")
        else if Str.trim (String.ofList argsSrc) = "" then .ok (some ⟨name, []⟩)
        else do
          let args ← parseFunctionArgs expr (Str.split (String.ofList argsSrc) ',')
          return some ⟨name, args⟩
  else .ok none

end GraphNight
