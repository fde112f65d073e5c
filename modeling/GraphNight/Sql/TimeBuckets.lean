import GraphNight.Lib.Calendar
import GraphNight.Lib.FixedWidth
import GraphNight.Sql.Tokens

/-!
# What a time bucket is

Postgres and DuckDB truncate a timestamp to the start of its unit. MySQL and SQLite write its fields
out to the unit instead, which comes to the same for all units but two: a week is numbered within
its year, and a quarter has no year at all, or is no expression.
-/

namespace GraphNight

open SqlText

/-! ## Timestamps -/

/-- A timestamp that all four databases can hold. -/
structure Timestamp where
  year : Nat
  month : Nat
  day : Nat
  hour : Nat
  minute : Nat
  second : Nat
  micro : Nat
  year_lt : year < 10000
  date : Calendar.IsDate year month day
  hour_lt : hour < 24
  minute_lt : minute < 60
  second_lt : second < 60
  micro_lt : micro < 1000000

namespace Timestamp

def dayNumber (t : Timestamp) : Nat := Calendar.dayNumber t.year t.month t.day

def quarter (t : Timestamp) : Nat := (t.month - 1) / 3 + 1

/-- Microseconds, on a day that is counted from the Monday before the first. -/
def instant (day hour minute second micro : Nat) : Nat := (((day * 24 + hour) * 60 + minute) * 60 + second) * 1000000 + micro

/-- `DATE_TRUNC`: the start of the unit a timestamp is in. -/
def trunc (g : TimeGranularity) (t : Timestamp) : Nat :=
  match g with
  | .second => instant (t.dayNumber + 5) t.hour t.minute t.second 0
  | .minute => instant (t.dayNumber + 5) t.hour t.minute 0 0
  | .hour => instant (t.dayNumber + 5) t.hour 0 0 0
  | .day => instant (t.dayNumber + 5) 0 0 0 0
  | .week => instant (Calendar.monday t.dayNumber) 0 0 0 0
  | .month => instant (Calendar.dayNumber t.year t.month 1 + 5) 0 0 0 0
  | .quarter => instant (Calendar.dayNumber t.year (3 * (t.quarter - 1) + 1) 1 + 5) 0 0 0 0
  | .year => instant (Calendar.dayNumber t.year 1 1 + 5) 0 0 0 0

/-- The week of the year: Monday first, and week 1 is the first with four or more days in the year (`WEEK(date, 1)`). -/
def mySqlWeek (t : Timestamp) : Nat :=
  let first := Calendar.dayNumber t.year 1 1
  let week := (t.dayNumber - first + Calendar.weekday first) / 7
  if Calendar.weekday first ≤ 3 then week + 1 else week

/-- The week of the year: week 1 starts on the first Monday (`%W`). -/
def sqliteWeek (t : Timestamp) : Nat := (t.dayNumber - Calendar.dayNumber t.year 1 1 + 7 - Calendar.weekday t.dayNumber) / 7

end Timestamp

/-! ## Reading the expression -/

inductive BucketToken where
  | word (w : String)
  | literal (content : String)
  | number (text : String)
  | symbol (c : Char)
  /-- The column that is bucketed. -/
  | column
  | other
deriving DecidableEq, Repr

namespace BucketToken

/-- The token of a lexeme; blanks are none. -/
def ofLexeme : LexState × List Char → Option BucketToken
  | (.blank, _) => none
  | (.word, cs) | (.letterE, cs) => some (.word (String.ofList cs))
  | (.number _, cs) => some (.number (String.ofList cs))
  | (.closed '\'' _, cs) => some (.literal (String.ofList (cs.drop 1).dropLast))
  | (.symbol c, _) => some (.symbol c)
  | (.minus, _) => some (.symbol '-')
  | (.slash, _) => some (.symbol '/')
  | _ => some .other

/-- The tokens of an expression around its column. -/
def around (d : Dialect) (pre post : String) : List BucketToken :=
  (d.lex pre).filterMap ofLexeme ++ .column :: (d.lex post).filterMap ofLexeme

inductive Expect where
  | operand | operator
deriving DecidableEq, Repr

/-- Operands and operators take turns, within brackets that are closed again; `AS` stands between a value and a type. -/
def wellFormed : Expect → Nat → List BucketToken → Bool
  | .operand, depth, .word _ :: .symbol '(' :: ts => wellFormed .operand (depth + 1) ts
  | .operand, depth, .symbol '(' :: ts => wellFormed .operand (depth + 1) ts
  | .operand, depth, .word _ :: ts => wellFormed .operator depth ts
  | .operand, depth, .literal _ :: ts => wellFormed .operator depth ts
  | .operand, depth, .number _ :: ts => wellFormed .operator depth ts
  | .operand, depth, .column :: ts => wellFormed .operator depth ts
  | .operand, _, _ => false
  | .operator, depth, [] => depth == 0
  | .operator, depth + 1, .symbol ')' :: ts => wellFormed .operator depth ts
  | .operator, depth + 1, .symbol ',' :: ts => wellFormed .operand (depth + 1) ts
  | .operator, depth, .word w :: ts => w == "AS" && wellFormed .operand depth ts
  | .operator, depth, .symbol c :: ts => (c ∈ ['+', '-', '*', '/', '%']) && wellFormed .operand depth ts
  | .operator, _, _ => false

end BucketToken

/-- The bucketing functions of the databases, on a column. -/
inductive BucketExpr where
  | dateTrunc (unit : String)
  /-- `CAST(DATE_TRUNC(unit, column) AS DATE)` -/
  | dateOf (unit : String)
  | dateFormat (format : String)
  | quarterOf
  | strftime (format : String)
deriving DecidableEq, Repr

/-- The function a dialect reads. -/
def readBucket (d : Dialect) (ts : List BucketToken) : Option BucketExpr :=
  match d, ts with
  | .postgres, [.word "DATE_TRUNC", .symbol '(', .literal unit, .symbol ',', .column, .symbol ')']
  | .duckDb, [.word "DATE_TRUNC", .symbol '(', .literal unit, .symbol ',', .column, .symbol ')'] => some (.dateTrunc unit)
  | .duckDb, [.word "CAST", .symbol '(', .word "DATE_TRUNC", .symbol '(', .literal unit, .symbol ',', .column, .symbol ')',
      .word "AS", .word "DATE", .symbol ')'] => some (.dateOf unit)
  | .mySql, [.word "DATE_FORMAT", .symbol '(', .column, .symbol ',', .literal format, .symbol ')'] => some (.dateFormat format)
  | .mySql, [.word "QUARTER", .symbol '(', .column, .symbol ')'] => some .quarterOf
  | .sqlite, [.word "strftime", .symbol '(', .literal format, .symbol ',', .column, .symbol ')'] => some (.strftime format)
  | _, _ => none

/-! ## What it computes -/

inductive DateField where
  | year | month | day | hour | minute | second | week
deriving DecidableEq, Repr

namespace DateField

def width : DateField → Nat
  | .year => 4
  | _ => 2

/-- The value of a field, with a database's own number of the week. -/
def value (week : Timestamp → Nat) (t : Timestamp) : DateField → Nat
  | .year => t.year
  | .month => t.month
  | .day => t.day
  | .hour => t.hour
  | .minute => t.minute
  | .second => t.second
  | .week => week t

/-- The specifiers of `DATE_FORMAT`. -/
def ofMySql : Char → Option DateField
  | 'Y' => some .year
  | 'm' => some .month
  | 'd' => some .day
  | 'H' => some .hour
  | 'i' => some .minute
  | 's' => some .second
  | 'u' => some .week
  | _ => none

/-- The specifiers of `strftime`. -/
def ofSqlite : Char → Option DateField
  | 'Y' => some .year
  | 'm' => some .month
  | 'd' => some .day
  | 'H' => some .hour
  | 'M' => some .minute
  | 'S' => some .second
  | 'W' => some .week
  | _ => none

end DateField

/-- The layout a format stands for. -/
def readFormat (specifier : Char → Option DateField) : List Char → Option (List (FixedWidth.Part DateField))
  | [] => some []
  | '%' :: c :: cs => do
    let f ← specifier c
    let parts ← readFormat specifier cs
    return .field f :: parts
  | '%' :: [] => none
  | c :: cs => do
    let parts ← readFormat specifier cs
    return .literal c :: parts

inductive BucketValue where
  | time (instant : Nat)
  | date (day : Nat)
  | text (cs : List Char)
  | number (n : Nat)
deriving DecidableEq, Repr

/-- The order a database sorts buckets in. -/
def BucketValue.Before : BucketValue → BucketValue → Prop
  | .time a, .time b => a < b
  | .date a, .date b => a < b
  | .text a, .text b => a < b
  | .number a, .number b => a < b
  | _, _ => False

def granularityOf (unit : String) : Option TimeGranularity :=
  [.second, .minute, .hour, .day, .week, .month, .quarter, .year].find? fun g : TimeGranularity => g.dateTruncUnit == unit

def BucketExpr.eval (t : Timestamp) : BucketExpr → Option BucketValue
  | .dateTrunc unit => (granularityOf unit).map fun g => .time (t.trunc g)
  | .dateOf unit => (granularityOf unit).map fun g => .date (t.trunc g / 86400000000)
  | .dateFormat format =>
    (readFormat DateField.ofMySql format.toList).map fun parts =>
      .text (FixedWidth.render DateField.width (DateField.value Timestamp.mySqlWeek t) parts)
  | .quarterOf => some (.number t.quarter)
  | .strftime format =>
    (readFormat DateField.ofSqlite format.toList).map fun parts =>
      .text (FixedWidth.render DateField.width (DateField.value Timestamp.sqliteWeek t) parts)

/-- An expression is well formed, and two timestamps have one bucket exactly if they have one unit, and else
buckets in the order of their units. -/
def BucketsAgree (d : Dialect) (column : SqlText) (g : TimeGranularity) (t t' : Timestamp) : Prop :=
  ∃ pre post expr b b', d.dateTrunc g.dateTruncUnit column = code pre ++ column ++ code post ∧
    BucketToken.wellFormed .operand 0 (BucketToken.around d pre post) = true ∧
    readBucket d (BucketToken.around d pre post) = some expr ∧ expr.eval t = some b ∧ expr.eval t' = some b' ∧
    (b = b' ↔ t.trunc g = t'.trunc g) ∧ (b ≠ b' → (b.Before b' ↔ t.trunc g < t'.trunc g))

/-! ## The units in fields -/

namespace Timestamp

/-- The fields that say which unit a timestamp is in. -/
def unit (g : TimeGranularity) (t : Timestamp) : List Nat :=
  match g with
  | .second => [t.year, t.month, t.day, t.hour, t.minute, t.second]
  | .minute => [t.year, t.month, t.day, t.hour, t.minute]
  | .hour => [t.year, t.month, t.day, t.hour]
  | .day => [t.year, t.month, t.day]
  | .week => [Calendar.weekNumber t.dayNumber]
  | .month => [t.year, t.month]
  | .quarter => [t.year, t.quarter]
  | .year => [t.year]

theorem instant_lt_iff {day hour minute second day' hour' minute' second' : Nat} (hh : hour < 24) (hm : minute < 60) (hs : second < 60)
    (hh' : hour' < 24) (hm' : minute' < 60) (hs' : second' < 60) :
    instant day hour minute second 0 < instant day' hour' minute' second' 0 ↔ [day, hour, minute, second] < [day', hour', minute', second'] := by
  simp only [instant, List.cons_lt_cons_iff, List.not_lt_nil, and_false, or_false]
  omega

theorem dayNumber_append_lt_iff {year month day year' month' day' : Nat} (h : Calendar.IsDate year month day) (h' : Calendar.IsDate year' month' day')
    (rest rest' : List Nat) :
    (Calendar.dayNumber year month day + 5) :: rest < (Calendar.dayNumber year' month' day' + 5) :: rest' ↔
      year :: month :: day :: rest < year' :: month' :: day' :: rest' := by
  have hlt := Calendar.dayNumber_lt_iff h h'
  have hgt := Calendar.dayNumber_lt_iff h' h
  simp only [List.cons_lt_cons_iff, List.not_lt_nil, and_false, or_false] at *
  by_cases hrest : rest < rest'
  · simp only [hrest, and_true]
    omega
  · simp only [hrest, and_false, or_false]
    omega

/-- **Truncated timestamps are ordered as their units.** -/
theorem trunc_lt_iff (g : TimeGranularity) (t t' : Timestamp) : t.trunc g < t'.trunc g ↔ t.unit g < t'.unit g := by
  have hh := t.hour_lt
  have hh' := t'.hour_lt
  have hm := t.minute_lt
  have hm' := t'.minute_lt
  have hs := t.second_lt
  have hs' := t'.second_lt
  have hfirst {year month : Nat} (hpos : 1 ≤ month) (hle : month ≤ 12) := @Calendar.IsDate.first year month hpos hle
  have hmonth := t.date.month_pos
  have hmonth' := t'.date.month_pos
  have hquarter : 3 * (t.quarter - 1) + 1 ≤ 12 := by
    have hle := t.date.month_le
    unfold quarter
    omega
  have hquarter' : 3 * (t'.quarter - 1) + 1 ≤ 12 := by
    have hle := t'.date.month_le
    unfold quarter
    omega
  cases g with
  | second =>
    unfold trunc unit dayNumber
    dsimp only
    rw [instant_lt_iff hh hm hs hh' hm' hs', dayNumber_append_lt_iff t.date t'.date]
  | minute =>
    unfold trunc unit dayNumber
    dsimp only
    rw [instant_lt_iff hh hm (by decide) hh' hm' (by decide), dayNumber_append_lt_iff t.date t'.date]
    simp [List.cons_lt_cons_iff]
  | hour =>
    unfold trunc unit dayNumber
    dsimp only
    rw [instant_lt_iff hh (by decide) (by decide) hh' (by decide) (by decide), dayNumber_append_lt_iff t.date t'.date]
    simp [List.cons_lt_cons_iff]
  | day =>
    unfold trunc unit dayNumber
    dsimp only
    rw [instant_lt_iff (by decide) (by decide) (by decide) (by decide) (by decide) (by decide), dayNumber_append_lt_iff t.date t'.date]
    simp [List.cons_lt_cons_iff]
  | week =>
    unfold trunc unit
    dsimp only
    rw [instant_lt_iff (by decide) (by decide) (by decide) (by decide) (by decide) (by decide), Calendar.monday_eq, Calendar.monday_eq]
    simp [List.cons_lt_cons_iff]
  | month =>
    unfold trunc unit
    dsimp only
    rw [instant_lt_iff (by decide) (by decide) (by decide) (by decide) (by decide) (by decide),
      dayNumber_append_lt_iff (hfirst hmonth t.date.month_le) (hfirst hmonth' t'.date.month_le)]
    simp [List.cons_lt_cons_iff]
  | quarter =>
    unfold trunc unit
    dsimp only
    rw [instant_lt_iff (by decide) (by decide) (by decide) (by decide) (by decide) (by decide),
      dayNumber_append_lt_iff (hfirst (by omega) hquarter) (hfirst (by omega) hquarter')]
    have hpos : 1 ≤ t.quarter := by
      unfold quarter
      omega
    have hpos' : 1 ≤ t'.quarter := by
      unfold quarter
      omega
    simp [List.cons_lt_cons_iff]
    omega
  | year =>
    unfold trunc unit
    dsimp only
    rw [instant_lt_iff (by decide) (by decide) (by decide) (by decide) (by decide) (by decide),
      dayNumber_append_lt_iff (hfirst (by decide) (by decide)) (hfirst (by decide) (by decide))]
    simp [List.cons_lt_cons_iff]

theorem trunc_eq_iff (g : TimeGranularity) (t t' : Timestamp) : t.trunc g = t'.trunc g ↔ t.unit g = t'.unit g := by
  have hlt := trunc_lt_iff g t t'
  have hgt := trunc_lt_iff g t' t
  constructor
  · intro heq
    obtain h | h | h := lt_trichotomy (t.unit g) (t'.unit g)
    · have := hlt.2 h
      omega
    · exact h
    · have := hgt.2 h
      omega
  · intro heq
    rw [heq] at hlt hgt
    have hle := mt hlt.1 (lt_irrefl _)
    have hge := mt hgt.1 (lt_irrefl _)
    omega

/-! ## The weeks of a year -/

variable {t t' : Timestamp}

theorem first_le (t : Timestamp) : Calendar.dayNumber t.year 1 1 ≤ t.dayNumber := by
  have hpos := t.date.day_pos
  have hle := @Calendar.daysBeforeMonth_le t.year 1 t.month (by decide) t.date.month_pos
  unfold dayNumber Calendar.dayNumber
  omega

theorem dayNumber_lt (t : Timestamp) : t.dayNumber < Calendar.dayNumber t.year 1 1 + 366 := by
  have hlt := t.date.lt_year
  have hyear : Calendar.daysBeforeMonth t.year 13 ≤ 366 := by
    rw [Calendar.daysBeforeMonth_year, Calendar.daysInMonth, if_pos rfl]
    split_ifs <;> omega
  have hzero : Calendar.daysBeforeMonth t.year 1 = 0 := rfl
  rw [Calendar.daysBeforeYear] at hlt
  unfold dayNumber
  rw [Calendar.dayNumber, Calendar.dayNumber] at *
  omega

theorem mySqlWeek_lt (t : Timestamp) : t.mySqlWeek < 100 := by
  have hlt := t.dayNumber_lt
  unfold mySqlWeek Calendar.weekday
  dsimp only
  split_ifs <;> omega

theorem sqliteWeek_lt (t : Timestamp) : t.sqliteWeek < 100 := by
  have hlt := t.dayNumber_lt
  unfold sqliteWeek Calendar.weekday
  omega

/-- Within a year, the databases count the weeks that begin on a Monday. -/
theorem mySqlWeek_lt_iff (h : t.year = t'.year) :
    t.mySqlWeek < t'.mySqlWeek ↔ Calendar.weekNumber t.dayNumber < Calendar.weekNumber t'.dayNumber := by
  have hle := t.first_le
  have hle' := t'.first_le
  unfold mySqlWeek Calendar.weekday Calendar.weekNumber
  rw [h] at hle ⊢
  dsimp only
  split_ifs <;> omega

theorem sqliteWeek_lt_iff (h : t.year = t'.year) :
    t.sqliteWeek < t'.sqliteWeek ↔ Calendar.weekNumber t.dayNumber < Calendar.weekNumber t'.dayNumber := by
  have hle := t.first_le
  have hle' := t'.first_le
  unfold sqliteWeek Calendar.weekday Calendar.weekNumber
  rw [h] at hle ⊢
  omega

theorem dayNumber_lt_of_year (h : t.year < t'.year) : t.dayNumber < t'.dayNumber := Calendar.dayNumber_lt_of_year t.date h

end Timestamp

/-! ## The expressions -/

/-- What a dialect writes around the column. -/
def bucketTexts (d : Dialect) (g : TimeGranularity) : String × String :=
  match d.dateTrunc g.dateTruncUnit [] with
  | [.code pre, .code post] => (pre, post)
  | _ => ("", "")

/-- The function that is read of it. -/
def bucketExpr (d : Dialect) (g : TimeGranularity) : Option BucketExpr :=
  match d, g with
  | .postgres, g => some (.dateTrunc g.dateTruncUnit)
  | .duckDb, .day => some (.dateOf "day")
  | .duckDb, g => some (.dateTrunc g.dateTruncUnit)
  | .mySql, .second => some (.dateFormat "%Y-%m-%d %H:%i:%s")
  | .mySql, .minute => some (.dateFormat "%Y-%m-%d %H:%i:00")
  | .mySql, .hour => some (.dateFormat "%Y-%m-%d %H:00:00")
  | .mySql, .day => some (.dateFormat "%Y-%m-%d")
  | .mySql, .week => some (.dateFormat "%Y-%u")
  | .mySql, .month => some (.dateFormat "%Y-%m")
  | .mySql, .quarter => some .quarterOf
  | .mySql, .year => some (.dateFormat "%Y")
  | .sqlite, .second => some (.strftime "%Y-%m-%d %H:%M:%S")
  | .sqlite, .minute => some (.strftime "%Y-%m-%d %H:%M:00")
  | .sqlite, .hour => some (.strftime "%Y-%m-%d %H:00:00")
  | .sqlite, .day => some (.strftime "%Y-%m-%d")
  | .sqlite, .week => some (.strftime "%Y-%W")
  | .sqlite, .month => some (.strftime "%Y-%m")
  | .sqlite, .quarter => none
  | .sqlite, .year => some (.strftime "%Y")

theorem dateTrunc_eq (d : Dialect) (g : TimeGranularity) (column : SqlText) :
    d.dateTrunc g.dateTruncUnit column = code (bucketTexts d g).1 ++ column ++ code (bucketTexts d g).2 := by
  cases d <;> cases g <;> rfl

def dialects : List Dialect := [.postgres, .mySql, .sqlite, .duckDb]

def granularities : List TimeGranularity := [.second, .minute, .hour, .day, .week, .month, .quarter, .year]

/-- **What the databases read**: a well-formed call, but for the quarter of SQLite. -/
theorem readBucket_eq (d : Dialect) (g : TimeGranularity) :
    readBucket d (BucketToken.around d (bucketTexts d g).1 (bucketTexts d g).2) = bucketExpr d g ∧
      ((bucketExpr d g).isSome = true → BucketToken.wellFormed .operand 0 (BucketToken.around d (bucketTexts d g).1 (bucketTexts d g).2) = true) := by
  have hall : (dialects.all fun d => granularities.all fun g =>
      decide (readBucket d (BucketToken.around d (bucketTexts d g).1 (bucketTexts d g).2) = bucketExpr d g) &&
        (!(bucketExpr d g).isSome || BucketToken.wellFormed .operand 0 (BucketToken.around d (bucketTexts d g).1 (bucketTexts d g).2))) = true := by
    decide +kernel
  have hd : d ∈ dialects := by cases d <;> decide
  have hg : g ∈ granularities := by cases g <;> decide
  have hone := List.all_eq_true.1 (List.all_eq_true.1 hall d hd) g hg
  simpa [imp_iff_not_or] using hone

/-- The texts around a column are what is written, whatever the column. -/
theorem bucketsAgree_iff {d : Dialect} {column : SqlText} {g : TimeGranularity} {t t' : Timestamp} :
    BucketsAgree d column g t t' ↔ ∃ expr b b', bucketExpr d g = some expr ∧ expr.eval t = some b ∧ expr.eval t' = some b' ∧
      (b = b' ↔ t.unit g = t'.unit g) ∧ (b ≠ b' → (b.Before b' ↔ t.unit g < t'.unit g)) := by
  obtain ⟨hread, hwell⟩ := readBucket_eq d g
  simp only [← Timestamp.trunc_eq_iff, ← Timestamp.trunc_lt_iff]
  constructor
  · rintro ⟨pre, post, expr, b, b', htext, -, hexpr, hrest⟩
    rw [dateTrunc_eq] at htext
    have hlist : Frag.code (bucketTexts d g).1 :: List.append column [.code (bucketTexts d g).2] = .code pre :: List.append column [.code post] :=
      htext
    obtain ⟨hpre, htail⟩ := List.cons.inj hlist
    obtain rfl := Frag.code.inj hpre
    obtain rfl := Frag.code.inj (List.singleton_inj.1 (List.append_cancel_left htail))
    rw [hread] at hexpr
    exact ⟨expr, b, b', hexpr, hrest⟩
  · rintro ⟨expr, b, b', hexpr, hrest⟩
    exact ⟨_, _, expr, b, b', dateTrunc_eq d g column, hwell (by rw [hexpr]; rfl), hread.trans hexpr, hrest⟩

/-! ## Formats -/

namespace DateField

theorem value_lt {week : Timestamp → Nat} {t : Timestamp} (hweek : week t < 100) (f : DateField) : f.value week t < 10 ^ f.width := by
  have hmonth := t.date.month_le
  have hday := t.date.day_le
  have hdays : Calendar.daysInMonth t.year t.month ≤ 31 := by
    unfold Calendar.daysInMonth
    split_ifs <;> omega
  cases f with
  | year => exact t.year_lt
  | month => exact lt_of_le_of_lt hmonth (by decide)
  | day => exact lt_of_le_of_lt (hday.trans hdays) (by decide)
  | hour => exact t.hour_lt.trans (by decide)
  | minute => exact t.minute_lt.trans (by decide)
  | second => exact t.second_lt.trans (by decide)
  | week => exact hweek

end DateField

/-! ## When buckets agree -/

/-- The units a dialect keeps apart, and in order. A week's number has to come with its year, which is not the
year of its days where the week goes over the new year; the number of a quarter comes without a year. -/
def BucketsKept (d : Dialect) (g : TimeGranularity) (t t' : Timestamp) : Prop :=
  match d, g with
  | .sqlite, .quarter => False
  | .mySql, .quarter => (t.quarter ≤ t'.quarter → t.year ≤ t'.year) ∧ (t'.quarter ≤ t.quarter → t'.year ≤ t.year)
  | .mySql, .week | .sqlite, .week => Calendar.weekNumber t.dayNumber = Calendar.weekNumber t'.dayNumber → t.year = t'.year
  | _, _ => True

theorem bucketsKept_iff_of_format {week : Timestamp → Nat} {t t' : Timestamp}
    (hweek : ∀ {t t' : Timestamp}, t.year = t'.year → (week t < week t' ↔ Calendar.weekNumber t.dayNumber < Calendar.weekNumber t'.dayNumber)) :
    (([t.year, week t] = [t'.year, week t'] ↔ t.unit .week = t'.unit .week) ∧
        ([t.year, week t] ≠ [t'.year, week t'] → ([t.year, week t] < [t'.year, week t'] ↔ t.unit .week < t'.unit .week))) ↔
      (Calendar.weekNumber t.dayNumber = Calendar.weekNumber t'.dayNumber → t.year = t'.year) := by
  have hmono {t t' : Timestamp} (h : t.year < t'.year) : Calendar.weekNumber t.dayNumber ≤ Calendar.weekNumber t'.dayNumber := by
    have hlt := Timestamp.dayNumber_lt_of_year h
    unfold Calendar.weekNumber
    omega
  unfold Timestamp.unit
  simp only [List.cons.injEq, and_true, ne_eq, List.cons_lt_cons_iff, List.not_lt_nil, and_false, or_false]
  obtain hyear | hyear | hyear := Nat.lt_trichotomy t.year t'.year
  · have hle := hmono hyear
    have hne : ¬t.year = t'.year := by omega
    simp only [hne, hyear, false_and, false_iff, not_false_iff, true_or, true_iff, forall_const, imp_false]
    omega
  · have hlt := hweek hyear
    have hgt := hweek hyear.symm
    simp only [hyear, lt_self_iff_false, true_and, false_or, implies_true, iff_true]
    omega
  · have hle := hmono hyear
    have hne : ¬t.year = t'.year := by omega
    have hnlt : ¬t.year < t'.year := by omega
    simp only [hne, hnlt, false_and, false_iff, not_false_iff, false_or, forall_const, imp_false]
    omega

section

variable {d : Dialect} {column : SqlText} {g : TimeGranularity} {t t' : Timestamp} {expr : BucketExpr} {week : Timestamp → Nat}
  {parts : List (FixedWidth.Part DateField)}

theorem bucketsAgree_iff_of_format (hexpr : bucketExpr d g = some expr) (hweek : ∀ t, week t < 100)
    (heval : ∀ t, expr.eval t = some (.text (FixedWidth.render DateField.width (DateField.value week t) parts))) :
    BucketsAgree d column g t t' ↔
      (FixedWidth.shown (DateField.value week t) parts = FixedWidth.shown (DateField.value week t') parts ↔ t.unit g = t'.unit g) ∧
        (FixedWidth.shown (DateField.value week t) parts ≠ FixedWidth.shown (DateField.value week t') parts →
          (FixedWidth.shown (DateField.value week t) parts < FixedWidth.shown (DateField.value week t') parts ↔ t.unit g < t'.unit g)) := by
  have hinj := FixedWidth.render_inj (fun f => DateField.value_lt (hweek t) f) (fun f => DateField.value_lt (hweek t') f) parts
  have hlt := FixedWidth.render_lt_iff (fun f => DateField.value_lt (hweek t) f) (fun f => DateField.value_lt (hweek t') f) parts
  rw [bucketsAgree_iff]
  simp only [ne_eq, ← hinj, ← hlt]
  constructor
  · rintro ⟨expr', b, b', hexpr', hb, hb', hagree⟩
    obtain rfl := Option.some.inj (hexpr.symm.trans hexpr')
    obtain rfl := Option.some.inj ((heval t).symm.trans hb)
    obtain rfl := Option.some.inj ((heval t').symm.trans hb')
    simp only [BucketValue.text.injEq, BucketValue.Before] at hagree
    exact hagree
  · intro hagree
    refine ⟨expr, _, _, hexpr, heval t, heval t', ?_⟩
    simp only [BucketValue.text.injEq, BucketValue.Before]
    exact hagree

/-- A format that shows the fields of the unit agrees with it. -/
theorem bucketsAgree_of_unit (hexpr : bucketExpr d g = some expr) (hweek : ∀ t, week t < 100)
    (heval : ∀ t, expr.eval t = some (.text (FixedWidth.render DateField.width (DateField.value week t) parts)))
    (hshown : ∀ t, FixedWidth.shown (DateField.value week t) parts = t.unit g) : BucketsAgree d column g t t' := by
  rw [bucketsAgree_iff_of_format hexpr hweek heval, hshown, hshown]
  exact ⟨Iff.rfl, fun _ => Iff.rfl⟩

end

/-- **Time buckets agree with `DATE_TRUNC`** exactly where the units are kept. -/
theorem time_buckets_agree_iff (d : Dialect) (column : SqlText) (g : TimeGranularity) (t t' : Timestamp) :
    BucketsAgree d column g t t' ↔ BucketsKept d g t t' := by
  have htrunc (hexpr : bucketExpr d g = some (.dateTrunc g.dateTruncUnit)) : BucketsAgree d column g t t' := by
    refine bucketsAgree_iff.2 ⟨_, .time (t.trunc g), .time (t'.trunc g), hexpr, ?_, ?_, ?_, fun _ => Timestamp.trunc_lt_iff g t t'⟩
    · cases g <;> rfl
    · cases g <;> rfl
    · rw [BucketValue.time.injEq, Timestamp.trunc_eq_iff]
  cases d with
  | postgres => exact iff_of_true (htrunc rfl) trivial
  | duckDb =>
    refine iff_of_true ?_ (by cases g <;> trivial)
    cases g with
    | day =>
      have hday (t : Timestamp) : t.trunc .day = (t.dayNumber + 5) * 86400000000 := by
        unfold Timestamp.trunc Timestamp.instant
        dsimp only
        omega
      refine bucketsAgree_iff.2 ⟨_, .date (t.dayNumber + 5), .date (t'.dayNumber + 5), rfl, ?_, ?_, ?_, fun _ => ?_⟩
      · rw [BucketExpr.eval, show granularityOf "day" = some .day by rfl, Option.map_some, hday, Nat.mul_div_cancel _ (by decide)]
      · rw [BucketExpr.eval, show granularityOf "day" = some .day by rfl, Option.map_some, hday, Nat.mul_div_cancel _ (by decide)]
      · rw [BucketValue.date.injEq, ← Timestamp.trunc_eq_iff, hday, hday]
        omega
      · rw [BucketValue.Before, ← Timestamp.trunc_lt_iff, hday, hday]
        omega
    | _ => exact htrunc rfl
  | mySql =>
    cases g with
    | quarter =>
      rw [bucketsAgree_iff]
      simp only [bucketExpr, Option.some.injEq, exists_and_left, exists_eq_left', BucketExpr.eval, BucketValue.number.injEq, ne_eq, BucketValue.Before,
        Timestamp.unit, List.cons.injEq, and_true, List.cons_lt_cons_iff, List.not_lt_nil, and_false, or_false, BucketsKept]
      omega
    | week =>
      rw [bucketsAgree_iff_of_format (d := .mySql) (g := .week) rfl Timestamp.mySqlWeek_lt fun t => rfl]
      exact bucketsKept_iff_of_format Timestamp.mySqlWeek_lt_iff
    | second => exact iff_of_true (bucketsAgree_of_unit rfl Timestamp.mySqlWeek_lt (fun t => rfl) fun t => rfl) trivial
    | _ => exact iff_of_true (bucketsAgree_of_unit rfl Timestamp.mySqlWeek_lt (fun t => rfl) fun t => rfl) trivial
  | sqlite =>
    cases g with
    | quarter =>
      refine iff_of_false (fun h => ?_) id
      obtain ⟨expr, b, b', hexpr, -⟩ := bucketsAgree_iff.1 h
      cases hexpr
    | week =>
      rw [bucketsAgree_iff_of_format (d := .sqlite) (g := .week) rfl Timestamp.sqliteWeek_lt fun t => rfl]
      exact bucketsKept_iff_of_format Timestamp.sqliteWeek_lt_iff
    | _ => exact iff_of_true (bucketsAgree_of_unit rfl Timestamp.sqliteWeek_lt (fun t => rfl) fun t => rfl) trivial

/-- Midnight of a date. -/
def midnight (year month day : Nat) (hyear : year < 10000) (hdate : Calendar.IsDate year month day) : Timestamp where
  year
  month
  day
  hour := 0
  minute := 0
  second := 0
  micro := 0
  year_lt := hyear
  date := hdate
  hour_lt := by decide
  minute_lt := by decide
  second_lt := by decide
  micro_lt := by decide

/-- The last Monday of 2018, whose week goes over the new year. -/
def newYearsEve : Timestamp := midnight 2018 12 31 (by decide) ⟨by decide, by decide, by decide, by decide⟩

def newYear : Timestamp := midnight 2019 1 1 (by decide) ⟨by decide, by decide, by decide, by decide⟩

def nextNewYear : Timestamp := midnight 2020 1 1 (by decide) ⟨by decide, by decide, by decide, by decide⟩

/-- The new year is in the week of the day before it, which a year and the number of a week tell apart. -/
theorem not_bucketsAgree_week {d : Dialect} {column : SqlText} {expr : BucketExpr} {week : Timestamp → Nat} (hexpr : bucketExpr d .week = some expr)
    (hweek : ∀ t, week t < 100) (heval : ∀ t, expr.eval t = some (.text (FixedWidth.render DateField.width (DateField.value week t)
      [.field .year, .literal '-', .field .week]))) : ¬BucketsAgree d column .week newYearsEve newYear := by
  intro hagree
  obtain ⟨hsame, -⟩ := (bucketsAgree_iff_of_format hexpr hweek heval).1 hagree
  have hunit : newYearsEve.unit .week = newYear.unit .week := by
    have hlast : Calendar.daysBeforeMonth 2018 12 = 334 := by decide
    have hfirst : Calendar.daysBeforeMonth 2019 1 = 0 := by decide
    unfold Timestamp.unit Timestamp.dayNumber newYearsEve newYear midnight Calendar.weekNumber Calendar.dayNumber
    simp only [Calendar.daysBeforeYear_eq, hlast, hfirst]
  have hyears : 2018 = 2019 := (List.cons.inj (hsame.2 hunit)).1
  exact absurd hyears (by decide)

/-- MySQL and SQLite part a week at the new year, MySQL joins the first quarters of two years, and the quarter of
SQLite is no expression. -/
theorem time_buckets_disagree : ¬BucketsAgree .mySql (ident "created_at") .week newYearsEve newYear ∧
    ¬BucketsAgree .sqlite (ident "created_at") .week newYearsEve newYear ∧
    ¬BucketsAgree .mySql (ident "created_at") .quarter newYear nextNewYear ∧
    ¬BucketsAgree .sqlite (ident "created_at") .quarter newYear nextNewYear ∧
    BucketToken.wellFormed .operand 0 (BucketToken.around .sqlite (bucketTexts .sqlite .quarter).1 (bucketTexts .sqlite .quarter).2) = false := by
  refine ⟨not_bucketsAgree_week rfl Timestamp.mySqlWeek_lt fun t => rfl, not_bucketsAgree_week rfl Timestamp.sqliteWeek_lt fun t => rfl, fun h => ?_, fun h => ?_, by decide +kernel⟩
  · obtain ⟨expr, b, b', hexpr, hb, hb', hsame, -⟩ := bucketsAgree_iff.1 h
    cases hexpr
    cases hb
    cases hb'
    exact absurd (hsame.1 rfl) (by decide)
  · obtain ⟨expr, b, b', hexpr, -⟩ := bucketsAgree_iff.1 h
    cases hexpr

end GraphNight
