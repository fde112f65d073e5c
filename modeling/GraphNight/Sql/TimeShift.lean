import GraphNight.Lib.Padding
import GraphNight.Sql.Generator

/-!
# What a time shift computes

A query grouped by dimensions and a time dimension has one row for each group and bucket. A time
shift asks for the measure some buckets away in the same group; what it compiles to is the row
before in an order of all rows, whatever the offset and the granularity are.
-/

namespace GraphNight

open SqlText

/-- One row of a grouped result. -/
structure OutRow (γ ν : Type) where
  group : γ
  /-- The time bucket, counted in units of the granularity. -/
  bucket : Int
  /-- The measure that is shifted. -/
  value : ν

/-! ## Windows -/

/-- A window that looks up its argument in another row of the same partition: so many rows before,
or behind where the number is negative. -/
structure ShiftWindow where
  arg : SqlText
  back : Int
  partition : List SqlText
  order : SqlText
deriving DecidableEq, Repr

/-- `LAG` looks back and `LEAD` ahead. -/
def shiftSign : Frag → Option Int
  | .code "LAG(" => some 1
  | .code "LEAD(" => some (-1)
  | _ => none

/-- The argument of a shift and the number of rows, which is one where it is not written. -/
def readShiftArgument (arg : SqlText) : Option (SqlText × Nat) :=
  match arg.reverse with
  | .number digits :: .code ", " :: front =>
    if digits.toList ≠ [] ∧ digits.toList.all Char.isDigit then some (front.reverse, Nat.ofDigitChars 10 digits.toList 0)
    else none
  | _ => some (arg, 1)

/-- What the rows are partitioned by, and what they are ordered by within a partition. -/
def readOver (opening : Frag) (window : SqlText) : Option (List SqlText × SqlText) :=
  match opening, window.getLast? with
  | .code ") OVER (ORDER BY ", some (.code ")") => some ([], window.dropLast)
  | .code ") OVER (PARTITION BY ", some (.code ")") =>
    let (partition, order) := window.dropLast.span fun piece => piece != .code " ORDER BY "
    some (partition.splitOn (.code ", "), order.drop 1)
  | _, _ => none

def opensOver (piece : Frag) : Bool := piece == .code ") OVER (ORDER BY " || piece == .code ") OVER (PARTITION BY "

/-- What comes before the last window of a text, and the window. -/
def cutOver (text : SqlText) : Option (SqlText × Frag × SqlText) :=
  match text.reverse.span fun piece => !opensOver piece with
  | (window, opening :: front) => some (front.reverse, opening, window.reverse)
  | (_, []) => none

/-- The window a text is, if it is a `LAG` or a `LEAD`: its last window is its own. -/
def readShift : SqlText → Option ShiftWindow
  | [] => none
  | head :: rest => do
    let sign ← shiftSign head
    let (arg, opening, window) ← cutOver rest
    let (partition, order) ← readOver opening window
    let (arg, rows) ← readShiftArgument arg
    return ⟨arg, sign * rows, partition, order⟩

/-- The measure of a year before, in the same region. -/
example : readShift (code "LAG(" ++ ident "revenue" ++ code ", " ++ [.number "12"] ++ code ") OVER (PARTITION BY " ++ ident "region" ++
    code " ORDER BY " ++ ident "month" ++ code ")") = some ⟨ident "revenue", 12, [ident "region"], ident "month"⟩ := by
  decide +kernel

section

variable {γ ν κ : Type}

/-- One row for each group and bucket. -/
def Grouped (rows : List (OutRow γ ν)) : Prop := (rows.map fun row => (row.group, row.bucket)).Nodup

/-- `v` is the measure some buckets away from a row in its group, if there is such a row. -/
def Shifted (rows : List (OutRow γ ν)) (offset : Int) (row : OutRow γ ν) (v : Option ν) : Prop :=
  (∃ other ∈ rows, other.group = row.group ∧ other.bucket = row.bucket + offset ∧ v = some other.value) ∨
    (∀ other ∈ rows, other.group = row.group → other.bucket ≠ row.bucket + offset) ∧ v = none

/-- A database evaluates texts on rows, and puts rows in the order of a text. -/
structure RowOrdering (γ ν κ : Type) where
  keys : SqlText → OutRow γ ν → κ
  arrange : SqlText → List (OutRow γ ν) → List (OutRow γ ν)
  arrange_perm : ∀ order rows, (arrange order rows).Perm rows

/-- The rows of the partition of a row, in their order. -/
def ShiftWindow.peers [DecidableEq κ] (w : ShiftWindow) (db : RowOrdering γ ν κ) (rows : List (OutRow γ ν)) (row : OutRow γ ν) :
    List (OutRow γ ν) :=
  db.arrange w.order (rows.filter fun other => w.partition.all fun text => db.keys text other == db.keys text row)

/-- The row as many places before the `i`-th, if there is one. -/
def rowBefore (rows : List (OutRow γ ν)) (i : Nat) (back : Int) : Option (OutRow γ ν) :=
  if back ≤ i then rows[(i - back).toNat]? else none

/-- A window text gives every row the shifted measure, whatever rows a query has. -/
def Honours [DecidableEq κ] (db : RowOrdering γ ν κ) (sql : SqlText) (offset : Int) : Prop :=
  ∀ rows, Grouped rows → ∃ w, readShift sql = some w ∧ ∀ row ∈ rows, ∀ i, (w.peers db rows row)[i]? = some row →
    Shifted rows offset row ((rowBefore (w.peers db rows row) i w.back).map (·.value))

/-- A row so many places before the `i`-th is in its place. -/
theorem rowBefore_eq_none {rows : List (OutRow γ ν)} {i : Nat} {back : Int} (h : back > i ∨ i - back ≥ rows.length) :
    rowBefore rows i back = none := by
  unfold rowBefore
  split_ifs with hback
  · apply List.getElem?_eq_none
    omega
  · rfl

/-- One more row than a window looks back, all in one group, with `far` buckets between any two. -/
def sparseRows (group : γ) (value : ν) (far : Int) (n : Nat) : List (OutRow γ ν) :=
  (List.range (n + 1)).map fun (k : Nat) => ⟨group, k * far, value⟩

theorem grouped_sparseRows {group : γ} {value : ν} {far : Int} (hfar : 0 < far) (n : Nat) :
    Grouped (sparseRows group value far n) := by
  unfold Grouped sparseRows
  rw [List.map_map]
  apply List.Nodup.map _ List.nodup_range
  intro k k' h
  have hbucket : (k : Int) * far = k' * far := congrArg Prod.snd h
  exact Int.ofNat_inj.1 (Int.eq_of_mul_eq_mul_right (Int.ne_of_gt hfar) hbucket)

/-- Rows of one group are in one partition, unless the partition is finer. -/
theorem peers_sparseRows [DecidableEq κ] {db : RowOrdering γ ν κ} {w : ShiftWindow} {group : γ} {value : ν} {far : Int} {n : Nat}
    (hgroup : ∀ text ∈ w.partition, ∀ row row', row.group = row'.group → db.keys text row = db.keys text row') {row : OutRow γ ν}
    (hrow : row ∈ sparseRows group value far n) :
    w.peers db (sparseRows group value far n) row = db.arrange w.order (sparseRows group value far n) := by
  have hsame : ∀ other ∈ sparseRows group value far n, other.group = group := by
    intro other hother
    obtain ⟨k, -, rfl⟩ := List.mem_map.1 hother
    rfl
  unfold ShiftWindow.peers
  rw [List.filter_eq_self.2]
  intro other hother
  rw [List.all_eq_true]
  intro text htext
  exact beq_iff_eq.2 (hgroup text htext other row ((hsame other hother).trans (hsame row hrow).symm))

/-- Rows with buckets missing between them are not `offset` buckets apart, for an offset below the distance. -/
theorem offset_eq_zero {group : γ} {value : ν} {far : Int} {n : Nat} {row other : OutRow γ ν} {offset : Int}
    (hrow : row ∈ sparseRows group value far n) (hother : other ∈ sparseRows group value far n)
    (hbucket : other.bucket = row.bucket + offset) (hfar : offset.natAbs < far.natAbs) : offset = 0 := by
  obtain ⟨k, -, rfl⟩ := List.mem_map.1 hrow
  obtain ⟨k', -, rfl⟩ := List.mem_map.1 hother
  apply Int.eq_zero_of_dvd_of_natAbs_lt_natAbs _ hfar
  refine ⟨(k' : Int) - k, ?_⟩
  dsimp only at hbucket
  rw [Int.mul_sub, Int.mul_comm far, Int.mul_comm far]
  omega

/-- **A number of rows is no number of buckets.** A window partitioned by nothing finer than the
group, whatever its order, does not give the measure `offset` buckets away, unless it looks at the
row itself for no offset: where buckets are missing it looks too far, or not far enough. -/
theorem not_honours [DecidableEq κ] [Nonempty γ] [Nonempty ν] {db : RowOrdering γ ν κ} {sql : SqlText} {w : ShiftWindow} {offset : Int}
    (hread : readShift sql = some w) (hgroup : ∀ text ∈ w.partition, ∀ row row', row.group = row'.group → db.keys text row = db.keys text row')
    (hshift : w.back ≠ 0 ∨ offset ≠ 0) : ¬Honours db sql offset := by
  obtain ⟨group⟩ := ‹Nonempty γ›
  obtain ⟨value⟩ := ‹Nonempty ν›
  intro h
  obtain ⟨far, hpos, hfar⟩ : ∃ far : Int, 0 < far ∧ offset.natAbs < far.natAbs := ⟨offset.natAbs + 1, by omega, by omega⟩
  have hrows (n : Nat) : ∀ row ∈ sparseRows group value far n, ∀ i, (db.arrange w.order (sparseRows group value far n))[i]? = some row →
      Shifted (sparseRows group value far n) offset row
        ((rowBefore (db.arrange w.order (sparseRows group value far n)) i w.back).map (·.value)) := by
    obtain ⟨w', hread', hall⟩ := h (sparseRows group value far n) (grouped_sparseRows hpos n)
    obtain rfl := Option.some.inj (hread.symm.trans hread')
    intro row hrow i hi
    have hrow' := hall row hrow i
    rw [peers_sparseRows hgroup hrow] at hrow'
    exact hrow' hi
  have hperm (n : Nat) := db.arrange_perm w.order (sparseRows group value far n)
  have hlength (n : Nat) : (db.arrange w.order (sparseRows group value far n)).length = n + 1 := by
    rw [(hperm n).length_eq, sparseRows, List.length_map, List.length_range]
  by_cases hzero : offset = 0
  · -- no other row stands in for the only one
    obtain ⟨row, hrow⟩ := List.length_eq_one_iff.1 (hlength 0)
    have hmem : row ∈ sparseRows group value far 0 := (hperm 0).subset (hrow ▸ List.mem_singleton_self row)
    have honly := hrows 0 row hmem 0 (by rw [hrow]; rfl)
    have hback : w.back ≠ 0 := hshift.resolve_right (not_not.2 hzero)
    rw [rowBefore_eq_none (by rw [hlength]; omega), Option.map_none] at honly
    obtain ⟨other, -, -, -, hvalue⟩ | ⟨hno, -⟩ := honly
    · cases hvalue
    · exact hno row hmem rfl (by omega)
  · -- one of the two ends is looked up from the other
    obtain ⟨i, hi, hback, hj⟩ : ∃ i : Nat, i ≤ w.back.natAbs ∧ w.back ≤ i ∧ (i - w.back).toNat ≤ w.back.natAbs := by
      by_cases hsign : 0 ≤ w.back
      · exact ⟨w.back.natAbs, by omega, by omega, by omega⟩
      · exact ⟨0, by omega, by omega, by omega⟩
    have hget (j : Nat) (hj : j ≤ w.back.natAbs) :
        ∃ row, (db.arrange w.order (sparseRows group value far w.back.natAbs))[j]? = some row := by
      apply Exists.intro
      apply List.getElem?_eq_getElem
      rw [hlength]
      omega
    obtain ⟨row, hrow⟩ := hget i hi
    obtain ⟨found, hfound⟩ := hget (i - w.back).toNat hj
    have hmem := (hperm _).subset (List.mem_of_getElem? hrow)
    have hshifted := hrows _ row hmem i hrow
    rw [rowBefore, if_pos hback, hfound, Option.map_some] at hshifted
    obtain ⟨other, hother, -, hbucket, -⟩ | ⟨-, hnone⟩ := hshifted
    · exact hzero (offset_eq_zero hmem hother hbucket hfar)
    · cases hnone

/-- An argument that ends in a parenthesis is followed by no number. -/
theorem readShiftArgument_call (front : SqlText) : readShiftArgument (front ++ code ")") = some (front ++ code ")", 1) := by
  unfold readShiftArgument
  simp [code]

/-- A text is cut at its last window. -/
theorem cutOver_append {opening : Frag} {window : SqlText} (front : SqlText) (hopening : opensOver opening = true)
    (hwindow : ∀ piece ∈ window, opensOver piece = false) : cutOver (front ++ opening :: window) = some (front, opening, window) := by
  have hreverse : ∀ piece ∈ window.reverse, (!opensOver piece) = true := by
    intro piece hpiece
    rw [hwindow piece (List.mem_reverse.1 hpiece), Bool.not_false]
  have hspan : (window.reverse ++ opening :: front.reverse).span (fun piece => !opensOver piece) =
      (window.reverse, opening :: front.reverse) := by
    rw [List.span_eq_takeWhile_dropWhile, List.takeWhile_append_of_pos hreverse, List.dropWhile_append_of_pos hreverse,
      List.takeWhile_cons_of_neg (by simp [hopening]), List.dropWhile_cons_of_neg (by simp [hopening]), List.append_nil]
  unfold cutOver
  rw [List.reverse_append, List.reverse_cons, List.append_assoc, List.singleton_append, hspan]
  simp only [List.reverse_reverse]

/-- A `LAG` of a call without a partition looks one row back among all rows. -/
theorem readShift_lag (front : SqlText) (order : String) :
    readShift (code "LAG(" ++ (front ++ code ")") ++ code ") OVER (ORDER BY " ++ raw order ++ code ")") =
      some ⟨front ++ code ")", 1, [], raw order⟩ := by
  have hwindow : ∀ piece ∈ raw order ++ code ")", opensOver piece = false := by
    intro piece hpiece
    obtain rfl | hpiece := List.mem_cons.1 hpiece
    · rfl
    · obtain rfl := List.mem_singleton.1 hpiece
      decide
  have hopens : opensOver (.code ") OVER (ORDER BY ") = true := by decide
  have hcut := cutOver_append (front ++ code ")") hopens hwindow
  have hlag : code "LAG(" ++ (front ++ code ")") ++ code ") OVER (ORDER BY " ++ raw order ++ code ")" =
      .code "LAG(" :: ((front ++ code ")") ++ .code ") OVER (ORDER BY " :: (raw order ++ code ")")) := by
    simp [code]
  have hread : readOver (.code ") OVER (ORDER BY ") (raw order ++ code ")") = some ([], raw order) := by
    unfold readOver
    simp [code]
  rw [hlag, readShift, hcut]
  simp [shiftSign, hread, readShiftArgument_call]

/-- An aggregation is a call. -/
theorem aggregateText_call (agg : AggregationType) (column : SqlText) : ∃ front, aggregateText agg column = front ++ code ")" := by
  unfold aggregateText
  split_ifs
  · exact ⟨_, rfl⟩
  · exact ⟨_, rfl⟩

/-- The row before is no shift, by any number of buckets and in any order. -/
theorem not_honours_lag [DecidableEq κ] [Nonempty γ] [Nonempty ν] (db : RowOrdering γ ν κ) (agg : AggregationType) (column : SqlText)
    (order : String) (offset : Int) :
    ¬Honours db (code "LAG(" ++ aggregateText agg column ++ code ") OVER (ORDER BY " ++ raw order ++ code ")") offset := by
  obtain ⟨front, hfront⟩ := aggregateText_call agg column
  rw [hfront]
  apply not_honours (readShift_lag front order)
  · intro text htext
    cases htext
  · left
    exact Int.one_ne_zero

end

namespace SqlGenerator

variable {γ ν κ : Type}

/-- A measure written `time_shift(m, n, 'granularity')`. -/
def IsTimeShift (measure : Measure) (m n granularity : String) : Prop :=
  ∃ pad pad', Str.Blank pad ∧ Str.Blank pad' ∧ (Str.trim measure.formula.expression).toList =
    "time_shift(".toList ++ m.toList ++ ',' :: pad ++ n.toList ++ ',' :: pad' ++ '\'' :: granularity.toList ++ "')".toList

/-- A time shift is refused, or gives the measure as many buckets away as its offset says and has its text
to itself; `offsetOf` is the number the digits of an offset stand for. -/
def TimeShiftHonoured [DecidableEq κ] (g : SqlGenerator) (db : RowOrdering γ ν κ) (offsetOf : String → Int)
    (sourceAlias base : String) (measure : Measure) (m n granularity : String) : Prop :=
  (∃ fault, g.buildMeasureExpression sourceAlias base measure = .error fault) ∨
    ∃ sql, g.buildMeasureExpression sourceAlias base measure = .ok sql ∧ Honours db sql (offsetOf n) ∧
      ∀ other n' granularity', IsTimeShift other m n' granularity' → (n', granularity') ≠ (n, granularity) →
        g.buildMeasureExpression sourceAlias base other ≠ .ok sql

theorem IsTimeShift.startsWith {measure : Measure} {m n granularity : String} (h : IsTimeShift measure m n granularity) :
    Str.startsWith (Str.trim measure.formula.expression) "time_shift(" = true := by
  obtain ⟨pad, pad', -, -, htext⟩ := h
  unfold Str.startsWith
  rw [List.isPrefixOf_iff_prefix, htext]
  simp only [List.append_assoc]
  exact List.prefix_append _ _

theorem needsParse_of_startsWith {expr : String} (h : Str.startsWith expr "time_shift(" = true) (htrim : Str.trim expr = expr) :
    FormulaParser.needsParse expr = true := by
  have hne : expr ≠ "" := by
    rintro rfl
    exact absurd h (by decide)
  unfold FormulaParser.needsParse
  dsimp only
  rw [htrim, if_neg hne, h]
  simp

/-- The text of a time shift is made of its measure alone. -/
theorem buildMeasureExpression_of_timeShift {g : SqlGenerator} {sourceAlias base : String} {measure : Measure}
    (h : Str.startsWith (Str.trim measure.formula.expression) "time_shift(" = true) :
    g.buildMeasureExpression sourceAlias base measure =
      match g.formulaParser.timeShiftCaptures (Str.trim measure.formula.expression) with
      | none => Res.fail "Invalid formula: malformed time_shift expression"
      | some (inner, _, _) => do
        let innerMeasure ← g.formulaParser.parseMeasure (Str.trim inner)
        return code "LAG(" ++ g.aggregateColumn sourceAlias base innerMeasure ++ code ") OVER (ORDER BY " ++ raw sourceAlias ++ code ")" := by
  unfold buildMeasureExpression
  dsimp only
  rw [if_pos (needsParse_of_startsWith h (Str.trim_trim _)), if_pos h, buildTimeShiftExpression]
  cases g.formulaParser.timeShiftCaptures (Str.trim measure.formula.expression) with
  | none => simp only [Res.ofOption, Res.fail, bind, Except.bind]
  | some caps => simp only [Res.ofOption, bind, Except.bind]

/-- The parser does not take the arguments of a time shift apart, or not the measure it finds there. -/
def TimeShiftRefused (g : SqlGenerator) (expr : String) : Prop :=
  ∀ inner n granularity, g.formulaParser.timeShiftCaptures expr = some (inner, n, granularity) →
    ∃ fault, g.formulaParser.parseMeasure (Str.trim inner) = .error fault

/-- **When a time shift is honoured**: only where it is refused. -/
theorem time_shift_honoured_iff [DecidableEq κ] [Nonempty γ] [Nonempty ν] (g : SqlGenerator) (db : RowOrdering γ ν κ)
    (offsetOf : String → Int) (sourceAlias base m n granularity : String) (measure : Measure)
    (hshift : IsTimeShift measure m n granularity) :
    g.TimeShiftHonoured db offsetOf sourceAlias base measure m n granularity ↔
      g.TimeShiftRefused (Str.trim measure.formula.expression) := by
  have hbuild := @buildMeasureExpression_of_timeShift g sourceAlias base measure hshift.startsWith
  unfold TimeShiftHonoured TimeShiftRefused
  rw [hbuild]
  cases hcaps : g.formulaParser.timeShiftCaptures (Str.trim measure.formula.expression) with
  | none => exact iff_of_true (.inl ⟨_, rfl⟩) fun inner n granularity h => by cases h
  | some caps =>
    obtain ⟨inner, digits, unit⟩ := caps
    dsimp only
    cases hinner : g.formulaParser.parseMeasure (Str.trim inner) with
    | error fault =>
      refine iff_of_true (.inl ⟨fault, rfl⟩) fun inner' n' unit' h => ⟨fault, ?_⟩
      obtain ⟨rfl, -⟩ := Prod.mk.inj (Option.some.inj h)
      exact hinner
    | ok innerMeasure =>
      refine iff_of_false ?_ ?_
      · rintro (⟨fault, hfault⟩ | ⟨sql, hsql, hhonours, -⟩)
        · cases hfault
        · rw [← Except.ok.inj hsql] at hhonours
          exact not_honours_lag db _ _ _ _ hhonours
      · intro hrefused
        obtain ⟨fault, hfault⟩ := hrefused inner digits unit rfl
        rw [hinner] at hfault
        cases hfault

def salesGenerator : SqlGenerator := .new .postgres ⟨fun _ => false, fun _ => false⟩

def shiftedRevenue (text : String) : Measure := ⟨{ expression := text }, .sum⟩

/-- Rows as they are stored, all in one group. -/
def storedOrder : RowOrdering Unit Int Unit := ⟨fun _ _ => (), fun _ rows => rows, fun _ rows => List.Perm.refl rows⟩

theorem time_shift_honoured_iff_unknown :
    salesGenerator.TimeShiftHonoured storedOrder (fun _ => -1) "sales" "sales"
        (shiftedRevenue "time_shift(revenue:median, -1, 'month')") "revenue:median" "-1" "month" ↔
      salesGenerator.TimeShiftRefused (Str.trim "time_shift(revenue:median, -1, 'month')") :=
  time_shift_honoured_iff salesGenerator storedOrder (fun _ => -1) "sales" "sales" "revenue:median" "-1" "month"
    (shiftedRevenue "time_shift(revenue:median, -1, 'month')")
    ⟨[' '], [' '], Str.Blank.singleton (by decide +kernel), Str.Blank.singleton (by decide +kernel), by decide +kernel⟩

/-- The month before and the year twelve years on are one text, and it is neither. -/
theorem time_shifts_are_one_text :
    ∃ sql, salesGenerator.buildMeasureExpression "sales" "sales" (shiftedRevenue "time_shift(revenue:sum, -1, 'month')") = .ok sql ∧
      salesGenerator.buildMeasureExpression "sales" "sales" (shiftedRevenue "time_shift(revenue:sum, 12, 'year')") = .ok sql ∧
      Dialect.postgres.render sql = "LAG(SUM(sales.\"revenue\")) OVER (ORDER BY sales)" ∧
      ¬Honours storedOrder sql (-1) ∧ ¬Honours storedOrder sql 12 :=
  ⟨code "LAG(" ++ aggregateText .sum (qualified "sales" "revenue") ++ code ") OVER (ORDER BY " ++ raw "sales" ++ code ")",
    by decide +kernel, by decide +kernel, by decide +kernel, not_honours_lag storedOrder _ _ _ _,
    not_honours_lag storedOrder _ _ _ _⟩

end SqlGenerator

end GraphNight
