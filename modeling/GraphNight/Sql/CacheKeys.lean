import GraphNight.Core.JsonText
import GraphNight.Lib.Delimited
import GraphNight.Sql.EngineRuns
import GraphNight.Sql.Executor

/-!
# What a cache key is made of (`graphnight-sql/src/cache.rs`, `lib.rs`)

A key is the hash of a stream of bytes. The canonical bytes of a query end each field with a
separator, and say neither how many entries a list has nor what a custom aggregation is called; the
stream of a result has no separators at all; that of a plan ends with JSON, which needs none.
-/

namespace GraphNight

/-- `str::as_bytes`. -/
def utf8 (s : String) : List UInt8 := s.toUTF8.data.toList

theorem utf8_append (s t : String) : utf8 (s ++ t) = utf8 s ++ utf8 t := by
  simp [utf8, ByteArray.data_append]

theorem utf8_inj {s t : String} (h : utf8 s = utf8 t) : s = t := by
  have hbytes : s.toUTF8 = t.toUTF8 := ByteArray.ext (Array.toList_inj.1 h)
  exact String.toByteArray_inj.1 (by simpa using hbytes)

/-- `feed_bytes`. -/
def FxHasher.feedBytes (h : FxHasher) (bytes : List UInt8) : FxHasher := bytes.foldl feedU8 h

theorem FxHasher.feedStr_eq (h : FxHasher) (s : String) : h.feedStr s = h.feedBytes (utf8 s) := rfl

theorem FxHasher.feedBytes_append (h : FxHasher) (bs cs : List UInt8) : h.feedBytes (bs ++ cs) = (h.feedBytes bs).feedBytes cs :=
  List.foldl_append

/-! ## The canonical bytes of a query -/

def writeStr (s : String) : List UInt8 := utf8 s ++ [0x1f]

def writeOpt : Option String → List UInt8
  | some s => utf8 s ++ [0x1f]
  | none => [0x1e]

def writeU8 (b : UInt8) : List UInt8 := [b, 0x1f]

def aggName : AggregationType → String
  | .sum => "sum"
  | .avg => "avg"
  | .count => "count"
  | .min => "min"
  | .max => "max"
  | .countDistinct => "count_distinct"
  | .custom _ => "custom"

def granName : TimeGranularity → String
  | .second => "second"
  | .minute => "minute"
  | .hour => "hour"
  | .day => "day"
  | .week => "week"
  | .month => "month"
  | .quarter => "quarter"
  | .year => "year"

def opName : FilterOperator → String
  | .eq => "eq"
  | .neq => "neq"
  | .gt => "gt"
  | .gte => "gte"
  | .lt => "lt"
  | .lte => "lte"
  | .like => "like"
  | .iLike => "ilike"
  | .in => "in"
  | .notIn => "not_in"
  | .isNull => "is_null"
  | .isNotNull => "is_not_null"
  | .between => "between"
  | .notBetween => "not_between"
  | .intersects => "intersects"
  | .within => "within"
  | .contains => "contains"

/-- `bool as u8`. -/
def flagByte (b : Bool) : UInt8 := if b then 1 else 0

/-- Canonical, compact serialization of a `Query` for hashing. -/
def canonicalQueryBytes (q : Query) : List UInt8 :=
  writeOpt q.name ++
  writeOpt (q.sourceModel.map (·.model)) ++
  writeOpt (q.sourceModel.bind (·.aliasName)) ++
  writeOpt (q.sourceModel.bind (·.datasource)) ++
  (q.measures.flatMap fun m =>
    writeStr m.formula.expression ++ writeOpt m.formula.label ++ writeOpt m.formula.format ++ writeStr (aggName m.aggregation)) ++
  (q.dimensions.flatMap fun d => writeStr d.name ++ writeOpt d.label) ++
  (q.timeDimensions.flatMap fun td => writeStr td.dimension ++ writeStr (granName td.granularity) ++ writeOpt td.label) ++
  (q.filters.flatMap fun f =>
    writeStr f.field ++ writeStr (opName f.operator) ++ writeStr f.value.toJson ++ writeU8 (flagByte f.orCondition)) ++
  (q.order.flatMap fun o => writeStr o.field ++ writeU8 (flagByte o.descending)) ++
  writeOpt (q.limit.map toString) ++
  writeOpt (q.offset.map toString) ++
  writeOpt (q.wholePeriodsOnly.map toString) ++
  writeOpt (q.distinctDimensionValues.map toString) ++
  writeOpt q.stageRef

/-! ## The fields behind the bytes -/

/-- One thing that is written. -/
inductive WrittenField where
  | text (s : String)
  | absent
  | flag (b : Bool)

namespace WrittenField

def ofOption : Option String → WrittenField
  | some s => .text s
  | none => .absent

/-- The characters of a field, its separator included. -/
def write : WrittenField → List Char
  | .text s => s.toList ++ ['\x1f']
  | .absent => ['\x1e']
  | .flag b => [if b then '\x01' else '\x00', '\x1f']

/-- The unit separator, and the record separator that stands for an absent field. -/
def isSeparator (c : Char) : Bool := c == '\x1f' || c == '\x1e'

/-- The pieces of a field: it is one where it has no separator in it. -/
def pieces (f : WrittenField) : List (List Char × Char) := Delimited.pieces isSeparator f.write

theorem ended_write (f : WrittenField) : Delimited.Ended isSeparator f.write := by
  cases f with
  | text s =>
    intro c hc
    rw [write, List.getLast?_concat] at hc
    obtain rfl := Option.some.inj hc
    rfl
  | absent =>
    intro c hc
    obtain rfl := Option.some.inj hc
    rfl
  | flag b =>
    intro c hc
    obtain rfl := Option.some.inj hc
    rfl

/-- The bytes of a field. -/
def bytes (f : WrittenField) : List UInt8 := utf8 (String.ofList f.write)

theorem writeStr_eq (s : String) : writeStr s = (WrittenField.text s).bytes := by
  rw [bytes, write, String.ofList_append, String.ofList_toList, utf8_append]
  rfl

theorem writeOpt_eq (o : Option String) : writeOpt o = (ofOption o).bytes := by
  cases o with
  | none => rfl
  | some s => exact writeStr_eq s

theorem writeU8_eq (b : Bool) : writeU8 (flagByte b) = (WrittenField.flag b).bytes := by
  cases b <;> rfl

end WrittenField

open WrittenField in
/-- What is written of a query, field by field: a custom aggregation is one without its name, and a list
its entries without their number. -/
def writtenFields (q : Query) : List WrittenField :=
  [ofOption q.name, ofOption (q.sourceModel.map (·.model)), ofOption (q.sourceModel.bind (·.aliasName)),
    ofOption (q.sourceModel.bind (·.datasource))] ++
  (q.measures.flatMap fun m =>
    [.text m.formula.expression, ofOption m.formula.label, ofOption m.formula.format, .text (aggName m.aggregation)]) ++
  (q.dimensions.flatMap fun d => [.text d.name, ofOption d.label]) ++
  (q.timeDimensions.flatMap fun td => [.text td.dimension, .text (granName td.granularity), ofOption td.label]) ++
  (q.filters.flatMap fun f => [.text f.field, .text (opName f.operator), .text f.value.toJson, .flag f.orCondition]) ++
  (q.order.flatMap fun o => [.text o.field, .flag o.descending]) ++
  [ofOption (q.limit.map toString), ofOption (q.offset.map toString), ofOption (q.wholePeriodsOnly.map toString),
    ofOption (q.distinctDimensionValues.map toString), ofOption q.stageRef]

/-- The pieces of a query: its fields in order, cut at their separators. -/
def writtenPieces (q : Query) : List (List Char × Char) := (writtenFields q).flatMap WrittenField.pieces

theorem canonicalQueryBytes_eq (q : Query) : canonicalQueryBytes q = (writtenFields q).flatMap WrittenField.bytes := by
  simp only [canonicalQueryBytes, writtenFields, WrittenField.writeStr_eq, WrittenField.writeOpt_eq, WrittenField.writeU8_eq,
    List.flatMap_append, List.flatMap_assoc, List.flatMap_cons, List.flatMap_nil, List.append_nil, List.append_assoc]

theorem utf8_flatMap (fs : List WrittenField) : fs.flatMap WrittenField.bytes = utf8 (String.ofList (fs.flatMap WrittenField.write)) := by
  induction fs with
  | nil => rfl
  | cons f fs ih => rw [List.flatMap_cons, List.flatMap_cons, String.ofList_append, utf8_append, ih, WrittenField.bytes]

/-- **Two queries have the same canonical bytes exactly if they have the same pieces.** -/
theorem canonicalQueryBytes_eq_iff {q q' : Query} : canonicalQueryBytes q = canonicalQueryBytes q' ↔ writtenPieces q = writtenPieces q' := by
  rw [canonicalQueryBytes_eq, canonicalQueryBytes_eq, utf8_flatMap, utf8_flatMap]
  have hchars : utf8 (String.ofList ((writtenFields q).flatMap WrittenField.write)) =
      utf8 (String.ofList ((writtenFields q').flatMap WrittenField.write)) ↔
      (writtenFields q).flatMap WrittenField.write = (writtenFields q').flatMap WrittenField.write := by
    constructor
    · intro h
      simpa using congrArg String.toList (utf8_inj h)
    · intro h
      rw [h]
  exact hchars.trans (Delimited.flatMap_eq_iff WrittenField.ended_write)

/-! ## The streams behind the keys -/

/-- What is fed for a result: the datasource's name, the policy scope and the statement. -/
def resultStream (name policyFingerprint statement : String) : List UInt8 := utf8 name ++ utf8 policyFingerprint ++ utf8 statement

/-- What is fed for a plan: the dialect's name, the policy scope and the query as JSON. -/
def planStream (dialectName policyFingerprint : String) (query : Query) : List UInt8 :=
  utf8 dialectName ++ utf8 policyFingerprint ++ utf8 query.toJson

theorem resultKey_eq (name policyFingerprint : String) (sql : GeneratedSql) :
    QueryExecutor.resultKey name policyFingerprint sql = (FxHasher.new.feedBytes (resultStream name policyFingerprint sql.display)).digest := by
  rw [QueryExecutor.resultKey, FxHasher.feedStr_eq, FxHasher.feedStr_eq, FxHasher.feedStr_eq, resultStream, FxHasher.feedBytes_append,
    FxHasher.feedBytes_append]

theorem planKey_eq (dialectName policyFingerprint : String) (query : Query) :
    SqlEngine.planKey dialectName policyFingerprint query = (FxHasher.new.feedBytes (planStream dialectName policyFingerprint query)).digest := by
  rw [SqlEngine.planKey, FxHasher.feedStr_eq, FxHasher.feedStr_eq, FxHasher.feedStr_eq, planStream, FxHasher.feedBytes_append,
    FxHasher.feedBytes_append]

/-- A name is another with a text after it that the other's statement has before it. -/
def TakesOver (policyFingerprint name statement name' statement' : String) : Prop :=
  ∃ taken, taken ≠ "" ∧ name' = name ++ taken ∧ policyFingerprint ++ statement = taken ++ (policyFingerprint ++ statement')

theorem TakesOver.names_ne {policyFingerprint name statement name' statement' : String}
    (h : TakesOver policyFingerprint name statement name' statement') : name ≠ name' := by
  obtain ⟨taken, hne, hname, -⟩ := h
  intro heq
  rw [← heq] at hname
  have hlength := congrArg (fun s => s.toList.length) hname
  simp at hlength
  exact hne hlength

theorem utf8_eq_iff {s t : String} : utf8 s = utf8 t ↔ s = t := ⟨utf8_inj, fun h => by rw [h]⟩

/-- **When two results have one stream.** -/
theorem resultStream_eq_iff {policyFingerprint name statement name' statement' : String} :
    resultStream name policyFingerprint statement = resultStream name' policyFingerprint statement' ↔
      name = name' ∧ statement = statement' ∨ TakesOver policyFingerprint name statement name' statement' ∨
        TakesOver policyFingerprint name' statement' name statement := by
  rw [resultStream, resultStream, List.append_assoc, List.append_assoc, ← utf8_append, ← utf8_append, ← utf8_append, ← utf8_append, utf8_eq_iff]
  constructor
  · intro h
    have hlist := congrArg String.toList h
    rw [String.toList_append, String.toList_append (s := name')] at hlist
    obtain ⟨taken, hname, hrest⟩ | ⟨taken, hname, hrest⟩ := List.append_eq_append_iff.1 hlist
    · cases taken with
      | nil =>
        obtain rfl : name = name' := String.toList_inj.1 (by simpa using hname.symm)
        refine .inl ⟨rfl, ?_⟩
        have hstatement : (policyFingerprint ++ statement).toList = (policyFingerprint ++ statement').toList := hrest
        exact String.toList_inj.1 (by simpa using hstatement)
      | cons c cs =>
        refine .inr (.inl ⟨String.ofList (c :: cs), by simp, String.toList_inj.1 ?_, String.toList_inj.1 ?_⟩)
        · rw [hname, String.toList_append, String.toList_ofList]
        · rw [hrest, String.toList_append (s := String.ofList (c :: cs)), String.toList_ofList]
    · cases taken with
      | nil =>
        obtain rfl : name = name' := String.toList_inj.1 (by simpa using hname)
        refine .inl ⟨rfl, ?_⟩
        have hstatement : (policyFingerprint ++ statement').toList = (policyFingerprint ++ statement).toList := hrest
        exact String.toList_inj.1 (by simpa using hstatement.symm)
      | cons c cs =>
        refine .inr (.inr ⟨String.ofList (c :: cs), by simp, String.toList_inj.1 ?_, String.toList_inj.1 ?_⟩)
        · rw [hname, String.toList_append, String.toList_ofList]
        · rw [hrest, String.toList_append (s := String.ofList (c :: cs)), String.toList_ofList]
  · rintro (⟨rfl, rfl⟩ | ⟨taken, -, rfl, h⟩ | ⟨taken, -, rfl, h⟩)
    · rfl
    · rw [h, String.append_assoc]
    · rw [h, String.append_assoc]

/-- No two dialects begin alike. -/
theorem planStream_inj {d d' : Dialect} {policyFingerprint : String} {q q' : Query} (hq : q.WellFormed) (hq' : q'.WellFormed)
    (h : planStream d.name policyFingerprint q = planStream d'.name policyFingerprint q') : d = d' ∧ q = q' := by
  have hdialect : d = d' := by
    rw [planStream, planStream, List.append_assoc, List.append_assoc] at h
    have hhead := congrArg List.head? h
    cases d <;> cases d' <;> first | rfl | cases hhead
  subst hdialect
  refine ⟨rfl, Query.toJson_inj hq hq' (utf8_inj ?_)⟩
  rw [planStream, planStream, List.append_assoc, List.append_assoc] at h
  exact List.append_cancel_left (List.append_cancel_left h)

/-! ## What identifies an entry -/

/-- Two queries are the same or have different canonical bytes. -/
def QueriesTold (q q' : Query) : Prop := q ≠ q' → canonicalQueryBytes q ≠ canonicalQueryBytes q'

/-- Two results of one engine are of one name and statement or have different streams. -/
def ResultsTold (policyFingerprint name statement name' statement' : String) : Prop :=
  (name ≠ name' ∨ statement ≠ statement') → resultStream name policyFingerprint statement ≠ resultStream name' policyFingerprint statement'

/-- Two plans of one engine, each looked up under the models of its time, are of one dialect and query or have different streams. -/
def PlansTold (policyFingerprint : String) (g g' : SqlGenerator) (q q' : Query) : Prop :=
  (g.resolvedDialectName q ≠ g'.resolvedDialectName q' ∨ q ≠ q') →
    planStream (g.resolvedDialectName q) policyFingerprint q ≠ planStream (g'.resolvedDialectName q') policyFingerprint q'

/-- **What the caches' keys tell apart**: queries whose pieces differ, results none of whose names takes over
the beginning of the other's statement, and all plans. -/
theorem cache_keys_tell_iff (policyFingerprint name statement name' statement' : String) (g g' : SqlGenerator) (q q' : Query) :
    (QueriesTold q q' ↔ (q ≠ q' → writtenPieces q ≠ writtenPieces q')) ∧
      (ResultsTold policyFingerprint name statement name' statement' ↔
        ¬TakesOver policyFingerprint name statement name' statement' ∧ ¬TakesOver policyFingerprint name' statement' name statement) ∧
      (q.WellFormed → q'.WellFormed → PlansTold policyFingerprint g g' q q') := by
  refine ⟨?_, ?_, ?_⟩
  · exact imp_congr_right fun _ => not_congr canonicalQueryBytes_eq_iff
  · constructor
    · intro htold
      refine ⟨fun htakes => ?_, fun htakes => ?_⟩
      · exact htold (.inl htakes.names_ne) (resultStream_eq_iff.2 (.inr (.inl htakes)))
      · exact htold (.inl htakes.names_ne.symm) (resultStream_eq_iff.2 (.inr (.inr htakes)))
    · rintro ⟨hno, hno'⟩ hdiffer h
      obtain ⟨rfl, rfl⟩ | htakes | htakes := resultStream_eq_iff.1 h
      · obtain hdiffer | hdiffer := hdiffer
        · exact hdiffer rfl
        · exact hdiffer rfl
      · exact hno htakes
      · exact hno' htakes
  · intro hq hq' hdiffer h
    obtain ⟨d, hd⟩ := SqlEngine.exists_dialect g q
    obtain ⟨d', hd'⟩ := SqlEngine.exists_dialect g' q'
    rw [hd, hd'] at hdiffer h
    obtain ⟨rfl, rfl⟩ := planStream_inj hq hq' h
    obtain hdiffer | hdiffer := hdiffer
    · exact hdiffer rfl
    · exact hdiffer rfl

def amountsBy (name : String) : Query :=
  { name := some "orders", measures := [⟨{ expression := "amount" }, .custom name⟩] }

theorem cache_keys_tell_iff_medians : PlansTold "" (.new .postgres ⟨fun _ => false, fun _ => false⟩)
    (.new .mySql ⟨fun _ => false, fun _ => false⟩) (amountsBy "median") (amountsBy "median") :=
  (cache_keys_tell_iff "" "" "" "" "" (.new .postgres ⟨fun _ => false, fun _ => false⟩)
    (.new .mySql ⟨fun _ => false, fun _ => false⟩) (amountsBy "median") (amountsBy "median")).2.2
    (fun f hf => by cases hf) (fun f hf => by cases hf)

/-- The median and the mode are one query, so are two dimensions and a sum, and so are a result and the
second half of another on a datasource that is named like its first half. -/
theorem cache_keys_are_shared :
    ¬QueriesTold (amountsBy "median") (amountsBy "mode") ∧
      ¬QueriesTold { dimensions := [{ name := "paid" }, { name := "open", label := some "sum" }] }
        { measures := [⟨{ expression := "paid", format := some "open" }, .sum⟩] } ∧
      ¬ResultsTold "" "reports" "SELECT 1 UNION SELECT 2" "reportsSELECT 1 UNION " "SELECT 2" := by
  refine ⟨fun htold => ?_, fun htold => ?_, fun htold => ?_⟩
  · exact htold (by decide) rfl
  · exact htold (by decide) (by rfl)
  · exact htold (.inl (by decide)) (by decide +kernel)

end GraphNight
