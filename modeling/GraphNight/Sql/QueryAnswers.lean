import GraphNight.Sql.StatementReading

/-!
# Statements answer their queries

What a database reads of a generated statement answers what the query asks for, on any rows:
its lines are of the same groups, in the same order, with the same values.
-/

namespace GraphNight

/-- An aggregation of an expression computes that of its cells. -/
theorem AggregationType.eval_ofExpr {κ : Type} [DecidableEq κ] (db : Engine κ) (aggregation : AggregationType) (e : RowExpr)
    (rows : List (ScopeRow κ)) :
    (aggregation.ofExpr e).eval db rows = aggregation.ofCells db (rows.map fun row => e.eval db row) := by
  cases aggregation <;> rfl

namespace SqlGenerator

section

variable {words : Words} {g : SqlGenerator} {query : Query} {m : Model} {sourceAlias : String} {measures : List AskedMeasure}
  {κ : Type} {db : Engine κ}

/-! ## Values -/

theorem fieldCell_of_seen {field : String} (h : Seen words g m sourceAlias field) (row : ScopeRow κ) :
    g.fieldCell db m sourceAlias field row = db.cell row (g.columnExpr m sourceAlias field) := by
  rw [fieldCell, h.column.1]
  rfl

/-- Two times are shown as one bucket exactly if they are in one unit. -/
theorem bucketOf_eq_iff {d : Dialect} {granularity : TimeGranularity} {b : BucketExpr}
    (hb : bucketExpr d granularity = some b) (hkept : ∀ t t', BucketsKept d granularity t t') (c c' : κ) :
    db.bucketOf b c = db.bucketOf b c' ↔
      ((db.timestamp c).map fun t => t.trunc granularity) = (db.timestamp c').map fun t => t.trunc granularity := by
  have heval (t t' : Timestamp) : ∃ v v', b.eval t = some v ∧ b.eval t' = some v' ∧
      (v = v' ↔ t.trunc granularity = t'.trunc granularity) := by
    have hagree := (time_buckets_agree_iff d (SqlText.code "") granularity t t').2 (hkept t t')
    obtain ⟨b', v, v', hb', hv, hv', heq, -⟩ := bucketsAgree_iff.1 hagree
    obtain rfl := Option.some.inj (hb.symm.trans hb')
    exact ⟨v, v', hv, hv', heq.trans (Timestamp.trunc_eq_iff granularity t t').symm⟩
  have hnull (t : Timestamp) : ((some t).bind fun t => b.eval t).elim db.null db.ofBucket ≠ db.null := by
    obtain ⟨v, -, hv, -, -⟩ := heval t t
    rw [Option.bind_some, hv]
    exact db.ofBucket_ne_null v
  unfold Engine.bucketOf
  cases db.timestamp c with
  | none =>
    cases db.timestamp c' with
    | none => exact iff_of_true rfl rfl
    | some t' => exact iff_of_false (fun h => hnull t' h.symm) (by simp)
  | some t =>
    cases db.timestamp c' with
    | none => exact iff_of_false (hnull t) (by simp)
    | some t' =>
      obtain ⟨v, v', hv, hv', heq⟩ := heval t t'
      rw [Option.bind_some, Option.bind_some, hv, hv', Option.map_some, Option.map_some, Option.some.injEq, ← heq]
      exact db.ofBucket_injective.eq_iff

section

variable (ha : Answerable words g m sourceAlias query measures)

include ha

theorem eval_timeExpr {td : TimeDimension} (htd : td ∈ query.timeDimensions) :
    ∃ b, bucketExpr (g.dialectFor m.name) td.granularity = some b ∧ ∀ row : ScopeRow κ,
      (g.timeExpr m sourceAlias td).eval db row = db.bucketOf b (db.cell row ⟨sourceAlias, td.dimension⟩) := by
  obtain ⟨b, hb⟩ := bucketExpr_of_kept (ha.times td htd).2.2
  refine ⟨b, hb, fun row => ?_⟩
  rw [timeExpr, hb]
  rfl

/-- Rows are grouped as the query groups them. -/
theorem groupBy_eq_iff (row row' : ScopeRow κ) :
    ((g.statementExpr m sourceAlias query measures).groupBy.map fun e => e.eval db row) =
        (g.statementExpr m sourceAlias query measures).groupBy.map (fun e => e.eval db row') ↔
      g.groupKey db m sourceAlias query row = g.groupKey db m sourceAlias query row' := by
  have hdims (row : ScopeRow κ) : ((query.dimensions.map fun dim => RowExpr.column (g.columnExpr m sourceAlias dim.name)).map
      fun e => e.eval db row) = query.dimensions.map fun dim => g.fieldCell db m sourceAlias dim.name row := by
    rw [List.map_map]
    exact List.map_congr_left fun dim hdim => (fieldCell_of_seen (ha.dimensions dim hdim) row).symm
  have htimes : (query.timeDimensions.map (g.timeExpr m sourceAlias)).map (fun e => e.eval db row) =
        (query.timeDimensions.map (g.timeExpr m sourceAlias)).map (fun e => e.eval db row') ↔
      (query.timeDimensions.map fun td => (timeOf db sourceAlias td row).map fun t => t.trunc td.granularity) =
        query.timeDimensions.map fun td => (timeOf db sourceAlias td row').map fun t => t.trunc td.granularity := by
    rw [List.map_map, List.map_map, List.map_inj_left, List.map_inj_left]
    refine forall₂_congr fun td htd => ?_
    obtain ⟨b, hb, heval⟩ := eval_timeExpr ha htd
    show (g.timeExpr m sourceAlias td).eval db row = (g.timeExpr m sourceAlias td).eval db row' ↔ _
    rw [heval row, heval row']
    exact bucketOf_eq_iff hb (ha.times td htd).2.2 _ _
  show ((query.dimensions.map _ ++ query.timeDimensions.map _).map _ = (query.dimensions.map _ ++ query.timeDimensions.map _).map _) ↔ _
  rw [List.map_append, List.map_append, hdims row, hdims row', groupKey, groupKey, Prod.mk.injEq, ← htimes]
  refine ⟨fun h => List.append_inj h (by rw [List.length_map, List.length_map]), fun h => ?_⟩
  rw [h.1, h.2]

theorem eval_filterExpr {f : Filter} (hf : f ∈ query.filters) (row : ScopeRow κ) :
    (g.filterExpr m sourceAlias f).eval db.toCells (db.cell row) =
      f.meaning db.toCells (g.fieldCell db m sourceAlias f.field row) := by
  rw [fieldCell_of_seen (ha.filters f hf).2]
  exact eval_read (read_filter ha hf).1 db.toCells (db.cell row)

end

variable [DecidableEq κ]

theorem eval_termExpr {term : String × AggregationType} (h : SeenTerm words g m sourceAlias term) (rows : List (ScopeRow κ)) :
    (g.termExpr m sourceAlias term).eval db rows = g.aggregated db m sourceAlias term rows := by
  obtain ⟨-, hfield⟩ := h
  unfold termExpr aggregated
  by_cases hstar : term.1 = "*"
  · rw [if_pos hstar, if_pos hstar]
    rfl
  · rw [if_neg hstar] at hfield
    rw [if_neg hstar, if_neg hstar, AggregationType.eval_ofExpr]
    exact congrArg _ (List.map_congr_left fun row _ => (fieldCell_of_seen hfield row).symm)

/-- What a measure is read as computes what it asks for. -/
theorem eval_measureExpr {asked : AskedMeasure} (h : SeenMeasure words g m sourceAlias asked) (rows : List (ScopeRow κ)) :
    (g.measureExpr m sourceAlias asked).eval db rows = g.measureValue db m sourceAlias rows asked := by
  cases asked with
  | ofField field aggregation => exact eval_termExpr h rows
  | ofCall call aggregation =>
    refine (AggregationType.eval_ofExpr db aggregation _ rows).trans (congrArg _ (List.map_congr_left fun row _ => ?_))
    show db.call call.name ((call.args.map (g.argExpr m sourceAlias)).map (Sum.map (db.cell row) id)) = _
    rw [List.map_map]
    refine congrArg _ (List.map_congr_left fun arg harg => ?_)
    cases arg with
    | number n => rfl
    | column column => exact congrArg Sum.inl (fieldCell_of_seen (h.2 column harg) row).symm
  | ratio num denom =>
    show db.divide ((g.termExpr m sourceAlias num).eval db rows)
      (db.nullIfZero ((g.termExpr m sourceAlias denom).eval db rows)) = _
    rw [eval_termExpr h.1, eval_termExpr h.2]
    rfl

section

variable (ha : Answerable words g m sourceAlias query measures)

include ha

/-- The condition keeps the rows the filters keep. -/
theorem passes_eq (row : ScopeRow κ) :
    ((g.statementExpr m sourceAlias query measures).toSelect db).passes row = g.keepsRow db m sourceAlias query.filters row := by
  show ((g.conditionExpr m sourceAlias query.filters).elim true fun c =>
    c.eval (fun p => p.eval db.toCells (db.cell row)) == .yes) = _
  cases hfilters : query.filters with
  | nil => rfl
  | cons f fs =>
    show (((flatFilters f fs).map (g.filterExpr m sourceAlias)).eval _ == Truth.yes) = _
    rw [FlatCondition.eval_map]
    refine congrArg (· == Truth.yes) (FlatCondition.eval_congr fun f' hf' => ?_)
    have hmem : f' ∈ query.filters := by
      rw [hfilters]
      simpa [flatFilters] using hf'
    exact eval_filterExpr ha hmem row

/-- The line of a group holds what the query asks of it. -/
theorem line_eq (group : List (ScopeRow κ)) :
    ((g.statementExpr m sourceAlias query measures).toSelect db).line group =
      (g.meaning db m sourceAlias query measures).line group := by
  show ((measures.map _ ++ query.dimensions.map _ ++ query.timeDimensions.map _).map fun o => Output.eval db group o) =
    measures.map _ ++ query.dimensions.map _ ++ query.timeDimensions.map _
  rw [List.map_append, List.map_append, List.map_map, List.map_map, List.map_map]
  refine congrArg₂ (· ++ ·) (congrArg₂ (· ++ ·) ?_ ?_) ?_
  · exact List.map_congr_left fun asked hmem => eval_measureExpr (ha.measures asked hmem) group
  · refine List.map_congr_left fun dim hdim => congrArg (db.shared · group) (funext fun row => ?_)
    rw [dimensionValue, fieldCell_of_seen (ha.dimensions dim hdim), dimensionExpr]
    split_ifs <;> rfl
  · refine List.map_congr_left fun td htd => congrArg (db.shared · group) (funext fun row => ?_)
    obtain ⟨b, hb, heval⟩ := eval_timeExpr ha htd
    rw [heval row, timeValue, hb]
    rfl

theorem before_eq : ((g.statementExpr m sourceAlias query measures).toSelect db).before =
    (g.meaning db m sourceAlias query measures).before := by
  show Grouped.lexicographic ((query.order.map _).map _) = Grouped.lexicographic (query.order.map _)
  rw [List.map_map]
  refine congrArg Grouped.lexicographic (List.map_congr_left fun order horder => ?_)
  obtain ⟨dim, hdim, -, hfield, -⟩ := ha.orders order horder
  have hseen : Seen words g m sourceAlias order.field := by
    obtain ⟨c, hc, hsees⟩ := ha.dimensions dim hdim
    exact ⟨c, hfield.trans hc, hsees⟩
  exact congrArg (db.sorts · order.descending) (funext fun row => (fieldCell_of_seen hseen row).symm)

/-- What is read agrees with what is asked for, but for DISTINCT. -/
theorem agree (rows : List (ScopeRow κ)) :
    Grouped.Select.Agree { (g.statementExpr m sourceAlias query measures).toSelect db with distinct := false }
      (g.meaning db m sourceAlias query measures) rows := by
  have hempty : (g.statementExpr m sourceAlias query measures).groupBy = [] ↔
      query.dimensions = [] ∧ query.timeDimensions = [] := by
    simp [statementExpr]
  refine ⟨fun row _ => passes_eq ha row, ?_, fun key key' hkey hkey' row _ row' _ => ?_, fun group _ => line_eq ha group,
    fun group other _ _ => congrFun (congrFun (before_eq ha) group) other, rfl, rfl, rfl⟩
  · show (if (g.statementExpr m sourceAlias query measures).groupBy = [] then none else some _) = none ↔
      (if query.dimensions = [] ∧ query.timeDimensions = [] then none else some _) = none
    rw [if_congr hempty rfl rfl]
    split_ifs <;> simp
  · obtain ⟨-, hkey⟩ := Option.ite_none_left_eq_some.1 hkey
    obtain ⟨-, hkey'⟩ := Option.ite_none_left_eq_some.1 hkey'
    obtain rfl := Option.some.inj hkey
    obtain rfl := Option.some.inj hkey'
    exact groupBy_eq_iff ha row row'

omit ha in
/-- A line that shows all it is grouped by says which group it is of. -/
theorem tellsGroups (hgeo : ∀ dim ∈ query.dimensions, g.fieldIsGeometry m.name dim.name = false) (rows : List (ScopeRow κ)) :
    ((g.statementExpr m sourceAlias query measures).toSelect db).TellsGroups rows := by
  intro key hkey group other _ _ hline row hrow row' hrow' hgroup hother
  obtain ⟨-, hkey⟩ := Option.ite_none_left_eq_some.1 hkey
  obtain rfl := Option.some.inj hkey
  have hshown : ∀ e ∈ (g.statementExpr m sourceAlias query measures).groupBy,
      Output.ofRow e ∈ (g.statementExpr m sourceAlias query measures).outputs := by
    intro e he
    rcases List.mem_append.1 he with he | he
    · obtain ⟨dim, hdim, rfl⟩ := List.mem_map.1 he
      refine List.mem_append_left _ (List.mem_append_right _ (List.mem_map.2 ⟨dim, hdim, ?_⟩))
      rw [dimensionExpr, hgeo dim hdim, if_neg Bool.false_ne_true]
    · obtain ⟨td, htd, rfl⟩ := List.mem_map.1 he
      exact List.mem_append_right _ (List.mem_map.2 ⟨td, htd, rfl⟩)
  have hvalues : ∀ e ∈ (g.statementExpr m sourceAlias query measures).groupBy,
      db.shared (fun row => e.eval db row) group = db.shared (fun row => e.eval db row) other := fun e he =>
    List.map_inj_left.1 hline _ (hshown e he)
  -- the first row of a group stands for all of it
  obtain ⟨first, rest, rfl⟩ := List.exists_cons_of_ne_nil (List.ne_nil_of_mem hrow)
  obtain ⟨first', rest', rfl⟩ := List.exists_cons_of_ne_nil (List.ne_nil_of_mem hrow')
  rw [← hgroup first List.mem_cons_self, ← hother first' List.mem_cons_self]
  exact List.map_congr_left hvalues

end

end

namespace PaidOrders

def orders : Model where
  name := "orders"
  datasource := "warehouse"
  dimensions := [⟨"status", none⟩, ⟨"country", none⟩]
  timeDimensions := [⟨"created_at", .day, none⟩]

def generator : SqlGenerator := (new .postgres ⟨fun _ => false, fun _ => false⟩).registerModel orders

/-- How many orders, and the sum of their amounts by item. -/
def byMonth : Query where
  name := some "orders"
  measures := [Measure.simple "*" .count, Measure.simple "ratio(amount:sum, items:sum)" .sum]
  dimensions := [⟨"country", none⟩]
  timeDimensions := [⟨"created_at", .month, none⟩]
  filters := [⟨"status", .eq, .string "paid", false⟩]
  order := [⟨"country", true⟩]
  limit := some 10

/-- A function and an aggregate of Postgres. -/
def words : Words where
  unquoted := NamedJoin.unquoted
  ofRow fn args := fn == "lower" && args == 1
  ofRows fn := fn == "stddev"

def measures : List AskedMeasure := [.ofField "*" .count, .ratio ("amount", .sum) ("items", .sum)]

end PaidOrders

end SqlGenerator

end GraphNight
