import GraphNight.Core.Security
import GraphNight.Lib.Condition
import GraphNight.Sql.Generator

/-!
# What a WHERE clause means

The clause is a flat text. Here it is read back the way SQL reads it (an AND or OR
piece joins two comparisons, except the AND that belongs to a BETWEEN; AND binds
tighter than OR) and each comparison is given a truth value. The reading of a
built clause is the query's filters with the connectives their `orCondition`
flags ask for, so what a clause entails depends on its AND-runs (`andRuns`).
-/

namespace GraphNight

open SqlText

/-! ## Reading a condition -/

/-- The connective a piece writes. -/
def connectiveOf : Frag → Option Connective
  | .code " AND " => some .and
  | .code " OR " => some .or
  | _ => none

/-- The piece opens a BETWEEN, which takes the next AND. -/
def opensBetween : Frag → Bool
  | .code text => " BETWEEN ".toList.isSuffixOf text.toList
  | _ => false

/-- Read on in a comparison of which `cur` has been read. -/
def readFrom : Bool → SqlText → SqlText → FlatCondition SqlText
  | _, cur, [] => ⟨cur, []⟩
  | between, cur, f :: rest =>
    match connectiveOf f, between with
    | some k, false =>
      let next := readFrom false [] rest
      ⟨cur, (k, next.first) :: next.rest⟩
    | some _, true => readFrom false (cur ++ [f]) rest
    | none, _ => readFrom (between || opensBetween f) (cur ++ [f]) rest

/-- The comparisons of a condition and the connectives between them. -/
def readCondition (t : SqlText) : FlatCondition SqlText := readFrom false [] t

/-- Put the bound values in the place of their placeholders. -/
def bindFrag (params : List Value) : Frag → Frag
  | .param index => ((params[index - 1]?).map Frag.value).getD (.param index)
  | f => f

def bindParams (params : List Value) (t : SqlText) : SqlText := t.map (bindFrag params)

/-- A row passes a WHERE clause when its condition is true of it. -/
def Passes (ρ : SqlText → Truth) (params : List Value) : Option SqlText → Prop
  | none => True
  | some t => (readCondition (bindParams params t)).eval ρ = .yes

/-- A text that is read as part of one comparison. -/
def Atomic (t : SqlText) : Prop :=
  ∀ cur rest, readFrom false cur (t ++ rest) = readFrom false (cur ++ t) rest

/-- A piece that neither joins comparisons nor opens a BETWEEN. -/
def Plain (f : Frag) : Prop := connectiveOf f = none ∧ opensBetween f = false

instance (f : Frag) : Decidable (Plain f) := inferInstanceAs (Decidable (_ ∧ _))

theorem atomic_of_plain {t : SqlText} (h : ∀ f ∈ t, Plain f) : Atomic t := by
  induction t with
  | nil => intro cur rest; simp
  | cons f t ih =>
    intro cur rest
    obtain ⟨hk, hb⟩ := h f (by simp)
    simp only [List.cons_append, readFrom, hk, hb, Bool.or_false]
    rw [ih (fun f hf => h f (List.mem_cons_of_mem _ hf))]
    simp

theorem Atomic.append {t u : SqlText} (ht : Atomic t) (hu : Atomic u) : Atomic (t ++ u) := by
  intro cur rest
  rw [List.append_assoc, ht, hu, List.append_assoc]

/-- A BETWEEN keeps its AND to itself. -/
theorem atomic_between {open' : Frag} (hk : connectiveOf open' = none) (hb : opensBetween open' = true)
    (low high : Value) : Atomic ([open', .value low] ++ code " AND " ++ [.value high]) := by
  intro cur rest
  have hand : connectiveOf (.code " AND ") = some .and := rfl
  have hvalue : ∀ v, connectiveOf (.value v) = none := fun _ => rfl
  have hclosed : ∀ v, opensBetween (.value v) = false := fun _ => rfl
  simp only [code, List.cons_append, List.nil_append, readFrom, hk, hb, hand, hvalue, hclosed,
    Bool.or_true, Bool.or_false, List.append_assoc]

/-! ## The text of one comparison -/

/-- The values a filter compares with. -/
def Filter.operands (f : Filter) : List Value :=
  if f.operator = .in ∨ f.operator = .notIn then f.value.asArray.getD []
  else if f.operator.needsTwoValues then (f.value.asArray.getD []).take 2
  else if f.operator.needsValue then [f.value]
  else []

/-- The text of a comparison of `column` with rendered operands. -/
def comparison (d : Dialect) (column : SqlText) (f : Filter) (items : List SqlText) : SqlText :=
  match f.operator.spatialFunction with
  | some function =>
    code (function ++ "(") ++ column ++ code ", " ++
      ((d.spatialGeometry (items.getD 0 []) f.value.asStr.isSome).getD []) ++ code ")"
  | none =>
    let op := f.operator.sqlOperator.getD ""
    if f.operator = .in ∨ f.operator = .notIn then
      column ++ code (" " ++ op ++ " (") ++ join ", " items ++ code ")"
    else if f.operator.needsTwoValues then
      column ++ code (" " ++ op ++ " BETWEEN ") ++ items.getD 0 [] ++ code " AND " ++ items.getD 1 []
    else if f.operator.needsValue then column ++ code (" " ++ op ++ " ") ++ items.getD 0 []
    else column ++ code (" " ++ op)

/-- The inputs a comparison can be built from. -/
structure Buildable (d : Dialect) (f : Filter) : Prop where
  range : f.operator.needsTwoValues = true → f.operands.length = 2
  spatial : f.operator.spatialFunction ≠ none →
    ∀ t, (d.spatialGeometry t f.value.asStr.isSome).isSome = true

theorem renderValues_cons (mode : ValueMode) (params : List Value) (v : Value) (vs : List Value) :
    renderValues mode params (v :: vs) =
      ((renderValues mode (renderValue mode params v).1 vs).1,
        (renderValue mode params v).2 :: (renderValues mode (renderValue mode params v).1 vs).2) := rfl

theorem firstTwo_eq_ok {vs : List Value} {p : Value × Value} :
    firstTwo vs = .ok p ↔ vs.take 2 = [p.1, p.2] := by
  obtain ⟨v, w⟩ := p
  rcases vs with _ | ⟨v₀, _ | ⟨v₁, vs⟩⟩ <;> simp [firstTwo]

/-- Whether a dialect has spatial support does not depend on the value. -/
theorem spatialGeometry_isSome {d : Dialect} {t : SqlText} {wkt : Bool}
    (h : (d.spatialGeometry t wkt).isSome = true) (u : SqlText) :
    (d.spatialGeometry u wkt).isSome = true := by
  cases d <;> simp [Dialect.spatialGeometry] at h ⊢

/-- A spatial operator takes one value. -/
theorem spatial_operator {op : FilterOperator} (h : op.spatialFunction ≠ none) :
    ¬(op = .in ∨ op = .notIn) ∧ op.needsTwoValues = false ∧ op.needsValue = true := by
  cases op <;> first | decide | exact absurd rfl h

theorem operands_spatial {f : Filter} (h : f.operator.spatialFunction ≠ none) :
    f.operands = [f.value] := by
  obtain ⟨hin, htwo, hone⟩ := spatial_operator h
  rw [Filter.operands, if_neg hin, if_neg (by simp [htwo]), if_pos hone]

/-- **The condition of one filter** is its comparison with its operands, rendered
one after the other. -/
theorem buildCondition_eq_ok {d : Dialect} {mode : ValueMode} {column : SqlText} {params params' : List Value}
    {f : Filter} {t : SqlText} (h : buildCondition d mode column params f = .ok (params', t)) :
    Buildable d f ∧ params' = (renderValues mode params f.operands).1 ∧
      t = comparison d column f (renderValues mode params f.operands).2 := by
  unfold buildCondition at h
  cases hs : f.operator.spatialFunction with
  | some function =>
    have hne : f.operator.spatialFunction ≠ none := by simp [hs]
    simp only [hs, Res.bind_eq_ok, Res.ofOption_eq_ok, pure, Except.pure, Except.ok.injEq,
      Prod.mk.injEq] at h
    obtain ⟨wkt, hwkt, geometry, hgeo, rfl, rfl⟩ := h
    obtain rfl : wkt = f.value.asStr.isSome := by
      cases hv : f.value <;> simp_all [geometryFromWkt, Value.asStr, Res.fail]
    have htwo := (spatial_operator hne).2.1
    refine ⟨⟨fun h2 => absurd h2 (by simp [htwo]), fun _ => spatialGeometry_isSome (by rw [hgeo]; rfl)⟩, ?_, ?_⟩
    · rw [operands_spatial hne]
      rfl
    · rw [operands_spatial hne, renderValues_cons, comparison, hs]
      simp [hgeo]
  | none =>
    have hspatial : f.operator.spatialFunction ≠ none →
        ∀ t, (d.spatialGeometry t f.value.asStr.isSome).isSome = true := fun hne => absurd hs hne
    simp only [hs, Res.bind_eq_ok, Res.ofOption_eq_ok] at h
    obtain ⟨op, hop, h⟩ := h
    have hvalue : f.operator.needsTwoValues = true → f.operator.needsValue = true := by
      cases f.operator <;> decide
    unfold comparison
    simp only [hs, hop, Option.getD_some]
    by_cases hin : f.operator = .in ∨ f.operator = .notIn
    · have htwo : f.operator.needsTwoValues = false := by rcases hin with h | h <;> rw [h] <;> rfl
      simp only [if_pos hin, Res.bind_eq_ok, Res.ofOption_eq_ok, pure, Except.pure, Except.ok.injEq,
        Prod.mk.injEq] at h ⊢
      obtain ⟨arr, harr, rfl, rfl⟩ := h
      have hoperands : f.operands = arr := by rw [Filter.operands, if_pos hin, harr, Option.getD_some]
      exact ⟨⟨fun h2 => by simp [htwo] at h2, hspatial⟩, by rw [hoperands], by rw [hoperands]⟩
    · rw [if_neg hin] at h
      simp only [if_neg hin]
      by_cases htwo : f.operator.needsTwoValues = true
      · simp only [htwo, hvalue htwo, Bool.and_self, if_true, Res.bind_eq_ok, Res.ofOption_eq_ok, firstTwo_eq_ok,
          pure, Except.pure, Except.ok.injEq, Prod.mk.injEq] at h ⊢
        obtain ⟨vals, hvals, ⟨v, w⟩, htake, rfl, rfl⟩ := h
        have hoperands : f.operands = [v, w] := by
          rw [Filter.operands, if_neg hin, if_pos htwo, hvals, Option.getD_some, htake]
        refine ⟨⟨fun _ => by rw [hoperands]; rfl, hspatial⟩, by rw [hoperands]; rfl, ?_⟩
        rw [hoperands, renderValues_cons, renderValues_cons]
        rfl
      · simp only [htwo, Bool.and_false, Bool.false_eq_true, if_false] at h ⊢
        by_cases hone : f.operator.needsValue = true
        · simp only [hone, if_true, pure, Except.pure, Except.ok.injEq, Prod.mk.injEq] at h ⊢
          obtain ⟨rfl, rfl⟩ := h
          have hoperands : f.operands = [f.value] := by
            rw [Filter.operands, if_neg hin, if_neg htwo, if_pos hone]
          refine ⟨⟨fun h2 => absurd h2 htwo, hspatial⟩, by rw [hoperands]; rfl, ?_⟩
          rw [hoperands, renderValues_cons]
          rfl
        · simp only [hone, Bool.false_eq_true, if_false, pure, Except.pure, Except.ok.injEq, Prod.mk.injEq] at h ⊢
          obtain ⟨rfl, rfl⟩ := h
          have hoperands : f.operands = [] := by
            rw [Filter.operands, if_neg hin, if_neg htwo, if_neg hone]
          exact ⟨⟨fun h2 => absurd h2 htwo, hspatial⟩, by rw [hoperands]; rfl, rfl⟩

/-! ## Binding the values -/

@[simp] theorem bindParams_nil (params : List Value) : bindParams params [] = [] := rfl

@[simp] theorem bindParams_append (params : List Value) (t u : SqlText) :
    bindParams params (t ++ u) = bindParams params t ++ bindParams params u := List.map_append

@[simp] theorem bindParams_code (params : List Value) (text : String) :
    bindParams params (code text) = code text := rfl

theorem bindParams_join (params : List Value) (sep : String) (ts : List SqlText) :
    bindParams params (join sep ts) = join sep (ts.map (bindParams params)) := by
  induction ts using join.induct with
  | case1 => rfl
  | case2 t => rfl
  | case3 t u rest ih => simp [join, ih]

/-- An operand with its value in place. -/
def operandText (v : Value) : SqlText := [.value v]

theorem prefix_renderValues (mode : ValueMode) (params vs : List Value) :
    params <+: (renderValues mode params vs).1 := by
  induction vs generalizing params with
  | nil => exact List.prefix_rfl
  | cons v vs ih =>
    rw [renderValues_cons]
    refine List.IsPrefix.trans ?_ (ih _)
    cases mode
    · exact List.prefix_append _ _
    · exact List.prefix_rfl

/-- Rendered operands are the values, once the parameters collected are bound. -/
theorem bindParams_renderValues {mode : ValueMode} {params vs final : List Value}
    (h : (renderValues mode params vs).1 <+: final) :
    (renderValues mode params vs).2.map (bindParams final) = vs.map operandText := by
  induction vs generalizing params with
  | nil => rfl
  | cons v vs ih =>
    rw [renderValues_cons] at h ⊢
    rw [List.map_cons, ih h, List.map_cons]
    congr 1
    cases mode with
    | literal => rfl
    | placeholder =>
      have hp := (prefix_renderValues .placeholder _ _).trans h
      have hv : final[params.length]? = some v := by
        obtain ⟨tail, rfl⟩ := hp
        simp [renderValue]
      simp [renderValue, bindParams, bindFrag, operandText, hv]

/-- The shapes a qualified field has. -/
inductive ColumnText : SqlText → Prop where
  | star : ColumnText (code "*")
  | column (aliasName column : String) : ColumnText (qualified aliasName column)

theorem columnText_qualifyField (g : SqlGenerator) (baseModelName field sourceAlias : String) :
    ColumnText (g.qualifyField baseModelName field sourceAlias) := by
  unfold SqlGenerator.qualifyField
  split
  · exact .star
  · repeat' split
    all_goals exact .column _ _

theorem ColumnText.bindParams {t : SqlText} (h : ColumnText t) (params : List Value) :
    bindParams params t = t := by
  cases h <;> rfl

theorem bindParams_spatialGeometry (d : Dialect) (params : List Value) (t : SqlText) (wkt : Bool) :
    bindParams params ((d.spatialGeometry t wkt).getD []) =
      (d.spatialGeometry (bindParams params t) wkt).getD [] := by
  cases d <;> simp [Dialect.spatialGeometry, ogcGeometryCtor]

theorem bindParams_getD (params : List Value) (items : List SqlText) (i : Nat) :
    bindParams params (items.getD i []) = (items.map (bindParams params)).getD i [] := by
  simp only [List.getD_eq_getElem?_getD, List.getElem?_map]
  cases items[i]? <;> rfl

theorem bindParams_comparison {d : Dialect} {column : SqlText} (hcol : ColumnText column) (f : Filter)
    (params : List Value) (items : List SqlText) :
    bindParams params (comparison d column f items) =
      comparison d column f (items.map (bindParams params)) := by
  unfold comparison
  split
  · simp only [bindParams_append, bindParams_code, hcol.bindParams, ← bindParams_getD,
      ← bindParams_spatialGeometry]
  · dsimp only
    split_ifs <;>
      simp only [bindParams_append, bindParams_code, hcol.bindParams, bindParams_join, bindParams_getD]

/-! ## Comparisons are atomic -/

/-- The comparison of a filter with its values in place. -/
def predicate (d : Dialect) (column : SqlText) (f : Filter) : SqlText :=
  comparison d column f (f.operands.map operandText)

theorem plain_value (v : Value) : Plain (.value v) := ⟨rfl, rfl⟩

theorem ColumnText.plain {t : SqlText} (h : ColumnText t) : ∀ f ∈ t, Plain f := by
  have hstar : Plain (.code "*") := by decide
  have hdot : Plain (.code ".") := by decide
  cases h with
  | star => simpa [code] using hstar
  | column aliasName column => simpa [qualified, code, raw, ident, hdot] using ⟨⟨rfl, rfl⟩, rfl, rfl⟩

theorem plain_join {ts : List SqlText} (h : ∀ t ∈ ts, ∀ f ∈ t, Plain f) : ∀ f ∈ join ", " ts, Plain f := by
  have hcomma : Plain (.code ", ") := by decide
  induction ts using join.induct with
  | case1 => intro f hf; cases hf
  | case2 t => exact h t (by simp)
  | case3 t u rest ih =>
    intro f hf
    simp only [join, code, List.mem_append, List.mem_singleton] at hf
    rcases hf with (hf | rfl) | hf
    · exact h t (by simp) f hf
    · exact hcomma
    · exact ih (fun t ht => h t (List.mem_cons_of_mem _ ht)) f hf

theorem plain_spatialGeometry (d : Dialect) (v : Value) (wkt : Bool) :
    ∀ f ∈ (d.spatialGeometry (operandText v) wkt).getD [], Plain f := by
  have hctor : ∀ f ∈ ogcGeometryCtor (operandText v) wkt, Plain f := by
    cases wkt <;>
      simp only [ogcGeometryCtor, code, operandText, List.cons_append, List.nil_append, List.forall_mem_cons] <;>
      exact ⟨by decide, plain_value v, by decide, by simp⟩
  cases d <;> first | exact hctor | simp [Dialect.spatialGeometry]

theorem plain_operator {op : FilterOperator} (h : op.needsTwoValues = false) :
    Plain (.code (" " ++ op.sqlOperator.getD "")) ∧ Plain (.code (" " ++ op.sqlOperator.getD "" ++ " ")) ∧
      Plain (.code (" " ++ op.sqlOperator.getD "" ++ " (")) := by
  cases op <;> first | decide | cases h

theorem plain_spatialFunction {op : FilterOperator} {function : String}
    (h : op.spatialFunction = some function) : Plain (.code (function ++ "(")) := by
  cases op <;> cases h <;> decide

theorem opens_range (op : FilterOperator) :
    connectiveOf (.code (" " ++ op.sqlOperator.getD "" ++ " BETWEEN ")) = none ∧
      opensBetween (.code (" " ++ op.sqlOperator.getD "" ++ " BETWEEN ")) = true := by
  cases op <;> decide

theorem atomic_code {text : String} (h : Plain (.code text)) : Atomic (code text) :=
  atomic_of_plain (by simpa [code] using h)

/-- **A comparison is read whole.** -/
theorem atomic_predicate {d : Dialect} {column : SqlText} (hcol : ColumnText column) {f : Filter}
    (hf : Buildable d f) : Atomic (predicate d column f) := by
  have hcolumn := atomic_of_plain hcol.plain
  have hclose : Atomic (code ")") := atomic_code (by decide)
  unfold predicate comparison
  split
  · rename_i function hs
    rw [operands_spatial (by simp [hs])]
    exact (((atomic_code (plain_spatialFunction hs)).append hcolumn).append
      (atomic_code (by decide))).append (atomic_of_plain (plain_spatialGeometry d f.value _)) |>.append hclose
  · dsimp only
    split_ifs with hin htwo hone
    · have hno : f.operator.needsTwoValues = false := by rcases hin with h | h <;> rw [h] <;> rfl
      refine ((hcolumn.append (atomic_code (plain_operator hno).2.2)).append (atomic_of_plain
        (plain_join fun t ht => ?_))).append hclose
      obtain ⟨v, -, rfl⟩ := List.mem_map.1 ht
      simpa [operandText] using plain_value v
    · obtain ⟨low, high, hlow⟩ := List.length_eq_two.1 (hf.range htwo)
      obtain ⟨hk, hb⟩ := opens_range f.operator
      rw [hlow]
      simpa [code, operandText] using hcolumn.append (atomic_between hk hb low high)
    · have hno : f.operator.needsTwoValues = false := by simpa using htwo
      have hvalue : f.operands = [f.value] := by
        rw [Filter.operands, if_neg hin, if_neg htwo, if_pos hone]
      rw [hvalue]
      exact (hcolumn.append (atomic_code (plain_operator hno).2.1)).append
        (atomic_of_plain (by simpa [operandText] using plain_value f.value))
    · exact hcolumn.append (atomic_code (plain_operator (by simpa using htwo)).1)

/-! ## When two comparisons are the same -/

/-- The values in a text, in order. -/
def textValues (t : SqlText) : List Value :=
  t.filterMap fun | .value v => some v | _ => none

@[simp] theorem textValues_append (t u : SqlText) : textValues (t ++ u) = textValues t ++ textValues u :=
  List.filterMap_append

@[simp] theorem textValues_code (text : String) : textValues (code text) = [] := rfl

@[simp] theorem textValues_operandText (v : Value) : textValues (operandText v) = [v] := rfl

theorem ColumnText.textValues {t : SqlText} (h : ColumnText t) : textValues t = [] := by cases h <;> rfl

theorem textValues_join (ts : List SqlText) (sep : String) :
    textValues (join sep ts) = ts.flatMap textValues := by
  induction ts using join.induct with
  | case1 => rfl
  | case2 t => simp [join]
  | case3 t u rest ih => simp [join, ih]

/-- The piece a comparison writes its operator in. -/
def opener (op : FilterOperator) : String :=
  match op.spatialFunction with
  | some function => function ++ "("
  | none =>
    " " ++ op.sqlOperator.getD "" ++
      if op = .in ∨ op = .notIn then " (" else if op.needsTwoValues then " BETWEEN "
      else if op.needsValue then " " else ""

theorem opener_injective {op op' : FilterOperator} (h : opener op = opener op') : op = op' := by
  revert h
  cases op <;> cases op' <;> first | exact fun _ => rfl | decide

/-- A comparison holds its operands and no other value. -/
theorem textValues_predicate {d : Dialect} {column : SqlText} (hcol : ColumnText column) {f : Filter}
    (hf : Buildable d f) : textValues (predicate d column f) = f.operands := by
  unfold predicate comparison
  split
  · rename_i function hs
    have hgeo := hf.spatial (by simp [hs]) (operandText f.value)
    rw [operands_spatial (by simp [hs])]
    cases d <;> simp [Dialect.spatialGeometry, ogcGeometryCtor, hcol.textValues] at hgeo ⊢
  · dsimp only
    split_ifs with hin htwo hone
    · simp [hcol.textValues, textValues_join, List.flatMap_map]
    · obtain ⟨low, high, hlow⟩ := List.length_eq_two.1 (hf.range htwo)
      simp [hlow, hcol.textValues]
    · have hvalue : f.operands = [f.value] := by
        rw [Filter.operands, if_neg hin, if_neg htwo, if_pos hone]
      simp [hvalue, hcol.textValues]
    · rw [Filter.operands, if_neg hin, if_neg htwo, if_neg hone]
      simp [hcol.textValues]

/-- Where the column and the operator of a comparison stand. -/
theorem predicate_shape (d : Dialect) (column : SqlText) (f : Filter) :
    ∃ rest, predicate d column f =
      if f.operator.spatialFunction.isSome then code (opener f.operator) ++ (column ++ rest)
      else column ++ (code (opener f.operator) ++ rest) := by
  unfold predicate comparison opener
  split
  · rename_i function hs
    simp only [hs, Option.isSome_some, if_true, List.append_assoc]
    exact ⟨_, rfl⟩
  · rename_i hs
    simp only [hs, Option.isSome_none, Bool.false_eq_true, if_false]
    split_ifs <;> simp only [List.append_assoc, String.append_empty, List.append_cancel_left_eq]
    · exact ⟨_, rfl⟩
    · exact ⟨_, rfl⟩
    · exact ⟨_, rfl⟩
    · exact ⟨[], by simp⟩

theorem ColumnText.append_inj {t u r r' : SqlText} (ht : ColumnText t) (hu : ColumnText u)
    (h : t ++ r = u ++ r') : t = u ∧ r = r' := by
  cases ht <;> cases hu <;> simp_all [qualified, code, raw, ident]

/-- A comparison does not start with its column and with its operator. -/
theorem ColumnText.ne_opener {t : SqlText} (ht : ColumnText t) (op : FilterOperator) (r r' : SqlText) :
    t ++ r ≠ code (opener op) ++ r' := by
  have hstar : "*" ≠ opener op := by cases op <;> decide
  cases ht <;> simp [qualified, code, raw, hstar]

/-- **Equal comparisons**: two filters write the same comparison exactly when they
compare the same column by the same operator with the same operands. -/
theorem predicate_inj {d : Dialect} {column column' : SqlText} (hcol : ColumnText column)
    (hcol' : ColumnText column') {f f' : Filter} (hf : Buildable d f) (hf' : Buildable d f') :
    predicate d column f = predicate d column' f' ↔
      column = column' ∧ f.operator = f'.operator ∧ f.operands = f'.operands := by
  constructor
  · intro h
    have hoperands : f.operands = f'.operands := by
      rw [← textValues_predicate hcol hf, h, textValues_predicate hcol' hf']
    obtain ⟨r, hr⟩ := predicate_shape d column f
    obtain ⟨r', hr'⟩ := predicate_shape d column' f'
    have hshape := hr.symm.trans (h.trans hr')
    split_ifs at hshape with hs hs' hs'
    · obtain ⟨ho, hrest⟩ := List.cons.inj hshape
      exact ⟨(hcol.append_inj hcol' hrest).1, opener_injective (by simpa using ho), hoperands⟩
    · exact absurd hshape.symm (hcol'.ne_opener _ _ _)
    · exact absurd hshape (hcol.ne_opener _ _ _)
    · obtain ⟨hcolumn, hrest⟩ := hcol.append_inj hcol' hshape
      exact ⟨hcolumn, opener_injective (by simpa using (List.cons.inj hrest).1), hoperands⟩
  · rintro ⟨rfl, hop, hoperands⟩
    unfold predicate comparison
    rw [hop, hoperands]
    cases hs : f'.operator.spatialFunction with
    | none => rfl
    | some function =>
      have hv := operands_spatial (f := f) (by simp [hop, hs])
      rw [hoperands, operands_spatial (by simp [hs])] at hv
      simp_all

/-! ## The clause -/

/-- What joins a filter to the ones before it. -/
def Filter.connective (f : Filter) : Connective := if f.orCondition then .or else .and

/-- The filters of a query as one condition. -/
def flatFilters (f : Filter) (fs : List Filter) : FlatCondition Filter :=
  ⟨f, fs.map fun f => (f.connective, f)⟩

/-- The maximal runs of filters joined by AND. -/
def andRuns : List Filter → List (List Filter)
  | [] => []
  | f :: fs => (flatFilters f fs).groups

section Clause

variable {g : SqlGenerator} {d : Dialect} {sourceAlias baseModelName : String} {mode : ValueMode}

/-- The comparison a filter stands for in a statement. -/
def SqlGenerator.filterPredicate (g : SqlGenerator) (d : Dialect) (sourceAlias baseModelName : String)
    (f : Filter) : SqlText :=
  predicate d (g.qualifyField baseModelName f.field sourceAlias) f

/-- One filter, its parameters bound: its comparison, which is read whole. -/
theorem bind_buildCondition {params params' final : List Value} {f : Filter} {t : SqlText}
    (h : buildCondition d mode (g.qualifyField baseModelName f.field sourceAlias) params f = .ok (params', t))
    (hfinal : params' <+: final) :
    bindParams final t = g.filterPredicate d sourceAlias baseModelName f ∧
      Atomic (g.filterPredicate d sourceAlias baseModelName f) ∧ Buildable d f ∧ params <+: params' := by
  have hcol := columnText_qualifyField g baseModelName f.field sourceAlias
  obtain ⟨hbuild, rfl, rfl⟩ := buildCondition_eq_ok h
  refine ⟨?_, atomic_predicate hcol hbuild, hbuild, prefix_renderValues _ _ _⟩
  rw [bindParams_comparison hcol, bindParams_renderValues hfinal]
  rfl

theorem readFrom_separator (f : Filter) (cur rest : SqlText) :
    readFrom false cur (separator false f ++ rest) =
      ⟨cur, (f.connective, (readFrom false [] rest).first) :: (readFrom false [] rest).rest⟩ := by
  have hand : connectiveOf (.code " AND ") = some .and := rfl
  have hor : connectiveOf (.code " OR ") = some .or := rfl
  cases ho : f.orCondition <;>
    simp [separator, Filter.connective, ho, code, readFrom, hand, hor]

/-- The loop over the filters: what is read of the conditions it builds. -/
theorem read_buildConditions {params params' final : List Value} {filters : List Filter} {ts : List SqlText}
    (h : g.buildConditions d sourceAlias baseModelName mode false params filters = .ok (params', ts))
    (hfinal : params' <+: final) :
    params <+: params' ∧ (∀ f ∈ filters, Buildable d f) ∧
      ∀ cur, readFrom false cur (bindParams final ts.flatten) =
        ⟨cur, filters.map fun f => (f.connective, g.filterPredicate d sourceAlias baseModelName f)⟩ := by
  induction filters generalizing params ts with
  | nil =>
    simp only [SqlGenerator.buildConditions, Except.ok.injEq, Prod.mk.injEq] at h
    obtain ⟨rfl, rfl⟩ := h
    exact ⟨List.prefix_rfl, by simp, fun cur => by simp [readFrom]⟩
  | cons f filters ih =>
    simp only [SqlGenerator.buildConditions, Res.bind_eq_ok, pure, Except.pure, Except.ok.injEq,
      Prod.mk.injEq] at h
    obtain ⟨⟨params₁, t⟩, hcond, ⟨params₂, ts'⟩, hrest, rfl, rfl⟩ := h
    obtain ⟨hp, hbuild, hread⟩ := ih hrest
    obtain ⟨hbind, hatomic, hf, hp₁⟩ := bind_buildCondition hcond (hp.trans hfinal)
    refine ⟨hp₁.trans hp, List.forall_mem_cons.2 ⟨hf, hbuild⟩, fun cur => ?_⟩
    have hsep : bindParams final (separator false f) = separator false f := by
      cases ho : f.orCondition <;> simp [separator, ho]
    rw [List.flatten_cons, bindParams_append, bindParams_append, hsep, hbind, List.append_assoc,
      readFrom_separator, hatomic, hread]
    rfl

/-- **What a built WHERE clause says**: it is read back as the query's filters,
each one's comparison joined to the ones before it as its flag asks. -/
theorem read_buildWhereClause {query : Query} {params : List Value} {t : SqlText}
    (h : g.buildWhereClause query d sourceAlias baseModelName mode = .ok (params, some t)) :
    ∃ f fs, query.filters = f :: fs ∧ (∀ f ∈ query.filters, Buildable d f) ∧
      readCondition (bindParams params t) =
        (flatFilters f fs).map (g.filterPredicate d sourceAlias baseModelName) := by
  unfold SqlGenerator.buildWhereClause at h
  cases hq : query.filters with
  | nil => simp [hq] at h
  | cons f fs =>
    simp only [hq, List.isEmpty_cons, Bool.false_eq_true, if_false, SqlGenerator.buildConditions,
      Res.bind_eq_ok, pure, Except.pure, Except.ok.injEq, Prod.mk.injEq, Option.some.injEq] at h
    obtain ⟨_, ⟨⟨params₁, t₁⟩, hcond, ⟨params₂, ts⟩, hrest, rfl⟩, rfl, rfl⟩ := h
    obtain ⟨hp, hbuild, hread⟩ := read_buildConditions hrest List.prefix_rfl
    obtain ⟨hbind, hatomic, hf, -⟩ := bind_buildCondition hcond hp
    refine ⟨f, fs, rfl, List.forall_mem_cons.2 ⟨hf, hbuild⟩, ?_⟩
    have hsep : separator true f = [] := rfl
    rw [readCondition, List.flatten_cons, hsep, List.nil_append, bindParams_append, hbind, hatomic, hread]
    simp [flatFilters, FlatCondition.map]

end Clause

end GraphNight
