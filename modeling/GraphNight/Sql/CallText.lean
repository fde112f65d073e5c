import GraphNight.Core.FunctionCalls
import GraphNight.Sql.FieldOwners

/-!
# The SQL of a function call

A call that a formula makes is written as its name, a bracket and its arguments again: a number
stands as the formula has it, a column behind its table's alias and quoted by the dialect.
-/

namespace GraphNight

open SqlText

namespace SqlGenerator

/-- The alias of the source, or that of one of its joins. -/
def AliasInScope (g : SqlGenerator) (base sourceAlias aliasName : String) : Prop :=
  aliasName = sourceAlias ∨ ∃ m, g.model base = some m ∧ ∃ join ∈ m.joins, aliasName = joinAlias join

/-- The string of an argument in a dialect's SQL. -/
inductive ArgSql (g : SqlGenerator) (d : Dialect) (base sourceAlias : String) : FunctionArg → String → Prop where
  | number {n : String} (hn : NumericLiteral n.toList) : ArgSql g d base sourceAlias (.number n) n
  | column {col aliasName column : String} (hscope : g.AliasInScope base sourceAlias aliasName)
      (hcolumn : column = col ∨ ∃ pre, Str.rsplitOnce col '.' = some (pre, column)) :
      ArgSql g d base sourceAlias (.column col) (aliasName ++ "." ++ d.quoteIdent column)

section

variable {g : SqlGenerator} {base sourceAlias : String}

/-- A column is written after an alias of the query. -/
theorem resolveField_scope {field aliasName column : String} (h : g.resolveField base field sourceAlias = some (aliasName, column)) :
    g.AliasInScope base sourceAlias aliasName ∧ (column = field ∨ ∃ pre, Str.rsplitOnce field '.' = some (pre, column)) := by
  rw [resolveField_eq_resolveOwner] at h
  obtain ⟨c, hc, hpair⟩ := Option.map_eq_some_iff.1 h
  obtain ⟨rfl, rfl⟩ := Prod.mk.inj hpair
  cases hm : g.model base with
  | none =>
    unfold resolveOwner at hc
    rw [hm] at hc
    split_ifs at hc
    obtain rfl := Option.some.inj hc
    exact ⟨.inl rfl, .inl rfl⟩
  | some m =>
    obtain ⟨owner, -, hscope, hcolumn, -⟩ := resolveOwner_spec hm hc
    refine ⟨?_, hcolumn⟩
    generalize c.aliasName = aliasName at hscope
    cases hscope with
    | source => exact .inl rfl
    | joined hm hjoin _ => exact .inr ⟨_, hm, _, hjoin, rfl⟩

theorem argSql_functionArgText {word : String} {arg : FunctionArg} (d : Dialect) (harg : IsArg word arg) :
    ArgSql g d base sourceAlias arg (d.render (g.functionArgText sourceAlias base arg)) := by
  cases harg with
  | number hword =>
    have hrender : d.render (g.functionArgText sourceAlias base (.number word)) = word := by
      simp [functionArgText, Dialect.renderFrag]
    rw [hrender]
    exact .number hword
  | column hword =>
    have hstar : word ≠ "*" := by
      rintro rfl
      exact absurd (hword.wordy '*' (by decide)) (by decide)
    obtain ⟨c, hc⟩ := Option.ne_none_iff_exists'.1 fun hnone => hstar ((@resolveField_eq_none g base word sourceAlias).1 hnone)
    obtain ⟨hscope, hcolumn⟩ := resolveField_scope hc
    have hrender : d.render (g.functionArgText sourceAlias base (.column word)) = c.1 ++ "." ++ d.quoteIdent c.2 := by
      rw [functionArgText, qualifyField_eq, hc]
      simp [columnText, qualified, raw, code, ident, Dialect.renderFrag, String.append_assoc]
    rw [hrender]
    exact .column hscope hcolumn

/-- The text of a call that is read. -/
theorem resolveExpression_of_call {text : String} {call : FunctionCall} (h : parseFunctionCall text = .ok (some call)) :
    g.resolveExpression sourceAlias base text =
      .ok ([.func call.name] ++ code "(" ++ join ", " (call.args.map (g.functionArgText sourceAlias base)) ++ code ")") := by
  unfold resolveExpression
  rw [h]
  rfl

end

/-- **The allow-list is exact**: a text is read as a call exactly if it is one of the grammar, as no call
exactly if it has not the shape of one, and is refused otherwise; and the SQL of a call is its name and
its arguments, numbers as they are written and columns behind an alias and quoted. -/
theorem function_calls_are_exact (g : SqlGenerator) (d : Dialect) (base sourceAlias text : String) :
    parseFunctionCall text ≠ .error .panic ∧
      (∀ call, parseFunctionCall text = .ok (some call) ↔ IsCall text call) ∧
      (parseFunctionCall text = .ok none ↔ ¬CallShape text) ∧
      ((∃ message, parseFunctionCall text = Res.fail message) ↔ CallShape text ∧ ¬∃ call, IsCall text call) ∧
      ∀ call, parseFunctionCall text = .ok (some call) → ∃ sql args, g.resolveExpression sourceAlias base text = .ok sql ∧
        d.render sql = call.name ++ "(" ++ Str.join ", " args ++ ")" ∧ List.Forall₂ (ArgSql g d base sourceAlias) call.args args := by
  have hpanic := parseFunctionCall_ne_panic text
  have hsome := @parseFunctionCall_eq_some text
  have hnone := @parseFunctionCall_eq_none text
  refine ⟨hpanic, fun call => hsome, hnone, ?_, fun call hcall => ?_⟩
  · constructor
    · rintro ⟨message, hfail⟩
      refine ⟨?_, ?_⟩
      · by_contra hno
        exact Res.fail_ne_ok (hfail.symm.trans (hnone.2 hno))
      · rintro ⟨call, hcall⟩
        exact Res.fail_ne_ok (hfail.symm.trans (hsome.2 hcall))
    · rintro ⟨hshape, hno⟩
      cases hparse : parseFunctionCall text with
      | error fault =>
        cases fault with
        | err message => exact ⟨message, rfl⟩
        | panic => exact absurd hparse hpanic
      | ok read =>
        cases read with
        | none => exact absurd hshape (hnone.1 hparse)
        | some call => exact absurd ⟨call, hsome.1 hparse⟩ hno
  · refine ⟨_, call.args.map fun arg => d.render (g.functionArgText sourceAlias base arg), resolveExpression_of_call hcall, ?_, ?_⟩
    · simp only [Dialect.render_append, Dialect.render_join, List.map_map, Function.comp_def]
      simp [code, Dialect.renderFrag]
    · rw [List.forall₂_map_right_iff, List.forall₂_same]
      intro arg harg
      obtain ⟨word, hword⟩ := (hsome.1 hcall).isArg arg harg
      exact argSql_functionArgText d hword

end SqlGenerator

end GraphNight
