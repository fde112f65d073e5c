import GraphNight.Sql.Statement
import GraphNight.Sql.Tokens

/-!
# The relation a model stands for

A model is the table of its name, or its own SQL as a subquery. FROM renders the one
or the other; a JOIN clause always names a table.
-/

namespace GraphNight

open SqlText

/-- The relation of a model: its own SQL in parentheses when it has some, else the table
of its name. -/
def relationOf (m : Model) : SqlText :=
  match SqlGenerator.sourceOverride (some m) with
  | some sql => code ("(" ++ Str.trimEndMatches ';' (Str.trim sql) ++ ")")
  | none => ident m.name

/-- The relation a join clause brings in. -/
def joinedRelation (j : JoinClause) : SqlText := ident j.table

/-- Blanks and comments. -/
def LexState.trivia : LexState → Bool
  | .blank | .minuses | .lineComment | .commentClosed => true
  | _ => false

/-- How many parentheses are open behind some lexemes; none where one is closed that was
not opened, or where a statement ends. -/
def parenDepth : Nat → List (LexState × List Char) → Option Nat
  | depth, [] => some depth
  | depth, (.symbol '(', _) :: ls => parenDepth (depth + 1) ls
  | depth, (.symbol ')', _) :: ls => if depth = 0 then none else parenDepth (depth - 1) ls
  | _, (.symbol ';', _) :: _ => none
  | depth, _ :: ls => parenDepth depth ls

/-- Lexemes that can stand in parentheses: some tokens, with parentheses of their own in
pairs, of one statement. -/
def OneExpression (ls : List (LexState × List Char)) : Prop :=
  parenDepth 0 ls = some 0 ∧ ∃ l ∈ ls, l.1.trivia = false

/-- A text is one parenthesised table expression. -/
def OneTable (d : Dialect) (text : String) : Prop :=
  ∃ body, d.lex text = (.symbol '(', ['(']) :: body ++ [(.symbol ')', [')'])] ∧ OneExpression body

/-- A text that a parenthesis can follow: no literal, quoted name or comment is open
behind it, and its own lexemes can stand in parentheses. -/
def ClosedText (d : Dialect) (text : String) : Prop :=
  d.lexRules.lexer.Cuts (d.after text) ')' ∧ OneExpression (d.lex text)

/-! ## Parentheses around a text -/

namespace Dialect

theorem start_open (d : Dialect) : d.lexRules.lexer.start '(' = .symbol '(' := by cases d <;> decide

theorem start_close (d : Dialect) : d.lexRules.lexer.start ')' = .symbol ')' := by cases d <;> decide

theorem unlessNul_ne_symbol {c x : Char} {st : LexState} (h : st ≠ .symbol x) : LexRules.unlessNul c st ≠ some (.symbol x) := by
  unfold LexRules.unlessNul
  split_ifs
  · simp
  · simpa using h

theorem extendComment_ne_symbol (r : LexRules) (depth : Nat) (previous c x : Char) : r.extendComment depth previous c ≠ .symbol x := by
  unfold LexRules.extendComment
  split_ifs <;> simp

theorem extendDollarBody_ne_symbol (tag : List Char) (candidate : Option (List Char)) (c x : Char) :
    LexRules.extendDollarBody tag candidate c ≠ .symbol x := by
  unfold LexRules.extendDollarBody
  split_ifs
  · simp
  · simp
  · cases candidate <;> simp

/-- Nothing goes on to be a symbol. -/
theorem extend_ne_symbol (r : LexRules) (st : LexState) (c x : Char) : r.lexer.extend st c ≠ some (.symbol x) := by
  show r.extend st c ≠ _
  cases st with
  | number phase =>
    simp only [LexRules.extend, LexRules.extendNumber]
    split_ifs <;> simp
  | comment depth previous => exact unlessNul_ne_symbol (extendComment_ne_symbol _ _ _ _ _)
  | dollarBody tag candidate => exact unlessNul_ne_symbol (extendDollarBody_ne_symbol _ _ _ _)
  | commentOpened =>
    simp only [LexRules.extend]
    split_ifs
    · simp
    · exact unlessNul_ne_symbol (extendComment_ne_symbol _ _ _ _ _)
  | bracket =>
    refine unlessNul_ne_symbol ?_
    split_ifs <;> simp
  | lineComment =>
    simp only [LexRules.extend]
    split_ifs
    · simp
    · exact unlessNul_ne_symbol (by simp)
  | minus =>
    simp only [LexRules.extend]
    split_ifs <;> simp
  | _ =>
    simp only [LexRules.extend]
    try split_ifs
    all_goals simp

/-- **Text in parentheses** is one table expression exactly when it is closed. -/
theorem oneTable_iff (d : Dialect) (text : String) : OneTable d ("(" ++ text ++ ")") ↔ ClosedText d text := by
  have hlist : ("(" ++ text ++ ")").toList = '(' :: (text.toList ++ [')']) := by simp
  have hopen : d.lex ("(" ++ text ++ ")") =
      (.symbol '(', ['(']) :: d.lexRules.lexer.lex (text.toList ++ [')']) := by
    have hcut : ∀ c, d.lexRules.lexer.Cuts (d.lexRules.lexer.after ['(']) c := by
      rintro c st hst
      obtain rfl : LexState.symbol '(' = st := by
        rw [← d.start_open]
        exact Option.some.inj hst
      rfl
    rw [lex, hlist]
    obtain ⟨c, cs, hcs⟩ : ∃ c cs, text.toList ++ [')'] = c :: cs := List.exists_cons_of_ne_nil (by simp)
    rw [hcs, show '(' :: c :: cs = ['('] ++ c :: cs from rfl, Lexer.lex_append (hcut c)]
    show [(d.lexRules.lexer.start '(', ['('])] ++ _ = _
    rw [d.start_open]
    rfl
  have hclose : d.lexRules.lexer.Cuts (d.after text) ')' →
      d.lexRules.lexer.lex (text.toList ++ [')']) = d.lex text ++ [(.symbol ')', [')'])] := by
    intro hcut
    rw [Lexer.lex_append hcut]
    show _ ++ [(d.lexRules.lexer.start ')', [')'])] = _
    rw [d.start_close]
    rfl
  rw [OneTable, hopen]
  constructor
  · rintro ⟨body, hbody, hexpr⟩
    have htail : d.lexRules.lexer.lex (text.toList ++ [')']) = body ++ [(.symbol ')', [')'])] :=
      (List.cons.inj hbody).2
    have hcut : d.lexRules.lexer.Cuts (d.after text) ')' := by
      have hlast := Lexer.getLast_lex (L := d.lexRules.lexer) (text.toList ++ [')'])
      rw [htail, List.getLast?_concat, Lexer.after_append] at hlast
      intro st hst
      have hst' : d.lexRules.lexer.after text.toList = some st := hst
      rw [hst'] at hlast
      cases hext : d.lexRules.lexer.extend st ')' with
      | none => rfl
      | some st' =>
        -- a token that runs on over the parenthesis does not end as one
        have hsymbol : some (LexState.symbol ')') = some st' := by simpa [Lexer.step, hext] using hlast
        exact absurd (hext.trans hsymbol.symm) (extend_ne_symbol _ _ _ _)
    rw [hclose hcut] at htail
    obtain rfl := List.append_cancel_right htail
    exact ⟨hcut, hexpr⟩
  · rintro ⟨hcut, hexpr⟩
    exact ⟨d.lex text, by rw [hclose hcut]; rfl, hexpr⟩

end Dialect

namespace SqlGenerator

/-- A model is one relation: in FROM and in every JOIN clause that names it, its own SQL
being one parenthesised expression in every dialect. -/
structure OneRelation (g : SqlGenerator) (m : Model) : Prop where
  source : ∀ query out sourceAlias plan, g.Statement query out m sourceAlias plan →
    Dialect.renderSource plan = relationOf m
  joined : ∀ query out base sourceAlias plan, g.Statement query out base sourceAlias plan →
    ∀ j ∈ plan.joins, j.table = m.name → joinedRelation j = relationOf m
  inlined : ∀ sql, sourceOverride (some m) = some sql → ∀ d : Dialect, OneTable d (d.render (relationOf m))

/-- A model with SQL of its own is joined by no other model, and that SQL is closed. -/
structure SourcePlain (g : SqlGenerator) (m : Model) : Prop where
  unjoined : sourceOverride (some m) = none ∨
    ∀ base ∈ g.modelRegistry.items, base.name ≠ m.name → ∀ j ∈ base.joins, j.model ≠ m.name
  closed : ∀ sql, sourceOverride (some m) = some sql →
    ∀ d, ClosedText d (Str.trimEndMatches ';' (Str.trim sql))

section

variable {g : SqlGenerator} {query : Query} {out : GeneratedSql} {m : Model} {sourceAlias : String}
  {plan : LogicalPlan}

/-- FROM has the relation of the source model. -/
theorem Statement.renderSource_eq (h : g.Statement query out m sourceAlias plan) :
    Dialect.renderSource plan = relationOf m := by
  obtain ⟨items, clause, joins, -, -, -, rfl⟩ := h.parts
  unfold Dialect.renderSource relationOf
  cases sourceOverride (some m) <;> rfl

theorem relationOf_eq_ident {m : Model} : relationOf m = ident m.name ↔ sourceOverride (some m) = none := by
  unfold relationOf
  cases sourceOverride (some m) with
  | none => simp
  | some sql => simp [code, ident]

/-- A statement over a model joins the targets of the joins the model declares. -/
theorem Statement.exists_join (h : g.Statement query out m sourceAlias plan) {j : Join} (hj : j ∈ m.joins)
    (hne : j.model ≠ m.name) : ∃ c ∈ plan.joins, c.table = j.model := by
  obtain ⟨e, hlink⟩ := firstLink_of_declared h.mem_models hj
  have htarget := JoinGraph.target_of_firstLink hlink
  refine ⟨writtenClause sourceAlias e, ?_, ?_⟩
  · rw [h.joins_eq]
    refine List.mem_map_of_mem (mem_statementLinks.2 ⟨htarget ▸ hne, ⟨j, hj, htarget.symm⟩, ?_⟩)
    rw [htarget]
    exact hlink
  · exact (JoinGraph.join_model_of_mem (JoinGraph.mem_of_firstLink hlink)).trans htarget

end

/-! ## A model with SQL of its own, joined -/

namespace OwnSql

/-- The customers are not in a table of that name. -/
def customers : Model where
  name := "customers"
  datasource := "warehouse"
  dimensions := [⟨"country", none⟩]
  sql := some "SELECT * FROM crm_customers"

def orders : Model where
  name := "orders"
  datasource := "warehouse"
  dimensions := [⟨"status", none⟩]
  joins := [⟨"customers", "customers", .left, [("customer_id", "id")], none⟩]

def generator : SqlGenerator := (new .postgres ⟨fun _ => false, fun _ => false⟩).withModels [orders, customers]

end OwnSql

/-- A comment at the end of the SQL takes the parenthesis behind it along. -/
example : ¬OneTable .postgres "(SELECT 1 -- all)" := by
  rw [show "(SELECT 1 -- all)" = "(" ++ "SELECT 1 -- all" ++ ")" from rfl, Dialect.oneTable_iff]
  rintro ⟨hcut, -⟩
  exact absurd (hcut .lineComment (by decide +kernel)) (by decide)

end SqlGenerator

end GraphNight
