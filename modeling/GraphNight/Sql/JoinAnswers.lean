import GraphNight.Lib.Joined
import GraphNight.Sql.Unjoined
import Mathlib.Algebra.Order.Ring.Rat
import Mathlib.Logic.Function.Basic

/-!
# What a statement's joins do to its answer

The rows of the FROM clause are those of the source, joined with each table in turn.
What a database answers depends on these rows; on a query over the source's fields alone
it depends only on how often each row of the source is among them.
-/

namespace GraphNight

open SqlText

/-- A row of a table, by column. -/
abbrev TableRow (κ : Type) := String → κ

/-- A row of a FROM clause: one row for every alias in scope. -/
abbrev ScopeRow (κ : Type) := String → Option (TableRow κ)

/-- The rows a statement can read. -/
structure Content (κ : Type) where
  table : String → List (TableRow κ)
  /-- The rows of a source that is SQL of its own. -/
  subquery : String → List (TableRow κ)

/-- The pairs of columns an ON condition compares, where that is all it does. -/
def readOn : SqlText → Option (List ((String × String) × (String × String)))
  | [.raw a, .code ".", .ident c, .code " = ", .raw b, .code ".", .ident e] => some [((a, c), (b, e))]
  | .raw a :: .code "." :: .ident c :: .code " = " :: .raw b :: .code "." :: .ident e :: .code " AND " :: rest =>
    (readOn rest).map (((a, c), (b, e)) :: ·)
  | _ => none

/-- The text is `COUNT(*)`. -/
def countAll : SqlText := code "COUNT" ++ code "(" ++ code "*" ++ code ")"

/-- A plan that counts the rows it reads. -/
structure CountsRows (plan : LogicalPlan) : Prop where
  items : plan.selectItems.map (·.expression) = [countAll]
  whereClause : plan.whereClause = none
  groupBy : plan.groupBy = []
  orderBy : plan.orderBy = []
  limit : plan.limit = none
  offset : plan.offset = none

/-- A name depends on one alias only. -/
def OfAlias (aliasName : String) (r : NameRef) : Prop := r.qualifier = aliasName ∨ r = rawRef aliasName

/-- The value of a column in a scope. -/
def ScopeRow.cell {κ : Type} (null : κ) (env : ScopeRow κ) (column : String × String) : κ :=
  ((env column.1).map (· column.2)).getD null

/-- What a database does with the rows it is given: when two cells are equal, when a row
meets an ON condition, and what it can answer to a plan on the rows of its FROM clause. -/
structure Database (κ ρ : Type) where
  null : κ
  equal : κ → κ → Bool
  on : SqlText → ScopeRow κ → Bool
  answers : LogicalPlan → List (ScopeRow κ) → ρ → Prop
  /-- The answer that is one number. -/
  number : Nat → ρ
  number_injective : Function.Injective number
  on_pairs : ∀ t pairs env, readOn t = some pairs →
    (∀ p ∈ pairs, (env p.1.1).isSome = true ∧ (env p.2.1).isSome = true) →
    on t env = pairs.all fun p => equal (ScopeRow.cell null env p.1) (ScopeRow.cell null env p.2)
  /-- Rows of other aliases do not matter to a plan that names none of their columns, nor
  does the order of the rows. -/
  answers_local : ∀ plan rows rows' answer, (∀ r ∈ planRefs plan, OfAlias plan.sourceAlias r) →
    (rows.map (· plan.sourceAlias)).Perm (rows'.map (· plan.sourceAlias)) →
    (answers plan rows answer ↔ answers plan rows' answer)
  answers_count : ∀ plan rows answer, CountsRows plan → (answers plan rows answer ↔ answer = number rows.length)

section

variable {κ ρ : Type} (db : Database κ ρ) (content : Content κ)

/-- A join clause, by the keyword it is written with, behind the aliases in scope. -/
def JoinClause.step (scope : List String) (c : JoinClause) : Joined.Step (ScopeRow κ) (TableRow κ) where
  extend env r := Function.update env c.aliasName (some r)
  meets := db.on c.on
  keepLeft := c.joinType == "LEFT JOIN" || c.joinType == "FULL JOIN"
  keepRight := c.joinType == "RIGHT JOIN" || c.joinType == "FULL JOIN"
  padRight env := Function.update env c.aliasName (some fun _ => db.null)
  padLeft r := Function.update (fun a => if a ∈ scope then some fun _ => db.null else none) c.aliasName (some r)

/-- The joins of a FROM clause, in order. -/
def joinAll : List String → List (ScopeRow κ) → List JoinClause → List (ScopeRow κ)
  | _, rows, [] => rows
  | scope, rows, c :: cs =>
    joinAll (c.aliasName :: scope) ((c.step db scope).rows rows (content.table c.table)) cs

/-- The rows of a plan's source. -/
def sourceRows (plan : LogicalPlan) : List (ScopeRow κ) :=
  (if plan.sourceIsSql then content.subquery plan.sourceTable else content.table plan.sourceTable).map fun r =>
    Function.update (fun _ => none) plan.sourceAlias (some r)

/-- The rows of a plan's FROM clause. -/
def fromRows (plan : LogicalPlan) : List (ScopeRow κ) :=
  joinAll db content [plan.sourceAlias] (sourceRows content plan) plan.joins

/-- What a plan's statement can return. -/
def Database.Returns (plan : LogicalPlan) (answer : ρ) : Prop :=
  db.answers plan.withoutJoins (fromRows db content plan) answer

/-- Each join in turn leaves the rows before it as they are. -/
def EachJoinKeeps (sourceAlias : String) : List String → List (ScopeRow κ) → List JoinClause → Prop
  | _, _, [] => True
  | scope, rows, c :: cs =>
    c.aliasName ≠ sourceAlias ∧ (c.step db scope).Keeps rows (content.table c.table) ∧
      EachJoinKeeps sourceAlias (c.aliasName :: scope) ((c.step db scope).rows rows (content.table c.table)) cs

end

namespace SqlGenerator

/-- Whatever a query on the fields of the model alone can return, and nothing else, it
returns when the model has no joins. -/
def JoinsInvisible (g : SqlGenerator) (name : String) : Prop :=
  ∀ (κ ρ : Type) (db : Database κ ρ) (content : Content κ) (query : Query) (out : GeneratedSql) (m : Model)
    (sourceAlias : String) (plan : LogicalPlan), m.name = name → g.Statement query out m sourceAlias plan →
    g.BaseOnly query m →
    ∃ out' plan', (g.withoutJoins m).Statement query out' m.withoutJoins sourceAlias plan' ∧
      ∀ answer, db.Returns content plan answer ↔ db.Returns content plan' answer

section

variable {g : SqlGenerator} {query : Query} {out : GeneratedSql} {m : Model} {sourceAlias : String} {plan : LogicalPlan}
  {κ ρ : Type} {db : Database κ ρ} {content : Content κ}

/-- Joins that keep the rows before them keep what is seen of the source. -/
theorem map_joinAll {scope : List String} {rows : List (ScopeRow κ)} {joins : List JoinClause}
    (h : EachJoinKeeps db content sourceAlias scope rows joins) :
    (joinAll db content scope rows joins).map (· sourceAlias) = rows.map (· sourceAlias) := by
  induction joins generalizing scope rows with
  | nil => rfl
  | cons c cs ih =>
    obtain ⟨halias, hkeeps, hrest⟩ := h
    show (joinAll db content (c.aliasName :: scope) _ cs).map (· sourceAlias) = _
    rw [ih hrest]
    apply hkeeps.map_rows
    · intro env r
      exact Function.update_of_ne halias.symm _ _
    · intro env
      exact Function.update_of_ne halias.symm _ _

/-- A field of the model itself is a column of the source alias. -/
theorem OwnField.ofAlias (hm : g.model m.name = some m) {field : String} (h : OwnField m field) :
    ∀ r ∈ g.fieldRefs m.name sourceAlias field, OfAlias sourceAlias r := by
  unfold fieldRefs resolveField
  rw [hm]
  rcases h with rfl | hplain
  · exact fun r hr => absurd hr List.not_mem_nil
  · by_cases hstar : field = "*"
    · rw [if_pos hstar]
      exact fun r hr => absurd hr List.not_mem_nil
    · rw [if_neg hstar]
      simp only [hplain, if_true]
      intro r hr
      obtain rfl := List.mem_singleton.1 hr
      exact .inl rfl

/-- A query on the model's own fields names the source alias alone. -/
theorem BaseOnly.ofAlias (h : g.Statement query out m sourceAlias plan) (hbase : g.BaseOnly query m) :
    ∀ r ∈ planRefs plan.withoutJoins, OfAlias plan.withoutJoins.sourceAlias r := by
  have hdims : ∀ dim ∈ query.dimensions, ∀ r ∈ g.fieldRefs m.name sourceAlias dim.name, OfAlias sourceAlias r :=
    fun dim hdim => (hbase.fields _ (List.mem_append_left _ (List.mem_map_of_mem hdim))).ofAlias h.model
  have hfilters : ∀ f ∈ query.filters, ∀ r ∈ g.fieldRefs m.name sourceAlias f.field, OfAlias sourceAlias r :=
    fun f hf => (hbase.fields _ (List.mem_append_right _ (List.mem_map_of_mem hf))).ofAlias h.model
  have htimes : ∀ td ∈ query.timeDimensions, OfAlias sourceAlias (rawRef (sourceAlias ++ "." ++ td.dimension)) := by
    intro td htd
    have hsplit : Str.rsplitOnce (sourceAlias ++ "." ++ td.dimension) '.' = some (sourceAlias, td.dimension) :=
      Str.rsplitOnce_append (hbase.times td htd).2 sourceAlias
    unfold rawRef
    rw [hsplit]
    exact .inl rfl
  have horders : ∀ order ∈ query.order, OfAlias sourceAlias (orderRef sourceAlias order.field) := by
    intro order horder
    have hdot : Str.containsChar order.field '.' = false := by
      rw [Str.containsChar, List.contains_eq_mem]
      exact decide_eq_false (hbase.orders order horder).2
    unfold orderRef
    rw [hdot]
    exact .inl rfl
  have hmeasures : ∀ measure ∈ query.measures, ∀ reads, g.measureReads measure = .ok reads →
      (∀ field ∈ reads.fields, ∀ r ∈ g.fieldRefs m.name sourceAlias field, OfAlias sourceAlias r) ∧
        (reads.window = true → OfAlias sourceAlias (rawRef sourceAlias)) := fun measure hmeasure reads hreads =>
    ⟨fun field hfield => (hbase.measures measure hmeasure reads hreads field hfield).ofAlias h.model, fun _ => .inr rfl⟩
  have hselect := (h.forall_selectRefs (OfAlias sourceAlias)).2 ⟨hmeasures, hdims, htimes⟩
  have hwhere := (h.forall_whereRefs (OfAlias sourceAlias)).2 hfilters
  have hgroup := (h.forall_groupRefs (OfAlias sourceAlias)).2 ⟨hdims, htimes⟩
  have horder : ∀ item ∈ plan.orderBy, ∀ r ∈ refs item.column, OfAlias sourceAlias r := by
    rw [h.orderBy_eq]
    simpa [buildOrderBy, refs_orderByItem] using horders
  have halias : plan.withoutJoins.sourceAlias = sourceAlias := h.alias_eq
  rw [halias]
  unfold planRefs
  intro r hr
  simp only [List.mem_append, List.mem_flatMap] at hr
  rcases hr with (((⟨item, hitem, hr⟩ | hr) | ⟨t, ht, hr⟩) | ⟨item, hitem, hr⟩) | ⟨j, hj, -⟩
  · exact hselect item hitem r hr
  · exact hwhere r hr
  · exact hgroup t ht r hr
  · exact horder item hitem r hr
  · exact absurd hj List.not_mem_nil

/-- **Joins that keep the source's rows** do not change the answer. -/
theorem returns_of_keeps (h : g.Statement query out m sourceAlias plan) (hbase : g.BaseOnly query m)
    (hkeeps : EachJoinKeeps db content plan.sourceAlias [plan.sourceAlias] (sourceRows content plan) plan.joins)
    (answer : ρ) : db.Returns content plan answer ↔ db.Returns content plan.withoutJoins answer := by
  have hrows : (fromRows db content plan).map (· plan.sourceAlias) =
      (fromRows db content plan.withoutJoins).map (· plan.sourceAlias) := map_joinAll hkeeps
  exact db.answers_local plan.withoutJoins _ _ answer (hbase.ofAlias h) (hrows ▸ List.Perm.refl _)

end

/-! ## Counting the rows -/

/-- Every row counted: cells are filled or null, and full rows meet wherever their columns
are in scope. -/
def rowCounter : Database Bool Nat where
  null := false
  equal x y := x && y
  on t env := (readOn t).all fun pairs => pairs.all fun p =>
    !((env p.1.1).isSome && (env p.2.1).isSome) || (env.cell false p.1 && env.cell false p.2)
  answers _ rows n := n = rows.length
  number n := n
  number_injective := Function.injective_id
  on_pairs := by
    intro t pairs env hread hscope
    rw [hread]
    show pairs.all _ = pairs.all _
    rw [Bool.eq_iff_iff, List.all_eq_true, List.all_eq_true]
    refine forall₂_congr fun p hp => ?_
    rw [(hscope p hp).1, (hscope p hp).2]
    rfl
  answers_local := by
    intro plan rows rows' n _ hperm
    have hlength := hperm.length_eq
    rw [List.length_map, List.length_map] at hlength
    rw [hlength]
  answers_count := fun _ _ _ _ => Iff.rfl

/-- Two rows without a null in every table. -/
def twoRows : Content Bool := ⟨fun _ => [fun _ => true, fun _ => true], fun _ => [fun _ => true, fun _ => true]⟩

/-- No row in scope has a null. -/
def Filled (env : ScopeRow Bool) : Prop := ∀ a r, env a = some r → ∀ c, r c = true

theorem on_of_filled {env : ScopeRow Bool} (h : Filled env) (t : SqlText) : rowCounter.on t env = true := by
  have hcell : ∀ column : String × String, (env column.1).isSome = true → env.cell false column = true := by
    intro column hsome
    obtain ⟨r, hr⟩ := Option.isSome_iff_exists.1 hsome
    rw [ScopeRow.cell, hr]
    exact h column.1 r hr column.2
  show (readOn t).all _ = true
  rw [Option.all_eq_true]
  intro pairs _
  rw [List.all_eq_true]
  intro p _
  cases hleft : (env p.1.1).isSome with
  | false => rfl
  | true =>
    cases hright : (env p.2.1).isSome with
    | false => rfl
    | true =>
      rw [hcell p.1 hleft, hcell p.2 hright]
      rfl

theorem Filled.update {env : ScopeRow Bool} (h : Filled env) (aliasName : String) :
    Filled (Function.update env aliasName (some fun _ => true)) := by
  intro a r hr c
  by_cases ha : a = aliasName
  · rw [ha, Function.update_self] at hr
    rw [← Option.some.inj hr]
  · rw [Function.update_of_ne ha] at hr
    exact h a r hr c

/-- Each join doubles the rows. -/
theorem length_joinAll {scope : List String} {rows : List (ScopeRow Bool)} (hrows : rows ≠ [])
    (hfilled : ∀ env ∈ rows, Filled env) (joins : List JoinClause) :
    (joinAll rowCounter twoRows scope rows joins).length = rows.length * 2 ^ joins.length := by
  induction joins generalizing scope rows with
  | nil => simp [joinAll]
  | cons c cs ih =>
    have hmeet : ∀ env ∈ rows, ∀ r ∈ twoRows.table c.table,
        (c.step rowCounter scope).meets ((c.step rowCounter scope).extend env r) = true := by
      intro env henv r hr
      have hfull : r = fun _ => true := by simpa [twoRows] using hr
      rw [hfull]
      exact on_of_filled ((hfilled env henv).update c.aliasName) c.on
    have hright : twoRows.table c.table ≠ [] := List.cons_ne_nil _ _
    have hlength := Joined.length_rows_of_all_meet hrows hright hmeet
    have hnonempty : (c.step rowCounter scope).rows rows (twoRows.table c.table) ≠ [] := by
      apply List.ne_nil_of_length_pos
      rw [hlength]
      exact Nat.mul_pos (List.length_pos_of_ne_nil hrows) (List.length_pos_of_ne_nil hright)
    have hnext : ∀ env ∈ (c.step rowCounter scope).rows rows (twoRows.table c.table), Filled env := by
      rw [Joined.rows_of_all_meet hrows hright hmeet]
      intro env henv
      obtain ⟨env', henv', hmem⟩ := List.mem_flatMap.1 henv
      obtain ⟨r, hr, rfl⟩ := List.mem_map.1 hmem
      have hfull : r = fun _ => true := by simpa [twoRows] using hr
      rw [hfull]
      exact (hfilled env' henv').update c.aliasName
    show (joinAll rowCounter twoRows _ _ cs).length = _
    rw [ih hnonempty hnext, hlength, List.length_cons, Nat.pow_succ]
    show rows.length * 2 * 2 ^ cs.length = rows.length * (2 ^ cs.length * 2)
    rw [Nat.mul_assoc, Nat.mul_comm 2]

/-- `SELECT COUNT(*)` from a model. -/
def countQuery (name : String) : Query := { name := some name, measures := [Measure.simple "*" .count] }

section

variable {g : SqlGenerator} {m : Model}

theorem exists_countStatement (hm : g.model m.name = some m) :
    ∃ out plan, g.Statement (countQuery m.name) out m m.name plan := by
  have hitems : g.buildSelectItems (countQuery m.name) (g.dialectFor m.name) m.name m.name =
      .ok [⟨countAll, some "*"⟩] := rfl
  exact exists_statement_of_items hm rfl rfl rfl ⟨_, hitems⟩

theorem baseOnly_countQuery : g.BaseOnly (countQuery m.name) m := by
  refine ⟨List.forall_mem_nil _, fun measure hmeasure reads hreads field hfield => ?_, List.forall_mem_nil _,
    List.forall_mem_nil _⟩
  obtain rfl := List.mem_singleton.1 hmeasure
  have hstar : g.measureReads (Measure.simple "*" .count) = .ok ⟨["*"], false⟩ := rfl
  obtain rfl := Except.ok.inj (hstar.symm.trans hreads)
  exact .inl (List.mem_singleton.1 hfield)

/-- The count of a statement's rows: two of the source, doubled by every join. -/
theorem length_fromRows (plan : LogicalPlan) : (fromRows rowCounter twoRows plan).length = 2 * 2 ^ plan.joins.length := by
  have hsource : sourceRows twoRows plan = [fun _ => true, fun _ => true].map fun r =>
      Function.update (fun _ => none) plan.sourceAlias (some r) := by
    unfold sourceRows
    split_ifs <;> rfl
  have hempty : Filled fun _ => none := fun a r hr => nomatch hr
  unfold fromRows
  rw [hsource]
  refine length_joinAll (List.cons_ne_nil _ _) (fun env henv => ?_) plan.joins
  have henv' : env = Function.update (fun _ => none) plan.sourceAlias (some fun _ => true) := by simpa using henv
  rw [henv']
  exact hempty.update plan.sourceAlias

/-- A model without joins has a statement without joins. -/
theorem Statement.joins_nil {query : Query} {out : GeneratedSql} {sourceAlias : String} {plan : LogicalPlan}
    (h : g.Statement query out m sourceAlias plan) (hjoins : ∀ join ∈ m.joins, join.model = m.name) :
    plan.joins = [] := by
  rw [h.joins_eq, List.map_eq_nil_iff, List.eq_nil_iff_forall_not_mem]
  intro e he
  obtain ⟨hother, ⟨join, hjoin, htarget⟩, -⟩ := mem_statementLinks.1 he
  exact hother (htarget.symm.trans (hjoins join hjoin))

end

namespace LineItems

def orders : Model where
  name := "orders"
  datasource := "warehouse"
  dimensions := [⟨"id", none⟩]
  joins := [⟨"items", "items", .left, [("id", "order_id")], none⟩]

def items : Model := { name := "items", datasource := "warehouse", dimensions := [⟨"order_id", none⟩] }

def generator : SqlGenerator := (new .postgres ⟨fun _ => false, fun _ => false⟩).withModels [orders, items]

/-- One order with some items, every column filled with the one id. -/
def content (count : Nat) : Content Bool where
  table name := if name = "items" then List.replicate count fun _ => true else [fun _ => true]
  subquery _ := []

end LineItems

end SqlGenerator

end GraphNight
