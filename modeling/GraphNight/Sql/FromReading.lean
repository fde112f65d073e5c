import GraphNight.Lib.Traverse
import GraphNight.Sql.DeclaredJoins
import GraphNight.Sql.MeasureReading
import GraphNight.Sql.OnText

/-!
# The rows a statement reads

A FROM clause is read as its joins are written: the keyword, the table and the pairs of
columns an ON condition compares, among the aliases so far. Every join of a statement hangs
on its source, so that its rows are those of the model, each beside every choice of the
rows its links pair with it, in whatever order the links are taken.
-/

namespace GraphNight

open SqlText

/-! ## What is read -/

/-- A join: the rows of a table that meet the pairs of columns it compares. -/
structure JoinExpr where
  joinType : JoinType
  table : String
  aliasName : String
  on : List (Column × Column)
deriving DecidableEq, Repr

structure FromExpr where
  source : String
  sourceIsSql : Bool
  aliasName : String
  joins : List JoinExpr
deriving DecidableEq, Repr

section

variable (words : Words) (d : Dialect)

/-- The keyword of a join. MySQL has no FULL JOIN. -/
def readJoinType (keyword : String) : Option JoinType :=
  [JoinType.inner, .left, .right, .full].find? fun t => t.sqlKeyword == keyword && !(d == .mySql && t == .full)

def readPairs (scope : List String) (t : SqlText) : Option (List (Column × Column)) :=
  (readOn t).bind fun pairs => pairs.mapM fun p => do
    let left ← readColumn words d scope true p.1.1 p.1.2
    let right ← readColumn words d scope true p.2.1 p.2.2
    return (left, right)

/-- An ON condition sees the aliases before it and its own. -/
def readJoins : List String → List JoinClause → Option (List JoinExpr)
  | _, [] => some []
  | scope, c :: cs => do
    let joinType ← readJoinType d c.joinType
    let on ← readPairs words d (c.aliasName :: scope) c.on
    let rest ← readJoins (c.aliasName :: scope) cs
    return ⟨joinType, c.table, c.aliasName, on⟩ :: rest

/-- Read the FROM clause of a plan. -/
def FromExpr.read (plan : LogicalPlan) : Option FromExpr :=
  if d.HasFrom plan then
    (readJoins words d [plan.sourceAlias] plan.joins).map (⟨plan.sourceTable, plan.sourceIsSql, plan.sourceAlias, ·⟩)
  else none

end

/-! ## The rows -/

section

variable {κ : Type} (null : κ) (equal : κ → κ → Bool) (content : Content κ)

/-- A join behind the aliases in scope. -/
def JoinExpr.step (scope : List String) (j : JoinExpr) : Joined.Step (ScopeRow κ) (TableRow κ) where
  extend env r := Function.update env j.aliasName (some r)
  meets env := j.on.all fun p => equal (env.cell null (p.1.owner, p.1.name)) (env.cell null (p.2.owner, p.2.name))
  keepLeft := j.joinType == .left || j.joinType == .full
  keepRight := j.joinType == .right || j.joinType == .full
  padRight env := Function.update env j.aliasName (some fun _ => null)
  padLeft r := Function.update (fun a => if a ∈ scope then some fun _ => null else none) j.aliasName (some r)

def joinSteps : List String → List JoinExpr → List (Joined.Step (ScopeRow κ) (TableRow κ) × List (TableRow κ))
  | _, [] => []
  | scope, j :: js => (j.step null equal scope, content.table j.table) :: joinSteps (j.aliasName :: scope) js

/-- A row of one alias. -/
def ScopeRow.only (aliasName : String) (row : TableRow κ) : ScopeRow κ := Function.update (fun _ => none) aliasName (some row)

namespace FromExpr

def sourceRows (f : FromExpr) : List (TableRow κ) := if f.sourceIsSql then content.subquery f.source else content.table f.source

/-- The rows of a FROM clause: those of the source, joined with one table after the other. -/
def rows (f : FromExpr) : List (ScopeRow κ) :=
  Joined.inTurn ((f.sourceRows content).map (ScopeRow.only f.aliasName)) (joinSteps null equal content [f.aliasName] f.joins)

end FromExpr

/-! ## What is declared -/

/-- The rows of a model: its table, or the rows of its own SQL. -/
def Model.rows (m : Model) : List (TableRow κ) := (SqlGenerator.sourceOverride (some m)).elim (content.table m.name) content.subquery

namespace JoinEdge

/-- The pairs of columns as they were declared, those of the declaring model first. A link back, which its target
declared, has them turned round. -/
def declaredOn (e : JoinEdge) : List (String × String) := if e.reverse then e.join.on.map Prod.swap else e.join.on

/-- A row of the model and one of the link's target agree on the declared columns. -/
def pairs (e : JoinEdge) (row other : TableRow κ) : Bool :=
  e.declaredOn.all fun p => if e.reverse then equal (other p.1) (row p.2) else equal (row p.1) (other p.2)

/-- The rows that stand beside a row of the model: those it pairs with, or, for a LEFT JOIN without any, nulls. -/
def partners (e : JoinEdge) (row : TableRow κ) : List (TableRow κ) :=
  Joined.partners (e.join.joinType == .left) (fun _ => null) (e.pairs equal row) (content.table e.join.model)

end JoinEdge

/-- The rows of a model, each beside every choice of partners by its links. -/
def linkedRows (links : List JoinEdge) (sourceAlias : String) (rows : List (TableRow κ)) : List (ScopeRow κ) :=
  rows.flatMap fun row => Joined.combine
    (links.map fun e => (fun env r => Function.update env (JoinWalker.targetAlias e.join) (some r), e.partners null equal content row))
    (ScopeRow.only sourceAlias row)

end

/-- The aliases of a link's two sides, the declaring one first. -/
def JoinEdge.ends (sourceAlias : String) (e : JoinEdge) : String × String :=
  if e.reverse then (JoinWalker.targetAlias e.join, sourceAlias) else (sourceAlias, JoinWalker.targetAlias e.join)

/-- The join a link declares. -/
def declaredJoin (sourceAlias : String) (e : JoinEdge) : JoinExpr where
  joinType := e.join.joinType
  table := e.join.model
  aliasName := JoinWalker.targetAlias e.join
  on := e.declaredOn.map fun p => (⟨(e.ends sourceAlias).1, p.1⟩, ⟨(e.ends sourceAlias).2, p.2⟩)

/-! ## Reading it back -/

section

variable {d : Dialect} {a b : String}

/-- An identifier is given back. -/
theorem cleanColumn_of_identifier {cs : List Char} (h : Identifier cs) : CleanColumn cs := by
  refine ⟨h.dot_not_mem, h.wordy.not_mem (by decide), fun c hc => ?_⟩
  exact not_isWhitespace_of_isWordPart (h.wordy c (List.mem_of_getLast? hc))

/-- A side of a condition, trimmed and cut at its dot. -/
theorem quoteQualified_side {owner column lead trail : List Char} (ha : Identifier owner) (hcolumn : CleanColumn column)
    (hlead : Str.Blank lead) (htrail : Str.Blank trail) :
    quoteQualified (Str.trim (String.ofList (lead ++ (owner ++ '.' :: column) ++ trail))) =
      qualified (String.ofList owner) (String.ofList column) := by
  obtain ⟨c, as, rfl, -⟩ := Identifier.iff.1 ha
  have hkept : Str.Trimmed (c :: as ++ '.' :: column) := by
    refine ⟨fun x hx => ?_, fun x hx => ?_⟩
    · obtain rfl : c = x := Option.some.inj hx
      exact not_isWhitespace_of_isWordPart (ha.wordy c List.mem_cons_self)
    · rw [List.getLast?_append_of_ne_nil _ (List.cons_ne_nil _ _)] at hx
      cases column with
      | nil =>
        obtain rfl : '.' = x := Option.some.inj hx
        decide
      | cons y ys => exact hcolumn.2.2 x hx
  have hparts : Str.split (String.ofList (c :: as ++ '.' :: column)) '.' = [String.ofList (c :: as), String.ofList column] := by
    rw [Str.split, String.toList_ofList, Str.splitOn_eq_pair.2 ⟨rfl, ha.dot_not_mem, hcolumn.1⟩]
    rfl
  rw [Str.trim_of_padded String.toList_ofList hlead htrail hkept, quoteQualified, hparts]
  rfl

/-- One pair of columns, quoted. -/
def pairCode (a b : String) (p : String × String) : SqlText := qualified a p.1 ++ code " = " ++ qualified b p.2

theorem quoteCond_onText (ha : Identifier a.toList) (hb : Identifier b.toList) {l r : String} (hl : CleanColumn l.toList)
    (hr : CleanColumn r.toList) : quoteCond (String.ofList (pairText a.toList b.toList l.toList r.toList)) = pairCode a b (l, r) := by
  have hblank : Str.Blank [' '] := .singleton (by decide)
  have hleft : '=' ∉ a.toList ++ '.' :: (l.toList ++ [' ']) := by
    simp [ha.wordy.not_mem (show isWordPart '=' = false by decide), hl.2.1]
  have hright : '=' ∉ [' '] ++ b.toList ++ '.' :: r.toList := by
    simp [hb.wordy.not_mem (show isWordPart '=' = false by decide), hr.2.1]
  have hsplit : pairText a.toList b.toList l.toList r.toList =
      (a.toList ++ '.' :: (l.toList ++ [' '])) ++ '=' :: ([' '] ++ b.toList ++ '.' :: r.toList) := by simp [pairText]
  have hsideLeft := quoteQualified_side ha hl Str.Blank.nil hblank
  have hsideRight := quoteQualified_side hb hr hblank Str.Blank.nil
  rw [hsplit, quoteCond_pair hleft hright]
  simp only [List.nil_append, List.append_nil, List.append_assoc, List.cons_append, String.ofList_toList] at hsideLeft hsideRight ⊢
  rw [hsideLeft, hsideRight]
  rfl

/-- The condition of separable pairs is quoted column by column. -/
theorem quoteJoinOn_sides (ha : Identifier a.toList) (hb : Identifier b.toList) {pairs : List (String × String)} (hne : pairs ≠ [])
    (hpairs : Separable pairs) :
    quoteJoinOn (Str.join " AND " ((sidesOf a b pairs).map JoinWalker.onText)) = join " AND " (pairs.map (pairCode a b)) := by
  induction pairs with
  | nil => exact absurd rfl hne
  | cons p rest ih =>
    obtain ⟨l, r⟩ := p
    cases rest with
    | nil =>
      obtain ⟨hl, hr, hleft, hright⟩ := hpairs
      have hnone : Str.NoneStarts andText (pairText a.toList b.toList l.toList r.toList) [] :=
        (noneStarts_pairText ha hb).2 ⟨hleft, (Str.noneStarts_nil_iff (by decide)).2 hright⟩
      show quoteJoinOn (JoinWalker.onText (⟨a, l⟩, ⟨b, r⟩)) = pairCode a b (l, r)
      have htext := onText_toList (a := a) (b := b) l r
      rw [quoteJoinOn_eq, Str.splitStr_of_noneStarts (by decide) (by rw [htext]; exact hnone), ← String.ofList_toList (s := JoinWalker.onText _),
        htext]
      exact quoteCond_onText ha hb hl hr
    | cons next rest =>
      obtain ⟨hl, hr, hleft, hright, hmore⟩ := hpairs
      have hih := ih (List.cons_ne_nil _ _) hmore
      generalize hon : Str.join " AND " ((sidesOf a b (next :: rest)).map JoinWalker.onText) = on at hih
      have htext : (Str.join " AND " ((sidesOf a b ((l, r) :: next :: rest)).map JoinWalker.onText)).toList =
          pairText a.toList b.toList l.toList r.toList ++ (andText ++ on.toList) := by
        rw [← hon]
        simp only [sidesOf, List.map_cons, Str.join, String.toList_append, onText_toList, List.append_assoc]
        rfl
      have hnone : Str.NoneStarts andText (pairText a.toList b.toList l.toList r.toList) (andText ++ on.toList) :=
        (noneStarts_pairText ha hb).2 ⟨hleft, noneStarts_right.2 hright⟩
      rw [quoteJoinOn_eq, @Str.splitStr_append _ " AND " _ _ (by decide) htext hnone, String.ofList_toList, List.map_cons, quoteCond_onText ha hb hl hr]
      rw [quoteJoinOn_eq] at hih
      cases hparts : Str.splitStr on " AND " with
      | nil => exact absurd hparts (splitStr_ne_nil _ _ (by decide))
      | cons first parts =>
        rw [hparts] at hih
        show pairCode a b (l, r) ++ code " AND " ++ join " AND " ((first :: parts).map quoteCond) = _
        rw [hih]
        rfl

/-- What a condition compares is read back. -/
theorem readOn_pairCode {pairs : List (String × String)} (hne : pairs ≠ []) :
    readOn (join " AND " (pairs.map (pairCode a b))) = some (pairs.map fun p => ((a, p.1), (b, p.2))) := by
  induction pairs with
  | nil => exact absurd rfl hne
  | cons p rest ih =>
    cases rest with
    | nil => rfl
    | cons next rest =>
      show (readOn (join " AND " ((next :: rest).map (pairCode a b)))).map (((a, p.1), (b, p.2)) :: ·) = _
      rw [ih (List.cons_ne_nil _ _)]
      rfl

end

theorem readJoinType_sqlKeyword {d : Dialect} {t : JoinType} (h : d = .mySql → t ≠ .full) : readJoinType d t.sqlKeyword = some t := by
  cases t with
  | full =>
    cases d with
    | mySql => exact absurd rfl (h rfl)
    | postgres | sqlite | duckDb => decide
  | inner | left | right => cases d <;> decide

/-! ## The joins of a statement -/

theorem Dialect.sees_cons {words : Words} {d : Dialect} {scope : List String} {a : String} (h : d.sees words scope a = true) (other : String) :
    d.sees words (other :: scope) a = true := by
  rw [sees, Bool.and_eq_true, Bool.and_eq_true, List.contains_iff_mem] at h ⊢
  exact ⟨⟨h.1.1, List.mem_cons_of_mem _ h.1.2⟩, h.2⟩

/-- An alias is read as it is spelt. -/
structure Dialect.Spelt (words : Words) (d : Dialect) (a : String) : Prop where
  plain : isPlainIdentifier a = true
  unquoted : words.unquoted a = true
  fold : d.foldPlain a = d.foldQuoted a

theorem Dialect.sees_head {words : Words} {d : Dialect} {a : String} (h : d.Spelt words a) (scope : List String) :
    d.sees words (a :: scope) a = true := by
  rw [sees, Bool.and_eq_true, Bool.and_eq_true, List.contains_iff_mem]
  exact ⟨⟨h.unquoted, List.mem_cons_self⟩, beq_iff_eq.2 h.fold⟩

/-- A link whose join can be read back. A link back is written with its columns on the wrong sides, and so
between columns of one name only. -/
structure JoinEdge.Readable (e : JoinEdge) (words : Words) (d : Dialect) (sourceAlias : String) : Prop where
  source : d.Spelt words sourceAlias
  target : d.Spelt words (JoinWalker.targetAlias e.join)
  compares : e.join.on ≠ []
  separable : Separable e.join.on
  turned : e.reverse = true → ∀ p ∈ e.join.on, p.1 = p.2
  columns : ∀ p ∈ e.join.on, d.HasName p.1 ∧ d.HasName p.2
  known : d = .mySql → e.join.joinType ≠ .full

/-- Columns of one name are the same pairs either way. -/
theorem JoinEdge.declaredOn_eq {e : JoinEdge} (h : e.reverse = true → ∀ p ∈ e.join.on, p.1 = p.2) : e.declaredOn = e.join.on := by
  unfold declaredOn
  split_ifs with hreverse
  · rw [List.map_congr_left (g := id), List.map_id]
    intro p hp
    exact Prod.ext (h hreverse p hp).symm (h hreverse p hp)
  · rfl

section

variable {words : Words} {d : Dialect} {sourceAlias : String}

theorem readPairs_written {e : JoinEdge} (h : e.Readable words d sourceAlias) {scope : List String}
    (hscope : d.sees words scope sourceAlias = true) :
    readPairs words d (JoinWalker.targetAlias e.join :: scope) (writtenClause sourceAlias e).on = some (declaredJoin sourceAlias e).on := by
  have hsides : e.join.on.map (JoinWalker.onCondition sourceAlias e) = sidesOf (e.ends sourceAlias).1 (e.ends sourceAlias).2 e.join.on := by
    refine List.map_congr_left fun p _ => ?_
    unfold JoinWalker.onCondition JoinEdge.ends
    cases e.reverse <;> rfl
  have hends : (d.Spelt words (e.ends sourceAlias).1 ∧ d.sees words (JoinWalker.targetAlias e.join :: scope) (e.ends sourceAlias).1 = true) ∧
      d.Spelt words (e.ends sourceAlias).2 ∧ d.sees words (JoinWalker.targetAlias e.join :: scope) (e.ends sourceAlias).2 = true := by
    have hsource := Dialect.sees_cons hscope (JoinWalker.targetAlias e.join)
    have htarget := Dialect.sees_head h.target scope
    unfold JoinEdge.ends
    cases e.reverse
    · exact ⟨⟨h.source, hsource⟩, h.target, htarget⟩
    · exact ⟨⟨h.target, htarget⟩, h.source, hsource⟩
  obtain ⟨⟨hleft, hseesLeft⟩, hright, hseesRight⟩ := hends
  have hon : (writtenClause sourceAlias e).on = join " AND " (e.join.on.map (pairCode (e.ends sourceAlias).1 (e.ends sourceAlias).2)) := by
    show quoteJoinOn (Str.join " AND " ((e.join.on.map (JoinWalker.onCondition sourceAlias e)).map JoinWalker.onText)) = _
    rw [hsides]
    exact quoteJoinOn_sides (identifier_of_plain hleft.plain) (identifier_of_plain hright.plain) h.compares h.separable
  rw [readPairs, hon, readOn_pairCode h.compares]
  show List.mapM _ _ = some _
  rw [Traverse.mapM_eq_some, List.forall₂_map_left_iff, declaredJoin, JoinEdge.declaredOn_eq h.turned, List.forall₂_map_right_iff]
  refine List.forall₂_same.2 fun p hp => ?_
  obtain ⟨hl, hr⟩ := h.columns p hp
  rw [readColumn_of_sees (c := ⟨_, p.1⟩) hseesLeft hl, readColumn_of_sees (c := ⟨_, p.2⟩) hseesRight hr]
  rfl

/-- The joins along readable links are read back as declared. -/
theorem readJoins_written {links : List JoinEdge} (h : ∀ e ∈ links, e.Readable words d sourceAlias) {scope : List String}
    (hscope : d.sees words scope sourceAlias = true) :
    readJoins words d scope (links.map (writtenClause sourceAlias)) = some (links.map (declaredJoin sourceAlias)) := by
  induction links generalizing scope with
  | nil => rfl
  | cons e links ih =>
    have he := h e List.mem_cons_self
    have hpairs := readPairs_written he hscope
    have hrest := ih (fun e' he' => h e' (List.mem_cons_of_mem _ he'))
      (Dialect.sees_cons hscope (JoinWalker.targetAlias e.join))
    have htype : readJoinType d (writtenClause sourceAlias e).joinType = some e.join.joinType := readJoinType_sqlKeyword he.known
    rw [List.map_cons, readJoins, htype]
    show (readPairs words d (JoinWalker.targetAlias e.join :: scope) _).bind _ = _
    rw [hpairs]
    show (readJoins words d (JoinWalker.targetAlias e.join :: scope) _).bind _ = _
    rw [hrest]
    rfl

end

/-! ## The rows of its joins -/

section

variable {κ : Type} {null : κ} {equal : κ → κ → Bool} {content : Content κ} {sourceAlias : String}

theorem cell_update_self (env : ScopeRow κ) (a : String) (row : TableRow κ) (column : String) :
    ScopeRow.cell null (Function.update env a (some row)) (a, column) = row column := by
  rw [ScopeRow.cell, Function.update_self]
  rfl

theorem cell_update_of_ne (env : ScopeRow κ) {a owner : String} (h : owner ≠ a) (row : TableRow κ) (column : String) :
    ScopeRow.cell null (Function.update env a (some row)) (owner, column) = (env owner).getD (fun _ => null) column := by
  rw [ScopeRow.cell, Function.update_of_ne h]
  cases env owner <;> rfl

/-- A join from the source's side sees the source's row alone. -/
theorem chooses_declaredJoin {e : JoinEdge} (halias : JoinWalker.targetAlias e.join ≠ sourceAlias)
    (htype : e.join.joinType = .inner ∨ e.join.joinType = .left) (scope : List String) :
    ((declaredJoin sourceAlias e).step null equal scope).Chooses (fun env => (env sourceAlias).getD fun _ => null) (fun _ => null)
      (content.table e.join.model)
      fun row => (fun env r => Function.update env (JoinWalker.targetAlias e.join) (some r), e.partners null equal content row) := by
  have hkeep : ((declaredJoin sourceAlias e).step null equal scope).keepLeft = (e.join.joinType == .left) := by
    show (e.join.joinType == .left || e.join.joinType == .full) = _
    rcases htype with htype | htype <;> rw [htype] <;> rfl
  refine ⟨e.pairs equal, ⟨fun env r => ?_, fun env r => ?_, fun env => rfl, ?_⟩, fun row => ?_⟩
  · show ((e.declaredOn.map fun p => (_, _)).all fun p => equal _ _) = _
    rw [List.all_map, JoinEdge.pairs]
    refine congrArg (List.all _) (funext fun p => ?_)
    unfold JoinEdge.ends
    cases e.reverse
    · exact congrArg₂ equal (cell_update_of_ne env halias.symm r p.1) (cell_update_self env _ r p.2)
    · exact congrArg₂ equal (cell_update_self env _ r p.1) (cell_update_of_ne env halias.symm r p.2)
  · show (Function.update env (JoinWalker.targetAlias e.join) (some r) sourceAlias).getD _ = _
    rw [Function.update_of_ne halias.symm]
  · show (e.join.joinType == .right || e.join.joinType == .full) = false
    rcases htype with htype | htype <;> rw [htype] <;> rfl
  · rw [hkeep]
    rfl

theorem forall₂_joinSteps {links : List JoinEdge} (halias : ∀ e ∈ links, JoinWalker.targetAlias e.join ≠ sourceAlias)
    (htype : ∀ e ∈ links, e.join.joinType = .inner ∨ e.join.joinType = .left) (scope : List String) :
    List.Forall₂ (fun join choice => join.1.Chooses (fun env => (env sourceAlias).getD fun _ => null) (fun _ => null) join.2 choice)
      (joinSteps null equal content scope (links.map (declaredJoin sourceAlias)))
      (links.map fun e row => (fun env r => Function.update env (JoinWalker.targetAlias e.join) (some r), e.partners null equal content row)) := by
  induction links generalizing scope with
  | nil => exact .nil
  | cons e links ih =>
    refine .cons (chooses_declaredJoin (halias e List.mem_cons_self) (htype e List.mem_cons_self) scope) ?_
    exact ih (fun e' he' => halias e' (List.mem_cons_of_mem _ he')) (fun e' he' => htype e' (List.mem_cons_of_mem _ he')) _

/-- The order of the links does not matter to the rows. -/
theorem linkedRows_perm {links links' : List JoinEdge} (h : links.Perm links')
    (haliases : (links.map fun e => JoinWalker.targetAlias e.join).Nodup) (rows : List (TableRow κ)) :
    (linkedRows null equal content links sourceAlias rows).Perm (linkedRows null equal content links' sourceAlias rows) := by
  refine .flatMap_left _ fun row _ => Joined.combine_perm (h.map _) ?_ _
  rw [List.pairwise_map]
  refine (List.pairwise_map.1 haliases).imp fun hne env r r' => ?_
  exact Function.update_comm hne _ _ _

theorem length_linkedRows (links : List JoinEdge) (rows : List (TableRow κ)) :
    (linkedRows null equal content links sourceAlias rows).length =
      (rows.map fun row => (links.map fun e => (e.partners null equal content row).length).prod).sum := by
  rw [linkedRows, List.length_flatMap]
  refine congrArg List.sum (List.map_congr_left fun row _ => ?_)
  rw [Joined.length_combine, List.map_map]
  rfl

end

/-! ## A database that reads the joins -/

section

variable {words : Words} {d : Dialect}

/-- The columns a condition compares are of aliases in scope. -/
theorem readOn_of_readPairs {scope : List String} {t : SqlText} {on : List (Column × Column)} (h : readPairs words d scope t = some on) :
    readOn t = some (on.map fun p => ((p.1.owner, p.1.name), (p.2.owner, p.2.name))) ∧ ∀ p ∈ on, p.1.owner ∈ scope ∧ p.2.owner ∈ scope := by
  obtain ⟨pairs, hpairs, hmap⟩ := Option.bind_eq_some_iff.1 h
  rw [hpairs]
  clear h hpairs
  have hcolumn {owner name : String} {column : Column} (hread : readColumn words d scope true owner name = some column) :
      ⟨owner, name⟩ = column ∧ owner ∈ scope := by
    unfold readColumn at hread
    obtain ⟨⟨hsees, -⟩, hread⟩ := Option.ite_none_right_eq_some.1 hread
    rw [Dialect.sees, Bool.and_eq_true, Bool.and_eq_true, List.contains_iff_mem] at hsees
    exact ⟨Option.some.inj hread, hsees.1.2⟩
  have hall := Traverse.mapM_eq_some.1 hmap
  clear hmap
  induction hall with
  | nil => exact ⟨rfl, List.forall_mem_nil _⟩
  | cons hpair _ ih =>
    obtain ⟨left, hleft, hbind⟩ := Option.bind_eq_some_iff.1 hpair
    obtain ⟨right, hright, hpure⟩ := Option.bind_eq_some_iff.1 hbind
    obtain rfl := Option.some.inj hpure
    obtain ⟨rfl, hleftScope⟩ := hcolumn hleft
    obtain ⟨rfl, hrightScope⟩ := hcolumn hright
    refine ⟨?_, List.forall_mem_cons.2 ⟨⟨hleftScope, hrightScope⟩, ih.2⟩⟩
    exact congrArg some (congrArg (List.cons _) (Option.some.inj ih.1))

theorem sqlKeyword_of_read {keyword : String} {t : JoinType} (h : readJoinType d keyword = some t) : t.sqlKeyword = keyword := by
  have hfound := List.find?_some h
  rw [Bool.and_eq_true] at hfound
  exact beq_iff_eq.1 hfound.1

variable {κ ρ : Type} {db : Database κ ρ} {content : Content κ}

/-- A row has every alias in scope. -/
def ScopeRow.Covers (env : ScopeRow κ) (scope : List String) : Prop := ∀ a ∈ scope, (env a).isSome = true

theorem ScopeRow.Covers.update {env : ScopeRow κ} {scope : List String} (h : env.Covers scope) (a : String) (row : TableRow κ) :
    ScopeRow.Covers (Function.update env a (some row)) (a :: scope) := by
  intro b hb
  by_cases hba : b = a
  · rw [hba, Function.update_self]
    rfl
  · rw [Function.update_of_ne hba]
    exact h b ((List.mem_cons.1 hb).resolve_left hba)

/-- A join whose condition is read has the rows of what is read. -/
theorem step_rows_eq {scope : List String} {c : JoinClause} {t : JoinType} {on : List (Column × Column)}
    (htype : readJoinType d c.joinType = some t) (hon : readPairs words d (c.aliasName :: scope) c.on = some on) {rows : List (ScopeRow κ)}
    (hrows : ∀ env ∈ rows, env.Covers scope) (right : List (TableRow κ)) :
    (c.step db scope).rows rows right = (JoinExpr.step db.null db.equal scope ⟨t, c.table, c.aliasName, on⟩).rows rows right := by
  obtain ⟨hread, hscope⟩ := readOn_of_readPairs hon
  have hsame : c.step db scope =
      { JoinExpr.step db.null db.equal scope ⟨t, c.table, c.aliasName, on⟩ with meets := db.on c.on } := by
    unfold JoinClause.step JoinExpr.step
    rw [← sqlKeyword_of_read htype]
    cases t <;> rfl
  rw [hsame]
  refine Joined.rows_congr fun env henv r _ => ?_
  have hcovers := (hrows env henv).update c.aliasName r
  show db.on c.on (Function.update env c.aliasName (some r)) = on.all _
  rw [db.on_pairs c.on _ _ hread, List.all_map]
  · rfl
  · intro p hp
    obtain ⟨q, hq, rfl⟩ := List.mem_map.1 hp
    exact ⟨hcovers _ (hscope q hq).1, hcovers _ (hscope q hq).2⟩

theorem joinAll_eq {joins : List JoinClause} {scope : List String} {read : List JoinExpr} (h : readJoins words d scope joins = some read)
    {rows : List (ScopeRow κ)} (hrows : ∀ env ∈ rows, env.Covers scope) :
    joinAll db content scope rows joins = Joined.inTurn rows (joinSteps db.null db.equal content scope read) := by
  induction joins generalizing scope rows read with
  | nil =>
    obtain rfl := Option.some.inj h
    rfl
  | cons c cs ih =>
    obtain ⟨t, htype, hbind⟩ := Option.bind_eq_some_iff.1 h
    obtain ⟨on, hon, hbind⟩ := Option.bind_eq_some_iff.1 hbind
    obtain ⟨rest, hrest, hpure⟩ := Option.bind_eq_some_iff.1 hbind
    obtain rfl := Option.some.inj hpure
    show joinAll db content (c.aliasName :: scope) _ cs = Joined.inTurn _ (joinSteps db.null db.equal content (c.aliasName :: scope) rest)
    rw [step_rows_eq htype hon hrows]
    refine ih hrest fun env henv => ?_
    rcases Joined.mem_rows henv with ⟨left, hleft, r, -, rfl⟩ | ⟨left, hleft, rfl⟩ | ⟨r, -, rfl⟩
    · exact (hrows left hleft).update c.aliasName r
    · exact (hrows left hleft).update c.aliasName _
    · refine ScopeRow.Covers.update (fun a ha => ?_) c.aliasName r
      rw [if_pos ha]
      rfl

/-- **What is read of a FROM clause** is what any database joins. -/
theorem fromRows_eq {plan : LogicalPlan} {f : FromExpr} (h : FromExpr.read words d plan = some f) :
    fromRows db content plan = f.rows db.null db.equal content := by
  unfold FromExpr.read at h
  split_ifs at h
  obtain ⟨joins, hjoins, rfl⟩ := Option.map_eq_some_iff.1 h
  have hsource : sourceRows content plan = (FromExpr.sourceRows content ⟨plan.sourceTable, plan.sourceIsSql, plan.sourceAlias, joins⟩).map
      (ScopeRow.only plan.sourceAlias) := rfl
  rw [fromRows, hsource]
  refine joinAll_eq hjoins fun env henv => ?_
  obtain ⟨row, -, rfl⟩ := List.mem_map.1 henv
  intro a ha
  rw [List.mem_singleton.1 ha, ScopeRow.only, Function.update_self]
  rfl

end

namespace SqlGenerator

/-- What lets a database read a statement's joins as they are declared: aliases of their own, readable links, and
joins that keep no row but the source's. -/
structure Linkable (words : Words) (g : SqlGenerator) (m : Model) (sourceAlias : String) : Prop where
  tables : g.HasTables m sourceAlias
  readable : ∀ e ∈ statementLinks g.modelRegistry.items m, e.Readable words (g.dialectFor m.name) sourceAlias
  joinTypes : ∀ e ∈ statementLinks g.modelRegistry.items m, e.join.joinType = .inner ∨ e.join.joinType = .left

section

variable {words : Words} {g : SqlGenerator} {query : Query} {out : GeneratedSql} {m : Model} {sourceAlias : String} {plan : LogicalPlan}

/-- The FROM clause of a statement, read. -/
def statementFrom (g : SqlGenerator) (m : Model) (sourceAlias : String) : FromExpr where
  source := (sourceOverride (some m)).getD m.name
  sourceIsSql := (sourceOverride (some m)).isSome
  aliasName := sourceAlias
  joins := (statementLinks g.modelRegistry.items m).map (declaredJoin sourceAlias)

theorem read_from (h : g.Statement query out m sourceAlias plan) (hl : Linkable words g m sourceAlias) :
    FromExpr.read words (g.dialectFor m.name) plan = some (g.statementFrom m sourceAlias) := by
  have hfrom : (g.dialectFor m.name).HasFrom plan := hl.tables.hasFrom h
  have hjoins : readJoins words (g.dialectFor m.name) [sourceAlias] plan.joins =
      some ((statementLinks g.modelRegistry.items m).map (declaredJoin sourceAlias)) := by
    rw [h.joins_eq]
    cases hlinks : statementLinks g.modelRegistry.items m with
    | nil => rfl
    | cons e links =>
      have hreadable := hlinks ▸ hl.readable
      exact readJoins_written hreadable (Dialect.sees_head (hreadable e List.mem_cons_self).source [])
  obtain ⟨items, clause, joins, -, -, -, rfl⟩ := h.parts
  rw [FromExpr.read, if_pos hfrom]
  exact congrArg (Option.map _) hjoins

end

namespace LinkedOrders

def toItems : Join := ⟨"items", "items", .left, [("id", "order_id"), ("region", "region")], none⟩

def toCustomer : Join := ⟨"customer", "customers", .inner, [("customer_id", "id")], some "buyer"⟩

def orders : Model where
  name := "orders"
  datasource := "warehouse"
  dimensions := [⟨"status", none⟩]
  joins := [toItems, toCustomer]

def items : Model := { name := "items", datasource := "warehouse" }

def customers : Model := { name := "customers", datasource := "warehouse" }

def generator : SqlGenerator := (new .postgres ⟨fun _ => false, fun _ => false⟩).withModels [orders, items, customers]

def byStatus : Query := { name := some "orders", dimensions := [⟨"status", none⟩] }

def words : Words := ⟨NamedJoin.unquoted, fun _ _ => false, fun _ => false⟩

end LinkedOrders

end SqlGenerator

end GraphNight
