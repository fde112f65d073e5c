import GraphNight.Lib.Predicate
import GraphNight.Sql.Names
import GraphNight.Sql.QuotedTokens
import GraphNight.Sql.WhereClause

/-!
# What the comparisons of a WHERE clause say

A comparison is read by the dialect's grammar: a column, one operator the dialect has,
the operands it takes. A name spliced as it stands is a name where the database reads that text
as one identifier, a quoted one where it has such names; a bound value is an operand, and a
displayed one where it is one literal. What is read is compared with the meaning of the
filter it was written for, on every row of every database.
-/

namespace GraphNight

open SqlText

/-! ## The meaning of a filter -/

/-- A geometry, given as text. -/
inductive Geometry where
  | wkt (text : String)
  | geoJson (text : String)
deriving DecidableEq, Repr

/-- `CAST(v AS VARCHAR)`. -/
def Value.asVarchar : Value → String
  | .string s => s
  | v => v.toJson

/-- The geometry a value stands for: a string is WKT, an object is GeoJSON. -/
def Value.geometry : Value → Geometry
  | .string s => .wkt s
  | v => .geoJson v.toJson

/-- The value can be a geometry. -/
def Value.isGeometry : Value → Bool
  | .string _ | .object _ => true
  | _ => false

/-- What a filter asks of the cell of its field. -/
def Filter.meaning {κ : Type} (db : Cells κ Value Geometry) (cell : κ) (f : Filter) : Truth :=
  match f.operator with
  | .eq => Truth.ofFact ((db.compare cell f.value).map fun o => decide (o = .eq))
  | .neq => Truth.ofFact ((db.compare cell f.value).map fun o => decide (o ≠ .eq))
  | .gt => Truth.ofFact ((db.compare cell f.value).map fun o => decide (o = .gt))
  | .gte => Truth.ofFact ((db.compare cell f.value).map fun o => decide (o ≠ .lt))
  | .lt => Truth.ofFact ((db.compare cell f.value).map fun o => decide (o = .lt))
  | .lte => Truth.ofFact ((db.compare cell f.value).map fun o => decide (o ≠ .gt))
  | .like => Truth.ofFact (db.like cell f.value)
  | .iLike => Truth.ofFact (db.likeAnyCase cell f.value)
  | .in => Truth.any (f.operands.map fun v => Truth.ofFact ((db.compare cell v).map fun o => decide (o = .eq)))
  | .notIn => Truth.all (f.operands.map fun v => Truth.ofFact ((db.compare cell v).map fun o => decide (o ≠ .eq)))
  | .isNull => if db.isNull cell then .yes else .no
  | .isNotNull => if db.isNull cell then .no else .yes
  | .between =>
    match f.operands with
    | [low, high] =>
      (Truth.ofFact ((db.compare cell low).map fun o => decide (o ≠ .lt))).and
        (Truth.ofFact ((db.compare cell high).map fun o => decide (o ≠ .gt)))
    | _ => .unknown
  | .notBetween =>
    match f.operands with
    | [low, high] =>
      (Truth.ofFact ((db.compare cell low).map fun o => decide (o = .lt))).or
        (Truth.ofFact ((db.compare cell high).map fun o => decide (o = .gt)))
    | _ => .unknown
  | .intersects => Truth.ofFact (db.relate .intersects cell f.value.geometry)
  | .within => Truth.ofFact (db.relate .within cell f.value.geometry)
  | .contains => Truth.ofFact (db.relate .contains cell f.value.geometry)

/-! ## Reading a comparison -/

inductive Token where
  | word (text : String)
  | symbol (c : Char)
  | name (n : String)
  | value (v : Value)
  /-- A piece no comparison has. -/
  | other (f : Frag)
deriving DecidableEq, Repr

/-- The word that ends here, read backwards. -/
def endWord (cur : List Char) : List Token := if cur.isEmpty then [] else [.word (String.ofList cur.reverse)]

/-- The tokens of a text of which `cur` has been read. -/
def codeTokens : List Char → List Char → List Token
  | cur, [] => endWord cur
  | cur, c :: cs =>
    if c = ' ' then endWord cur ++ codeTokens [] cs
    else if c ∈ ['(', ')', ',', '.'] then endWord cur ++ .symbol c :: codeTokens [] cs
    else codeTokens (c :: cur) cs

mutual

/-- What is displayed for a value is one operand: only MySQL takes a NUL between quotes, Postgres no list
without items, and SQLite no list in a condition, since the function written for one is an aggregate. -/
def Dialect.displays (d : Dialect) : Value → Bool
  | .string s => !s.toList.contains '\x00' || d == .mySql
  | .object fields => !(Value.object fields).toJson.toList.contains '\x00' || d == .mySql
  | .array items => d != .sqlite && !(d == .postgres && items.isEmpty) && d.displaysAll items
  | _ => true

def Dialect.displaysAll (d : Dialect) : List Value → Bool
  | [] => true
  | v :: vs => d.displays v && d.displaysAll vs

end

/-- A value that is written for an operand is read as one. A placeholder always is. -/
def Dialect.readsOperand (d : Dialect) (mode : ValueMode) (v : Value) : Bool :=
  match mode with
  | .placeholder => true
  | .literal => d.displays v

section

-- the texts the database reads as one identifier when nothing quotes them
variable (unquoted : String → Bool) (d : Dialect) (mode : ValueMode)

def fragTokens : Frag → List Token
  | .code text => codeTokens [] text.toList
  | .raw n => [if unquoted n then .name n else .other (.raw n)]
  | .ident n => [if d.HasName n then .name n else .other (.ident n)]
  | .value v => [if d.readsOperand mode v then .value v else .other (.value v)]
  | f => [.other f]

def textTokens (t : SqlText) : List Token := t.flatMap (fragTokens unquoted d mode)

end

/-- A column of a row: its table's alias, and its name. -/
structure Column where
  owner : String
  name : String
deriving DecidableEq, Repr

/-- The dialect has ILIKE. -/
def Dialect.hasILike : Dialect → Bool
  | postgres | duckDb => true
  | mySql | sqlite => false

/-- The dialect has the spatial functions. -/
def Dialect.hasSpatial : Dialect → Bool
  | postgres | duckDb => true
  | mySql | sqlite => false

def readRelation (op : String) : Option Relation :=
  [("=", Relation.eq), ("!=", .ne), ("<", .lt), ("<=", .le), (">", .gt), (">=", .ge)].lookup op

def readSpatialRelation (fn : String) : Option SpatialRelation :=
  [("ST_Intersects", SpatialRelation.intersects), ("ST_Within", .within), ("ST_Contains", .contains)].lookup fn

def readGeometry (ctor : String) (v : Value) : Option Geometry :=
  if ctor = "ST_GeomFromText" then some (.wkt v.asVarchar)
  else if ctor = "ST_GeomFromGeoJSON" then some (.geoJson v.asVarchar)
  else none

/-- A list of values, up to the parenthesis that ends the comparison. -/
def readMembers : List Token → Option (List Value)
  | [.value v, .symbol ')'] => some [v]
  | .value v :: .symbol ',' :: rest => (readMembers rest).map (v :: ·)
  | _ => none

/-- An operator between a column and a value. -/
def readInfix (d : Dialect) (column : Column) (op : String) (v : Value) : Option (Predicate Column Value Geometry) :=
  if op = "LIKE" then some (.like false column v)
  else if op = "ILIKE" then if d.hasILike then some (.like true column v) else none
  else (readRelation op).map fun r => .compare r column v

/-- What stands behind the column of a comparison. -/
def readBehind (d : Dialect) (column : Column) : List Token → Option (Predicate Column Value Geometry)
  | [.word op, .value v] => readInfix d column op v
  | [.word "IS", .word "NULL"] => some (.null false column)
  | [.word "IS", .word "NOT", .word "NULL"] => some (.null true column)
  | [.word "BETWEEN", .value low, .word "AND", .value high] => some (.range false column low high)
  | [.word "NOT", .word "BETWEEN", .value low, .word "AND", .value high] => some (.range true column low high)
  | .word "IN" :: .symbol '(' :: rest => (readMembers rest).map (.member false column)
  | .word "NOT" :: .word "IN" :: .symbol '(' :: rest => (readMembers rest).map (.member true column)
  | _ => none

/-- Read a comparison whole. -/
def readPredicate (d : Dialect) : List Token → Option (Predicate Column Value Geometry)
  | .name owner :: .symbol '.' :: .name n :: rest => readBehind d ⟨owner, n⟩ rest
  | [.word fn, .symbol '(', .name owner, .symbol '.', .name n, .symbol ',', .word ctor, .symbol '(',
      .word "CAST", .symbol '(', .value v, .word "AS", .word "VARCHAR", .symbol ')', .symbol ')', .symbol ')'] =>
    if d.hasSpatial then
      (readSpatialRelation fn).bind fun r => (readGeometry ctor v).map fun g => .spatial r ⟨owner, n⟩ g
    else none
  | _ => none

namespace SqlGenerator

variable (unquoted : String → Bool) (g : SqlGenerator) (d : Dialect) (sourceAlias baseModelName : String) (mode : ValueMode)

/-- A comparison is of the dialect's grammar and true of a row as the filter is. -/
def Says (f : Filter) (t : SqlText) : Prop :=
  ∃ owner name p, g.resolveField baseModelName f.field sourceAlias = some (owner, name) ∧
    readPredicate d (textTokens unquoted d mode t) = some p ∧
    ∀ (κ : Type) (db : Cells κ Value Geometry) (row : Column → κ), p.eval db row = f.meaning db (row ⟨owner, name⟩)

/-- The comparisons of a clause, its parameters bound. -/
def clauseComparisons (params : List Value) : Option SqlText → List SqlText
  | none => []
  | some t =>
    let c := readCondition (bindParams params t)
    c.first :: c.rest.map (·.2)

/-- The WHERE clause of a query is refused, or says what its filters mean, one comparison each. -/
def SaysFilters (query : Query) : Prop :=
  match g.buildWhereClause query d sourceAlias baseModelName mode with
  | .ok (params, clause) => List.Forall₂ (Says unquoted g d sourceAlias baseModelName mode) query.filters (clauseComparisons params clause)
  | .error fault => fault ≠ .panic

end SqlGenerator

/-! ## The filters that are rendered -/

/-- The filter is answered with an error. -/
def Refused (d : Dialect) (f : Filter) : Prop :=
  (f.operator.spatialFunction ≠ none ∧ ¬(f.value.isGeometry = true ∧ d.hasSpatial = true)) ∨
    ((f.operator = .in ∨ f.operator = .notIn ∨ f.operator.needsTwoValues = true) ∧ f.value.asArray = none)

/-- The filter is a range with fewer than two values. -/
def OutOfRange (f : Filter) : Prop :=
  f.operator.needsTwoValues = true ∧ ∃ vs, f.value.asArray = some vs ∧ vs.length < 2

/-- The filter has a condition in the dialect, and it is the one written. -/
structure Expressible (d : Dialect) (f : Filter) : Prop where
  column : f.field ≠ "*"
  iLike : f.operator = .iLike → d.hasILike = true
  members : f.operator = .in ∨ f.operator = .notIn → ∃ v vs, f.value = .array (v :: vs)
  notRange : f.operator.needsTwoValues = false
  spatial : f.operator.spatialFunction ≠ none → f.value.isGeometry = true ∧ d.hasSpatial = true

/-- The names and the values of a filter's comparison are read as such. -/
structure PiecesRead (unquoted : String → Bool) (d : Dialect) (mode : ValueMode) (column : Column) (f : Filter) : Prop where
  owner : unquoted column.owner = true
  name : d.HasName column.name
  operands : ∀ v ∈ f.operands, d.readsOperand mode v = true

namespace SqlGenerator

variable (unquoted : String → Bool) (g : SqlGenerator) (d : Dialect) (sourceAlias baseModelName : String) (mode : ValueMode)

/-- The filter is expressible, and the column it resolves to and its values are read. -/
structure Sayable (f : Filter) : Prop where
  expressible : Expressible d f
  read : ∀ owner name, g.resolveField baseModelName f.field sourceAlias = some (owner, name) → PiecesRead unquoted d mode ⟨owner, name⟩ f

/-- Every filter is sayable, or one is refused before a range is read out of bounds. -/
def FiltersSayable (filters : List Filter) : Prop :=
  (∀ f ∈ filters, Sayable unquoted g d sourceAlias baseModelName mode f) ∨
    ∃ past f later, filters = past ++ f :: later ∧ Refused d f ∧ ∀ f' ∈ past, ¬OutOfRange f'

end SqlGenerator

/-! ## What a built comparison is read as -/

section

variable {unquoted : String → Bool} {d : Dialect} {mode : ValueMode}

@[simp] theorem textTokens_append (t u : SqlText) :
    textTokens unquoted d mode (t ++ u) = textTokens unquoted d mode t ++ textTokens unquoted d mode u :=
  List.flatMap_append

theorem textTokens_code (text : String) : textTokens unquoted d mode (code text) = codeTokens [] text.toList :=
  List.append_nil _

theorem textTokens_value {v : Value} (h : d.readsOperand mode v = true) : textTokens unquoted d mode (operandText v) = [.value v] := by
  show [if d.readsOperand mode v then Token.value v else .other (.value v)] ++ [] = _
  rw [if_pos h]
  rfl

theorem textTokens_qualified {owner name : String} (howner : unquoted owner = true) (hname : d.HasName name) :
    textTokens unquoted d mode (qualified owner name) = [.name owner, .symbol '.', .name name] := by
  have hdot : codeTokens [] ".".toList = [.symbol '.'] := by decide
  rw [qualified, textTokens_append, textTokens_append, textTokens_code, hdot]
  show [if unquoted owner then Token.name owner else _] ++ [] ++ [_] ++ ([if d.HasName name then Token.name name else _] ++ []) = _
  rw [if_pos howner, if_pos hname]
  rfl

/-- The words of an operator that takes operands, and the parenthesis of a list. -/
theorem tokens_operator (op : FilterOperator) :
    codeTokens [] (" " ++ op.sqlOperator.getD "" ++ " BETWEEN ").toList =
        codeTokens [] (op.sqlOperator.getD "").toList ++ [.word "BETWEEN"] ∧
      codeTokens [] (" " ++ op.sqlOperator.getD "" ++ " (").toList =
        codeTokens [] (op.sqlOperator.getD "").toList ++ [.symbol '('] ∧
      codeTokens [] (" " ++ op.sqlOperator.getD "" ++ " ").toList = codeTokens [] (op.sqlOperator.getD "").toList ∧
      codeTokens [] (" " ++ op.sqlOperator.getD "").toList = codeTokens [] (op.sqlOperator.getD "").toList := by
  cases op <;> decide +kernel

/-- A list of operands is read back, unless it is empty. -/
theorem readMembers_join {v : Value} {vs : List Value} (h : ∀ v' ∈ v :: vs, d.readsOperand mode v' = true) :
    readMembers (textTokens unquoted d mode (join ", " ((v :: vs).map operandText)) ++ [.symbol ')']) = some (v :: vs) := by
  have hcomma : codeTokens [] ", ".toList = [.symbol ','] := by decide
  obtain ⟨hv, hvs⟩ := List.forall_mem_cons.1 h
  induction vs generalizing v with
  | nil =>
    show readMembers (textTokens unquoted d mode (operandText v) ++ [.symbol ')']) = _
    rw [textTokens_value hv]
    rfl
  | cons w vs ih =>
    have hjoin : join ", " ((v :: w :: vs).map operandText) =
        operandText v ++ code ", " ++ join ", " ((w :: vs).map operandText) := rfl
    obtain ⟨hw, hrest⟩ := List.forall_mem_cons.1 hvs
    rw [hjoin, textTokens_append, textTokens_append, textTokens_code, hcomma, textTokens_value hv]
    show (readMembers (textTokens unquoted d mode (join ", " ((w :: vs).map operandText)) ++ [.symbol ')'])).map (v :: ·) = _
    rw [ih hvs hw hrest]
    rfl

end

/-- The predicate a filter's comparison is read as. -/
def Filter.read (d : Dialect) (column : Column) (f : Filter) : Option (Predicate Column Value Geometry) :=
  match f.operator with
  | .eq => some (.compare .eq column f.value)
  | .neq => some (.compare .ne column f.value)
  | .gt => some (.compare .gt column f.value)
  | .gte => some (.compare .ge column f.value)
  | .lt => some (.compare .lt column f.value)
  | .lte => some (.compare .le column f.value)
  | .like => some (.like false column f.value)
  | .iLike => if d.hasILike then some (.like true column f.value) else none
  | .in => if f.operands = [] then none else some (.member false column f.operands)
  | .notIn => if f.operands = [] then none else some (.member true column f.operands)
  | .isNull => some (.null false column)
  | .isNotNull => some (.null true column)
  -- written with two keywords
  | .between | .notBetween => none
  | .intersects => if d.hasSpatial then some (.spatial .intersects column f.value.geometry) else none
  | .within => if d.hasSpatial then some (.spatial .within column f.value.geometry) else none
  | .contains => if d.hasSpatial then some (.spatial .contains column f.value.geometry) else none

/-- A read comparison means what its filter does. -/
theorem eval_read {d : Dialect} {column : Column} {f : Filter} {p : Predicate Column Value Geometry}
    (h : f.read d column = some p) {κ : Type} (db : Cells κ Value Geometry) (row : Column → κ) :
    p.eval db row = f.meaning db (row column) := by
  have hfact : ∀ (r : Relation) (q : Ordering → Bool), (∀ o, r.holds o = q o) → ∀ cell v,
      db.relates r cell v = Truth.ofFact ((db.compare cell v).map q) := by
    intro r q hq cell v
    rw [Cells.relates, funext hq]
  have hnull : ∀ b : Bool, Truth.ofFact (some b) = if b then .yes else .no := by decide
  unfold Filter.read at h
  unfold Filter.meaning
  cases hop : f.operator <;> simp only [hop] at h ⊢
  case eq => obtain rfl := Option.some.inj h; exact hfact .eq _ (by decide) _ _
  case neq => obtain rfl := Option.some.inj h; exact hfact .ne _ (by decide) _ _
  case gt => obtain rfl := Option.some.inj h; exact hfact .gt _ (by decide) _ _
  case gte => obtain rfl := Option.some.inj h; exact hfact .ge _ (by decide) _ _
  case lt => obtain rfl := Option.some.inj h; exact hfact .lt _ (by decide) _ _
  case lte => obtain rfl := Option.some.inj h; exact hfact .le _ (by decide) _ _
  case like => obtain rfl := Option.some.inj h; rfl
  case iLike =>
    obtain ⟨-, h⟩ := Option.ite_none_right_eq_some.1 h
    obtain rfl := Option.some.inj h
    rfl
  case «in» =>
    obtain ⟨-, h⟩ := Option.ite_none_left_eq_some.1 h
    obtain rfl := Option.some.inj h
    exact congrArg Truth.any (List.map_congr_left fun v _ => hfact .eq _ (by decide) (row column) v)
  case notIn =>
    obtain ⟨-, h⟩ := Option.ite_none_left_eq_some.1 h
    obtain rfl := Option.some.inj h
    rw [Predicate.eval_not_member]
    exact congrArg Truth.all (List.map_congr_left fun v _ => hfact .ne _ (by decide) (row column) v)
  case isNull =>
    obtain rfl := Option.some.inj h
    exact hnull _
  case isNotNull =>
    obtain rfl := Option.some.inj h
    show (Truth.ofFact (some (db.isNull (row column)))).not = _
    cases db.isNull (row column) <;> rfl
  case between => cases h
  case notBetween => cases h
  all_goals
    obtain ⟨-, h⟩ := Option.ite_none_right_eq_some.1 h
    obtain rfl := Option.some.inj h
    rfl

theorem readPredicate_column (d : Dialect) (owner name : String) (rest : List Token) :
    readPredicate d ([.name owner, .symbol '.', .name name] ++ rest) = readBehind d ⟨owner, name⟩ rest := rfl

section

variable {unquoted : String → Bool} {d : Dialect} {mode : ValueMode} {f : Filter} {column : Column}

/-- A membership list. -/
theorem read_members (hread : PiecesRead unquoted d mode column f) (h : f.operator = .in ∨ f.operator = .notIn) :
    readPredicate d (textTokens unquoted d mode (predicate d (qualified column.owner column.name) f)) = f.read d column := by
  obtain ⟨-, hopen, -, -⟩ := tokens_operator f.operator
  have hclose : codeTokens [] ")".toList = [.symbol ')'] := by decide
  have hs : f.operator.spatialFunction = none := by rcases h with h | h <;> rw [h] <;> rfl
  unfold predicate comparison
  simp only [hs, if_pos h, textTokens_append, textTokens_qualified hread.owner hread.name, textTokens_code, hopen, hclose,
    List.append_assoc, readPredicate_column]
  have hmembers : readMembers (textTokens unquoted d mode (join ", " (f.operands.map operandText)) ++ [.symbol ')']) =
      if f.operands = [] then none else some f.operands := by
    have hoperands := hread.operands
    cases hvalues : f.operands with
    | nil => rfl
    | cons v vs =>
      rw [hvalues] at hoperands
      rw [readMembers_join hoperands, if_neg (List.cons_ne_nil v vs)]
  unfold Filter.read
  rcases h with hop | hop
  · have hword : codeTokens [] (f.operator.sqlOperator.getD "").toList = [.word "IN"] := by rw [hop]; decide
    rw [hword, hop]
    show (readMembers (textTokens unquoted d mode (join ", " (f.operands.map operandText)) ++ [.symbol ')'])).map _ = _
    rw [hmembers]
    split_ifs <;> rfl
  · have hwords : codeTokens [] (f.operator.sqlOperator.getD "").toList = [.word "NOT", .word "IN"] := by
      rw [hop]; decide
    rw [hwords, hop]
    show (readMembers (textTokens unquoted d mode (join ", " (f.operands.map operandText)) ++ [.symbol ')'])).map _ = _
    rw [hmembers]
    split_ifs <;> rfl

/-- A range is written with its keyword twice, and is not read. -/
theorem read_range (hread : PiecesRead unquoted d mode column f) (h : f.operator.needsTwoValues = true)
    (hoperands : f.operands.length = 2) :
    readPredicate d (textTokens unquoted d mode (predicate d (qualified column.owner column.name) f)) = f.read d column := by
  obtain ⟨hbetween, -, -, -⟩ := tokens_operator f.operator
  have hand : codeTokens [] " AND ".toList = [.word "AND"] := by decide
  obtain ⟨low, high, hpair⟩ := List.length_eq_two.1 hoperands
  have hvalues := hread.operands
  rw [hpair] at hvalues
  obtain ⟨hlow, hhigh⟩ := List.forall_mem_cons.1 hvalues
  have hhigh := hhigh high List.mem_cons_self
  have hop : f.operator = .between ∨ f.operator = .notBetween := by
    revert h
    cases f.operator <;> decide
  have hs : f.operator.spatialFunction = none := by rcases hop with h | h <;> rw [h] <;> rfl
  have hin : ¬(f.operator = .in ∨ f.operator = .notIn) := by rcases hop with h | h <;> rw [h] <;> decide
  unfold predicate comparison Filter.read
  simp only [hs, if_neg hin, if_pos h, textTokens_append, textTokens_qualified hread.owner hread.name, textTokens_code, hbetween, hand,
    List.append_assoc, readPredicate_column, hpair, List.map_cons, List.map_nil, List.getD_cons_zero, List.getD_cons_succ,
    textTokens_value hlow, textTokens_value hhigh]
  rcases hop with hop | hop
  · have hword : codeTokens [] (f.operator.sqlOperator.getD "").toList = [.word "BETWEEN"] := by rw [hop]; decide
    rw [hword, hop]
    rfl
  · have hwords : codeTokens [] (f.operator.sqlOperator.getD "").toList = [.word "NOT", .word "BETWEEN"] := by
      rw [hop]; decide
    rw [hwords, hop]
    rfl

/-- An operator between a column and one value. -/
theorem read_comparison (hread : PiecesRead unquoted d mode column f) (hs : f.operator.spatialFunction = none)
    (hin : ¬(f.operator = .in ∨ f.operator = .notIn)) (htwo : ¬f.operator.needsTwoValues = true)
    (h : f.operator.needsValue = true) :
    readPredicate d (textTokens unquoted d mode (predicate d (qualified column.owner column.name) f)) = f.read d column := by
  obtain ⟨-, -, hone, -⟩ := tokens_operator f.operator
  have hvalue : f.operands = [f.value] := by rw [Filter.operands, if_neg hin, if_neg htwo, if_pos h]
  have hoperand : d.readsOperand mode f.value = true := hread.operands f.value (by rw [hvalue]; exact List.mem_cons_self)
  have hword : codeTokens [] (f.operator.sqlOperator.getD "").toList = [.word (f.operator.sqlOperator.getD "")] := by
    revert hs hin htwo h
    cases f.operator <;> decide +kernel
  unfold predicate comparison
  simp only [hs, if_neg hin, if_neg htwo, if_pos h, textTokens_append, textTokens_qualified hread.owner hread.name, textTokens_code, hone,
    hword, List.append_assoc, readPredicate_column, hvalue, List.map_cons, List.map_nil, List.getD_cons_zero, textTokens_value hoperand]
  show readInfix d column (f.operator.sqlOperator.getD "") f.value = _
  unfold Filter.read
  cases hop : f.operator <;> first | rfl | skip
  all_goals simp [hop, FilterOperator.needsTwoValues, FilterOperator.needsValue, FilterOperator.isValueless,
    FilterOperator.spatialFunction] at hs hin htwo h

/-- A null test. -/
theorem read_null (hread : PiecesRead unquoted d mode column f) (h : ¬f.operator.needsValue = true) :
    readPredicate d (textTokens unquoted d mode (predicate d (qualified column.owner column.name) f)) = f.read d column := by
  obtain ⟨-, -, -, hno⟩ := tokens_operator f.operator
  have hop : f.operator = .isNull ∨ f.operator = .isNotNull := by
    revert h
    cases f.operator <;> decide
  have hs : f.operator.spatialFunction = none := by rcases hop with h | h <;> rw [h] <;> rfl
  have hin : ¬(f.operator = .in ∨ f.operator = .notIn) := by rcases hop with h | h <;> rw [h] <;> decide
  have htwo : ¬f.operator.needsTwoValues = true := by rcases hop with h | h <;> rw [h] <;> decide
  unfold predicate comparison Filter.read
  simp only [hs, if_neg hin, if_neg htwo, if_neg h, textTokens_append, textTokens_qualified hread.owner hread.name, textTokens_code, hno,
    readPredicate_column]
  rcases hop with hop | hop
  · have hwords : codeTokens [] (f.operator.sqlOperator.getD "").toList = [.word "IS", .word "NULL"] := by
      rw [hop]; decide
    rw [hwords, hop]
    rfl
  · have hwords : codeTokens [] (f.operator.sqlOperator.getD "").toList = [.word "IS", .word "NOT", .word "NULL"] := by
      rw [hop]; decide
    rw [hwords, hop]
    rfl

/-- A spatial predicate, on a geometry the dialect can build. -/
theorem read_spatial (hread : PiecesRead unquoted d mode column f) (h : f.operator.spatialFunction ≠ none)
    (hd : d.hasSpatial = true) :
    readPredicate d (textTokens unquoted d mode (predicate d (qualified column.owner column.name) f)) = f.read d column := by
  have hcomma : codeTokens [] ", ".toList = [.symbol ','] := by decide
  have hclose : codeTokens [] ")".toList = [.symbol ')'] := by decide
  have hcast : codeTokens [] " AS VARCHAR))".toList = [.word "AS", .word "VARCHAR", .symbol ')', .symbol ')'] := by decide
  have hctor : ∀ wkt, d.spatialGeometry (operandText f.value) wkt = some (ogcGeometryCtor (operandText f.value) wkt) := by
    intro wkt
    cases d <;> first | rfl | cases hd
  have htokens : ∀ fn, f.operator.spatialFunction = some fn →
      codeTokens [] (fn ++ "(").toList = [.word fn, .symbol '('] := by
    intro fn
    cases f.operator <;> rintro ⟨⟩ <;> decide +kernel
  have hopen : ∀ wkt : Bool, codeTokens [] ((if wkt then "ST_GeomFromText" else "ST_GeomFromGeoJSON") ++ "(CAST(").toList =
      [.word (if wkt then "ST_GeomFromText" else "ST_GeomFromGeoJSON"), .symbol '(', .word "CAST", .symbol '('] := by
    decide +kernel
  have hgeometry : readGeometry (if f.value.asStr.isSome then "ST_GeomFromText" else "ST_GeomFromGeoJSON") f.value =
      some f.value.geometry := by
    cases f.value <;> rfl
  obtain ⟨fn, hfn⟩ := Option.ne_none_iff_exists'.1 h
  have hrelation : (readSpatialRelation fn).map (fun r => Predicate.spatial r column f.value.geometry) = f.read d column := by
    unfold Filter.read
    revert hfn
    cases f.operator <;> rintro ⟨⟩ <;> rw [hd] <;> rfl
  have hoperands := operands_spatial h
  have hoperand : d.readsOperand mode f.value = true := hread.operands f.value (by rw [hoperands]; exact List.mem_cons_self)
  unfold predicate comparison
  rw [hoperands]
  simp only [hfn, List.map_cons, List.map_nil, List.getD_cons_zero, hctor, Option.getD_some, ogcGeometryCtor,
    textTokens_append, textTokens_qualified hread.owner hread.name, textTokens_value hoperand, textTokens_code, htokens fn hfn, hcomma,
    hclose, hcast, hopen]
  show (if d.hasSpatial then (readSpatialRelation fn).bind fun r => (readGeometry _ f.value).map _ else none) = _
  rw [if_pos hd, hgeometry, ← hrelation]
  cases readSpatialRelation fn <;> rfl

/-- **What a comparison is read as**, where its filter is answered with one and its pieces are read. -/
theorem read_predicate (hread : PiecesRead unquoted d mode column f) (hrefused : ¬Refused d f) (hrange : ¬OutOfRange f) :
    readPredicate d (textTokens unquoted d mode (predicate d (qualified column.owner column.name) f)) = f.read d column := by
  by_cases hs : f.operator.spatialFunction = none
  · by_cases hin : f.operator = .in ∨ f.operator = .notIn
    · exact read_members hread hin
    by_cases htwo : f.operator.needsTwoValues = true
    · refine read_range hread htwo ?_
      cases hvalue : f.value.asArray with
      | none => exact absurd (.inr ⟨.inr (.inr htwo), hvalue⟩) hrefused
      | some vs =>
        have hlength : ¬vs.length < 2 := fun h => hrange ⟨htwo, vs, hvalue, h⟩
        rw [Filter.operands, if_neg hin, if_pos htwo, hvalue, Option.getD_some, List.length_take]
        omega
    by_cases hone : f.operator.needsValue = true
    · exact read_comparison hread hs hin htwo hone
    · exact read_null hread hone
  · exact read_spatial hread hs (not_not.1 fun hnot => hrefused (.inl ⟨hs, hnot⟩)).2

/-! ## What is read has no piece that is not -/

theorem other_not_mem_members {ts : List Token} {vs : List Value} (h : readMembers ts = some vs) (piece : Frag) : Token.other piece ∉ ts := by
  fun_induction readMembers ts generalizing vs with
  | case1 v => simp
  | case2 v rest ih =>
    obtain ⟨vs', hrest, -⟩ := Option.map_eq_some_iff.1 h
    simpa using ih hrest
  | case3 => cases h

theorem other_not_mem_behind {ts : List Token} {p : Predicate Column Value Geometry} (h : readBehind d column ts = some p) (piece : Frag) :
    Token.other piece ∉ ts := by
  revert h
  fun_cases readBehind d column ts with
  | case6 rest | case7 rest =>
    intro h
    obtain ⟨vs, hmembers, -⟩ := Option.map_eq_some_iff.1 h
    simpa using other_not_mem_members hmembers piece
  | case8 =>
    intro h
    cases h
  | _ => simp

theorem other_not_mem {ts : List Token} {p : Predicate Column Value Geometry} (h : readPredicate d ts = some p) (piece : Frag) :
    Token.other piece ∉ ts := by
  revert h
  fun_cases readPredicate d ts with
  | case1 owner name rest =>
    intro h
    simpa using other_not_mem_behind h piece
  | case4 =>
    intro h
    cases h
  | _ => simp

theorem readsOperand_of_mem {t : SqlText} (h : ∀ piece, Token.other piece ∉ textTokens unquoted d mode t) :
    (∀ n, Frag.raw n ∈ t → unquoted n = true) ∧ (∀ n, Frag.ident n ∈ t → d.HasName n) ∧
      ∀ v, Frag.value v ∈ t → d.readsOperand mode v = true := by
  have hpiece : ∀ f ∈ t, ∀ piece, fragTokens unquoted d mode f ≠ [.other piece] := by
    intro f hf piece htokens
    refine h piece (List.mem_flatMap.2 ⟨f, hf, ?_⟩)
    rw [htokens]
    exact List.mem_cons_self
  refine ⟨fun n hn => ?_, fun n hn => ?_, fun v hv => ?_⟩
  · by_contra hno
    exact hpiece _ hn (.raw n) (congrArg (fun token => [token]) (if_neg hno))
  · by_contra hno
    exact hpiece _ hn (.ident n) (congrArg (fun token => [token]) (if_neg hno))
  · by_contra hno
    exact hpiece _ hv (.value v) (congrArg (fun token => [token]) (if_neg hno))

theorem mem_join_operands {v : Value} {vs : List Value} (h : v ∈ vs) : Frag.value v ∈ join ", " (vs.map operandText) := by
  induction vs with
  | nil => cases h
  | cons w vs ih =>
    cases vs with
    | nil =>
      obtain rfl := List.mem_singleton.1 h
      exact List.mem_cons_self
    | cons w' vs =>
      have hjoin : join ", " ((w :: w' :: vs).map operandText) =
          operandText w ++ code ", " ++ join ", " ((w' :: vs).map operandText) := rfl
      rw [hjoin, List.mem_append, List.mem_append]
      rcases List.mem_cons.1 h with rfl | hrest
      · exact .inl (.inl List.mem_cons_self)
      · exact .inr (ih hrest)

/-- A comparison holds the pieces of its column and its operands. -/
theorem mem_predicate (t : SqlText) (hrefused : ¬Refused d f) :
    (∀ piece ∈ t, piece ∈ predicate d t f) ∧ ∀ v ∈ f.operands, Frag.value v ∈ predicate d t f := by
  unfold predicate comparison
  by_cases hs : f.operator.spatialFunction = none
  · rw [hs]
    by_cases hin : f.operator = .in ∨ f.operator = .notIn
    · simp only [if_pos hin, List.mem_append]
      exact ⟨fun piece hpiece => .inl (.inl (.inl hpiece)), fun v hv => .inl (.inr (mem_join_operands hv))⟩
    by_cases htwo : f.operator.needsTwoValues = true
    · simp only [if_neg hin, if_pos htwo, List.mem_append]
      refine ⟨fun piece hpiece => .inl (.inl (.inl (.inl hpiece))), fun v hv => ?_⟩
      have hlength : f.operands.length ≤ 2 := by
        rw [Filter.operands, if_neg hin, if_pos htwo, List.length_take]
        omega
      generalize f.operands = vs at hv hlength
      cases vs with
      | nil => cases hv
      | cons low vs =>
        rcases List.mem_cons.1 hv with rfl | hv
        · exact .inl (.inl (.inr List.mem_cons_self))
        · cases vs with
          | nil => cases hv
          | cons high vs =>
            cases vs with
            | nil =>
              obtain rfl := List.mem_singleton.1 hv
              exact .inr List.mem_cons_self
            | cons _ _ => simp at hlength
    by_cases hone : f.operator.needsValue = true
    · have hvalue : f.operands = [f.value] := by rw [Filter.operands, if_neg hin, if_neg htwo, if_pos hone]
      simp only [if_neg hin, if_neg htwo, if_pos hone, List.mem_append, hvalue]
      refine ⟨fun piece hpiece => .inl (.inl hpiece), fun v hv => ?_⟩
      obtain rfl := List.mem_singleton.1 hv
      exact .inr List.mem_cons_self
    · have hnil : f.operands = [] := by rw [Filter.operands, if_neg hin, if_neg htwo, if_neg hone]
      simp only [if_neg hin, if_neg htwo, if_neg hone, List.mem_append, hnil]
      exact ⟨fun piece hpiece => .inl hpiece, List.forall_mem_nil _⟩
  · obtain ⟨fn, hfn⟩ := Option.ne_none_iff_exists'.1 hs
    have hd : d.hasSpatial = true := (not_not.1 fun hnot => hrefused (.inl ⟨hs, hnot⟩)).2
    have hctor : ∀ wkt, d.spatialGeometry (operandText f.value) wkt = some (ogcGeometryCtor (operandText f.value) wkt) := by
      intro wkt
      cases d <;> first | rfl | cases hd
    rw [operands_spatial hs, hfn]
    simp only [List.map_cons, List.map_nil, List.getD_cons_zero, hctor, Option.getD_some, ogcGeometryCtor, List.mem_append]
    refine ⟨fun piece hpiece => .inl (.inl (.inl (.inr hpiece))), fun v hv => ?_⟩
    obtain rfl := List.mem_singleton.1 hv
    exact .inl (.inr (.inl (.inr List.mem_cons_self)))

/-- A comparison that is read has pieces that are. -/
theorem piecesRead_of_read {p : Predicate Column Value Geometry} (hrefused : ¬Refused d f)
    (h : readPredicate d (textTokens unquoted d mode (predicate d (qualified column.owner column.name) f)) = some p) :
    PiecesRead unquoted d mode column f := by
  obtain ⟨hraw, hident, hvalue⟩ := readsOperand_of_mem (other_not_mem h)
  obtain ⟨hcolumn, hoperands⟩ := mem_predicate (qualified column.owner column.name) hrefused
  have howner : Frag.raw column.owner ∈ qualified column.owner column.name := List.mem_cons_self
  have hname : Frag.ident column.name ∈ qualified column.owner column.name :=
    List.mem_append_right _ List.mem_cons_self
  exact ⟨hraw _ (hcolumn _ howner), hident _ (hcolumn _ hname), fun v hv => hvalue v (hoperands v hv)⟩

end

/-- A membership list has operands when it is a nonempty array. -/
theorem operands_ne_nil {f : Filter} (h : f.operator = .in ∨ f.operator = .notIn) :
    f.operands ≠ [] ↔ ∃ v vs, f.value = .array (v :: vs) := by
  rw [Filter.operands, if_pos h]
  cases hvalue : f.value with
  | array items => cases items <;> simp [Value.asArray]
  | _ => simp [Value.asArray]

/-- A filter that is not refused can be read back when it is expressible. -/
theorem read_isSome_iff {d : Dialect} {f : Filter} {column : Column} (hrefused : ¬Refused d f) :
    f.field ≠ "*" ∧ (f.read d column).isSome = true ↔ Expressible d f := by
  constructor
  · rintro ⟨hfield, hread⟩
    unfold Filter.read at hread
    refine ⟨hfield, fun hop => ?_, fun hin => (operands_ne_nil hin).1 fun hnil => ?_, ?_,
      fun hs => not_not.1 fun hnot => hrefused (.inl ⟨hs, hnot⟩)⟩
    · rw [hop] at hread
      cases hd : d.hasILike with
      | true => rfl
      | false => simp [hd] at hread
    · rcases hin with hop | hop <;> simp [hop, hnil] at hread
    · revert hread
      cases f.operator <;> simp [FilterOperator.needsTwoValues]
  · intro h
    refine ⟨h.column, ?_⟩
    have hrange := h.notRange
    have hspatial := h.spatial
    unfold Filter.read
    cases hop : f.operator <;> simp only [hop] at hrange hspatial ⊢
    case iLike => rw [h.iLike hop]; rfl
    case «in» => rw [if_neg ((operands_ne_nil (.inl hop)).2 (h.members (.inl hop)))]; rfl
    case notIn => rw [if_neg ((operands_ne_nil (.inr hop)).2 (h.members (.inr hop)))]; rfl
    case between => cases hrange
    case notBetween => cases hrange
    case intersects => rw [(hspatial (by decide)).2]; rfl
    case within => rw [(hspatial (by decide)).2]; rfl
    case contains => rw [(hspatial (by decide)).2]; rfl
    all_goals rfl

namespace SqlGenerator

variable {unquoted : String → Bool} {g : SqlGenerator} {d : Dialect} {sourceAlias baseModelName : String} {mode : ValueMode}

/-- The comparison written for a filter says what the filter means exactly when the filter is sayable. -/
theorem says_iff {f : Filter} (hrefused : ¬Refused d f) (hrange : ¬OutOfRange f) :
    Says unquoted g d sourceAlias baseModelName mode f (g.filterPredicate d sourceAlias baseModelName f) ↔
      Sayable unquoted g d sourceAlias baseModelName mode f := by
  unfold Says filterPredicate
  rw [qualifyField_eq]
  cases hresolve : g.resolveField baseModelName f.field sourceAlias with
  | none =>
    have hstar := resolveField_eq_none.1 hresolve
    refine iff_of_false ?_ fun h => h.expressible.column hstar
    rintro ⟨owner, name, p, heq, -⟩
    cases heq
  | some column =>
    obtain ⟨owner, name⟩ := column
    have hstar : f.field ≠ "*" := fun h => by
      rw [resolveField_eq_none.2 h] at hresolve
      cases hresolve
    have hexpressible : Expressible d f ↔ (f.read d ⟨owner, name⟩).isSome = true := by
      rw [← @read_isSome_iff d f ⟨owner, name⟩ hrefused, and_iff_right hstar]
    constructor
    · rintro ⟨owner', name', p, heq, hp, -⟩
      obtain ⟨rfl, rfl⟩ := Prod.mk.inj (Option.some.inj heq)
      have hpieces : PiecesRead unquoted d mode ⟨owner, name⟩ f := piecesRead_of_read hrefused hp
      have hread := read_predicate hpieces hrefused hrange
      refine ⟨hexpressible.2 ?_, fun owner' name' heq => ?_⟩
      · rw [← hread]
        exact Option.isSome_iff_exists.2 ⟨p, hp⟩
      · obtain ⟨rfl, rfl⟩ := Prod.mk.inj (Option.some.inj (hresolve.symm.trans heq))
        exact hpieces
    · intro h
      have hread := read_predicate (h.read owner name hresolve) hrefused hrange
      obtain ⟨p, hp⟩ := Option.isSome_iff_exists.1 (hexpressible.1 h.expressible)
      exact ⟨owner, name, p, rfl, hread.trans hp, fun κ db row => eval_read hp db row⟩

/-- The condition of a spatial filter: built, or an error. -/
theorem buildCondition_spatial {mode : ValueMode} {column : SqlText} {params : List Value} {f : Filter}
    (h : f.operator.spatialFunction ≠ none) :
    if f.value.isGeometry = true ∧ d.hasSpatial = true then
      ∃ built, buildCondition d mode column params f = .ok built
    else ∃ e, buildCondition d mode column params f = Res.fail e := by
  obtain ⟨fn, hfn⟩ := Option.ne_none_iff_exists'.1 h
  have hwkt : geometryFromWkt fn f = if f.value.isGeometry then .ok f.value.asStr.isSome else
      Res.fail (fn ++ " on `" ++ f.field ++ "` needs a geometry: a GeoJSON object or a WKT string, got " ++
        f.value.toJson) := by
    unfold geometryFromWkt
    cases f.value <;> rfl
  have hgeometry : ∀ t wkt, d.spatialGeometry t wkt = if d.hasSpatial then some (ogcGeometryCtor t wkt) else none := by
    intro t wkt
    cases d <;> rfl
  unfold buildCondition
  simp only [hfn, hgeometry, hwkt]
  cases f.value.isGeometry <;> cases d.hasSpatial <;> exact ⟨_, rfl⟩

/-- The condition of a filter with an infix operator that is no range. -/
theorem buildCondition_plain {mode : ValueMode} {column : SqlText} {params : List Value} {f : Filter}
    (hs : f.operator.spatialFunction = none) (htwo : f.operator.needsTwoValues = false) :
    if (f.operator = .in ∨ f.operator = .notIn) ∧ f.value.asArray = none then
      ∃ e, buildCondition d mode column params f = Res.fail e
    else ∃ built, buildCondition d mode column params f = .ok built := by
  obtain ⟨op, hop⟩ : ∃ op, f.operator.sqlOperator = some op :=
    Option.ne_none_iff_exists'.1 fun hnone => FilterOperator.sqlOperator_eq_none_iff.1 hnone hs
  unfold buildCondition
  simp only [hs, hop, htwo, Bool.and_false, Bool.false_eq_true, if_false]
  by_cases hin : f.operator = .in ∨ f.operator = .notIn
  · simp only [hin, if_true, true_and]
    cases f.value.asArray <;> exact ⟨_, rfl⟩
  · simp only [hin, if_false, false_and]
    cases f.operator.needsValue <;> exact ⟨_, rfl⟩

/-- The condition of a range. -/
theorem buildCondition_range {mode : ValueMode} {column : SqlText} {params : List Value} {f : Filter}
    (htwo : f.operator.needsTwoValues = true) :
    match f.value.asArray with
    | none => ∃ e, buildCondition d mode column params f = Res.fail e
    | some vs =>
      if vs.length < 2 then buildCondition d mode column params f = .error .panic
      else ∃ built, buildCondition d mode column params f = .ok built := by
  have hop : f.operator = .between ∨ f.operator = .notBetween := by
    revert htwo
    cases f.operator <;> decide
  unfold buildCondition
  rcases hop with hop | hop <;> rw [hop] <;> rcases f.value.asArray with _ | _ | ⟨v, _ | ⟨w, vs⟩⟩ <;>
    first | exact ⟨_, rfl⟩ | rfl

/-- The three ways the condition of a filter is built. -/
theorem buildCondition_cases (d : Dialect) (mode : ValueMode) (column : SqlText) (params : List Value) (f : Filter) :
    (Refused d f ∧ ∃ e, buildCondition d mode column params f = Res.fail e) ∨
      (OutOfRange f ∧ buildCondition d mode column params f = .error .panic) ∨
      (¬Refused d f ∧ ¬OutOfRange f ∧ ∃ built, buildCondition d mode column params f = .ok built) := by
  by_cases hs : f.operator.spatialFunction = none
  · by_cases htwo : f.operator.needsTwoValues = true
    · have hbuilt := @buildCondition_range d mode column params f htwo
      cases hvalue : f.value.asArray with
      | none =>
        rw [hvalue] at hbuilt
        exact .inl ⟨.inr ⟨.inr (.inr htwo), hvalue⟩, hbuilt⟩
      | some vs =>
        rw [hvalue] at hbuilt
        have hrefused : ¬Refused d f := by
          rintro (h | h)
          · exact h.1 hs
          · rw [h.2] at hvalue
            cases hvalue
        by_cases hlength : vs.length < 2
        · simp only [if_pos hlength] at hbuilt
          exact .inr (.inl ⟨⟨htwo, vs, hvalue, hlength⟩, hbuilt⟩)
        · simp only [if_neg hlength] at hbuilt
          refine .inr (.inr ⟨hrefused, ?_, hbuilt⟩)
          rintro ⟨-, vs', hvalue', hlength'⟩
          rw [hvalue] at hvalue'
          exact hlength (Option.some.inj hvalue' ▸ hlength')
    · have hbuilt := @buildCondition_plain d mode column params f hs (Bool.eq_false_iff.2 htwo)
      have hrange : ¬OutOfRange f := fun h => htwo h.1
      by_cases hlist : (f.operator = .in ∨ f.operator = .notIn) ∧ f.value.asArray = none
      · rw [if_pos hlist] at hbuilt
        exact .inl ⟨.inr ⟨by rw [← or_assoc]; exact .inl hlist.1, hlist.2⟩, hbuilt⟩
      · rw [if_neg hlist] at hbuilt
        refine .inr (.inr ⟨?_, hrange, hbuilt⟩)
        rintro (h | ⟨h, hvalue⟩)
        · exact h.1 hs
        · rw [← or_assoc, or_iff_left htwo] at h
          exact hlist ⟨h, hvalue⟩
  · have hbuilt := @buildCondition_spatial d mode column params f hs
    have htwo := (spatial_operator hs).2.1
    have hrange : ¬OutOfRange f := fun h => Bool.false_ne_true (htwo.symm.trans h.1)
    by_cases hgeometry : f.value.isGeometry = true ∧ d.hasSpatial = true
    · rw [if_pos hgeometry] at hbuilt
      refine .inr (.inr ⟨?_, hrange, hbuilt⟩)
      rintro (h | ⟨h, -⟩)
      · exact h.2 hgeometry
      · rw [← or_assoc, htwo] at h
        exact (spatial_operator hs).1 (h.resolve_right Bool.false_ne_true)
    · rw [if_neg hgeometry] at hbuilt
      exact .inl ⟨.inl ⟨hs, hgeometry⟩, hbuilt⟩

/-- The loop over the filters stops at the first that is not built. -/
theorem buildConditions_cases (g : SqlGenerator) (d : Dialect) (sourceAlias baseModelName : String) (mode : ValueMode)
    (first : Bool) (params : List Value) (filters : List Filter) :
    ((∃ past f later, filters = past ++ f :: later ∧ Refused d f ∧ ∀ f' ∈ past, ¬OutOfRange f') ∧
        ∃ e, g.buildConditions d sourceAlias baseModelName mode first params filters = Res.fail e) ∨
      ((∃ past f later, filters = past ++ f :: later ∧ OutOfRange f ∧ ∀ f' ∈ past, ¬Refused d f') ∧
        g.buildConditions d sourceAlias baseModelName mode first params filters = .error .panic) ∨
      ((∀ f ∈ filters, ¬Refused d f ∧ ¬OutOfRange f) ∧
        ∃ built, g.buildConditions d sourceAlias baseModelName mode first params filters = .ok built) := by
  induction filters generalizing first params with
  | nil => exact .inr (.inr ⟨List.forall_mem_nil _, _, rfl⟩)
  | cons f filters ih =>
    unfold buildConditions
    dsimp only
    rcases buildCondition_cases d mode (g.qualifyField baseModelName f.field sourceAlias) params f with
      ⟨hrefused, e, hbuilt⟩ | ⟨hrange, hbuilt⟩ | ⟨hrefused, hrange, built, hbuilt⟩
    · refine .inl ⟨⟨[], f, filters, rfl, hrefused, List.forall_mem_nil _⟩, e, ?_⟩
      rw [hbuilt]
      rfl
    · refine .inr (.inl ⟨⟨[], f, filters, rfl, hrange, List.forall_mem_nil _⟩, ?_⟩)
      rw [hbuilt]
      rfl
    · rw [hbuilt]
      rcases ih false built.1 with ⟨⟨past, f', later, hsplit, hf', hpast⟩, e, hrest⟩ |
        ⟨⟨past, f', later, hsplit, hf', hpast⟩, hrest⟩ | ⟨hall, rest, hrest⟩
      · refine .inl ⟨⟨f :: past, f', later, congrArg (f :: ·) hsplit, hf', List.forall_mem_cons.2 ⟨hrange, hpast⟩⟩, e, ?_⟩
        simp only [bind, Except.bind, hrest]
        rfl
      · refine .inr (.inl ⟨⟨f :: past, f', later, congrArg (f :: ·) hsplit, hf',
          List.forall_mem_cons.2 ⟨hrefused, hpast⟩⟩, ?_⟩)
        simp only [bind, Except.bind, hrest]
      · refine .inr (.inr ⟨List.forall_mem_cons.2 ⟨⟨hrefused, hrange⟩, hall⟩, ?_⟩)
        simp only [bind, Except.bind, hrest]
        exact ⟨_, rfl⟩

/-- No filter is both refused and out of range. -/
theorem not_outOfRange_of_refused {f : Filter} (h : Refused d f) : ¬OutOfRange f := by
  rintro ⟨htwo, vs, hvalue, -⟩
  rcases h with ⟨hs, -⟩ | ⟨-, hnone⟩
  · exact Bool.false_ne_true ((spatial_operator hs).2.1.symm.trans htwo)
  · rw [hnone] at hvalue
    cases hvalue

/-- The filter that stops the loop is refused or out of range, not either in turn. -/
theorem not_refused_and_outOfRange {past past' later later' : List Filter} {f f' : Filter}
    (h : past ++ f :: later = past' ++ f' :: later') (hf : Refused d f) (hpast : ∀ p ∈ past, ¬OutOfRange p)
    (hf' : OutOfRange f') (hpast' : ∀ p ∈ past', ¬Refused d p) : False := by
  rcases List.append_eq_append_iff.1 h with ⟨between, rfl, hcons⟩ | ⟨between, rfl, hcons⟩
  · cases between with
    | nil =>
      obtain ⟨rfl, -⟩ := List.cons.inj hcons
      exact not_outOfRange_of_refused hf hf'
    | cons p between =>
      obtain ⟨rfl, -⟩ := List.cons.inj hcons
      exact hpast' f (by simp) hf
  · cases between with
    | nil =>
      obtain ⟨rfl, -⟩ := List.cons.inj hcons
      exact not_outOfRange_of_refused hf hf'
    | cons p between =>
      obtain ⟨rfl, -⟩ := List.cons.inj hcons
      exact hpast f' (by simp) hf'

/-- The comparisons of a built clause are those written for the filters, in order. -/
theorem clauseComparisons_eq {query : Query} {mode : ValueMode} {params : List Value} {t : SqlText}
    (h : g.buildWhereClause query d sourceAlias baseModelName mode = .ok (params, some t)) :
    clauseComparisons params (some t) = query.filters.map (g.filterPredicate d sourceAlias baseModelName) := by
  obtain ⟨f, fs, hfilters, -, hread⟩ := read_buildWhereClause h
  show (readCondition (bindParams params t)).first :: (readCondition (bindParams params t)).rest.map (·.2) = _
  rw [hread, hfilters]
  simp [FlatCondition.map, flatFilters]

/-- **Filter rendering preserves meaning** where every filter is expressible in the
dialect and its names and values are read, or one filter is refused before a range is
read out of bounds; nowhere else. -/
theorem saysFilters_iff (unquoted : String → Bool) (g : SqlGenerator) (d : Dialect) (sourceAlias baseModelName : String)
    (mode : ValueMode) (query : Query) :
    SaysFilters unquoted g d sourceAlias baseModelName mode query ↔
      FiltersSayable unquoted g d sourceAlias baseModelName mode query.filters := by
  unfold SaysFilters
  by_cases hempty : query.filters = []
  · have hbuilt : g.buildWhereClause query d sourceAlias baseModelName mode = .ok ([], none) := by
      simp [buildWhereClause, hempty]
    rw [hbuilt, hempty]
    exact iff_of_true .nil (.inl (List.forall_mem_nil _))
  have hbuilt : g.buildWhereClause query d sourceAlias baseModelName mode =
      (g.buildConditions d sourceAlias baseModelName mode true [] query.filters).map fun p => (p.1, some p.2.flatten) := by
    unfold buildWhereClause
    rw [if_neg (by simpa using hempty)]
    cases g.buildConditions d sourceAlias baseModelName mode true [] query.filters <;> rfl
  rcases buildConditions_cases g d sourceAlias baseModelName mode true [] query.filters with
    ⟨hrefused, e, hloop⟩ | ⟨⟨past, f, later, hsplit, hf, hpast⟩, hloop⟩ | ⟨hall, ⟨params, ts⟩, hloop⟩
  · rw [hbuilt, hloop]
    refine iff_of_true (fun h => ?_) (.inr hrefused)
    cases h
  · rw [hbuilt, hloop]
    refine iff_of_false (fun h => h rfl) ?_
    rintro (h | ⟨past', f', later', hsplit', hf', hpast'⟩)
    · have hexpressible := h f (by rw [hsplit]; simp)
      exact Bool.false_ne_true (hexpressible.expressible.notRange.symm.trans hf.1)
    · exact not_refused_and_outOfRange (hsplit'.symm.trans hsplit) hf' hpast' hf hpast
  · rw [hloop] at hbuilt
    rw [hbuilt]
    show List.Forall₂ _ _ (clauseComparisons params (some ts.flatten)) ↔ _
    rw [clauseComparisons_eq hbuilt, List.forall₂_map_right_iff, List.forall₂_same]
    have hsaid : ∀ f ∈ query.filters, Says unquoted g d sourceAlias baseModelName mode f
        (g.filterPredicate d sourceAlias baseModelName f) ↔ Sayable unquoted g d sourceAlias baseModelName mode f := fun f hf =>
      says_iff (hall f hf).1 (hall f hf).2
    constructor
    · exact fun h => .inl fun f hf => (hsaid f hf).1 (h f hf)
    · rintro (h | ⟨past, f, later, hsplit, hf, -⟩)
      · exact fun f hf => (hsaid f hf).2 (h f hf)
      · exact absurd hf (hall f (by rw [hsplit]; simp)).1

end SqlGenerator

/-! ## A range with its keyword twice -/

namespace MonthFilter

def generator : SqlGenerator := SqlGenerator.new .postgres ⟨fun _ => false, fun _ => false⟩

def asks (operator : FilterOperator) (value : Value) : Query :=
  { name := some "orders", filters := [⟨"day", operator, value, false⟩] }

/-- The days of one month. -/
def month : Query := asks .between (.array [.number "1", .number "31"])

/-- The WHERE clause of a query. -/
def clause (query : Query) : Res String (List Value × Option SqlText) :=
  generator.buildWhereClause query .postgres "orders" "orders" .placeholder

end MonthFilter

open MonthFilter in
/-- The statement says BETWEEN BETWEEN. A range of one value is read out of bounds, and an
empty list is written as one. -/
theorem between_written_twice :
    (clause month).toOption.map (fun p => p.2.map Dialect.postgres.render) =
        some (some "orders.\"day\" BETWEEN BETWEEN $1 AND $2") ∧
      ∀ unquoted : String → Bool, ¬SqlGenerator.SaysFilters unquoted generator .postgres "orders" "orders" .placeholder month ∧
        ¬SqlGenerator.SaysFilters unquoted generator .postgres "orders" "orders" .placeholder (asks .between (.array [.number "1"])) ∧
        ¬SqlGenerator.SaysFilters unquoted generator .postgres "orders" "orders" .placeholder (asks .in (.array [])) := by
  refine ⟨by decide +kernel, fun unquoted => ⟨fun h => ?_, fun h => h rfl, fun h => ?_⟩⟩
  · obtain ⟨owner, name, p, -, hread, -⟩ := (List.forall₂_cons.1 h).1
    have hnone : ∀ first, readPredicate .postgres ([first, .symbol '.', .name "day", .word "BETWEEN", .word "BETWEEN",
        .value (.number "1"), .word "AND", .value (.number "31")]) = none := by
      intro first
      cases first <;> rfl
    exact absurd ((hnone _).symm.trans hread) (by simp)
  · obtain ⟨owner, name, p, -, hread, -⟩ := (List.forall₂_cons.1 h).1
    have hnone : ∀ first, readPredicate .postgres ([first, .symbol '.', .name "day", .word "IN", .symbol '(', .symbol ')']) = none := by
      intro first
      cases first <;> rfl
    exact absurd ((hnone _).symm.trans hread) (by simp)

end GraphNight
