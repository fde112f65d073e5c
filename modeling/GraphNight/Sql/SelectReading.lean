import GraphNight.Lib.GroupedRows
import GraphNight.Sql.FieldColumns
import GraphNight.Sql.FilterMeaning
import GraphNight.Sql.JoinAnswers
import GraphNight.Sql.Paging
import GraphNight.Sql.TimeBuckets

/-!
# What a database reads of a statement

A statement is read clause by clause, by the dialect's grammar: columns of the aliases in
scope, the bucketing functions, calls, aggregates and a quotient of two of them, the WHERE
clause with its values bound, the window. What has no reading is refused: a word that the
database does not take for a name or has no function for, a quoted name it does not have, a
statement that selects or sorts by what it does not group by. What is read is a SELECT over
the rows of the FROM clause, whatever these are.
-/

namespace GraphNight

open SqlText

/-! ## What is read -/

/-- An expression over a row. -/
inductive RowExpr where
  | column (c : Column)
  | bucket (b : BucketExpr) (c : Column)
  | geoJson (c : Column)
  | call (fn : String) (args : List (Column ⊕ String))
deriving DecidableEq, Repr

/-- An expression over the rows of a group. -/
inductive GroupExpr where
  | countRows
  | count (distinct : Bool) (e : RowExpr)
  /-- An aggregate function other than COUNT. -/
  | aggregate (fn : String) (e : RowExpr)
  /-- `num / NULLIF(denom, 0)` -/
  | quotient (num denom : GroupExpr)
deriving DecidableEq, Repr

inductive Output where
  | ofRow (e : RowExpr)
  | ofGroup (e : GroupExpr)
deriving DecidableEq, Repr

structure SelectStatement where
  outputs : List Output
  condition : Option (FlatCondition (Predicate Column Value Geometry))
  groupBy : List RowExpr
  /-- The expressions sorted by, and whether downwards. -/
  orderBy : List (RowExpr × Bool)
  distinct : Bool
  window : Window

/-! ## Reading -/

/-- What stands before the bracket at the end of a text. -/
def beforeBracket (bracket : String) (t : SqlText) : Option SqlText :=
  if t.getLast? = some (.code bracket) then some t.dropLast else none

/-- What a database makes of the words that nothing quotes. -/
structure Words where
  /-- The texts it reads as one identifier. -/
  unquoted : String → Bool
  /-- The functions it calls on so many values of a row. -/
  ofRow : String → Nat → Bool
  /-- The aggregate functions it has besides those of every dialect. -/
  ofRows : String → Bool

/-- A word is an aggregate function of one argument. -/
def Words.aggregates (words : Words) (fn : String) : Bool := ["SUM", "AVG", "COUNT", "MIN", "MAX"].contains fn || words.ofRows fn

section

variable (words : Words) (d : Dialect) (scope : List String)

/-- An unquoted name stands for the alias that is spelt like it. -/
def Dialect.sees (owner : String) : Bool := words.unquoted owner && scope.contains owner && d.foldPlain owner == d.foldQuoted owner

/-- An unquoted column stands for the one that is spelt like it. -/
def Dialect.SeesColumn (name : String) : Prop := words.unquoted name = true ∧ d.foldColumn false name = d.foldColumn true name

instance (name : String) : Decidable (d.SeesColumn words name) := inferInstanceAs (Decidable (_ ∧ _))

def readColumn (quoted : Bool) (owner name : String) : Option Column :=
  if d.sees words scope owner = true ∧ if quoted then d.HasName name else d.SeesColumn words name then some ⟨owner, name⟩ else none

/-- The arguments of a call, up to the bracket that ends it. -/
def readArgs : SqlText → Option (List (Column ⊕ String))
  | [.code ")"] => some []
  | [.number n, .code ")"] => some [.inr n]
  | [.raw owner, .code ".", .ident name, .code ")"] => (readColumn words d scope true owner name).map fun c => [.inl c]
  | .number n :: .code ", " :: rest => (readArgs rest).map (.inr n :: ·)
  | .raw owner :: .code "." :: .ident name :: .code ", " :: rest => do
    let c ← readColumn words d scope true owner name
    let args ← readArgs rest
    return .inl c :: args
  | _ => none

def readRowExpr : SqlText → Option RowExpr
  | [.raw owner, .code ".", .ident name] => (readColumn words d scope true owner name).map .column
  | [.raw text] => (Str.rsplitOnce text '.').bind fun p => (readColumn words d scope false p.1 p.2).map .column
  | [.code opening, .raw owner, .code ".", .ident name, .code ")"] =>
    if opening = "ST_AsGeoJSON(" ∧ d.hasSpatial = true then (readColumn words d scope true owner name).map .geoJson else none
  | [.code pre, .raw owner, .code ".", .raw name, .code post] =>
    (readBucket d (BucketToken.around d pre post)).bind fun b => (readColumn words d scope false owner name).map (.bucket b)
  | .func fn :: .code "(" :: rest =>
    (readArgs words d scope rest).bind fun args => if words.ofRow fn args.length then some (.call fn args) else none
  | _ => none

/-- A call of an aggregate function. The names of functions have no case. -/
def namedAggregate (fn : String) (e : RowExpr) : GroupExpr :=
  if Str.toAsciiLowercase fn = "count" then .count false e else .aggregate (Str.toAsciiLowercase fn) e

def readAggregate : SqlText → Option GroupExpr
  | .code fn :: rest =>
    if fn = "COUNT(DISTINCT " then (beforeBracket ")" rest).bind fun arg => (readRowExpr words d scope arg).map (.count true)
    else if (isPlainIdentifier fn = true ∧ words.aggregates fn = true) ∧ rest.head? = some (.code "(") then
      (beforeBracket ")" rest.tail).bind fun arg =>
        if arg = [.code "*"] then if Str.toAsciiLowercase fn = "count" then some .countRows else none
        else (readRowExpr words d scope arg).map (namedAggregate fn)
    else none
  | _ => none

def readGroupExpr : SqlText → Option GroupExpr
  | .code opening :: rest =>
    if opening = "(" then do
      let num ← readAggregate words d scope (rest.takeWhile (· ≠ .code " / NULLIF("))
      let arg ← beforeBracket ", 0))" ((rest.dropWhile (· ≠ .code " / NULLIF(")).drop 1)
      let denom ← readAggregate words d scope arg
      return .quotient num denom
    else readAggregate words d scope (.code opening :: rest)
  | _ => none

def readOutput (t : SqlText) : Option Output :=
  ((readGroupExpr words d scope t).map .ofGroup).orElse fun _ => (readRowExpr words d scope t).map .ofRow

def readComparison (t : SqlText) : Option (Predicate Column Value Geometry) :=
  (readPredicate d (textTokens words.unquoted d .placeholder t)).filter fun p => d.sees words scope p.column.owner

/-- A condition whose comparisons are all read. -/
def readComparisons (c : FlatCondition SqlText) : Option (FlatCondition (Predicate Column Value Geometry)) := do
  let first ← readComparison words d scope c.first
  let rest ← c.rest.mapM fun p => (readComparison words d scope p.2).map (p.1, ·)
  return ⟨first, rest⟩

def readWhere (params : List Value) : Option SqlText → Option (Option (FlatCondition (Predicate Column Value Geometry)))
  | none => some none
  | some t => (readComparisons words d scope (readCondition (bindParams params t))).map some

end

/-- The names of the outputs. -/
def LogicalPlan.labels (plan : LogicalPlan) : List String := plan.selectItems.filterMap fun item => item.aliasName

/-- The names a FROM clause quotes: its aliases and its tables. -/
def fromNames (plan : LogicalPlan) : List String :=
  introduced plan ++ (if plan.sourceIsSql then [] else [plan.sourceTable]) ++ plan.joins.map (·.table)

/-- The database has the names of a FROM clause, and no two of its aliases are one. -/
def Dialect.HasFrom (d : Dialect) (plan : LogicalPlan) : Prop :=
  ((introduced plan).map d.foldQuoted).Nodup ∧ ∀ name ∈ fromNames plan, d.HasName name

instance (d : Dialect) (plan : LogicalPlan) : Decidable (d.HasFrom plan) := inferInstanceAs (Decidable (_ ∧ _))

/-- The output is one value for each group. -/
def Output.ofGroups (groupBy : List RowExpr) : Output → Bool
  | .ofRow (.geoJson c) => groupBy.contains (.column c)
  | .ofRow e => groupBy.contains e
  | .ofGroup _ => true

namespace SelectStatement

/-- A statement selects something, which its groups have one of, and sorts by what it groups by. A distinct one
sorts by what it selects. -/
def isValid (s : SelectStatement) : Bool :=
  !s.outputs.isEmpty && s.outputs.all (·.ofGroups s.groupBy) && s.orderBy.all (fun p => s.groupBy.contains p.1) &&
    (!s.distinct || s.orderBy.all fun p => s.outputs.contains (.ofRow p.1))

/-- Read the statement of a plan. -/
def read (words : Words) (d : Dialect) (plan : LogicalPlan) : Option SelectStatement := do
  let scope := introduced plan
  let outputs ← plan.selectItems.mapM fun item => readOutput words d scope item.expression
  let condition ← readWhere words d scope plan.params plan.whereClause
  let groupBy ← plan.groupBy.mapM (readRowExpr words d scope)
  let orderBy ← plan.orderBy.mapM fun item => (readRowExpr words d scope item.column).map (·, item.descending)
  let window ← readWindow d (Str.words (d.render (d.limitOffset [] plan.limit plan.offset)))
  let s : SelectStatement := ⟨outputs, condition, groupBy, orderBy, plan.distinct, window⟩
  if (d.HasFrom plan ∧ ∀ name ∈ plan.labels, d.HasName name) ∧ s.isValid = true then return s else none

end SelectStatement

/-! ## What it answers -/

/-- What a database computes of cells. -/
structure Engine (κ : Type) extends Cells κ Value Geometry where
  null : κ
  /-- The order cells are sorted in. -/
  before : κ → κ → Bool
  number : Nat → κ
  /-- The aggregate functions other than COUNT, by their names in lower case. -/
  aggregate : String → List κ → κ
  call : String → List (κ ⊕ String) → κ
  divide : κ → κ → κ
  /-- `NULLIF(cell, 0)` -/
  nullIfZero : κ → κ
  geoJson : κ → κ
  timestamp : κ → Option Timestamp
  ofBucket : BucketValue → κ
  before_order : Grouped.WeakOrder before
  ofBucket_injective : Function.Injective ofBucket
  ofBucket_ne_null : ∀ b, ofBucket b ≠ null

namespace Engine

variable {κ : Type} (db : Engine κ)

/-- The cell of a column. -/
def cell (row : ScopeRow κ) (c : Column) : κ := row.cell db.null (c.owner, c.name)

/-- The bucket a function puts a cell in. -/
def bucketOf (b : BucketExpr) (cell : κ) : κ := ((db.timestamp cell).bind fun t => b.eval t).elim db.null db.ofBucket

/-- The cells that are not null, counted. -/
def count [DecidableEq κ] (distinct : Bool) (cells : List κ) : κ :=
  let filled := cells.filter fun cell => !db.isNull cell
  db.number (if distinct then filled.dedup.length else filled.length)

/-- A value that the rows of a group share. -/
def shared (value : ScopeRow κ → κ) (group : List (ScopeRow κ)) : κ := group.head?.elim db.null value

/-- Groups are sorted by a value that their rows share. -/
def sorts (value : ScopeRow κ → κ) (descending : Bool) (group other : List (ScopeRow κ)) : Bool :=
  if descending then db.before (db.shared value other) (db.shared value group)
  else db.before (db.shared value group) (db.shared value other)

theorem weakOrder_sorts (value : ScopeRow κ → κ) (descending : Bool) : Grouped.WeakOrder (db.sorts value descending) := by
  cases descending with
  | false => exact db.before_order.comap (db.shared value)
  | true => exact db.before_order.swap.comap (db.shared value)

end Engine

def RowExpr.eval {κ : Type} (db : Engine κ) (row : ScopeRow κ) : RowExpr → κ
  | .column c => db.cell row c
  | .bucket b c => db.bucketOf b (db.cell row c)
  | .geoJson c => db.geoJson (db.cell row c)
  | .call fn args => db.call fn (args.map (Sum.map (db.cell row) id))

section

variable {κ : Type} [DecidableEq κ] (db : Engine κ)

def GroupExpr.eval (rows : List (ScopeRow κ)) : GroupExpr → κ
  | .countRows => db.number rows.length
  | .count distinct e => db.count distinct (rows.map fun row => e.eval db row)
  | .aggregate fn e => db.aggregate fn (rows.map fun row => e.eval db row)
  | .quotient num denom => db.divide (num.eval rows) (db.nullIfZero (denom.eval rows))

def Output.eval (group : List (ScopeRow κ)) : Output → κ
  | .ofRow e => db.shared (fun row => e.eval db row) group
  | .ofGroup e => e.eval db group

/-- The SELECT a statement is. -/
def SelectStatement.toSelect (s : SelectStatement) : Grouped.Select (ScopeRow κ) (List κ) (List κ) where
  passes row := s.condition.elim true fun c => c.eval (fun p => p.eval db.toCells (db.cell row)) == .yes
  key := if s.groupBy = [] then none else some fun row => s.groupBy.map fun e => e.eval db row
  line group := s.outputs.map fun o => o.eval db group
  before := Grouped.lexicographic (s.orderBy.map fun p => db.sorts (fun row => p.1.eval db row) p.2)
  distinct := s.distinct
  skip := s.window.skip
  keep := s.window.keep

end

end GraphNight
