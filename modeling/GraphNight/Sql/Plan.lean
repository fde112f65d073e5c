import GraphNight.Core.Models

/-!
# Statements under construction

The text of a statement is kept as the pieces the builders write, one piece for
each thing a `format!` splices: text of the generator's own, a name spliced as it
stands, a name that goes through `quote_ident`, a bind placeholder. Rendering the
pieces with a dialect (`Dialect.render`) gives the string the source builds.
-/

namespace GraphNight

/-- One piece of SQL text. -/
inductive Frag where
  /-- Text of the generator's own, and registry SQL copied as it stands. -/
  | code (text : String)
  /-- A name spliced as it stands. -/
  | raw (name : String)
  /-- A name passed through `quote_ident`. -/
  | ident (name : String)
  /-- The name of an allow-listed function. -/
  | func (name : String)
  /-- A numeric literal of a formula, as written. -/
  | number (text : String)
  /-- The bind placeholder of the parameter at `index` (1-based). -/
  | param (index : Nat)
  /-- A value inlined with the dialect's escaping. -/
  | value (v : Value)
deriving DecidableEq, Repr

/-- SQL text, piece by piece. -/
abbrev SqlText := List Frag

namespace SqlText

def code (text : String) : SqlText := [.code text]

def raw (name : String) : SqlText := [.raw name]

def ident (name : String) : SqlText := [.ident name]

/-- `slice::join` on pieces of SQL. -/
def join (sep : String) : List SqlText → SqlText
  | [] => []
  | [t] => t
  | t :: u :: rest => t ++ code sep ++ join sep (u :: rest)

/-- A call of `fn` on one argument. -/
def call (fn : String) (arg : SqlText) : SqlText := code (fn ++ "(") ++ arg ++ code ")"

end SqlText

structure SelectItem where
  expression : SqlText
  aliasName : Option String
deriving DecidableEq, Repr

structure OrderByItem where
  column : SqlText
  descending : Bool
deriving DecidableEq, Repr

/-- One join of a statement, with its ON condition quoted for the dialect. -/
structure JoinClause where
  joinType : String
  table : String
  aliasName : String
  on : SqlText
deriving DecidableEq, Repr

/-- Logical plan representation. -/
structure LogicalPlan where
  /-- Either a table name or, when `sourceIsSql` is set, a raw SQL expression. -/
  sourceTable : String
  sourceIsSql : Bool
  sourceAlias : String
  selectItems : List SelectItem
  whereClause : Option SqlText
  groupBy : List SqlText
  orderBy : List OrderByItem
  limit : Option Nat
  offset : Option Nat
  joins : List JoinClause
  distinct : Bool
  /-- Filter values in placeholder order. -/
  params : List Value
deriving DecidableEq, Repr

end GraphNight
