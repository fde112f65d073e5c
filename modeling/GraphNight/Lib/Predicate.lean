import GraphNight.Lib.Condition

/-!
# Predicates on one column

The comparisons a condition is made of, over any columns, cells, values and
geometries. What a database makes of a cell and a value is a parameter (`Cells`): a
comparison it cannot decide, as with a null, is unknown.
-/

namespace Truth

def not : Truth → Truth
  | yes => no
  | no => yes
  | unknown => unknown

/-- A fact that may be unknown. -/
def ofFact : Option Bool → Truth
  | some true => yes
  | some false => no
  | none => unknown

theorem not_or (s t : Truth) : (s.or t).not = s.not.and t.not := by cases s <;> cases t <;> rfl

/-- No disjunct is true where every one of them is false. -/
theorem not_any (ts : List Truth) : (any ts).not = all (ts.map not) := by
  induction ts with
  | nil => rfl
  | cons t ts ih =>
    have hany : any (t :: ts) = t.or (any ts) := rfl
    rw [hany, not_or, ih]
    rfl

theorem not_ofFact (o : Option Bool) : (ofFact o).not = ofFact (o.map (!·)) := by
  rcases o with _ | _ | _ <;> rfl

end Truth

/-- An order relation. -/
inductive Relation where
  | eq | ne | lt | le | gt | ge
deriving DecidableEq, Repr

def Relation.holds : Relation → Ordering → Bool
  | eq, o => o == .eq
  | ne, o => !(o == .eq)
  | lt, o => o == .lt
  | le, o => !(o == .gt)
  | gt, o => o == .gt
  | ge, o => !(o == .lt)

/-- How two geometries lie. -/
inductive SpatialRelation where
  | intersects | within | contains
deriving DecidableEq, Repr

/-- What a database makes of a cell beside a value. -/
structure Cells (κ ν γ : Type) where
  isNull : κ → Bool
  compare : κ → ν → Option Ordering
  like : κ → ν → Option Bool
  /-- The match that ignores case. -/
  likeAnyCase : κ → ν → Option Bool
  relate : SpatialRelation → κ → γ → Option Bool

/-- A relation of a cell to a value. -/
def Cells.relates {κ ν γ : Type} (db : Cells κ ν γ) (r : Relation) (cell : κ) (v : ν) : Truth :=
  Truth.ofFact ((db.compare cell v).map r.holds)

/-- A predicate on a column. -/
inductive Predicate (χ ν γ : Type) where
  | compare (r : Relation) (column : χ) (v : ν)
  | like (anyCase : Bool) (column : χ) (pattern : ν)
  | member (negated : Bool) (column : χ) (vs : List ν)
  | range (negated : Bool) (column : χ) (low high : ν)
  | null (negated : Bool) (column : χ)
  | spatial (r : SpatialRelation) (column : χ) (geometry : γ)
deriving DecidableEq

namespace Predicate

variable {χ κ ν γ : Type}

/-- The column a predicate is about. -/
def column : Predicate χ ν γ → χ
  | compare _ c _ | like _ c _ | member _ c _ | range _ c _ _ | null _ c | spatial _ c _ => c

def negateIf (negated : Bool) (t : Truth) : Truth := if negated then t.not else t

/-- The truth of a predicate on a row. -/
def eval (db : Cells κ ν γ) (row : χ → κ) : Predicate χ ν γ → Truth
  | compare r column v => db.relates r (row column) v
  | like anyCase column pattern =>
    Truth.ofFact ((if anyCase then db.likeAnyCase else db.like) (row column) pattern)
  | member negated column vs => negateIf negated (Truth.any (vs.map (db.relates .eq (row column))))
  | range negated column low high =>
    negateIf negated ((db.relates .ge (row column) low).and (db.relates .le (row column) high))
  | null negated column => negateIf negated (Truth.ofFact (some (db.isNull (row column))))
  | spatial r column geometry => Truth.ofFact (db.relate r (row column) geometry)

/-- Not a member: different from every one. -/
theorem eval_not_member (db : Cells κ ν γ) (row : χ → κ) (column : χ) (vs : List ν) :
    (member true column vs : Predicate χ ν γ).eval db row = Truth.all (vs.map (db.relates .ne (row column))) := by
  have hne : ∀ v, (db.relates .eq (row column) v).not = db.relates .ne (row column) v := by
    intro v
    unfold Cells.relates
    rw [Truth.not_ofFact, Option.map_map]
    rfl
  show (Truth.any (vs.map (db.relates .eq (row column)))).not = _
  rw [Truth.not_any, List.map_map]
  exact congrArg Truth.all (List.map_congr_left fun v _ => hne v)

end Predicate
