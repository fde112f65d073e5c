import Mathlib.Logic.Nontrivial.Defs
import Mathlib.Tactic.ByContra

/-!
# Expressions and aggregates over a table

What an expression is on a row and an aggregate on the rows of a table, for functions that a
database may give any meaning. Terms that mean the same in every database, on every table, are
the same term.
-/

namespace Aggregate

/-- An expression on a row: a column, a call, or a text that a database evaluates. -/
inductive Scalar (κ φ τ : Type) where
  | column (c : κ)
  | call (f : φ)
  | text (t : τ)
deriving DecidableEq

/-- An aggregate over a table: of an expression, or a text that a database evaluates. -/
inductive Term (α κ φ τ : Type) where
  | of (a : α) (s : Scalar κ φ τ)
  | text (t : τ)
deriving DecidableEq

/-- The functions of a database. -/
structure Database (α κ φ τ ν : Type) where
  call : φ → (κ → ν) → ν
  scalar : τ → (κ → ν) → ν
  apply : α → List ν → ν
  aggregate : τ → List (κ → ν) → ν

variable {α κ φ τ ν : Type}

namespace Scalar

def eval (db : Database α κ φ τ ν) (row : κ → ν) : Scalar κ φ τ → ν
  | column c => row c
  | call f => db.call f row
  | text t => db.scalar t row

end Scalar

namespace Term

def eval (db : Database α κ φ τ ν) (rows : List (κ → ν)) : Term α κ φ τ → ν
  | of a s => db.apply a (rows.map (s.eval db))
  | text t => db.aggregate t rows

/-- Two terms mean the same on every table of every database. -/
def Same (ν : Type) (t t' : Term α κ φ τ) : Prop :=
  ∀ (db : Database α κ φ τ ν) (rows : List (κ → ν)), t.eval db rows = t'.eval db rows

open Classical in
/-- The database that answers `yes` to one term, on a table of one row, and `no` to others. -/
noncomputable def only (t : Term α κ φ τ) (yes no : ν) : Database α κ φ τ ν where
  call f _ := if ∃ a, t = of a (.call f) then yes else no
  scalar s _ := if ∃ a, t = of a (.text s) then yes else no
  apply a vs := if (∃ s, t = of a s) ∧ vs = [yes] then yes else no
  aggregate s _ := if t = text s then yes else no

open Classical in
/-- The row of that table. -/
noncomputable def onlyRow (t : Term α κ φ τ) (yes no : ν) : κ → ν := fun c => if ∃ a, t = of a (.column c) then yes else no

theorem scalar_of_only {t : Term α κ φ τ} {yes no : ν} (hne : no ≠ yes) {s : Scalar κ φ τ}
    (h : s.eval (only t yes no) (onlyRow t yes no) = yes) : ∃ a, t = of a s := by
  cases s with
  | column c =>
    by_contra hnot
    exact hne ((if_neg hnot).symm.trans h)
  | call f =>
    by_contra hnot
    exact hne ((if_neg hnot).symm.trans h)
  | text t' =>
    by_contra hnot
    exact hne ((if_neg hnot).symm.trans h)

theorem eval_only (t : Term α κ φ τ) (yes no : ν) : t.eval (only t yes no) [onlyRow t yes no] = yes := by
  cases t with
  | text s => exact if_pos rfl
  | of a s =>
    have hs : s.eval (only (of a s) yes no) (onlyRow (of a s) yes no) = yes := by
      cases s <;> exact if_pos ⟨a, rfl⟩
    exact if_pos ⟨⟨s, rfl⟩, congrArg (fun v => [v]) hs⟩

theorem eq_of_only {t t' : Term α κ φ τ} {yes no : ν} (hne : no ≠ yes)
    (h : t'.eval (only t yes no) [onlyRow t yes no] = yes) : t = t' := by
  cases t' with
  | text s =>
    by_contra hnot
    exact hne ((if_neg hnot).symm.trans h)
  | of a s =>
    have happly : (∃ s', t = of a s') ∧ [s.eval (only t yes no) (onlyRow t yes no)] = [yes] := by
      by_contra hnot
      exact hne ((if_neg hnot).symm.trans h)
    obtain ⟨⟨s', hs'⟩, hvalue⟩ := happly
    obtain ⟨a', ha'⟩ := scalar_of_only hne (List.cons.inj hvalue).1
    have hsame : of a s' = of a' s := hs'.symm.trans ha'
    rw [hs', (Term.of.inj hsame).2]

/-- **Terms that mean the same** are the same. -/
theorem same_iff [Nontrivial ν] {t t' : Term α κ φ τ} : Same ν t t' ↔ t = t' := by
  constructor
  · intro h
    obtain ⟨yes, no, hne⟩ := exists_pair_ne ν
    exact eq_of_only hne.symm ((h (only t yes no) [onlyRow t yes no]).symm.trans (eval_only t yes no))
  · rintro rfl
    exact fun _ _ => rfl

end Term

/-- Two expressions mean the same on every row of every database. -/
def Scalar.Same (α ν : Type) (s s' : Scalar κ φ τ) : Prop :=
  ∀ (db : Database α κ φ τ ν) (row : κ → ν), s.eval db row = s'.eval db row

/-- **Expressions that mean the same** are the same. -/
theorem Scalar.same_iff [Nontrivial ν] [Nonempty α] {s s' : Scalar κ φ τ} : Scalar.Same α ν s s' ↔ s = s' := by
  constructor
  · intro h
    obtain ⟨a⟩ := ‹Nonempty α›
    have hterms : Term.Same ν (Term.of a s) (Term.of a s') := fun db rows =>
      congrArg (db.apply a) (List.map_congr_left fun row _ => h db row)
    exact (Term.of.inj (Term.same_iff.1 hterms)).2
  · rintro rfl
    exact fun _ _ => rfl

end Aggregate
