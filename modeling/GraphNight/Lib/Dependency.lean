import Mathlib.Data.List.Nodup
import Mathlib.Data.Set.Finite.Basic
import Mathlib.Logic.Relation
import Mathlib.Order.WellFounded

/-!
# Orders in which dependencies come first

`R a b` says that `a` depends on `b`. An order in which every element follows what it
depends on has no cycle; where nothing can be taken next, there is one.
-/

namespace Dependency

variable {α : Type} {R : α → α → Prop}

/-- Where everything that waits depends on something that waits, there is a cycle. -/
theorem exists_cycle {waiting : List α} (hne : waiting ≠ []) (hstuck : ∀ a ∈ waiting, ∃ b ∈ waiting, R a b) :
    ∃ a, Relation.TransGen R a a := by
  by_contra hnone
  rw [not_exists] at hnone
  -- without a cycle, some waiting element is the last on its way
  let below : {a // a ∈ waiting} → {a // a ∈ waiting} → Prop := fun b a => Relation.TransGen R a.1 b.1
  have hirrefl : Std.Irrefl below := ⟨fun a => hnone a.1⟩
  have htrans : IsTrans {a // a ∈ waiting} below := ⟨fun _ _ _ h h' => h'.trans h⟩
  have hfinite : Finite {a // a ∈ waiting} := (List.finite_toSet waiting).to_subtype
  obtain ⟨a, ha⟩ := List.exists_mem_of_ne_nil _ hne
  obtain ⟨⟨last, hlast⟩, -, hmin⟩ := (Finite.wellFounded_of_trans_of_irrefl below).has_min Set.univ ⟨⟨a, ha⟩, trivial⟩
  obtain ⟨next, hnext, hstep⟩ := hstuck last hlast
  exact hmin ⟨next, hnext⟩ trivial (.single hstep)

variable [DecidableEq α] {order : List α}

/-- Everything in the order stands behind what it depends on. -/
def Sorted (R : α → α → Prop) (order : List α) : Prop :=
  ∀ a b, a ∈ order → R a b → b ∈ order ∧ order.idxOf b < order.idxOf a

theorem Sorted.nil : Sorted R [] := fun _ _ h => absurd h List.not_mem_nil

/-- What depends on nothing but the elements of a sorted order can be put behind them. -/
theorem Sorted.concat {a : α} (h : Sorted R order) (hfresh : a ∉ order) (hready : ∀ b, R a b → b ∈ order) :
    Sorted R (order ++ [a]) := by
  intro x y hx hxy
  rcases List.mem_append.1 hx with hx | hx
  · obtain ⟨hy, hlt⟩ := h x y hx hxy
    refine ⟨List.mem_append_left _ hy, ?_⟩
    rwa [List.idxOf_append_of_mem hy, List.idxOf_append_of_mem hx]
  · obtain rfl := List.mem_singleton.1 hx
    have hy := hready y hxy
    refine ⟨List.mem_append_left _ hy, ?_⟩
    rw [List.idxOf_append_of_mem hy, List.idxOf_append_of_notMem hfresh]
    exact Nat.lt_add_right _ (List.idxOf_lt_length_of_mem hy)

/-- Following dependencies goes down in a sorted order. -/
theorem Sorted.lt_of_transGen {a b : α} (h : Sorted R order) (ha : a ∈ order) (hab : Relation.TransGen R a b) :
    b ∈ order ∧ order.idxOf b < order.idxOf a := by
  induction hab with
  | single hab => exact h a _ ha hab
  | tail _ hbc ih =>
    obtain ⟨hc, hlt⟩ := h _ _ ih.1 hbc
    exact ⟨hc, hlt.trans ih.2⟩

theorem Sorted.acyclic {a : α} (h : Sorted R order) (ha : a ∈ order) : ¬Relation.TransGen R a a := fun hcycle =>
  Nat.lt_irrefl _ (h.lt_of_transGen ha hcycle).2

end Dependency
