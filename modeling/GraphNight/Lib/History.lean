import Mathlib.Data.List.Count
import Mathlib.Data.List.Induction

/-!
# Histories

A history lists events in the order they happened. What every event satisfies with the
events before it is kept by one more event that does (`EachAfter.snoc`); a bound that each
event of a kind obeys on the ones before it bounds their number (`EachAfter.countP_le`).
-/

namespace History

variable {α : Type} {P : List α → α → Prop} {l : List α}

/-- Every event satisfies a property with the events before it. -/
def EachAfter (P : List α → α → Prop) (l : List α) : Prop := ∀ before a after, l = before ++ a :: after → P before a

theorem EachAfter.nil : EachAfter P [] := by
  intro before a after h
  cases before <;> cases h

theorem EachAfter.snoc (h : EachAfter P l) {a : α} (ha : P l a) : EachAfter P (l ++ [a]) := by
  intro before a' after hsplit
  rcases List.eq_nil_or_concat after with rfl | ⟨after', last, rfl⟩
  · obtain ⟨rfl, hlast⟩ := List.append_inj' hsplit rfl
    rwa [← List.singleton_inj.1 hlast]
  · have hinit : l = before ++ a' :: after' := by
      have hsnoc : l ++ [a] = (before ++ a' :: after') ++ [last] := by simpa using hsplit
      exact (List.append_inj' hsnoc rfl).1
    exact h before a' after' hinit

theorem eachAfter_snoc {a : α} : EachAfter P (l ++ [a]) ↔ EachAfter P l ∧ P l a := by
  constructor
  · intro h
    refine ⟨fun before a' after hsplit => h before a' (after ++ [a]) ?_, h l a [] rfl⟩
    rw [hsplit, List.append_assoc, List.cons_append]
  · exact fun h => h.1.snoc h.2

/-- Events of a kind that each come after fewer than so many are at most so many. -/
theorem EachAfter.countP_le {p : α → Bool} {n : Nat} (h : EachAfter (fun before a => p a = true → before.countP p < n) l) :
    l.countP p ≤ n := by
  induction l using List.reverseRecOn with
  | nil => exact Nat.zero_le n
  | append_singleton l a ih =>
    obtain ⟨hbefore, ha⟩ := eachAfter_snoc.1 h
    rw [List.countP_append, List.countP_singleton]
    split_ifs with hp
    · exact ha hp
    · exact ih hbefore

end History
