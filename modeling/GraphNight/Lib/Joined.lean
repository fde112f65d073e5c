import Mathlib.Algebra.BigOperators.Group.List.Basic
import Mathlib.Algebra.Order.Ring.Nat
import Mathlib.Data.List.Basic
import Mathlib.Data.Multiset.Bind

/-!
# The rows of a join

A row under construction is extended by a row of the table that is joined. An outer join
also keeps the rows of a side that meet no row of the other, padded with nulls. What a
row and its extension are is left open; `view` is the part of a row that is asked about.
-/

namespace Joined

variable {ε ρ α : Type}

/-- A join: how rows are put together, when they meet, and which unmatched rows it keeps. -/
structure Step (ε ρ : Type) where
  extend : ε → ρ → ε
  meets : ε → Bool
  keepLeft : Bool
  keepRight : Bool
  /-- A left row beside nulls. -/
  padRight : ε → ε
  /-- A right row beside nulls. -/
  padLeft : ρ → ε

variable (s : Step ε ρ)

/-- The rows a left row makes with the right rows it meets. -/
def Step.matches (right : List ρ) (e : ε) : List ε := (right.map (s.extend e)).filter s.meets

/-- The rows a left row makes. -/
def Step.ofLeft (right : List ρ) (e : ε) : List ε :=
  if s.keepLeft && (s.matches right e).isEmpty then [s.padRight e] else s.matches right e

/-- The right rows that meet no left row. -/
def Step.alone (left : List ε) (right : List ρ) : List ρ :=
  right.filter fun r => left.all fun e => !s.meets (s.extend e r)

/-- The rows of the join. -/
def Step.rows (left : List ε) (right : List ρ) : List ε :=
  left.flatMap (s.ofLeft right) ++ if s.keepRight then (s.alone left right).map s.padLeft else []

variable {s}

/-- The rows a join puts together, and those it pads. -/
theorem mem_rows {left : List ε} {right : List ρ} {x : ε} (h : x ∈ s.rows left right) :
    (∃ e ∈ left, ∃ r ∈ right, x = s.extend e r) ∨ (∃ e ∈ left, x = s.padRight e) ∨ ∃ r ∈ right, x = s.padLeft r := by
  rcases List.mem_append.1 h with h | h
  · obtain ⟨e, he, hx⟩ := List.mem_flatMap.1 h
    unfold Step.ofLeft at hx
    split_ifs at hx
    · exact .inr (.inl ⟨e, he, List.mem_singleton.1 hx⟩)
    · obtain ⟨r, hr, rfl⟩ := List.mem_map.1 (List.mem_of_mem_filter hx)
      exact .inl ⟨e, he, r, hr, rfl⟩
  · split_ifs at h
    · obtain ⟨r, hr, rfl⟩ := List.mem_map.1 h
      exact .inr (.inr ⟨r, List.mem_of_mem_filter hr, rfl⟩)
    · exact absurd h List.not_mem_nil

/-- Only what a condition says of rows put together matters. -/
theorem rows_congr {left : List ε} {right : List ρ} {meets : ε → Bool}
    (h : ∀ e ∈ left, ∀ r ∈ right, meets (s.extend e r) = s.meets (s.extend e r)) :
    { s with meets }.rows left right = s.rows left right := by
  have hmatches : ∀ e ∈ left, { s with meets }.matches right e = s.matches right e := by
    intro e he
    refine List.filter_congr fun x hx => ?_
    obtain ⟨r, hr, rfl⟩ := List.mem_map.1 hx
    exact h e he r hr
  have halone : { s with meets }.alone left right = s.alone left right := by
    refine List.filter_congr fun r hr => ?_
    rw [Bool.eq_iff_iff, List.all_eq_true, List.all_eq_true]
    refine forall₂_congr fun e he => ?_
    show (!meets (s.extend e r)) = true ↔ _
    rw [h e he r hr]
  have hofLeft : ∀ e ∈ left, { s with meets }.ofLeft right e = s.ofLeft right e := fun e he => by
    unfold Step.ofLeft
    rw [hmatches e he]
  rw [Step.rows, Step.rows, halone, List.flatMap_congr hofLeft]

/-- Where all rows meet, an outer join has nothing to pad. -/
theorem rows_of_all_meet {left : List ε} {right : List ρ} (hleft : left ≠ []) (hright : right ≠ [])
    (h : ∀ e ∈ left, ∀ r ∈ right, s.meets (s.extend e r) = true) :
    s.rows left right = left.flatMap fun e => right.map (s.extend e) := by
  have hmatches : ∀ e ∈ left, s.matches right e = right.map (s.extend e) := by
    intro e he
    refine List.filter_eq_self.2 fun x hx => ?_
    obtain ⟨r, hr, rfl⟩ := List.mem_map.1 hx
    exact h e he r hr
  have hofLeft : ∀ e ∈ left, s.ofLeft right e = right.map (s.extend e) := by
    intro e he
    have hsome : (right.map (s.extend e)).isEmpty = false := by
      rw [List.isEmpty_eq_false_iff, ne_eq, List.map_eq_nil_iff]
      exact hright
    rw [Step.ofLeft, hmatches e he, hsome, Bool.and_false, if_neg Bool.false_ne_true]
  have halone : s.alone left right = [] := by
    obtain ⟨e, left', rfl⟩ := List.exists_cons_of_ne_nil hleft
    refine List.filter_eq_nil_iff.2 fun r hr hall => ?_
    have hnot := List.all_eq_true.1 hall e List.mem_cons_self
    rw [h e List.mem_cons_self r hr] at hnot
    cases hnot
  rw [Step.rows, halone, List.map_nil, ite_self, List.append_nil]
  exact List.flatMap_congr hofLeft

theorem length_rows_of_all_meet {left : List ε} {right : List ρ} (hleft : left ≠ []) (hright : right ≠ [])
    (h : ∀ e ∈ left, ∀ r ∈ right, s.meets (s.extend e r) = true) :
    (s.rows left right).length = left.length * right.length := by
  rw [rows_of_all_meet hleft hright h, List.length_flatMap]
  simp

/-- A join leaves the rows of its left side as they are: each meets one row, or none where
it is kept all the same, and no right row comes in alone. -/
structure Step.Keeps (s : Step ε ρ) (left : List ε) (right : List ρ) : Prop where
  once : ∀ e ∈ left, (s.matches right e).length = 1 ∨ s.keepLeft = true ∧ s.matches right e = []
  noneAlone : s.keepRight = true → s.alone left right = []

/-- Such a join does not change what is seen of the left rows. -/
theorem Step.Keeps.map_rows {left : List ε} {right : List ρ} (h : s.Keeps left right) (view : ε → α)
    (hextend : ∀ e r, view (s.extend e r) = view e) (hpad : ∀ e, view (s.padRight e) = view e) :
    (s.rows left right).map view = left.map view := by
  have hone : ∀ e ∈ left, (s.ofLeft right e).map view = [view e] := by
    intro e he
    rcases h.once e he with hlength | ⟨hkeep, hnone⟩
    · obtain ⟨x, hx⟩ := List.length_eq_one_iff.1 hlength
      have hmem : x ∈ s.matches right e := by rw [hx]; exact List.mem_singleton_self x
      obtain ⟨r, -, rfl⟩ := List.mem_map.1 (List.mem_of_mem_filter hmem)
      rw [Step.ofLeft, hx]
      simp [hextend]
    · simp [Step.ofLeft, hnone, hkeep, hpad]
  have hright : (if s.keepRight then (s.alone left right).map s.padLeft else []) = [] := by
    split_ifs with hkeep
    · rw [h.noneAlone hkeep, List.map_nil]
    · rfl
  rw [Step.rows, hright, List.append_nil, List.map_flatMap, List.flatMap_congr hone]
  exact List.map_eq_flatMap.symm

/-! ## Joins around one part of a row -/

/-- Rows joined with one table after the other. -/
def inTurn (left : List ε) (joins : List (Step ε ρ × List ρ)) : List ε := joins.foldl (fun rows join => join.1.rows rows join.2) left

/-- A row beside every choice of rows to extend it with. -/
def combine : List ((ε → ρ → ε) × List ρ) → ε → List ε
  | [], e => [e]
  | (extend, rows) :: rest, e => rows.flatMap fun r => combine rest (extend e r)

theorem length_combine (choices : List ((ε → ρ → ε) × List ρ)) (e : ε) :
    (combine choices e).length = (choices.map fun choice => choice.2.length).prod := by
  induction choices generalizing e with
  | nil => rfl
  | cons choice rest ih =>
    rw [List.map_cons, List.prod_cons, combine, List.length_flatMap, List.map_congr_left fun r _ => ih (choice.1 e r), List.map_const',
      List.sum_replicate_nat]

/-- Extensions that do not see each other. -/
def Apart (choice other : (ε → ρ → ε) × List ρ) : Prop := ∀ e r r', other.1 (choice.1 e r) r' = choice.1 (other.1 e r') r

/-- The order of the choices does not matter. -/
theorem combine_perm {choices choices' : List ((ε → ρ → ε) × List ρ)} (h : choices.Perm choices') (hapart : choices.Pairwise Apart)
    (e : ε) : (combine choices e).Perm (combine choices' e) := by
  induction h generalizing e with
  | nil => exact .refl _
  | cons choice _ ih => exact .flatMap_left _ fun r _ => ih hapart.of_cons (choice.1 e r)
  | swap choice other rest =>
    have hcommute := List.rel_of_pairwise_cons hapart List.mem_cons_self
    have hswap : (combine (other :: choice :: rest) e : Multiset ε) = combine (choice :: other :: rest) e := by
      simp only [combine, ← Multiset.coe_bind]
      rw [Multiset.bind_bind]
      simp only [hcommute _ _ _]
    exact Multiset.coe_eq_coe.1 hswap
  | trans hfirst _ ih ih' =>
    have hsymm : ∀ {choice other : (ε → ρ → ε) × List ρ}, Apart choice other → Apart other choice := fun h e r r' => (h e r' r).symm
    exact (ih hapart e).trans (ih' ((hfirst.pairwise_iff hsymm).1 hapart) e)

/-- The rows of a table that stand beside a row: those it pairs with, or the padding where it is kept without any. -/
def partners (keep : Bool) (pad : ρ) (pairs : ρ → Bool) (right : List ρ) : List ρ :=
  if keep && (right.filter pairs).isEmpty then [pad] else right.filter pairs

/-- A join whose condition sees a row's core alone, which it leaves as it is. It keeps no right row by itself, and
pads like it extends. -/
structure Step.Around {γ : Type} (s : Step ε ρ) (core : ε → γ) (pad : ρ) (pairs : γ → ρ → Bool) : Prop where
  meets : ∀ e r, s.meets (s.extend e r) = pairs (core e) r
  core_extend : ∀ e r, core (s.extend e r) = core e
  padRight : ∀ e, s.padRight e = s.extend e pad
  noneAlone : s.keepRight = false

section Around

variable {γ : Type} {core : ε → γ} {pad : ρ}

theorem Step.Around.rows_eq {pairs : γ → ρ → Bool} (h : s.Around core pad pairs) (left : List ε) (right : List ρ) :
    s.rows left right = left.flatMap fun e => (partners s.keepLeft pad (pairs (core e)) right).map (s.extend e) := by
  have hmatches (e : ε) : s.matches right e = (right.filter (pairs (core e))).map (s.extend e) := by
    rw [Step.matches, List.filter_map]
    exact congrArg _ (List.filter_congr fun r _ => h.meets e r)
  rw [Step.rows, h.noneAlone, if_neg Bool.false_ne_true, List.append_nil]
  refine List.flatMap_congr fun e _ => ?_
  rw [Step.ofLeft, partners, hmatches e, List.isEmpty_map, h.padRight e, apply_ite (List.map (s.extend e))]
  rfl

/-- What a join around a core lets a row be extended with. -/
def Step.Chooses (s : Step ε ρ) (core : ε → γ) (pad : ρ) (right : List ρ) (choice : γ → (ε → ρ → ε) × List ρ) : Prop :=
  ∃ pairs, s.Around core pad pairs ∧ ∀ c, choice c = (s.extend, partners s.keepLeft pad (pairs c) right)

/-- **Joins around a core**: each row stands beside every choice of partners of its core. -/
theorem inTurn_eq {joins : List (Step ε ρ × List ρ)} {choices : List (γ → (ε → ρ → ε) × List ρ)}
    (h : List.Forall₂ (fun join choice => join.1.Chooses core pad join.2 choice) joins choices) (left : List ε) :
    inTurn left joins = left.flatMap fun e => combine (choices.map (· (core e))) e := by
  induction h generalizing left with
  | nil => exact (List.flatMap_singleton' left).symm
  | @cons join choice _ _ hjoin _ ih =>
    obtain ⟨pairs, haround, hchoice⟩ := hjoin
    show inTurn (join.1.rows left join.2) _ = _
    rw [ih, haround.rows_eq, List.flatMap_assoc]
    refine List.flatMap_congr fun e _ => ?_
    rw [List.map_cons, combine, hchoice, List.flatMap_map]
    refine List.flatMap_congr fun r _ => ?_
    rw [haround.core_extend]

end Around

end Joined
