import Mathlib.Data.List.Sort

/-!
# Stable sorting

A stable sort and a selection commute: what is selected comes out in the order it has
among all. The order a list comes in shows in the sort exactly where elements tie.
-/

namespace StableSort

variable {α : Type} {le : α → α → Bool}

/-- Two ways to cut a list where an element belongs are the same. -/
theorem cut_unique {a : α} {l₁ l₂ m₁ m₂ : List α} (h : l₁ ++ l₂ = m₁ ++ m₂) (hl₁ : ∀ b ∈ l₁, le a b = false)
    (hl₂ : ∀ b ∈ l₂, le a b = true) (hm₁ : ∀ b ∈ m₁, le a b = false) (hm₂ : ∀ b ∈ m₂, le a b = true) :
    l₁ = m₁ ∧ l₂ = m₂ := by
  have hcut : ∀ {k₁ k₂ : List α}, (∀ b ∈ k₁, le a b = false) → (∀ b ∈ k₂, le a b = true) →
      (k₁ ++ k₂).filter (fun b => !le a b) = k₁ := by
    intro k₁ k₂ hk₁ hk₂
    rw [List.filter_append, List.filter_eq_self.2 (by simpa using hk₁), List.filter_eq_nil_iff.2 (by simpa using hk₂),
      List.append_nil]
  have hfront : l₁ = m₁ := by
    rw [← hcut hl₁ hl₂, h, hcut hm₁ hm₂]
  subst hfront
  exact ⟨rfl, List.append_cancel_left h⟩

/-- What is selected of a sorted list is what is selected, sorted. -/
theorem filter_mergeSort (trans : ∀ a b c, le a b → le b c → le a c) (total : ∀ a b, (le a b || le b a) = true)
    (p : α → Bool) (l : List α) : (l.mergeSort le).filter p = (l.filter p).mergeSort le := by
  induction l with
  | nil => simp
  | cons a l ih =>
    obtain ⟨l₁, l₂, hsort, hrest, hbefore⟩ := List.mergeSort_cons trans total a l
    rw [hrest, List.filter_append] at ih
    rw [hsort, List.filter_append]
    cases hp : p a with
    | false => rw [List.filter_cons_of_neg (by simp [hp]), List.filter_cons_of_neg (by simp [hp]), ih]
    | true =>
      rw [List.filter_cons_of_pos hp, List.filter_cons_of_pos hp]
      obtain ⟨m₁, m₂, hsort', hrest', hbefore'⟩ := List.mergeSort_cons trans total a (l.filter p)
      have hafter : ∀ b ∈ l₂, le a b = true := by
        have hsorted := List.pairwise_mergeSort trans total (a :: l)
        rw [hsort, List.pairwise_append, List.pairwise_cons] at hsorted
        exact hsorted.2.1.1
      have hafter' : ∀ b ∈ m₂, le a b = true := by
        have hsorted := List.pairwise_mergeSort trans total (a :: l.filter p)
        rw [hsort', List.pairwise_append, List.pairwise_cons] at hsorted
        exact hsorted.2.1.1
      obtain ⟨hfront, hback⟩ := cut_unique (a := a) (ih.trans hrest')
        (fun b hb => by simpa using hbefore b (List.mem_of_mem_filter hb))
        (fun b hb => hafter b (List.mem_of_mem_filter hb)) (by simpa using hbefore') hafter'
      rw [hsort', hfront, hback]

/-- A selection that holds of the first elements leaves them first. -/
theorem take_filter_eq_iff {p : α → Bool} {l : List α} {k : Nat} :
    (l.filter p).take k = l.take k ↔ ∀ a ∈ l.take k, p a = true := by
  constructor
  · intro h a ha
    rw [← h] at ha
    exact (List.mem_filter.1 (List.mem_of_mem_take ha)).2
  · intro h
    conv_lhs => rw [← List.take_append_drop k l]
    rw [List.filter_append, List.filter_eq_self.2 h]
    rcases Nat.le_total k l.length with hle | hle
    · rw [List.take_append_of_le_length (by rw [List.length_take]; omega), List.take_take, Nat.min_self]
    · rw [List.drop_of_length_le hle, List.filter_nil, List.append_nil, List.take_take, Nat.min_self]

/-- The best of a part are the best of all exactly where the best of all are in the part. -/
theorem take_mergeSort_filter_iff (trans : ∀ a b c, le a b → le b c → le a c)
    (total : ∀ a b, (le a b || le b a) = true) {p : α → Bool} {l : List α} {k : Nat} :
    ((l.filter p).mergeSort le).take k = (l.mergeSort le).take k ↔ ∀ a ∈ (l.mergeSort le).take k, p a = true := by
  rw [← filter_mergeSort trans total, take_filter_eq_iff]

/-- Two elements of a list without duplicates stand in one order only. -/
theorem not_pair_sublist_swap {a b : α} {l : List α} (hnodup : l.Nodup) (h : List.Sublist [a, b] l) : ¬List.Sublist [b, a] l := by
  induction l with
  | nil => cases h
  | cons c l ih =>
    obtain ⟨hc, hnodup⟩ := List.nodup_cons.1 hnodup
    intro hswap
    rcases List.cons_sublist_cons'.1 h with htail | ⟨rfl, hb⟩
    · rcases List.cons_sublist_cons'.1 hswap with hswap | ⟨rfl, -⟩
      · exact ih hnodup htail hswap
      · exact hc (htail.subset (List.mem_cons_of_mem _ (List.mem_singleton_self _)))
    · rcases List.cons_sublist_cons'.1 hswap with hswap | ⟨rfl, ha⟩
      · exact hc (hswap.subset (List.mem_cons_of_mem _ (List.mem_singleton_self _)))
      · exact hc (ha.subset (List.mem_singleton_self _))

/-- **Sorting takes a list to the same result in whatever order it comes, if and only if no two
elements of it tie.** -/
theorem mergeSort_perm_iff (trans : ∀ a b c, le a b → le b c → le a c) (total : ∀ a b, (le a b || le b a) = true) {l : List α}
    (hnodup : l.Nodup) :
    (∀ l' : List α, l'.Perm l → l'.mergeSort le = l.mergeSort le) ↔ ∀ a ∈ l, ∀ b ∈ l, le a b → le b a → a = b := by
  constructor
  · intro hsame a ha b hb hab hba
    by_contra hne
    obtain ⟨s, t, rfl⟩ := List.append_of_mem ha
    have hb' : b ∈ s ++ t := by
      have hb := (List.perm_middle.mem_iff).1 hb
      exact (List.mem_cons.1 hb).resolve_left fun h => hne h.symm
    obtain ⟨s', t', hst⟩ := List.append_of_mem hb'
    have hperm : (a :: b :: (s' ++ t')).Perm (s ++ a :: t) :=
      ((List.perm_middle.symm.trans (hst ▸ List.Perm.refl _)).cons a).trans List.perm_middle.symm
    have hab := List.pair_sublist_mergeSort trans total hab (l := a :: b :: (s' ++ t')) (by simp)
    have hba := List.pair_sublist_mergeSort trans total hba (l := b :: a :: (s' ++ t')) (by simp)
    rw [hsame _ hperm] at hab
    rw [hsame _ ((List.Perm.swap a b _).trans hperm)] at hba
    exact not_pair_sublist_swap ((List.mergeSort_perm _ _).nodup_iff.2 hnodup) hab hba
  · intro hties l' hperm
    refine @List.Perm.eq_of_pairwise α (fun a b => le a b = true) _ _ (fun a b ha hb hab hba => ?_) (List.pairwise_mergeSort trans total _)
      (List.pairwise_mergeSort trans total _) ((List.mergeSort_perm _ _).trans (hperm.trans (List.mergeSort_perm _ _).symm))
    exact hties a (hperm.mem_iff.1 (List.mem_mergeSort.1 ha)) b (List.mem_mergeSort.1 hb) hab hba

end StableSort
