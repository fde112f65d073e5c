import Mathlib.Data.List.Lex
import Mathlib.Tactic.IntervalCases

/-!
# Texts of fixed width

Where every field of a text is a number padded to a width of its own, two texts of one layout are
ordered as the lists of their numbers are.
-/

namespace FixedWidth

/-- The last `w` decimal digits of a number. -/
def padded : Nat → Nat → List Char
  | 0, _ => []
  | w + 1, n => padded w (n / 10) ++ [Nat.digitChar (n % 10)]

theorem length_padded (w n : Nat) : (padded w n).length = w := by
  induction w generalizing n with
  | zero => rfl
  | succ w ih => rw [padded, List.length_append, ih, List.length_singleton]

section

variable {α : Type} [LT α]

/-- Texts that begin with parts of one length are ordered by these first. -/
theorem append_lt_append_iff {a b c d : List α} (h : a.length = b.length) : a ++ c < b ++ d ↔ a < b ∨ a = b ∧ c < d := by
  induction a generalizing b with
  | nil =>
    obtain rfl := List.length_eq_zero_iff.1 h.symm
    simp
  | cons x a ih =>
    cases b with
    | nil => cases h
    | cons y b =>
      rw [List.cons_append, List.cons_append, List.cons_lt_cons_iff, List.cons_lt_cons_iff, ih (Nat.succ.inj h), List.cons.injEq]
      constructor
      · rintro (hlt | ⟨rfl, hlt | ⟨rfl, hlt⟩⟩)
        · exact .inl (.inl hlt)
        · exact .inl (.inr ⟨rfl, hlt⟩)
        · exact .inr ⟨⟨rfl, rfl⟩, hlt⟩
      · rintro ((hlt | ⟨rfl, hlt⟩) | ⟨⟨rfl, rfl⟩, hlt⟩)
        · exact .inl hlt
        · exact .inr ⟨rfl, .inl hlt⟩
        · exact .inr ⟨rfl, .inr ⟨rfl, hlt⟩⟩

end

theorem digitChar_lt_iff {n m : Nat} (hn : n < 10) (hm : m < 10) : Nat.digitChar n < Nat.digitChar m ↔ n < m := by
  interval_cases n <;> interval_cases m <;> decide

theorem digitChar_inj {n m : Nat} (hn : n < 10) (hm : m < 10) : Nat.digitChar n = Nat.digitChar m ↔ n = m := by
  interval_cases n <;> interval_cases m <;> decide

/-- **Numbers of one width are told by their digits.** -/
theorem padded_inj {w n m : Nat} (hn : n < 10 ^ w) (hm : m < 10 ^ w) : padded w n = padded w m ↔ n = m := by
  induction w generalizing n m with
  | zero =>
    rw [Nat.lt_one_iff.1 hn, Nat.lt_one_iff.1 hm]
    exact iff_of_true rfl rfl
  | succ w ih =>
    rw [Nat.pow_succ] at hn hm
    have hn' : n / 10 < 10 ^ w := by omega
    have hm' : m / 10 < 10 ^ w := by omega
    rw [padded, padded, List.append_eq_append_iff_of_size_eq_left (by rw [length_padded, length_padded]), List.cons.injEq,
      ih hn' hm', digitChar_inj (Nat.mod_lt _ (by decide)) (Nat.mod_lt _ (by decide))]
    simp only [and_true]
    omega

/-- **Numbers of one width are ordered by their digits.** -/
theorem padded_lt_iff {w n m : Nat} (hn : n < 10 ^ w) (hm : m < 10 ^ w) : padded w n < padded w m ↔ n < m := by
  induction w generalizing n m with
  | zero =>
    rw [Nat.lt_one_iff.1 hn, Nat.lt_one_iff.1 hm]
    simp [padded]
  | succ w ih =>
    rw [Nat.pow_succ] at hn hm
    have hn' : n / 10 < 10 ^ w := by omega
    have hm' : m / 10 < 10 ^ w := by omega
    rw [padded, padded, append_lt_append_iff (by rw [length_padded, length_padded]), ih hn' hm',
      padded_inj hn' hm', List.cons_lt_cons_iff, digitChar_lt_iff (Nat.mod_lt _ (by decide)) (Nat.mod_lt _ (by decide))]
    simp only [List.not_lt_nil, and_false, or_false]
    omega

/-! ## Layouts -/

/-- One part of a layout. -/
inductive Part (ι : Type) where
  | literal (c : Char)
  | field (i : ι)
deriving DecidableEq, Repr

variable {ι : Type} (width : ι → Nat)

/-- The text of some values in a layout. -/
def render (value : ι → Nat) : List (Part ι) → List Char
  | [] => []
  | .literal c :: parts => c :: render value parts
  | .field i :: parts => padded (width i) (value i) ++ render value parts

/-- The values a layout shows. -/
def shown (value : ι → Nat) : List (Part ι) → List Nat
  | [] => []
  | .literal _ :: parts => shown value parts
  | .field i :: parts => value i :: shown value parts

variable {width} {value value' : ι → Nat}

theorem render_inj (hvalue : ∀ i, value i < 10 ^ width i) (hvalue' : ∀ i, value' i < 10 ^ width i) (parts : List (Part ι)) :
    render width value parts = render width value' parts ↔ shown value parts = shown value' parts := by
  induction parts with
  | nil => simp [render, shown]
  | cons part parts ih =>
    cases part with
    | literal c => rw [render, render, shown, shown, List.cons.injEq, ih, and_iff_right rfl]
    | field i =>
      rw [render, render, shown, shown, List.append_eq_append_iff_of_size_eq_left (by rw [length_padded, length_padded]),
        padded_inj (hvalue i) (hvalue' i), ih, List.cons.injEq]

/-- **Texts of one layout are ordered as what they show.** -/
theorem render_lt_iff (hvalue : ∀ i, value i < 10 ^ width i) (hvalue' : ∀ i, value' i < 10 ^ width i) (parts : List (Part ι)) :
    render width value parts < render width value' parts ↔ shown value parts < shown value' parts := by
  induction parts with
  | nil => simp [render, shown]
  | cons part parts ih =>
    cases part with
    | literal c =>
      rw [render, render, shown, shown, List.cons_lt_cons_iff, ih]
      simp
    | field i =>
      rw [render, render, shown, shown, append_lt_append_iff (by rw [length_padded, length_padded]), padded_lt_iff (hvalue i) (hvalue' i),
        padded_inj (hvalue i) (hvalue' i), ih, List.cons_lt_cons_iff]

end FixedWidth
