import Mathlib.Data.List.Infix

/-!
# Texts between quotes

A text is quoted by a quote at either end and two for each of its own. What follows a quoted text
does not begin with the quote, so that the quoted text ends in one place only.
-/

namespace Quote

variable {q : Char}

/-- Each quote of a text twice. -/
def double (q : Char) (cs : List Char) : List Char := cs.flatMap fun c => if c = q then [q, q] else [c]

/-- A text between quotes. -/
def quote (q : Char) (cs : List Char) : List Char := q :: (double q cs ++ [q])

@[simp] theorem double_nil : double q [] = [] := rfl

@[simp] theorem double_cons_self (cs : List Char) : double q (q :: cs) = q :: q :: double q cs := by
  simp [double]

theorem double_cons_of_ne {c : Char} (h : c ≠ q) (cs : List Char) : double q (c :: cs) = c :: double q cs := by
  simp [double, h]

theorem mem_double {c : Char} {cs : List Char} (h : c ∈ cs) : c ∈ double q cs := by
  refine List.mem_flatMap.2 ⟨c, h, ?_⟩
  split_ifs with hq
  · simp [hq]
  · exact List.mem_singleton.2 rfl

/-- A text whose doubled quotes are one. -/
def undouble (q : Char) : List Char → List Char
  | [] => []
  | [c] => [c]
  | c :: d :: cs => if c = q ∧ d = q then q :: undouble q cs else c :: undouble q (d :: cs)

theorem undouble_cons_of_ne {c : Char} (h : c ≠ q) (cs : List Char) : undouble q (c :: cs) = c :: undouble q cs := by
  cases cs with
  | nil => rfl
  | cons d cs => rw [undouble, if_neg fun hc => h hc.1]

/-- **The quotes of a text are read back.** -/
theorem undouble_double (cs : List Char) : undouble q (double q cs) = cs := by
  induction cs with
  | nil => rfl
  | cons c cs ih =>
    by_cases hc : c = q
    · subst hc
      rw [double_cons_self, undouble, if_pos ⟨rfl, rfl⟩, ih]
    · rw [double_cons_of_ne hc, undouble_cons_of_ne hc, ih]

/-- **A quoted text is read in one way**, where no quote follows it. -/
theorem quote_append_inj {cs ds s t : List Char} (hs : s.head? ≠ some q) (ht : t.head? ≠ some q)
    (h : quote q cs ++ s = quote q ds ++ t) : cs = ds ∧ s = t := by
  have hdouble : double q cs ++ q :: s = double q ds ++ q :: t := by
    simpa [quote] using h
  clear h
  induction cs generalizing ds with
  | nil =>
    cases ds with
    | nil => exact ⟨rfl, (List.cons.inj hdouble).2⟩
    | cons d ds =>
      by_cases hd : d = q
      · subst hd
        rw [double_cons_self] at hdouble
        exact absurd (congrArg List.head? (List.cons.inj hdouble).2) hs
      · rw [double_cons_of_ne hd] at hdouble
        exact absurd (List.cons.inj hdouble).1.symm hd
  | cons c cs ih =>
    cases ds with
    | nil =>
      by_cases hc : c = q
      · subst hc
        rw [double_cons_self] at hdouble
        exact absurd (congrArg List.head? (List.cons.inj hdouble).2).symm ht
      · rw [double_cons_of_ne hc] at hdouble
        exact absurd (List.cons.inj hdouble).1 hc
    | cons d ds =>
      by_cases hc : c = q
      · subst hc
        by_cases hd : d = c
        · subst hd
          rw [double_cons_self, double_cons_self] at hdouble
          obtain ⟨rfl, rfl⟩ := ih (List.cons.inj (List.cons.inj hdouble).2).2
          exact ⟨rfl, rfl⟩
        · rw [double_cons_self, double_cons_of_ne hd] at hdouble
          exact absurd (List.cons.inj hdouble).1.symm hd
      · rw [double_cons_of_ne hc] at hdouble
        by_cases hd : d = q
        · subst hd
          rw [double_cons_self] at hdouble
          exact absurd (List.cons.inj hdouble).1 hc
        · rw [double_cons_of_ne hd] at hdouble
          obtain ⟨rfl, hrest⟩ := List.cons.inj hdouble
          obtain ⟨rfl, rfl⟩ := ih hrest
          exact ⟨rfl, rfl⟩

/-- The quotes a text begins with are fewer than those it is quoted with. -/
theorem plain_ne_replicate_append {b : Char} (hb : b ≠ q) (n : Nat) {cs s y z w : List Char} (hy : y <+: cs ++ b :: s)
    (hz : z.head? ≠ some q) : y ++ z ≠ List.replicate (n + 1) q ++ double q cs ++ q :: w := by
  induction cs generalizing n y with
  | nil =>
    intro h
    cases y with
    | nil => exact hz (by rw [show z = _ from h]; rfl)
    | cons c y =>
      have hc : c = b := (List.cons_prefix_cons.1 hy).1
      exact hb (hc.symm.trans (List.cons.inj h).1)
  | cons c cs ih =>
    intro h
    cases y with
    | nil => exact hz (by rw [show z = _ from h]; rfl)
    | cons d y =>
      obtain ⟨rfl, hrest⟩ := List.cons_prefix_cons.1 hy
      obtain ⟨rfl, h⟩ := List.cons.inj h
      refine ih (n + 1) hrest ?_
      rw [show y ++ z = _ from h, double_cons_self, List.replicate_succ', List.replicate_succ']
      simp

/-- **A text that is not quoted is no quoted one**, whatever follows. -/
theorem plain_ne_quote_append {b : Char} (hb : b ≠ q) {cs s y z w : List Char} (hy : y <+: cs ++ b :: s) (hz : z.head? ≠ some q) :
    y ++ z ≠ quote q cs ++ w := by
  have hne := plain_ne_replicate_append hb 0 (w := w) hy hz
  simpa [quote] using hne

end Quote
