import GraphNight.Lib.Regex
import Mathlib.Data.List.TakeWhile

/-!
# What a pattern takes

Where a repetition is followed by something that none of its characters can begin, it takes all it
can and gives nothing back.
-/

namespace Regex

variable {cls : Char → Bool} {min : Nat} {ps : List Piece} {s : List Char}

theorem downTo_self (n : Nat) : downTo n n = [n] := by
  rw [downTo, Nat.add_sub_cancel_left]
  rfl

theorem downTo_of_lt {hi lo : Nat} (h : hi < lo) : downTo hi lo = [] := by
  rw [downTo, Nat.sub_eq_zero_of_le h]
  rfl

theorem downTo_cons {hi lo : Nat} (h : lo ≤ hi) : ∃ rest, downTo hi lo = hi :: rest ∧ ∀ k ∈ rest, lo ≤ k ∧ k < hi := by
  refine ⟨((List.range (hi - lo)).map (hi - 1 - ·)), ?_, ?_⟩
  · rw [downTo, show hi + 1 - lo = (hi - lo) + 1 by omega, List.range_succ_eq_map, List.map_cons, List.map_map]
    refine List.cons_eq_cons.2 ⟨rfl, List.map_congr_left fun i _ => ?_⟩
    simp only [Function.comp_apply]
    omega
  · intro k hk
    obtain ⟨i, hi', rfl⟩ := List.mem_map.1 hk
    have hlt := List.mem_range.1 hi'
    omega

/-- One literal character. -/
theorem run_char_cons (c x : Char) (t : List Char) :
    run (.rep (· == c) 1 (some 1) :: ps) (x :: t) = if x = c then (run ps t).map ([x] :: ·) else none := by
  rw [run]
  by_cases h : x = c
  · have hlong : longest (· == c) (some 1) (x :: t) = 1 := by
      simp [longest, h]
    rw [hlong, downTo_self, if_pos h]
    cases hrest : run ps t <;> simp [hrest]
  · have hlong : longest (· == c) (some 1) (x :: t) = 0 := by
      simp [longest, h]
    rw [hlong, downTo_of_lt Nat.zero_lt_one, if_neg h]
    rfl

/-- A literal text takes itself. -/
theorem run_lit_append (w : String) (s : List Char) :
    run (lit w ++ ps) (w.toList ++ s) = (run ps s).map (w.toList.map (fun c => [c]) ++ ·) := by
  unfold lit
  induction w.toList with
  | nil => cases h : run ps s <;> simp [h]
  | cons c w ih =>
    rw [List.map_cons, List.cons_append, List.cons_append, run_char_cons, if_pos rfl, ih]
    cases run ps s <;> rfl

/-- A literal text takes nothing else. -/
theorem run_lit_eq_some {w : String} {caps : List (List Char)} : run (lit w ++ ps) s = some caps ↔
    ∃ t rest, s = w.toList ++ t ∧ run ps t = some rest ∧ caps = w.toList.map (fun c => [c]) ++ rest := by
  constructor
  · intro h
    unfold lit at h
    generalize w.toList = cs at *
    induction cs generalizing s caps with
    | nil => exact ⟨s, caps, rfl, h, rfl⟩
    | cons c cs ih =>
      rw [List.map_cons, List.cons_append] at h
      cases s with
      | nil => cases h
      | cons x s =>
        rw [run_char_cons] at h
        split_ifs at h with hx
        subst hx
        obtain ⟨rest, hrest, rfl⟩ := Option.map_eq_some_iff.1 h
        obtain ⟨t, rest, rfl, hrun, rfl⟩ := ih hrest
        exact ⟨t, rest, rfl, hrun, rfl⟩
  · rintro ⟨t, rest, rfl, hrest, rfl⟩
    rw [run_lit_append, hrest]
    rfl

theorem run_eot_eq_some {caps : List (List Char)} : run [.eot] s = some caps ↔ s = [] ∧ caps = [[]] := by
  rw [run]
  split_ifs with h
  · simp [h, run, eq_comm]
  · simp [h]

theorem longest_none (cls : Char → Bool) (s : List Char) : longest cls none s = (s.takeWhile cls).length := rfl

theorem take_longest (cls : Char → Bool) (s : List Char) : s.take (longest cls none s) = s.takeWhile cls := by
  have hprefix := List.takeWhile_prefix cls (l := s)
  exact (List.prefix_iff_eq_take.1 hprefix).symm

theorem drop_longest (cls : Char → Bool) (s : List Char) : s.drop (longest cls none s) = s.dropWhile cls := by
  have hsplit := List.takeWhile_append_dropWhile (p := cls) (l := s)
  calc s.drop (longest cls none s) = (s.takeWhile cls ++ s.dropWhile cls).drop (s.takeWhile cls).length := by rw [hsplit]; rfl
    _ = s.dropWhile cls := List.drop_left

/-- A repetition that can take all of a run takes it. -/
theorem run_rep_first {caps : List (List Char)} (hmin : min ≤ (s.takeWhile cls).length) (h : run ps (s.dropWhile cls) = some caps) :
    run (.rep cls min none :: ps) s = some (s.takeWhile cls :: caps) := by
  obtain ⟨rest, hrest, -⟩ := downTo_cons hmin
  rw [run, longest_none, hrest, List.findSome?_cons]
  rw [← longest_none, drop_longest, h, take_longest]
  rfl

/-- A repetition takes all of a run where what follows cannot begin within it. -/
theorem run_rep_exact (hps : ∀ x t, cls x = true → run ps (x :: t) = none) :
    run (.rep cls min none :: ps) s =
      if min ≤ (s.takeWhile cls).length then (run ps (s.dropWhile cls)).map (s.takeWhile cls :: ·) else none := by
  split_ifs with hmin
  · cases h : run ps (s.dropWhile cls) with
    | some caps => exact run_rep_first hmin h
    | none =>
      rw [run, longest_none, Option.map_none, List.findSome?_eq_none_iff]
      intro k hk
      obtain ⟨-, hle⟩ := mem_downTo hk
      rw [Option.map_eq_none_iff]
      obtain hlt | rfl := Nat.lt_or_eq_of_le hle
      · have hsplit := List.takeWhile_append_dropWhile (p := cls) (l := s)
        have hdrop : s.drop k = (s.takeWhile cls).drop k ++ s.dropWhile cls := by
          conv_lhs => rw [← hsplit]
          exact List.drop_append_of_le_length hle
        cases hpart : (s.takeWhile cls).drop k with
        | nil =>
          have hlength := congrArg List.length hpart
          simp at hlength
          omega
        | cons x t =>
          rw [hdrop, hpart, List.cons_append]
          have hx : x ∈ s.takeWhile cls := List.mem_of_mem_drop (hpart ▸ List.mem_cons_self)
          exact hps x _ (List.mem_takeWhile_imp hx)
      · rw [← longest_none, drop_longest]
        exact h
  · rw [run, longest_none, downTo_of_lt (Nat.lt_of_not_le hmin)]
    rfl

theorem takeWhile_append_of_head {taken rest : List Char} (htaken : ∀ c ∈ taken, cls c = true) (hrest : ∀ c ∈ rest.head?, cls c = false) :
    (taken ++ rest).takeWhile cls = taken ∧ (taken ++ rest).dropWhile cls = rest := by
  rw [List.takeWhile_append_of_pos htaken, List.dropWhile_append_of_pos htaken]
  cases rest with
  | nil => exact ⟨List.append_nil _, rfl⟩
  | cons c rest =>
    have hc : ¬cls c = true := Bool.eq_false_iff.1 (hrest c rfl)
    rw [List.takeWhile_cons_of_neg hc, List.dropWhile_cons_of_neg hc, List.append_nil]
    exact ⟨rfl, rfl⟩

/-- What a repetition takes is a run of its class, where what follows cannot begin within it. -/
theorem run_rep_eq_some {caps : List (List Char)} (hps : ∀ x t, cls x = true → run ps (x :: t) = none) :
    run (.rep cls min none :: ps) s = some caps ↔ ∃ taken rest caps', s = taken ++ rest ∧ (∀ c ∈ taken, cls c = true) ∧
      min ≤ taken.length ∧ run ps rest = some caps' ∧ caps = taken :: caps' := by
  rw [run_rep_exact hps]
  constructor
  · intro h
    split_ifs at h with hmin
    obtain ⟨caps', hcaps', rfl⟩ := Option.map_eq_some_iff.1 h
    exact ⟨_, _, caps', (List.takeWhile_append_dropWhile).symm, fun c hc => List.mem_takeWhile_imp hc, hmin, hcaps', rfl⟩
  · rintro ⟨taken, rest, caps', rfl, htaken, hmin, hcaps', rfl⟩
    have hrest : ∀ c ∈ rest.head?, cls c = false := by
      intro c hc
      cases rest with
      | nil => cases hc
      | cons x t =>
        obtain rfl := Option.some.inj hc
        by_contra hcls
        rw [hps x t (by simpa using hcls)] at hcaps'
        cases hcaps'
    obtain ⟨htake, hdrop⟩ := takeWhile_append_of_head htaken hrest
    rw [htake, hdrop, if_pos hmin, hcaps']
    rfl

/-- A pattern that begins with a literal text finds nothing where that text does not occur. -/
theorem search_eq_none {w : String} (h : ¬w.toList <:+: s) : search (lit w ++ ps) s = none := by
  rw [search, List.findSome?_eq_none_iff]
  intro t ht
  rw [Option.eq_none_iff_forall_ne_some]
  intro caps hcaps
  obtain ⟨rest, -, rfl, -, -⟩ := run_lit_eq_some.1 hcaps
  exact h ((List.prefix_append _ _).isInfix.trans ((List.mem_tails _ _).1 ht).isInfix)

/-- A pattern that matches at the head of a text is found there. -/
theorem search_of_run {caps : List (List Char)} (h : run ps s = some caps) : search ps s = some caps := by
  unfold search
  cases s with
  | nil => simp [h]
  | cons c s => simp [h]

end Regex
