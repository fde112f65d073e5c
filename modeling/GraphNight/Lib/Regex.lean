import Mathlib.Data.List.Infix

/-!
# A small leftmost-first regular expression matcher

Patterns that are a sequence of repeated character classes, which is every
pattern the sources compile. A match is found the way a backtracking engine
finds it: each repetition takes as many characters as it can and gives them
back one at a time.
-/

namespace Regex

/-- One element of a pattern. -/
inductive Piece where
  /-- At least `min` and at most `max` characters of a class, greedily. -/
  | rep (cls : Char → Bool) (min : Nat) (max : Option Nat)
  /-- The end of the text, `$`. -/
  | eot

/-- A literal text. -/
def lit (s : String) : List Piece := s.toList.map fun c => .rep (· == c) 1 (some 1)

/-- `cls+`. -/
def plus (cls : Char → Bool) : Piece := .rep cls 1 none

/-- `cls*`. -/
def star (cls : Char → Bool) : Piece := .rep cls 0 none

/-- `c?`. -/
def opt (c : Char) : Piece := .rep (· == c) 0 (some 1)

/-- The numbers from `hi` down to `lo`. -/
def downTo (hi lo : Nat) : List Nat := (List.range (hi + 1 - lo)).map (hi - ·)

/-- The longest run a repetition may take from `s`. -/
def longest (cls : Char → Bool) (max : Option Nat) (s : List Char) : Nat :=
  let n := (s.takeWhile cls).length
  match max with
  | some m => Nat.min n m
  | none => n

/-- Match the pieces at the head of `s`; the result lists what each piece took. -/
def run : List Piece → List Char → Option (List (List Char))
  | [], _ => some []
  | .eot :: ps, s => if s = [] then (run ps s).map ([] :: ·) else none
  | .rep cls min max :: ps, s =>
    (downTo (longest cls max s) min).findSome? fun k =>
      (run ps (s.drop k)).map (s.take k :: ·)

/-- `Regex::captures` of a pattern without `^`: the first position that matches. -/
def search (ps : List Piece) (s : List Char) : Option (List (List Char)) :=
  s.tails.findSome? (run ps)

theorem mem_downTo {hi lo k : Nat} (h : k ∈ downTo hi lo) : lo ≤ k ∧ k ≤ hi := by
  obtain ⟨i, hi, rfl⟩ := List.mem_map.1 h
  have := List.mem_range.1 hi
  omega

theorem longest_le (cls : Char → Bool) (max : Option Nat) (s : List Char) : longest cls max s ≤ s.length := by
  have hrun := (List.takeWhile_prefix (p := cls) (l := s)).length_le
  unfold longest
  cases max with
  | none => exact hrun
  | some m => exact (Nat.min_le_left _ _).trans hrun

/-- A repetition takes the head of the text, at least its minimum, and the other
pieces match what is left. -/
theorem run_rep {cls : Char → Bool} {min : Nat} {max : Option Nat} {ps : List Piece} {s : List Char}
    {caps : List (List Char)} (h : run (.rep cls min max :: ps) s = some caps) :
    ∃ k rest, min ≤ k ∧ k ≤ s.length ∧ run ps (s.drop k) = some rest ∧ caps = s.take k :: rest := by
  obtain ⟨k, hk, hrun⟩ := List.exists_of_findSome?_eq_some h
  obtain ⟨rest, hrest, rfl⟩ := Option.map_eq_some_iff.1 hrun
  have hbounds := mem_downTo hk
  exact ⟨k, rest, hbounds.1, hbounds.2.trans (longest_le _ _ _), hrest, rfl⟩

/-- What the pieces take, one after the other, is the head of the text. -/
theorem run_head {ps : List Piece} {s : List Char} {caps : List (List Char)}
    (h : run ps s = some caps) : caps.flatten <+: s := by
  induction ps generalizing s caps with
  | nil =>
    simp only [run, Option.some.injEq] at h
    simp [← h]
  | cons p ps ih =>
    cases p with
    | eot =>
      simp only [run] at h
      split at h
      · obtain ⟨rest, hr, rfl⟩ := Option.map_eq_some_iff.1 h
        simpa using ih hr
      · cases h
    | rep cls min max =>
      obtain ⟨k, rest, -, -, hr, rfl⟩ := run_rep h
      have hjoin : s.take k ++ rest.flatten <+: s.take k ++ s.drop k :=
        (List.prefix_append_right_inj _).2 (ih hr)
      rwa [List.take_append_drop] at hjoin

/-- Behind a piece that takes a character, a group is shorter than the text. -/
theorem search_group_lt {cls : Char → Bool} {min : Nat} {max : Option Nat} {ps : List Piece}
    {s : List Char} {caps : List (List Char)} (h : search (.rep cls (min + 1) max :: ps) s = some caps)
    (i : Nat) : (caps.getD (i + 1) []).length < s.length := by
  obtain ⟨t, ht, hrun⟩ := List.exists_of_findSome?_eq_some h
  obtain ⟨k, rest, hmin, hk, hrest, rfl⟩ := run_rep hrun
  have hsuffix := ((List.mem_tails _ _).1 ht).length_le
  have htail := (run_head hrest).length_le
  have hgroup : (rest.getD i []).length ≤ rest.flatten.length := by
    rw [List.getD_eq_getElem?_getD]
    cases hi : rest[i]? with
    | none => simp
    | some g => simpa using (List.sublist_flatten_of_mem (List.mem_of_getElem? hi)).length_le
  rw [List.length_drop] at htail
  rw [List.getD_cons_succ]
  omega

end Regex
