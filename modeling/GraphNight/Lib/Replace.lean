import GraphNight.Lib.Str

/-!
# Removing parts of a text

`str::trim_matches` and `str::replace`, and what a replacement leaves behind the last
character that a match can end in.
-/

namespace Str

/-- `str::trim_matches` with a character. -/
def trimMatches (c : Char) (s : String) : String :=
  String.ofList ((((s.toList.dropWhile (· == c)).reverse.dropWhile (· == c))).reverse)

/-- The text with every match of `pat` removed; of the match that was found last, `skip`
characters are still to be passed over. -/
def removeFrom (pat : List Char) : Nat → List Char → List Char
  | _, [] => []
  | skip + 1, _ :: cs => removeFrom pat skip cs
  | 0, c :: cs => if pat.isPrefixOf (c :: cs) then removeFrom pat (pat.length - 1) cs else c :: removeFrom pat 0 cs

/-- `str::replace` of a text that is not empty by nothing. -/
def remove (pat s : String) : String := String.ofList (removeFrom pat.toList 0 s.toList)

/-- A text without the last character of a match holds none. -/
theorem removeFrom_of_not_mem {c : Char} (pat : List Char) {cs : List Char} (h : c ∉ cs) : removeFrom (pat ++ [c]) 0 cs = cs := by
  induction cs with
  | nil => rfl
  | cons d cs ih =>
    have hno : (pat ++ [c]).isPrefixOf (d :: cs) = false := by
      rw [Bool.eq_false_iff]
      intro hprefix
      exact h ((List.isPrefixOf_iff_prefix.1 hprefix).subset (by simp))
    rw [removeFrom, hno, ih fun hc => h (List.mem_cons_of_mem _ hc)]
    rfl

/-- No match reaches behind the last character it can end in. -/
theorem removeFrom_append {c : Char} (pat : List Char) {tail : List Char} (h : c ∉ tail) {skip : Nat} {cs : List Char}
    (hskip : skip ≤ cs.length) : ∃ front, removeFrom (pat ++ [c]) skip (cs ++ tail) = front ++ tail := by
  induction cs generalizing skip with
  | nil =>
    obtain rfl : skip = 0 := Nat.le_zero.1 hskip
    exact ⟨[], removeFrom_of_not_mem pat h⟩
  | cons d cs ih =>
    cases skip with
    | succ skip => exact ih (Nat.le_of_succ_le_succ hskip)
    | zero =>
      rw [List.cons_append, removeFrom]
      cases hprefix : (pat ++ [c]).isPrefixOf (d :: (cs ++ tail)) with
      | true =>
        refine ih ?_
        by_contra hlong
        obtain ⟨rest, hrest⟩ := List.isPrefixOf_iff_prefix.1 hprefix
        have hlength : (d :: cs).length ≤ pat.length := Nat.succ_le_of_lt (by simpa using hlong)
        have hget : ((d :: cs) ++ tail)[pat.length]? = some c := by
          rw [List.cons_append, ← hrest]
          simp
        rw [List.getElem?_append_right hlength] at hget
        exact h (List.mem_of_getElem? hget)
      | false =>
        obtain ⟨front, hfront⟩ := ih (Nat.zero_le _)
        exact ⟨d :: front, congrArg (d :: ·) hfront⟩

theorem remove_append {c : Char} {pat tail : String} (hpat : pat.toList.getLast? = some c) (h : c ∉ tail.toList) (s : String) :
    ∃ front, remove pat (s ++ tail) = front ++ tail := by
  obtain ⟨before, hbefore⟩ := List.getLast?_eq_some_iff.1 hpat
  obtain ⟨front, hfront⟩ := removeFrom_append before h (Nat.zero_le s.toList.length)
  refine ⟨String.ofList front, ?_⟩
  rw [remove, hbefore, String.toList_append, hfront, String.ofList_append, String.ofList_toList]

end Str
