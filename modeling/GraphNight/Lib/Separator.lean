import GraphNight.Lib.Str
import Mathlib.Data.List.Infix

/-!
# Splitting at a text

`splitStr` cuts a text at its separators from left to right. The first piece is what stands before the
first separator, so that whether a separator starts within a text decides where the cut is made.
-/

namespace Str

/-- What stands before and after the first `sep` of a text. -/
def splitAt (sep : List Char) : List Char → Option (List Char × List Char)
  | [] => none
  | c :: cs =>
    if sep.isPrefixOf (c :: cs) then some ([], (c :: cs).drop sep.length) else (splitAt sep cs).map fun p => (c :: p.1, p.2)

/-- No separator starts within a text that goes on. -/
def NoneStarts (sep cs rest : List Char) : Prop := ∀ before part, cs = before ++ part → part ≠ [] → ¬sep <+: part ++ rest

variable {sep cs ds rest : List Char}

theorem NoneStarts.nil (sep rest : List Char) : NoneStarts sep [] rest := by
  intro before part hcs hpart
  exact absurd (List.append_eq_nil_iff.1 hcs.symm).2 hpart

theorem noneStarts_cons {c : Char} : NoneStarts sep (c :: cs) rest ↔ ¬sep <+: c :: (cs ++ rest) ∧ NoneStarts sep cs rest := by
  constructor
  · intro h
    exact ⟨h [] (c :: cs) rfl (List.cons_ne_nil _ _), fun before part hcs hpart => h (c :: before) part (by rw [hcs]; rfl) hpart⟩
  · rintro ⟨hhead, htail⟩ before part hcs hpart
    cases before with
    | nil =>
      rw [List.nil_append] at hcs
      exact hcs ▸ hhead
    | cons d before => exact htail before part (List.cons.inj hcs).2 hpart

theorem noneStarts_append : NoneStarts sep (cs ++ ds) rest ↔ NoneStarts sep cs (ds ++ rest) ∧ NoneStarts sep ds rest := by
  induction cs with
  | nil => exact ⟨fun h => ⟨NoneStarts.nil _ _, h⟩, fun h => h.2⟩
  | cons c cs ih => rw [List.cons_append, noneStarts_cons, noneStarts_cons, ih, List.append_assoc, and_assoc]

/-- A text without a separator's first character. -/
theorem noneStarts_of_not_mem {c : Char} (h : c ∉ cs) (sep rest : List Char) : NoneStarts (c :: sep) cs rest := by
  rintro before part rfl hpart hstarts
  cases part with
  | nil => exact hpart rfl
  | cons d part =>
    obtain ⟨rfl, -⟩ := List.cons_prefix_cons.1 hstarts
    exact h (by simp)

theorem noneStarts_nil_iff (hsep : sep ≠ []) : NoneStarts sep cs [] ↔ ¬sep <:+: cs := by
  constructor
  · rintro h ⟨before, after, rfl⟩
    exact h before (sep ++ after) (by simp) (by simp [hsep]) (by simp)
  · rintro h before part rfl - ⟨after, hpart⟩
    exact h ⟨before, after, by rw [List.append_assoc, hpart, List.append_nil]⟩

/-- **The first cut**: where the separator first starts. -/
theorem splitAt_eq_some {before after : List Char} :
    splitAt sep cs = some (before, after) ↔ cs = before ++ (sep ++ after) ∧ NoneStarts sep before (sep ++ after) ∧ cs ≠ [] := by
  induction cs generalizing before with
  | nil => simp [splitAt]
  | cons c cs ih =>
    rw [splitAt]
    split_ifs with hstarts
    · rw [List.isPrefixOf_iff_prefix] at hstarts
      constructor
      · intro h
        obtain ⟨rfl, rfl⟩ := Prod.mk.inj (Option.some.inj h)
        obtain ⟨after, hafter⟩ := hstarts
        rw [← hafter, List.drop_left]
        exact ⟨rfl, NoneStarts.nil _ _, by simp [hafter]⟩
      · rintro ⟨hcs, hnone, -⟩
        cases before with
        | nil => rw [hcs, List.nil_append, List.drop_left]
        | cons d before =>
          rw [hcs] at hstarts
          exact absurd hstarts (noneStarts_cons.1 hnone).1
    · rw [List.isPrefixOf_iff_prefix] at hstarts
      rw [Option.map_eq_some_iff]
      constructor
      · rintro ⟨⟨before', after'⟩, hsplit, hpair⟩
        obtain ⟨rfl, rfl⟩ := Prod.mk.inj hpair
        obtain ⟨rfl, hnone, -⟩ := ih.1 hsplit
        exact ⟨rfl, noneStarts_cons.2 ⟨hstarts, hnone⟩, List.cons_ne_nil _ _⟩
      · rintro ⟨hcs, hnone, -⟩
        cases before with
        | nil => exact absurd ⟨after, hcs.symm⟩ hstarts
        | cons d before =>
          obtain ⟨rfl, rfl⟩ := List.cons.inj hcs
          refine ⟨(before, after), ih.2 ⟨rfl, (noneStarts_cons.1 hnone).2, ?_⟩, rfl⟩
          rintro hnil
          rw [hnil] at ih hstarts
          obtain ⟨rfl, hrest⟩ := List.append_eq_nil_iff.1 hnil
          obtain ⟨rfl, rfl⟩ := List.append_eq_nil_iff.1 hrest
          exact hstarts List.nil_prefix

theorem splitAt_eq_none : splitAt sep cs = none ↔ NoneStarts sep cs [] := by
  induction cs with
  | nil => exact iff_of_true rfl (NoneStarts.nil _ _)
  | cons c cs ih =>
    rw [splitAt, noneStarts_cons, List.append_nil]
    split_ifs with hstarts
    · exact iff_of_false (by simp) fun h => h.1 (List.isPrefixOf_iff_prefix.1 hstarts)
    · rw [List.isPrefixOf_iff_prefix] at hstarts
      rw [Option.map_eq_none_iff, ih]
      simp [hstarts]

theorem splitStrFrom_skip (n : Nat) (part : List Char) (h : n ≤ cs.length) :
    splitStrFrom sep cs n part = splitStrFrom sep (cs.drop n) 0 part := by
  induction cs generalizing n with
  | nil =>
    obtain rfl : n = 0 := by simpa using h
    rfl
  | cons c cs ih =>
    cases n with
    | zero => rfl
    | succ n =>
      rw [splitStrFrom, List.drop_succ_cons]
      exact ih n (by simpa using h)

theorem splitStrFrom_eq (hsep : sep ≠ []) (part : List Char) :
    splitStrFrom sep cs 0 part =
      match splitAt sep cs with
      | none => [part.reverse ++ cs]
      | some (before, after) => (part.reverse ++ before) :: splitStrFrom sep after 0 [] := by
  induction cs generalizing part with
  | nil => simp [splitStrFrom, splitAt]
  | cons c cs ih =>
    rw [splitStrFrom, splitAt]
    split_ifs with hstarts
    · obtain ⟨s, sep, rfl⟩ := List.exists_cons_of_ne_nil hsep
      obtain ⟨rest, hrest⟩ := List.isPrefixOf_iff_prefix.1 hstarts
      have hcs : cs = sep ++ rest := ((List.cons.inj hrest).2).symm
      rw [splitStrFrom_skip _ _ (by simp [hcs])]
      simp
    · rw [ih]
      cases splitAt sep cs with
      | none => simp
      | some p => simp

/-- A text without a separator is one piece. -/
theorem splitStr_of_noneStarts {s sep : String} (hsep : sep ≠ "") (h : NoneStarts sep.toList s.toList []) : splitStr s sep = [s] := by
  have hne : sep.toList ≠ [] := fun hnil => hsep (String.toList_inj.1 hnil)
  rw [splitStr, splitStrFrom_eq hne, splitAt_eq_none.2 h]
  simp

/-- The first piece is cut off. -/
theorem splitStr_append {s sep : String} {before after : List Char} (hsep : sep ≠ "") (hs : s.toList = before ++ (sep.toList ++ after))
    (h : NoneStarts sep.toList before (sep.toList ++ after)) : splitStr s sep = String.ofList before :: splitStr (String.ofList after) sep := by
  have hne : sep.toList ≠ [] := fun hnil => hsep (String.toList_inj.1 hnil)
  have hsplit : splitAt sep.toList s.toList = some (before, after) := splitAt_eq_some.2 ⟨hs, h, by simp [hs, hne]⟩
  rw [splitStr, splitStrFrom_eq hne, hsplit, splitStr, String.toList_ofList]
  simp

/-- A text is one piece, or is cut at its first separator. -/
theorem noneStarts_or_exists (sep cs : List Char) : NoneStarts sep cs [] ∨
    ∃ before after, cs = before ++ (sep ++ after) ∧ NoneStarts sep before (sep ++ after) := by
  cases h : splitAt sep cs with
  | none => exact .inl (splitAt_eq_none.1 h)
  | some p =>
    obtain ⟨hcs, hnone, -⟩ := splitAt_eq_some.1 h
    exact .inr ⟨p.1, p.2, hcs, hnone⟩

end Str
