import GraphNight.Lib.Str
import Mathlib.Data.List.TakeWhile

/-!
# Padded texts and split texts

What `trim` takes off a text and what it leaves, and when a text splits at a character into
given parts: the relations behind the functions of `Str`.
-/

namespace Str

/-- Nothing but whitespace. -/
def Blank (cs : List Char) : Prop := ∀ c ∈ cs, isWhitespace c = true

theorem Blank.nil : Blank [] := fun _ h => absurd h List.not_mem_nil

theorem Blank.singleton {c : Char} (h : isWhitespace c = true) : Blank [c] := fun _ hd => List.mem_singleton.1 hd ▸ h

theorem Blank.append {cs ds : List Char} (h : Blank cs) (h' : Blank ds) : Blank (cs ++ ds) := fun c hc =>
  (List.mem_append.1 hc).elim (h c) (h' c)

/-- A text with whitespace at neither end. -/
def Trimmed (cs : List Char) : Prop := (∀ c ∈ cs.head?, isWhitespace c = false) ∧ ∀ c ∈ cs.getLast?, isWhitespace c = false

theorem trimmed_of_forall {cs : List Char} (h : ∀ c ∈ cs, isWhitespace c = false) : Trimmed cs :=
  ⟨fun c hc => h c (List.mem_of_head? hc), fun c hc => h c (List.mem_of_getLast? hc)⟩

theorem Trimmed.dropWhile {cs : List Char} (h : Trimmed cs) : cs.dropWhile isWhitespace = cs := by
  cases cs with
  | nil => rfl
  | cons c cs => simp [h.1 c rfl]

theorem Trimmed.rdropWhile {cs : List Char} (h : Trimmed cs) : cs.rdropWhile isWhitespace = cs := by
  rw [List.rdropWhile_eq_self_iff]
  intro hne
  simp [h.2 _ (List.getLast?_eq_getLast_of_ne_nil hne)]

theorem Blank.dropWhile_append {cs : List Char} (h : Blank cs) (ds : List Char) :
    (cs ++ ds).dropWhile isWhitespace = ds.dropWhile isWhitespace :=
  List.dropWhile_append_of_pos h

theorem Blank.rdropWhile_append {ds : List Char} (h : Blank ds) (cs : List Char) :
    (cs ++ ds).rdropWhile isWhitespace = cs.rdropWhile isWhitespace := by
  rw [List.rdropWhile, List.reverse_append, List.dropWhile_append_of_pos fun c hc => h c (List.mem_reverse.1 hc)]
  rfl

/-- Whitespace around a text is what `trim` takes off. -/
theorem trim_of_padded {s : String} {lead cs trail : List Char} (hs : s.toList = lead ++ cs ++ trail) (hlead : Blank lead)
    (htrail : Blank trail) (hcs : Trimmed cs) : trim s = String.ofList cs := by
  rw [trim, hs, List.append_assoc, hlead.dropWhile_append]
  cases cs with
  | nil =>
    have hall : trail.dropWhile isWhitespace = [] := List.dropWhile_eq_nil_iff.2 htrail
    rw [List.nil_append, hall]
    rfl
  | cons c cs =>
    have hhead : (c :: cs ++ trail).dropWhile isWhitespace = c :: cs ++ trail := by
      simp [hcs.1 c rfl]
    rw [hhead, htrail.rdropWhile_append, hcs.rdropWhile]

/-- A text is what `trim` leaves of it, with whitespace around. -/
theorem exists_padding (s : String) : ∃ lead trail, s.toList = lead ++ (trim s).toList ++ trail ∧ Blank lead ∧ Blank trail ∧
    Trimmed (trim s).toList := by
  refine ⟨s.toList.takeWhile isWhitespace, (s.toList.dropWhile isWhitespace).rtakeWhile isWhitespace, ?_, ?_, ?_, ?_, ?_⟩
  · rw [trim, String.toList_ofList, List.append_assoc, List.rdropWhile_append_rtakeWhile, List.takeWhile_append_dropWhile]
  · exact fun c hc => List.mem_takeWhile_imp hc
  · exact fun c hc => List.mem_takeWhile_imp (List.mem_reverse.1 hc)
  · intro c hc
    rw [trim, String.toList_ofList] at hc
    obtain ⟨rest, hrest⟩ := List.rdropWhile_prefix isWhitespace (s.toList.dropWhile isWhitespace)
    have hhead : (s.toList.dropWhile isWhitespace).head? = some c := by
      rw [← hrest, List.head?_append]
      rw [Option.mem_def] at hc
      rw [hc]
      rfl
    have hno := List.head?_dropWhile_not isWhitespace s.toList
    rw [hhead] at hno
    simpa using hno
  · intro c hc
    rw [trim, String.toList_ofList] at hc
    have hne : (s.toList.dropWhile isWhitespace).rdropWhile isWhitespace ≠ [] := by
      rintro h
      rw [h] at hc
      cases hc
    have hlast := List.rdropWhile_last_not isWhitespace _ hne
    rw [Option.mem_def, List.getLast?_eq_getLast_of_ne_nil hne] at hc
    rw [Option.some.inj hc] at hlast
    simpa using hlast

theorem trim_trim (s : String) : trim (trim s) = trim s := by
  obtain ⟨-, -, -, -, -, h⟩ := exists_padding s
  exact (trim_of_padded (by simp) Blank.nil Blank.nil h).trans String.ofList_toList

theorem splitFirst_eq_some {c : Char} {cs before after : List Char} :
    splitFirst c cs = some (before, after) ↔ cs = before ++ c :: after ∧ c ∉ before := by
  induction cs generalizing before with
  | nil => simp [splitFirst]
  | cons x xs ih =>
    rw [splitFirst]
    split_ifs with hx
    · subst hx
      cases before with
      | nil => simp
      | cons b before =>
        refine iff_of_false (by simp) ?_
        rintro ⟨hcons, hnot⟩
        rw [List.cons_append, List.cons.injEq] at hcons
        exact hnot (hcons.1 ▸ List.mem_cons_self)
    · rw [Option.map_eq_some_iff]
      constructor
      · rintro ⟨⟨before', after'⟩, hsplit, hpair⟩
        obtain ⟨rfl, rfl⟩ := Prod.mk.inj hpair
        obtain ⟨rfl, hnot⟩ := ih.1 hsplit
        refine ⟨rfl, ?_⟩
        rw [List.mem_cons, not_or]
        exact ⟨Ne.symm hx, hnot⟩
      · rintro ⟨hcons, hnot⟩
        cases before with
        | nil => exact absurd (List.cons.inj hcons).1 hx
        | cons b before =>
          obtain ⟨rfl, rfl⟩ := List.cons.inj hcons
          exact ⟨(before, after), ih.2 ⟨rfl, fun h => hnot (List.mem_cons_of_mem _ h)⟩, rfl⟩

/-- The last place of a character. -/
theorem exists_last {c : Char} {cs : List Char} (h : c ∈ cs) : ∃ before after, cs = before ++ c :: after ∧ c ∉ after := by
  obtain ⟨after, before, hcs, hnot⟩ := List.eq_append_cons_of_mem (List.mem_reverse.2 h)
  refine ⟨before.reverse, after.reverse, ?_, fun hc => hnot (List.mem_reverse.1 hc)⟩
  have hreverse := congrArg List.reverse hcs
  simpa using hreverse

theorem splitLast_eq_some {c : Char} {cs before after : List Char} :
    splitLast c cs = some (before, after) ↔ cs = before ++ c :: after ∧ c ∉ after := by
  constructor
  · intro h
    have hc : c ∈ cs := by
      by_contra hnot
      rw [splitLast_of_not_mem hnot] at h
      cases h
    obtain ⟨before', after', rfl, hnot⟩ := exists_last hc
    rw [splitLast_append hnot] at h
    obtain ⟨rfl, rfl⟩ := Prod.mk.inj (Option.some.inj h)
    exact ⟨rfl, hnot⟩
  · rintro ⟨rfl, hnot⟩
    exact splitLast_append hnot before

/-! ## Parts -/

/-- The parts of a text are without what it is split at. -/
theorem not_mem_of_splitOn {c : Char} {cs part : List Char} (h : part ∈ cs.splitOn c) : c ∉ part := by
  induction cs generalizing part with
  | nil =>
    rw [List.splitOn_nil, List.mem_singleton] at h
    exact h ▸ List.not_mem_nil
  | cons x xs ih =>
    rw [List.splitOn_cons_eq_if_modifyHead] at h
    split_ifs at h with hx
    · obtain rfl | h := List.mem_cons.1 h
      · exact List.not_mem_nil
      · exact ih h
    · cases hparts : xs.splitOn c with
      | nil => exact absurd hparts (List.splitOn_ne_nil _ _)
      | cons first parts =>
        rw [hparts, List.modifyHead_cons] at h
        rw [hparts] at ih
        obtain rfl | h := List.mem_cons.1 h
        · rw [List.mem_cons, not_or]
          exact ⟨fun heq => hx (by simp [heq]), ih List.mem_cons_self⟩
        · exact ih (List.mem_cons_of_mem _ h)

/-- **When a text splits into given parts**: they are without the character, and make the text with
it between them. -/
theorem splitOn_eq_iff {c : Char} {cs : List Char} {parts : List (List Char)} :
    cs.splitOn c = parts ↔ parts ≠ [] ∧ (∀ part ∈ parts, c ∉ part) ∧ [c].intercalate parts = cs := by
  constructor
  · rintro rfl
    exact ⟨List.splitOn_ne_nil _ _, fun _ => not_mem_of_splitOn, List.intercalate_splitOn c⟩
  · rintro ⟨hne, hparts, rfl⟩
    exact List.splitOn_intercalate c hparts hne

theorem splitOn_eq_singleton {c : Char} {cs part : List Char} : cs.splitOn c = [part] ↔ c ∉ cs ∧ part = cs := by
  rw [splitOn_eq_iff]
  constructor
  · rintro ⟨-, hparts, hcs⟩
    rw [List.intercalate_singleton] at hcs
    subst hcs
    exact ⟨hparts part List.mem_cons_self, rfl⟩
  · rintro ⟨hnot, rfl⟩
    exact ⟨List.cons_ne_nil _ _, by simpa using hnot, List.intercalate_singleton⟩

theorem splitOn_eq_pair {c : Char} {cs first second : List Char} :
    cs.splitOn c = [first, second] ↔ cs = first ++ c :: second ∧ c ∉ first ∧ c ∉ second := by
  rw [splitOn_eq_iff]
  constructor
  · rintro ⟨-, hparts, hcs⟩
    refine ⟨?_, hparts first List.mem_cons_self, hparts second (by simp)⟩
    rw [← hcs, List.intercalate_cons_cons, List.intercalate_singleton]
    simp
  · rintro ⟨rfl, hfirst, hsecond⟩
    refine ⟨List.cons_ne_nil _ _, by simp [hfirst, hsecond], ?_⟩
    rw [List.intercalate_cons_cons, List.intercalate_singleton]
    simp

theorem splitOn_append_cons {c : Char} {before : List Char} (h : c ∉ before) (after : List Char) :
    (before ++ c :: after).splitOn c = before :: after.splitOn c := by
  obtain ⟨hne, hparts, hafter⟩ := splitOn_eq_iff.1 (show after.splitOn c = after.splitOn c from rfl)
  refine splitOn_eq_iff.2 ⟨List.cons_ne_nil _ _, List.forall_mem_cons.2 ⟨h, hparts⟩, ?_⟩
  cases hsplit : after.splitOn c with
  | nil => exact absurd hsplit hne
  | cons first rest =>
    rw [hsplit] at hafter
    rw [List.intercalate_cons_cons, hafter]
    simp

/-- The first part of a text is what stands before the character it is split at. -/
theorem exists_splitOn (c : Char) (cs : List Char) : ∃ rest, cs.splitOn c = cs.takeWhile (· ≠ c) :: rest := by
  by_cases h : c ∈ cs
  · obtain ⟨before, after, rfl, hnot⟩ := List.eq_append_cons_of_mem h
    refine ⟨after.splitOn c, ?_⟩
    rw [splitOn_append_cons hnot, List.takeWhile_append_of_pos fun d hd => by simpa using fun heq : d = c => hnot (heq ▸ hd)]
    simp
  · refine ⟨[], ?_⟩
    rw [splitOn_eq_singleton.2 ⟨h, rfl⟩, List.takeWhile_eq_self_iff.2 fun d hd => by simpa using fun heq : d = c => h (heq ▸ hd)]

end Str
