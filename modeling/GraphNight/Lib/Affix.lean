import GraphNight.Lib.Padding

/-!
# What a text starts with, and what `trim` leaves of it
-/

namespace Str

theorem startsWith_iff {s pre : String} : startsWith s pre = true ↔ ∃ rest, s = pre ++ rest := by
  rw [startsWith, List.isPrefixOf_iff_prefix]
  constructor
  · rintro ⟨rest, h⟩
    exact ⟨String.ofList rest, String.toList_inj.1 (by simp [h])⟩
  · rintro ⟨rest, rfl⟩
    exact ⟨rest.toList, by simp⟩

@[simp] theorem stripPrefix_append (pre rest : String) : stripPrefix (pre ++ rest) pre = some rest := by
  rw [stripPrefix, if_pos (startsWith_iff.2 ⟨rest, rfl⟩)]
  simp

theorem stripPrefix_eq_some {s pre rest : String} : stripPrefix s pre = some rest ↔ s = pre ++ rest := by
  constructor
  · intro h
    have hstarts : startsWith s pre = true := by
      by_contra hno
      rw [stripPrefix, if_neg hno] at h
      cases h
    obtain ⟨rest', rfl⟩ := startsWith_iff.1 hstarts
    rw [stripPrefix_append] at h
    rw [Option.some.inj h]
  · rintro rfl
    exact stripPrefix_append pre rest

theorem stripPrefix_eq_none {s pre : String} : stripPrefix s pre = none ↔ ∀ rest, s ≠ pre ++ rest := by
  rw [Option.eq_none_iff_forall_ne_some]
  exact forall_congr' fun rest => not_congr stripPrefix_eq_some

/-- A character that is no whitespace is in a text exactly where `trim` leaves it. -/
theorem mem_trim {s : String} {c : Char} (h : isWhitespace c = false) : c ∈ (trim s).toList ↔ c ∈ s.toList := by
  refine ⟨mem_of_mem_trim, fun hc => ?_⟩
  obtain ⟨lead, trail, hs, hlead, htrail, -⟩ := exists_padding s
  have hnot : ∀ {cs : List Char}, Blank cs → c ∉ cs := fun hblank hmem => by simp [hblank c hmem] at h
  rw [hs, List.mem_append, List.mem_append] at hc
  exact (hc.resolve_right (hnot htrail)).resolve_left (hnot hlead)

theorem containsChar_trim {s : String} {c : Char} (h : isWhitespace c = false) : containsChar (trim s) c = containsChar s c := by
  rw [Bool.eq_iff_iff]
  simp [containsChar, mem_trim h]

@[simp] theorem trim_empty : trim "" = "" := by decide

/-! ## Parts -/

/-- The first part is what stands before the first separator. -/
theorem splitOnce_append {s : String} {c : Char} (h : c ∉ s.toList) (t : String) :
    splitOnce (s ++ String.singleton c ++ t) c = some (s, t) := by
  have hlist : (s ++ String.singleton c ++ t).toList = s.toList ++ c :: t.toList := by simp
  rw [splitOnce, hlist, splitFirst_eq_some.2 ⟨rfl, h⟩]
  simp

theorem splitOnce_of_not_mem {s : String} {c : Char} (h : c ∉ s.toList) : splitOnce s c = none := by
  rw [splitOnce, splitFirst_of_not_mem h]
  rfl

theorem exists_split {s : String} {c : Char} (h : c ∈ s.toList) :
    ∃ before after, s = before ++ String.singleton c ++ after ∧ c ∉ before.toList := by
  obtain ⟨before, after, hs, hnot⟩ := List.eq_append_cons_of_mem h
  refine ⟨String.ofList before, String.ofList after, ?_, by rwa [String.toList_ofList]⟩
  rw [← String.toList_inj, hs]
  simp

theorem mem_splitOnce {s : String} {sep c : Char} (hc : c ≠ sep) (h : c ∈ s.toList) :
    c ∈ ((splitOnce s sep).getD (s, "")).1.toList ∨ c ∈ ((splitOnce s sep).getD (s, "")).2.toList := by
  by_cases hsep : sep ∈ s.toList
  · obtain ⟨before, after, rfl, hbefore⟩ := exists_split hsep
    rw [splitOnce_append hbefore, Option.getD_some]
    simpa [hc] using h
  · rw [splitOnce_of_not_mem hsep]
    exact .inl h

/-- No part holds the separator. -/
theorem not_mem_of_mem_split {s part : String} {c : Char} (h : part ∈ split s c) : c ∉ part.toList := by
  obtain ⟨cs, hcs, rfl⟩ := List.mem_map.1 h
  rw [String.toList_ofList]
  exact not_mem_of_splitOn hcs

theorem toList_join (sep : String) (parts : List String) : (join sep parts).toList = sep.toList.intercalate (parts.map String.toList) := by
  induction parts with
  | nil => simp
  | cons part parts ih =>
    cases parts with
    | nil => simp
    | cons next parts =>
      simp only [List.map_cons] at ih
      rw [join_cons_cons, String.toList_append, String.toList_append, ih, List.map_cons, List.map_cons, List.intercalate_cons_cons]

theorem join_split (s : String) (c : Char) : join (String.singleton c) (split s c) = s := by
  have hparts : (split s c).map String.toList = s.toList.splitOn c := by
    rw [split, List.map_map]
    exact (List.map_congr_left fun _ _ => String.toList_ofList).trans (List.map_id _)
  rw [← String.toList_inj, toList_join, hparts, String.toList_singleton]
  exact List.intercalate_splitOn c

/-- Blanks at the ends of a text are not in what `trim` leaves. -/
theorem trim_padded {s : String} {lead trail : String} (hlead : Blank lead.toList) (htrail : Blank trail.toList) :
    trim (lead ++ s ++ trail) = trim s := by
  obtain ⟨before, after, hs, hbefore, hafter, htrimmed⟩ := exists_padding s
  have hwhole : (lead ++ s ++ trail).toList = (lead.toList ++ before) ++ (trim s).toList ++ (after ++ trail.toList) := by
    rw [String.toList_append, String.toList_append]
    simp only [hs, List.append_assoc]
  exact (trim_of_padded hwhole (hlead.append hbefore) (hafter.append htrail) htrimmed).trans String.ofList_toList

/-- Blanks behind the last part are not in what `trim` leaves of it, by induction on the parts. -/
theorem map_trim_split_join {c : Char} (hc : isWhitespace c = false) {trail : String} (htrail : Blank trail.toList) {parts : List String}
    (hne : parts ≠ []) (hparts : ∀ part ∈ parts, c ∉ part.toList) :
    (split (join (String.singleton c) parts ++ trail) c).map trim = parts.map trim := by
  have hnot : c ∉ trail.toList := by
    intro hmem
    rw [htrail c hmem] at hc
    cases hc
  induction parts with
  | nil => exact absurd rfl hne
  | cons part parts ih =>
    have hpart := hparts part List.mem_cons_self
    cases parts with
    | nil =>
      rw [join_singleton, split_of_not_mem (by simp [hpart, hnot])]
      have hpadded := @trim_padded part "" trail Blank.nil htrail
      rw [String.empty_append] at hpadded
      rw [List.map_singleton, hpadded, List.map_singleton]
    | cons next parts =>
      have hrest := ih (List.cons_ne_nil _ _) fun part' hmem => hparts part' (List.mem_cons_of_mem _ hmem)
      rw [join_cons_cons, String.append_assoc, split_append hpart, List.map_cons, hrest, ← List.map_cons]

/-- The parts of a text are those of what `trim` leaves of it, but for blanks at their ends. -/
theorem map_trim_split {c : Char} (hc : isWhitespace c = false) (s : String) : (split (trim s) c).map trim = (split s c).map trim := by
  obtain ⟨lead, trail, hs, hlead, htrail, -⟩ := exists_padding s
  have hwhole : s = String.ofList lead ++ trim s ++ String.ofList trail := by
    rw [← String.toList_inj, hs]
    simp
  have hlead' : Blank (String.ofList lead).toList := by rwa [String.toList_ofList]
  have htrail' : Blank (String.ofList trail).toList := by rwa [String.toList_ofList]
  have hparts : ∀ part ∈ split (trim s) c, c ∉ part.toList := fun part => not_mem_of_mem_split
  have hjoin := join_split (trim s) c
  cases hsplit : split (trim s) c with
  | nil => exact absurd (List.map_eq_nil_iff.1 hsplit) (List.splitOn_ne_nil _ _)
  | cons first parts =>
    rw [hsplit] at hparts hjoin
    have hfirst : c ∉ (String.ofList lead ++ first).toList := by
      rw [String.toList_append, List.mem_append, not_or]
      refine ⟨fun hmem => ?_, hparts first List.mem_cons_self⟩
      rw [hlead' c hmem] at hc
      cases hc
    have hpadded : trim (String.ofList lead ++ first) = trim first := by
      have h := @trim_padded first (String.ofList lead) "" hlead' Blank.nil
      rwa [String.append_empty] at h
    have hshift : s = join (String.singleton c) ((String.ofList lead ++ first) :: parts) ++ String.ofList trail := by
      conv_lhs => rw [hwhole, ← hjoin]
      cases parts with
      | nil => rfl
      | cons next parts => simp only [join_cons_cons, String.append_assoc]
    have hsplit' := map_trim_split_join hc htrail' (List.cons_ne_nil (String.ofList lead ++ first) parts) (by
      intro part hmem
      rcases List.mem_cons.1 hmem with rfl | hmem
      · exact hfirst
      · exact hparts part (List.mem_cons_of_mem _ hmem))
    rw [← hshift, List.map_cons, hpadded, ← List.map_cons] at hsplit'
    exact hsplit'.symm

/-- A text of parts without the separator splits into them. -/
theorem split_join {c : Char} {parts : List String} (hne : parts ≠ []) (hparts : ∀ part ∈ parts, c ∉ part.toList) :
    split (join (String.singleton c) parts) c = parts := by
  induction parts with
  | nil => exact absurd rfl hne
  | cons part parts ih =>
    have hpart := hparts part List.mem_cons_self
    cases parts with
    | nil => exact split_of_not_mem hpart
    | cons next parts =>
      rw [join_cons_cons, split_append hpart, ih (List.cons_ne_nil _ _) fun part' hmem => hparts part' (List.mem_cons_of_mem _ hmem)]

/-- `trim` leaves the end of a text that ends in no whitespace, and what stands before it if that is not blank. -/
theorem trim_append {s t : String} (hs : ∃ c ∈ s.toList, isWhitespace c = false)
    (ht : ∃ c ∈ t.toList.getLast?, isWhitespace c = false) : ∃ more, more ≠ "" ∧ trim (s ++ t) = more ++ t := by
  obtain ⟨c, hc, hspace⟩ := hs
  obtain ⟨d, hd, hlast⟩ := ht
  have hne : s.toList.dropWhile isWhitespace ≠ [] := by
    intro hnil
    have hblank := List.dropWhile_eq_nil_iff.1 hnil c hc
    rw [hspace] at hblank
    cases hblank
  refine ⟨String.ofList (s.toList.dropWhile isWhitespace), fun hempty => hne ?_, ?_⟩
  · rw [← String.toList_inj, String.toList_ofList] at hempty
    exact hempty
  · have hdrop : (s ++ t).toList.dropWhile isWhitespace = s.toList.dropWhile isWhitespace ++ t.toList := by
      rw [String.toList_append, List.dropWhile_append]
      simp [hne]
    have hkeep : (s.toList.dropWhile isWhitespace ++ t.toList).rdropWhile isWhitespace = s.toList.dropWhile isWhitespace ++ t.toList := by
      rw [List.rdropWhile_eq_self_iff]
      intro hnil
      obtain ⟨front, hfront⟩ := List.getLast?_eq_some_iff.1 hd
      simp [hfront, hlast]
    rw [trim, hdrop, hkeep, ← String.toList_inj]
    simp

/-! ## What follows the last dot -/

theorem rsplitOnce_eq_some {c : Char} {s before after : String} (h : rsplitOnce s c = some (before, after)) :
    s = before ++ String.singleton c ++ after ∧ c ∉ after.toList := by
  obtain ⟨parts, hparts, hpair⟩ := Option.map_eq_some_iff.1 h
  obtain ⟨rfl, rfl⟩ := Prod.mk.inj hpair
  obtain ⟨hs, hafter⟩ := splitLast_eq_some.1 hparts
  rw [String.toList_ofList]
  refine ⟨?_, hafter⟩
  rw [← String.toList_inj, hs]
  simp

/-- What follows the last dot of a text. -/
def lastSegment (s : String) : String := ((rsplitOnce s '.').map (·.2)).getD s

theorem lastSegment_append {t : String} (h : '.' ∉ t.toList) (s : String) : lastSegment (s ++ "." ++ t) = t := by
  have hsplit : rsplitOnce (s ++ "." ++ t) '.' = some (s, t) := rsplitOnce_append h s
  rw [lastSegment, hsplit]
  rfl

theorem lastSegment_of_not_mem {s : String} (h : '.' ∉ s.toList) : lastSegment s = s := by
  rw [lastSegment, rsplitOnce, splitLast_of_not_mem h]
  rfl

/-- A dot in front does not matter. -/
theorem lastSegment_dot (s : String) : lastSegment ("." ++ s) = lastSegment s := by
  have hlist : ("." ++ s).toList = '.' :: s.toList := String.toList_append
  rw [lastSegment, lastSegment, rsplitOnce, rsplitOnce, hlist, splitLast]
  cases hlast : splitLast '.' s.toList with
  | some parts => rfl
  | none => exact String.ofList_toList

end Str
