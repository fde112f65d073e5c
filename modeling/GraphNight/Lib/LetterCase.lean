import GraphNight.Lib.Str

/-!
# Keywords in any letter case

A keyword is a text of ASCII characters without whitespace. Whatever case it is written
in, every way of folding the case reads the same keyword.
-/

namespace Str

/-- `str::to_uppercase`, up to characters no keyword of the sources holds: the dotless i and
the long s are the characters outside ASCII with one ASCII letter as their upper case. -/
def toUppercase (s : String) : String :=
  String.ofList (s.toList.map fun c =>
    if c.toNat = 0x131 then 'I' else if c.toNat = 0x17F then 'S' else c.toUpper)

/-- The lower case of a character is 32 places on for a capital letter, itself otherwise. -/
theorem toNat_toLower (c : Char) :
    c.toLower.toNat = if 65 ≤ c.toNat ∧ c.toNat ≤ 90 then c.toNat + 32 else c.toNat := by
  unfold Char.toLower
  split
  · rename_i h
    have hle : c.toNat ≤ 90 := h.2
    rw [if_pos (show 65 ≤ c.toNat ∧ c.toNat ≤ 90 from h)]
    show (c.val + 32).toNat = c.toNat + 32
    rw [UInt32.toNat_add]
    exact Nat.mod_eq_of_lt (by simp only [UInt32.reduceToNat]; change c.toNat + 32 < _; omega)
  · rename_i h
    rw [if_neg (show ¬(65 ≤ c.toNat ∧ c.toNat ≤ 90) from h)]

/-- The upper case of a character is 32 places back for a small letter, itself otherwise. -/
theorem toNat_toUpper (c : Char) :
    c.toUpper.toNat = if 97 ≤ c.toNat ∧ c.toNat ≤ 122 then c.toNat - 32 else c.toNat := by
  unfold Char.toUpper
  split
  · rename_i h
    have hge : 97 ≤ c.toNat := h.1
    have hle : c.toNat ≤ 122 := h.2
    rw [if_pos (show 97 ≤ c.toNat ∧ c.toNat ≤ 122 from h)]
    show (c.val + 4294967264).toNat = c.toNat - 32
    rw [UInt32.toNat_add]
    simp only [UInt32.reduceToNat]
    change (c.toNat + 4294967264) % 4294967296 = c.toNat - 32
    omega
  · rename_i h
    rw [if_neg (show ¬(97 ≤ c.toNat ∧ c.toNat ≤ 122) from h)]

theorem char_eq_of_toNat {c d : Char} (h : c.toNat = d.toNat) : c = d :=
  Char.ext (UInt32.toNat_inj.1 h)

theorem toUpper_toLower (c : Char) : c.toLower.toUpper = c.toUpper := by
  apply char_eq_of_toNat
  rw [toNat_toUpper, toNat_toLower, toNat_toUpper]
  grind

/-- A text that could be a keyword. -/
def isKeyword (n : String) : Bool := n.toList.all fun c => c.toNat < 128 && !isWhitespace c

/-- Every character of a keyword in any case is ASCII and no whitespace. -/
theorem isKeyword_of_lower {w : String} (h : isKeyword (toAsciiLowercase w) = true) : isKeyword w = true := by
  unfold isKeyword toAsciiLowercase at h
  rw [String.toList_ofList, List.all_map, List.all_eq_true] at h
  refine List.all_eq_true.2 fun c hc => ?_
  have hlower := h c hc
  simp only [Function.comp_apply, Bool.and_eq_true, decide_eq_true_eq, Bool.not_eq_true'] at hlower ⊢
  have hnat := toNat_toLower c
  split at hnat
  · rename_i hcapital
    refine ⟨by omega, ?_⟩
    unfold isWhitespace
    grind
  · rwa [char_eq_of_toNat hnat] at hlower

theorem isAsciiAlphabetic_iff {c : Char} : isAsciiAlphabetic c = true ↔ (97 ≤ c.toNat ∧ c.toNat ≤ 122) ∨ (65 ≤ c.toNat ∧ c.toNat ≤ 90) := by
  simp only [isAsciiAlphabetic, Bool.or_eq_true, Bool.and_eq_true, decide_eq_true_eq]
  exact Iff.rfl

theorem isAsciiDigit_iff {c : Char} : isAsciiDigit c = true ↔ 48 ≤ c.toNat ∧ c.toNat ≤ 57 := by
  simp only [isAsciiDigit, Bool.and_eq_true, decide_eq_true_eq]
  exact Iff.rfl

theorem toUpper_of_isAsciiDigit {c : Char} (h : isAsciiDigit c = true) : c.toUpper = c := by
  rw [isAsciiDigit_iff] at h
  apply char_eq_of_toNat
  rw [toNat_toUpper, if_neg (by omega)]

/-- A text of word characters could be a keyword. -/
theorem isKeyword_of_word {w : String} (h : ∀ c ∈ w.toList, (isAsciiAlphanumeric c || c == '_') = true) : isKeyword w = true := by
  refine List.all_eq_true.2 fun c hc => ?_
  have hword := h c hc
  rw [isAsciiAlphanumeric, Bool.or_eq_true, Bool.or_eq_true, isAsciiAlphabetic_iff, isAsciiDigit_iff, beq_iff_eq] at hword
  have hnat : c.toNat = 95 ∨ (97 ≤ c.toNat ∧ c.toNat ≤ 122) ∨ (65 ≤ c.toNat ∧ c.toNat ≤ 90) ∨ (48 ≤ c.toNat ∧ c.toNat ≤ 57) := by
    obtain (hletter | hdigit) | rfl := hword
    · tauto
    · tauto
    · exact .inl rfl
  unfold isWhitespace
  simp only [Bool.and_eq_true, decide_eq_true_eq, Bool.not_eq_true', Bool.or_eq_false_iff, Bool.and_eq_false_iff, beq_eq_false_iff_ne,
    decide_eq_false_iff_not]
  omega

section

variable {w n : String}

theorem trim_of_isKeyword (h : isKeyword w = true) : trim w = w := by
  unfold isKeyword at h
  rw [List.all_eq_true] at h
  have hno : ∀ c ∈ w.toList, isWhitespace c = false := fun c hc => by
    simpa using (Bool.and_eq_true_iff.1 (h c hc)).2
  unfold trim
  rw [List.dropWhile_eq_self_iff.2 fun hpos => by simp [hno _ (List.getElem_mem hpos)],
    List.rdropWhile_eq_self_iff.2 fun hne => by simp [hno _ (List.getLast_mem hne)]]
  exact String.ofList_toList

/-- The upper case of a keyword is that of its lower case. -/
theorem toAsciiUppercase_toAsciiLowercase (w : String) : toAsciiUppercase (toAsciiLowercase w) = toAsciiUppercase w := by
  unfold toAsciiUppercase toAsciiLowercase
  rw [String.toList_ofList, List.map_map]
  exact congrArg String.ofList (List.map_congr_left fun c _ => toUpper_toLower c)

theorem toUppercase_of_isKeyword (h : isKeyword w = true) : toUppercase w = toAsciiUppercase w := by
  unfold isKeyword at h
  rw [List.all_eq_true] at h
  refine congrArg String.ofList (List.map_congr_left fun c hc => ?_)
  have hascii : c.toNat < 128 := by simpa using (Bool.and_eq_true_iff.1 (h c hc)).1
  rw [if_neg (by omega), if_neg (by omega)]

theorem toLowercase_of_isKeyword (h : isKeyword w = true) : toLowercase w = toAsciiLowercase w := by
  unfold isKeyword at h
  rw [List.all_eq_true] at h
  refine congrArg String.ofList (List.map_congr_left fun c hc => ?_)
  have hascii : c.toNat < 128 := by simpa using (Bool.and_eq_true_iff.1 (h c hc)).1
  rw [if_neg (by omega)]

/-- A lower case without a k is the ASCII one. -/
theorem toAsciiLowercase_of_toLowercase (h : toLowercase w = n) (hk : 'k' ∉ n.toList) : toAsciiLowercase w = n := by
  subst h
  unfold toLowercase at hk ⊢
  rw [String.toList_ofList] at hk
  refine congrArg String.ofList (List.map_congr_left fun c hc => ?_)
  rw [if_neg]
  intro hkelvin
  exact hk (List.mem_map.2 ⟨c, hc, if_pos hkelvin⟩)

end

end Str
