import Mathlib.Data.List.DropRight

/-!
# Rust's string operations

The methods of `str` and `char` the sources use, on Lean strings. Positions are
counted in characters: no caller here keeps a byte offset.
-/

namespace Str

/-- `char::is_whitespace`: the Unicode property `White_Space`. -/
def isWhitespace (c : Char) : Bool :=
  let n := c.toNat
  (9 ≤ n && n ≤ 13) || n == 0x20 || n == 0x85 || n == 0xA0 || n == 0x1680 ||
    (0x2000 ≤ n && n ≤ 0x200A) || n == 0x2028 || n == 0x2029 || n == 0x202F || n == 0x205F ||
    n == 0x3000

/-- `char::is_ascii_alphabetic`. -/
def isAsciiAlphabetic (c : Char) : Bool :=
  ('a' ≤ c && c ≤ 'z') || ('A' ≤ c && c ≤ 'Z')

/-- `char::is_ascii_digit`. -/
def isAsciiDigit (c : Char) : Bool := '0' ≤ c && c ≤ '9'

/-- `char::is_ascii_alphanumeric`. -/
def isAsciiAlphanumeric (c : Char) : Bool := isAsciiAlphabetic c || isAsciiDigit c

/-- `str::trim`. -/
def trim (s : String) : String :=
  String.ofList ((s.toList.dropWhile isWhitespace).rdropWhile isWhitespace)

theorem trim_length (s : String) : (trim s).toList.length ≤ s.toList.length := by
  simp only [trim, String.toList_ofList]
  exact (List.rdropWhile_prefix _ _).length_le.trans (List.dropWhile_suffix _).length_le

/-- `str::trim_end_matches` of one character. -/
def trimEndMatches (c : Char) (s : String) : String :=
  String.ofList (s.toList.rdropWhile (· == c))

/-- `str::starts_with`. -/
def startsWith (s pre : String) : Bool := pre.toList.isPrefixOf s.toList

/-- `str::contains` of one character. -/
def containsChar (s : String) (c : Char) : Bool := s.toList.contains c

/-- `str::contains` of a text. -/
def containsStr (s sub : String) : Bool := s.toList.tails.any sub.toList.isPrefixOf

/-- `str::strip_prefix`. -/
def stripPrefix (s pre : String) : Option String :=
  if startsWith s pre then some (String.ofList (s.toList.drop pre.toList.length)) else none

/-- `str::trim_start_matches` of a text: every copy of it the string starts with is dropped. -/
def trimStartMatches (s pre : String) : String :=
  go s.length s
where
  go : Nat → String → String
    | 0, s => s
    | fuel + 1, s =>
      match stripPrefix s pre with
      | some rest => go fuel rest
      | none => s

/-- `str::strip_suffix` of one character. -/
def stripSuffixChar (s : String) (c : Char) : Option String :=
  if s.toList.getLast? = some c then some (String.ofList s.toList.dropLast) else none

/-- `str::split` at one character. -/
def split (s : String) (c : Char) : List String := (s.toList.splitOn c).map String.ofList

/-- The characters of `s` before and after its first `c` (`str::find`). -/
def splitFirst (c : Char) : List Char → Option (List Char × List Char)
  | [] => none
  | x :: xs => if x = c then some ([], xs) else (splitFirst c xs).map fun p => (x :: p.1, p.2)

/-- The characters of `s` before and after its last `c` (`str::rfind`). -/
def splitLast (c : Char) : List Char → Option (List Char × List Char)
  | [] => none
  | x :: xs =>
    match splitLast c xs with
    | some p => some (x :: p.1, p.2)
    | none => if x = c then some ([], xs) else none

/-- `str::rsplit_once` at one character. -/
def rsplitOnce (s : String) (c : Char) : Option (String × String) :=
  (splitLast c s.toList).map fun p => (String.ofList p.1, String.ofList p.2)

/-- `str::split_once` at one character. -/
def splitOnce (s : String) (c : Char) : Option (String × String) :=
  (splitFirst c s.toList).map fun p => (String.ofList p.1, String.ofList p.2)

/-- `str::split` at a text: `skip` counts the characters of a separator already
found, `part` holds the part under way, backwards. -/
def splitStrFrom (sep : List Char) : List Char → Nat → List Char → List (List Char)
  | [], _, part => [part.reverse]
  | _ :: cs, skip + 1, part => splitStrFrom sep cs skip part
  | c :: cs, 0, part =>
    if sep.isPrefixOf (c :: cs) then part.reverse :: splitStrFrom sep cs (sep.length - 1) []
    else splitStrFrom sep cs 0 (c :: part)

/-- `str::split` at a non-empty text. -/
def splitStr (s sep : String) : List String :=
  (splitStrFrom sep.toList s.toList 0 []).map String.ofList

/-- `str::replace` of one character by a text. -/
def replaceChar (c : Char) (by' : String) (s : String) : String :=
  String.ofList (s.toList.flatMap fun x => if x = c then by'.toList else [x])

/-- `str::to_ascii_uppercase`. -/
def toAsciiUppercase (s : String) : String := String.ofList (s.toList.map Char.toUpper)

/-- `str::to_ascii_lowercase`. -/
def toAsciiLowercase (s : String) : String := String.ofList (s.toList.map Char.toLower)

/-- `str::to_lowercase`, up to characters no keyword of the sources holds: the
Kelvin sign is the one character outside ASCII with an ASCII lower case. -/
def toLowercase (s : String) : String :=
  String.ofList (s.toList.map fun c => if c.toNat = 0x212A then 'k' else c.toLower)

/-- `str::eq_ignore_ascii_case`. -/
def eqIgnoreAsciiCase (s t : String) : Bool := toAsciiLowercase s == toAsciiLowercase t

/-- `slice::join`. -/
def join (sep : String) : List String → String
  | [] => ""
  | [s] => s
  | s :: t :: rest => s ++ sep ++ join sep (t :: rest)

@[simp] theorem join_nil (sep : String) : join sep [] = "" := rfl

@[simp] theorem join_singleton (sep s : String) : join sep [s] = s := rfl

@[simp] theorem join_cons_cons (sep s t : String) (rest : List String) :
    join sep (s :: t :: rest) = s ++ sep ++ join sep (t :: rest) := rfl

/-- What `{:?}` writes for one character of a string; outside ASCII it is left to the
Unicode tables which ones are escaped. -/
def debugChar (escapes : Char → Bool) (c : Char) : String :=
  if c = '"' then "\\\""
  else if c = '\\' then "\\\\"
  else if c.toNat = 0 then "\\0"
  else if c.toNat = 9 then "\\t"
  else if c.toNat = 10 then "\\n"
  else if c.toNat = 13 then "\\r"
  else if c.toNat < 32 ∨ c.toNat = 127 ∨ 127 < c.toNat ∧ escapes c then
    "\\u\x7b" ++ String.ofList (Nat.toDigits 16 c.toNat) ++ "\x7d"
  else String.singleton c

/-- A string under `{:?}`. -/
def debug (escapes : Char → Bool) (s : String) : String :=
  "\"" ++ String.ofList (s.toList.flatMap fun c => (debugChar escapes c).toList) ++ "\""

/-- `str::split_whitespace`. -/
def splitWhitespace (s : String) : List String :=
  ((s.toList.splitOnP isWhitespace).filter fun cs => !cs.isEmpty).map String.ofList

/-! ## Words -/

/-- `str::split_whitespace` of a text whose only blanks are spaces. -/
def words (s : String) : List String := (split s ' ').filter (· != "")

theorem split_append {s : String} {c : Char} (h : c ∉ s.toList) (t : String) :
    split (s ++ String.singleton c ++ t) c = s :: split t c := by
  have hlist : (s ++ String.singleton c ++ t).toList = s.toList ++ c :: t.toList := by simp
  rw [split, hlist, List.splitOn_append_cons_self_of_not_mem h]
  simp [split]

theorem split_of_not_mem {s : String} {c : Char} (h : c ∉ s.toList) : split s c = [s] := by
  simp [split, List.splitOn_eq_singleton h]

theorem mem_intercalate {α : Type} {x : α} {sep : List α} {parts : List (List α)} (h : x ∈ sep.intercalate parts) :
    x ∈ sep ∨ ∃ part ∈ parts, x ∈ part := by
  induction parts with
  | nil => simp at h
  | cons part parts ih =>
    cases parts with
    | nil => exact .inr ⟨part, by simp, by simpa using h⟩
    | cons next parts =>
      rw [List.intercalate_cons_cons] at h
      simp only [List.mem_append] at h
      obtain (hpart | hsep) | hrest := h
      · exact .inr ⟨part, by simp, hpart⟩
      · exact .inl hsep
      · obtain hsep | ⟨part', hmem, hx⟩ := ih hrest
        · exact .inl hsep
        · exact .inr ⟨part', List.mem_cons_of_mem _ hmem, hx⟩

/-- A character of a text is in one of its parts, or is what the text is split at. -/
theorem mem_split {s : String} {sep c : Char} (h : c ∈ s.toList) : c = sep ∨ ∃ part ∈ split s sep, c ∈ part.toList := by
  have hwhole : [sep].intercalate (s.toList.splitOn sep) = s.toList := List.intercalate_splitOn sep
  rw [← hwhole] at h
  obtain hsep | ⟨part, hpart, hc⟩ := mem_intercalate h
  · exact .inl (List.mem_singleton.1 hsep)
  · exact .inr ⟨String.ofList part, List.mem_map_of_mem hpart, by rwa [String.toList_ofList]⟩

theorem mem_of_mem_trim {s : String} {c : Char} (h : c ∈ (trim s).toList) : c ∈ s.toList := by
  rw [trim, String.toList_ofList] at h
  exact (List.dropWhile_suffix _).mem ((List.rdropWhile_prefix _ _).mem h)

theorem startsWith_eq_false {s pre : String} {c : Char} (hc : c ∈ pre.toList) (h : c ∉ s.toList) : startsWith s pre = false := by
  rw [startsWith, Bool.eq_false_iff]
  exact fun hpre => h ((List.isPrefixOf_iff_prefix.1 hpre).mem hc)

theorem splitFirst_of_not_mem {c : Char} {cs : List Char} (h : c ∉ cs) : splitFirst c cs = none := by
  induction cs with
  | nil => rfl
  | cons x xs ih =>
    rw [List.mem_cons, not_or] at h
    rw [splitFirst, if_neg (Ne.symm h.1), ih h.2]
    rfl

theorem splitLast_of_not_mem {c : Char} {cs : List Char} (h : c ∉ cs) : splitLast c cs = none := by
  induction cs with
  | nil => rfl
  | cons x xs ih =>
    rw [List.mem_cons, not_or] at h
    rw [splitLast, ih h.2]
    exact if_neg (Ne.symm h.1)

theorem splitLast_append {c : Char} {after : List Char} (h : c ∉ after) (before : List Char) :
    splitLast c (before ++ c :: after) = some (before, after) := by
  induction before with
  | nil =>
    rw [List.nil_append, splitLast, splitLast_of_not_mem h]
    exact if_pos rfl
  | cons x xs ih => rw [List.cons_append, splitLast, ih]

/-- The last part is what stands behind the last separator. -/
theorem rsplitOnce_append {t : String} {c : Char} (h : c ∉ t.toList) (s : String) :
    rsplitOnce (s ++ String.singleton c ++ t) c = some (s, t) := by
  have hlist : (s ++ String.singleton c ++ t).toList = s.toList ++ c :: t.toList := by simp
  rw [rsplitOnce, hlist, splitLast_append h]
  simp

@[simp] theorem words_empty : words "" = [] := by decide

/-- Leading spaces do not count. -/
theorem words_space (s : String) : words (" " ++ s) = words s := by
  have h := split_append (s := "") (c := ' ') (by simp) s
  rw [String.empty_append] at h
  rw [words, show " " ++ s = String.singleton ' ' ++ s from rfl, h]
  simp [words]

/-- A word is read up to the next space. -/
theorem words_cons {w : String} (hne : w ≠ "") (h : ' ' ∉ w.toList) (s : String) :
    words (w ++ (" " ++ s)) = w :: words s := by
  rw [words, ← String.append_assoc, show w ++ " " ++ s = w ++ String.singleton ' ' ++ s from rfl,
    split_append h]
  simp [words, hne]

theorem words_singleton {w : String} (hne : w ≠ "") (h : ' ' ∉ w.toList) : words w = [w] := by
  rw [words, split_of_not_mem h]
  simp [hne]

end Str
