import Mathlib.Algebra.Order.Ring.Nat
import Mathlib.Data.Option.Basic

/-!
# Byte offsets into a text

Rust measures and slices a `str` in the bytes of its UTF-8. A slice whose end is inside a
character, or behind the text, panics: here it is `none`.
-/

namespace Utf8

/-- `str::len`. -/
def size (cs : List Char) : Nat := (cs.map Char.utf8Size).sum

/-- `&s[..n]`. -/
def sliceTo : List Char → Nat → Option (List Char)
  | _, 0 => some []
  | [], _ + 1 => none
  | c :: cs, n + 1 => if c.utf8Size ≤ n + 1 then (sliceTo cs (n + 1 - c.utf8Size)).map (c :: ·) else none

/-- `&s[n..]`. -/
def sliceFrom : List Char → Nat → Option (List Char)
  | cs, 0 => some cs
  | [], _ + 1 => none
  | c :: cs, n + 1 => if c.utf8Size ≤ n + 1 then sliceFrom cs (n + 1 - c.utf8Size) else none

/-- As many characters as fit into some bytes. -/
def clip : Nat → List Char → List Char
  | _, [] => []
  | n, c :: cs => if c.utf8Size ≤ n then c :: clip (n - c.utf8Size) cs else []

/-- `str::is_char_boundary`. -/
def IsBoundary (cs : List Char) (n : Nat) : Prop := ∃ before after, cs = before ++ after ∧ size before = n

@[simp] theorem size_nil : size [] = 0 := rfl

@[simp] theorem size_cons (c : Char) (cs : List Char) : size (c :: cs) = c.utf8Size + size cs := by
  simp [size]

@[simp] theorem size_append (cs ds : List Char) : size (cs ++ ds) = size cs + size ds := by
  simp [size]

theorem length_le_size (cs : List Char) : cs.length ≤ size cs := by
  induction cs with
  | nil => simp
  | cons c cs ih =>
    have := c.utf8Size_pos
    simp only [List.length_cons, size_cons]
    omega

theorem size_eq_zero {cs : List Char} : size cs = 0 ↔ cs = [] := by
  refine ⟨fun h => List.length_eq_zero_iff.1 ?_, by rintro rfl; rfl⟩
  have := length_le_size cs
  omega

theorem sliceTo_eq_some {cs before : List Char} {n : Nat} :
    sliceTo cs n = some before ↔ ∃ after, cs = before ++ after ∧ size before = n := by
  induction cs, n using sliceTo.induct generalizing before with
  | case1 cs =>
    rw [sliceTo, Option.some_inj]
    constructor
    · rintro rfl
      exact ⟨cs, rfl, rfl⟩
    · rintro ⟨after, -, hsize⟩
      exact (size_eq_zero.1 hsize).symm
  | case2 n =>
    refine iff_of_false (by simp [sliceTo]) ?_
    rintro ⟨after, hnil, hsize⟩
    obtain ⟨rfl, -⟩ := List.append_eq_nil_iff.1 hnil.symm
    cases hsize
  | case3 c cs n hle ih =>
    rw [sliceTo, if_pos hle, Option.map_eq_some_iff]
    constructor
    · rintro ⟨rest, hrest, rfl⟩
      obtain ⟨after, rfl, hsize⟩ := ih.1 hrest
      exact ⟨after, rfl, by rw [size_cons]; omega⟩
    · rintro ⟨after, happ, hsize⟩
      cases before with
      | nil => cases hsize
      | cons b rest =>
        obtain ⟨rfl, rfl⟩ := List.cons.inj happ
        exact ⟨rest, ih.2 ⟨after, rfl, by rw [size_cons] at hsize; omega⟩, rfl⟩
  | case4 c cs n hlt =>
    refine iff_of_false (by simp [sliceTo, hlt]) ?_
    rintro ⟨after, happ, hsize⟩
    cases before with
    | nil => cases hsize
    | cons b rest =>
      obtain ⟨rfl, -⟩ := List.cons.inj happ
      rw [size_cons] at hsize
      omega

theorem sliceFrom_eq_some {cs after : List Char} {n : Nat} :
    sliceFrom cs n = some after ↔ ∃ before, cs = before ++ after ∧ size before = n := by
  induction cs, n using sliceFrom.induct with
  | case1 cs =>
    rw [sliceFrom, Option.some_inj]
    constructor
    · rintro rfl
      exact ⟨[], rfl, rfl⟩
    · rintro ⟨before, rfl, hsize⟩
      rw [size_eq_zero.1 hsize, List.nil_append]
  | case2 n =>
    refine iff_of_false (by simp [sliceFrom]) ?_
    rintro ⟨before, hnil, hsize⟩
    obtain ⟨rfl, -⟩ := List.append_eq_nil_iff.1 hnil.symm
    cases hsize
  | case3 c cs n hle ih =>
    rw [sliceFrom, if_pos hle, ih]
    constructor
    · rintro ⟨before, rfl, hsize⟩
      clear ih
      exact ⟨c :: before, rfl, by rw [size_cons]; omega⟩
    · rintro ⟨before, happ, hsize⟩
      cases before with
      | nil => cases hsize
      | cons b rest =>
        obtain ⟨rfl, rfl⟩ := List.cons.inj happ
        exact ⟨rest, rfl, by rw [size_cons] at hsize; omega⟩
  | case4 c cs n hlt =>
    refine iff_of_false (by simp [sliceFrom, hlt]) ?_
    rintro ⟨before, happ, hsize⟩
    cases before with
    | nil => cases hsize
    | cons b rest =>
      obtain ⟨rfl, -⟩ := List.cons.inj happ
      rw [size_cons] at hsize
      omega

/-- Nothing is left out where the text fits. -/
theorem clip_eq_self {n : Nat} {cs : List Char} : clip n cs = cs ↔ size cs ≤ n := by
  induction cs generalizing n with
  | nil => simp [clip]
  | cons c cs ih =>
    rw [clip, size_cons]
    split_ifs with hle
    · simp only [List.cons.injEq, true_and, ih]
      omega
    · refine iff_of_false (by simp) ?_
      omega

/-- What is left out is left out for want of room. -/
theorem lt_size_clip {n : Nat} {cs : List Char} (h : n < size cs) : n < size (clip n cs) + 4 := by
  induction cs generalizing n with
  | nil => simp at h
  | cons c cs ih =>
    have := c.utf8Size_le_four
    rw [size_cons] at h
    rw [clip]
    split_ifs with hle
    · rw [size_cons]
      have := @ih (n - c.utf8Size) (by omega)
      omega
    · rw [size_nil]
      omega

/-- `str::as_bytes`. -/
def bytes (s : String) : List UInt8 := s.toUTF8.data.toList

theorem bytes_inj {s t : String} : bytes s = bytes t ↔ s = t := by
  refine ⟨fun h => ?_, by rintro rfl; rfl⟩
  have hbytes : s.toUTF8 = t.toUTF8 := ByteArray.ext (Array.toList_inj.1 h)
  exact String.toByteArray_inj.1 hbytes

/-- A slice is taken exactly at a boundary. -/
theorem sliceTo_isSome {cs : List Char} {n : Nat} : (sliceTo cs n).isSome = true ↔ IsBoundary cs n := by
  simp only [Option.isSome_iff_exists, sliceTo_eq_some, IsBoundary]

/-- The first byte of a text is a character of its own. -/
theorem sliceTo_one {cs before : List Char} : sliceTo cs 1 = some before ↔ ∃ c, before = [c] ∧ cs.head? = some c ∧ c.utf8Size = 1 := by
  rw [sliceTo_eq_some]
  constructor
  · rintro ⟨after, rfl, hsize⟩
    have hlen := length_le_size before
    match before with
    | [] => cases hsize
    | [c] => exact ⟨c, rfl, rfl, by simpa using hsize⟩
    | c :: d :: rest =>
      simp only [List.length_cons] at hlen
      omega
  · rintro ⟨c, rfl, hhead, hsize⟩
    obtain ⟨rest, rfl⟩ := List.head?_eq_some_iff.1 hhead
    exact ⟨rest, rfl, by simpa using hsize⟩

/-- So is the last one. -/
theorem sliceFrom_last {cs after : List Char} (hne : cs ≠ []) :
    sliceFrom cs (size cs - 1) = some after ↔ ∃ c, after = [c] ∧ cs.getLast? = some c ∧ c.utf8Size = 1 := by
  rw [sliceFrom_eq_some]
  have hpos : 0 < size cs := Nat.pos_of_ne_zero fun h => hne (size_eq_zero.1 h)
  constructor
  · rintro ⟨before, rfl, hsize⟩
    rw [size_append] at hsize hpos
    have hlen := length_le_size after
    match after with
    | [] =>
      rw [size_nil] at hsize hpos
      omega
    | [c] => exact ⟨c, rfl, by simp, by simp only [size_cons, size_nil] at hsize hpos; omega⟩
    | c :: d :: rest =>
      simp only [List.length_cons] at hlen
      omega
  · rintro ⟨c, rfl, hlast, hsize⟩
    obtain ⟨front, rfl⟩ := List.getLast?_eq_some_iff.1 hlast
    exact ⟨front, rfl, by simp [hsize]⟩

end Utf8
