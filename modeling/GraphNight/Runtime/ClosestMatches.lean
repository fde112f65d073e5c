import GraphNight.Lib.EditDistance
import GraphNight.Runtime.Suggest

/-!
# Did you mean (`graphnight-runtime/src/suggest.rs`)

The table of `edit_distance` holds the distances between the beginnings of the two texts, so its
last entry is their distance. The closest names are those near enough, best first.
-/

namespace GraphNight

namespace Suggest

open EditDistance

/-! ## The table -/

/-- **One row from the one above it.** -/
theorem distanceRow_prefixRow (p q : List Char) (c : Char) (bs : List Char) :
    distanceRow c bs (prefixRow p q bs) (distance (p ++ [c]) q) = (prefixRow (p ++ [c]) q bs).tail := by
  induction bs generalizing q with
  | nil => rfl
  | cons b bs ih =>
    have hentry : min (min (distance p (q ++ [b]) + 1) (distance (p ++ [c]) q + 1)) (distance p q + if c = b then 0 else 1) =
        distance (p ++ [c]) (q ++ [b]) := (distance_concat c b p q).symm
    have hrow := ih (q ++ [b])
    rw [prefixRow_eq_cons p (q ++ [b]) bs] at hrow
    rw [prefixRow, prefixRow_eq_cons p (q ++ [b]) bs, distanceRow]
    rw [hentry, hrow]
    show _ = prefixRow (p ++ [c]) (q ++ [b]) bs
    exact (prefixRow_eq_cons _ _ _).symm

/-- **The rows of the table**, from the beginning `p` of the first text on. -/
theorem distanceTable_prefixRow (b p cs : List Char) :
    distanceTable b p.length cs (prefixRow p [] b) = prefixRow (p ++ cs) [] b := by
  induction cs generalizing p with
  | nil => rw [distanceTable, List.append_nil]
  | cons c cs ih =>
    have hlast : distance (p ++ [c]) [] = p.length + 1 := by
      rw [distance_nil_right, List.length_append]
      rfl
    have hrow : (p.length + 1) :: distanceRow c b (prefixRow p [] b) (p.length + 1) = prefixRow (p ++ [c]) [] b := by
      rw [← hlast, distanceRow_prefixRow]
      exact (prefixRow_eq_cons _ _ _).symm
    have hnext := ih (p ++ [c])
    rw [List.length_append, List.length_singleton, List.append_assoc, List.singleton_append] at hnext
    rw [distanceTable, hrow, hnext]

/-- The letters of a text, as they are compared. -/
def letters (s : String) : List Char := (Str.toAsciiLowercase s).toList

/-- **`edit_distance` is the edit distance.** -/
theorem editDistance_eq (a b : String) : editDistance a b = distance (letters a) (letters b) := by
  have htable : (distanceTable (letters b) 0 (letters a) (List.range ((letters b).length + 1))).getLastD 0 = distance (letters a) (letters b) := by
    have hrows := distanceTable_prefixRow (letters b) [] (letters a)
    rw [prefixRow_nil] at hrows
    rw [List.range_eq_range']
    show (distanceTable (letters b) ([] : List Char).length (letters a) _).getLastD 0 = _
    rw [show (0 : Nat) = ([] : List Char).length from rfl, hrows, getLastD_prefixRow]
    rfl
  show (if (letters a).isEmpty then (letters b).length else if (letters b).isEmpty then (letters a).length
    else (distanceTable (letters b) 0 (letters a) (List.range ((letters b).length + 1))).getLastD 0) = _
  rw [htable]
  split
  · next h => rw [List.isEmpty_iff.1 h, distance_nil_left]
  · split
    · next h => rw [List.isEmpty_iff.1 h, distance_nil_right]
    · rfl

/-! ## The closest names -/

/-- Near enough, or one text within the other. -/
def Candidate (field known : String) : Prop :=
  distance (letters field) (letters known) ≤ max (max field.utf8ByteSize known.utf8ByteSize / 2) 1 ∨
    letters field <:+: letters known ∨ letters known <:+: letters field

theorem containsStr_iff {s sub : String} : Str.containsStr s sub = true ↔ sub.toList <:+: s.toList := by
  simp only [Str.containsStr, List.any_eq_true, List.mem_tails, List.isPrefixOf_iff_prefix, List.infix_iff_prefix_suffix, and_comm]

theorem isClose_iff {field known : String} : isClose field known (editDistance field known) = true ↔ Candidate field known := by
  simp only [isClose, Bool.or_eq_true, decide_eq_true_eq, containsStr_iff, editDistance_eq, or_assoc]
  exact Iff.rfl

/-- Nearer first, and by name among those as near. -/
def Before (field a b : String) : Prop :=
  distance (letters field) (letters a) < distance (letters field) (letters b) ∨
    distance (letters field) (letters a) = distance (letters field) (letters b) ∧ a ≤ b

/-- The comparison of the sort. -/
def scoredBefore (a b : Nat × String) : Bool := a.1 < b.1 || (a.1 == b.1 && a.2 ≤ b.2)

theorem scoredBefore_iff {a b : Nat × String} : scoredBefore a b = true ↔ a.1 < b.1 ∨ a.1 = b.1 ∧ a.2 ≤ b.2 := by
  simp [scoredBefore]

theorem scoredBefore_trans (a b c : Nat × String) (hab : scoredBefore a b) (hbc : scoredBefore b c) : scoredBefore a c := by
  rw [scoredBefore_iff] at hab hbc ⊢
  rcases hab with hab | ⟨hab, hname⟩
  · left
    rcases hbc with hbc | ⟨hbc, -⟩ <;> omega
  · rcases hbc with hbc | ⟨hbc, hname'⟩
    · left
      omega
    · exact .inr ⟨hab.trans hbc, String.le_trans hname hname'⟩

theorem scoredBefore_total (a b : Nat × String) : (scoredBefore a b || scoredBefore b a) = true := by
  rw [Bool.or_eq_true, scoredBefore_iff, scoredBefore_iff]
  rcases Nat.lt_trichotomy a.1 b.1 with h | h | h
  · exact .inl (.inl h)
  · rcases String.le_total a.2 b.2 with hname | hname
    · exact .inl (.inr ⟨h, hname⟩)
    · exact .inr (.inr ⟨h.symm, hname⟩)
  · exact .inr (.inl h)

instance (field known : String) : Decidable (Candidate field known) := decidable_of_iff _ isClose_iff

/-- A name with its distance. -/
def scored (field k : String) : Nat × String := (editDistance field k, k)

/-- **The closest names are the first of the candidates**, nearest first. -/
theorem closestMatches_eq (field : String) (known : List String) (limit : Nat) :
    ∃ ranked : List String, ranked.Perm (known.filter (Candidate field ·)) ∧ ranked.Pairwise (Before field) ∧
      closestMatches field known limit = ranked.take limit := by
  have hfilter : (known.map (scored field)).filter (fun p => isClose field p.2 p.1) = (known.filter (Candidate field ·)).map (scored field) := by
    rw [List.filter_map]
    congr 1
    refine List.filter_congr fun k _ => Bool.eq_iff_iff.2 ?_
    rw [decide_eq_true_iff]
    exact isClose_iff
  have hclosest : closestMatches field known limit =
      ((((known.filter (Candidate field ·)).map (scored field)).mergeSort scoredBefore).map (·.2)).take limit := by
    rw [← hfilter, ← List.map_take]
    rfl
  refine ⟨_, ?_, ?_, hclosest⟩
  · have hperm := (List.mergeSort_perm ((known.filter (Candidate field ·)).map (scored field)) scoredBefore).map (·.2)
    rw [List.map_map] at hperm
    exact hperm.trans (by rw [show (fun e : Nat × String => e.2) ∘ scored field = id from rfl, List.map_id])
  · have hsorted := List.pairwise_mergeSort scoredBefore_trans scoredBefore_total ((known.filter (Candidate field ·)).map (scored field))
    refine List.pairwise_map.2 (hsorted.imp_of_mem fun {e e'} he he' hbefore => ?_)
    -- each entry carries the distance of its name
    obtain ⟨k, -, rfl⟩ := List.mem_map.1 (List.mem_mergeSort.1 he)
    obtain ⟨k', -, rfl⟩ := List.mem_map.1 (List.mem_mergeSort.1 he')
    have hordered := scoredBefore_iff.1 hbefore
    rwa [scored, scored, editDistance_eq, editDistance_eq] at hordered

/-- **Fuzzy matching is exact**: the distance is that of a shortest alignment of the letters, a metric on
them, and what is suggested are the first of the candidates. -/
theorem fuzzy_matching_exact :
    (∀ a b, Aligned (letters a) (letters b) (editDistance a b) ∧ ∀ n, Aligned (letters a) (letters b) n → editDistance a b ≤ n) ∧
      (∀ a b, editDistance a b = editDistance b a) ∧
      (∀ a b c, editDistance a c ≤ editDistance a b + editDistance b c) ∧
      (∀ a b, editDistance a b = 0 ↔ Str.toAsciiLowercase a = Str.toAsciiLowercase b) ∧
      ∀ field known limit, ∃ ranked : List String, ranked.Perm (known.filter (Candidate field ·)) ∧ ranked.Pairwise (Before field) ∧
        closestMatches field known limit = ranked.take limit := by
  refine ⟨fun a b => ⟨?_, fun n h => ?_⟩, fun a b => ?_, fun a b c => ?_, fun a b => ?_, closestMatches_eq⟩
  · rw [editDistance_eq]
    exact aligned_distance _ _
  · rw [editDistance_eq]
    exact distance_le h
  · rw [editDistance_eq, editDistance_eq, distance_comm]
  · rw [editDistance_eq, editDistance_eq, editDistance_eq]
    exact distance_triangle _ _ _
  · rw [editDistance_eq, distance_eq_zero, letters, letters, String.toList_inj]

example : editDistance "kitten" "Sitting" = 3 := by decide +kernel

end Suggest

end GraphNight
