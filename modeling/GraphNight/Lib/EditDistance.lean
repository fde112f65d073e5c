import Mathlib.Algebra.Order.Ring.Nat
import Mathlib.Data.List.Basic

/-!
# Edit distance

The least number of insertions, deletions and substitutions that take one list to another. An
alignment is one way to do it; the distance is the length of a shortest one, so that it is a
metric. The recursion on the first elements computes it, and so does the table that is filled row
by row from the other end.
-/

namespace EditDistance

variable {α : Type} [DecidableEq α]

/-- One way to take a list to another, with the number of edits it needs. -/
inductive Aligned : List α → List α → Nat → Prop where
  | nil : Aligned [] [] 0
  | delete {as bs : List α} {n : Nat} (a : α) (h : Aligned as bs n) : Aligned (a :: as) bs (n + 1)
  | insert {as bs : List α} {n : Nat} (b : α) (h : Aligned as bs n) : Aligned as (b :: bs) (n + 1)
  | keep {as bs : List α} {n : Nat} (a : α) (h : Aligned as bs n) : Aligned (a :: as) (a :: bs) n
  | replace {as bs : List α} {n : Nat} (a b : α) (h : Aligned as bs n) : Aligned (a :: as) (b :: bs) (n + 1)

/-- The distance, by recursion on the first elements. -/
def distance : List α → List α → Nat
  | [], bs => bs.length
  | a :: as, [] => (a :: as).length
  | a :: as, b :: bs =>
    min (min (distance as (b :: bs) + 1) (distance (a :: as) bs + 1)) (distance as bs + if a = b then 0 else 1)
termination_by as bs => as.length + bs.length

theorem distance_nil_left (bs : List α) : distance [] bs = bs.length := by rw [distance]

theorem distance_nil_right (as : List α) : distance as [] = as.length := by
  cases as with
  | nil => rw [distance]
  | cons a as => rw [distance]

theorem distance_cons (a b : α) (as bs : List α) : distance (a :: as) (b :: bs) =
    min (min (distance as (b :: bs) + 1) (distance (a :: as) bs + 1)) (distance as bs + if a = b then 0 else 1) := by
  rw [distance]

/-! ## The distance is the length of a shortest alignment -/

omit [DecidableEq α] in
theorem Aligned.inserts (bs : List α) : Aligned [] bs bs.length := by
  induction bs with
  | nil => exact .nil
  | cons b bs ih => exact ih.insert b

omit [DecidableEq α] in
theorem Aligned.deletes (as : List α) : Aligned as [] as.length := by
  induction as with
  | nil => exact .nil
  | cons a as ih => exact ih.delete a

/-- There is an alignment of that length. -/
theorem aligned_distance (as bs : List α) : Aligned as bs (distance as bs) := by
  induction as, bs using distance.induct with
  | case1 bs =>
    rw [distance_nil_left]
    exact .inserts bs
  | case2 a as =>
    rw [distance_nil_right]
    exact .deletes (a :: as)
  | case3 a as b bs ihdelete ihinsert ihboth =>
    rw [distance_cons]
    rcases min_choice (min (distance as (b :: bs) + 1) (distance (a :: as) bs + 1)) (distance as bs + if a = b then 0 else 1) with h | h
    · rw [h]
      rcases min_choice (distance as (b :: bs) + 1) (distance (a :: as) bs + 1) with h | h
      · rw [h]
        exact ihdelete.delete a
      · rw [h]
        exact ihinsert.insert b
    · rw [h]
      by_cases hab : a = b
      · subst hab
        rw [if_pos rfl]
        exact ihboth.keep a
      · rw [if_neg hab]
        exact ihboth.replace a b

/-- One deletion more is no shorter than none. -/
theorem distance_cons_left_le (a : α) (as bs : List α) : distance (a :: as) bs ≤ distance as bs + 1 := by
  cases bs with
  | nil => rw [distance_nil_right, distance_nil_right, List.length_cons]
  | cons b bs =>
    rw [distance_cons]
    exact le_trans (min_le_left _ _) (min_le_left _ _)

theorem distance_cons_right_le (b : α) (as bs : List α) : distance as (b :: bs) ≤ distance as bs + 1 := by
  cases as with
  | nil => rw [distance_nil_left, distance_nil_left, List.length_cons]
  | cons a as =>
    rw [distance_cons]
    exact le_trans (min_le_left _ _) (min_le_right _ _)

theorem distance_cons_cons_le (a b : α) (as bs : List α) : distance (a :: as) (b :: bs) ≤ distance as bs + if a = b then 0 else 1 := by
  rw [distance_cons]
  exact min_le_right _ _

/-- No alignment is shorter. -/
theorem distance_le {as bs : List α} {n : Nat} (h : Aligned as bs n) : distance as bs ≤ n := by
  induction h with
  | nil => rw [distance_nil_left, List.length_nil]
  | delete a _ ih => exact (distance_cons_left_le a _ _).trans (Nat.succ_le_succ ih)
  | insert b _ ih => exact (distance_cons_right_le b _ _).trans (Nat.succ_le_succ ih)
  | keep a _ ih =>
    have hle := distance_cons_cons_le a a
    simp only [if_true, Nat.add_zero] at hle
    exact (hle _ _).trans ih
  | @replace as bs n a b _ ih =>
    have hle := distance_cons_cons_le a b as bs
    split at hle
    · omega
    · omega

/-! ## A metric -/

omit [DecidableEq α] in
theorem Aligned.symm {as bs : List α} {n : Nat} (h : Aligned as bs n) : Aligned bs as n := by
  induction h with
  | nil => exact .nil
  | delete a _ ih => exact ih.insert a
  | insert b _ ih => exact ih.delete b
  | keep a _ ih => exact ih.keep a
  | replace a b _ ih => exact ih.replace b a

omit [DecidableEq α] in
/-- Two alignments make one that is no longer than both. -/
theorem Aligned.trans {as bs cs : List α} {m n : Nat} (h : Aligned as bs m) (h' : Aligned bs cs n) : ∃ k ≤ m + n, Aligned as cs k := by
  induction h generalizing cs n with
  | nil => exact ⟨n, by omega, h'⟩
  | delete a _ ih =>
    obtain ⟨k, hk, haligned⟩ := ih h'
    exact ⟨k + 1, by omega, haligned.delete a⟩
  | @insert as bs m b h ih =>
    -- what was inserted is deleted, kept or replaced; insertions before it come first
    generalize hlist : b :: bs = list at h'
    induction h' with
    | nil => cases hlist
    | delete b' h' _ =>
      obtain ⟨rfl, rfl⟩ := List.cons.inj hlist
      obtain ⟨k, hk, haligned⟩ := ih h'
      exact ⟨k, by omega, haligned⟩
    | insert c _ ihinsert =>
      obtain ⟨k, hk, haligned⟩ := ihinsert hlist
      exact ⟨k + 1, by omega, haligned.insert c⟩
    | keep b' h' _ =>
      obtain ⟨rfl, rfl⟩ := List.cons.inj hlist
      obtain ⟨k, hk, haligned⟩ := ih h'
      exact ⟨k + 1, by omega, haligned.insert b⟩
    | replace b' c h' _ =>
      obtain ⟨rfl, rfl⟩ := List.cons.inj hlist
      obtain ⟨k, hk, haligned⟩ := ih h'
      exact ⟨k + 1, by omega, haligned.insert c⟩
  | @keep as bs m a h ih =>
    generalize hlist : a :: bs = list at h'
    induction h' with
    | nil => cases hlist
    | delete b' h' _ =>
      obtain ⟨rfl, rfl⟩ := List.cons.inj hlist
      obtain ⟨k, hk, haligned⟩ := ih h'
      exact ⟨k + 1, by omega, haligned.delete a⟩
    | insert c _ ihinsert =>
      obtain ⟨k, hk, haligned⟩ := ihinsert hlist
      exact ⟨k + 1, by omega, haligned.insert c⟩
    | keep b' h' _ =>
      obtain ⟨rfl, rfl⟩ := List.cons.inj hlist
      obtain ⟨k, hk, haligned⟩ := ih h'
      exact ⟨k, by omega, haligned.keep a⟩
    | replace b' c h' _ =>
      obtain ⟨rfl, rfl⟩ := List.cons.inj hlist
      obtain ⟨k, hk, haligned⟩ := ih h'
      exact ⟨k + 1, by omega, haligned.replace a c⟩
  | @replace as bs m a b h ih =>
    generalize hlist : b :: bs = list at h'
    induction h' with
    | nil => cases hlist
    | delete b' h' _ =>
      obtain ⟨rfl, rfl⟩ := List.cons.inj hlist
      obtain ⟨k, hk, haligned⟩ := ih h'
      exact ⟨k + 1, by omega, haligned.delete a⟩
    | insert c _ ihinsert =>
      obtain ⟨k, hk, haligned⟩ := ihinsert hlist
      exact ⟨k + 1, by omega, haligned.insert c⟩
    | keep b' h' _ =>
      obtain ⟨rfl, rfl⟩ := List.cons.inj hlist
      obtain ⟨k, hk, haligned⟩ := ih h'
      exact ⟨k + 1, by omega, haligned.replace a b⟩
    | replace b' c h' _ =>
      obtain ⟨rfl, rfl⟩ := List.cons.inj hlist
      obtain ⟨k, hk, haligned⟩ := ih h'
      exact ⟨k + 1, by omega, haligned.replace a c⟩

theorem distance_comm (as bs : List α) : distance as bs = distance bs as :=
  le_antisymm (distance_le (aligned_distance bs as).symm) (distance_le (aligned_distance as bs).symm)

theorem distance_triangle (as bs cs : List α) : distance as cs ≤ distance as bs + distance bs cs := by
  obtain ⟨k, hk, haligned⟩ := (aligned_distance as bs).trans (aligned_distance bs cs)
  exact (distance_le haligned).trans hk

omit [DecidableEq α] in
theorem Aligned.eq_of_zero {as bs : List α} (h : Aligned as bs 0) : as = bs := by
  generalize hn : 0 = n at h
  induction h with
  | nil => rfl
  | keep a _ ih => rw [ih hn]
  | delete | insert | replace => cases hn

omit [DecidableEq α] in
theorem Aligned.refl (as : List α) : Aligned as as 0 := by
  induction as with
  | nil => exact .nil
  | cons a as ih => exact ih.keep a

theorem distance_eq_zero {as bs : List α} : distance as bs = 0 ↔ as = bs := by
  constructor
  · intro h
    have haligned := aligned_distance as bs
    rw [h] at haligned
    exact haligned.eq_of_zero
  · rintro rfl
    exact Nat.le_zero.1 (distance_le (.refl as))

/-! ## The table -/

omit [DecidableEq α] in
theorem Aligned.append {as bs as' bs' : List α} {m n : Nat} (h : Aligned as bs m) (h' : Aligned as' bs' n) :
    Aligned (as ++ as') (bs ++ bs') (n + m) := by
  induction h with
  | nil => exact h'
  | delete a _ ih => exact ih.delete a
  | insert b _ ih => exact ih.insert b
  | keep a _ ih => exact ih.keep a
  | replace a b _ ih => exact ih.replace a b

omit [DecidableEq α] in
/-- An alignment can be read from the other end. -/
theorem Aligned.reverse {as bs : List α} {n : Nat} (h : Aligned as bs n) : Aligned as.reverse bs.reverse n := by
  induction h with
  | nil => exact .nil
  | @delete as bs n a _ ih =>
    have hlast := ih.append (Aligned.nil.delete a)
    rw [List.append_nil] at hlast
    rw [List.reverse_cons, Nat.add_comm]
    exact hlast
  | @insert as bs n b _ ih =>
    have hlast := ih.append (Aligned.nil.insert b)
    rw [List.append_nil] at hlast
    rw [List.reverse_cons, Nat.add_comm]
    exact hlast
  | @keep as bs n a _ ih =>
    have hlast := ih.append (Aligned.nil.keep a)
    rw [Nat.zero_add] at hlast
    rw [List.reverse_cons, List.reverse_cons]
    exact hlast
  | @replace as bs n a b _ ih =>
    have hlast := ih.append (Aligned.nil.replace a b)
    rw [List.reverse_cons, List.reverse_cons, Nat.add_comm]
    exact hlast

theorem distance_reverse (as bs : List α) : distance as.reverse bs.reverse = distance as bs := by
  refine le_antisymm (distance_le (aligned_distance as bs).reverse) (distance_le ?_)
  have haligned := (aligned_distance as.reverse bs.reverse).reverse
  rwa [List.reverse_reverse, List.reverse_reverse] at haligned

/-- The recursion on the last elements. -/
theorem distance_concat (a b : α) (as bs : List α) : distance (as ++ [a]) (bs ++ [b]) =
    min (min (distance as (bs ++ [b]) + 1) (distance (as ++ [a]) bs + 1)) (distance as bs + if a = b then 0 else 1) := by
  have hreverse (xs ys : List α) : distance xs ys = distance xs.reverse ys.reverse := (distance_reverse xs ys).symm
  rw [hreverse (as ++ [a]) (bs ++ [b]), hreverse as (bs ++ [b]), hreverse (as ++ [a]) bs, hreverse as bs, List.reverse_append,
    List.reverse_append]
  exact distance_cons a b as.reverse bs.reverse

/-- The distances from a list to the beginnings of another, from `q` on. -/
def prefixRow (p q : List α) : List α → List Nat
  | [] => [distance p q]
  | b :: bs => distance p q :: prefixRow p (q ++ [b]) bs

theorem prefixRow_eq_cons (p q bs : List α) : prefixRow p q bs = distance p q :: (prefixRow p q bs).tail := by
  cases bs <;> rfl

theorem prefixRow_nil (q bs : List α) : prefixRow [] q bs = List.range' q.length (bs.length + 1) := by
  induction bs generalizing q with
  | nil =>
    rw [prefixRow, distance_nil_left]
    rfl
  | cons b bs ih =>
    rw [prefixRow, ih, distance_nil_left, List.length_append]
    rfl

theorem getLastD_prefixRow (p q bs : List α) (n : Nat) : (prefixRow p q bs).getLastD n = distance p (q ++ bs) := by
  induction bs generalizing q n with
  | nil =>
    rw [prefixRow, List.append_nil]
    rfl
  | cons b bs ih =>
    rw [prefixRow, List.getLastD_cons, ih, List.append_assoc, List.singleton_append]

end EditDistance
