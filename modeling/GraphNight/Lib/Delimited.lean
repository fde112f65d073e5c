import Mathlib.Tactic.SplitIfs

/-!
# Texts made of ended fields

A text that is written field by field, each with an end mark, is read back by cutting it at the
marks. The cut says exactly when two such texts are the same, also where a field holds a mark.
-/

namespace Delimited

variable {α β : Type} (isEnd : α → Bool)

/-- The pieces of a text, each with the mark that ends it. -/
def pieces : List α → List (List α × α)
  | [] => []
  | c :: cs =>
    if isEnd c then ([], c) :: pieces cs
    else
      match pieces cs with
      | [] => []
      | (piece, mark) :: rest => (c :: piece, mark) :: rest

/-- A text is empty or ends with a mark. -/
def Ended (cs : List α) : Prop := ∀ c ∈ cs.getLast?, isEnd c = true

/-- The text of some pieces. -/
def joined (ps : List (List α × α)) : List α := ps.flatMap fun p => p.1 ++ [p.2]

variable {isEnd}

theorem Ended.tail {c : α} {cs : List α} (h : Ended isEnd (c :: cs)) : Ended isEnd cs := by
  intro d hd
  cases cs with
  | nil => cases hd
  | cons e es => exact h d (by rwa [List.getLast?_cons_cons])

/-- **A text is read back** from its pieces. -/
theorem joined_pieces {cs : List α} (h : Ended isEnd cs) : joined (pieces isEnd cs) = cs := by
  induction cs with
  | nil => rfl
  | cons c cs ih =>
    have hcs := ih h.tail
    rw [pieces]
    split_ifs with hc
    · rw [joined, List.flatMap_cons]
      exact congrArg (c :: ·) hcs
    · cases hpieces : pieces isEnd cs with
      | nil =>
        rw [hpieces] at hcs
        subst hcs
        exact absurd (h c rfl) hc
      | cons p ps =>
        rw [hpieces, joined, List.flatMap_cons] at hcs
        simp only [joined, List.flatMap_cons, List.cons_append, hcs]

theorem pieces_append {as : List α} (h : Ended isEnd as) (bs : List α) : pieces isEnd (as ++ bs) = pieces isEnd as ++ pieces isEnd bs := by
  induction as with
  | nil => rfl
  | cons c as ih =>
    rw [List.cons_append, pieces, pieces, ih h.tail]
    split_ifs with hc
    · rfl
    · cases hpieces : pieces isEnd as with
      | nil =>
        have has := joined_pieces h.tail
        rw [hpieces] at has
        subst has
        exact absurd (h c rfl) hc
      | cons p ps => rfl

variable {write : β → List α}

theorem ended_flatMap (hwrite : ∀ b, Ended isEnd (write b)) (bs : List β) : Ended isEnd (bs.flatMap write) := by
  induction bs with
  | nil => exact fun c hc => by cases hc
  | cons b bs ih =>
    rw [List.flatMap_cons]
    intro c hc
    rw [List.getLast?_append] at hc
    cases hlast : (bs.flatMap write).getLast? with
    | none =>
      rw [hlast] at hc
      exact hwrite b c hc
    | some d =>
      rw [hlast] at hc
      obtain rfl := Option.some.inj hc
      exact ih d hlast

theorem pieces_flatMap (hwrite : ∀ b, Ended isEnd (write b)) (bs : List β) :
    pieces isEnd (bs.flatMap write) = bs.flatMap fun b => pieces isEnd (write b) := by
  induction bs with
  | nil => rfl
  | cons b bs ih => rw [List.flatMap_cons, List.flatMap_cons, pieces_append (hwrite b), ih]

/-- **Two lists of fields have one text exactly if they have the same pieces.** -/
theorem flatMap_eq_iff (hwrite : ∀ b, Ended isEnd (write b)) {as bs : List β} :
    as.flatMap write = bs.flatMap write ↔ (as.flatMap fun a => pieces isEnd (write a)) = bs.flatMap fun b => pieces isEnd (write b) := by
  rw [← pieces_flatMap hwrite, ← pieces_flatMap hwrite]
  constructor
  · intro h
    rw [h]
  · intro h
    rw [← joined_pieces (ended_flatMap hwrite as), h, joined_pieces (ended_flatMap hwrite bs)]

end Delimited
