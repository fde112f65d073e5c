import Mathlib.Data.List.Nodup

/-!
# Pages of a sequence

The rows a LIMIT and an OFFSET select. A page is full when it has as many rows as
the limit allows; a page that is not full is the rest of the sequence, and a full
one is followed by the page that starts where it ends. Rows can be selected before a page
is cut or after it, and the two are rarely the same.
-/

namespace Page

variable {α : Type}

/-- The rows from position `offset` up to `offset + limit`. -/
def page (offset limit : Nat) (rows : List α) : List α := (rows.drop offset).take limit

/-- The same without an upper end when there is no limit. -/
def window (offset : Nat) (limit : Option Nat) (rows : List α) : List α :=
  match limit with
  | some l => page offset l rows
  | none => rows.drop offset

@[simp] theorem length_page (offset limit : Nat) (rows : List α) :
    (page offset limit rows).length = min limit (rows.length - offset) := by
  simp [page]

/-- A page is what a longer rest of the sequence starts with. -/
theorem page_append_drop (offset limit : Nat) (rows : List α) :
    page offset limit rows ++ rows.drop (offset + limit) = rows.drop offset := by
  rw [page, ← List.drop_drop, List.take_append_drop]

/-- A page that is not full is the rest of the sequence. -/
theorem page_of_not_full {offset limit : Nat} {rows : List α} (h : (page offset limit rows).length < limit) :
    page offset limit rows = rows.drop offset := by
  rw [length_page] at h
  exact List.take_of_length_le (by rw [List.length_drop]; omega)

/-- A full page that is not empty ends inside the sequence. -/
theorem end_of_full {offset limit : Nat} {rows : List α} (h : limit ≤ (page offset limit rows).length)
    (hpos : 0 < limit) : offset + limit ≤ rows.length := by
  rw [length_page] at h
  omega

theorem window_sublist (offset : Nat) (limit : Option Nat) (rows : List α) :
    (window offset limit rows).Sublist rows := by
  cases limit with
  | none => exact List.drop_sublist _ _
  | some l => exact (List.take_sublist _ _).trans (List.drop_sublist _ _)

theorem map_window {β : Type} (f : α → β) (offset : Nat) (limit : Option Nat) (rows : List α) :
    (window offset limit rows).map f = window offset limit (rows.map f) := by
  cases limit <;> simp [window, page]

/-! ## Selecting after the page is cut -/

/-- The rows of a page that `p` selects are the page of the rows it selects: it selects none
here and too few later, or all that were skipped and here as many as there is room for. -/
def CutsAfter (p : α → Bool) (limit : Option Nat) (skipped here later : List α) : Prop :=
  (here.countP p = 0 ∧ (limit = some 0 ∨ later.countP p ≤ skipped.length - skipped.countP p)) ∨
    (skipped.countP p = skipped.length ∧ (limit = some (here.countP p) ∨ later.countP p = 0))

theorem window_eq_nil_iff {offset : Nat} {limit : Option Nat} {rows : List α} :
    window offset limit rows = [] ↔ limit = some 0 ∨ rows.length ≤ offset := by
  cases limit with
  | none => simp [window]
  | some l => simp [window, page, List.take_eq_nil_iff]

/-- What skipped rows leave of the selection is skipped of the rows after them. -/
theorem window_append {limit : Option Nat} {front rows : List α} (n : Nat) :
    window (front.length + n) limit (front ++ rows) = window n limit rows := by
  have hdrop : (front ++ rows).drop (front.length + n) = rows.drop n := by
    rw [← List.drop_drop, List.drop_left]
  cases limit with
  | none => exact hdrop
  | some l => exact congrArg (List.take l) hdrop

theorem window_zero_eq_iff {limit : Option Nat} {rows more : List α} (hl : ∀ l ∈ limit, rows.length ≤ l) :
    rows = window 0 limit (rows ++ more) ↔ limit = some rows.length ∨ more = [] := by
  cases limit with
  | none => simp [window]
  | some l =>
    have hle : rows.length ≤ l := hl l rfl
    have htake : (rows ++ more).take l = rows ++ more.take (l - rows.length) := by
      rw [List.take_append, List.take_of_length_le hle]
    show rows = (rows ++ more).take l ↔ _
    rw [htake, List.self_eq_append_right, List.take_eq_nil_iff, Option.some.injEq]
    constructor
    · rintro (h | h)
      · exact .inl (by omega)
      · exact .inr h
    · rintro (h | h)
      · exact .inl (by omega)
      · exact .inr h

theorem filter_here_iff {p : α → Bool} {offset : Nat} {limit : Option Nat} {skipped here later : List α}
    (hnodup : (here ++ later).Nodup)
    (hskip : skipped.length = offset ∨ (skipped.length ≤ offset ∧ here = [] ∧ later = []))
    (hroom : ∀ l ∈ limit, here.length ≤ l) :
    here.filter p = window offset limit ((skipped ++ here ++ later).filter p) ↔ CutsAfter p limit skipped here later := by
  obtain rfl | ⟨hshort, rfl, rfl⟩ := hskip
  swap
  · have hnone : window offset limit (skipped.filter p) = [] :=
      window_eq_nil_iff.2 (.inr (Nat.le_trans (List.length_filter_le _ _) hshort))
    simp [CutsAfter, hnone]
  have hsel : window skipped.length limit ((skipped ++ here ++ later).filter p) =
      window (skipped.length - skipped.countP p) limit (here.filter p ++ later.filter p) := by
    have happend := @window_append _ limit (skipped.filter p) (here.filter p ++ later.filter p)
      (skipped.length - skipped.countP p)
    rwa [← List.countP_eq_length_filter, Nat.add_sub_cancel' List.countP_le_length, ← List.append_assoc,
      ← List.filter_append, ← List.filter_append] at happend
  rw [hsel, CutsAfter, List.countP_eq_length_filter (l := here), List.countP_eq_length_filter (l := later)]
  have hle : skipped.countP p ≤ skipped.length := List.countP_le_length
  have hlimit : ∀ l ∈ limit, (here.filter p).length ≤ l := fun l hl =>
    Nat.le_trans (List.length_filter_le _ _) (hroom l hl)
  have hdistinct : (here.filter p ++ later.filter p).Nodup := by
    rw [← List.filter_append]
    exact hnodup.filter p
  generalize here.filter p = hs at hlimit hdistinct ⊢
  generalize later.filter p = ls at hdistinct ⊢
  cases hs with
  | nil =>
    rw [List.nil_append, eq_comm, window_eq_nil_iff]
    simp only [List.length_nil, true_and, List.length_eq_zero_iff]
    constructor
    · exact .inl
    · rintro (h | ⟨h, h0 | h0⟩)
      · exact h
      · exact .inl h0
      · exact .inr (by simp [h0])
  | cons b hs =>
    -- the first row selected here is the first of the page only where nothing is skipped
    have hstart : b :: hs = window (skipped.length - skipped.countP p) limit (b :: hs ++ ls) →
        skipped.countP p = skipped.length := by
      intro h
      by_contra hne
      have hmem : b ∈ (b :: hs ++ ls).drop (skipped.length - skipped.countP p) := by
        have hb : b ∈ window (skipped.length - skipped.countP p) limit (b :: hs ++ ls) := by
          rw [← h]
          exact List.mem_cons_self
        cases limit with
        | none => exact hb
        | some l => exact List.mem_of_mem_take hb
      obtain ⟨n, hn⟩ : ∃ n, skipped.length - skipped.countP p = n + 1 :=
        ⟨skipped.length - skipped.countP p - 1, by omega⟩
      rw [hn, List.cons_append, List.drop_succ_cons] at hmem
      exact (List.nodup_cons.1 hdistinct).1 (List.mem_of_mem_drop hmem)
    constructor
    · intro h
      have hall := hstart h
      rw [hall, Nat.sub_self, window_zero_eq_iff hlimit] at h
      exact .inr ⟨hall, h.imp_right fun hnil => by simp [hnil]⟩
    · rintro (⟨hnone, -⟩ | ⟨hall, h⟩)
      · simp at hnone
      · rw [hall, Nat.sub_self, window_zero_eq_iff hlimit]
        exact h.imp_right List.length_eq_zero_iff.1

/-- Selecting the rows of a page selects the page of the rows selected. -/
theorem filter_page_iff {p : α → Bool} {offset size : Nat} {limit : Option Nat} {rows : List α} (hnodup : rows.Nodup)
    (hsize : ∀ l ∈ limit, size = l) :
    (page offset size rows).filter p = window offset limit (rows.filter p) ↔
      CutsAfter p limit (rows.take offset) (page offset size rows) (rows.drop (offset + size)) := by
  have hrows : rows.take offset ++ page offset size rows ++ rows.drop (offset + size) = rows := by
    rw [List.append_assoc, page_append_drop, List.take_append_drop]
  have hiff := @filter_here_iff _ p offset limit (rows.take offset) (page offset size rows)
    (rows.drop (offset + size)) (by
      rw [page_append_drop]
      exact hnodup.sublist (List.drop_sublist _ _)) (by
      rcases Nat.le_total offset rows.length with hle | hle
      · exact .inl (by simp [hle])
      · refine .inr ⟨List.length_take_le _ _, ?_, ?_⟩
        · simp [page, List.drop_of_length_le hle]
        · exact List.drop_of_length_le (by omega)) (by
      intro l hl
      rw [← hsize l hl, length_page]
      omega)
  rwa [hrows] at hiff

/-- Cutting what the first rows yield gives what cutting the whole yield gives exactly where
the first rows yield enough. -/
theorem take_filterMap_take_iff {β : Type} {f : α → Option β} {rows : List α} {limit fetched : Nat} :
    ((rows.take fetched).filterMap f).take limit = (rows.filterMap f).take limit ↔
      min limit (rows.countP fun a => (f a).isSome) ≤ (rows.take fetched).countP fun a => (f a).isSome := by
  have hsplit : rows.filterMap f = (rows.take fetched).filterMap f ++ (rows.drop fetched).filterMap f := by
    rw [← List.filterMap_append, List.take_append_drop]
  have hcount : (rows.countP fun a => (f a).isSome) =
      ((rows.take fetched).filterMap f).length + ((rows.drop fetched).filterMap f).length := by
    rw [← List.length_append, ← hsplit, List.length_filterMap_eq_countP]
  rw [hcount, hsplit, ← List.length_filterMap_eq_countP]
  constructor
  · intro h
    have hlen := congrArg List.length h
    simp only [List.length_take, List.length_append] at hlen
    omega
  · intro h
    rw [List.take_append]
    rcases Nat.le_total limit ((rows.take fetched).filterMap f).length with hle | hle
    · rw [Nat.sub_eq_zero_of_le hle, List.take_zero, List.append_nil]
    · have hrest : limit - ((rows.take fetched).filterMap f).length = 0 ∨ (rows.drop fetched).filterMap f = [] := by
        rw [← List.length_eq_zero_iff]
        omega
      rw [List.take_eq_nil_iff.2 hrest, List.append_nil]

/-- The same for a selection. -/
theorem take_filter_take_iff {p : α → Bool} {rows : List α} {limit fetched : Nat} :
    ((rows.take fetched).filter p).take limit = (rows.filter p).take limit ↔
      min limit (rows.countP p) ≤ (rows.take fetched).countP p := by
  have hiff := @take_filterMap_take_iff _ _ (Option.guard p) rows limit fetched
  simp only [List.filterMap_eq_filter, Option.isSome_guard] at hiff
  exact hiff

/-- What the first of distinct rows yield is what all yield, less what later ones do. -/
theorem map_filter_take {β : Type} [DecidableEq β] {g : α → β} {rows : List α} (hnodup : (rows.map g).Nodup)
    (p : α → Bool) (n : Nat) : ((rows.take n).filter p).map g =
      ((rows.filter p).map g).filter fun b => decide (b ∈ (rows.take n).map g) := by
  have hsplit : rows.filter p = (rows.take n).filter p ++ (rows.drop n).filter p := by
    rw [← List.filter_append, List.take_append_drop]
  have hapart : ∀ b ∈ (rows.drop n).map g, b ∉ (rows.take n).map g := by
    rw [← List.take_append_drop n rows, List.map_append, List.nodup_append] at hnodup
    intro b hlate hearly
    exact hnodup.2.2 b hearly b hlate rfl
  rw [hsplit, List.map_append, List.filter_append]
  have hfirst : (((rows.take n).filter p).map g).filter (fun b => decide (b ∈ (rows.take n).map g)) =
      ((rows.take n).filter p).map g := by
    refine List.filter_eq_self.2 fun b hb => decide_eq_true ?_
    obtain ⟨a, ha, rfl⟩ := List.mem_map.1 hb
    exact List.mem_map_of_mem (List.mem_of_mem_filter ha)
  have hlater : (((rows.drop n).filter p).map g).filter (fun b => decide (b ∈ (rows.take n).map g)) = [] := by
    refine List.filter_eq_nil_iff.2 fun b hb => ?_
    obtain ⟨a, ha, rfl⟩ := List.mem_map.1 hb
    simpa using hapart _ (List.mem_map_of_mem (List.mem_of_mem_filter ha))
  rw [hfirst, hlater, List.append_nil]

end Page
