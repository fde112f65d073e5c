import Mathlib.Algebra.Order.Ring.Nat
import GraphNight.Lib.Page
import GraphNight.Sql.Dialects

/-!
# What a LIMIT/OFFSET text selects

The text a dialect appends, read by the grammar of that dialect's database:
Postgres and DuckDB take LIMIT and OFFSET in either order and alone, MySQL and
SQLite take an OFFSET only behind a LIMIT. All but MySQL read signed numbers of 64 bits.
-/

namespace GraphNight

open SqlText

/-- The rows a LIMIT/OFFSET suffix skips and keeps. -/
structure Window where
  skip : Nat
  keep : Option Nat
deriving DecidableEq, Repr

/-- The least number that is too large to count rows. -/
def Dialect.countBound : Dialect → Nat
  | .mySql => 2 ^ 64
  | .postgres | .sqlite | .duckDb => 2 ^ 63

/-- The value of a decimal number. -/
def readNumber (d : Dialect) (w : String) : Option Nat :=
  if w.toList ≠ [] ∧ w.toList.all Char.isDigit ∧ Nat.ofDigitChars 10 w.toList 0 < d.countBound then
    some (Nat.ofDigitChars 10 w.toList 0)
  else none

/-- The database takes an OFFSET without a LIMIT before it. -/
def Dialect.takesLoneOffset : Dialect → Bool
  | .postgres | .duckDb => true
  | .mySql | .sqlite => false

/-- Read the words of a suffix; `none` is an error of the database. -/
def readWindow (d : Dialect) : List String → Option Window
  | [] => some ⟨0, none⟩
  | ["LIMIT", n] => (readNumber d n).map fun keep => ⟨0, some keep⟩
  | ["LIMIT", n, "OFFSET", m] => do
    let keep ← readNumber d n
    let skip ← readNumber d m
    return ⟨skip, some keep⟩
  | ["OFFSET", m] => if d.takesLoneOffset then (readNumber d m).map fun skip => ⟨skip, none⟩ else none
  | ["OFFSET", m, "LIMIT", n] =>
    if d.takesLoneOffset then do
      let skip ← readNumber d m
      let keep ← readNumber d n
      return ⟨skip, some keep⟩
    else none
  | _ => none

/-- A finite result sequence, whose rows a 64-bit count numbers. -/
abbrev ResultSeq (α : Type) := { rows : List α // rows.length < UInt64.size }

/-- The rows of `rows` that a statement with this limit and offset returns. -/
def Dialect.selected {α : Type} (d : Dialect) (limit offset : Option Nat) (rows : List α) : Option (List α) :=
  (readWindow d (Str.words (d.render (d.limitOffset [] limit offset)))).map fun w =>
    Page.window w.skip w.keep rows

/-- A dialect appends its suffix to whatever stands before it. -/
theorem limitOffset_append (d : Dialect) (sql : SqlText) (limit offset : Option Nat) :
    d.limitOffset sql limit offset = sql ++ d.limitOffset [] limit offset := by
  cases d <;> cases limit <;> cases offset <;>
    simp [Dialect.limitOffset, PostgresDialect.limitOffset, MySqlDialect.limitOffset,
      SqliteDialect.limitOffset, DuckDbDialect.limitOffset]

/-! ## Reading numbers and suffixes back -/

theorem mem_toString_isDigit {n : Nat} {c : Char} (h : c ∈ (toString n).toList) : c.isDigit := by
  rw [Nat.toString_eq_repr, Nat.toList_repr] at h
  exact Nat.isDigit_of_mem_toDigits (by decide) (by decide) h

theorem toString_ne_empty (n : Nat) : (toString n).toList ≠ [] := by
  rw [Nat.toString_eq_repr, Nat.toList_repr]
  exact Nat.toDigits_ne_nil

theorem readNumber_toString (d : Dialect) (n : Nat) : readNumber d (toString n) = if n < d.countBound then some n else none := by
  have hall : (toString n).toList.all Char.isDigit = true :=
    List.all_eq_true.2 fun c hc => mem_toString_isDigit hc
  have hvalue : Nat.ofDigitChars 10 (toString n).toList 0 = n := by
    rw [Nat.toString_eq_repr, Nat.toList_repr, Nat.ofDigitChars_ten_toDigits]
  rw [readNumber, hvalue]
  exact if_congr (by simp only [ne_eq, toString_ne_empty n, not_false_eq_true, hall, true_and]) rfl rfl

theorem words_number (n : Nat) : Str.words (toString n) = [toString n] :=
  Str.words_singleton (fun h => toString_ne_empty n (by rw [h]; rfl))
    fun h => absurd (mem_toString_isDigit h) (by decide)

theorem words_number_cons (n : Nat) (s : String) : Str.words (toString n ++ (" " ++ s)) = toString n :: Str.words s :=
  Str.words_cons (fun h => toString_ne_empty n (by rw [h]; rfl))
    (fun h => absurd (mem_toString_isDigit h) (by decide)) s

theorem limit_text : " LIMIT " = " " ++ ("LIMIT" ++ " ") := rfl

theorem offset_text : " OFFSET " = " " ++ ("OFFSET" ++ " ") := rfl

theorem words_limit (n : Nat) : Str.words (" LIMIT " ++ toString n) = ["LIMIT", toString n] := by
  rw [limit_text, String.append_assoc, String.append_assoc, Str.words_space,
    Str.words_cons (by decide) (by decide), words_number]

theorem words_offset (m : Nat) : Str.words (" OFFSET " ++ toString m) = ["OFFSET", toString m] := by
  rw [offset_text, String.append_assoc, String.append_assoc, Str.words_space,
    Str.words_cons (by decide) (by decide), words_number]

theorem words_limit_offset (n m : Nat) :
    Str.words (" LIMIT " ++ toString n ++ " OFFSET " ++ toString m) =
      ["LIMIT", toString n, "OFFSET", toString m] := by
  rw [limit_text, String.append_assoc, String.append_assoc, String.append_assoc, offset_text,
    String.append_assoc, String.append_assoc, String.append_assoc, Str.words_space,
    Str.words_cons (by decide) (by decide), words_number_cons, Str.words_cons (by decide) (by decide), words_number]

/-- What each form of a suffix selects. -/
theorem read_limit (d : Dialect) (n : Nat) :
    readWindow d ["LIMIT", toString n] = if n < d.countBound then some ⟨0, some n⟩ else none := by
  simp only [readWindow, readNumber_toString]
  split_ifs <;> rfl

theorem read_limit_offset (d : Dialect) (n m : Nat) : readWindow d ["LIMIT", toString n, "OFFSET", toString m] =
    if n < d.countBound ∧ m < d.countBound then some ⟨m, some n⟩ else none := by
  simp only [readWindow, readNumber_toString]
  by_cases hn : n < d.countBound
  · by_cases hm : m < d.countBound <;> simp [hn, hm]
  · simp [hn]

theorem read_offset (d : Dialect) (m : Nat) :
    readWindow d ["OFFSET", toString m] = if d.takesLoneOffset ∧ m < d.countBound then some ⟨m, none⟩ else none := by
  simp only [readWindow, readNumber_toString]
  cases d.takesLoneOffset
  · simp
  · by_cases hm : m < d.countBound <;> simp [hm]

/-- The suffixes as strings. -/
theorem render_limitOffset (d : Dialect) (limit offset : Option Nat) :
    d.render (d.limitOffset [] limit offset) =
      match d, limit, offset with
      | _, none, none => ""
      | _, some l, none => " LIMIT " ++ toString l
      | .mySql, none, some o => " LIMIT " ++ toString 18446744073709551615 ++ " OFFSET " ++ toString o
      | .mySql, some l, some o => " LIMIT " ++ toString o ++ " OFFSET " ++ toString l
      | _, none, some o => " OFFSET " ++ toString o
      | _, some l, some o => " LIMIT " ++ toString l ++ " OFFSET " ++ toString o := by
  cases d <;> cases limit <;> cases offset <;>
    simp [Dialect.limitOffset, PostgresDialect.limitOffset, MySqlDialect.limitOffset,
      SqliteDialect.limitOffset, DuckDbDialect.limitOffset, limitText, offsetText, code, Dialect.renderFrag,
      String.append_assoc]

/-- The database counts as far as the number, if there is one. -/
def Counts (d : Dialect) (n : Option Nat) : Prop := ∀ k, n = some k → k < d.countBound

instance (d : Dialect) (n : Option Nat) : Decidable (Counts d n) :=
  decidable_of_iff (n.all fun k => decide (k < d.countBound)) (by cases n <;> simp [Counts])

/-- **What a suffix selects**, by dialect: MySQL writes its two numbers in each
other's place, and its largest limit for an offset alone; SQLite has no reading
for an offset alone; and none has one for a number that it cannot count to. -/
theorem readWindow_limitOffset (d : Dialect) (limit offset : Option Nat) :
    readWindow d (Str.words (d.render (d.limitOffset [] limit offset))) =
      if Counts d limit ∧ Counts d offset then
        match d, limit, offset with
        | .mySql, some l, some o => some ⟨l, some o⟩
        | .mySql, none, some o => some ⟨o, some 18446744073709551615⟩
        | .sqlite, none, some _ => none
        | _, limit, offset => some ⟨offset.getD 0, limit⟩
      else none := by
  have hsome : ∀ k, Counts d (some k) ↔ k < d.countBound := fun k => by simp [Counts]
  have hnone : Counts d none := by simp [Counts]
  rw [render_limitOffset]
  rcases limit with _ | l <;> rcases offset with _ | o
  · rw [if_pos ⟨hnone, hnone⟩]
    cases d <;> rfl
  · by_cases ho : o < d.countBound
    · rw [if_pos ⟨hnone, (hsome o).2 ho⟩]
      have hlargest : 18446744073709551615 < Dialect.mySql.countBound := by decide
      cases d <;> simp only [words_offset, read_offset, words_limit_offset, read_limit_offset]
      · rw [if_pos ⟨rfl, ho⟩]
        rfl
      · rw [if_pos ⟨hlargest, ho⟩]
      · rw [if_neg (by rintro ⟨hlone, -⟩; cases hlone)]
      · rw [if_pos ⟨rfl, ho⟩]
        rfl
    · rw [if_neg (by rw [hsome]; exact fun h => ho h.2)]
      cases d <;> simp only [words_offset, read_offset, words_limit_offset, read_limit_offset] <;> rw [if_neg fun h => ho h.2]
  · by_cases hl : l < d.countBound
    · rw [if_pos ⟨(hsome l).2 hl, hnone⟩]
      cases d <;> simp only [words_limit, read_limit] <;> rw [if_pos hl] <;> rfl
    · rw [if_neg (by rw [hsome]; exact fun h => hl h.1)]
      cases d <;> simp only [words_limit, read_limit] <;> rw [if_neg hl]
  · by_cases hboth : l < d.countBound ∧ o < d.countBound
    · rw [if_pos ((and_congr (hsome l) (hsome o)).2 hboth)]
      cases d <;> simp only [words_limit_offset, read_limit_offset]
      · rw [if_pos hboth]
        rfl
      · rw [if_pos hboth.symm]
      · rw [if_pos hboth]
        rfl
      · rw [if_pos hboth]
        rfl
    · rw [if_neg (by rw [hsome, hsome]; exact hboth)]
      cases d <;> simp only [words_limit_offset, read_limit_offset] <;>
        first
          | rw [if_neg hboth]
          | rw [if_neg fun h => hboth h.symm]

/-! ## When the suffix selects the page -/

section

variable {α : Type} {d : Dialect} {limit offset : Option Nat}

/-- The suffix selects the rows from the offset up to the limit, of every sequence. -/
def PagesRight (α : Type) (d : Dialect) (limit offset : Option Nat) : Prop :=
  ∀ rows : ResultSeq α, d.selected limit offset rows.1 = some (Page.window (offset.getD 0) limit rows.1)

/-- What the dialects ask of a limit and an offset: MySQL that they are equal when both are present,
SQLite that an offset comes with a limit, and all that they can count to them. -/
structure PagingSound (d : Dialect) (limit offset : Option Nat) : Prop where
  limitCounts : Counts d limit
  offsetCounts : Counts d offset
  mySql : d = .mySql → ∀ l o, limit = some l → offset = some o → l = o
  sqlite : d = .sqlite → limit = none → offset = none

/-- A machine word. -/
def InRange (n : Option Nat) : Prop := ∀ k, n = some k → k < UInt64.size

/-- Two different numbers in each other's place select different rows of a short sequence. -/
theorem swapped_page_ne (a : α) {l o : Nat} (hne : l ≠ o) :
    Page.page l o (List.replicate (min l o + 1) a) ≠ Page.page o l (List.replicate (min l o + 1) a) := by
  intro h
  have hlen := congrArg List.length h
  simp only [Page.length_page, List.length_replicate] at hlen
  omega

theorem selected_eq (d : Dialect) (limit offset : Option Nat) (rows : List α) :
    d.selected limit offset rows =
      if Counts d limit ∧ Counts d offset then
        match d, limit, offset with
        | .mySql, some l, some o => some (Page.page l o rows)
        | .mySql, none, some o => some (Page.page o 18446744073709551615 rows)
        | .sqlite, none, some _ => none
        | _, limit, offset => some (Page.window (offset.getD 0) limit rows)
      else none := by
  rw [Dialect.selected, readWindow_limitOffset]
  split_ifs
  · cases d <;> cases limit <;> cases offset <;> rfl
  · rfl

/-- **When the suffix selects the page**: where the database counts to its numbers, on Postgres and
DuckDB always, on the other two dialects when `PagingSound` says so. -/
theorem pagesRight_iff (a : α) : PagesRight α d limit offset ↔ PagingSound d limit offset := by
  have hempty : ([] : List α).length < UInt64.size := Nat.zero_lt_succ _
  by_cases hcounts : Counts d limit ∧ Counts d offset
  · have hsound : PagingSound d limit offset ↔
        (d = .mySql → ∀ l o, limit = some l → offset = some o → l = o) ∧ (d = .sqlite → limit = none → offset = none) :=
      ⟨fun h => ⟨h.mySql, h.sqlite⟩, fun h => ⟨hcounts.1, hcounts.2, h.1, h.2⟩⟩
    rw [hsound]
    unfold PagesRight
    simp only [selected_eq, if_pos hcounts]
    cases d with
    | postgres => simp
    | duckDb => simp
    | sqlite =>
      rcases limit with _ | l <;> rcases offset with _ | o <;> simp [Page.window]
      exact ⟨[], hempty⟩
    | mySql =>
      rcases limit with _ | l <;> rcases offset with _ | o
      · simp
      · refine iff_of_true (fun rows => congrArg some ?_) (by simp)
        -- the largest limit keeps every row of a sequence that 64 bits number
        have hshort := rows.2
        refine List.take_of_length_le ?_
        rw [List.length_drop]
        simp only [UInt64.size] at hshort
        omega
      · simp
      · constructor
        · refine fun h => ⟨?_, fun hd => by cases hd⟩
          rintro - l' o' ⟨⟩ ⟨⟩
          by_contra hne
          have hl : l < 2 ^ 64 := hcounts.1 l rfl
          have ho : o < 2 ^ 64 := hcounts.2 o rfl
          have hsize : (List.replicate (min l o + 1) a).length < UInt64.size := by
            rw [List.length_replicate, UInt64.size]
            omega
          exact swapped_page_ne a hne (Option.some.inj (h ⟨_, hsize⟩))
        · rintro ⟨h, -⟩ rows
          obtain rfl : l = o := h rfl l o rfl rfl
          rfl
  · refine iff_of_false (fun h => ?_) fun h => hcounts ⟨h.limitCounts, h.offsetCounts⟩
    have hread := h ⟨[], hempty⟩
    rw [selected_eq, if_neg hcounts] at hread
    cases hread

end

end GraphNight
