import GraphNight.Core.FunctionCalls
import GraphNight.Lib.Quote
import GraphNight.Lib.Separator
import GraphNight.Sql.Generator
import GraphNight.Sql.Tokens

/-!
# Join conditions written out and read back

The join walker writes the column pairs of a join as one text, and the generator takes that text
apart again to quote its columns. The condition comes out as it went in exactly if no column holds
something the text is taken apart at.
-/

namespace GraphNight

open SqlText

theorem Dialect.quoteIdent_toList (d : Dialect) (s : String) : (d.quoteIdent s).toList = Quote.quote d.identQuote s.toList := by
  cases d <;>
    simp only [quoteIdent, PostgresDialect.quoteIdent, MySqlDialect.quoteIdent, SqliteDialect.quoteIdent, DuckDbDialect.quoteIdent,
      Str.replaceChar, String.toList_append, String.toList_ofList] <;>
    rfl

theorem Dialect.identQuote_ne_blank (d : Dialect) : ' ' ≠ d.identQuote := by
  cases d <;> decide

/-- What stands between two conditions. -/
def andText : List Char := [' ', 'A', 'N', 'D', ' ']

/-- One pair of columns, as the walker writes it. -/
def pairText (a b l r : List Char) : List Char := a ++ '.' :: (l ++ ' ' :: '=' :: ' ' :: (b ++ '.' :: r))

/-- One pair of columns, quoted. -/
def quotedPair (q : Char) (a b l r : List Char) : List Char :=
  a ++ '.' :: (Quote.quote q l ++ ' ' :: '=' :: ' ' :: (b ++ '.' :: Quote.quote q r))

/-! ## Where a text is cut -/

/-- A separator that begins before a character and does not go beyond it. -/
theorem noneStarts_cons_iff {sep cs rest : List Char} {x : Char} (hsep : 2 ≤ sep.length)
    (hends : ∀ part, part ≠ [] → sep <+: part ++ x :: rest → sep.length ≤ part.length + 1) :
    Str.NoneStarts sep cs (x :: rest) ↔ ¬sep <:+: cs ++ [x] := by
  constructor
  · rintro h ⟨before, after, hcs⟩
    rw [List.append_assoc] at hcs
    obtain ⟨part, rfl, hpart⟩ | ⟨part, -, hpart⟩ := List.append_eq_append_iff.1 hcs
    · refine h before part rfl ?_ ⟨after ++ rest, ?_⟩
      · rintro rfl
        have hlength := congrArg List.length hpart
        simp at hlength
        omega
      · rw [← List.append_assoc, hpart]
        simp
    · have hlength := congrArg List.length hpart
      simp at hlength
      omega
  · rintro h before part rfl hpart hstarts
    have hle := hends part hpart hstarts
    have hin : sep <+: part ++ [x] := List.prefix_of_prefix_length_le hstarts ⟨rest, by simp⟩ (by simpa using hle)
    obtain ⟨after, hafter⟩ := hin
    exact h ⟨before, after, by rw [List.append_assoc, hafter, List.append_assoc]⟩

theorem not_andText_starts {b : List Char} (hb : Identifier b) (rest : List Char) : ¬andText <+: ' ' :: (b ++ '.' :: rest) := by
  intro h
  have hand : ['A', 'N', 'D', ' '] <+: b ++ '.' :: rest := (List.cons_prefix_cons.1 h).2
  obtain hlong | hshort := Nat.lt_or_ge b.length 4
  · have hdot : b ++ ['.'] <+: ['A', 'N', 'D', ' '] := List.prefix_of_prefix_length_le ⟨rest, by simp⟩ hand (by simp; omega)
    exact absurd (hdot.subset (by simp : '.' ∈ b ++ ['.'])) (by decide)
  · have hblank : ['A', 'N', 'D', ' '] <+: b := List.prefix_of_prefix_length_le hand ⟨'.' :: rest, rfl⟩ hshort
    exact absurd (hb.wordy ' ' (hblank.subset (by decide))) (by decide)

/-- A left column ends before ` = `. -/
theorem noneStarts_left {l rest : List Char} : Str.NoneStarts andText l (' ' :: '=' :: rest) ↔ ¬andText <:+: l ++ [' '] := by
  refine noneStarts_cons_iff (by decide) fun part hpart hstarts => ?_
  by_contra hlong
  have hin : part ++ [' ', '='] <+: andText := List.prefix_of_prefix_length_le ⟨rest, by simp⟩ hstarts (by simp; omega)
  exact absurd (hin.subset (by simp : '=' ∈ part ++ [' ', '='])) (by decide)

/-- A right column ends before the next condition. -/
theorem noneStarts_right {r rest : List Char} : Str.NoneStarts andText r (andText ++ rest) ↔ ¬andText <:+: r ++ [' '] := by
  refine noneStarts_cons_iff (by decide) fun part hpart hstarts => ?_
  by_contra hlong
  match part with
  | [] => exact hpart rfl
  | [c] => simp [andText] at hstarts
  | [c, d] => simp [andText] at hstarts
  | [c, d, e] => simp [andText] at hstarts
  | _ :: _ :: _ :: _ :: _ => simp [andText] at hlong

/-- Where a pair is not cut: within its columns. -/
theorem noneStarts_pairText {a b l r rest : List Char} (ha : Identifier a) (hb : Identifier b) :
    Str.NoneStarts andText (pairText a b l r) rest ↔ ¬andText <:+: l ++ [' '] ∧ Str.NoneStarts andText r rest := by
  have hword (cs rest : List Char) (hcs : Wordy cs) : Str.NoneStarts andText cs rest :=
    Str.noneStarts_of_not_mem (hcs.not_mem (by decide)) _ _
  have hdot (cs rest : List Char) : Str.NoneStarts andText ('.' :: cs) rest ↔ Str.NoneStarts andText cs rest := by
    rw [Str.noneStarts_cons]
    simp [andText]
  have hbetween : Str.NoneStarts andText [' ', '=', ' '] ((b ++ '.' :: r) ++ rest) := by
    have hblank : ¬andText <+: ' ' :: (b ++ '.' :: (r ++ rest)) := not_andText_starts hb _
    rw [Str.noneStarts_cons, Str.noneStarts_cons, Str.noneStarts_cons]
    refine ⟨by simp [andText], by simp [andText], ?_, Str.NoneStarts.nil _ _⟩
    simpa using hblank
  have hsplit : pairText a b l r = a ++ ('.' :: (l ++ ([' ', '=', ' '] ++ (b ++ '.' :: r)))) := by
    simp [pairText]
  rw [hsplit, Str.noneStarts_append, hdot, Str.noneStarts_append, Str.noneStarts_append, Str.noneStarts_append, hdot]
  simp only [hword a _ ha.wordy, hword b _ hb.wordy, true_and, hbetween]
  exact and_congr noneStarts_left Iff.rfl

/-! ## What becomes of one condition -/

/-- What of a text behind an alias is quoted as the column. -/
def columnPart (cs : List Char) : List Char := (cs.rdropWhile Str.isWhitespace).takeWhile (· ≠ '.')

/-- A column that a side of a condition gives back. -/
def CleanColumn (cs : List Char) : Prop := '.' ∉ cs ∧ '=' ∉ cs ∧ ∀ c ∈ cs.getLast?, Str.isWhitespace c = false

theorem columnPart_prefix (cs : List Char) : columnPart cs <+: cs :=
  (List.takeWhile_prefix _).trans (List.rdropWhile_prefix _ _)

theorem columnPart_append_blank {cs blank : List Char} (h : Str.Blank blank) : columnPart (cs ++ blank) = columnPart cs := by
  rw [columnPart, h.rdropWhile_append]
  rfl

/-- A text that is quoted whole. -/
theorem columnPart_eq_self {cs : List Char} : columnPart cs = cs ↔ '.' ∉ cs ∧ ∀ c ∈ cs.getLast?, Str.isWhitespace c = false := by
  have hlast : cs.rdropWhile Str.isWhitespace = cs ↔ ∀ c ∈ cs.getLast?, Str.isWhitespace c = false := by
    rw [List.rdropWhile_eq_self_iff]
    constructor
    · intro h c hc
      have hne : cs ≠ [] := by
        rintro rfl
        cases hc
      have hno := h hne
      rw [Option.mem_def, List.getLast?_eq_getLast_of_ne_nil hne] at hc
      rw [Option.some.inj hc] at hno
      simpa using hno
    · intro h hne
      rw [h _ (List.getLast?_eq_getLast_of_ne_nil hne)]
      decide
  have hdot : cs.takeWhile (· ≠ '.') = cs ↔ '.' ∉ cs := by
    rw [List.takeWhile_eq_self_iff]
    simp only [ne_eq, decide_not, Bool.not_eq_true', decide_eq_false_iff_not]
    exact ⟨fun h hc => h _ hc rfl, fun h c hc heq => h (heq ▸ hc)⟩
  rw [← hlast, ← hdot]
  constructor
  · intro h
    have hdrop : cs.rdropWhile Str.isWhitespace = cs := by
      refine (List.rdropWhile_prefix _ _).eq_of_length (le_antisymm (List.rdropWhile_prefix _ _).length_le ?_)
      have hle := (List.takeWhile_prefix (· ≠ '.') (l := cs.rdropWhile Str.isWhitespace)).length_le
      rwa [show List.takeWhile _ _ = cs from h] at hle
    rw [columnPart, hdrop] at h
    exact ⟨h, hdrop⟩
  · rintro ⟨htake, hdrop⟩
    rw [columnPart, hdrop, htake]

/-- The text of one piece between two ` AND `. -/
def quoteCond (cond : String) : SqlText :=
  match (Str.split cond '=').map Str.trim with
  | [left, right] => quoteQualified left ++ code " = " ++ quoteQualified right
  | _ => code cond

theorem quoteJoinOn_eq (on : String) : quoteJoinOn on = join " AND " ((Str.splitStr on " AND ").map quoteCond) := rfl

section

variable {d : Dialect} {a b : List Char}

/-- A side of a condition: its alias stays, what follows is trimmed and cut at a dot. -/
theorem render_side (ha : Identifier a) {lead : List Char} (hlead : Str.Blank lead) (cs : List Char) :
    (d.render (quoteQualified (Str.trim (String.ofList (lead ++ a ++ '.' :: cs))))).toList =
      a ++ '.' :: Quote.quote d.identQuote (columnPart cs) := by
  obtain ⟨c, as, rfl, -⟩ := Identifier.iff.1 ha
  have hpadded : (String.ofList (lead ++ c :: as ++ '.' :: cs)).toList =
      lead ++ (c :: as ++ '.' :: cs.rdropWhile Str.isWhitespace) ++ cs.rtakeWhile Str.isWhitespace := by
    rw [String.toList_ofList]
    simp [List.rdropWhile_append_rtakeWhile]
  have htrail : Str.Blank (cs.rtakeWhile Str.isWhitespace) := fun x hx => List.mem_takeWhile_imp (List.mem_reverse.1 hx)
  have hkept : Str.Trimmed (c :: as ++ '.' :: cs.rdropWhile Str.isWhitespace) := by
    obtain ⟨init, last, hlast, hend⟩ : ∃ init last, '.' :: cs.rdropWhile Str.isWhitespace = init ++ [last] ∧ Str.isWhitespace last = false := by
      cases hdrop : cs.rdropWhile Str.isWhitespace with
      | nil => exact ⟨[], '.', rfl, by decide⟩
      | cons x xs =>
        have hne : cs.rdropWhile Str.isWhitespace ≠ [] := by simp [hdrop]
        have hno := List.rdropWhile_last_not Str.isWhitespace cs hne
        refine ⟨'.' :: (cs.rdropWhile Str.isWhitespace).dropLast, (cs.rdropWhile Str.isWhitespace).getLast hne, ?_, by simpa using hno⟩
        rw [← hdrop, List.cons_append, List.dropLast_append_getLast]
    have hends : Str.Trimmed (c :: as ++ [] ++ (init ++ [last])) :=
      trimmed_of_ends (not_isWhitespace_of_isWordPart (ha.wordy c List.mem_cons_self)) hend
    rw [hlast]
    simpa using hends
  have htrim := Str.trim_of_padded hpadded hlead htrail hkept
  obtain ⟨rest, hrest⟩ := Str.exists_splitOn '.' (cs.rdropWhile Str.isWhitespace)
  have hparts : Str.split (String.ofList (c :: as ++ '.' :: cs.rdropWhile Str.isWhitespace)) '.' =
      String.ofList (c :: as) :: String.ofList (columnPart cs) :: rest.map String.ofList := by
    rw [Str.split, String.toList_ofList, Str.splitOn_append_cons ha.dot_not_mem, hrest]
    rfl
  rw [htrim, quoteQualified, hparts]
  simp [raw, code, ident, Dialect.renderFrag, Dialect.quoteIdent_toList]

/-- A piece with one equals sign is quoted. -/
theorem quoteCond_pair {left right : List Char} (hleft : '=' ∉ left) (hright : '=' ∉ right) :
    quoteCond (String.ofList (left ++ '=' :: right)) =
      quoteQualified (Str.trim (String.ofList left)) ++ code " = " ++ quoteQualified (Str.trim (String.ofList right)) := by
  have hsplit : Str.split (String.ofList (left ++ '=' :: right)) '=' = [String.ofList left, String.ofList right] := by
    rw [Str.split, String.toList_ofList, Str.splitOn_eq_pair.2 ⟨rfl, hleft, hright⟩]
    rfl
  rw [quoteCond, hsplit]
  rfl

/-- Any other piece stays as it is. -/
theorem quoteCond_other {cond : List Char} (h : ¬∃ left right, cond = left ++ '=' :: right ∧ '=' ∉ left ∧ '=' ∉ right) :
    quoteCond (String.ofList cond) = code (String.ofList cond) := by
  rw [quoteCond, Str.split, String.toList_ofList]
  cases hsplit : cond.splitOn '=' with
  | nil => exact absurd hsplit (List.splitOn_ne_nil _ _)
  | cons first rest =>
    cases rest with
    | nil => rfl
    | cons second rest =>
      cases rest with
      | nil => exact absurd ⟨first, second, Str.splitOn_eq_pair.1 hsplit⟩ h
      | cons third rest => rfl

/-- What follows a piece: nothing, or what it is cut at. -/
def Behind (cs : List Char) : Prop := cs = [] ∨ ∃ rest, cs = andText ++ rest

theorem Behind.head_ne {cs : List Char} (h : Behind cs) (d : Dialect) : cs.head? ≠ some d.identQuote := by
  obtain rfl | ⟨rest, rfl⟩ := h
  · exact (Option.some_ne_none _).symm
  · exact fun heq => d.identQuote_ne_blank (Option.some.inj heq)

/-- A piece goes beyond the alias and the dot it begins with. -/
theorem exists_behind_alias {cs u rest : List Char} (ha : Identifier a) (hrest : Behind rest) (h : u ++ rest = a ++ '.' :: cs) :
    ∃ v, u = a ++ '.' :: v ∧ v ++ rest = cs := by
  have hsplit : u ++ rest = (a ++ ['.']) ++ cs := by simp [h]
  obtain ⟨part, hpart, hcs⟩ | ⟨part, hu, hcs⟩ := List.append_eq_append_iff.1 hsplit
  · cases part with
    | nil => exact ⟨[], by simpa using hpart.symm, by simpa using hcs⟩
    | cons c part =>
      obtain rfl | ⟨more, rfl⟩ := hrest
      · cases hcs
      · have hblank : ' ' ∈ a ++ ['.'] := by
          rw [hpart, show ' ' = c from (List.cons.inj hcs).1]
          simp
        obtain hin | hin := List.mem_append.1 hblank
        · exact absurd (ha.wordy _ hin) (by decide)
        · exact absurd hin (by decide)
  · exact ⟨part, by simpa using hu, hcs.symm⟩

/-- Two texts up to their first equals sign. -/
theorem eq_before_equals {x y v w : List Char} (h : x ++ '=' :: v = y ++ '=' :: w) (hx : '=' ∉ x) (hy : '=' ∉ y) : x = y ∧ v = w := by
  have hsplit : Str.splitFirst '=' (x ++ '=' :: v) = some (y, w) := Str.splitFirst_eq_some.2 ⟨h, hy⟩
  rw [Str.splitFirst_eq_some.2 ⟨rfl, hx⟩] at hsplit
  exact Prod.mk.inj (Option.some.inj hsplit)

/-- **A condition that comes back**: the piece it came from is the condition, and its columns are clean. -/
theorem quoted_piece {l r u rest behind s t : List Char} (ha : Identifier a) (hb : Identifier b) (hrest : Behind rest)
    (hbehind : Behind behind) (htext : u ++ rest = pairText a b l r ++ behind) (hnone : Str.NoneStarts andText u rest)
    (hs : s.head? ≠ some d.identQuote) (ht : t.head? ≠ some d.identQuote)
    (h : (d.render (quoteCond (String.ofList u))).toList ++ s = quotedPair d.identQuote a b l r ++ t) :
    u = pairText a b l r ∧ rest = behind ∧ CleanColumn l ∧ CleanColumn r ∧ s = t := by
  have hblank (cs : List Char) : (' ' :: cs).head? ≠ some d.identQuote := fun heq => d.identQuote_ne_blank (Option.some.inj heq)
  obtain ⟨v, rfl, hv⟩ := exists_behind_alias ha hrest (show u ++ rest = a ++ '.' :: (l ++ ' ' :: '=' :: ' ' :: (b ++ '.' :: r) ++ behind) by
    rw [htext]
    simp [pairText])
  have hequals : '=' ∉ a := ha.wordy.not_mem (by decide)
  by_cases hpair : ∃ left right, a ++ '.' :: v = left ++ '=' :: right ∧ '=' ∉ left ∧ '=' ∉ right
  · obtain ⟨left, right, hcond, hleft, hright⟩ := hpair
    -- the equals sign is behind the alias
    obtain ⟨x, rfl, rfl⟩ : ∃ x, left = a ++ '.' :: x ∧ v = x ++ '=' :: right := by
      have hsplit : (a ++ ['.']) ++ v = left ++ '=' :: right := by simpa using hcond
      obtain ⟨part, hpart, hrest⟩ | ⟨part, hpart, hrest⟩ := List.append_eq_append_iff.1 hsplit
      · exact ⟨part, by simpa using hpart, hrest⟩
      · cases part with
        | nil => exact ⟨[], by simpa using hpart.symm, by simpa using hrest.symm⟩
        | cons c part =>
          have hin : '=' ∈ a ++ ['.'] := by
            rw [hpart, show '=' = c from (List.cons.inj hrest).1]
            simp
          obtain hin | hin := List.mem_append.1 hin
          · exact absurd hin hequals
          · exact absurd hin (by decide)
    have hside := render_side (d := d) ha Str.Blank.nil x
    have hrender := quoteCond_pair hleft hright
    rw [List.nil_append] at hside
    rw [hcond, hrender] at h
    simp only [Dialect.render_append, String.toList_append, hside] at h
    generalize hR : (d.render (quoteQualified (Str.trim (String.ofList right)))).toList = side at h
    have hquoted : Quote.quote d.identQuote (columnPart x) ++ (' ' :: '=' :: ' ' :: (side ++ s)) =
        Quote.quote d.identQuote l ++ (' ' :: '=' :: ' ' :: (b ++ '.' :: (Quote.quote d.identQuote r ++ t))) := by
      simpa [quotedPair, code, Dialect.renderFrag] using h
    obtain ⟨hl, hbehindLeft⟩ := Quote.quote_append_inj (hblank _) (hblank _) hquoted
    have hR' : side ++ s = b ++ '.' :: (Quote.quote d.identQuote r ++ t) := by simpa using hbehindLeft
    have hxEquals : '=' ∉ x := fun hc => hleft (List.mem_append_right _ (List.mem_cons_of_mem _ hc))
    have hlEquals : '=' ∉ l := fun hc => hxEquals ((hl ▸ columnPart_prefix x).subset hc)
    obtain ⟨rfl, hright'⟩ : x = l ++ [' '] ∧ right ++ rest = ' ' :: (b ++ '.' :: (r ++ behind)) := by
      refine eq_before_equals ?_ hxEquals (by simp [hlEquals])
      simpa using hv
    -- the right side begins with its alias
    obtain ⟨y, rfl, hy⟩ : ∃ y, right = [' '] ++ b ++ '.' :: y ∧ y ++ rest = r ++ behind := by
      cases right with
      | nil =>
        obtain rfl | ⟨more, rfl⟩ := hrest
        · cases hright'
        · exact absurd ⟨more, hright'⟩ (not_andText_starts hb _)
      | cons c right =>
        obtain ⟨rfl, hbehindBlank⟩ := List.cons.inj hright'
        obtain ⟨y, rfl, hy⟩ := exists_behind_alias hb hrest hbehindBlank
        exact ⟨y, rfl, hy⟩
    have hsideRight := render_side (d := d) hb (Str.Blank.singleton (show Str.isWhitespace ' ' = true by decide)) y
    rw [hsideRight] at hR
    subst hR
    have hquotedRight : Quote.quote d.identQuote (columnPart y) ++ s = Quote.quote d.identQuote r ++ t := by simpa using hR'
    obtain ⟨hr, hst⟩ := Quote.quote_append_inj hs ht hquotedRight
    -- nothing of the next condition is taken for the right column
    obtain ⟨more, hmore⟩ : r <+: y := hr ▸ columnPart_prefix y
    subst hmore
    have hrestBehind : more ++ rest = behind := by simpa using hy
    obtain rfl : more = [] := by
      by_contra hne
      obtain rfl | ⟨next, rfl⟩ := hbehind
      · exact hne (List.append_eq_nil_iff.1 hrestBehind).1
      · refine hnone (a ++ '.' :: (l ++ [' '] ++ '=' :: ([' '] ++ b ++ '.' :: r))) more (by simp) hne ⟨next, hrestBehind.symm⟩
    rw [List.append_nil] at hr hright
    obtain ⟨hlDot, hlLast⟩ := columnPart_eq_self.1 ((columnPart_append_blank (Str.Blank.singleton (show Str.isWhitespace ' ' = true by decide))).symm.trans hl)
    obtain ⟨hrDot, hrLast⟩ := columnPart_eq_self.1 hr
    have hrEquals : '=' ∉ r := fun hc => hright (by simp [hc])
    exact ⟨by simp [pairText], hrestBehind, ⟨hlDot, hlEquals, hlLast⟩, ⟨hrDot, hrEquals, hrLast⟩, hst⟩
  · -- a piece that stays as it is does not quote its column
    rw [quoteCond_other hpair] at h
    have hplain : v ++ s = Quote.quote d.identQuote l ++ (' ' :: '=' :: ' ' :: (b ++ '.' :: Quote.quote d.identQuote r) ++ t) := by
      have hrender : (d.render (code (String.ofList (a ++ '.' :: v)))).toList = a ++ '.' :: v := by
        simp [code, Dialect.renderFrag]
      rw [hrender] at h
      simpa [quotedPair] using h
    have hstarts : v <+: l ++ ' ' :: ('=' :: ' ' :: (b ++ '.' :: r) ++ behind) := ⟨rest, by rw [hv]; simp⟩
    exact absurd hplain (Quote.plain_ne_quote_append d.identQuote_ne_blank hstarts hs)

/-- A clean condition is quoted as it should be. -/
theorem render_quoteCond {l r : List Char} (ha : Identifier a) (hb : Identifier b) (hl : CleanColumn l) (hr : CleanColumn r) :
    (d.render (quoteCond (String.ofList (pairText a b l r)))).toList = quotedPair d.identQuote a b l r := by
  have hblank : Str.Blank [' '] := .singleton (by decide)
  have hleft : '=' ∉ a ++ '.' :: (l ++ [' ']) := by
    simp [ha.wordy.not_mem (show isWordPart '=' = false by decide), hl.2.1]
  have hright : '=' ∉ [' '] ++ b ++ '.' :: r := by
    simp [hb.wordy.not_mem (show isWordPart '=' = false by decide), hr.2.1]
  have hsplit : pairText a b l r = (a ++ '.' :: (l ++ [' '])) ++ '=' :: ([' '] ++ b ++ '.' :: r) := by simp [pairText]
  have hsideLeft := render_side (d := d) ha Str.Blank.nil (l ++ [' '])
  have hsideRight := render_side (d := d) hb hblank r
  rw [columnPart_append_blank hblank, columnPart_eq_self.2 ⟨hl.1, hl.2.2⟩, List.nil_append] at hsideLeft
  rw [columnPart_eq_self.2 ⟨hr.1, hr.2.2⟩] at hsideRight
  rw [hsplit, quoteCond_pair hleft hright]
  simp only [Dialect.render_append, String.toList_append, hsideLeft, hsideRight]
  simp [quotedPair, code, Dialect.renderFrag]

/-- What is rendered behind a piece. -/
def RenderedBehind (d : Dialect) (behind s : List Char) : Prop :=
  behind = [] ∧ s = [] ∨ ∃ on, behind = andText ++ on.toList ∧ s = andText ++ (d.render (quoteJoinOn on)).toList

theorem RenderedBehind.behind {behind s : List Char} (h : RenderedBehind d behind s) : Behind behind := by
  obtain ⟨hnil, -⟩ | ⟨on, hon, -⟩ := h
  · exact .inl hnil
  · exact .inr ⟨_, hon⟩

theorem RenderedBehind.head_ne {behind s : List Char} (h : RenderedBehind d behind s) : s.head? ≠ some d.identQuote := by
  obtain ⟨-, hs⟩ | ⟨on, -, hs⟩ := h
  · exact Behind.head_ne (.inl hs) d
  · exact Behind.head_ne (.inr ⟨_, hs⟩) d

theorem splitStr_ne_nil (s sep : String) (hsep : sep ≠ "") : Str.splitStr s sep ≠ [] := by
  obtain hnone | ⟨before, after, hs, hnone⟩ := Str.noneStarts_or_exists sep.toList s.toList
  · rw [Str.splitStr_of_noneStarts hsep hnone]
    exact List.cons_ne_nil _ _
  · rw [Str.splitStr_append hsep hs hnone]
    exact List.cons_ne_nil _ _

/-- The first piece of a condition text is rendered first. -/
theorem render_of_cut {on : String} {u rest s : List Char} (hon : on.toList = u ++ rest) (hnone : Str.NoneStarts andText u rest)
    (hrest : RenderedBehind d rest s) : (d.render (quoteJoinOn on)).toList = (d.render (quoteCond (String.ofList u))).toList ++ s := by
  rw [quoteJoinOn_eq, Dialect.render_join]
  obtain ⟨rfl, rfl⟩ | ⟨next, rfl, rfl⟩ := hrest
  · rw [List.append_nil] at hon
    rw [Str.splitStr_of_noneStarts (by decide) (by rw [hon]; exact hnone), ← hon, String.ofList_toList]
    simp
  · have hsplit : Str.splitStr on " AND " = String.ofList u :: Str.splitStr (String.ofList next.toList) " AND " :=
      Str.splitStr_append (by decide) hon hnone
    rw [hsplit, String.ofList_toList, quoteJoinOn_eq, Dialect.render_join]
    cases hparts : Str.splitStr next " AND " with
    | nil => exact absurd hparts (splitStr_ne_nil _ _ (by decide))
    | cons first parts =>
      simp only [List.map_cons, Str.join, String.toList_append]
      rw [List.append_assoc]
      rfl

theorem exists_cut (d : Dialect) (on : String) : ∃ u rest s, on.toList = u ++ rest ∧ Str.NoneStarts andText u rest ∧ RenderedBehind d rest s := by
  obtain hnone | ⟨before, after, hon, hnone⟩ := Str.noneStarts_or_exists andText on.toList
  · exact ⟨on.toList, [], [], (List.append_nil _).symm, hnone, .inl ⟨rfl, rfl⟩⟩
  · exact ⟨before, _, _, hon, hnone, .inr ⟨String.ofList after, by rw [String.toList_ofList], rfl⟩⟩

/-- **One condition of a text**: it comes back, with what is behind it, exactly if its columns are clean and
the text is not cut within it. -/
theorem render_pair_iff {on : String} {l r behind t : List Char} (ha : Identifier a) (hb : Identifier b)
    (hon : on.toList = pairText a b l r ++ behind) (hbehind : Behind behind) (ht : t.head? ≠ some d.identQuote) :
    (d.render (quoteJoinOn on)).toList = quotedPair d.identQuote a b l r ++ t ↔
      CleanColumn l ∧ CleanColumn r ∧ Str.NoneStarts andText (pairText a b l r) behind ∧ RenderedBehind d behind t := by
  constructor
  · intro h
    obtain ⟨u, rest, s, hu, hnone, hrest⟩ := exists_cut d on
    rw [render_of_cut hu hnone hrest] at h
    obtain ⟨rfl, rfl, hl, hr, rfl⟩ := quoted_piece ha hb hrest.behind hbehind (hu.symm.trans hon) hnone hrest.head_ne ht h
    exact ⟨hl, hr, hnone, hrest⟩
  · rintro ⟨hl, hr, hnone, hrest⟩
    rw [render_of_cut hon hnone hrest, render_quoteCond ha hb hl hr]

end

/-! ## The condition of a join -/

/-- The column pairs whose text can be taken apart again: no column holds a dot, an equals sign or ` AND `
or ends in whitespace, and none but the last ends in ` AND`. -/
def Separable : List (String × String) → Prop
  | [] => True
  | [(l, r)] => CleanColumn l.toList ∧ CleanColumn r.toList ∧ ¬andText <:+: l.toList ++ [' '] ∧ ¬andText <:+: r.toList
  | (l, r) :: next :: rest =>
    CleanColumn l.toList ∧ CleanColumn r.toList ∧ ¬andText <:+: l.toList ++ [' '] ∧ ¬andText <:+: r.toList ++ [' '] ∧
      Separable (next :: rest)

/-- A condition with its columns quoted by a dialect. -/
def quotedText (d : Dialect) (c : JoinWalker.OnColumn × JoinWalker.OnColumn) : String :=
  c.1.aliasName ++ "." ++ d.quoteIdent c.1.column ++ " = " ++ (c.2.aliasName ++ "." ++ d.quoteIdent c.2.column)

section

variable {d : Dialect} {a b : String}

theorem onText_toList (l r : String) : (JoinWalker.onText (⟨a, l⟩, ⟨b, r⟩)).toList = pairText a.toList b.toList l.toList r.toList := by
  simp [JoinWalker.onText, pairText]

theorem quotedText_toList (l r : String) :
    (quotedText d (⟨a, l⟩, ⟨b, r⟩)).toList = quotedPair d.identQuote a.toList b.toList l.toList r.toList := by
  simp [quotedText, quotedPair, Dialect.quoteIdent_toList]

/-- The two sides of every pair. -/
def sidesOf (a b : String) (pairs : List (String × String)) : List (JoinWalker.OnColumn × JoinWalker.OnColumn) :=
  pairs.map fun p => (⟨a, p.1⟩, ⟨b, p.2⟩)

theorem quoteJoinOn_join_iff (ha : Identifier a.toList) (hb : Identifier b.toList) (pairs : List (String × String)) :
    d.render (quoteJoinOn (Str.join " AND " ((sidesOf a b pairs).map JoinWalker.onText))) =
      Str.join " AND " ((sidesOf a b pairs).map (quotedText d)) ↔ Separable pairs := by
  induction pairs with
  | nil =>
    have hempty : quoteJoinOn "" = code "" := by decide +kernel
    refine iff_of_true ?_ trivial
    simp only [sidesOf, List.map_nil, Str.join_nil, hempty]
    rfl
  | cons p rest ih =>
    obtain ⟨l, r⟩ := p
    cases rest with
    | nil =>
      have hon : (JoinWalker.onText (⟨a, l⟩, ⟨b, r⟩)).toList = pairText a.toList b.toList l.toList r.toList ++ [] := by
        rw [onText_toList, List.append_nil]
      have hstep := render_pair_iff (d := d) (t := []) ha hb hon (.inl rfl) (Behind.head_ne (.inl rfl) d)
      rw [noneStarts_pairText ha hb, Str.noneStarts_nil_iff (by decide), List.append_nil, ← quotedText_toList, String.toList_inj] at hstep
      simp only [sidesOf, List.map_cons, List.map_nil, Str.join]
      rw [hstep, Separable]
      have hbehind : RenderedBehind d [] [] := .inl ⟨rfl, rfl⟩
      constructor
      · rintro ⟨hl, hr, ⟨hleft, hright⟩, -⟩
        exact ⟨hl, hr, hleft, hright⟩
      · rintro ⟨hl, hr, hleft, hright⟩
        exact ⟨hl, hr, ⟨hleft, hright⟩, hbehind⟩
    | cons next rest =>
      generalize hmore : (sidesOf a b (next :: rest)) = more at ih
      have hcons (f : JoinWalker.OnColumn × JoinWalker.OnColumn → String) :
          Str.join " AND " ((sidesOf a b ((l, r) :: next :: rest)).map f) =
            f (⟨a, l⟩, ⟨b, r⟩) ++ " AND " ++ Str.join " AND " (more.map f) := by
        rw [← hmore]
        simp only [sidesOf, List.map_cons, Str.join]
      rw [hcons, hcons, Separable, ← ih]
      generalize Str.join " AND " (more.map JoinWalker.onText) = on
      generalize Str.join " AND " (more.map (quotedText d)) = expected
      have hon : (JoinWalker.onText (⟨a, l⟩, ⟨b, r⟩) ++ " AND " ++ on).toList =
          pairText a.toList b.toList l.toList r.toList ++ (andText ++ on.toList) := by
        rw [String.toList_append, String.toList_append, onText_toList, List.append_assoc]
        rfl
      have hexpected : (quotedText d (⟨a, l⟩, ⟨b, r⟩) ++ " AND " ++ expected).toList =
          quotedPair d.identQuote a.toList b.toList l.toList r.toList ++ (andText ++ expected.toList) := by
        rw [String.toList_append, String.toList_append, quotedText_toList, List.append_assoc]
        rfl
      have hstep := render_pair_iff (d := d) ha hb hon (.inr ⟨_, rfl⟩) (t := andText ++ expected.toList) (Behind.head_ne (.inr ⟨_, rfl⟩) d)
      have hbehind : RenderedBehind d (andText ++ on.toList) (andText ++ expected.toList) ↔ d.render (quoteJoinOn on) = expected := by
        constructor
        · rintro (⟨hnil, -⟩ | ⟨on', hon', hexpected'⟩)
          · cases hnil
          · obtain rfl := String.toList_inj.1 (List.append_cancel_left hon')
            exact (String.toList_inj.1 (List.append_cancel_left hexpected')).symm
        · rintro rfl
          exact .inr ⟨on, rfl, rfl⟩
      rw [← String.toList_inj, hexpected, hstep, noneStarts_pairText ha hb, noneStarts_right, hbehind]
      constructor
      · rintro ⟨hl, hr, ⟨hleft, hright⟩, hrest⟩
        exact ⟨hl, hr, hleft, hright, hrest⟩
      · rintro ⟨hl, hr, hleft, hright, hrest⟩
        exact ⟨hl, hr, ⟨hleft, hright⟩, hrest⟩

theorem identifier_of_plain {name : String} (h : isPlainIdentifier name = true) : Identifier name.toList := by
  unfold Identifier
  rwa [String.ofList_toList]

end

/-- **When a join condition survives its text**: the walker's text, quoted, is the conjunction of its pairs
exactly if the pairs are separable. -/
theorem on_condition_survives_iff (d : Dialect) (baseAlias : String) (edge : JoinEdge) (hbase : isPlainIdentifier baseAlias = true)
    (htarget : isPlainIdentifier (JoinWalker.targetAlias edge.join) = true) :
    d.render (quoteJoinOn (JoinWalker.clause baseAlias edge).on) =
        Str.join " AND " ((edge.join.on.map (JoinWalker.onCondition baseAlias edge)).map (quotedText d)) ↔
      Separable edge.join.on := by
  have hbase' := identifier_of_plain hbase
  have htarget' := identifier_of_plain htarget
  rw [JoinWalker.clause]
  cases hreverse : edge.reverse with
  | true =>
    have hsides : edge.join.on.map (JoinWalker.onCondition baseAlias edge) = sidesOf (JoinWalker.targetAlias edge.join) baseAlias edge.join.on := by
      simp [JoinWalker.onCondition, sidesOf, hreverse]
    rw [hsides]
    exact quoteJoinOn_join_iff htarget' hbase' _
  | false =>
    have hsides : edge.join.on.map (JoinWalker.onCondition baseAlias edge) = sidesOf baseAlias (JoinWalker.targetAlias edge.join) edge.join.on := by
      simp [JoinWalker.onCondition, sidesOf, hreverse]
    rw [hsides]
    exact quoteJoinOn_join_iff hbase' htarget' _

/-- Orders joined to customers, on two columns. -/
def customerEdge (left right : String) : JoinEdge where
  targetModel := "customers"
  join := { name := "customer", model := "customers", joinType := .left, on := [(left, right)] }
  reverse := false

theorem on_condition_survives_iff_customer :
    Dialect.postgres.render (quoteJoinOn (JoinWalker.clause "orders" (customerEdge "customer_id" "id")).on) =
        Str.join " AND " (((customerEdge "customer_id" "id").join.on.map
          (JoinWalker.onCondition "orders" (customerEdge "customer_id" "id"))).map (quotedText .postgres)) ↔
      Separable (customerEdge "customer_id" "id").join.on :=
  on_condition_survives_iff .postgres "orders" (customerEdge "customer_id" "id") (by decide +kernel) (by decide +kernel)

/-- A column with a dot loses all but its first part. -/
theorem dotted_column_is_cut :
    Dialect.postgres.render (quoteJoinOn (JoinWalker.clause "orders" (customerEdge "customer.id" "id")).on) =
        "orders.\"customer\" = customers.\"id\"" ∧
      Dialect.postgres.render (quoteJoinOn (JoinWalker.clause "orders" (customerEdge "customer.id" "id")).on) ≠
        Str.join " AND " (((customerEdge "customer.id" "id").join.on.map
          (JoinWalker.onCondition "orders" (customerEdge "customer.id" "id"))).map (quotedText .postgres)) := by
  decide +kernel

end GraphNight
