import GraphNight.Core.Formula
import GraphNight.Lib.LetterCase
import GraphNight.Lib.Padding

/-!
# Which texts are function calls

The grammar behind `parse_function_call`: a call is the name of an allowed function, a bracket,
arguments with commas between them, a bracket, and whitespace anywhere but inside a word. An
argument is a column of one or two plain identifiers, or a number.
-/

namespace GraphNight

/-! ## Numbers -/

inductive Sign : List Char → Prop where
  | none : Sign []
  | plus : Sign ['+']
  | minus : Sign ['-']

def Digits (cs : List Char) : Prop := cs ≠ [] ∧ ∀ c ∈ cs, Str.isAsciiDigit c = true

inductive Fraction : List Char → Prop where
  | none : Fraction []
  | dot : Fraction ['.']
  | digits {ds : List Char} (hds : Digits ds) : Fraction ('.' :: ds)

inductive Exponent : List Char → Prop where
  | none : Exponent []
  | digits {e : Char} {sign ds : List Char} (he : e = 'e' ∨ e = 'E') (hsign : Sign sign) (hds : Digits ds) :
      Exponent (e :: (sign ++ ds))

/-- `digits (. digits?)?` -/
def Mantissa (cs : List Char) : Prop := ∃ int fraction, cs = int ++ fraction ∧ Digits int ∧ Fraction fraction

/-- `sign? digits (. digits?)? exponent?` -/
def NumericLiteral (cs : List Char) : Prop :=
  ∃ sign mantissa exponent, cs = sign ++ (mantissa ++ exponent) ∧ Sign sign ∧ Mantissa mantissa ∧ Exponent exponent

theorem digitsOk_iff {cs : List Char} : digitsOk cs = true ↔ Digits cs := by
  simp [digitsOk, Digits]

theorem Digits.head {cs : List Char} (h : Digits cs) : ∃ c cs', cs = c :: cs' ∧ Str.isAsciiDigit c = true := by
  cases cs with
  | nil => exact absurd rfl h.1
  | cons c cs => exact ⟨c, cs, rfl, h.2 c List.mem_cons_self⟩

theorem stripSign_append {sign cs : List Char} (hsign : Sign sign) (hcs : ∃ c cs', cs = c :: cs' ∧ Str.isAsciiDigit c = true) :
    stripSign (sign ++ cs) = cs := by
  obtain ⟨c, cs, rfl, hc⟩ := hcs
  cases hsign with
  | plus => rfl
  | minus => rfl
  | none =>
    rw [List.nil_append, stripSign]
    · intro cs' h
      rw [(List.cons.inj h).1] at hc
      exact absurd hc (by decide)
    · intro cs' h
      rw [(List.cons.inj h).1] at hc
      exact absurd hc (by decide)

theorem exists_sign (cs : List Char) : ∃ sign, Sign sign ∧ cs = sign ++ stripSign cs := by
  unfold stripSign
  split
  · exact ⟨['+'], .plus, rfl⟩
  · exact ⟨['-'], .minus, rfl⟩
  · exact ⟨[], .none, rfl⟩

/-- A letter that opens an exponent. -/
def IsE (c : Char) : Prop := c = 'e' ∨ c = 'E'

theorem splitExponent_of_forall {cs : List Char} (h : ∀ c ∈ cs, ¬IsE c) : splitExponent cs = (cs, none) := by
  induction cs with
  | nil => rfl
  | cons c cs ih =>
    have hc : ¬(c = 'e' ∨ c = 'E') := h c List.mem_cons_self
    rw [splitExponent, if_neg hc, ih fun d hd => h d (List.mem_cons_of_mem _ hd)]

theorem splitExponent_append {mantissa exponent : List Char} {e : Char} (h : ∀ c ∈ mantissa, ¬IsE c) (he : IsE e) :
    splitExponent (mantissa ++ e :: exponent) = (mantissa, some exponent) := by
  induction mantissa with
  | nil => exact if_pos he
  | cons c cs ih =>
    have hc : ¬(c = 'e' ∨ c = 'E') := h c List.mem_cons_self
    rw [List.cons_append, splitExponent, if_neg hc, ih fun d hd => h d (List.mem_cons_of_mem _ hd)]

theorem exists_exponent (cs : List Char) : (∀ c ∈ cs, ¬IsE c) ∨
    ∃ mantissa e exponent, cs = mantissa ++ e :: exponent ∧ IsE e ∧ ∀ c ∈ mantissa, ¬IsE c := by
  induction cs with
  | nil => exact .inl fun c hc => absurd hc List.not_mem_nil
  | cons c cs ih =>
    by_cases hc : IsE c
    · exact .inr ⟨[], c, cs, rfl, hc, fun d hd => absurd hd List.not_mem_nil⟩
    · obtain hno | ⟨mantissa, e, exponent, rfl, he, hno⟩ := ih
      · exact .inl (List.forall_mem_cons.2 ⟨hc, hno⟩)
      · exact .inr ⟨c :: mantissa, e, exponent, rfl, he, List.forall_mem_cons.2 ⟨hc, hno⟩⟩

theorem not_isE_of_isAsciiDigit {c : Char} (h : Str.isAsciiDigit c = true) : ¬IsE c := by
  rintro (rfl | rfl) <;> exact absurd h (by decide)

theorem Mantissa.not_isE {cs : List Char} (h : Mantissa cs) : ∀ c ∈ cs, ¬IsE c := by
  obtain ⟨int, fraction, rfl, hint, hfraction⟩ := h
  intro c hc
  obtain hc | hc := List.mem_append.1 hc
  · exact not_isE_of_isAsciiDigit (hint.2 c hc)
  · cases hfraction with
    | none => exact absurd hc List.not_mem_nil
    | dot =>
      rw [List.mem_singleton.1 hc]
      unfold IsE
      decide
    | digits hds =>
      obtain rfl | hc := List.mem_cons.1 hc
      · unfold IsE
        decide
      · exact not_isE_of_isAsciiDigit (hds.2 c hc)

theorem Digits.dot_not_mem {cs : List Char} (h : Digits cs) : '.' ∉ cs := fun hc => absurd (h.2 _ hc) (by decide)

/-- The check of a mantissa by its parts. -/
theorem mantissa_iff {cs : List Char} : (match cs.splitOn '.' with
      | [intPart] => digitsOk intPart
      | [intPart, fracPart] => digitsOk intPart && (fracPart == [] || digitsOk fracPart)
      | _ => false) = true ↔ Mantissa cs := by
  constructor
  · intro h
    split at h
    · rename_i int hsplit
      obtain ⟨-, rfl⟩ := Str.splitOn_eq_singleton.1 hsplit
      exact ⟨int, [], (List.append_nil _).symm, digitsOk_iff.1 h, .none⟩
    · rename_i int fraction hsplit
      obtain ⟨rfl, -, -⟩ := Str.splitOn_eq_pair.1 hsplit
      rw [Bool.and_eq_true, Bool.or_eq_true, beq_iff_eq] at h
      obtain ⟨hint, rfl | hfraction⟩ := h
      · exact ⟨int, ['.'], rfl, digitsOk_iff.1 hint, .dot⟩
      · exact ⟨int, '.' :: fraction, rfl, digitsOk_iff.1 hint, .digits (digitsOk_iff.1 hfraction)⟩
    · cases h
  · rintro ⟨int, fraction, rfl, hint, hfraction⟩
    have hok := digitsOk_iff.2 hint
    cases hfraction with
    | none =>
      rw [List.append_nil, Str.splitOn_eq_singleton.2 ⟨hint.dot_not_mem, rfl⟩]
      exact hok
    | dot =>
      rw [Str.splitOn_eq_pair.2 ⟨rfl, hint.dot_not_mem, List.not_mem_nil⟩]
      simp [hok]
    | digits hds =>
      rw [Str.splitOn_eq_pair.2 ⟨rfl, hint.dot_not_mem, hds.dot_not_mem⟩]
      simp [hok, digitsOk_iff.2 hds]

/-- **The scanner of numbers is exact.** -/
theorem isNumericLiteral_iff {s : String} : isNumericLiteral s = true ↔ NumericLiteral s.toList := by
  obtain ⟨sign, hsign, hbody⟩ := exists_sign s.toList
  constructor
  · intro h
    unfold isNumericLiteral at h
    rw [hbody]
    obtain hno | ⟨mantissa, e, exponent, hsplit, he, hno⟩ := exists_exponent (stripSign s.toList)
    · rw [splitExponent_of_forall hno] at h
      have hmantissa := (Bool.and_eq_true_iff.1 h).1
      exact ⟨sign, _, [], by rw [List.append_nil], hsign, mantissa_iff.1 hmantissa, .none⟩
    · rw [hsplit, splitExponent_append hno he] at h
      obtain ⟨hmantissa, hexponent⟩ := Bool.and_eq_true_iff.1 h
      obtain ⟨sign', hsign', hrest⟩ := exists_sign exponent
      have hds : Digits (stripSign exponent) := digitsOk_iff.1 hexponent
      rw [hrest] at hsplit
      exact ⟨sign, mantissa, e :: (sign' ++ stripSign exponent), by rw [hsplit], hsign, mantissa_iff.1 hmantissa,
        .digits he hsign' hds⟩
  · rintro ⟨sign, mantissa, exponent, hs, hsign, hmantissa, hexponent⟩
    have hhead : ∃ c cs', mantissa ++ exponent = c :: cs' ∧ Str.isAsciiDigit c = true := by
      obtain ⟨int, fraction, rfl, hint, -⟩ := hmantissa
      obtain ⟨c, cs, rfl, hc⟩ := hint.head
      exact ⟨c, _, rfl, hc⟩
    unfold isNumericLiteral
    rw [hs, stripSign_append hsign hhead]
    cases hexponent with
    | none =>
      rw [List.append_nil, splitExponent_of_forall hmantissa.not_isE]
      exact Bool.and_eq_true_iff.2 ⟨mantissa_iff.2 hmantissa, rfl⟩
    | digits he hsign' hds =>
      rw [splitExponent_append hmantissa.not_isE he]
      refine Bool.and_eq_true_iff.2 ⟨mantissa_iff.2 hmantissa, ?_⟩
      dsimp only
      rw [stripSign_append hsign' hds.head]
      exact digitsOk_iff.2 hds

/-! ## Words -/

/-- A letter or `_`, then letters, digits, `_` and `$`. -/
def Identifier (cs : List Char) : Prop := isPlainIdentifier (String.ofList cs) = true

/-- A column, bare or behind one qualifier. -/
inductive ColumnName : List Char → Prop where
  | bare {column : List Char} (hcolumn : Identifier column) : ColumnName column
  | qualified {qualifier column : List Char} (hqualifier : Identifier qualifier) (hcolumn : Identifier column) :
      ColumnName (qualifier ++ '.' :: column)

/-- A character that words and numbers are made of. -/
def isWordPart (c : Char) : Bool := Str.isAsciiAlphanumeric c || c == '_' || c == '$' || c == '.' || c == '+' || c == '-'

theorem toNat_of_isWordPart {c : Char} (h : isWordPart c = true) :
    (97 ≤ c.toNat ∧ c.toNat ≤ 122) ∨ (65 ≤ c.toNat ∧ c.toNat ≤ 90) ∨ (48 ≤ c.toNat ∧ c.toNat ≤ 57) ∨ c.toNat = 95 ∨ c.toNat = 36 ∨
      c.toNat = 46 ∨ c.toNat = 43 ∨ c.toNat = 45 := by
  simp only [isWordPart, Str.isAsciiAlphanumeric, Bool.or_eq_true, Str.isAsciiAlphabetic_iff, Str.isAsciiDigit_iff, beq_iff_eq] at h
  obtain (((((hletter | hdigit) | rfl) | rfl) | rfl) | rfl) | rfl := h
  · tauto
  · tauto
  all_goals simp

theorem not_isWhitespace_of_isWordPart {c : Char} (h : isWordPart c = true) : Str.isWhitespace c = false := by
  have hnat := toNat_of_isWordPart h
  unfold Str.isWhitespace
  simp only [Bool.or_eq_false_iff, Bool.and_eq_false_iff, beq_eq_false_iff_ne, decide_eq_false_iff_not]
  omega

/-- All of a text are word characters. -/
def Wordy (cs : List Char) : Prop := ∀ c ∈ cs, isWordPart c = true

theorem Wordy.trimmed {cs : List Char} (h : Wordy cs) : Str.Trimmed cs :=
  Str.trimmed_of_forall fun c hc => not_isWhitespace_of_isWordPart (h c hc)

theorem Wordy.not_mem {cs : List Char} (h : Wordy cs) {c : Char} (hc : isWordPart c = false) : c ∉ cs := fun hmem => by
  rw [h c hmem] at hc
  cases hc

theorem Wordy.append {cs ds : List Char} (h : Wordy cs) (h' : Wordy ds) : Wordy (cs ++ ds) := fun c hc =>
  (List.mem_append.1 hc).elim (h c) (h' c)

theorem Wordy.cons {c : Char} {cs : List Char} (hc : isWordPart c = true) (h : Wordy cs) : Wordy (c :: cs) :=
  List.forall_mem_cons.2 ⟨hc, h⟩

theorem Identifier.iff {cs : List Char} : Identifier cs ↔ ∃ c cs', cs = c :: cs' ∧ (Str.isAsciiAlphabetic c || c == '_') = true ∧
    ∀ d ∈ cs', (Str.isAsciiAlphanumeric d || d == '_' || d == '$') = true := by
  unfold Identifier isPlainIdentifier
  rw [String.toList_ofList]
  cases cs with
  | nil => simp
  | cons c cs => simp [List.all_eq_true]

theorem Identifier.wordy {cs : List Char} (h : Identifier cs) : Wordy cs := by
  obtain ⟨c, cs, rfl, hc, hcs⟩ := Identifier.iff.1 h
  refine .cons ?_ fun d hd => ?_
  · unfold isWordPart Str.isAsciiAlphanumeric
    obtain hc | hc := Bool.or_eq_true_iff.1 hc <;> simp [hc]
  · have hword := hcs d hd
    unfold isWordPart
    rw [hword]
    simp

theorem Identifier.dot_not_mem {cs : List Char} (h : Identifier cs) : '.' ∉ cs := by
  obtain ⟨c, cs, rfl, hc, hcs⟩ := Identifier.iff.1 h
  rw [List.mem_cons, not_or]
  refine ⟨?_, fun hd => absurd (hcs _ hd) (by decide)⟩
  rintro rfl
  exact absurd hc (by decide)

theorem Digits.wordy {cs : List Char} (h : Digits cs) : Wordy cs := fun c hc => by
  simp [isWordPart, Str.isAsciiAlphanumeric, h.2 c hc]

theorem Wordy.nil : Wordy [] := fun _ hc => absurd hc List.not_mem_nil

theorem Sign.wordy {cs : List Char} (h : Sign cs) : Wordy cs := by
  cases h with
  | none => exact .nil
  | plus => exact .cons (by decide) .nil
  | minus => exact .cons (by decide) .nil

theorem NumericLiteral.wordy {cs : List Char} (h : NumericLiteral cs) : Wordy cs := by
  obtain ⟨sign, mantissa, exponent, rfl, hsign, ⟨int, fraction, rfl, hint, hfraction⟩, hexponent⟩ := h
  have hfractionWordy : Wordy fraction := by
    cases hfraction with
    | none => exact .nil
    | dot => exact .cons (by decide) .nil
    | digits hds => exact .cons (by decide) hds.wordy
  have hexponentWordy : Wordy exponent := by
    cases hexponent with
    | none => exact .nil
    | digits he hsign hds =>
      refine .cons ?_ (hsign.wordy.append hds.wordy)
      obtain rfl | rfl := he <;> decide
  exact hsign.wordy.append ((hint.wordy.append hfractionWordy).append hexponentWordy)

theorem ColumnName.wordy {cs : List Char} (h : ColumnName cs) : Wordy cs := by
  cases h with
  | bare hcolumn => exact hcolumn.wordy
  | qualified hqualifier hcolumn => exact hqualifier.wordy.append (.cons (by decide) hcolumn.wordy)

/-- A column begins with a letter or `_`, a number does not. -/
theorem ColumnName.not_numericLiteral {cs : List Char} (h : ColumnName cs) : ¬NumericLiteral cs := by
  have hhead : ∃ c cs', cs = c :: cs' ∧ (Str.isAsciiAlphabetic c || c == '_') = true := by
    cases h with
    | bare hcolumn =>
      obtain ⟨c, cs', rfl, hc, -⟩ := Identifier.iff.1 hcolumn
      exact ⟨c, cs', rfl, hc⟩
    | qualified hqualifier _ =>
      obtain ⟨c, cs', rfl, hc, -⟩ := Identifier.iff.1 hqualifier
      exact ⟨c, _, rfl, hc⟩
  obtain ⟨c, cs', rfl, hc⟩ := hhead
  rintro ⟨sign, mantissa, exponent, hcs, hsign, ⟨int, fraction, rfl, hint, -⟩, -⟩
  obtain ⟨d, ds, rfl, hd⟩ := hint.head
  have hnot : ∀ c : Char, (c = '+' ∨ c = '-' ∨ Str.isAsciiDigit c = true) → (Str.isAsciiAlphabetic c || c == '_') = false := by
    rintro c (rfl | rfl | hdigit)
    · decide
    · decide
    · rw [Str.isAsciiDigit_iff] at hdigit
      rw [Bool.or_eq_false_iff, Bool.eq_false_iff, Ne, Str.isAsciiAlphabetic_iff, beq_eq_false_iff_ne]
      refine ⟨by omega, ?_⟩
      rintro rfl
      exact absurd hdigit (by decide)
  cases hsign with
  | none => exact absurd hc (by rw [(List.cons.inj hcs).1, hnot d (.inr (.inr hd))]; decide)
  | plus => exact absurd hc (by rw [(List.cons.inj hcs).1]; decide)
  | minus => exact absurd hc (by rw [(List.cons.inj hcs).1]; decide)

theorem columnName_iff {s : String} :
    ((Str.split s '.').length ≤ 2 ∧ (Str.split s '.').all isPlainIdentifier = true) ↔ ColumnName s.toList := by
  unfold Str.split
  rw [List.length_map, List.all_map, List.all_eq_true]
  constructor
  · rintro ⟨hlen, hall⟩
    cases hparts : s.toList.splitOn '.' with
    | nil => exact absurd hparts (List.splitOn_ne_nil _ _)
    | cons first rest =>
      rw [hparts] at hlen hall
      cases rest with
      | nil =>
        obtain ⟨-, rfl⟩ := Str.splitOn_eq_singleton.1 hparts
        exact .bare (hall _ List.mem_cons_self)
      | cons second rest =>
        obtain rfl : rest = [] := by
          cases rest with
          | nil => rfl
          | cons _ _ => simp at hlen
        obtain ⟨hs, -, -⟩ := Str.splitOn_eq_pair.1 hparts
        rw [hs]
        exact .qualified (hall _ List.mem_cons_self) (hall _ (by simp))
  · intro h
    generalize s.toList = cs at h
    cases h with
    | bare hcolumn =>
      rw [Str.splitOn_eq_singleton.2 ⟨hcolumn.dot_not_mem, rfl⟩]
      exact ⟨by simp, fun part hpart => List.mem_singleton.1 hpart ▸ hcolumn⟩
    | qualified hqualifier hcolumn =>
      rw [Str.splitOn_eq_pair.2 ⟨rfl, hqualifier.dot_not_mem, hcolumn.dot_not_mem⟩]
      exact ⟨by simp, by simpa using ⟨hqualifier, hcolumn⟩⟩

/-! ## Arguments -/

inductive IsArg : String → FunctionArg → Prop where
  | number {word : String} (hword : NumericLiteral word.toList) : IsArg word (.number word)
  | column {word : String} (hword : ColumnName word.toList) : IsArg word (.column word)

/-- An argument with whitespace around it. -/
def PaddedArg (raw : List Char) (arg : FunctionArg) : Prop :=
  ∃ lead word trail, raw = lead ++ word.toList ++ trail ∧ Str.Blank lead ∧ Str.Blank trail ∧ IsArg word arg

/-- Arguments with commas between them. -/
def IsArgs (src : List Char) (args : List FunctionArg) : Prop :=
  ∃ raws, src = [','].intercalate raws ∧ raws ≠ [] ∧ List.Forall₂ PaddedArg raws args

theorem ColumnName.ne_nil {cs : List Char} (h : ColumnName cs) : cs ≠ [] := by
  cases h with
  | bare hcolumn =>
    obtain ⟨c, cs, rfl, -⟩ := Identifier.iff.1 hcolumn
    exact List.cons_ne_nil _ _
  | qualified hqualifier hcolumn => simp

theorem NumericLiteral.ne_nil {cs : List Char} (h : NumericLiteral cs) : cs ≠ [] := by
  obtain ⟨sign, mantissa, exponent, rfl, -, ⟨int, fraction, rfl, hint, -⟩, -⟩ := h
  obtain ⟨c, cs, rfl, -⟩ := hint.head
  simp

theorem IsArg.wordy {word : String} {arg : FunctionArg} (h : IsArg word arg) : Wordy word.toList := by
  cases h with
  | number hword => exact hword.wordy
  | column hword => exact hword.wordy

theorem IsArg.ne_empty {word : String} {arg : FunctionArg} (h : IsArg word arg) : word ≠ "" := by
  rintro rfl
  cases h with
  | number hword => exact hword.ne_nil rfl
  | column hword => exact hword.ne_nil rfl

/-- What separates arguments and what encloses them are in none of them. -/
theorem PaddedArg.not_mem {raw : List Char} {arg : FunctionArg} (h : PaddedArg raw arg) {c : Char} (hword : isWordPart c = false)
    (hspace : Str.isWhitespace c = false) : c ∉ raw := by
  obtain ⟨lead, word, trail, rfl, hlead, htrail, harg⟩ := h
  simp only [List.mem_append, not_or]
  refine ⟨⟨fun hc => ?_, harg.wordy.not_mem hword⟩, fun hc => ?_⟩
  · rw [hlead c hc] at hspace
    cases hspace
  · rw [htrail c hc] at hspace
    cases hspace

/-- A part is an argument where what `trim` leaves of it is one. -/
theorem paddedArg_iff {raw : String} {arg : FunctionArg} : PaddedArg raw.toList arg ↔ IsArg (Str.trim raw) arg := by
  constructor
  · rintro ⟨lead, word, trail, hraw, hlead, htrail, harg⟩
    rw [Str.trim_of_padded hraw hlead htrail harg.wordy.trimmed, String.ofList_toList]
    exact harg
  · intro harg
    obtain ⟨lead, trail, hraw, hlead, htrail, -⟩ := Str.exists_padding raw
    exact ⟨lead, _, trail, hraw, hlead, htrail, harg⟩

/-- One argument is read as what it is. -/
theorem parseFunctionArgs_cons {expr raw : String} {rest : List String} {args : List FunctionArg} :
    parseFunctionArgs expr (raw :: rest) = .ok args ↔
      ∃ arg others, args = arg :: others ∧ IsArg (Str.trim raw) arg ∧ parseFunctionArgs expr rest = .ok others := by
  have hread (arg : FunctionArg) : (do
        let args ← parseFunctionArgs expr rest
        return arg :: args) = Except.ok args ↔ ∃ others, args = arg :: others ∧ parseFunctionArgs expr rest = .ok others := by
    rw [Res.bind_eq_ok]
    constructor
    · rintro ⟨others, hothers, hargs⟩
      exact ⟨others, (Except.ok.inj hargs).symm, hothers⟩
    · rintro ⟨others, rfl, hothers⟩
      exact ⟨others, hothers, rfl⟩
  rw [parseFunctionArgs]
  split_ifs with hempty hnumber hcolumn
  · refine iff_of_false (fun h => ?_) ?_
    · obtain ⟨_, hfail, -⟩ := Res.bind_eq_ok.1 h
      exact Res.fail_ne_ok hfail
    · rintro ⟨arg, -, -, harg, -⟩
      exact harg.ne_empty hempty
  · have hword := isNumericLiteral_iff.1 hnumber
    refine (hread (.number (Str.trim raw))).trans ?_
    constructor
    · rintro ⟨others, hargs, hothers⟩
      exact ⟨_, others, hargs, .number hword, hothers⟩
    · rintro ⟨arg, others, hargs, harg, hothers⟩
      cases harg with
      | number => exact ⟨others, hargs, hothers⟩
      | column hname => exact absurd hword hname.not_numericLiteral
  · rw [Bool.and_eq_true, decide_eq_true_iff] at hcolumn
    have hname := columnName_iff.1 hcolumn
    refine (hread (.column (Str.trim raw))).trans ?_
    constructor
    · rintro ⟨others, hargs, hothers⟩
      exact ⟨_, others, hargs, .column hname, hothers⟩
    · rintro ⟨arg, others, hargs, harg, hothers⟩
      cases harg with
      | number hword => exact absurd hword hname.not_numericLiteral
      | column => exact ⟨others, hargs, hothers⟩
  · refine iff_of_false (fun h => ?_) ?_
    · obtain ⟨_, hfail, -⟩ := Res.bind_eq_ok.1 h
      exact Res.fail_ne_ok hfail
    · rintro ⟨arg, -, -, harg, -⟩
      cases harg with
      | number hword => exact hnumber (isNumericLiteral_iff.2 hword)
      | column hname => exact hcolumn (by rw [Bool.and_eq_true, decide_eq_true_iff]; exact columnName_iff.2 hname)

theorem parseFunctionArgs_eq_ok {expr : String} {parts : List String} {args : List FunctionArg} :
    parseFunctionArgs expr parts = .ok args ↔ List.Forall₂ (fun raw arg => PaddedArg raw.toList arg) parts args := by
  induction parts generalizing args with
  | nil => simp [parseFunctionArgs, eq_comm]
  | cons raw rest ih =>
    rw [parseFunctionArgs_cons]
    constructor
    · rintro ⟨arg, others, rfl, harg, hrest⟩
      exact .cons (paddedArg_iff.2 harg) (ih.1 hrest)
    · intro h
      cases h with
      | cons harg hrest => exact ⟨_, _, rfl, paddedArg_iff.1 harg, ih.2 hrest⟩

theorem parseFunctionArgs_ne_panic (expr : String) (parts : List String) : parseFunctionArgs expr parts ≠ .error .panic := by
  induction parts with
  | nil => simp [parseFunctionArgs]
  | cons raw rest ih =>
    rw [parseFunctionArgs]
    split_ifs
    · exact Res.bind_ne_panic (Res.fail_ne_panic _) fun _ _ => Res.bind_ne_panic ih fun _ _ => by simp [pure, Except.pure]
    · exact Res.bind_ne_panic (by simp) fun _ _ => Res.bind_ne_panic ih fun _ _ => by simp [pure, Except.pure]
    · exact Res.bind_ne_panic (by simp) fun _ _ => Res.bind_ne_panic ih fun _ _ => by simp [pure, Except.pure]
    · exact Res.bind_ne_panic (Res.fail_ne_panic _) fun _ _ => Res.bind_ne_panic ih fun _ _ => by simp [pure, Except.pure]

theorem exists_arg {raws : List (List Char)} {args : List FunctionArg} (h : List.Forall₂ PaddedArg raws args) :
    ∀ raw ∈ raws, ∃ arg, PaddedArg raw arg := by
  induction h with
  | nil => exact fun raw hraw => absurd hraw List.not_mem_nil
  | cons harg _ ih => exact List.forall_mem_cons.2 ⟨⟨_, harg⟩, ih⟩

/-- The arguments of a source are those between its commas. -/
theorem isArgs_iff {src : List Char} {args : List FunctionArg} : IsArgs src args ↔ List.Forall₂ PaddedArg (src.splitOn ',') args := by
  constructor
  · rintro ⟨raws, rfl, hne, hraws⟩
    have hcomma : ∀ raw ∈ raws, ',' ∉ raw := fun raw hraw => by
      obtain ⟨arg, hpadded⟩ := exists_arg hraws raw hraw
      exact hpadded.not_mem (by decide) (by decide)
    rwa [Str.splitOn_eq_iff.2 ⟨hne, hcomma, rfl⟩]
  · intro hraws
    exact ⟨_, (List.intercalate_splitOn ',').symm, List.splitOn_ne_nil _ _, hraws⟩

theorem parseFunctionArgs_split {expr : String} {src : List Char} {args : List FunctionArg} :
    parseFunctionArgs expr (Str.split (String.ofList src) ',') = .ok args ↔ IsArgs src args := by
  rw [parseFunctionArgs_eq_ok, isArgs_iff, Str.split, String.toList_ofList, List.forall₂_map_left_iff]
  simp only [String.toList_ofList]

/-! ## Calls -/

/-- Plain identifiers with dots between them. -/
def DottedName (cs : List Char) : Prop :=
  ∃ parts, cs = ['.'].intercalate parts ∧ parts ≠ [] ∧ ∀ part ∈ parts, Identifier part

/-- The shape of a call: a name, a bracket, and anything after it. -/
def CallShape (text : String) : Prop :=
  ∃ lead name gap rest, text.toList = lead ++ (name ++ gap ++ '(' :: rest) ∧ Str.Blank lead ∧ Str.Blank gap ∧ DottedName name

/-- What follows the bracket of a call: its arguments, if any, a bracket and whitespace. -/
def CallBody (body : List Char) (args : List FunctionArg) : Prop :=
  ∃ src trail, body = src ++ ')' :: trail ∧ Str.Blank trail ∧ (Str.Blank src ∧ args = [] ∨ IsArgs src args)

/-- A single-level call of an allowed function on columns and numbers. -/
def IsCall (text : String) (call : FunctionCall) : Prop :=
  ∃ lead gap body, text.toList = lead ++ (call.name.toList ++ gap ++ '(' :: body) ∧ Str.Blank lead ∧ Str.Blank gap ∧
    isAllowedFunction call.name = true ∧ CallBody body call.args

theorem Identifier.dottedName {cs : List Char} (h : Identifier cs) : DottedName cs :=
  ⟨[cs], List.intercalate_singleton.symm, List.cons_ne_nil _ _, fun _ hpart => List.mem_singleton.1 hpart ▸ h⟩

theorem DottedName.wordy {cs : List Char} (h : DottedName cs) : Wordy cs := by
  obtain ⟨parts, rfl, -, hparts⟩ := h
  intro c hc
  obtain hdot | ⟨part, hpart, hc⟩ := Str.mem_intercalate hc
  · rw [List.mem_singleton.1 hdot]
    decide
  · exact (hparts part hpart).wordy c hc

theorem DottedName.head {cs : List Char} (h : DottedName cs) : ∃ c cs', cs = c :: cs' := by
  obtain ⟨parts, rfl, hne, hparts⟩ := h
  cases parts with
  | nil => exact absurd rfl hne
  | cons part parts =>
    obtain ⟨c, cs, rfl, -⟩ := Identifier.iff.1 (hparts part List.mem_cons_self)
    cases parts with
    | nil => exact ⟨c, cs, List.intercalate_singleton⟩
    | cons second parts => exact ⟨c, _, by rw [List.intercalate_cons_cons]; rfl⟩

/-- The check of a function's name. -/
theorem dottedName_iff {name : String} :
    (name != "" && (Str.split name '.').all isPlainIdentifier && !Str.containsChar name ' ') = true ↔ DottedName name.toList := by
  have hparts : (Str.split name '.').all isPlainIdentifier = true ↔ ∀ part ∈ name.toList.splitOn '.', Identifier part := by
    rw [Str.split, List.all_map, List.all_eq_true]
    exact Iff.rfl
  rw [Bool.and_eq_true, Bool.and_eq_true, hparts]
  constructor
  · rintro ⟨⟨-, hall⟩, -⟩
    exact ⟨_, (List.intercalate_splitOn '.').symm, List.splitOn_ne_nil _ _, hall⟩
  · intro h
    have hwordy := h.wordy
    obtain ⟨c, cs, hhead⟩ := h.head
    obtain ⟨parts, hname, hne, hall⟩ := h
    refine ⟨⟨?_, ?_⟩, ?_⟩
    · rw [bne_iff_ne]
      rintro rfl
      exact List.cons_ne_nil _ _ hhead.symm
    · rw [Str.splitOn_eq_iff.2 ⟨hne, fun part hpart => (hall part hpart).dot_not_mem, hname.symm⟩]
      exact hall
    · have hblank : ' ' ∉ name.toList := hwordy.not_mem (by decide)
      simp [Str.containsChar, hblank]

/-! ### Allowed names -/

/-- A character that is no letter is its own lower case, and no other's. -/
theorem toLower_eq_iff {c d : Char} (hd : Str.isAsciiAlphabetic d = false) : c.toLower = d ↔ c = d := by
  rw [Bool.eq_false_iff, Ne, Str.isAsciiAlphabetic_iff] at hd
  constructor
  · rintro rfl
    have hnat := Str.toNat_toLower c
    exact Str.char_eq_of_toNat (by split_ifs at hnat <;> omega)
  · rintro rfl
    have hnat := Str.toNat_toLower c
    exact Str.char_eq_of_toNat (by split_ifs at hnat <;> omega)

theorem isAsciiAlphabetic_toLower (c : Char) : Str.isAsciiAlphabetic c.toLower = Str.isAsciiAlphabetic c := by
  have hnat := Str.toNat_toLower c
  rw [Bool.eq_iff_iff, Str.isAsciiAlphabetic_iff, Str.isAsciiAlphabetic_iff]
  split_ifs at hnat <;> omega

theorem isAsciiDigit_toLower (c : Char) : Str.isAsciiDigit c.toLower = Str.isAsciiDigit c := by
  have hnat := Str.toNat_toLower c
  rw [Bool.eq_iff_iff, Str.isAsciiDigit_iff, Str.isAsciiDigit_iff]
  split_ifs at hnat <;> omega

/-- Letter case is nothing to an identifier. -/
theorem isPlainIdentifier_toAsciiLowercase (s : String) : isPlainIdentifier (Str.toAsciiLowercase s) = isPlainIdentifier s := by
  have heq (c d : Char) (hd : Str.isAsciiAlphabetic d = false) : (c.toLower == d) = (c == d) := by
    rw [Bool.eq_iff_iff, beq_iff_eq, beq_iff_eq]
    exact toLower_eq_iff hd
  unfold isPlainIdentifier Str.toAsciiLowercase
  rw [String.toList_ofList]
  cases s.toList with
  | nil => rfl
  | cons c cs =>
    simp only [List.map_cons, List.all_map, Str.isAsciiAlphanumeric, Function.comp_def, isAsciiAlphabetic_toLower, isAsciiDigit_toLower,
      heq _ _ (show Str.isAsciiAlphabetic '_' = false by decide), heq _ _ (show Str.isAsciiAlphabetic '$' = false by decide)]

/-- The allowed functions have plain names. -/
theorem identifier_of_isAllowedFunction {name : String} (h : isAllowedFunction name = true) : Identifier name.toList := by
  have hlist : allowedFunctions.all (fun f => isPlainIdentifier (Str.toAsciiLowercase f)) = true := by decide +kernel
  obtain ⟨f, hf, hcase⟩ := List.any_eq_true.1 h
  have hplain := List.all_eq_true.1 hlist f hf
  rw [Str.eqIgnoreAsciiCase, beq_iff_eq] at hcase
  rw [hcase, isPlainIdentifier_toAsciiLowercase] at hplain
  unfold Identifier
  rwa [String.ofList_toList]

/-! ### Reading a call -/

theorem trim_eq_empty {cs : List Char} : Str.trim (String.ofList cs) = "" ↔ Str.Blank cs := by
  constructor
  · intro h
    obtain ⟨lead, trail, hcs, hlead, htrail, -⟩ := Str.exists_padding (String.ofList cs)
    rw [h, String.toList_ofList] at hcs
    rw [hcs]
    exact (hlead.append Str.Blank.nil).append htrail
  · intro h
    have hpadded : (String.ofList cs).toList = cs ++ [] ++ [] := by simp
    rw [Str.trim_of_padded hpadded h Str.Blank.nil (Str.trimmed_of_forall fun c hc => absurd hc List.not_mem_nil)]

/-- A text with whitespace around it that begins and ends with none. -/
theorem trimmed_of_ends {c d : Char} {cs mid ds : List Char} (hc : Str.isWhitespace c = false) (hd : Str.isWhitespace d = false) :
    Str.Trimmed (c :: cs ++ mid ++ (ds ++ [d])) := by
  constructor
  · intro x hx
    simp only [List.cons_append, List.head?_cons, Option.mem_def, Option.some.injEq] at hx
    exact hx ▸ hc
  · intro x hx
    rw [← List.append_assoc, List.getLast?_concat] at hx
    exact Option.some.inj hx ▸ hd

/-- What `trim` leaves of a text with the shape of a call: its name and bracket, and all that
follows but the whitespace at the end. -/
theorem trim_call {text : String} {lead name gap rest : List Char} (htext : text.toList = lead ++ (name ++ gap ++ '(' :: rest))
    (hlead : Str.Blank lead) (hname : DottedName name) :
    ∃ body trail, rest = body ++ trail ∧ Str.Blank trail ∧ (Str.trim text).toList = name ++ gap ++ '(' :: body := by
  obtain ⟨blank, trail, hrest, hblank, htrail, htrimmed⟩ := Str.exists_padding (String.ofList ('(' :: rest))
  rw [String.toList_ofList] at hrest
  -- the bracket is no whitespace, so it opens what is left
  cases blank with
  | cons c blank =>
    have hopen := hblank c List.mem_cons_self
    rw [← (List.cons.inj hrest).1] at hopen
    exact absurd hopen (by decide)
  | nil =>
    cases hkept : (Str.trim (String.ofList ('(' :: rest))).toList with
    | nil =>
      rw [hkept] at hrest
      have hopen := htrail '(' (by rw [show trail = '(' :: rest from hrest.symm]; exact List.mem_cons_self)
      exact absurd hopen (by decide)
    | cons c body =>
      rw [hkept] at hrest htrimmed
      obtain ⟨rfl, rfl⟩ := List.cons.inj hrest
      refine ⟨body, trail, rfl, htrail, ?_⟩
      obtain ⟨first, name, rfl⟩ := hname.head
      obtain ⟨init, last, hlast⟩ := (List.eq_nil_or_concat' ('(' :: body)).resolve_left (List.cons_ne_nil _ _)
      have hfirst := not_isWhitespace_of_isWordPart (hname.wordy first List.mem_cons_self)
      have hend : Str.isWhitespace last = false := htrimmed.2 last (by rw [hlast, List.getLast?_concat]; rfl)
      have htrim : Str.Trimmed (first :: name ++ gap ++ '(' :: body) := by
        rw [hlast]
        exact trimmed_of_ends hfirst hend
      have hpadded : text.toList = lead ++ (first :: name ++ gap ++ '(' :: body) ++ trail := by
        rw [htext]
        simp
      rw [Str.trim_of_padded hpadded hlead htrail htrim, String.toList_ofList]

theorem CallBody.of_append {body trail : List Char} {args : List FunctionArg} (h : CallBody (body ++ trail) args) (htrail : Str.Blank trail) :
    CallBody body args := by
  obtain ⟨src, after, hbody, hafter, hargs⟩ := h
  obtain ⟨rest, rfl, hrest⟩ | ⟨rest, -, hrest⟩ := List.append_eq_append_iff.1 hbody.symm
  · cases rest with
    | nil =>
      rw [List.nil_append] at hrest
      exact absurd (htrail ')' (by rw [← hrest]; exact List.mem_cons_self)) (by decide)
    | cons c rest =>
      obtain ⟨rfl, rfl⟩ := List.cons.inj hrest
      exact ⟨src, rest, rfl, fun c hc => hafter c (List.mem_append_left _ hc), hargs⟩
  · exact absurd (htrail ')' (by rw [hrest]; exact List.mem_append_right _ List.mem_cons_self)) (by decide)

theorem CallBody.append {body trail : List Char} {args : List FunctionArg} (h : CallBody body args) (htrail : Str.Blank trail) :
    CallBody (body ++ trail) args := by
  obtain ⟨src, after, rfl, hafter, hargs⟩ := h
  exact ⟨src, after ++ trail, by simp, hafter.append htrail, hargs⟩

/-- A call whose name is read: what is left is its body. -/
def parseCallBody (expr name : String) (body : List Char) : Res String (Option FunctionCall) :=
  match Str.splitLast ')' body with
  | none => Res.fail ("unclosed '(' in function call '" ++ expr ++ "'")
  | some (argsSrc, after) =>
    if Str.trim (String.ofList after) != "" then Res.fail ("trailing text after ')' in function call '" ++ expr ++ "'")
    else if !isAllowedFunction name then
      Res.fail ("'" ++ name ++ "' is not an allowed function. Allowed functions are a fixed list; " ++
        "see the GraphNight docs for how to add one.")
    else if Str.trim (String.ofList argsSrc) = "" then .ok (some ⟨name, []⟩)
    else do
      let args ← parseFunctionArgs expr (Str.split (String.ofList argsSrc) ',')
      return some ⟨name, args⟩

theorem parseCallBody_ne_panic (expr name : String) (body : List Char) : parseCallBody expr name body ≠ .error .panic := by
  unfold parseCallBody
  split
  · exact Res.fail_ne_panic _
  · split_ifs
    · exact Res.fail_ne_panic _
    · exact Res.fail_ne_panic _
    · simp
    · exact Res.bind_ne_panic (parseFunctionArgs_ne_panic _ _) fun _ _ => by simp [pure, Except.pure]

theorem parseCallBody_ne_none (expr name : String) (body : List Char) : parseCallBody expr name body ≠ .ok none := by
  unfold parseCallBody
  split
  · exact Res.fail_ne_ok
  · split_ifs
    · exact Res.fail_ne_ok
    · exact Res.fail_ne_ok
    · simp
    · intro h
      obtain ⟨args, -, hcall⟩ := Res.bind_eq_ok.1 h
      exact absurd (Except.ok.inj hcall) (Option.some_ne_none _)

theorem mem_intercalate_of_mem {c : Char} {sep part : List Char} {parts : List (List Char)} (hpart : part ∈ parts) (hc : c ∈ part) :
    c ∈ sep.intercalate parts := by
  induction parts with
  | nil => exact absurd hpart List.not_mem_nil
  | cons first parts ih =>
    cases parts with
    | nil =>
      rw [List.intercalate_singleton]
      exact List.mem_singleton.1 hpart ▸ hc
    | cons second parts =>
      rw [List.intercalate_cons_cons]
      simp only [List.mem_append]
      obtain rfl | hpart := List.mem_cons.1 hpart
      · exact .inl (.inl hc)
      · exact .inr (ih hpart)

/-- Arguments are not whitespace. -/
theorem IsArgs.not_blank {src : List Char} {args : List FunctionArg} (h : IsArgs src args) : ¬Str.Blank src := by
  intro hblank
  obtain ⟨raws, rfl, hne, hraws⟩ := h
  cases hraws with
  | nil => exact hne rfl
  | cons harg _ =>
    obtain ⟨lead, word, trail, rfl, -, -, harg⟩ := harg
    cases hword : word.toList with
    | nil => exact harg.ne_empty (String.toList_inj.1 hword)
    | cons c cs =>
      have hc : c ∈ word.toList := hword ▸ List.mem_cons_self
      have hspace := not_isWhitespace_of_isWordPart (harg.wordy c hc)
      rw [hblank c (mem_intercalate_of_mem List.mem_cons_self (by simp [hc]))] at hspace
      cases hspace

theorem parseCallBody_eq_some {expr name : String} {body : List Char} {call : FunctionCall} :
    parseCallBody expr name body = .ok (some call) ↔ call.name = name ∧ isAllowedFunction name = true ∧ CallBody body call.args := by
  constructor
  · intro h
    unfold parseCallBody at h
    split at h
    · cases h
    · rename_i src after hsplit
      obtain ⟨rfl, -⟩ := Str.splitLast_eq_some.1 hsplit
      split_ifs at h with hafter hname hsrc
      · exact absurd h Res.fail_ne_ok
      · exact absurd h Res.fail_ne_ok
      · rw [bne_iff_ne, not_not, trim_eq_empty] at hafter
        obtain rfl := Option.some.inj (Except.ok.inj h)
        exact ⟨rfl, by simpa using hname, src, after, rfl, hafter, .inl ⟨trim_eq_empty.1 hsrc, rfl⟩⟩
      · rw [bne_iff_ne, not_not, trim_eq_empty] at hafter
        obtain ⟨args, hargs, hcall⟩ := Res.bind_eq_ok.1 h
        obtain rfl := Option.some.inj (Except.ok.inj hcall)
        exact ⟨rfl, by simpa using hname, src, after, rfl, hafter, .inr (parseFunctionArgs_split.1 hargs)⟩
  · rintro ⟨rfl, hallowed, src, after, rfl, hafter, hargs⟩
    have hclose : ')' ∉ after := fun hc => absurd (hafter _ hc) (by decide)
    have htrim := trim_eq_empty.2 hafter
    unfold parseCallBody
    rw [Str.splitLast_append hclose]
    dsimp only
    rw [if_neg (by simp [htrim]), if_neg (by simp [hallowed])]
    obtain ⟨hsrc, hnil⟩ | hargs := hargs
    · rw [if_pos (trim_eq_empty.2 hsrc), ← hnil]
    · rw [if_neg fun hsrc => hargs.not_blank (trim_eq_empty.1 hsrc), parseFunctionArgs_split.2 hargs]
      rfl

/-- The name and the body of a text with the shape of a call. -/
theorem parseFunctionCall_of_trim {text : String} {name gap body : List Char} (htrim : (Str.trim text).toList = name ++ gap ++ '(' :: body)
    (hgap : Str.Blank gap) (hname : DottedName name) :
    parseFunctionCall text = parseCallBody (Str.trim text) (String.ofList name) body := by
  have hopen : '(' ∉ name ++ gap := by
    rw [List.mem_append, not_or]
    exact ⟨hname.wordy.not_mem (by decide), fun hc => absurd (hgap _ hc) (by decide)⟩
  have hsplit : Str.splitFirst '(' (Str.trim text).toList = some (name ++ gap, body) := Str.splitFirst_eq_some.2 ⟨htrim, hopen⟩
  have hword : Str.trim (String.ofList (name ++ gap)) = String.ofList name :=
    Str.trim_of_padded (by rw [String.toList_ofList, List.nil_append]) Str.Blank.nil hgap hname.wordy.trimmed
  have hlooks : looksLikeFunctionCall (Str.trim text) = true := by
    unfold looksLikeFunctionCall
    rw [hsplit]
    dsimp only
    rw [hword]
    exact dottedName_iff.2 (by rwa [String.toList_ofList])
  unfold parseFunctionCall
  dsimp only
  rw [if_pos hlooks, hsplit]
  dsimp only
  rw [hword]
  rfl

/-- The check of the shape looks at what `trim` leaves. -/
theorem callShape_iff {text : String} : looksLikeFunctionCall (Str.trim text) = true ↔ CallShape text := by
  constructor
  · intro h
    unfold looksLikeFunctionCall at h
    split at h
    · rename_i before body hsplit
      obtain ⟨hcore, -⟩ := Str.splitFirst_eq_some.1 hsplit
      obtain ⟨lead, trail, htext, hlead, -, -⟩ := Str.exists_padding text
      obtain ⟨lead', gap, hbefore, hlead', hgap, -⟩ := Str.exists_padding (String.ofList before)
      rw [String.toList_ofList] at hbefore
      refine ⟨lead ++ lead', _, gap, body ++ trail, ?_, hlead.append hlead', hgap, dottedName_iff.1 h⟩
      rw [htext, hcore.trans (congrArg (· ++ '(' :: body) hbefore)]
      simp
    · cases h
  · rintro ⟨lead, name, gap, rest, htext, hlead, hgap, hname⟩
    obtain ⟨body, trail, -, -, htrim⟩ := trim_call htext hlead hname
    by_contra hlooks
    have hopen : '(' ∉ name ++ gap := by
      rw [List.mem_append, not_or]
      exact ⟨hname.wordy.not_mem (by decide), fun hc => absurd (hgap _ hc) (by decide)⟩
    unfold looksLikeFunctionCall at hlooks
    rw [Str.splitFirst_eq_some.2 ⟨htrim, hopen⟩] at hlooks
    dsimp only at hlooks
    rw [Str.trim_of_padded (by rw [String.toList_ofList, List.nil_append]) Str.Blank.nil hgap hname.wordy.trimmed] at hlooks
    exact hlooks (dottedName_iff.2 (by rwa [String.toList_ofList]))

theorem parseFunctionCall_of_not_callShape {text : String} (h : ¬CallShape text) : parseFunctionCall text = .ok none := by
  unfold parseFunctionCall
  dsimp only
  rw [if_neg fun hlooks => h (callShape_iff.1 hlooks)]

/-- A text with the shape of a call is read by its body. -/
theorem CallShape.parse {text : String} (h : CallShape text) : ∃ name body, parseFunctionCall text = parseCallBody (Str.trim text) name body := by
  obtain ⟨lead, name, gap, rest, htext, hlead, hgap, hname⟩ := h
  obtain ⟨body, trail, -, -, htrim⟩ := trim_call htext hlead hname
  exact ⟨_, _, parseFunctionCall_of_trim htrim hgap hname⟩

theorem IsCall.callShape {text : String} {call : FunctionCall} (h : IsCall text call) : CallShape text := by
  obtain ⟨lead, gap, body, htext, hlead, hgap, hallowed, -⟩ := h
  exact ⟨lead, _, gap, body, htext, hlead, hgap, (identifier_of_isAllowedFunction hallowed).dottedName⟩

/-- No text makes the parser panic. -/
theorem parseFunctionCall_ne_panic (text : String) : parseFunctionCall text ≠ .error .panic := by
  by_cases h : CallShape text
  · obtain ⟨name, body, hparse⟩ := h.parse
    rw [hparse]
    exact parseCallBody_ne_panic _ _ _
  · rw [parseFunctionCall_of_not_callShape h]
    simp

/-- What is no call is what has not the shape of one. -/
theorem parseFunctionCall_eq_none {text : String} : parseFunctionCall text = .ok none ↔ ¬CallShape text := by
  refine ⟨fun hnone h => ?_, parseFunctionCall_of_not_callShape⟩
  obtain ⟨name, body, hparse⟩ := h.parse
  rw [hparse] at hnone
  exact parseCallBody_ne_none _ _ _ hnone

/-- **The calls that are read are the calls of the grammar.** -/
theorem parseFunctionCall_eq_some {text : String} {call : FunctionCall} : parseFunctionCall text = .ok (some call) ↔ IsCall text call := by
  constructor
  · intro h
    have hshape : CallShape text := by
      by_contra hno
      rw [parseFunctionCall_of_not_callShape hno] at h
      exact absurd (Except.ok.inj h).symm (Option.some_ne_none _)
    obtain ⟨lead, name, gap, rest, htext, hlead, hgap, hname⟩ := hshape
    obtain ⟨body, trail, rfl, htrail, htrim⟩ := trim_call htext hlead hname
    rw [parseFunctionCall_of_trim htrim hgap hname, parseCallBody_eq_some] at h
    obtain ⟨hcall, hallowed, hbody⟩ := h
    refine ⟨lead, gap, body ++ trail, ?_, hlead, hgap, hcall ▸ hallowed, hbody.append htrail⟩
    rw [hcall, String.toList_ofList]
    exact htext
  · rintro ⟨lead, gap, rest, htext, hlead, hgap, hallowed, hrest⟩
    have hname := (identifier_of_isAllowedFunction hallowed).dottedName
    obtain ⟨body, trail, rfl, htrail, htrim⟩ := trim_call htext hlead hname
    rw [parseFunctionCall_of_trim htrim hgap hname, String.ofList_toList]
    exact parseCallBody_eq_some.2 ⟨rfl, hallowed, hrest.of_append htrail⟩

/-- The arguments of a call are words of the grammar. -/
theorem IsCall.isArg {text : String} {call : FunctionCall} (h : IsCall text call) : ∀ arg ∈ call.args, ∃ word, IsArg word arg := by
  obtain ⟨-, -, body, -, -, -, -, src, -, -, -, hargs⟩ := h
  generalize call.args = args at hargs
  obtain ⟨-, rfl⟩ | ⟨raws, -, -, hargs⟩ := hargs
  · exact fun arg harg => absurd harg List.not_mem_nil
  · induction hargs with
    | nil => exact fun arg harg => absurd harg List.not_mem_nil
    | cons harg _ ih =>
      obtain ⟨-, word, -, -, -, -, hword⟩ := harg
      exact List.forall_mem_cons.2 ⟨⟨word, hword⟩, ih⟩

end GraphNight
