import GraphNight.Core.FunctionCalls
import GraphNight.Core.JsonText
import GraphNight.Lib.LetterCase
import GraphNight.Lib.Utf8
import GraphNight.Sql.CatalogueStatements
import GraphNight.Sql.OnText

/-!
# Quoted names and displayed values as the databases read them

`quote_ident` writes a name and `format_value` a value so that the dialect's lexer reads back what
was written, whatever stands around it, as long as the database has such names and values. Two values
are read as something else: a number below zero is a minus sign and a number, and SQLite has no
booleans. Literals that stand side by side are lexemes of their own here; that some databases then
join them is not looked at.
-/

namespace GraphNight

/-- What a lexeme denotes. -/
inductive Denoted where
  | name (s : String)
  | null
  | bool (b : Bool)
  | number (text : String)
  | text (s : String)
  | minus
deriving DecidableEq, Repr

/-- The name a database takes a quoted name for: Postgres and DuckDB have no empty ones, Postgres keeps
63 bytes, and MySQL's are of the Basic Multilingual Plane. -/
def Dialect.quotedName : Dialect → String → Option String
  | .postgres, s => if s = "" then none else some (String.ofList (Utf8.clip 63 s.toList))
  | .duckDb, s => if s = "" then none else some s
  | .mySql, s => if s.toList.all fun c => c.toNat < 0x10000 then some s else none
  | .sqlite, s => some s

/-- What a lexeme of a dialect denotes, where it is a name, a literal or a minus sign. -/
def Dialect.denoted (d : Dialect) : LexState × List Char → Option Denoted
  | (.closed q backslash, c :: cs) =>
    if c ≠ q then none
    else if q = '\'' then some (.text (String.ofList (readLiteral backslash cs.dropLast)))
    else if q = d.identQuote then (d.quotedName (String.ofList (Quote.undouble q cs.dropLast))).map .name
    else none
  | (.word, cs) =>
    match Str.toAsciiUppercase (String.ofList cs) with
    | "NULL" => some .null
    | "TRUE" => some (.bool true)
    | "FALSE" => some (.bool false)
    | _ => none
  | (.number _, cs) => some (.number (String.ofList cs))
  | (.minus, _) => some .minus
  | _ => none

/-- The words that make one literal with the quote behind them, in lower case. -/
def Dialect.literalPrefixes : Dialect → List (List Char)
  | .postgres | .duckDb => [['b'], ['x'], ['n'], ['u', '&']]
  | .mySql => [['b'], ['x'], ['n']]
  | .sqlite => [['x']]

/-- A text ends in a word that goes on in the quote behind it. -/
def Dialect.prefixed (d : Dialect) (pre : List Char) : Bool :=
  d.literalPrefixes.any fun w =>
    w.reverse.isPrefixOf (pre.reverse.map Char.toLower) && ((pre.reverse.drop w.length).head?.all fun c => !Sql.wordPart c)

/-- What cannot follow a lexeme without being read with it. -/
def Denoted.goesOn (d : Dialect) : Denoted → Char → Bool
  | .name _, c => c == d.identQuote
  | .text _, c => c == '\''
  | .null, c | .bool _, c => Sql.wordPart c
  | .number _, c => Sql.wordPart c || c == '.'
  | .minus, c => c == '-'

/-- No lexeme of the text around a place goes on into what stands there, or out of it. -/
structure Around (d : Dialect) (r : LexRules) (pre text post : List Char) (last : Denoted) : Prop where
  before : ∀ c ∈ text.head?, r.lexer.Cuts (r.lexer.after pre) c
  unprefixed : d.prefixed pre = false
  behind : ∀ c ∈ post.head?, last.goesOn d c = false

/-- **A text is read as lexemes of its own, wherever it stands**, and they denote what is given;
`first` are those before the last one. -/
def LexedAs (d : Dialect) (r : LexRules) (text : String) (first : List Denoted) (last : Denoted) : Prop :=
  ∀ pre post : List Char, Around d r pre text.toList post last →
    ∃ tokens, r.lexer.lex (pre ++ text.toList ++ post) = r.lexer.lex pre ++ tokens ++ r.lexer.lex post ∧
      tokens.flatMap (·.2) = text.toList ∧ tokens.map d.denoted = (first ++ [last]).map some

namespace QuotedTokens

variable {d : Dialect} {r : LexRules}

theorem lex_between {pre post : List Char} {c : Char} {cs : List Char} (hbefore : r.lexer.Cuts (r.lexer.after pre) c)
    (hbehind : ∀ x ∈ post.head?, r.lexer.Cuts (r.lexer.after (c :: cs)) x) :
    r.lexer.lex (pre ++ (c :: cs) ++ post) = r.lexer.lex pre ++ r.lexer.lex (c :: cs) ++ r.lexer.lex post := by
  rw [List.append_assoc, List.append_assoc, List.cons_append, Lexer.lex_append hbefore]
  cases post with
  | nil => simp [Lexer.lex]
  | cons x post =>
    have hcut := hbehind x (by simp)
    rw [← List.cons_append, Lexer.lex_append hcut]

/-- A text that is one lexeme is read as one. -/
theorem lexedAs_of_takes {text : String} {c : Char} {cs : List Char} {st : LexState} {what : Denoted}
    (htext : text.toList = c :: cs) (htakes : r.lexer.takes (r.lexer.start c) cs = some st)
    (hcut : ∀ x, what.goesOn d x = false → r.lexer.extend st x = none) (hwhat : d.denoted (st, c :: cs) = some what) :
    LexedAs d r text [] what := by
  intro pre post ⟨hbefore, _, hbehind⟩
  rw [htext] at hbefore ⊢
  have hlex : r.lexer.lex (c :: cs) = [(st, c :: cs)] := Lexer.lex_of_takes htakes
  refine ⟨[(st, c :: cs)], ?_, by simp, by simp [hwhat]⟩
  rw [lex_between (hbefore c (by simp)), hlex]
  intro x hx st' hst'
  rw [Lexer.after_of_takes htakes] at hst'
  obtain rfl := Option.some.inj hst'
  exact hcut x (hbehind x hx)

/-! ## Between quotes -/

theorem takes_flatMap {st : LexState} {write : Char → List Char} {cs : List Char} (h : ∀ c ∈ cs, r.lexer.takes st (write c) = some st) :
    r.lexer.takes st (cs.flatMap write) = some st := by
  induction cs with
  | nil => rfl
  | cons c cs ih =>
    obtain ⟨hc, hcs⟩ := List.forall_mem_cons.1 h
    rw [List.flatMap_cons, Lexer.takes_append, hc, Option.bind_some, ih hcs]

/-- A doubled quote leaves a text open. -/
theorem takes_pair {q : Char} (hq : q ≠ '\x00') (backslash : Bool) :
    r.lexer.takes (.quoted q backslash) [q, q] = some (.quoted q backslash) := by
  simp [Lexer.takes, LexRules.lexer, LexRules.extend, hq]

theorem takes_one {q c : Char} {backslash : Bool} (hquote : c ≠ q) (hslash : backslash = true → c ≠ '\\')
    (hnul : c = '\x00' → q ∈ r.nulInside) : r.lexer.takes (.quoted q backslash) [c] = some (.quoted q backslash) := by
  have hread : ¬(c = '\x00' ∧ q ∉ r.nulInside) := fun hno => hno.2 (hnul hno.1)
  cases backslash with
  | false => simp [Lexer.takes, LexRules.lexer, LexRules.extend, hquote, hread]
  | true => simp [Lexer.takes, LexRules.lexer, LexRules.extend, hquote, hslash rfl, hread]

/-- Where no backslash escapes, a text with its quotes doubled stays open. -/
theorem takes_double {q : Char} (hq : q ≠ '\x00') {cs : List Char} (hnul : '\x00' ∈ cs → q ∈ r.nulInside) :
    r.lexer.takes (.quoted q false) (Quote.double q cs) = some (.quoted q false) := by
  refine takes_flatMap fun c hmem => ?_
  split
  · exact takes_pair hq false
  · next hc => exact takes_one hc (by simp) fun hc0 => hnul (hc0 ▸ hmem)

/-- Closing an open text. -/
theorem takes_quote {q : Char} (hq : q ≠ '\x00') {backslash : Bool} {cs : List Char}
    (h : r.lexer.takes (.quoted q backslash) cs = some (.quoted q backslash)) :
    r.lexer.takes (.quoted q backslash) (cs ++ [q]) = some (.closed q backslash) := by
  rw [Lexer.takes_append, h, Option.bind_some]
  simp [Lexer.takes, LexRules.lexer, LexRules.extend, hq]

theorem extend_closed {q x : Char} {backslash : Bool} (h : x ≠ q) : r.lexer.extend (.closed q backslash) x = none := by
  simp [LexRules.lexer, LexRules.extend, h]

theorem identQuote_ne (d : Dialect) : d.identQuote ≠ '\'' ∧ d.identQuote ≠ '\x00' := by cases d <;> decide

/-- **A quoted name is read as that name**, where the database has such a name. -/
theorem lexedAs_quoteIdent (hstart : r.lexer.start d.identQuote = .quoted d.identQuote false) {s : String} (hnul : '\x00' ∉ s.toList)
    (hname : d.quotedName s = some s) : LexedAs d r (d.quoteIdent s) [] (.name s) := by
  have htakes : r.lexer.takes (r.lexer.start d.identQuote) (Quote.double d.identQuote s.toList ++ [d.identQuote]) =
      some (.closed d.identQuote false) := by
    rw [hstart]
    exact takes_quote (identQuote_ne d).2 (takes_double (identQuote_ne d).2 fun hmem => absurd hmem hnul)
  refine lexedAs_of_takes (d.quoteIdent_toList s) htakes (fun x hx => extend_closed (by simpa [Denoted.goesOn] using hx)) ?_
  simp [Dialect.denoted, (identQuote_ne d).1, Quote.undouble_double, hname]

/-- How a dialect writes one character of a literal. -/
def escape (slash : Bool) (c : Char) : List Char :=
  if c = '\\' ∧ slash = true then ['\\', '\\'] else if c = '\'' then ['\'', '\''] else [c]

theorem escape_quote (slash : Bool) : escape slash '\'' = ['\'', '\''] := by simp [escape]

theorem escape_slash : escape true '\\' = ['\\', '\\'] := rfl

theorem escape_of_ne {slash : Bool} {c : Char} (hslash : c ≠ '\\') (hquote : c ≠ '\'') : escape slash c = [c] := by
  simp [escape, hslash, hquote]

theorem doubleQuotes_toList (s : String) : (doubleQuotes s).toList = s.toList.flatMap (escape false) := by
  have hchar : (fun c => if c = '\'' then ("''").toList else [c]) = escape false := by
    funext c
    simp [escape]
  rw [doubleQuotes, Str.replaceChar, String.toList_ofList, hchar]

theorem escapeLiteral_toList (s : String) : (MySqlDialect.escapeLiteral s).toList = s.toList.flatMap (escape true) := by
  rw [MySqlDialect.escapeLiteral, doubleQuotes_toList, Str.replaceChar, String.toList_ofList, List.flatMap_assoc]
  congr 1
  funext c
  by_cases hslash : c = '\\'
  · subst hslash
    rfl
  · rw [if_neg hslash, List.flatMap_singleton]
    simp [escape, hslash]

/-- A literal stays open over what is written for the rules it is read by, or for sessions
where a backslash escapes. -/
theorem takes_escape {slash slash' : Bool} (h : slash = true → slash' = true) {cs : List Char} (hnul : '\x00' ∈ cs → '\'' ∈ r.nulInside) :
    r.lexer.takes (.quoted '\'' slash) (cs.flatMap (escape slash')) = some (.quoted '\'' slash) := by
  refine takes_flatMap fun c hmem => ?_
  by_cases hquote : c = '\''
  · subst hquote
    rw [escape_quote]
    exact takes_pair (by decide) _
  · by_cases hslash : c = '\\'
    · subst hslash
      cases slash with
      | true =>
        rw [h rfl]
        rfl
      | false => cases slash' <;> rfl
    · rw [escape_of_ne hslash hquote]
      exact takes_one hquote (fun _ => hslash) fun hc => hnul (hc ▸ hmem)

theorem readLiteral_cons {slash : Bool} {c : Char} (hslash : c ≠ '\\') (hquote : c ≠ '\'') (cs : List Char) :
    readLiteral slash (c :: cs) = c :: readLiteral slash cs := by
  rw [readLiteral]
  · exact fun _ heq _ => hquote heq
  · exact fun _ _ heq _ => hslash heq

theorem readLiteral_slash (cs : List Char) : readLiteral false ('\\' :: cs) = '\\' :: readLiteral false cs := by
  cases cs with
  | nil => rfl
  | cons c cs => rw [readLiteral, if_neg (by simp)]

/-- A character that is no backslash is read back under either rule. -/
theorem readLiteral_escape_cons {slash slash' : Bool} {c : Char} (hslash : c ≠ '\\') (cs : List Char) :
    readLiteral slash (escape slash' c ++ cs) = c :: readLiteral slash cs := by
  by_cases hquote : c = '\''
  · subst hquote
    rw [escape_quote]
    rfl
  · rw [escape_of_ne hslash hquote]
    exact readLiteral_cons hslash hquote cs

/-- **An escaped literal is read back.** -/
theorem readLiteral_escape (slash : Bool) (cs : List Char) : readLiteral slash (cs.flatMap (escape slash)) = cs := by
  induction cs with
  | nil => rfl
  | cons c cs ih =>
    rw [List.flatMap_cons]
    by_cases hslash : c = '\\'
    · subst hslash
      have hone : ∀ rest, readLiteral slash (escape slash '\\' ++ rest) = '\\' :: readLiteral slash rest := by
        intro rest
        cases slash with
        | true => rfl
        | false => exact readLiteral_slash rest
      rw [hone, ih]
    · rw [readLiteral_escape_cons hslash, ih]

/-- A session that reads no escapes reads each backslash twice. -/
theorem readLiteral_escape_unread (cs : List Char) : readLiteral false (cs.flatMap (escape true)) = Quote.double '\\' cs := by
  induction cs with
  | nil => rfl
  | cons c cs ih =>
    rw [List.flatMap_cons]
    by_cases hslash : c = '\\'
    · subst hslash
      rw [Quote.double_cons_self, ← ih, escape_slash]
      show readLiteral false ('\\' :: '\\' :: _) = _
      rw [readLiteral_slash, readLiteral_slash]
      rfl
    · rw [Quote.double_cons_of_ne hslash, ← ih, readLiteral_escape_cons hslash]

/-- **A literal is read as one**, and denotes what its rules read. -/
theorem lexedAs_literal {text : String} {cs : List Char} {slash slash' : Bool} (hstart : r.lexer.start '\'' = .quoted '\'' slash)
    (hle : slash = true → slash' = true) (hnul : '\x00' ∈ cs → '\'' ∈ r.nulInside)
    (htext : text.toList = '\'' :: (cs.flatMap (escape slash') ++ ['\''])) :
    LexedAs d r text [] (.text (String.ofList (readLiteral slash (cs.flatMap (escape slash'))))) := by
  have htakes : r.lexer.takes (r.lexer.start '\'') (cs.flatMap (escape slash') ++ ['\'']) = some (.closed '\'' slash) := by
    rw [hstart]
    exact takes_quote (by decide) (takes_escape hle hnul)
  refine lexedAs_of_takes htext htakes (fun x hx => extend_closed (by simpa [Denoted.goesOn] using hx)) ?_
  simp [Dialect.denoted]

/-! ## Numbers and words -/

theorem not_blank_of_digit {c : Char} (h : Str.isAsciiDigit c = true) : Sql.isBlank c = false := by
  rw [Str.isAsciiDigit_iff] at h
  have hne : c ≠ ' ' := by
    rintro rfl
    revert h
    decide
  simp only [Sql.isBlank, beq_eq_false_iff_ne.2 hne, Bool.false_or, Bool.and_eq_false_iff, decide_eq_false_iff_not]
  omega

theorem not_wordStart_of_digit {c : Char} (h : Str.isAsciiDigit c = true) : Sql.wordStart c = false := by
  have hletter : Str.isAsciiAlphabetic c = false := by
    rw [← Bool.not_eq_true, Str.isAsciiAlphabetic_iff]
    rw [Str.isAsciiDigit_iff] at h
    omega
  have hne : c ≠ '_' := by
    rintro rfl
    revert h
    decide
  have hnat := (Str.isAsciiDigit_iff.1 h).2
  simp [Sql.wordStart, hletter, hne]
  omega

/-- A digit opens a number. -/
theorem start_of_digit {c : Char} (h : Str.isAsciiDigit c = true) : r.lexer.start c = .number .int := by
  have hletter := not_isE_of_isAsciiDigit h
  have he : c ≠ 'e' ∧ c ≠ 'E' := not_or.1 hletter
  have hother : c ≠ '\x00' ∧ c ≠ '\uFEFF' := by
    constructor <;>
    · rintro rfl
      exact absurd h (by decide)
  simp [LexRules.lexer, LexRules.start, not_blank_of_digit h, not_wordStart_of_digit h, he.1, he.2, hother.1, hother.2, h]

/-- Digits leave every phase of a number as it is but the one behind the letter of an exponent. -/
theorem takes_digits {phase : NumberPhase} (hphase : phase ≠ .exponent) {cs : List Char} (h : ∀ c ∈ cs, Str.isAsciiDigit c = true) :
    r.lexer.takes (.number phase) cs = some (.number phase) := by
  refine Lexer.takes_of_forall (fun c hc => ?_) h
  cases phase with
  | exponent => exact absurd rfl hphase
  | int | frac | expDigits => simp [LexRules.lexer, LexRules.extend, LexRules.extendNumber, hc]

theorem takes_fraction {cs : List Char} (h : Fraction cs) :
    r.lexer.takes (.number .int) cs = some (.number .int) ∨ r.lexer.takes (.number .int) cs = some (.number .frac) := by
  have hdot : r.lexer.extend (.number .int) '.' = some (.number .frac) := rfl
  cases h with
  | none => exact .inl rfl
  | dot => exact .inr rfl
  | digits hds =>
    right
    rw [Lexer.takes, hdot, Option.bind_some]
    exact takes_digits (by decide) hds.2

theorem takes_exponent {phase : NumberPhase} (hphase : phase = .int ∨ phase = .frac) {cs : List Char} (h : Exponent cs) :
    ∃ phase', phase' ≠ .exponent ∧ r.lexer.takes (.number phase) cs = some (.number phase') := by
  cases h with
  | none => exact ⟨phase, by obtain rfl | rfl := hphase <;> decide, rfl⟩
  | @digits e sign ds he hsign hds =>
    have hopen : r.lexer.extend (.number phase) e = some (.number .exponent) := by
      obtain rfl | rfl := hphase <;> obtain rfl | rfl := he <;> rfl
    have hdigits : ∀ {phase : NumberPhase}, phase = .exponent ∨ phase = .expDigits →
        r.lexer.takes (.number phase) ds = some (.number .expDigits) := by
      intro phase hphase
      obtain ⟨c, cs, rfl, hc⟩ := hds.head
      have hfirst : r.lexer.extend (.number phase) c = some (.number .expDigits) := by
        obtain rfl | rfl := hphase <;> simp [LexRules.lexer, LexRules.extend, LexRules.extendNumber, hc]
      rw [Lexer.takes, hfirst, Option.bind_some]
      exact takes_digits (by decide) fun x hx => hds.2 x (List.mem_cons_of_mem _ hx)
    refine ⟨.expDigits, by decide, ?_⟩
    rw [Lexer.takes, hopen, Option.bind_some, Lexer.takes_append]
    cases hsign with
    | none => exact hdigits (.inl rfl)
    | plus | minus => exact hdigits (.inr rfl)

end QuotedTokens

/-- A number without its sign. -/
def Unsigned (cs : List Char) : Prop := ∃ mantissa exponent, cs = mantissa ++ exponent ∧ Mantissa mantissa ∧ Exponent exponent

namespace QuotedTokens

variable {d : Dialect} {r : LexRules}

/-- A number goes on to its end. -/
theorem takes_unsigned {cs : List Char} (h : Unsigned cs) : ∃ c rest phase, cs = c :: rest ∧ Str.isAsciiDigit c = true ∧ phase ≠ .exponent ∧
    r.lexer.takes (r.lexer.start c) rest = some (.number phase) := by
  obtain ⟨mantissa, exponent, rfl, ⟨int, fraction, rfl, hint, hfraction⟩, hexponent⟩ := h
  obtain ⟨c, digits, rfl, hc⟩ := hint.head
  have hdigits : r.lexer.takes (r.lexer.start c) digits = some (.number .int) := by
    rw [start_of_digit hc]
    exact takes_digits (by decide) fun x hx => hint.2 x (List.mem_cons_of_mem _ hx)
  obtain ⟨phase, hphase, hmantissa⟩ : ∃ phase, (phase = .int ∨ phase = .frac) ∧ r.lexer.takes (.number .int) fraction = some (.number phase) := by
    obtain h | h := takes_fraction (r := r) hfraction
    · exact ⟨.int, .inl rfl, h⟩
    · exact ⟨.frac, .inr rfl, h⟩
  obtain ⟨last, hlast, htakes⟩ := takes_exponent (r := r) hphase hexponent
  refine ⟨c, digits ++ fraction ++ exponent, last, by simp, hc, hlast, ?_⟩
  rw [List.append_assoc, Lexer.takes_append, hdigits, Option.bind_some, Lexer.takes_append, hmantissa, Option.bind_some, htakes]

theorem extend_number {phase : NumberPhase} (hphase : phase ≠ .exponent) {x : Char} (hword : Sql.wordPart x = false) (hdot : x ≠ '.') :
    r.lexer.extend (.number phase) x = none := by
  have hparts : (Sql.wordStart x = false ∧ Str.isAsciiDigit x = false) ∧ x ≠ '$' := by
    simpa [Sql.wordPart] using hword
  have he : ¬(x = 'e' ∨ x = 'E') := by
    rintro (rfl | rfl) <;> exact absurd hword (by decide)
  simp only [LexRules.lexer, LexRules.extend, LexRules.extendNumber, hparts.1.2, hword, hdot, he, hphase, and_false, false_and,
    Bool.false_eq_true, if_false]

theorem goesOn_number {text : String} {x : Char} (h : (Denoted.number text).goesOn d x = false) : Sql.wordPart x = false ∧ x ≠ '.' := by
  simpa [Denoted.goesOn] using h

/-- **A number is read as one.** -/
theorem lexedAs_number {text : String} (h : Unsigned text.toList) : LexedAs d r text [] (.number text) := by
  obtain ⟨c, rest, phase, htext, -, hphase, htakes⟩ := takes_unsigned h
  refine lexedAs_of_takes htext htakes (fun x hx => ?_) ?_
  · obtain ⟨hword, hdot⟩ := goesOn_number hx
    exact extend_number hphase hword hdot
  · rw [Dialect.denoted, ← htext, String.ofList_toList]

/-- **A number below zero is read as a minus sign and a number.** -/
theorem lexedAs_negative (hstart : r.lexer.start '-' = .minus) {text : String} (h : Unsigned text.toList) :
    LexedAs d r ("-" ++ text) [.minus] (.number text) := by
  intro pre post ⟨hbefore, _, hbehind⟩
  obtain ⟨c, rest, phase, htext, hc, hphase, htakes⟩ := takes_unsigned h
  have hlist : ("-" ++ text).toList = '-' :: c :: rest := by rw [String.toList_append, htext]; rfl
  rw [hlist] at hbefore ⊢
  have hafter : r.lexer.after ['-'] = some .minus := by
    show some (r.lexer.start '-') = _
    rw [hstart]
  have hne : c ≠ '-' := by
    rintro rfl
    revert hc
    decide
  have hcut : r.lexer.Cuts (r.lexer.after ['-']) c := by
    intro st hst
    rw [hafter] at hst
    obtain rfl := Option.some.inj hst
    exact if_neg hne
  have hlex : r.lexer.lex ('-' :: c :: rest) = [(.minus, ['-']), (.number phase, c :: rest)] := by
    have hone : r.lexer.lex ['-'] = [(.minus, ['-'])] := by rw [← hstart]; rfl
    have hsplit := Lexer.lex_append hcut rest
    rw [Lexer.lex_of_takes htakes, hone] at hsplit
    exact hsplit
  refine ⟨[(.minus, ['-']), (.number phase, c :: rest)], ?_, by simp, ?_⟩
  · rw [lex_between (hbefore '-' (by simp)), hlex]
    intro x hx st hst
    obtain ⟨hword, hdot⟩ := goesOn_number (hbehind x hx)
    have hbehind : r.lexer.after ('-' :: c :: rest) = some (.number phase) := by
      rw [show '-' :: c :: rest = ['-'] ++ c :: rest from rfl, Lexer.after_of_cuts hcut, Lexer.after_of_takes htakes]
    rw [hbehind] at hst
    obtain rfl := Option.some.inj hst
    exact extend_number hphase hword hdot
  · simp [Dialect.denoted, ← htext]

/-- A keyword is read as one. -/
theorem lexedAs_word {text : String} {c : Char} {cs : List Char} {what : Denoted} (htext : text.toList = c :: cs)
    (htakes : r.lexer.takes (r.lexer.start c) cs = some .word) (hgoes : what.goesOn d = Sql.wordPart)
    (hwhat : d.denoted (.word, c :: cs) = some what) : LexedAs d r text [] what := by
  refine lexedAs_of_takes htext htakes (fun x hx => ?_) hwhat
  rw [hgoes] at hx
  simp [LexRules.lexer, LexRules.extend, hx]

theorem lexedAs_null (d : Dialect) : LexedAs d d.lexRules "NULL" [] .null := by
  refine @lexedAs_word d d.lexRules "NULL" 'N' ['U', 'L', 'L'] .null rfl ?_ rfl ?_ <;> cases d <;> decide

theorem lexedAs_trueFalse (d : Dialect) (b : Bool) : LexedAs d d.lexRules (trueFalse b) [] (.bool b) := by
  cases b with
  | true => refine @lexedAs_word d d.lexRules "TRUE" 'T' ['R', 'U', 'E'] (.bool true) rfl ?_ rfl ?_ <;> cases d <;> decide
  | false => refine @lexedAs_word d d.lexRules "FALSE" 'F' ['A', 'L', 'S', 'E'] (.bool false) rfl ?_ rfl ?_ <;> cases d <;> decide

end QuotedTokens

/-- MySQL's rules in a session with `NO_BACKSLASH_ESCAPES`. -/
def noBackslashEscapes : LexRules := { Dialect.mySql.lexRules with backslashed := [] }

/-- What a boolean is read as: SQLite has the numbers one and zero. -/
def Dialect.readBool (d : Dialect) (b : Bool) : Denoted :=
  match d with
  | .sqlite => .number (if b then "1" else "0")
  | _ => .bool b

/-- The text `format_value` writes between apostrophes, before it is escaped. -/
def literalText : Value → Option String
  | .string s => some s
  | .object fields => some (Value.object fields).toJson
  | _ => none

namespace QuotedTokens

theorem formatValue_text (d : Dialect) {v : Value} {s : String} (h : literalText v = some s) :
    (d.formatValue v).toList = '\'' :: (s.toList.flatMap (escape (Splice.backslash d)) ++ ['\'']) := by
  have hdouble : ∀ s, ("'" ++ doubleQuotes s ++ "'").toList = '\'' :: (s.toList.flatMap (escape false) ++ ['\'']) := by
    intro s
    simp [doubleQuotes_toList]
  have hslash : ∀ s, ("'" ++ MySqlDialect.escapeLiteral s ++ "'").toList = '\'' :: (s.toList.flatMap (escape true) ++ ['\'']) := by
    intro s
    simp [escapeLiteral_toList]
  have hbackslash : Splice.backslash d = (d == .mySql) := by cases d <;> decide
  rw [hbackslash]
  cases v with
  | string t =>
    obtain rfl := Option.some.inj h
    cases d with
    | mySql => exact hslash t
    | postgres | sqlite | duckDb => exact hdouble t
  | object fields =>
    obtain rfl := Option.some.inj h
    cases d with
    | mySql => exact hslash _
    | postgres | sqlite | duckDb => exact hdouble _
  | null | bool | number | array => cases h

/-- **What is written between apostrophes is read back.** -/
theorem lexedAs_literalText (d : Dialect) {v : Value} {s : String} (h : literalText v = some s) (hnul : '\x00' ∈ s.toList → d = .mySql) :
    LexedAs d d.lexRules (d.formatValue v) [] (.text s) := by
  have hinside : '\x00' ∈ s.toList → '\'' ∈ d.lexRules.nulInside := by
    intro hmem
    rw [hnul hmem]
    decide
  have hread := @lexedAs_literal d d.lexRules _ s.toList _ _ (Splice.start_quote d) id hinside (formatValue_text d h)
  rwa [readLiteral_escape, String.ofList_toList] at hread

theorem lexedAs_literalText_unread {v : Value} {s : String} (h : literalText v = some s) :
    LexedAs .mySql noBackslashEscapes (Dialect.mySql.formatValue v) [] (.text (String.ofList (Quote.double '\\' s.toList))) := by
  have hstart : noBackslashEscapes.lexer.start '\'' = .quoted '\'' false := by decide
  have hread := @lexedAs_literal .mySql noBackslashEscapes _ s.toList false _ hstart (by simp) (fun _ => by decide) (formatValue_text .mySql h)
  rwa [show Splice.backslash .mySql = true from rfl, readLiteral_escape_unread] at hread

/-- An object's text holds no NUL. -/
theorem nul_not_mem_of_object {fields : List (String × Value)} (h : (Value.object fields).WellFormed) :
    '\x00' ∉ (Value.object fields).toJson.toList := by
  intro hmem
  exact absurd (Value.shown_toJson h _ hmem) (by unfold Value.Shown; decide)

theorem lexedAs_bool (d : Dialect) (b : Bool) : LexedAs d d.lexRules (d.formatValue (.bool b)) [] (d.readBool b) := by
  cases d with
  | sqlite =>
    have hdigit : ∀ b : Bool, Unsigned (if b then "1" else "0").toList := by
      intro b
      refine ⟨_, [], (List.append_nil _).symm, ⟨_, [], (List.append_nil _).symm, ?_, .none⟩, .none⟩
      cases b <;> exact digitsOk_iff.1 (by decide +kernel)
    exact lexedAs_number (hdigit b)
  | postgres | mySql | duckDb => exact lexedAs_trueFalse _ b

end QuotedTokens

/-- A name a database reads between quotes, if only in part. -/
def Dialect.Legible (d : Dialect) (s : String) : Prop := '\x00' ∉ s.toList ∧ (d.quotedName s).isSome = true

instance (d : Dialect) (s : String) : Decidable (d.Legible s) := inferInstanceAs (Decidable (_ ∧ _))

/-- A name the database has. -/
def Dialect.HasName (d : Dialect) (s : String) : Prop := '\x00' ∉ s.toList ∧ d.quotedName s = some s

instance hasNameDecidable (d : Dialect) (s : String) : Decidable (d.HasName s) := inferInstanceAs (Decidable (_ ∧ _))

/-- The names a database has: none with a NUL, in Postgres and DuckDB none that is empty, in Postgres none of
more than 63 bytes, and in MySQL none with a character beyond the Basic Multilingual Plane. -/
theorem Dialect.hasName_iff (d : Dialect) (s : String) : d.HasName s ↔ '\x00' ∉ s.toList ∧
    (d = .postgres ∨ d = .duckDb → s ≠ "") ∧ (d = .postgres → Utf8.size s.toList ≤ 63) ∧ (d = .mySql → ∀ c ∈ s.toList, c.toNat < 0x10000) := by
  refine and_congr_right fun _ => ?_
  cases d with
  | postgres =>
    have hclip : String.ofList (Utf8.clip 63 s.toList) = s ↔ Utf8.size s.toList ≤ 63 := by
      rw [← Utf8.clip_eq_self, ← String.toList_inj, String.toList_ofList]
    by_cases hempty : s = "" <;> simp [quotedName, hempty, hclip]
  | duckDb => by_cases hempty : s = "" <;> simp [quotedName, hempty]
  | mySql => simp [quotedName]
  | sqlite => simp [quotedName]

end GraphNight
