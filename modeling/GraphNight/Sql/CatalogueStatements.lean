import GraphNight.Sql.PrimaryKeys
import GraphNight.Sql.Tokens

/-!
# The statements of introspection (`graphnight-sql/src/introspection.rs`)

Each statement is a text with names formatted into it: between apostrophes, as they are,
or in SQLite's `PRAGMA` without any delimiter.
-/

namespace GraphNight

/-- A name formatted into a statement. -/
inductive Splice where
  /-- `'{}'` -/
  | quoted (name : String)
  /-- `{}` -/
  | bare (name : String)
deriving DecidableEq, Repr

/-- A text, and names with the texts behind them. -/
structure CatalogueStatement where
  head : String
  rest : List (Splice × String)
deriving DecidableEq, Repr

namespace Splice

def name : Splice → String
  | quoted name => name
  | bare name => name

def render : Splice → String
  | quoted name => "'" ++ name ++ "'"
  | bare name => name

end Splice

namespace CatalogueStatement

def renderRest : List (Splice × String) → String
  | [] => ""
  | (splice, behind) :: rest => splice.render ++ (behind ++ renderRest rest)

/-- The text that is sent. -/
def text (st : CatalogueStatement) : String := st.head ++ renderRest st.rest

/-- The names of a list between commas, and a text behind the list. -/
def inList (closing : String) : List String → CatalogueStatement
  | [] => ⟨closing, []⟩
  | first :: others => ⟨"", go first others⟩
where
  go (first : String) : List String → List (Splice × String)
    | [] => [(.quoted first, closing)]
    | next :: others => (.quoted first, ",") :: go next others

/-! ## Postgres -/

def postgresTables (schema : String) (tableFilter : Option (List String)) : CatalogueStatement :=
  let select := "SELECT table_name FROM information_schema.tables \n                WHERE table_schema = "
  match tableFilter with
  | some tables =>
    let names := inList ")\n                ORDER BY table_name" tables
    ⟨select, (.quoted schema, " AND table_type = 'BASE TABLE' AND table_name IN (" ++ names.head) :: names.rest⟩
  | none => ⟨select, [(.quoted schema, " AND table_type = 'BASE TABLE'\n                ORDER BY table_name")]⟩

def postgresColumns (schema table : String) : CatalogueStatement :=
  ⟨"SELECT column_name, data_type, udt_name, is_nullable, column_default
            FROM information_schema.columns
            WHERE table_schema = ",
    [(.quoted schema, " AND table_name = "), (.quoted table, "\n            ORDER BY ordinal_position")]⟩

def postgresPrimaryKeys (schema table : String) : CatalogueStatement :=
  ⟨"SELECT kcu.column_name
            FROM information_schema.table_constraints tc
            JOIN information_schema.key_column_usage kcu
                ON tc.constraint_name = kcu.constraint_name
                AND tc.table_schema = kcu.table_schema
            WHERE tc.table_schema = ",
    [(.quoted schema, " \n                AND tc.table_name = "),
      (.quoted table, "\n                AND tc.constraint_type = 'PRIMARY KEY'\n            ORDER BY kcu.ordinal_position")]⟩

def postgresForeignKeys (schema table : String) : CatalogueStatement :=
  ⟨"SELECT
                kcu.column_name,
                ccu.table_name AS foreign_table_name,
                ccu.column_name AS foreign_column_name
            FROM information_schema.table_constraints tc
            JOIN information_schema.key_column_usage kcu
                ON tc.constraint_name = kcu.constraint_name
                AND tc.table_schema = kcu.table_schema
            JOIN information_schema.constraint_column_usage ccu
                ON ccu.constraint_name = tc.constraint_name
                AND ccu.table_schema = tc.table_schema
            WHERE tc.table_schema = ",
    [(.quoted schema, "\n                AND tc.table_name = "),
      (.quoted table, "\n                AND tc.constraint_type = 'FOREIGN KEY'")]⟩

/-! ## MySQL -/

/-- `schema_clause`, between the text before it and the text behind it: nothing for an
empty schema. -/
def schemaClause (schema before behind : String) (rest : List (Splice × String)) : CatalogueStatement :=
  if schema = "" then ⟨before ++ behind, rest⟩ else ⟨before ++ "AND table_schema = ", (.quoted schema, behind) :: rest⟩

def mySqlTables (schema : String) (tableFilter : Option (List String)) : CatalogueStatement :=
  let select := "SELECT table_name FROM information_schema.tables \n                WHERE table_type = 'BASE TABLE' "
  match tableFilter with
  | some tables =>
    let names := inList ")\n                ORDER BY table_name" tables
    schemaClause schema select (" AND table_name IN (" ++ names.head) names.rest
  | none => schemaClause schema select "\n                ORDER BY table_name" []

def mySqlColumns (table schema : String) : CatalogueStatement :=
  let clause := schemaClause schema " " "\n            ORDER BY ordinal_position" []
  ⟨"SELECT column_name, data_type, is_nullable, column_default
            FROM information_schema.columns
            WHERE table_name = ", (.quoted table, clause.head) :: clause.rest⟩

def mySqlPrimaryKeys (table schema : String) : CatalogueStatement :=
  let clause := schemaClause schema " \n                AND constraint_name = 'PRIMARY'\n                "
    "\n            ORDER BY ordinal_position" []
  ⟨"SELECT column_name
            FROM information_schema.key_column_usage
            WHERE table_name = ", (.quoted table, clause.head) :: clause.rest⟩

def mySqlForeignKeys (table schema : String) : CatalogueStatement :=
  let clause := schemaClause schema "\n                AND tc.constraint_type = 'FOREIGN KEY'\n                " "" []
  ⟨"SELECT
                kcu.column_name,
                kcu.referenced_table_name,
                kcu.referenced_column_name
            FROM information_schema.key_column_usage kcu
            JOIN information_schema.table_constraints tc
                ON kcu.constraint_name = tc.constraint_name
                AND kcu.table_schema = tc.table_schema
            WHERE kcu.table_name = ", (.quoted table, clause.head) :: clause.rest⟩

/-! ## SQLite -/

def sqliteTables (tableFilter : Option (List String)) : CatalogueStatement :=
  match tableFilter with
  | some tables =>
    let names := inList ")\n                ORDER BY name" tables
    ⟨"SELECT name FROM sqlite_master \n                WHERE type = 'table' AND name IN (" ++ names.head, names.rest⟩
  | none => ⟨"SELECT name FROM sqlite_master WHERE type = 'table' ORDER BY name", []⟩

def sqliteTableInfo (table : String) : CatalogueStatement := ⟨"PRAGMA table_info(", [(.bare table, ")")]⟩

def sqliteForeignKeyList (table : String) : CatalogueStatement := ⟨"PRAGMA foreign_key_list(", [(.bare table, ")")]⟩

end CatalogueStatement

/-! ## What a token denotes -/

/-- The character an escape stands for in a MySQL literal; the two wildcards keep theirs. -/
def mySqlEscape (c : Char) : List Char :=
  if c = '0' then ['\x00']
  else if c = 'b' then ['\x08']
  else if c = 'n' then ['\n']
  else if c = 'r' then ['\r']
  else if c = 't' then ['\t']
  else if c = 'Z' then ['\x1a']
  else if c = '%' ∨ c = '_' then ['\\', c]
  else [c]

/-- What stands between the apostrophes of a literal, read. -/
def readLiteral (backslash : Bool) : List Char → List Char
  | [] => []
  | '\'' :: '\'' :: cs => '\'' :: readLiteral backslash cs
  | '\\' :: c :: cs => if backslash then mySqlEscape c ++ readLiteral backslash cs else '\\' :: readLiteral backslash (c :: cs)
  | c :: cs => c :: readLiteral backslash cs

/-- A name that stands for itself between apostrophes. -/
def plainLiteral (backslash : Bool) : List Char → Bool
  | [] => true
  | '\'' :: _ => false
  | ['\\'] => !backslash
  | '\\' :: c :: cs => if backslash then (c == '%' || c == '_') && plainLiteral backslash cs else plainLiteral backslash (c :: cs)
  | _ :: cs => plainLiteral backslash cs

theorem length_readLiteral_le (backslash : Bool) (cs : List Char) : (readLiteral backslash cs).length ≤ cs.length := by
  have hescape : ∀ c, (mySqlEscape c).length ≤ 2 := by
    intro c
    unfold mySqlEscape
    split_ifs <;> simp
  fun_induction readLiteral backslash cs with
  | case1 => exact le_rfl
  | case2 cs ih =>
    simp only [List.length_cons]
    omega
  | case3 c cs hb ih =>
    have := hescape c
    simp only [List.length_append, List.length_cons]
    omega
  | case4 c cs hb ih =>
    simp only [List.length_cons] at ih ⊢
    omega
  | case5 c cs _ _ ih =>
    simp only [List.length_cons]
    omega

theorem mySqlEscape_wildcard {c : Char} (h : c = '%' ∨ c = '_') : mySqlEscape c = ['\\', c] := by
  rcases h with rfl | rfl <;> rfl

theorem length_mySqlEscape {c : Char} (h : ¬ (c = '%' ∨ c = '_')) : (mySqlEscape c).length = 1 := by
  unfold mySqlEscape
  split_ifs <;> rfl

/-- A backslash is followed by something or the last character. -/
theorem no_slash {cs : List Char} (hlast : '\\' = '\\' → cs = [] → False)
    (hmore : ∀ (c : Char) (rest : List Char), '\\' = '\\' → cs = c :: rest → False) : False := by
  cases cs with
  | nil => exact hlast rfl rfl
  | cons c rest => exact hmore c rest rfl rfl

/-- A literal goes on over what is neither an apostrophe nor a backslash. -/
theorem extend_quoted {r : LexRules} {backslash : Bool} {c : Char} (hquote : c ≠ '\'') (hslash : c ≠ '\\')
    (hnul : c = '\x00' → '\'' ∈ r.nulInside) : r.lexer.extend (.quoted '\'' backslash) c = some (.quoted '\'' backslash) := by
  simp [LexRules.lexer, LexRules.extend, hquote, hslash]
  exact hnul

/-- What stands between two quotes is under way or has just ended. -/
def LexState.within (q : Char) : LexState → Bool
  | .quoted p _ | .escaped p | .closed p _ => p == q
  | _ => false

theorem takes_unread {r : LexRules} (cs : List Char) : r.lexer.takes .unread cs = some .unread := by
  induction cs with
  | nil => rfl
  | cons c cs ih => exact ih

/-- What stands between quotes goes on as it until it is cut, or until the rules say nothing more. -/
theorem within_extend {r : LexRules} {q : Char} (hq : q ≠ '\x00') {st st' : LexState} {c : Char} (hst : st.within q = true)
    (h : r.lexer.extend st c = some st') : st' = .unread ∨ st'.within q = true ∧ (c = '\x00' → q ∈ r.nulInside) := by
  have h : r.extend st c = some st' := h
  cases st with
  | quoted p backslash =>
    obtain rfl : p = q := by simpa [LexState.within] using hst
    simp only [LexRules.extend] at h
    split_ifs at h with hnul
    · exact .inl (Option.some.inj h).symm
    all_goals exact .inr ⟨Option.some.inj h ▸ hst, fun hc => by_contra fun hno => hnul ⟨hc, hno⟩⟩
  | escaped p =>
    obtain rfl : p = q := by simpa [LexState.within] using hst
    simp only [LexRules.extend] at h
    split_ifs at h with hnul
    · exact .inl (Option.some.inj h).symm
    · exact .inr ⟨Option.some.inj h ▸ hst, fun hc => by_contra fun hno => hnul ⟨hc, hno⟩⟩
  | closed p backslash =>
    obtain rfl : p = q := by simpa [LexState.within] using hst
    simp only [LexRules.extend] at h
    split_ifs at h with hquote
    exact .inr ⟨Option.some.inj h ▸ hst, fun hc => absurd (hquote.symm.trans hc) hq⟩
  | _ => cases hst

/-- What is closed holds no NUL but where one may stand in it. -/
theorem nul_of_takes {r : LexRules} {q : Char} (hq : q ≠ '\x00') {st : LexState} {backslash : Bool} {cs : List Char}
    (hst : st.within q = true) (h : r.lexer.takes st cs = some (.closed q backslash)) : '\x00' ∈ cs → q ∈ r.nulInside := by
  induction cs generalizing st with
  | nil => simp
  | cons c cs ih =>
    obtain ⟨next, hnext, h⟩ := Option.bind_eq_some_iff.1 h
    rcases within_extend hq hst hnext with rfl | ⟨hin, hnul⟩
    · rw [takes_unread] at h
      cases h
    · intro hmem
      rcases List.mem_cons.1 hmem with hc | hmem
      · exact hnul hc.symm
      · exact ih hin h hmem

theorem readLiteral_of_plain {backslash : Bool} {cs : List Char} (h : plainLiteral backslash cs = true) : readLiteral backslash cs = cs := by
  fun_induction plainLiteral backslash cs with
  | case1 => rfl
  | case2 => cases h
  | case3 => rfl
  | case4 c cs hb ih =>
    simp only [Bool.and_eq_true, Bool.or_eq_true, beq_iff_eq] at h
    rw [readLiteral, if_pos hb, mySqlEscape_wildcard h.1, ih h.2]
    rfl
  | case5 c cs hb ih => rw [readLiteral, if_neg hb, ih h]
  | case6 c cs hquote hlast hslash ih =>
    rw [readLiteral, ih h]
    · exact fun _ heq _ => hquote heq
    · exact fun _ _ heq hcs => hslash _ _ heq hcs

/-- A literal goes on over a plain name. -/
theorem takes_of_plain {r : LexRules} {backslash : Bool} {cs : List Char} (h : plainLiteral backslash cs = true)
    (hnul : '\x00' ∈ cs → '\'' ∈ r.nulInside) : r.lexer.takes (.quoted '\'' backslash) cs = some (.quoted '\'' backslash) := by
  fun_induction plainLiteral backslash cs with
  | case1 => rfl
  | case2 => cases h
  | case3 =>
    obtain rfl : backslash = false := by simpa using h
    rfl
  | case4 c cs hb ih =>
    obtain rfl : backslash = true := hb
    simp only [Bool.and_eq_true, Bool.or_eq_true, beq_iff_eq] at h
    have htail := ih h.2 fun hmem => hnul (List.mem_cons_of_mem _ (List.mem_cons_of_mem _ hmem))
    obtain ⟨rfl | rfl, -⟩ := h
    · exact htail
    · exact htail
  | case5 c cs hb ih =>
    obtain rfl : backslash = false := by simpa using hb
    exact ih h fun hmem => hnul (List.mem_cons_of_mem _ hmem)
  | case6 c cs hquote hlast hslash ih =>
    have hone : r.lexer.extend (.quoted '\'' backslash) c = some (.quoted '\'' backslash) :=
      extend_quoted hquote (by rintro rfl; exact no_slash hlast hslash) fun hc => hnul (hc ▸ List.mem_cons_self)
    rw [Lexer.takes, hone]
    exact ih h fun hmem => hnul (List.mem_cons_of_mem _ hmem)

/-- A name that closes its own literal, and is read as itself, is plain. -/
theorem plain_of_takes {r : LexRules} {backslash : Bool} {cs : List Char}
    (hclosed : r.lexer.takes (.quoted '\'' backslash) (cs ++ ['\'']) = some (.closed '\'' backslash))
    (hread : readLiteral backslash cs = cs) : plainLiteral backslash cs = true := by
  fun_induction plainLiteral backslash cs with
  | case1 => rfl
  | case2 cs =>
    -- an apostrophe closes the literal or is read with the one behind it
    cases cs with
    | nil => cases hclosed
    | cons d ds =>
      by_cases hd : d = '\''
      · subst hd
        rw [readLiteral] at hread
        have hlen := congrArg List.length hread
        have hle := length_readLiteral_le backslash ds
        simp only [List.length_cons] at hlen
        omega
      · have hcut : r.lexer.extend (.closed '\'' backslash) d = none := by simp [LexRules.lexer, LexRules.extend, hd]
        have hopen : r.lexer.extend (.quoted '\'' backslash) '\'' = some (.closed '\'' backslash) := by
          simp [LexRules.lexer, LexRules.extend]
        simp only [List.cons_append, Lexer.takes, hopen, hcut, Option.bind_some, Option.bind_none] at hclosed
        cases hclosed
  | case3 =>
    cases backslash with
    | false => rfl
    | true => cases hclosed
  | case4 c cs hb ih =>
    obtain rfl : backslash = true := hb
    have hescaped : r.lexer.takes (.escaped '\'') (c :: (cs ++ ['\''])) = some (.closed '\'' true) := hclosed
    have hnul := nul_of_takes (by decide) rfl hescaped
    have hbehind : r.lexer.extend (.escaped '\'') c = some (.quoted '\'' true) :=
      if_neg fun hno => hno.2 (hnul (hno.1 ▸ List.mem_cons_self))
    rw [Lexer.takes, hbehind, Option.bind_some] at hescaped
    rw [readLiteral, if_pos rfl] at hread
    have hle := length_readLiteral_le true cs
    have hlen := congrArg List.length hread
    simp only [List.length_append, List.length_cons] at hlen
    -- one character for the two of the escape would be one too few
    have hwild : c = '%' ∨ c = '_' := by
      by_contra hnot
      have hone := length_mySqlEscape hnot
      omega
    rw [mySqlEscape_wildcard hwild] at hread
    have htail : readLiteral true cs = cs := (List.cons.inj (List.cons.inj hread).2).2
    simp only [Bool.and_eq_true, Bool.or_eq_true, beq_iff_eq]
    exact ⟨hwild, ih hescaped htail⟩
  | case5 c cs hb ih =>
    obtain rfl : backslash = false := by simpa using hb
    rw [readLiteral, if_neg hb] at hread
    exact ih hclosed (List.cons.inj hread).2
  | case6 c cs hquote hlast hslash ih =>
    have hnul := nul_of_takes (by decide) rfl hclosed
    have hone : r.lexer.extend (.quoted '\'' backslash) c = some (.quoted '\'' backslash) :=
      extend_quoted hquote (by rintro rfl; exact no_slash hlast hslash) fun hc => hnul (hc ▸ List.mem_cons_self)
    rw [List.cons_append, Lexer.takes, hone] at hclosed
    rw [readLiteral] at hread
    · exact ih hclosed (List.cons.inj hread).2
    · exact fun _ heq _ => hquote heq
    · exact fun _ _ heq hcs => hslash _ _ heq hcs

/-! ## How a statement is read -/

namespace Splice

/-- A backslash escapes between the apostrophes of a literal. -/
def backslash (d : Dialect) : Bool := '\'' ∈ d.lexRules.backslashed

/-- The lexeme a name is meant to be: a literal, or an identifier. -/
def token (d : Dialect) : Splice → LexState × List Char
  | quoted name => (.closed '\'' (backslash d), '\'' :: (name.toList ++ ['\'']))
  | bare name => (.word, name.toList)

/-- What that lexeme denotes; a reserved word denotes nothing. -/
def denoted (d : Dialect) (reserved : String → Bool) : Splice → Option (List Char)
  | quoted name => some (readLiteral (backslash d) name.toList)
  | bare name => if reserved name then none else some name.toList

/-- The name stands for itself where it is. -/
def plain (d : Dialect) (reserved : String → Bool) : Splice → Bool
  | quoted name => plainLiteral (backslash d) name.toList && ('\x00' ∉ name.toList || '\'' ∈ d.lexRules.nulInside)
  | bare name =>
    match name.toList with
    | [] => false
    | c :: cs => d.lexRules.lexer.takes (d.lexRules.start c) cs == some .word && !reserved name

end Splice

namespace CatalogueStatement

/-- Each name is one lexeme of its own, which denotes the name, and the texts around the names
are read as they stand. -/
def WellLexed (d : Dialect) (reserved : String → Bool) (st : CatalogueStatement) : Prop :=
  d.lex st.text = d.lex st.head ++ st.rest.flatMap (fun part => part.1.token d :: d.lex part.2) ∧
    ∀ part ∈ st.rest, part.1.denoted d reserved = some part.1.name.toList

/-- A name opens a lexeme behind a blank or a symbol. -/
def opens : Option LexState → Bool
  | some .blank | some (.symbol _) => true
  | _ => false

/-- A text that ends the lexeme before it. -/
def cutsOff (behind : String) (last : Bool) : Bool :=
  match behind.toList with
  | [] => last
  | c :: _ => c == ' ' || c == '\n' || c == ')' || c == ','

/-- The texts around the names keep them apart from what stands beside them. -/
def tidy (d : Dialect) : String → List String → Bool
  | _, [] => true
  | before, behind :: texts => opens (d.after before) && cutsOff behind texts.isEmpty && tidy d behind texts

end CatalogueStatement

namespace LexRules

variable {r : LexRules}

/-- What only a word goes on to. -/
def wordly : LexState → Bool
  | .word | .letterE => true
  | _ => false

theorem wordly_of_unlessNul {st st' : LexState} {c : Char} (h : unlessNul c st = some st') (hword : wordly st' = true) :
    wordly st = true := by
  unfold unlessNul at h
  split_ifs at h
  · obtain rfl := Option.some.inj h
    cases hword
  · exact Option.some.inj h ▸ hword

theorem wordly_ite {p : Prop} [Decidable p] {a b : LexState} (ha : wordly a = false) (hb : wordly b = false) :
    wordly (if p then a else b) = false := by
  split_ifs
  · exact ha
  · exact hb

theorem wordly_extendComment (r : LexRules) (depth : Nat) (previous c : Char) : wordly (r.extendComment depth previous c) = false :=
  wordly_ite (wordly_ite rfl rfl) (wordly_ite rfl rfl)

theorem wordly_extendDollarBody (tag : List Char) (candidate : Option (List Char)) (c : Char) :
    wordly (extendDollarBody tag candidate c) = false := by
  refine wordly_ite (wordly_ite rfl rfl) ?_
  cases candidate <;> rfl

theorem wordly_of_extend {st st' : LexState} {c : Char} (h : r.lexer.extend st c = some st') (hword : wordly st' = true) :
    wordly st = true := by
  have h : r.extend st c = some st' := h
  cases st with
  | word | letterE => rfl
  | number phase =>
    simp only [extend, extendNumber] at h
    split_ifs at h <;> cases h <;> cases hword
  | comment depth previous => exact absurd (wordly_of_unlessNul h hword) (by simp [wordly_extendComment])
  | dollarBody tag candidate => exact absurd (wordly_of_unlessNul h hword) (by simp [wordly_extendDollarBody])
  | bracket =>
    have hopen : wordly (if c = ']' then LexState.bracketClosed else .bracket) = false := wordly_ite rfl rfl
    exact absurd (wordly_of_unlessNul h hword) (by simp [hopen])
  | lineComment =>
    simp only [extend] at h
    split_ifs at h
    exact wordly_of_unlessNul h hword
  | commentOpened =>
    simp only [extend] at h
    split_ifs at h
    · obtain rfl := Option.some.inj h
      cases hword
    · exact absurd (wordly_of_unlessNul h hword) (by simp [wordly_extendComment])
  | unread | bracketClosed | commentClosed | dollarClosed | symbol =>
    cases h
    try cases hword
  | _ =>
    simp only [extend] at h
    split_ifs at h <;> cases h <;> cases hword

/-- A word is one from its first letter. -/
theorem wordly_of_takes {st st' : LexState} {cs : List Char} (h : r.lexer.takes st cs = some st') (hword : wordly st' = true) :
    wordly st = true := by
  induction cs generalizing st with
  | nil => exact Option.some.inj h ▸ hword
  | cons c cs ih =>
    obtain ⟨next, hnext, h⟩ := Option.bind_eq_some_iff.1 h
    exact wordly_of_extend hnext (ih h)

theorem wordParts_of_takes {cs : List Char} (h : r.lexer.takes .word cs = some .word) : ∀ x ∈ cs, Sql.wordPart x = true := by
  induction cs with
  | nil => simp
  | cons c cs ih =>
    obtain ⟨next, hnext, h⟩ := Option.bind_eq_some_iff.1 h
    have hnext : (if Sql.wordPart c then some LexState.word else none) = some next := hnext
    split_ifs at hnext with hc
    obtain rfl := Option.some.inj hnext
    exact List.forall_mem_cons.2 ⟨hc, ih h⟩

theorem not_blank_of_wordStart {c : Char} (h : Sql.wordStart c = true) : Sql.isBlank c = false := by
  by_contra hblank
  have hlow : c.toNat ≤ 32 := by
    simp only [Bool.not_eq_false, Sql.isBlank, Bool.or_eq_true, beq_iff_eq, Bool.and_eq_true, decide_eq_true_eq] at hblank
    obtain rfl | hblank := hblank
    · decide
    · omega
  have hhigh : 65 ≤ c.toNat := by
    simp only [Sql.wordStart, Str.isAsciiAlphabetic, Bool.or_eq_true, beq_iff_eq, Bool.and_eq_true, decide_eq_true_eq] at h
    obtain ((⟨h, -⟩ | ⟨h, -⟩) | rfl) | h := h
    · exact le_trans (by decide : 65 ≤ 'a'.toNat) h
    · exact h
    · decide
    · omega
  omega

theorem not_nul_of_wordStart {c : Char} (h : Sql.wordStart c = true) : c ≠ '\x00' := by
  rintro rfl
  exact absurd h (by decide)

theorem start_of_wordStart (hescape : r.escapeStrings = false) {c : Char} (h : Sql.wordStart c = true)
    (hmark : (r.markBlank && c == '\uFEFF') = false) : r.start c = .word := by
  have hblank := not_blank_of_wordStart h
  rw [start, if_neg (not_nul_of_wordStart h), hescape, hblank, hmark, h]
  rfl

theorem wordly_else {p : Prop} [Decidable p] {a b : LexState} (ha : wordly a = false) (h : wordly (if p then a else b) = true) :
    wordly b = true := by
  split at h
  · rw [ha] at h
    cases h
  · exact h

theorem start_of_wordly (hescape : r.escapeStrings = false) {c : Char} (hdollar : r.dollar ≠ .word) (h : wordly (r.start c) = true) :
    r.start c = .word ∧ Sql.wordStart c = true ∧ (r.markBlank && c == '\uFEFF') = false := by
  rw [start, hescape] at h
  have hblank := wordly_else rfl h
  have hmark : (Sql.isBlank c || r.markBlank && c == '\uFEFF') = false := by
    rw [Bool.eq_false_iff]
    intro hmark
    rw [if_pos hmark] at hblank
    cases hblank
  have hvisible := Bool.or_eq_false_iff.1 hmark
  by_cases hword : Sql.wordStart c = true
  · exact ⟨start_of_wordStart hescape hword hvisible.2, hword, hvisible.2⟩
  · exfalso
    simp only [Bool.not_eq_true] at hword
    rw [hmark, hword] at hblank
    simp only [Bool.false_and, Bool.false_eq_true, if_false] at hblank
    have hdigit := wordly_else rfl hblank
    have hquote := wordly_else rfl hdigit
    have hbracket := wordly_else rfl hquote
    have hpoint := wordly_else rfl hbracket
    have hminus := wordly_else rfl hpoint
    have hslash := wordly_else rfl hminus
    have hcomment := wordly_else rfl hslash
    split at hcomment
    · split at hcomment
      · cases hcomment
      · cases hcomment
      · exact hdollar ‹_›
    · cases wordly_else rfl (wordly_else rfl hcomment)

end LexRules

namespace Splice

variable {d : Dialect} {reserved : String → Bool}

theorem start_quote (d : Dialect) : d.lexRules.start '\'' = .quoted '\'' (backslash d) := by
  cases d <;> rfl

/-- A plain name is one lexeme, behind a blank or a symbol and before a blank or a delimiter. -/
structure Apart (d : Dialect) (splice : Splice) (c : Char) (cs : List Char) : Prop where
  chars : splice.render.toList = c :: cs
  token : splice.token d = ((splice.token d).1, c :: cs)
  takes : d.lexRules.lexer.takes (d.lexRules.lexer.start c) cs = some (splice.token d).1
  visible : Sql.isBlank c = false
  ends : ∀ x ∈ [' ', '\n', ')', ','], d.lexRules.lexer.extend (splice.token d).1 x = none

theorem apart_of_plain {splice : Splice} (h : splice.plain d reserved = true) : ∃ c cs, splice.Apart d c cs := by
  cases splice with
  | quoted name =>
    refine ⟨'\'', name.toList ++ ['\''], ?_, rfl, ?_, by decide, ?_⟩
    · simp only [render, String.toList_append]
      rfl
    · have hstart : d.lexRules.lexer.start '\'' = .quoted '\'' (backslash d) := start_quote d
      obtain ⟨hplain, hnul⟩ := Bool.and_eq_true_iff.1 h
      have hnul : '\x00' ∈ name.toList → '\'' ∈ d.lexRules.nulInside := by simpa [or_iff_not_imp_left] using hnul
      rw [hstart, Lexer.takes_append, takes_of_plain hplain hnul, Option.bind_some]
      simp [Lexer.takes, LexRules.lexer, LexRules.extend, token]
    · intro x hx
      have hx' : x ≠ '\'' := by
        rintro rfl
        revert hx
        decide
      simp [token, LexRules.lexer, LexRules.extend, hx']
  | bare name =>
    rw [plain] at h
    cases hname : name.toList with
    | nil => simp [hname] at h
    | cons c cs =>
      simp only [hname, Bool.and_eq_true, beq_iff_eq] at h
      refine ⟨c, cs, hname, by rw [token, hname], h.1, ?_, ?_⟩
      · by_contra hblank
        have hstart : d.lexRules.start c = .blank := by
          exact LexRules.start_of_blank (by simpa using hblank)
        have hword := LexRules.wordly_of_takes h.1 rfl
        rw [hstart] at hword
        cases hword
      · intro x hx
        have hx' : Sql.wordPart x = false := by
          simp only [List.mem_cons, List.not_mem_nil, or_false] at hx
          obtain rfl | rfl | rfl | rfl := hx <;> rfl
        simp [token, LexRules.lexer, LexRules.extend, hx']

end Splice

namespace CatalogueStatement

variable {d : Dialect} {reserved : String → Bool}

theorem cuts_of_opens {o : Option LexState} (ho : opens o = true) {c : Char} (hc : Sql.isBlank c = false) :
    d.lexRules.lexer.Cuts o c := by
  rintro st rfl
  cases st with
  | blank => simp [LexRules.lexer, LexRules.extend, hc]
  | symbol => rfl
  | _ => cases ho

theorem front_of_cutsOff {behind : String} {rest : List (Splice × String)}
    (hcuts : cutsOff behind (rest.map (·.2)).isEmpty = true) {x : Char} {xs : List Char}
    (h : (behind ++ renderRest rest).toList = x :: xs) : x ∈ [' ', '\n', ')', ','] := by
  rw [String.toList_append] at h
  unfold cutsOff at hcuts
  cases hbehind : behind.toList with
  | nil =>
    rw [hbehind] at hcuts h
    obtain rfl : rest = [] := by simpa using hcuts
    cases h
  | cons c cs =>
    rw [hbehind] at hcuts h
    obtain ⟨rfl, -⟩ := List.cons.inj h
    simpa [or_assoc] using hcuts

/-- Plain names are read one by one, and the texts between them as they stand. -/
theorem lex_of_tidy {before : String} {rest : List (Splice × String)} (htidy : tidy d before (rest.map (·.2)) = true)
    (hplain : ∀ part ∈ rest, part.1.plain d reserved = true) :
    d.lex (before ++ renderRest rest) = d.lex before ++ rest.flatMap fun part => part.1.token d :: d.lex part.2 := by
  induction rest generalizing before with
  | nil => simp [renderRest]
  | cons part rest ih =>
    obtain ⟨splice, behind⟩ := part
    simp only [List.map_cons, tidy, Bool.and_eq_true] at htidy
    obtain ⟨⟨hopens, hcuts⟩, htidy⟩ := htidy
    obtain ⟨c, cs, hapart⟩ := Splice.apart_of_plain (hplain _ List.mem_cons_self)
    have hih := ih htidy fun part hpart => hplain part (List.mem_cons_of_mem _ hpart)
    have hlexeme : d.lexRules.lexer.lex (c :: cs) = [splice.token d] := by
      rw [Lexer.lex_of_takes hapart.takes, hapart.token]
    have hall : before ++ renderRest ((splice, behind) :: rest) = before ++ (splice.render ++ (behind ++ renderRest rest)) := rfl
    rw [List.flatMap_cons, List.cons_append, ← hih, hall, Dialect.lex, String.toList_append, String.toList_append, hapart.chars,
      List.cons_append, Lexer.lex_append (cuts_of_opens hopens hapart.visible), Dialect.lex]
    refine congrArg _ ?_
    -- what stands behind the name is read on its own
    cases htail : (behind ++ renderRest rest).toList with
    | nil => rw [List.append_nil, hlexeme, Dialect.lex, htail]; rfl
    | cons x xs =>
      have hx : x ∈ [' ', '\n', ')', ','] := front_of_cutsOff hcuts htail
      have hcut : d.lexRules.lexer.Cuts (d.lexRules.lexer.after (c :: cs)) x := by
        rw [Lexer.after_of_takes hapart.takes]
        rintro _ ⟨⟩
        exact hapart.ends x hx
      rw [← List.cons_append, Lexer.lex_append hcut, hlexeme, Dialect.lex, htail]
      rfl

/-- A statement is read as it is meant exactly if its names stand for themselves. -/
theorem wellLexed_iff {st : CatalogueStatement} (htidy : tidy d st.head (st.rest.map (·.2)) = true) :
    st.WellLexed d reserved ↔ ∀ part ∈ st.rest, part.1.plain d reserved = true := by
  constructor
  · rintro ⟨hlex, hdenoted⟩ part hpart
    have hmem : part.1.token d ∈ d.lex st.text := by
      rw [hlex]
      exact List.mem_append_right _ (List.mem_flatMap.2 ⟨part, hpart, List.mem_cons_self⟩)
    have hdenoted := hdenoted part hpart
    obtain ⟨splice, behind⟩ := part
    obtain ⟨c, cs, hchars, htakes⟩ := Lexer.mem_lex hmem
    cases splice with
    | quoted name =>
      obtain ⟨rfl, rfl⟩ := List.cons.inj hchars
      have hstart : d.lexRules.lexer.start '\'' = .quoted '\'' (Splice.backslash d) := Splice.start_quote d
      rw [hstart] at htakes
      have hnul := nul_of_takes (by decide) rfl htakes
      refine Bool.and_eq_true_iff.2 ⟨plain_of_takes htakes (Option.some.inj hdenoted), ?_⟩
      simpa [or_iff_not_imp_left] using fun hmem => hnul (List.mem_append_left _ hmem)
    | bare name =>
      have hchars : name.toList = c :: cs := hchars
      have hreserved : reserved name = false := by
        by_contra hreserved
        rw [Splice.denoted, if_pos (by simpa using hreserved)] at hdenoted
        cases hdenoted
      have htakes : d.lexRules.lexer.takes (d.lexRules.start c) cs = some .word := htakes
      simp [Splice.plain, hchars, htakes, hreserved]
  · intro hplain
    refine ⟨lex_of_tidy htidy hplain, fun part hpart => ?_⟩
    have hplain := hplain part hpart
    obtain ⟨splice, behind⟩ := part
    cases splice with
    | quoted name => exact congrArg some (readLiteral_of_plain (Bool.and_eq_true_iff.1 hplain).1)
    | bare name =>
      have hreserved : reserved name = false := by
        rw [Splice.plain] at hplain
        split at hplain
        · cases hplain
        · simp only [Bool.and_eq_true, Bool.not_eq_true'] at hplain
          exact hplain.2
      rw [Splice.denoted, hreserved]
      rfl

/-! ## Where the names stand -/

theorem tidy_go {before closing first : String} {others : List String} (hbefore : opens (d.after before) = true)
    (hcomma : opens (d.after ",") = true) (hclosing : cutsOff closing true = true) :
    tidy d before ((inList.go closing first others).map (·.2)) = true := by
  induction others generalizing before first with
  | nil => simp [inList.go, tidy, hbefore, hclosing]
  | cons next others ih =>
    have hcut : ∀ last, cutsOff "," last = true := by decide
    simp only [inList.go, List.map_cons, tidy, hbefore, hcut, Bool.true_and]
    exact ih hcomma

theorem forall_go {closing first : String} {others : List String} {p : Splice → Prop} :
    (∀ part ∈ inList.go closing first others, p part.1) ↔ ∀ name ∈ first :: others, p (.quoted name) := by
  induction others generalizing first with
  | nil => simp [inList.go]
  | cons next others ih =>
    rw [inList.go, List.forall_mem_cons, ih, List.forall_mem_cons (a := first)]

end CatalogueStatement

/-- The statements for a catalogue: for its tables, and for the metadata of one of them. -/
def CatalogueKind.statements (schemaFilter : Option String) (tableFilter : Option (List String)) (table : String) :
    CatalogueKind → List CatalogueStatement
  | .postgres =>
    let schema := schemaFilter.getD "public"
    [.postgresTables schema tableFilter, .postgresColumns schema table, .postgresPrimaryKeys schema table,
      .postgresForeignKeys schema table]
  | .mySql =>
    let schema := schemaFilter.getD ""
    [.mySqlTables schema tableFilter, .mySqlColumns table schema, .mySqlPrimaryKeys table schema, .mySqlForeignKeys table schema]
  | .sqlite => [.sqliteTables tableFilter, .sqliteTableInfo table, .sqliteForeignKeyList table]

/-- The dialect of a catalogue. -/
def CatalogueKind.dialect : CatalogueKind → Dialect
  | .postgres => .postgres
  | .mySql => .mySql
  | .sqlite => .sqlite

namespace CatalogueStatement

variable {reserved : String → Bool}

/-- A text that ends in a blank or a symbol, read character by character. -/
theorem opens_text {d : Dialect} {cs : List Char} (h : opens (d.lexRules.lexer.after cs) = true) :
    opens (d.after (String.ofList cs)) = true := by
  rw [Dialect.after, String.toList_ofList]
  exact h

theorem opens_append {d : Dialect} {cs cs' : List Char} (h : opens (d.lexRules.lexer.after (cs ++ cs')) = true) :
    opens (d.after (String.ofList cs ++ String.ofList cs')) = true := by
  rw [Dialect.after, String.toList_append, String.toList_ofList, String.toList_ofList]
  exact h

theorem cutsOff_text {c : Char} {cs : List Char} {last : Bool} (h : (c == ' ' || c == '\n' || c == ')' || c == ',') = true) :
    cutsOff (String.ofList (c :: cs)) last = true := by
  rw [cutsOff, String.toList_ofList]
  exact h

theorem cutsOff_append {c : Char} {cs : List Char} {more : String} {last : Bool}
    (h : (c == ' ' || c == '\n' || c == ')' || c == ',') = true) : cutsOff (String.ofList (c :: cs) ++ more) last = true := by
  rw [cutsOff, String.toList_append, String.toList_ofList]
  exact h

theorem tidy_cons {d : Dialect} {before behind : String} {texts : List String} (hopens : opens (d.after before) = true)
    (hcuts : cutsOff behind texts.isEmpty = true) (htidy : tidy d behind texts = true) :
    tidy d before (behind :: texts) = true := by
  rw [tidy, hopens, hcuts, htidy]
  rfl

/-- The statement keeps the names in it apart from its own words. -/
def Tidy (d : Dialect) (st : CatalogueStatement) : Prop := tidy d st.head (st.rest.map (·.2)) = true

section

-- a statement is one literal of several hundred characters
set_option maxRecDepth 20000

theorem tidy_postgres {schema table : String} {tableFilter : Option (List String)} :
    (postgresTables schema tableFilter).Tidy .postgres ∧ (postgresColumns schema table).Tidy .postgres ∧
      (postgresPrimaryKeys schema table).Tidy .postgres ∧ (postgresForeignKeys schema table).Tidy .postgres := by
  refine ⟨?_, ?_, ?_, ?_⟩
  · rcases tableFilter with _ | _ | ⟨first, others⟩
    · refine tidy_cons (opens_text ?_) (cutsOff_text ?_) rfl <;> decide +kernel
    · refine tidy_cons (opens_text ?_) (cutsOff_append ?_) rfl <;> decide +kernel
    · refine tidy_cons (opens_text ?_) (cutsOff_append ?_) (tidy_go (opens_append ?_) (opens_text ?_) (cutsOff_text ?_)) <;>
        decide +kernel
  · refine tidy_cons (opens_text ?_) (cutsOff_text ?_) (tidy_cons (opens_text ?_) (cutsOff_text ?_) rfl) <;> decide +kernel
  · refine tidy_cons (opens_text ?_) (cutsOff_text ?_) (tidy_cons (opens_text ?_) (cutsOff_text ?_) rfl) <;> decide +kernel
  · refine tidy_cons (opens_text ?_) (cutsOff_text ?_) (tidy_cons (opens_text ?_) (cutsOff_text ?_) rfl) <;> decide +kernel

theorem schemaClause_empty (before behind : String) (rest : List (Splice × String)) :
    schemaClause "" before behind rest = ⟨before ++ behind, rest⟩ := if_pos rfl

theorem schemaClause_of_ne {schema : String} (h : schema ≠ "") (before behind : String) (rest : List (Splice × String)) :
    schemaClause schema before behind rest = ⟨before ++ "AND table_schema = ", (.quoted schema, behind) :: rest⟩ := if_neg h

theorem tidy_mySql_empty {table : String} {tableFilter : Option (List String)} :
    (mySqlTables "" tableFilter).Tidy .mySql ∧ (mySqlColumns table "").Tidy .mySql ∧ (mySqlPrimaryKeys table "").Tidy .mySql ∧
      (mySqlForeignKeys table "").Tidy .mySql := by
  refine ⟨?_, ?_, ?_, ?_⟩
  · rcases tableFilter with _ | _ | ⟨first, others⟩
    · rfl
    · rw [mySqlTables, inList, schemaClause_empty]
      rfl
    · rw [mySqlTables, inList, schemaClause_empty, String.append_empty]
      refine tidy_go (opens_append ?_) (opens_text ?_) (cutsOff_text ?_) <;> decide +kernel
  · refine tidy_cons (opens_text ?_) (cutsOff_append ?_) rfl <;> decide +kernel
  · refine tidy_cons (opens_text ?_) (cutsOff_append ?_) rfl <;> decide +kernel
  · refine tidy_cons (opens_text ?_) (cutsOff_append ?_) rfl <;> decide +kernel

theorem tidy_mySql {schema table : String} {tableFilter : Option (List String)} :
    (mySqlTables schema tableFilter).Tidy .mySql ∧ (mySqlColumns table schema).Tidy .mySql ∧
      (mySqlPrimaryKeys table schema).Tidy .mySql ∧ (mySqlForeignKeys table schema).Tidy .mySql := by
  by_cases hschema : schema = ""
  · subst hschema
    exact tidy_mySql_empty
  · have hclause := schemaClause_of_ne hschema
    rw [mySqlColumns, mySqlPrimaryKeys, mySqlForeignKeys, hclause, hclause, hclause]
    refine ⟨?_, ?_, ?_, ?_⟩
    · rcases tableFilter with _ | _ | ⟨first, others⟩
      · rw [mySqlTables, hclause]
        refine tidy_cons (opens_append ?_) (cutsOff_text ?_) rfl <;> decide +kernel
      · rw [mySqlTables, inList, hclause]
        refine tidy_cons (opens_append ?_) (cutsOff_append ?_) rfl <;> decide +kernel
      · rw [mySqlTables, inList, hclause]
        refine tidy_cons (opens_append ?_) (cutsOff_append ?_) (tidy_go (opens_append ?_) (opens_text ?_) (cutsOff_text ?_)) <;>
          decide +kernel
    · refine tidy_cons (opens_text ?_) (cutsOff_append ?_) (tidy_cons (opens_append ?_) (cutsOff_text ?_) rfl) <;> decide +kernel
    · refine tidy_cons (opens_text ?_) (cutsOff_append ?_) (tidy_cons (opens_append ?_) (cutsOff_text ?_) rfl) <;> decide +kernel
    · refine tidy_cons (opens_text ?_) (cutsOff_append ?_) (tidy_cons (opens_append ?_) rfl rfl) <;> decide +kernel

theorem tidy_sqlite {table : String} {tableFilter : Option (List String)} :
    (sqliteTables tableFilter).Tidy .sqlite ∧ (sqliteTableInfo table).Tidy .sqlite ∧ (sqliteForeignKeyList table).Tidy .sqlite := by
  refine ⟨?_, ?_, ?_⟩
  · rcases tableFilter with _ | _ | ⟨first, others⟩
    · rfl
    · rfl
    · refine tidy_go (opens_append ?_) (opens_text ?_) (cutsOff_text ?_) <;> decide +kernel
  · refine tidy_cons (opens_text ?_) (cutsOff_text ?_) rfl <;> decide +kernel
  · refine tidy_cons (opens_text ?_) (cutsOff_text ?_) rfl <;> decide +kernel

end

variable {reserved : String → Bool}

theorem tidy_of_mem {kind : CatalogueKind} {schemaFilter : Option String} {tableFilter : Option (List String)} {table : String}
    {st : CatalogueStatement} (hst : st ∈ kind.statements schemaFilter tableFilter table) : st.Tidy kind.dialect := by
  cases kind with
  | postgres =>
    obtain ⟨htables, hcolumns, hkeys, hforeign⟩ := @tidy_postgres (schemaFilter.getD "public") table tableFilter
    simp only [CatalogueKind.statements, List.mem_cons, List.not_mem_nil, or_false] at hst
    obtain rfl | rfl | rfl | rfl := hst
    · exact htables
    · exact hcolumns
    · exact hkeys
    · exact hforeign
  | mySql =>
    obtain ⟨htables, hcolumns, hkeys, hforeign⟩ := @tidy_mySql (schemaFilter.getD "") table tableFilter
    simp only [CatalogueKind.statements, List.mem_cons, List.not_mem_nil, or_false] at hst
    obtain rfl | rfl | rfl | rfl := hst
    · exact htables
    · exact hcolumns
    · exact hkeys
    · exact hforeign
  | sqlite =>
    obtain ⟨htables, hinfo, hforeign⟩ := @tidy_sqlite table tableFilter
    simp only [CatalogueKind.statements, List.mem_cons, List.not_mem_nil, or_false] at hst
    obtain rfl | rfl | rfl := hst
    · exact htables
    · exact hinfo
    · exact hforeign

/-! ## The names of the statements -/

theorem forall_inList {closing : String} {tables : List String} {p : Splice → Prop} :
    (∀ part ∈ (inList closing tables).rest, p part.1) ↔ ∀ name ∈ tables, p (.quoted name) := by
  cases tables with
  | nil => simp [inList]
  | cons first others => exact forall_go

theorem forall_schemaClause {schema before behind : String} {rest : List (Splice × String)} {p : Splice → Prop}
    (hempty : p (.quoted "")) :
    (∀ part ∈ (schemaClause schema before behind rest).rest, p part.1) ↔ p (.quoted schema) ∧ ∀ part ∈ rest, p part.1 := by
  unfold schemaClause
  split_ifs with hschema
  · subst hschema
    exact ⟨fun h => ⟨hempty, h⟩, fun h => h.2⟩
  · exact List.forall_mem_cons

/-- The splices of the statements for a catalogue. -/
theorem forall_splices {kind : CatalogueKind} {schemaFilter : Option String} {tableFilter : Option (List String)} {table : String}
    {p : Splice → Prop} (hempty : p (.quoted "")) :
    (∀ st ∈ kind.statements schemaFilter tableFilter table, ∀ part ∈ st.rest, p part.1) ↔
      (∀ name ∈ tableFilter.getD [], p (.quoted name)) ∧
        match kind with
        | .postgres => p (.quoted (schemaFilter.getD "public")) ∧ p (.quoted table)
        | .mySql => p (.quoted (schemaFilter.getD "")) ∧ p (.quoted table)
        | .sqlite => p (.bare table) := by
  cases kind with
  | postgres =>
    have htables : (∀ part ∈ (postgresTables (schemaFilter.getD "public") tableFilter).rest, p part.1) ↔
        p (.quoted (schemaFilter.getD "public")) ∧ ∀ name ∈ tableFilter.getD [], p (.quoted name) := by
      cases tableFilter with
      | none => simp [postgresTables]
      | some tables => exact List.forall_mem_cons.trans (and_congr_right fun _ => forall_inList)
    have hpair : ∀ schema (text text' : String), (∀ part ∈ [(.quoted schema, text), (.quoted table, text')], p part.1) ↔
        p (.quoted schema) ∧ p (.quoted table) := by
      intro schema text text'
      simp
    have hcolumns : (∀ part ∈ (postgresColumns (schemaFilter.getD "public") table).rest, p part.1) ↔ _ := hpair _ _ _
    have hkeys : (∀ part ∈ (postgresPrimaryKeys (schemaFilter.getD "public") table).rest, p part.1) ↔ _ := hpair _ _ _
    have hforeign : (∀ part ∈ (postgresForeignKeys (schemaFilter.getD "public") table).rest, p part.1) ↔ _ := hpair _ _ _
    simp only [CatalogueKind.statements, List.forall_mem_cons, htables, hcolumns, hkeys, hforeign]
    constructor
    · rintro ⟨⟨hschema, hfilter⟩, ⟨-, htable⟩, -⟩
      exact ⟨hfilter, hschema, htable⟩
    · rintro ⟨hfilter, hschema, htable⟩
      exact ⟨⟨hschema, hfilter⟩, ⟨hschema, htable⟩, ⟨hschema, htable⟩, ⟨hschema, htable⟩, List.forall_mem_nil _⟩
  | mySql =>
    have htables : (∀ part ∈ (mySqlTables (schemaFilter.getD "") tableFilter).rest, p part.1) ↔
        p (.quoted (schemaFilter.getD "")) ∧ ∀ name ∈ tableFilter.getD [], p (.quoted name) := by
      cases tableFilter with
      | none => exact (forall_schemaClause hempty).trans (and_congr_right fun _ => by simp)
      | some tables => exact (forall_schemaClause hempty).trans (and_congr_right fun _ => forall_inList)
    have hclause : ∀ before behind text, (∀ part ∈ (.quoted table, text) :: (schemaClause (schemaFilter.getD "") before behind []).rest,
        p part.1) ↔ p (.quoted table) ∧ p (.quoted (schemaFilter.getD "")) := by
      intro before behind text
      rw [List.forall_mem_cons, forall_schemaClause hempty]
      simp
    have hcolumns : (∀ part ∈ (mySqlColumns table (schemaFilter.getD "")).rest, p part.1) ↔ _ := hclause _ _ _
    have hkeys : (∀ part ∈ (mySqlPrimaryKeys table (schemaFilter.getD "")).rest, p part.1) ↔ _ := hclause _ _ _
    have hforeign : (∀ part ∈ (mySqlForeignKeys table (schemaFilter.getD "")).rest, p part.1) ↔ _ := hclause _ _ _
    simp only [CatalogueKind.statements, List.forall_mem_cons, htables, hcolumns, hkeys, hforeign]
    constructor
    · rintro ⟨⟨hschema, hfilter⟩, ⟨htable, -⟩, -⟩
      exact ⟨hfilter, hschema, htable⟩
    · rintro ⟨hfilter, hschema, htable⟩
      exact ⟨⟨hschema, hfilter⟩, ⟨htable, hschema⟩, ⟨htable, hschema⟩, ⟨htable, hschema⟩, List.forall_mem_nil _⟩
  | sqlite =>
    have htables : (∀ part ∈ (sqliteTables tableFilter).rest, p part.1) ↔ ∀ name ∈ tableFilter.getD [], p (.quoted name) := by
      cases tableFilter with
      | none => exact iff_of_true (fun part hpart => by cases hpart) (fun name hname => by cases hname)
      | some tables => exact forall_inList
    have hpragma : ∀ text : String, (∀ part ∈ [(.bare table, text)], p part.1) ↔ p (.bare table) := by
      intro text
      simp
    have hinfo : (∀ part ∈ (sqliteTableInfo table).rest, p part.1) ↔ _ := hpragma _
    have hforeign : (∀ part ∈ (sqliteForeignKeyList table).rest, p part.1) ↔ _ := hpragma _
    simp only [CatalogueKind.statements, List.forall_mem_cons, htables, hinfo, hforeign]
    constructor
    · rintro ⟨hfilter, htable, -⟩
      exact ⟨hfilter, htable⟩
    · rintro ⟨hfilter, htable⟩
      exact ⟨hfilter, htable, htable, List.forall_mem_nil _⟩

end CatalogueStatement

/-! ## When the statements are well formed -/

/-- A name without an apostrophe and without a NUL. -/
def Unquoted (name : String) : Prop := '\'' ∉ name.toList ∧ '\x00' ∉ name.toList

/-- A word SQLite takes for a name; a byte order mark in front of it is a blank. -/
def IsIdentifier (reserved : String → Bool) (name : String) : Prop :=
  reserved name = false ∧
    ∃ c cs, name.toList = c :: cs ∧ Sql.wordStart c = true ∧ c ≠ '\uFEFF' ∧ ∀ x ∈ cs, Sql.wordPart x = true

/-- The names are what the statements for a catalogue take them for: without an apostrophe or a NUL, in
MySQL with a backslash before a wildcard only, and as an argument of a pragma a word. -/
def CatalogueKind.NamesFit (reserved : String → Bool) (schemaFilter : Option String) (tableFilter : Option (List String))
    (table : String) : CatalogueKind → Prop
  | .postgres => (∀ name ∈ tableFilter.getD [], Unquoted name) ∧ Unquoted (schemaFilter.getD "public") ∧ Unquoted table
  | .mySql =>
    (∀ name ∈ tableFilter.getD [], plainLiteral true name.toList = true) ∧
      plainLiteral true (schemaFilter.getD "").toList = true ∧ plainLiteral true table.toList = true
  | .sqlite => (∀ name ∈ tableFilter.getD [], Unquoted name) ∧ IsIdentifier reserved table

theorem plainLiteral_iff {name : String} : plainLiteral false name.toList = true ↔ '\'' ∉ name.toList := by
  generalize name.toList = cs
  fun_induction plainLiteral false cs with
  | case1 => simp
  | case2 => simp
  | case3 => decide
  | case4 c cs hb => cases hb
  | case5 c cs hb ih => rw [ih, List.mem_cons (b := '\\')]; simp
  | case6 c cs hquote hlast hslash ih =>
    rw [ih, List.mem_cons]
    simp [Ne.symm (a := c) hquote]

/-- Where no backslash escapes, what stands for itself in a literal is unquoted. -/
theorem plain_quoted_iff {d : Dialect} (hslash : Splice.backslash d = false) (hnul : d.lexRules.nulInside = []) {reserved : String → Bool}
    {name : String} : (Splice.quoted name).plain d reserved = true ↔ Unquoted name := by
  rw [Splice.plain, Bool.and_eq_true, hslash, plainLiteral_iff, hnul, Unquoted]
  simp

theorem plain_quoted_iff_mySql {reserved : String → Bool} {name : String} :
    (Splice.quoted name).plain .mySql reserved = true ↔ plainLiteral true name.toList = true := by
  have hnul : '\'' ∈ Dialect.mySql.lexRules.nulInside := by decide
  rw [Splice.plain, Bool.and_eq_true, show Splice.backslash .mySql = true from rfl]
  simp [hnul]

theorem plain_bare_iff {reserved : String → Bool} {name : String} :
    (Splice.bare name).plain .sqlite reserved = true ↔ IsIdentifier reserved name := by
  unfold IsIdentifier
  cases hname : name.toList with
  | nil => simp [Splice.plain, hname]
  | cons c cs =>
    have hword : (Dialect.sqlite.lexRules.lexer.takes (Dialect.sqlite.lexRules.start c) cs == some .word) = true ↔
        Sql.wordStart c = true ∧ c ≠ '\uFEFF' ∧ ∀ x ∈ cs, Sql.wordPart x = true := by
      rw [beq_iff_eq]
      constructor
      · intro htakes
        obtain ⟨hstart, hword, hmark⟩ := LexRules.start_of_wordly rfl (by decide) (LexRules.wordly_of_takes htakes rfl)
        rw [hstart] at htakes
        exact ⟨hword, by simpa [Dialect.lexRules] using hmark, LexRules.wordParts_of_takes htakes⟩
      · rintro ⟨hc, hmark, hcs⟩
        rw [@LexRules.start_of_wordStart Dialect.sqlite.lexRules rfl _ hc (by simp [hmark])]
        refine Lexer.takes_of_forall (p := Sql.wordPart) (fun x hx => ?_) hcs
        simp [LexRules.lexer, LexRules.extend, hx]
    simp only [Splice.plain, hname, Bool.and_eq_true, hword, Bool.not_eq_true', List.cons.injEq]
    constructor
    · rintro ⟨⟨hc, hmark, hcs⟩, hreserved⟩
      exact ⟨hreserved, c, cs, ⟨rfl, rfl⟩, hc, hmark, hcs⟩
    · rintro ⟨hreserved, _, _, ⟨rfl, rfl⟩, hc, hmark, hcs⟩
      exact ⟨⟨hc, hmark, hcs⟩, hreserved⟩

/-- **Introspection's statements are what they should be** exactly if the names are. -/
theorem CatalogueKind.statements_wellLexed_iff (kind : CatalogueKind) (reserved : String → Bool) (schemaFilter : Option String)
    (tableFilter : Option (List String)) (table : String) :
    (∀ st ∈ kind.statements schemaFilter tableFilter table, st.WellLexed kind.dialect reserved) ↔
      kind.NamesFit reserved schemaFilter tableFilter table := by
  have hplain : (∀ st ∈ kind.statements schemaFilter tableFilter table, st.WellLexed kind.dialect reserved) ↔
      ∀ st ∈ kind.statements schemaFilter tableFilter table, ∀ part ∈ st.rest, part.1.plain kind.dialect reserved = true :=
    forall₂_congr fun st hst => CatalogueStatement.wellLexed_iff (CatalogueStatement.tidy_of_mem hst)
  rw [hplain, CatalogueStatement.forall_splices (p := fun splice => splice.plain kind.dialect reserved = true) rfl]
  cases kind with
  | postgres =>
    have hquoted : ∀ name, (Splice.quoted name).plain .postgres reserved = true ↔ Unquoted name := fun _ => plain_quoted_iff rfl rfl
    exact and_congr (forall₂_congr fun name _ => hquoted name) (and_congr (hquoted _) (hquoted _))
  | mySql =>
    exact and_congr (forall₂_congr fun _ _ => plain_quoted_iff_mySql) (and_congr plain_quoted_iff_mySql plain_quoted_iff_mySql)
  | sqlite =>
    have hquoted : ∀ name, (Splice.quoted name).plain .sqlite reserved = true ↔ Unquoted name := fun _ => plain_quoted_iff rfl rfl
    exact and_congr (forall₂_congr fun name _ => hquoted name) plain_bare_iff

/-- A table of orders by the line in SQLite, and one of O'Brien's in Postgres. -/
theorem statements_misread :
    ¬(∀ st ∈ CatalogueKind.sqlite.statements none none "order lines", st.WellLexed .sqlite fun _ => false) ∧
      ¬∀ st ∈ CatalogueKind.postgres.statements none none "o'brien", st.WellLexed .postgres fun _ => false := by
  constructor
  · intro hlexed
    have hinfo := hlexed (.sqliteTableInfo "order lines") (List.mem_cons_of_mem _ List.mem_cons_self)
    have hplain := (CatalogueStatement.wellLexed_iff (@CatalogueStatement.tidy_sqlite _ none).2.1).1 hinfo (.bare "order lines", ")")
      List.mem_cons_self
    exact absurd hplain (by decide +kernel)
  · intro hlexed
    have hcolumns := hlexed (.postgresColumns "public" "o'brien") (List.mem_cons_of_mem _ List.mem_cons_self)
    have hplain := (CatalogueStatement.wellLexed_iff (@CatalogueStatement.tidy_postgres _ _ none).2.1).1 hcolumns
      (.quoted "o'brien", "\n            ORDER BY ordinal_position") (List.mem_cons_of_mem _ List.mem_cons_self)
    exact absurd hplain (by decide +kernel)

end GraphNight
