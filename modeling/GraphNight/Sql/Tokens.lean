import GraphNight.Lib.Lexer
import GraphNight.Sql.Dialects

/-!
# How the databases read a statement

The lexical rules of the four dialects: quoted names and literals, comments,
dollar quotes, numbers, placeholders. An operator is read as its characters, one
lexeme each; how a database groups them matters to no name or literal.

Where the rules say nothing the reading ends: behind a NUL, at which a database takes
the text to end or refuses it, in a comment that MySQL executes, and in the argument
list of a named parameter, which SQLite reads without looking into it.
-/

namespace GraphNight

/-- What a dollar sign opens. -/
inductive DollarUse where
  /-- `$1`, and literals between two tags. -/
  | quotes
  /-- A named parameter. -/
  | names
  /-- A word. -/
  | word
deriving DecidableEq, Repr

/-- The lexical rules in which the dialects differ. -/
structure LexRules where
  /-- The delimiters of names and literals, doubled to stand for themselves. -/
  quotes : List Char
  /-- The delimiters inside which a backslash escapes. -/
  backslashed : List Char
  /-- `E'..'`, inside which a backslash escapes. -/
  escapeStrings : Bool
  /-- `[name]`. -/
  brackets : Bool
  /-- `#` opens a comment. -/
  hashComments : Bool
  /-- What ends a comment to the end of the line. -/
  lineEnds : List Char
  nestedComments : Bool
  /-- `--` opens a comment only before a blank or a control character. -/
  dashBlank : Bool
  /-- A comment that begins with an exclamation mark is executed. -/
  executed : Bool
  dollar : DollarUse
  /-- `?` is a placeholder. -/
  question : Bool
  /-- `?1`. -/
  numbered : Bool
  /-- What else opens a named parameter. -/
  sigils : List Char
  /-- The delimiters inside which NUL is a character like others. -/
  nulInside : List Char
  /-- A byte order mark in front of a token is a blank. -/
  markBlank : Bool
deriving DecidableEq, Repr

inductive NumberPhase where
  | int | frac | exponent | expDigits
deriving DecidableEq, Repr

/-- The state of a lexeme under way. -/
inductive LexState where
  | blank
  | word
  /-- A lone E, which an apostrophe makes an escape string. -/
  | letterE
  | number (phase : NumberPhase)
  /-- A number with letters after it. -/
  | junk
  | point
  | quoted (q : Char) (backslash : Bool)
  | escaped (q : Char)
  | closed (q : Char) (backslash : Bool)
  | bracket
  | bracketClosed
  | minus
  | minuses
  | lineComment
  | slash
  | commentOpened
  | comment (depth : Nat) (previous : Char)
  | commentClosed
  | dollar
  | tag (name : List Char)
  | dollarBody (tag : List Char) (candidate : Option (List Char))
  | dollarClosed
  | sigil
  | param (named : Bool)
  | symbol (c : Char)
  /-- Behind what the rules say nothing of. -/
  | unread
deriving DecidableEq, Repr

namespace Sql

def isBlank (c : Char) : Bool := c == ' ' || (9 ≤ c.toNat && c.toNat ≤ 13)

def isControl (c : Char) : Bool := c.toNat < 32 || c.toNat == 127

/-- A letter of a name. -/
def wordStart (c : Char) : Bool := Str.isAsciiAlphabetic c || c == '_' || 128 ≤ c.toNat

def wordPart (c : Char) : Bool := wordStart c || Str.isAsciiDigit c || c == '$'

end Sql

namespace LexRules

open Sql

def start (r : LexRules) (c : Char) : LexState :=
  if c = '\x00' then .unread
  else if isBlank c || (r.markBlank && c == '\uFEFF') then .blank
  else if r.escapeStrings && (c == 'e' || c == 'E') then .letterE
  else if wordStart c then .word
  else if Str.isAsciiDigit c then .number .int
  else if c ∈ r.quotes then .quoted c (c ∈ r.backslashed)
  else if r.brackets && c == '[' then .bracket
  else if c = '.' then .point
  else if c = '-' then .minus
  else if c = '/' then .slash
  else if r.hashComments && c == '#' then .lineComment
  else if c = '$' then
    match r.dollar with
    | .quotes => .dollar
    | .names => .sigil
    | .word => .word
  else if r.question && c == '?' then .param false
  else if c ∈ r.sigils then .sigil
  else .symbol c

def extendNumber (phase : NumberPhase) (c : Char) : Option LexState :=
  if Str.isAsciiDigit c then
    some (.number (match phase with
      | .exponent => .expDigits
      | phase => phase))
  else if phase = .int ∧ c = '.' then some (.number .frac)
  else if (phase = .int ∨ phase = .frac) ∧ (c = 'e' ∨ c = 'E') then some (.number .exponent)
  else if phase = .exponent ∧ (c = '+' ∨ c = '-') then some (.number .expDigits)
  else if wordPart c then some .junk
  else none

/-- One more character of a comment with two-character delimiters. -/
def extendComment (r : LexRules) (depth : Nat) (previous c : Char) : LexState :=
  if previous = '*' ∧ c = '/' then if depth ≤ 1 then .commentClosed else .comment (depth - 1) ' '
  else if r.nestedComments ∧ previous = '/' ∧ c = '*' then .comment (depth + 1) ' '
  else .comment depth c

/-- One more character of a literal between tags; a dollar sign may open the closing tag. -/
def extendDollarBody (tag : List Char) (candidate : Option (List Char)) (c : Char) : LexState :=
  if c = '$' then if candidate = some tag then .dollarClosed else .dollarBody tag (some [])
  else
    match candidate with
    | some part => .dollarBody tag (if (part ++ [c]).isPrefixOf tag then some (part ++ [c]) else none)
    | none => .dollarBody tag none

/-- What is open ends at a NUL. -/
def unlessNul (c : Char) (st : LexState) : Option LexState := some (if c = '\x00' then .unread else st)

def extend (r : LexRules) : LexState → Char → Option LexState
  | .blank, c => if isBlank c then some .blank else none
  | .word, c => if wordPart c then some .word else none
  | .letterE, c => if c = '\'' then some (.quoted c true) else if wordPart c then some .word else none
  | .number phase, c => extendNumber phase c
  | .junk, c => if wordPart c then some .junk else none
  | .point, c => if Str.isAsciiDigit c then some (.number .frac) else none
  | .quoted q backslash, c =>
    if c = '\x00' ∧ q ∉ r.nulInside then some .unread
    else if c = q then some (.closed q backslash)
    else if backslash && c == '\\' then some (.escaped q)
    else some (.quoted q backslash)
  | .escaped q, c => if c = '\x00' ∧ q ∉ r.nulInside then some .unread else some (.quoted q true)
  | .closed q backslash, c => if c = q then some (.quoted q backslash) else none
  | .bracket, c => unlessNul c (if c = ']' then .bracketClosed else .bracket)
  | .minus, c => if c = '-' then some (if r.dashBlank then .minuses else .lineComment) else none
  | .minuses, c => if (isBlank c || isControl c) && c != '\n' && c != '\x00' then some .lineComment else none
  | .lineComment, c => if c ∈ r.lineEnds then none else unlessNul c .lineComment
  | .slash, c => if c = '*' then some .commentOpened else none
  | .commentOpened, c => if r.executed && c == '!' then some .unread else unlessNul c (r.extendComment 1 ' ' c)
  | .comment depth previous, c => unlessNul c (r.extendComment depth previous c)
  | .dollar, c =>
    if Str.isAsciiDigit c then some (.param false)
    else if c = '$' then some (.dollarBody [] none)
    else if wordStart c then some (.tag [c])
    else none
  | .tag name, c =>
    if c = '$' then some (.dollarBody name none)
    else if wordPart c then some (.tag (name ++ [c]))
    else none
  | .dollarBody tag candidate, c => unlessNul c (extendDollarBody tag candidate c)
  | .sigil, c => if wordPart c then some (.param true) else none
  | .param named, c =>
    if (named && wordPart c) || (!named && r.numbered && Str.isAsciiDigit c) then some (.param named)
    else if named && c == '(' then some .unread
    else none
  | .unread, _ => some .unread
  | .bracketClosed, _ | .commentClosed, _ | .dollarClosed, _ | .symbol _, _ => none

/-- The lexer of a set of rules. -/
def lexer (r : LexRules) : Lexer LexState := ⟨r.start, r.extend⟩

theorem start_of_blank {r : LexRules} {c : Char} (h : isBlank c = true) : r.start c = .blank := by
  have hnul : c ≠ '\x00' := by
    rintro rfl
    exact absurd h (by decide)
  rw [start, if_neg hnul, if_pos (by simp [h])]

end LexRules

/-- A literal, a quoted name or a comment that is not closed yet. -/
def LexState.unclosed : LexState → Bool
  | .quoted _ _ | .escaped _ | .bracket | .lineComment | .commentOpened | .comment _ _ | .dollarBody _ _ | .unread => true
  | _ => false

namespace Dialect

/-- The delimiter `quote_ident` writes. -/
def identQuote : Dialect → Char
  | mySql => '\x60'
  | _ => '"'

/-- The lexical rules of a dialect. -/
def lexRules : Dialect → LexRules
  | postgres =>
    { quotes := ['"', '\''], backslashed := [], escapeStrings := true, brackets := false, hashComments := false
      lineEnds := ['\n', '\r'], nestedComments := true, dashBlank := false, executed := false, dollar := .quotes
      question := false, numbered := true, sigils := [], nulInside := [], markBlank := false }
  | duckDb =>
    { quotes := ['"', '\''], backslashed := [], escapeStrings := true, brackets := false, hashComments := false
      lineEnds := ['\n', '\r'], nestedComments := true, dashBlank := false, executed := false, dollar := .quotes
      question := true, numbered := true, sigils := [], nulInside := [], markBlank := false }
  | sqlite =>
    { quotes := ['"', '\x60', '\''], backslashed := [], escapeStrings := false, brackets := true, hashComments := false
      lineEnds := ['\n'], nestedComments := false, dashBlank := false, executed := false, dollar := .names
      question := true, numbered := true, sigils := [':', '@'], nulInside := [], markBlank := true }
  | mySql =>
    { quotes := ['\x60', '"', '\''], backslashed := ['"', '\''], escapeStrings := false, brackets := false
      hashComments := true, lineEnds := ['\n'], nestedComments := false, dashBlank := true, executed := true
      dollar := .word, question := true, numbered := false, sigils := [], nulInside := ['"', '\''], markBlank := false }

/-- The lexemes of a text, each with the state it ends in. -/
def lex (d : Dialect) (s : String) : List (LexState × List Char) := d.lexRules.lexer.lex s.toList

/-- The state behind a text. -/
def after (d : Dialect) (s : String) : Option LexState := d.lexRules.lexer.after s.toList

end Dialect

end GraphNight
