import Mathlib.Data.List.Infix

/-!
# `LIKE` patterns

A percent sign stands for any text, an underscore for any character, and every other
character for itself, as far as a comparison of characters can tell.
-/

namespace Like

variable (same : Char → Char → Bool)

/-- Whether a text matches a pattern. -/
def isMatch : List Char → List Char → Bool
  | [], text => text.isEmpty
  | c :: pattern, text =>
    if c = '%' then text.tails.any (isMatch pattern)
    else
      match text with
      | [] => false
      | x :: text => (c == '_' || same c x) && isMatch pattern text

/-- The same where a backslash makes the character after it stand for itself. A pattern that
ends in one matches nothing. -/
def isMatchEscaped : List Char → List Char → Bool
  | [], text => text.isEmpty
  | c :: pattern, text =>
    if c = '%' then text.tails.any (isMatchEscaped pattern)
    else if c = '\\' then
      match pattern, text with
      | e :: pattern, x :: text => same e x && isMatchEscaped pattern text
      | _, _ => false
    else
      match text with
      | [] => false
      | x :: text => (c == '_' || same c x) && isMatchEscaped pattern text

/-- The pattern `%…%` of a text. -/
def contains (part : List Char) : List Char := '%' :: part ++ ['%']

end Like
