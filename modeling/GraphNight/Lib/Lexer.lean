import Mathlib.Data.List.Basic

/-!
# Lexers that read one character at a time

A lexer cuts a text into lexemes: from the state of the lexeme under way, a character
either continues it or opens the next one. There is no lookahead, so that where a text
is cut depends on what stands before the place only.
-/

/-- An automaton that cuts a text into lexemes. -/
structure Lexer (σ : Type) where
  /-- The state of a lexeme that opens with a character. -/
  start : Char → σ
  /-- The state of a lexeme that goes on with a character; `none` cuts before it. -/
  extend : σ → Char → Option σ

namespace Lexer

variable {σ : Type} (L : Lexer σ)

/-- The lexemes of a text behind one under way, whose characters stand backwards. Each
lexeme comes with the state it ends in. -/
def lexFrom : σ → List Char → List Char → List (σ × List Char)
  | st, acc, [] => [(st, acc.reverse)]
  | st, acc, c :: cs =>
    match L.extend st c with
    | some st' => lexFrom st' (c :: acc) cs
    | none => (st, acc.reverse) :: lexFrom (L.start c) [c] cs

/-- The lexemes of a text. -/
def lex : List Char → List (σ × List Char)
  | [] => []
  | c :: cs => L.lexFrom (L.start c) [c] cs

/-- The state behind one more character. -/
def step (o : Option σ) (c : Char) : Option σ :=
  match o with
  | some st => some ((L.extend st c).getD (L.start c))
  | none => some (L.start c)

/-- The state behind a text, where a lexeme may be under way. -/
def after (cs : List Char) : Option σ := cs.foldl L.step none

/-- A character opens a lexeme wherever the state is `o`. -/
def Cuts (o : Option σ) (c : Char) : Prop := ∀ st, o = some st → L.extend st c = none

/-- One lexeme goes on over a whole text. -/
def takes : σ → List Char → Option σ
  | st, [] => some st
  | st, c :: cs => (L.extend st c).bind fun st' => takes st' cs

variable {L}

theorem after_append (a b : List Char) : L.after (a ++ b) = b.foldl L.step (L.after a) := List.foldl_append ..

/-- Behind a cut the text before it no longer counts. -/
theorem step_of_cuts {o : Option σ} {c : Char} (h : L.Cuts o c) : L.step o c = some (L.start c) := by
  cases o with
  | none => rfl
  | some st => rw [step, h st rfl, Option.getD_none]

theorem after_of_cuts {a : List Char} {c : Char} (h : L.Cuts (L.after a) c) (b : List Char) :
    L.after (a ++ c :: b) = L.after (c :: b) := by
  rw [after_append, List.foldl_cons, step_of_cuts h]
  rfl

/-- Nothing is lost: the lexemes make up the text. -/
theorem flatten_lexFrom (st : σ) (acc cs : List Char) :
    (L.lexFrom st acc cs).flatMap (·.2) = acc.reverse ++ cs := by
  induction cs generalizing st acc with
  | nil => simp [lexFrom]
  | cons c cs ih =>
    rw [lexFrom]
    cases L.extend st c with
    | some st' => simp [ih]
    | none => simp [ih]

theorem flatten_lex (cs : List Char) : (L.lex cs).flatMap (·.2) = cs := by
  cases cs with
  | nil => rfl
  | cons c cs => exact flatten_lexFrom _ _ _

theorem getLast_lexFrom (st : σ) (acc cs : List Char) :
    ((L.lexFrom st acc cs).getLast?).map (·.1) = cs.foldl L.step (some st) := by
  induction cs generalizing st acc with
  | nil => rfl
  | cons c cs ih =>
    simp only [List.foldl_cons, step, lexFrom]
    cases L.extend st c with
    | some st' => exact ih st' (c :: acc)
    | none =>
      have hne : L.lexFrom (L.start c) [c] cs ≠ [] := by
        intro h
        have hflat := flatten_lexFrom (L := L) (L.start c) [c] cs
        simp [h] at hflat
      obtain ⟨l, ls, hls⟩ := List.exists_cons_of_ne_nil hne
      have hlast := ih (L.start c) [c]
      rw [hls] at hlast ⊢
      rwa [List.getLast?_cons_cons]

/-- The last lexeme ends in the state behind the text. -/
theorem getLast_lex (cs : List Char) : ((L.lex cs).getLast?).map (·.1) = L.after cs := by
  cases cs with
  | nil => rfl
  | cons c cs => exact getLast_lexFrom _ _ _

theorem lexFrom_append {st : σ} {acc a : List Char} {c : Char} (b : List Char)
    (h : L.Cuts (a.foldl L.step (some st)) c) :
    L.lexFrom st acc (a ++ c :: b) = L.lexFrom st acc a ++ L.lex (c :: b) := by
  induction a generalizing st acc with
  | nil =>
    have hcut : L.extend st c = none := h st rfl
    simp only [List.nil_append, lexFrom, hcut]
    rfl
  | cons x a ih =>
    rw [List.foldl_cons] at h
    simp only [List.cons_append, lexFrom]
    cases hx : L.extend st x with
    | some st' =>
      simp only [step, hx, Option.getD_some] at h
      exact ih h
    | none =>
      simp only [step, hx, Option.getD_none] at h
      exact congrArg _ (ih h)

/-- **A text is cut where a lexeme opens**: what stands before the cut and what stands
behind it are read apart. -/
theorem lex_append {a : List Char} {c : Char} (h : L.Cuts (L.after a) c) (b : List Char) :
    L.lex (a ++ c :: b) = L.lex a ++ L.lex (c :: b) := by
  cases a with
  | nil => rfl
  | cons x a => exact lexFrom_append b h

theorem lexFrom_of_takes {st st' : σ} {acc cs : List Char} (h : L.takes st cs = some st') :
    L.lexFrom st acc cs = [(st', acc.reverse ++ cs)] := by
  induction cs generalizing st acc with
  | nil =>
    obtain rfl := Option.some.inj h
    simp [lexFrom]
  | cons c cs ih =>
    obtain ⟨mid, hmid, h⟩ := Option.bind_eq_some_iff.1 h
    simp only [lexFrom, hmid]
    rw [ih h]
    simp

/-- A text one lexeme goes over is one lexeme. -/
theorem lex_of_takes {st : σ} {c : Char} {cs : List Char} (h : L.takes (L.start c) cs = some st) :
    L.lex (c :: cs) = [(st, c :: cs)] := by
  rw [lex, lexFrom_of_takes h]
  rfl

theorem foldl_of_takes {st st' : σ} {cs : List Char} (h : L.takes st cs = some st') :
    cs.foldl L.step (some st) = some st' := by
  induction cs generalizing st with
  | nil => exact h
  | cons c cs ih =>
    obtain ⟨mid, hmid, h⟩ := Option.bind_eq_some_iff.1 h
    rw [List.foldl_cons, step, hmid]
    exact ih h

theorem after_of_takes {st : σ} {c : Char} {cs : List Char} (h : L.takes (L.start c) cs = some st) :
    L.after (c :: cs) = some st := foldl_of_takes h

theorem takes_append {st : σ} (a b : List Char) :
    L.takes st (a ++ b) = (L.takes st a).bind fun st' => L.takes st' b := by
  induction a generalizing st with
  | nil => rfl
  | cons c a ih =>
    simp only [List.cons_append, takes]
    cases L.extend st c with
    | none => rfl
    | some st' => exact ih

/-- A lexeme that every character of a kind continues goes over a text of that kind. -/
theorem takes_of_forall {st : σ} {p : Char → Bool} (hp : ∀ c, p c = true → L.extend st c = some st)
    {cs : List Char} (h : ∀ c ∈ cs, p c = true) : L.takes st cs = some st := by
  induction cs with
  | nil => rfl
  | cons c cs ih =>
    rw [takes, hp c (h c List.mem_cons_self), Option.bind_some]
    exact ih fun c' hc' => h c' (List.mem_cons_of_mem _ hc')

theorem mem_lexFrom {opener : Char} {st st' : σ} {read acc cs chars : List Char} (hread : acc.reverse = opener :: read)
    (htakes : L.takes (L.start opener) read = some st) (hmem : (st', chars) ∈ L.lexFrom st acc cs) :
    ∃ c rest, chars = c :: rest ∧ L.takes (L.start c) rest = some st' := by
  induction cs generalizing opener st read acc with
  | nil =>
    simp only [lexFrom, List.mem_singleton, Prod.mk.injEq] at hmem
    obtain ⟨rfl, rfl⟩ := hmem
    exact ⟨opener, read, hread, htakes⟩
  | cons c cs ih =>
    rw [lexFrom] at hmem
    cases hnext : L.extend st c with
    | some next =>
      rw [hnext] at hmem
      refine @ih opener next (read ++ [c]) (c :: acc) ?_ ?_ hmem
      · rw [List.reverse_cons, hread, List.cons_append]
      · rw [takes_append, htakes, Option.bind_some, takes, hnext]
        rfl
    | none =>
      rw [hnext, List.mem_cons] at hmem
      rcases hmem with heq | hmem
      · obtain ⟨rfl, rfl⟩ := Prod.mk.injEq .. ▸ heq
        exact ⟨opener, read, hread, htakes⟩
      · exact @ih c (L.start c) [] [c] rfl rfl hmem

/-- Each lexeme goes on over its own characters. -/
theorem mem_lex {st : σ} {cs chars : List Char} (hmem : (st, chars) ∈ L.lex cs) :
    ∃ c rest, chars = c :: rest ∧ L.takes (L.start c) rest = some st := by
  cases cs with
  | nil => cases hmem
  | cons c cs => exact @mem_lexFrom _ _ c _ _ [] _ _ _ rfl rfl hmem

end Lexer
