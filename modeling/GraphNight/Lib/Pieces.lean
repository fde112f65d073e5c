import GraphNight.Lib.Lexer

/-!
# Texts put together from pieces

A program writes a text piece by piece. Some pieces are to be read apart: no lexeme may go from the
text around them into them or out of them. The others run into each other, but no lexeme of a
watched kind may come up in them. Whether that holds is found by one reading from left to right.
-/

namespace Lexer

variable {σ : Type}

/-- A piece of a text. -/
structure Piece where
  /-- The piece is to be read apart. -/
  apart : Bool
  chars : List Char

/-- The text of some pieces. -/
def Piece.text (ps : List Piece) : List Char := ps.flatMap (·.chars)

/-- Where a lexer stands behind some pieces. -/
structure Spot (σ : Type) where
  state : Option σ
  /-- The lexeme under way has to end here. -/
  ended : Bool

variable (L : Lexer σ)

/-- Whether a character opens a lexeme where the state is `o`. -/
def cutsAt (o : Option σ) (c : Char) : Bool := o.all fun st => (L.extend st c).isNone

/-- Reading a piece that may run into its neighbours. -/
def pass (watched : σ → Bool) : Spot σ → List Char → Option (Spot σ)
  | spot, [] => some spot
  | spot, c :: cs =>
    if spot.ended && !L.cutsAt spot.state c then none
    else if (L.step spot.state c).any watched then none
    else pass watched ⟨L.step spot.state c, false⟩ cs

/-- Reading a piece apart. -/
def setApart : Spot σ → List Char → Option (Spot σ)
  | _, [] => none
  | spot, c :: cs => if L.cutsAt spot.state c then some ⟨L.after (c :: cs), true⟩ else none

/-- Reading one piece. -/
def readPiece (watched : σ → Bool) (spot : Spot σ) (p : Piece) : Option (Spot σ) :=
  if p.apart then L.setApart spot p.chars else L.pass watched spot p.chars

/-- Reading some pieces. -/
def along (watched : σ → Bool) : Spot σ → List Piece → Option (Spot σ)
  | spot, [] => some spot
  | spot, p :: ps => (L.readPiece watched spot p).bind fun spot' => along watched spot' ps

/-- In the place of each watched lexeme the next of some texts. -/
def refill (watched : σ → Bool) : List (σ × List Char) → List (List Char) → List Char
  | [], _ => []
  | (st, cs) :: ls, vs => if watched st then vs.headD [] ++ refill watched ls vs.tail else cs ++ refill watched ls vs

/-- The watched lexemes of a text. -/
def marks (watched : σ → Bool) (ls : List (σ × List Char)) : List (List Char) := (ls.filter fun l => watched l.1).map (·.2)

/-- What is made of some pieces when the watched lexemes of those read apart are replaced. -/
def refillPieces (watched : σ → Bool) : List Piece → List (List Char) → List Char
  | [], _ => []
  | p :: ps, vs =>
    if p.apart then refill watched (L.lex p.chars) vs ++ refillPieces watched ps (vs.drop (marks watched (L.lex p.chars)).length)
    else p.chars ++ refillPieces watched ps vs

variable {L} {watched : σ → Bool}

@[simp] theorem Piece.text_nil : Piece.text [] = [] := rfl

@[simp] theorem Piece.text_cons (p : Piece) (ps : List Piece) : Piece.text (p :: ps) = p.chars ++ Piece.text ps := rfl

@[simp] theorem Piece.text_append (ps qs : List Piece) : Piece.text (ps ++ qs) = Piece.text ps ++ Piece.text qs :=
  List.flatMap_append

theorem cutsAt_iff {o : Option σ} {c : Char} : L.cutsAt o c = true ↔ L.Cuts o c := by
  cases o with
  | none => simp [cutsAt, Cuts]
  | some st => simp [cutsAt, Cuts]

/-! ## One piece after the other -/

theorem pass_append (spot : Spot σ) (a b : List Char) :
    L.pass watched spot (a ++ b) = (L.pass watched spot a).bind fun spot' => L.pass watched spot' b := by
  induction a generalizing spot with
  | nil => rfl
  | cons c a ih =>
    simp only [List.cons_append, pass]
    split
    · rfl
    · split
      · rfl
      · exact ih _

theorem along_append (spot : Spot σ) (ps qs : List Piece) :
    L.along watched spot (ps ++ qs) = (L.along watched spot ps).bind fun spot' => L.along watched spot' qs := by
  induction ps generalizing spot with
  | nil => rfl
  | cons p ps ih =>
    simp only [List.cons_append, along]
    cases L.readPiece watched spot p with
    | none => rfl
    | some spot' => exact ih spot'

/-- A piece that is passed leaves the state its text does. -/
theorem state_of_pass {spot spot' : Spot σ} {cs : List Char} (h : L.pass watched spot cs = some spot') :
    spot'.state = cs.foldl L.step spot.state := by
  induction cs generalizing spot with
  | nil => exact congrArg Spot.state (Option.some.inj h).symm
  | cons c cs ih =>
    rw [pass] at h
    split at h
    · cases h
    · split at h
      · cases h
      · exact ih h

theorem ended_of_pass {spot spot' : Spot σ} {cs : List Char} (h : L.pass watched spot cs = some spot') :
    cs = [] ∧ spot' = spot ∨ spot'.ended = false := by
  induction cs generalizing spot with
  | nil => exact .inl ⟨rfl, (Option.some.inj h).symm⟩
  | cons c cs ih =>
    rw [pass] at h
    split at h
    · cases h
    · split at h
      · cases h
      · rcases ih h with ⟨-, rfl⟩ | hended
        · exact .inr rfl
        · exact .inr hended

theorem setApart_eq_some {spot spot' : Spot σ} {cs : List Char} (h : L.setApart spot cs = some spot') :
    ∃ c rest, cs = c :: rest ∧ L.Cuts spot.state c ∧ spot' = ⟨L.after cs, true⟩ := by
  cases cs with
  | nil => cases h
  | cons c cs =>
    rw [setApart] at h
    split at h
    · next hcut => exact ⟨c, cs, rfl, cutsAt_iff.1 hcut, (Option.some.inj h).symm⟩
    · cases h

theorem foldl_of_cuts {o : Option σ} {c : Char} (h : L.Cuts o c) (cs : List Char) :
    (c :: cs).foldl L.step o = L.after (c :: cs) := by
  rw [List.foldl_cons, step_of_cuts h]
  rfl

theorem state_of_readPiece {spot spot' : Spot σ} {p : Piece} (h : L.readPiece watched spot p = some spot') :
    spot'.state = p.chars.foldl L.step spot.state := by
  unfold readPiece at h
  split at h
  · obtain ⟨c, rest, hchars, hcut, rfl⟩ := setApart_eq_some h
    rw [hchars, foldl_of_cuts hcut]
  · exact state_of_pass h

theorem state_of_along {spot spot' : Spot σ} {ps : List Piece} (h : L.along watched spot ps = some spot') :
    spot'.state = (Piece.text ps).foldl L.step spot.state := by
  induction ps generalizing spot with
  | nil => exact congrArg Spot.state (Option.some.inj h).symm
  | cons p ps ih =>
    obtain ⟨mid, hmid, h⟩ := Option.bind_eq_some_iff.1 h
    rw [Piece.text_cons, List.foldl_append, ← state_of_readPiece hmid, ih h]

/-- Behind a lexeme that has to end the next character opens one. -/
theorem cuts_of_pass {o : Option σ} {spot' : Spot σ} {c : Char} {cs : List Char} (h : L.pass watched ⟨o, true⟩ (c :: cs) = some spot') :
    L.Cuts o c := by
  rw [pass] at h
  split at h
  · cases h
  · next hcut =>
    simp only [Bool.true_and, Bool.not_eq_true', Bool.not_eq_false] at hcut
    exact cutsAt_iff.1 hcut

theorem cuts_of_along {o : Option σ} {spot' : Spot σ} {ps : List Piece} (h : L.along watched ⟨o, true⟩ ps = some spot') :
    ∀ c ∈ (Piece.text ps).head?, L.Cuts o c := by
  induction ps with
  | nil =>
    intro c hc
    cases hc
  | cons p ps ih =>
    obtain ⟨mid, hmid, h⟩ := Option.bind_eq_some_iff.1 h
    intro c hc
    unfold readPiece at hmid
    split at hmid
    · obtain ⟨x, rest, hchars, hcut, rfl⟩ := setApart_eq_some hmid
      rw [Piece.text_cons, hchars] at hc
      obtain rfl := Option.some.inj hc
      exact hcut
    · cases hchars : p.chars with
      | nil =>
        rw [hchars] at hmid
        obtain rfl := Option.some.inj hmid
        rw [Piece.text_cons, hchars] at hc
        exact ih h c hc
      | cons x rest =>
        rw [hchars] at hmid
        rw [Piece.text_cons, hchars] at hc
        obtain rfl := Option.some.inj hc
        exact cuts_of_pass hmid

/-- Where a character opens a lexeme, what has been read does not count. -/
theorem pass_of_cuts {spot : Spot σ} {c : Char} (h : L.Cuts spot.state c) (cs : List Char) :
    L.pass watched spot (c :: cs) = L.pass watched ⟨none, false⟩ (c :: cs) := by
  have hstart : L.step spot.state c = L.step none c := step_of_cuts h
  simp [pass, cutsAt_iff.2 h, hstart]

/-! ## Pieces that are read apart -/

/-- A text between two cuts. -/
theorem lex_between {before cs behind : List Char} {c : Char} (hbefore : L.Cuts (L.after before) c)
    (hbehind : ∀ x ∈ behind.head?, L.Cuts (L.after (c :: cs)) x) :
    L.lex (before ++ (c :: cs) ++ behind) = L.lex before ++ L.lex (c :: cs) ++ L.lex behind := by
  rw [List.append_assoc, List.append_assoc, List.cons_append, lex_append hbefore]
  cases behind with
  | nil => simp [lex]
  | cons x behind =>
    have hcut := hbehind x (by simp)
    rw [← List.cons_append, lex_append hcut]

/-- **A piece that is to be read apart is**, wherever it stands. -/
theorem lex_of_along {spot : Spot σ} {before behind : List Piece} {p : Piece} (hp : p.apart = true)
    (h : L.along watched ⟨none, false⟩ (before ++ p :: behind) = some spot) :
    L.lex (Piece.text (before ++ p :: behind)) = L.lex (Piece.text before) ++ L.lex p.chars ++ L.lex (Piece.text behind) := by
  rw [along_append] at h
  obtain ⟨spot₁, hbefore, h⟩ := Option.bind_eq_some_iff.1 h
  obtain ⟨spot₂, hpiece, hbehind⟩ := Option.bind_eq_some_iff.1 h
  rw [readPiece, if_pos hp] at hpiece
  obtain ⟨c, rest, hchars, hcut, rfl⟩ := setApart_eq_some hpiece
  have hstate : spot₁.state = L.after (Piece.text before) := state_of_along hbefore
  rw [hstate] at hcut
  have hnext := cuts_of_along hbehind
  rw [hchars] at hnext
  rw [Piece.text_append, Piece.text_cons, hchars, ← List.append_assoc]
  exact lex_between hcut hnext

/-- The first lexeme goes on with what has been read of it. -/
theorem exists_head_lexFrom (st : σ) (acc cs : List Char) :
    ∃ st' more ls, L.lexFrom st acc cs = (st', acc.reverse ++ more) :: ls := by
  induction cs generalizing st acc with
  | nil => exact ⟨st, [], [], by simp [lexFrom]⟩
  | cons c cs ih =>
    rw [lexFrom]
    cases L.extend st c with
    | some next =>
      obtain ⟨st', more, ls, hls⟩ := ih next (c :: acc)
      exact ⟨st', c :: more, ls, by simp [hls]⟩
    | none => exact ⟨st, [], _, by rw [List.append_nil]⟩

theorem cuts_of_lexFrom {st : σ} {acc a b : List Char} {c : Char} {ls : List (σ × List Char)}
    (h : L.lexFrom st acc (a ++ c :: b) = L.lexFrom st acc a ++ ls) : L.Cuts (a.foldl L.step (some st)) c := by
  induction a generalizing st acc with
  | nil =>
    intro st' hst'
    obtain rfl := Option.some.inj hst'
    cases hnext : L.extend st c with
    | none => rfl
    | some next =>
      obtain ⟨last, more, tail, htail⟩ := exists_head_lexFrom (L := L) next (c :: acc) b
      simp only [List.nil_append, lexFrom, hnext, htail, List.cons_append, List.cons.injEq, Prod.mk.injEq] at h
      have hlen := congrArg List.length h.1.2
      simp at hlen
  | cons x a ih =>
    rw [List.foldl_cons]
    simp only [List.cons_append, lexFrom] at h
    cases hnext : L.extend st x with
    | some next =>
      simp only [hnext] at h
      simp only [step, hnext, Option.getD_some]
      exact ih h
    | none =>
      simp only [hnext, List.cons_append, List.cons.injEq, true_and] at h
      simp only [step, hnext, Option.getD_none]
      exact ih h

/-- Where the lexemes before a place are those of the text before it, a lexeme opens. -/
theorem cuts_of_lex {a b : List Char} {c : Char} {ls : List (σ × List Char)} (h : L.lex (a ++ c :: b) = L.lex a ++ ls) :
    L.Cuts (L.after a) c := by
  cases a with
  | nil =>
    intro st hst
    cases hst
  | cons x a => exact cuts_of_lexFrom h

theorem exists_pass {cs : List Char} : ∀ {spot : Spot σ}, (spot.ended = true → ∀ c ∈ cs.head?, L.Cuts spot.state c) →
    ∃ spot', L.pass (fun _ => false) spot cs = some spot' := by
  induction cs with
  | nil => exact fun {spot} _ => ⟨spot, rfl⟩
  | cons c cs ih =>
    intro spot h
    have hcut : ¬(spot.ended && !L.cutsAt spot.state c) = true := by
      intro hno
      rw [Bool.and_eq_true, Bool.not_eq_true'] at hno
      rw [cutsAt_iff.2 (h hno.1 c (by simp))] at hno
      exact absurd hno.2 (by simp)
    have hfree : ¬((L.step spot.state c).any fun _ => false) = true := by simp
    rw [pass, if_neg hcut, if_neg hfree]
    exact ih fun hno => absurd hno (by simp)

/-- **Pieces that are all read apart can be read**, where nothing is watched. -/
theorem exists_along {pre : List Char} {ended : Bool} {ps : List Piece}
    (hended : ended = true → ∀ c ∈ (Piece.text ps).head?, L.Cuts (L.after pre) c)
    (h : ∀ before p behind, ps = before ++ p :: behind → p.apart = true → p.chars ≠ [] ∧
      L.lex (pre ++ Piece.text ps) = L.lex (pre ++ Piece.text before) ++ L.lex p.chars ++ L.lex (Piece.text behind)) :
    ∃ spot, L.along (fun _ => false) ⟨L.after pre, ended⟩ ps = some spot := by
  induction ps generalizing pre ended with
  | nil => exact ⟨_, rfl⟩
  | cons p ps ih =>
    have hrest : ∀ before q behind, ps = before ++ q :: behind → q.apart = true → q.chars ≠ [] ∧
        L.lex (pre ++ p.chars ++ Piece.text ps) =
          L.lex (pre ++ p.chars ++ Piece.text before) ++ L.lex q.chars ++ L.lex (Piece.text behind) := by
      rintro before q behind rfl hq
      simpa using h (p :: before) q behind rfl hq
    have hafter : p.chars.foldl L.step (L.after pre) = L.after (pre ++ p.chars) := (after_append _ _).symm
    rw [along, readPiece]
    by_cases hp : p.apart = true
    · rw [if_pos hp]
      obtain ⟨hne, hlex⟩ := h [] p ps rfl hp
      obtain ⟨c, rest, hchars⟩ := List.exists_cons_of_ne_nil hne
      simp only [Piece.text_nil, List.append_nil, Piece.text_cons, hchars, List.cons_append, List.append_assoc] at hlex
      have hcut : L.Cuts (L.after pre) c := cuts_of_lex hlex
      rw [hchars, setApart, if_pos (cutsAt_iff.2 hcut), Option.bind_some]
      have hstate : L.after (c :: rest) = L.after (pre ++ p.chars) := by
        rw [← hafter, hchars, foldl_of_cuts hcut]
      rw [hstate]
      refine ih (fun _ x hx => ?_) hrest
      rw [← hstate]
      obtain ⟨behind, hbehind⟩ := List.head?_eq_some_iff.1 hx
      have happart : L.lex (c :: (rest ++ Piece.text ps)) = L.lex (c :: rest) ++ L.lex (Piece.text ps) := by
        rw [lex_append hcut] at hlex
        exact List.append_cancel_left hlex
      rw [hbehind, ← List.cons_append] at happart
      exact cuts_of_lex happart
    · rw [if_neg hp]
      have hhead : ended = true → ∀ c ∈ p.chars.head?, L.Cuts (L.after pre) c := by
        intro hended' c hc
        obtain ⟨rest, hrest⟩ := List.head?_eq_some_iff.1 hc
        exact hended hended' c (by simp [hrest])
      obtain ⟨spot', hpass⟩ : ∃ spot', L.pass (fun _ => false) ⟨L.after pre, ended⟩ p.chars = some spot' := exists_pass hhead
      rw [hpass, Option.bind_some]
      have hstate : spot'.state = L.after (pre ++ p.chars) := (state_of_pass hpass).trans hafter
      rw [show spot' = ⟨L.after (pre ++ p.chars), spot'.ended⟩ by rw [← hstate]]
      refine ih (fun hended' c hc => ?_) hrest
      rcases ended_of_pass hpass with ⟨hchars, rfl⟩ | hno
      · rw [hchars, List.append_nil]
        refine hended hended' c ?_
        rw [Piece.text_cons, hchars]
        exact hc
      · rw [hno] at hended'
        cases hended'

/-! ## Watched lexemes -/

theorem refill_append (ls ls' : List (σ × List Char)) (vs : List (List Char)) :
    refill watched (ls ++ ls') vs = refill watched ls vs ++ refill watched ls' (vs.drop (marks watched ls).length) := by
  induction ls generalizing vs with
  | nil => simp [refill, marks]
  | cons l ls ih =>
    obtain ⟨st, cs⟩ := l
    cases hst : watched st with
    | true => simp [refill, marks, hst, ih, Nat.add_comm]
    | false => simp [refill, marks, hst, ih]

theorem refill_of_unwatched {ls : List (σ × List Char)} (h : ∀ l ∈ ls, watched l.1 = false) (vs : List (List Char)) :
    refill watched ls vs = ls.flatMap (·.2) ∧ marks watched ls = [] := by
  induction ls with
  | nil => exact ⟨rfl, rfl⟩
  | cons l ls ih =>
    obtain ⟨st, cs⟩ := l
    have hst : watched st = false := h (st, cs) List.mem_cons_self
    obtain ⟨hfill, hmarks⟩ := ih fun l hl => h l (List.mem_cons_of_mem _ hl)
    constructor
    · simp [refill, hst, hfill]
    · simpa [marks, hst] using hmarks

/-- One more character changes the last lexeme at most. -/
theorem mem_lexFrom_concat {st : σ} {acc cs : List Char} {c : Char} {l : σ × List Char} (hl : l ∈ L.lexFrom st acc (cs ++ [c])) :
    (∃ l' ∈ L.lexFrom st acc cs, l'.1 = l.1) ∨ some l.1 = L.step (cs.foldl L.step (some st)) c := by
  induction cs generalizing st acc with
  | nil =>
    simp only [List.nil_append, lexFrom] at hl
    simp only [List.foldl_nil, step]
    cases hnext : L.extend st c with
    | some next =>
      simp only [hnext, List.mem_singleton] at hl
      exact .inr (by rw [hl]; rfl)
    | none =>
      simp only [hnext, List.mem_cons, List.not_mem_nil, or_false] at hl
      rcases hl with rfl | rfl
      · exact .inl ⟨(st, acc.reverse), List.mem_singleton.2 rfl, rfl⟩
      · exact .inr rfl
  | cons x cs ih =>
    simp only [List.cons_append, lexFrom, List.foldl_cons, step] at hl ⊢
    cases hnext : L.extend st x with
    | some next =>
      simp only [hnext] at hl
      exact ih hl
    | none =>
      simp only [hnext, List.mem_cons] at hl
      rcases hl with rfl | hl
      · exact .inl ⟨_, List.mem_cons_self, rfl⟩
      · obtain ⟨l', hl', heq⟩ | hlast := ih hl
        · exact .inl ⟨l', List.mem_cons_of_mem _ hl', heq⟩
        · exact .inr hlast

theorem unwatched_concat {cs : List Char} {c : Char} (h : ∀ l ∈ L.lex cs, watched l.1 = false)
    (hc : (L.step (L.after cs) c).any watched = false) : ∀ l ∈ L.lex (cs ++ [c]), watched l.1 = false := by
  intro l hl
  have hcases : (∃ l' ∈ L.lex cs, l'.1 = l.1) ∨ some l.1 = L.step (L.after cs) c := by
    cases cs with
    | nil =>
      obtain rfl := List.mem_singleton.1 hl
      exact .inr rfl
    | cons x cs => exact mem_lexFrom_concat hl
  obtain ⟨l', hl', heq⟩ | hlast := hcases
  · rw [← heq]
    exact h l' hl'
  · rw [← hlast] at hc
    exact hc

/-- Nothing watched comes up in a piece that is passed. -/
theorem unwatched_of_pass {pre cs : List Char} {ended : Bool} {spot : Spot σ} (hpre : ∀ l ∈ L.lex pre, watched l.1 = false)
    (h : L.pass watched ⟨L.after pre, ended⟩ cs = some spot) : ∀ l ∈ L.lex (pre ++ cs), watched l.1 = false := by
  induction cs generalizing pre ended with
  | nil => simpa using hpre
  | cons c cs ih =>
    rw [pass] at h
    split at h
    · cases h
    · split at h
      · cases h
      · next hfree =>
        have hone : L.after (pre ++ [c]) = L.step (L.after pre) c := after_append pre [c]
        rw [show (⟨L.step (L.after pre) c, false⟩ : Spot σ) = ⟨L.after (pre ++ [c]), false⟩ by rw [hone]] at h
        have hrest := ih (unwatched_concat hpre (Bool.eq_false_iff.2 hfree)) h
        simpa using hrest

/-- Behind a lexeme that has to end the reading starts anew. -/
theorem along_anew {o : Option σ} {spot : Spot σ} {ps : List Piece} (h : L.along watched ⟨o, true⟩ ps = some spot) :
    ∃ spot', L.along watched ⟨none, false⟩ ps = some spot' := by
  induction ps with
  | nil => exact ⟨_, rfl⟩
  | cons p ps ih =>
    obtain ⟨mid, hmid, h⟩ := Option.bind_eq_some_iff.1 h
    rw [along]
    unfold readPiece at hmid ⊢
    by_cases hp : p.apart = true
    · rw [if_pos hp] at hmid ⊢
      obtain ⟨c, rest, hchars, hcut, rfl⟩ := setApart_eq_some hmid
      rw [hchars] at h ⊢
      exact ⟨spot, h⟩
    · rw [if_neg hp] at hmid ⊢
      cases hchars : p.chars with
      | nil =>
        rw [hchars] at hmid
        obtain rfl := Option.some.inj hmid
        exact ih h
      | cons c cs =>
        rw [hchars] at hmid
        have hsame := @pass_of_cuts _ L watched ⟨o, true⟩ c (cuts_of_pass hmid) cs
        rw [← hsame, hmid]
        exact ⟨spot, h⟩

/-- **The watched lexemes of a text are those of the pieces read apart**, and replacing them replaces
them there. -/
theorem watched_of_along {pre : List Char} {spot : Spot σ} {ps : List Piece} (hpre : ∀ l ∈ L.lex pre, watched l.1 = false)
    (h : L.along watched ⟨L.after pre, false⟩ ps = some spot) :
    marks watched (L.lex (pre ++ Piece.text ps)) = (ps.filter (·.apart)).flatMap (fun p => marks watched (L.lex p.chars)) ∧
      ∀ vs, refill watched (L.lex (pre ++ Piece.text ps)) vs = pre ++ L.refillPieces watched ps vs := by
  induction ps generalizing pre spot with
  | nil =>
    have hfill := refill_of_unwatched hpre
    simp only [Piece.text_nil, List.append_nil]
    refine ⟨(hfill []).2, fun vs => ?_⟩
    rw [(hfill vs).1, flatten_lex]
    simp [refillPieces]
  | cons p ps ih =>
    obtain ⟨mid, hmid, h⟩ := Option.bind_eq_some_iff.1 h
    by_cases hp : p.apart = true
    · rw [readPiece, if_pos hp] at hmid
      obtain ⟨c, rest, hchars, hcut, rfl⟩ := setApart_eq_some hmid
      have hnext := cuts_of_along h
      obtain ⟨spot', hanew⟩ := along_anew h
      obtain ⟨hmarks, hfill⟩ := @ih [] _ (fun _ hl => absurd hl List.not_mem_nil) hanew
      rw [hchars] at hnext
      have hlex : L.lex (pre ++ (p.chars ++ Piece.text ps)) = L.lex pre ++ L.lex p.chars ++ L.lex (Piece.text ps) := by
        rw [hchars, ← List.append_assoc]
        exact lex_between hcut hnext
      have hbefore := refill_of_unwatched hpre
      rw [Piece.text_cons, hlex]
      constructor
      · rw [List.filter_cons_of_pos hp, List.flatMap_cons, ← hmarks, List.nil_append]
        simp only [marks, List.filter_append, List.map_append]
        rw [show (L.lex pre).filter (fun l => watched l.1) = [] from by simpa [marks] using (hbefore []).2]
        rfl
      · intro vs
        have hrest := hfill (vs.drop (marks watched (L.lex p.chars)).length)
        simp only [List.nil_append] at hrest
        rw [List.append_assoc, refill_append, (hbefore vs).1, (hbefore vs).2, flatten_lex, refill_append, refillPieces, if_pos hp]
        simp [hrest]
    · rw [readPiece, if_neg hp] at hmid
      have hunwatched := unwatched_of_pass hpre hmid
      have hstate : mid.state = L.after (pre ++ p.chars) := (state_of_pass hmid).trans (after_append _ _).symm
      have hended : mid.ended = false := by
        rcases ended_of_pass hmid with ⟨-, rfl⟩ | hended
        · rfl
        · exact hended
      have hmid' : mid = ⟨L.after (pre ++ p.chars), false⟩ := by rw [← hstate, ← hended]
      rw [hmid'] at h
      obtain ⟨hmarks, hfill⟩ := ih hunwatched h
      rw [Piece.text_cons, ← List.append_assoc]
      refine ⟨?_, fun vs => ?_⟩
      · rw [hmarks, List.filter_cons_of_neg hp]
      · rw [hfill, refillPieces, if_neg hp, List.append_assoc]

end Lexer
