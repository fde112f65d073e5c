import GraphNight.Sql.PieceTokens

/-!
# Text that is left open

A quote, a comment or a dollar literal that is not closed goes on over brackets, blanks and words, and
takes in the name behind it.
-/

namespace GraphNight

open SqlText

namespace LexState

/-- A quote or backslash state is one of a delimiter the dialects have. -/
def delimited : LexState → Bool
  | .quoted q _ | .escaped q | .closed q _ => q ∈ ['\'', '"', '\x60']
  | _ => true

/-- The lexeme under way goes on over ordinary text. -/
def held : LexState → Bool
  | .quoted q _ | .escaped q => q ∈ ['\'', '"', '\x60']
  | .bracket | .lineComment | .commentOpened | .comment _ _ | .dollarBody _ _ | .unread => true
  | _ => false

end LexState

/-- A character that ends nothing that is open. -/
def dull (c : Char) : Bool := c ∉ ['\'', '"', '\x60', ']', '\n', '\r', '/', '$']

/-- Ordinary text, up to the next name. -/
def dullToName : SqlText → Bool
  | [] => false
  | .code x :: t => x.toList.all dull && dullToName t
  | _ :: _ => true

section

variable {d : Dialect} {st st' : LexState} {c : Char}

theorem delimited_ite {p : Prop} [Decidable p] {st st' : LexState} (h : p → st.delimited = true) (h' : ¬p → st'.delimited = true) :
    (if p then st else st').delimited = true := by
  split_ifs with hp
  · exact h hp
  · exact h' hp

theorem delimited_start (d : Dialect) (c : Char) : (d.lexRules.start c).delimited = true := by
  have hquotes : ∀ c ∈ d.lexRules.quotes, decide (c ∈ ['\'', '"', '\x60']) = true := List.all_eq_true.1 (by cases d <;> decide)
  unfold LexRules.start
  refine delimited_ite (fun _ => rfl) fun _ => delimited_ite (fun _ => rfl) fun _ => delimited_ite (fun _ => rfl) fun _ =>
    delimited_ite (fun _ => rfl) fun _ => delimited_ite (fun _ => rfl) fun _ => delimited_ite (fun hc => hquotes c hc) fun _ => ?_
  exact delimited_ite (fun _ => rfl) fun _ => delimited_ite (fun _ => rfl) fun _ => delimited_ite (fun _ => rfl) fun _ =>
    delimited_ite (fun _ => rfl) fun _ => delimited_ite (fun _ => rfl) fun _ => delimited_ite (fun _ => by cases d <;> rfl) fun _ =>
    delimited_ite (fun _ => rfl) fun _ => delimited_ite (fun _ => rfl) fun _ => rfl

theorem delimited_of_guard {p : Prop} [Decidable p] {st : LexState} (hst : st.delimited = true) (h : (if p then some st else none) = some st') :
    st'.delimited = true := by
  split_ifs at h
  exact Option.some.inj h ▸ hst

theorem delimited_of_unlessNul (hst : st.delimited = true) (h : LexRules.unlessNul c st = some st') : st'.delimited = true :=
  Option.some.inj h ▸ delimited_ite (fun _ => rfl) fun _ => hst

theorem delimited_extendComment (r : LexRules) (depth : Nat) (previous c : Char) : (r.extendComment depth previous c).delimited = true :=
  delimited_ite (fun _ => delimited_ite (fun _ => rfl) fun _ => rfl) fun _ => delimited_ite (fun _ => rfl) fun _ => rfl

theorem delimited_extendDollarBody (tag : List Char) (candidate : Option (List Char)) (c : Char) :
    (LexRules.extendDollarBody tag candidate c).delimited = true := by
  refine delimited_ite (fun _ => delimited_ite (fun _ => rfl) fun _ => rfl) fun _ => ?_
  cases candidate <;> rfl

theorem delimited_extend (hst : st.delimited = true) (h : d.lexRules.extend st c = some st') : st'.delimited = true := by
  cases st with
  | quoted q backslash =>
    have h' : (if c = '\x00' ∧ q ∉ d.lexRules.nulInside then some LexState.unread else if c = q then some (.closed q backslash)
      else if backslash && c == '\\' then some (.escaped q) else some (.quoted q backslash)) = some st' := h
    split_ifs at h'
    · exact Option.some.inj h' ▸ rfl
    all_goals exact Option.some.inj h' ▸ hst
  | escaped q =>
    have h' : (if c = '\x00' ∧ q ∉ d.lexRules.nulInside then some LexState.unread else some (.quoted q true)) = some st' := h
    split_ifs at h'
    · exact Option.some.inj h' ▸ rfl
    · exact Option.some.inj h' ▸ hst
  | closed q backslash =>
    have h' : (if c = q then some (LexState.quoted q backslash) else none) = some st' := h
    split_ifs at h'
    exact Option.some.inj h' ▸ hst
  | letterE =>
    have h' : (if c = '\'' then some (LexState.quoted c true) else if Sql.wordPart c then some .word else none) = some st' := h
    split_ifs at h' with hquote
    · exact Option.some.inj h' ▸ decide_eq_true (by simp [hquote])
    · exact Option.some.inj h' ▸ rfl
  | number phase =>
    have h' : LexRules.extendNumber phase c = some st' := h
    unfold LexRules.extendNumber at h'
    split_ifs at h' <;> exact Option.some.inj h' ▸ rfl
  | commentOpened =>
    have h' : (if d.lexRules.executed && c == '!' then some LexState.unread else LexRules.unlessNul c (d.lexRules.extendComment 1 ' ' c)) = some st' := h
    split_ifs at h'
    · exact Option.some.inj h' ▸ rfl
    · exact delimited_of_unlessNul (delimited_extendComment _ _ _ _) h'
  | comment depth previous => exact delimited_of_unlessNul (delimited_extendComment _ _ _ _) h
  | dollarBody tag candidate => exact delimited_of_unlessNul (delimited_extendDollarBody _ _ _) h
  | minus =>
    have h' : (if c = '-' then some (if d.lexRules.dashBlank then LexState.minuses else .lineComment) else none) = some st' := h
    split_ifs at h' <;> exact Option.some.inj h' ▸ rfl
  | bracket =>
    have hopen : (if c = ']' then LexState.bracketClosed else .bracket).delimited = true := delimited_ite (fun _ => rfl) fun _ => rfl
    exact delimited_of_unlessNul hopen h
  | lineComment =>
    have h' : (if c ∈ d.lexRules.lineEnds then none else LexRules.unlessNul c .lineComment) = some st' := h
    split_ifs at h'
    exact delimited_of_unlessNul rfl h'
  | dollar =>
    have h' : (if Str.isAsciiDigit c then some (LexState.param false) else if c = '$' then some (.dollarBody [] none)
      else if Sql.wordStart c then some (.tag [c]) else none) = some st' := h
    split_ifs at h' <;> exact Option.some.inj h' ▸ rfl
  | tag name =>
    have h' : (if c = '$' then some (LexState.dollarBody name none) else if Sql.wordPart c then some (.tag (name ++ [c])) else none) = some st' := h
    split_ifs at h' <;> exact Option.some.inj h' ▸ rfl
  | param named =>
    have h' : (if (named && Sql.wordPart c) || (!named && d.lexRules.numbered && Str.isAsciiDigit c) then some (LexState.param named)
      else if named && c == '(' then some .unread else none) = some st' := h
    split_ifs at h' <;> exact Option.some.inj h' ▸ rfl
  | unread => exact Option.some.inj h ▸ rfl
  | blank | word | junk | point | minuses | slash | sigil => exact delimited_of_guard rfl h
  | bracketClosed | commentClosed | dollarClosed | symbol => cases h

theorem held_of_unlessNul (hst : st.held = true) : ∃ st', LexRules.unlessNul c st = some st' ∧ st'.held = true := by
  refine ⟨_, rfl, ?_⟩
  split_ifs
  · rfl
  · exact hst

theorem held_extendComment (r : LexRules) (depth : Nat) (previous : Char) (hc : c ≠ '/') : (r.extendComment depth previous c).held = true := by
  unfold LexRules.extendComment
  rw [if_neg fun hclose => hc hclose.2]
  split_ifs <;> rfl

theorem held_extend (hst : st.held = true) (hc : dull c = true) : ∃ st', d.lexRules.extend st c = some st' ∧ st'.held = true := by
  have hne : ∀ x ∈ ['\'', '"', '\x60', ']', '\n', '\r', '/', '$'], c ≠ x := fun x hx hcx => of_decide_eq_true hc (hcx ▸ hx)
  have hcomment : ∀ depth previous, (d.lexRules.extendComment depth previous c).held = true := fun _ _ => held_extendComment _ _ _ (hne '/' (by simp))
  cases st with
  | quoted q backslash =>
    have hq : c ≠ q := by
      have hmem : q ∈ ['\'', '"', '\x60'] := of_decide_eq_true hst
      exact hne q (by simp only [List.mem_cons, List.not_mem_nil, or_false] at hmem ⊢; tauto)
    simp only [LexRules.extend, if_neg hq]
    split_ifs
    · exact ⟨_, rfl, rfl⟩
    · exact ⟨_, rfl, hst⟩
    · exact ⟨_, rfl, hst⟩
  | escaped q =>
    simp only [LexRules.extend]
    split_ifs
    · exact ⟨_, rfl, rfl⟩
    · exact ⟨_, rfl, hst⟩
  | bracket =>
    simp only [LexRules.extend, if_neg (hne ']' (by simp))]
    exact held_of_unlessNul rfl
  | lineComment =>
    have hline : c ∉ d.lexRules.lineEnds := by
      intro hmem
      have hends : ∀ x ∈ d.lexRules.lineEnds, decide (x = '\n' ∨ x = '\r') = true := List.all_eq_true.1 (by cases d <;> decide)
      exact (of_decide_eq_true (hends c hmem)).elim (hne '\n' (by simp)) (hne '\r' (by simp))
    simp only [LexRules.extend, if_neg hline]
    exact held_of_unlessNul rfl
  | commentOpened =>
    simp only [LexRules.extend]
    split_ifs
    · exact ⟨_, rfl, rfl⟩
    · exact held_of_unlessNul (hcomment 1 ' ')
  | comment depth previous => exact held_of_unlessNul (hcomment depth previous)
  | dollarBody tag candidate =>
    refine held_of_unlessNul ?_
    unfold LexRules.extendDollarBody
    rw [if_neg (hne '$' (by simp))]
    cases candidate <;> rfl
  | unread => exact ⟨_, rfl, rfl⟩
  | _ => cases hst

/-- What goes on over a bracket is held open behind it. -/
theorem held_of_extend_bracket (hc : c = '(' ∨ c = ')') (hst : st.delimited = true) (h : d.lexRules.extend st c = some st') : st'.held = true := by
  have hdull : dull c = true := by rcases hc with rfl | rfl <;> decide
  have hgoes : st.held = true → st'.held = true := by
    intro hheld
    obtain ⟨next, hnext, hnextHeld⟩ := held_extend (d := d) hheld hdull
    exact Option.some.inj (hnext.symm.trans h) ▸ hnextHeld
  cases st with
  | quoted | escaped => exact hgoes hst
  | bracket | lineComment | commentOpened | comment | dollarBody | unread => exact hgoes rfl
  | closed q backslash =>
    have h' : (if c = q then some (LexState.quoted q backslash) else none) = some st' := h
    split_ifs at h' with hq
    subst hq
    rcases hc with rfl | rfl <;> cases hst
  | number phase =>
    have hnone : d.lexRules.extend (.number phase) c = none := by rcases hc with rfl | rfl <;> cases phase <;> cases d <;> decide
    rw [hnone] at h
    cases h
  | param named =>
    have h' : (if (named && Sql.wordPart c) || (!named && d.lexRules.numbered && Str.isAsciiDigit c) then some (LexState.param named)
      else if named && c == '(' then some .unread else none) = some st' := h
    have hno : ¬((named && Sql.wordPart c) || (!named && d.lexRules.numbered && Str.isAsciiDigit c)) = true := by
      rcases hc with rfl | rfl <;> cases named <;> cases d <;> decide
    rw [if_neg hno] at h'
    split_ifs at h'
    exact Option.some.inj h' ▸ rfl
  | tag name =>
    have h' : (if c = '$' then some (LexState.dollarBody name none) else if Sql.wordPart c then some (.tag (name ++ [c])) else none) = some st' := h
    split_ifs at h' with hdollar hword
    · rcases hc with rfl | rfl <;> exact absurd hdollar (by decide)
    · rcases hc with rfl | rfl <;> exact absurd hword (by decide)
  | symbol x => cases h
  | _ => rcases hc with rfl | rfl <;> cases d <;> cases h

/-- Nothing but the end of a line ends what is held open at once. -/
theorem extends_of_held (hst : st.held = true) (hn : c ≠ '\n') (hr : c ≠ '\r') : (d.lexRules.extend st c).isSome = true := by
  cases st with
  | quoted q backslash =>
    simp only [LexRules.extend]
    split_ifs <;> rfl
  | escaped q =>
    simp only [LexRules.extend]
    split_ifs <;> rfl
  | lineComment =>
    have hends : ∀ x ∈ d.lexRules.lineEnds, decide (x = '\n' ∨ x = '\r') = true := List.all_eq_true.1 (by cases d <;> decide)
    have hline : c ∉ d.lexRules.lineEnds := fun hmem => (of_decide_eq_true (hends c hmem)).elim hn hr
    simp only [LexRules.extend, if_neg hline]
    rfl
  | commentOpened =>
    simp only [LexRules.extend]
    split_ifs <;> rfl
  | bracket | comment | dollarBody | unread => rfl
  | _ => cases hst

/-! ## What is left open swallows the name behind it -/

/-- From within what is held open, the next name is not read apart. -/
theorem reads_of_held {t : SqlText} (hst : st.held = true) (ht : dullToName t = true)
    (hnames : ∀ f ∈ t, Reading.names.apart f = true → ∃ c ∈ (d.renderFrag f).toList.head?, c ≠ '\n' ∧ c ≠ '\r') :
    reads .names d ⟨some st, false⟩ t = none := by
  induction t generalizing st with
  | nil => cases ht
  | cons f t ih =>
    have hrest := fun f hf => hnames f (List.mem_cons_of_mem _ hf)
    rw [show f :: t = [f] ++ t from rfl, reads_append]
    by_cases hcode : ∃ x, f = .code x
    · obtain ⟨x, rfl⟩ := hcode
      obtain ⟨hdull, ht⟩ := Bool.and_eq_true_iff.1 ht
      have hpass : ∀ cs : List Char, (∀ c ∈ cs, dull c = true) → ∀ st : LexState, st.held = true →
          ∃ st', d.lexRules.lexer.pass Reading.names.watched ⟨some st, false⟩ cs = some ⟨some st', false⟩ ∧ st'.held = true := by
        intro cs
        induction cs with
        | nil => exact fun _ st hst => ⟨st, rfl, hst⟩
        | cons c cs ihc =>
          intro hcs st hst
          obtain ⟨hc, hcs⟩ := List.forall_mem_cons.1 hcs
          obtain ⟨mid, hmid, hheld⟩ := held_extend (d := d) hst hc
          obtain ⟨st', hst', hheld'⟩ := ihc hcs mid hheld
          have hstep : d.lexRules.lexer.step (some st) c = some mid := by
            show some ((d.lexRules.extend st c).getD (d.lexRules.start c)) = _
            rw [hmid]
            rfl
          refine ⟨st', ?_, hheld'⟩
          rw [Lexer.pass, hstep]
          exact hst'
      obtain ⟨st', hst', hheld⟩ := hpass x.toList (List.all_eq_true.1 hdull) st hst
      rw [show [Frag.code x] = code x from rfl, reads_code, hst']
      exact ih hheld ht hrest
    · have hapart : Reading.names.apart f = true := by
        cases f with
        | code x => exact absurd ⟨x, rfl⟩ hcode
        | _ => rfl
      obtain ⟨c, hc, hn, hr⟩ := hnames f List.mem_cons_self hapart
      obtain ⟨cs, hchars⟩ := List.head?_eq_some_iff.1 hc
      have hcut : d.lexRules.lexer.cutsAt (some st) c = false := by
        have hextends : (d.lexRules.lexer.extend st c).isSome = true := extends_of_held hst hn hr
        simp [Lexer.cutsAt, hextends]
      rw [reads_singleton, Lexer.readPiece, if_pos hapart, hchars, Lexer.setApart, if_neg (by simp [hcut])]
      rfl

theorem delimited_step {o : Option LexState} (ho : ∀ st, o = some st → st.delimited = true) (c : Char) :
    ∀ st, d.lexRules.lexer.step o c = some st → st.delimited = true := by
  intro st hst
  cases o with
  | none => exact Option.some.inj hst ▸ delimited_start d c
  | some mid =>
    have hstep : some ((d.lexRules.extend mid c).getD (d.lexRules.start c)) = some st := hst
    rw [← Option.some.inj hstep]
    cases hextend : d.lexRules.extend mid c with
    | none => exact delimited_start d c
    | some next => exact delimited_extend (ho mid rfl) hextend

theorem delimited_foldl {cs : List Char} {o : Option LexState} (ho : ∀ st, o = some st → st.delimited = true) :
    ∀ st, cs.foldl d.lexRules.lexer.step o = some st → st.delimited = true := by
  induction cs generalizing o with
  | nil => exact ho
  | cons c cs ih => exact ih (delimited_step ho c)

/-- **Where the next name is read apart**, the text before it leaves nothing open before its bracket. -/
theorem closed_of_reads {mid spot' : Spot} {x bracket : String} {t : SqlText} (hmid : mid.ready = true) (hc : c = '(' ∨ c = ')')
    (hbracket : bracket.toList = [c]) (ht : dullToName t = true)
    (hnames : ∀ f ∈ t, Reading.names.apart f = true → ∃ c ∈ (d.renderFrag f).toList.head?, c ≠ '\n' ∧ c ≠ '\r')
    (h : reads .names d mid (code x ++ (code bracket ++ t)) = some spot') : Reading.closedBefore .names d c x = true := by
  obtain ⟨⟨state, ended⟩, hpassed⟩ := @Lexer.exists_pass _ d.lexRules.lexer x.toList ⟨none, false⟩ (fun hno => by cases hno)
  have hclosed : Reading.closedBefore .names d c x = Spot.anew d ⟨state, ended⟩ c := congrArg (Option.any fun spot => Spot.anew d spot c) hpassed
  have hended : ended = false := by
    rcases Lexer.ended_of_pass hpassed with ⟨-, hsame⟩ | hended
    · exact congrArg Lexer.Spot.ended hsame
    · exact hended
  subst hended
  have hstate := Lexer.state_of_pass hpassed
  rw [hclosed]
  by_contra hopen
  cases state with
  | none => exact hopen (by simp [Spot.anew, Lexer.step])
  | some st =>
    have hdelimited : st.delimited = true := delimited_foldl (fun _ hno => by cases hno) st hstate.symm
    obtain ⟨next, hnext⟩ : ∃ next, d.lexRules.extend st c = some next := by
      rw [← Option.isSome_iff_exists]
      by_contra hno
      have hcuts : d.lexRules.lexer.Cuts (some st) c := fun st' hst' => Option.some.inj hst' ▸ Option.not_isSome_iff_eq_none.1 hno
      exact hopen (by simp [Spot.anew, Lexer.step_of_cuts hcuts])
    have hheld := held_of_extend_bracket hc hdelimited hnext
    obtain ⟨y, ys, hchars⟩ : ∃ y ys, x.toList = y :: ys := by
      cases hchars : x.toList with
      | nil =>
        rw [hchars] at hstate
        cases hstate
      | cons y ys => exact ⟨y, ys, rfl⟩
    have hpass : d.lexRules.lexer.pass Reading.names.watched mid x.toList = some ⟨some st, false⟩ := by
      rw [hchars] at hpassed ⊢
      rw [pass_of_anew (anew_of_ready hmid y)]
      exact hpassed
    have hbehind : d.lexRules.lexer.pass Reading.names.watched ⟨some st, false⟩ [c] = some ⟨some next, false⟩ := by
      have hstep : d.lexRules.lexer.step (some st) c = some next := by
        show some ((d.lexRules.extend st c).getD (d.lexRules.start c)) = _
        rw [hnext]
        rfl
      rw [Lexer.pass, hstep]
      rfl
    rw [reads_append, reads_code, hpass, Option.bind_some, reads_append, reads_code, hbracket, hbehind, Option.bind_some,
      reads_of_held hheld ht hnames] at h
    cases h

end

end GraphNight
