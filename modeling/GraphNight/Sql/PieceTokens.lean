import GraphNight.Lib.Pieces
import GraphNight.Sql.Paging
import GraphNight.Sql.QuotedTokens
import GraphNight.Sql.TimeBuckets

/-!
# The pieces of a statement as the databases read them

Two readings of a statement from its pieces. One keeps every name and every number apart from the
generator's own text, the other watches that no placeholder comes up but those the generator writes.
A builder's text leads from one kind of place to another under both.
-/

namespace GraphNight

open SqlText

/-- A placeholder, or what may hold one. -/
def LexState.isParam : LexState → Bool
  | .param _ | .unread => true
  | _ => false

/-- What is looked for in a statement. -/
inductive Reading where
  /-- Everything but the generator's own text is read apart. -/
  | names
  /-- No placeholder comes up but the generator's, which are read apart. -/
  | binds
deriving DecidableEq, Repr

namespace Reading

def apart : Reading → Frag → Bool
  | names, .code _ => false
  | names, _ => true
  | binds, .param _ => true
  | binds, _ => false

def watched : Reading → LexState → Bool
  | names, _ => false
  | binds, st => st.isParam

end Reading

/-- The pieces of a text, as they are rendered. -/
def Dialect.pieces (d : Dialect) (k : Reading) (t : SqlText) : List Lexer.Piece :=
  t.map fun f => ⟨k.apart f, (d.renderFrag f).toList⟩

/-- A place in a statement. -/
abbrev Spot := Lexer.Spot LexState

namespace Spot

/-- Where nothing has been read. -/
def first (spot : Spot) : Bool := !spot.ended && spot.state.isNone

/-- Behind a blank, a bracket or a comma. -/
def ready (spot : Spot) : Bool :=
  !spot.ended &&
    match spot.state with
    | some .blank | some (.symbol _) => true
    | _ => false

/-- Behind the dot of a qualified name. -/
def dotted (spot : Spot) : Bool :=
  !spot.ended &&
    match spot.state with
    | some .point | some (.number .frac) => true
    | _ => false

/-- A character is read as where nothing stands before it. -/
def anew (d : Dialect) (spot : Spot) (c : Char) : Bool :=
  d.lexRules.lexer.step spot.state c == some (d.lexRules.lexer.start c) && (!spot.ended || d.lexRules.lexer.cutsAt spot.state c)

/-- What ends a name, a number or a literal. -/
def stops : List Char := [' ', '(', ')', ',']

/-- Behind a lexeme that a blank, a bracket or a comma ends. -/
def stopped (d : Dialect) (spot : Spot) : Bool := stops.all (spot.anew d)

/-- Behind a qualifier, which a dot ends as well. -/
def qualifies (d : Dialect) (spot : Spot) : Bool :=
  spot.stopped d && (d.lexRules.lexer.step spot.state '.').any (fun st => dotted ⟨some st, false⟩) &&
    (!spot.ended || d.lexRules.lexer.cutsAt spot.state '.')

end Spot

section

variable (k : Reading) (d : Dialect)

/-- Reading a text from a place on. -/
def reads (spot : Spot) (t : SqlText) : Option Spot := d.lexRules.lexer.along k.watched spot (d.pieces k t)

/-- A text leads from places of one kind to places of another. -/
def Leads (P : Spot → Bool) (t : SqlText) (Q : Spot → Bool) : Prop :=
  ∀ spot, P spot = true → ∃ spot', reads k d spot t = some spot' ∧ Q spot' = true

/-- The place behind a text that stands alone. -/
def passed (x : String) : Option Spot := d.lexRules.lexer.pass k.watched ⟨none, false⟩ x.toList

end

section

variable {k : Reading} {d : Dialect} {P Q R : Spot → Bool} {t u : SqlText}

theorem text_pieces (k : Reading) (d : Dialect) (t : SqlText) : Lexer.Piece.text (d.pieces k t) = (d.render t).toList := by
  induction t with
  | nil => rfl
  | cons f t ih =>
    rw [Dialect.render_cons, String.toList_append, ← ih]
    rfl

theorem pieces_append (k : Reading) (d : Dialect) (t u : SqlText) : d.pieces k (t ++ u) = d.pieces k t ++ d.pieces k u :=
  List.map_append

theorem reads_append (spot : Spot) (t u : SqlText) : reads k d spot (t ++ u) = (reads k d spot t).bind fun spot' => reads k d spot' u := by
  rw [reads, pieces_append, Lexer.along_append]
  rfl

theorem reads_singleton (spot : Spot) (f : Frag) :
    reads k d spot [f] = d.lexRules.lexer.readPiece k.watched spot ⟨k.apart f, (d.renderFrag f).toList⟩ := by
  rw [reads]
  show (d.lexRules.lexer.readPiece _ _ _).bind _ = _
  cases d.lexRules.lexer.readPiece k.watched spot ⟨k.apart f, (d.renderFrag f).toList⟩ <;> rfl

namespace Leads

theorem nil (P : Spot → Bool) : Leads k d P [] P := fun spot hspot => ⟨spot, rfl, hspot⟩

theorem append (ht : Leads k d P t Q) (hu : Leads k d Q u R) : Leads k d P (t ++ u) R := by
  intro spot hspot
  obtain ⟨mid, hmid, hQ⟩ := ht spot hspot
  obtain ⟨spot', hspot', hR⟩ := hu mid hQ
  refine ⟨spot', ?_, hR⟩
  rw [reads_append, hmid]
  exact hspot'

theorem from_mono {P' : Spot → Bool} (ht : Leads k d P t Q) (h : ∀ spot, P' spot = true → P spot = true) : Leads k d P' t Q :=
  fun spot hspot => ht spot (h spot hspot)

theorem to_mono {Q' : Spot → Bool} (ht : Leads k d P t Q) (h : ∀ spot, Q spot = true → Q' spot = true) : Leads k d P t Q' := by
  intro spot hspot
  obtain ⟨spot', hspot', hQ⟩ := ht spot hspot
  exact ⟨spot', hspot', h spot' hQ⟩

end Leads

namespace Spot

theorem ready_cases {spot : Spot} (h : spot.ready = true) : spot = ⟨some .blank, false⟩ ∨ ∃ c, spot = ⟨some (.symbol c), false⟩ := by
  obtain ⟨state, ended⟩ := spot
  cases ended with
  | true => cases h
  | false =>
    cases state with
    | none => cases h
    | some st =>
      cases st with
      | blank => exact .inl rfl
      | symbol c => exact .inr ⟨c, rfl⟩
      | _ => cases h

theorem stopped_of_ready {spot : Spot} (h : spot.ready = true) : spot.stopped d = true := by
  obtain rfl | ⟨c, rfl⟩ := ready_cases h
  · cases d <;> decide
  · cases d <;> rfl

theorem anew_of_stopped {spot : Spot} (h : spot.stopped d = true) {c : Char} (hc : c ∈ stops) : spot.anew d c = true := by
  exact List.all_eq_true.1 h c hc

theorem qualifies_of_ready {spot : Spot} (h : spot.ready = true) : spot.qualifies d = true := by
  obtain rfl | ⟨c, rfl⟩ := ready_cases h
  · cases d <;> decide
  · cases d <;> rfl

theorem stopped_of_qualifies {spot : Spot} (h : spot.qualifies d = true) : spot.stopped d = true := by
  simp only [qualifies, Bool.and_eq_true] at h
  exact h.1.1

end Spot

/-! ## Text of the generator -/

theorem step_blank (c : Char) : d.lexRules.lexer.step (some .blank) c = some (d.lexRules.lexer.start c) := by
  show some ((d.lexRules.extend .blank c).getD (d.lexRules.start c)) = some (d.lexRules.start c)
  by_cases hblank : Sql.isBlank c = true
  · rw [LexRules.extend, if_pos hblank, LexRules.start_of_blank hblank]
    rfl
  · rw [LexRules.extend, if_neg hblank]
    rfl

/-- Where a character is read anew, what was read before does not count. -/
theorem pass_of_anew {spot : Spot} {c : Char} (h : spot.anew d c = true) (cs : List Char) :
    d.lexRules.lexer.pass k.watched spot (c :: cs) = d.lexRules.lexer.pass k.watched ⟨none, false⟩ (c :: cs) := by
  simp only [Spot.anew, Bool.and_eq_true, beq_iff_eq, Bool.or_eq_true, Bool.not_eq_true'] at h
  obtain ⟨hstep, hcut⟩ := h
  have hends : (spot.ended && !d.lexRules.lexer.cutsAt spot.state c) = false := by
    rcases hcut with hended | hcut
    · rw [hended]
      rfl
    · rw [hcut, Bool.not_true, Bool.and_false]
  have hnone : d.lexRules.lexer.step none c = some (d.lexRules.lexer.start c) := rfl
  simp [Lexer.pass, hends, hstep, hnone]

theorem anew_of_ready {spot : Spot} (h : spot.ready = true) (c : Char) : spot.anew d c = true := by
  obtain rfl | ⟨x, rfl⟩ := Spot.ready_cases h
  · simp [Spot.anew, step_blank]
  · have hstep : d.lexRules.lexer.step (some (.symbol x)) c = some (d.lexRules.lexer.start c) := rfl
    simp [Spot.anew, hstep]

theorem reads_loose {f : Frag} (h : k.apart f = false) (spot : Spot) :
    reads k d spot [f] = d.lexRules.lexer.pass k.watched spot (d.renderFrag f).toList := by
  rw [reads_singleton, Lexer.readPiece, if_neg (by simp [h])]

theorem reads_code (spot : Spot) (x : String) : reads k d spot (code x) = d.lexRules.lexer.pass k.watched spot x.toList :=
  reads_loose (by cases k <;> rfl) spot

/-- Text of the generator, from where its first character is read anew. -/
theorem leads_of_passed {x : String} {c : Char} {cs : List Char} (hx : x.toList = c :: cs) (hP : ∀ spot, P spot = true → spot.anew d c = true)
    (hQ : (passed k d x).any Q = true) : Leads k d P (code x) Q := by
  intro spot hspot
  obtain ⟨spot', hpassed, hspot'⟩ := (Option.any_eq_true _ _).1 hQ
  refine ⟨spot', ?_, hspot'⟩
  rw [passed, hx] at hpassed
  rw [reads_code, hx, pass_of_anew (hP spot hspot), hpassed]

theorem leads_ready {x : String} (hx : x.toList ≠ []) (hQ : (passed k d x).any Q = true) : Leads k d Spot.ready (code x) Q := by
  obtain ⟨c, cs, hchars⟩ := List.exists_cons_of_ne_nil hx
  exact leads_of_passed hchars (fun spot hspot => anew_of_ready hspot c) hQ

theorem leads_stopped {x : String} (hx : x.toList.head?.any (· ∈ Spot.stops) = true) (hQ : (passed k d x).any Q = true) :
    Leads k d (Spot.stopped d) (code x) Q := by
  obtain ⟨c, hc, hstop⟩ := (Option.any_eq_true _ _).1 hx
  obtain ⟨cs, hchars⟩ := List.head?_eq_some_iff.1 hc
  exact leads_of_passed hchars (fun spot hspot => Spot.anew_of_stopped hspot (of_decide_eq_true hstop)) hQ

/-- The dot of a qualified name. -/
theorem leads_dot : Leads k d (Spot.qualifies d) (code ".") Spot.dotted := by
  intro spot hspot
  unfold Spot.qualifies at hspot
  simp only [Bool.and_eq_true, Bool.or_eq_true, Bool.not_eq_true'] at hspot
  obtain ⟨⟨-, hdot⟩, hcut⟩ := hspot
  obtain ⟨st, hstep, hst⟩ := (Option.any_eq_true _ _).1 hdot
  have hends : (spot.ended && !d.lexRules.lexer.cutsAt spot.state '.') = false := by
    rcases hcut with hended | hcut
    · rw [hended]
      rfl
    · rw [hcut, Bool.not_true, Bool.and_false]
  have hfree : k.watched st = false := by
    cases k with
    | names => rfl
    | binds =>
      cases st with
      | point | number => rfl
      | _ => cases hst
  refine ⟨⟨some st, false⟩, ?_, hst⟩
  have hchars : ".".toList = ['.'] := by decide
  rw [reads_code, hchars]
  simp [Lexer.pass, hends, hstep, hfree]

/-! ## Names, numbers and placeholders -/

/-- A placeholder that is under way goes on as one. -/
theorem watched_extend {st st' : LexState} {c : Char} (hst : k.watched st = true) (h : d.lexRules.lexer.extend st c = some st') :
    k.watched st' = true := by
  cases k with
  | names => cases hst
  | binds =>
    cases st with
    | param named =>
      have h' : (if (named && Sql.wordPart c) || (!named && d.lexRules.numbered && Str.isAsciiDigit c) then some (LexState.param named)
        else if named && c == '(' then some .unread else none) = some st' := h
      split_ifs at h' with hgoes hopens
      · exact Option.some.inj h' ▸ rfl
      · exact Option.some.inj h' ▸ rfl
    | unread => exact Option.some.inj h ▸ rfl
    | _ => cases hst

/-- What one lexeme goes over is passed, unless that is a placeholder. -/
theorem pass_of_takes {st st' : LexState} {cs : List Char} (h : d.lexRules.lexer.takes st cs = some st') (hst' : k.watched st' = false) :
    k.watched st = false ∧ d.lexRules.lexer.pass k.watched ⟨some st, false⟩ cs = some ⟨some st', false⟩ := by
  induction cs generalizing st with
  | nil =>
    obtain rfl := Option.some.inj h
    exact ⟨hst', rfl⟩
  | cons c cs ih =>
    obtain ⟨mid, hmid, h⟩ := Option.bind_eq_some_iff.1 h
    obtain ⟨hfree, hpass⟩ := ih h
    have hstep : d.lexRules.lexer.step (some st) c = some mid := by
      rw [Lexer.step, hmid]
      rfl
    refine ⟨?_, ?_⟩
    · rw [Bool.eq_false_iff]
      intro hst
      rw [watched_extend hst hmid] at hfree
      cases hfree
    · rw [Lexer.pass]
      simp [hstep, hfree, hpass]

/-- A piece that is a lexeme of its own, or loose text that is read like one. -/
theorem leads_solid {f : Frag} {c : Char} {cs : List Char} {st : LexState} (htext : (d.renderFrag f).toList = c :: cs)
    (hafter : d.lexRules.lexer.after (c :: cs) = some st)
    (hloose : k.apart f = true ∨ ∃ spot, d.lexRules.lexer.pass k.watched ⟨none, false⟩ (c :: cs) = some spot)
    (hP : ∀ spot, P spot = true → spot.anew d c = true ∧ (k.apart f = true → d.lexRules.lexer.cutsAt spot.state c = true))
    (hQ : ∀ ended, Q ⟨some st, ended⟩ = true) : Leads k d P [f] Q := by
  intro spot hspot
  obtain ⟨hanew, hcut⟩ := hP spot hspot
  by_cases hapart : k.apart f = true
  · refine ⟨⟨some st, true⟩, ?_, hQ true⟩
    rw [reads_singleton, Lexer.readPiece, if_pos hapart, htext, Lexer.setApart, if_pos (hcut hapart), hafter]
  · obtain hno | ⟨spot', hpass⟩ := hloose
    · exact absurd hno hapart
    · refine ⟨⟨some st, false⟩, ?_, hQ false⟩
      rw [reads_loose (Bool.eq_false_iff.2 hapart), htext, pass_of_anew hanew, hpass]
      have hstate := Lexer.state_of_pass hpass
      have hended : spot'.ended = false := by
        rcases Lexer.ended_of_pass hpass with ⟨hnil, -⟩ | hended
        · cases hnil
        · exact hended
      have hwhole : spot'.state = some st := hstate.trans hafter
      rw [← hwhole, ← hended]

theorem cutsAt_of_ready {spot : Spot} (h : spot.ready = true) {c : Char} (hc : Sql.isBlank c = false) :
    d.lexRules.lexer.cutsAt spot.state c = true := by
  obtain rfl | ⟨x, rfl⟩ := Spot.ready_cases h
  · have hcut : d.lexRules.lexer.extend .blank c = none := if_neg (by simp [hc])
    simp [Lexer.cutsAt, hcut]
  · rfl

/-- A lexeme behind a blank, a bracket or a comma. -/
theorem leads_lexeme {f : Frag} {c : Char} {cs : List Char} {st : LexState} (htext : (d.renderFrag f).toList = c :: cs)
    (hc : Sql.isBlank c = false) (htakes : d.lexRules.lexer.takes (d.lexRules.lexer.start c) cs = some st)
    (hloose : k.apart f = true ∨ k.watched st = false) (hQ : ∀ ended, Q ⟨some st, ended⟩ = true) :
    Leads k d Spot.ready [f] Q := by
  refine leads_solid htext (Lexer.after_of_takes htakes) (hloose.imp_right fun hfree => ?_)
    (fun spot hspot => ⟨anew_of_ready hspot c, fun _ => cutsAt_of_ready hspot hc⟩) hQ
  obtain ⟨hstart, hpass⟩ := pass_of_takes htakes hfree
  refine ⟨⟨some st, false⟩, ?_⟩
  have hstep : d.lexRules.lexer.step none c = some (d.lexRules.lexer.start c) := rfl
  simp [Lexer.pass, hstep, hstart, hpass]

theorem identQuote_facts (d : Dialect) : d.lexRules.lexer.start d.identQuote = .quoted d.identQuote false ∧
    Sql.isBlank d.identQuote = false ∧ (∀ ended, Spot.stopped d ⟨some (.closed d.identQuote false), ended⟩ = true) ∧
    ∀ k : Reading, k.watched (.closed d.identQuote false) = false := by
  refine ⟨by cases d <;> decide, by cases d <;> decide, by cases d <;> decide, fun k => by cases k <;> rfl⟩

theorem takes_quoteIdent (d : Dialect) {s : String} (h : '\x00' ∉ s.toList) : ∃ cs, (d.quoteIdent s).toList = d.identQuote :: cs ∧
    d.lexRules.lexer.takes (d.lexRules.lexer.start d.identQuote) cs = some (.closed d.identQuote false) := by
  have hquote := (QuotedTokens.identQuote_ne d).2
  refine ⟨_, d.quoteIdent_toList s, ?_⟩
  rw [(identQuote_facts d).1]
  exact QuotedTokens.takes_quote hquote (QuotedTokens.takes_double hquote fun hmem => absurd hmem h)

/-- A quoted name without a NUL. -/
theorem leads_ident {s : String} (h : '\x00' ∉ s.toList) : Leads k d Spot.ready (ident s) (Spot.stopped d) := by
  obtain ⟨cs, htext, htakes⟩ := takes_quoteIdent d h
  obtain ⟨-, hblank, hstopped, hfree⟩ := identQuote_facts d
  exact leads_lexeme htext hblank htakes (.inr (hfree k)) hstopped

/-- A quoted name behind the dot of a qualified name. -/
theorem leads_dotted_ident {s : String} (h : '\x00' ∉ s.toList) : Leads k d Spot.dotted (ident s) (Spot.stopped d) := by
  obtain ⟨cs, htext, htakes⟩ := takes_quoteIdent d h
  obtain ⟨-, -, hstopped, hfree⟩ := identQuote_facts d
  have hcut : ∀ spot : Spot, spot.dotted = true → spot.ended = false ∧ d.lexRules.lexer.cutsAt spot.state d.identQuote = true := by
    rintro ⟨state, ended⟩ hspot
    cases ended with
    | true => cases hspot
    | false =>
      refine ⟨rfl, ?_⟩
      cases state with
      | none => cases hspot
      | some st =>
        cases st with
        | point => cases d <;> decide
        | number phase =>
          cases phase with
          | frac => cases d <;> decide
          | _ => cases hspot
        | _ => cases hspot
  refine leads_solid htext (Lexer.after_of_takes htakes) (.inr ?_) (fun spot hspot => ⟨?_, fun _ => (hcut spot hspot).2⟩) hstopped
  · obtain ⟨hstart, hpass⟩ := pass_of_takes htakes (hfree k)
    have hstep : d.lexRules.lexer.step none d.identQuote = some (d.lexRules.lexer.start d.identQuote) := rfl
    exact ⟨⟨some (.closed d.identQuote false), false⟩, by simp [Lexer.pass, hstep, hstart, hpass]⟩
  · obtain ⟨hended, hcuts⟩ := hcut spot hspot
    have hstep : d.lexRules.lexer.step spot.state d.identQuote = some (d.lexRules.lexer.start d.identQuote) :=
      Lexer.step_of_cuts (Lexer.cutsAt_iff.1 hcuts)
    simp [Spot.anew, hstep, hended]

theorem wordStart_of_letter {c : Char} (h : (Str.isAsciiAlphabetic c || c == '_') = true) : Sql.wordStart c = true ∧ Sql.isBlank c = false := by
  refine ⟨?_, ?_⟩
  · simp only [Sql.wordStart, Bool.or_eq_true] at h ⊢
    exact .inl h
  · rw [Bool.eq_false_iff]
    intro hblank
    simp only [Sql.isBlank, Bool.or_eq_true, beq_iff_eq, Bool.and_eq_true, decide_eq_true_eq] at hblank
    simp only [Bool.or_eq_true, beq_iff_eq, Str.isAsciiAlphabetic_iff] at h
    rcases hblank with rfl | hblank
    · revert h
      decide
    · rcases h with h | rfl
      · omega
      · revert hblank
        decide

/-- A plain identifier is one word. -/
theorem takes_identifier (d : Dialect) {c : Char} {cs : List Char} (h : Identifier (c :: cs)) :
    ∃ st, (st = .word ∨ st = .letterE) ∧ d.lexRules.lexer.takes (d.lexRules.lexer.start c) cs = some st := by
  obtain ⟨c', cs', hcons, hc, hcs⟩ := Identifier.iff.1 h
  obtain ⟨rfl, rfl⟩ := List.cons.inj hcons
  obtain ⟨hstart, hblank⟩ := wordStart_of_letter hc
  have hparts : ∀ x ∈ cs, Sql.wordPart x = true := by
    intro x hx
    have hpart := hcs x hx
    simp only [Str.isAsciiAlphanumeric, Sql.wordPart, Sql.wordStart, Bool.or_eq_true] at hpart ⊢
    tauto
  have hword : d.lexRules.lexer.takes .word cs = some .word :=
    Lexer.takes_of_forall (fun x hx => if_pos hx) hparts
  have hopens : d.lexRules.lexer.start c = .word ∨ d.lexRules.lexer.start c = .letterE := by
    have hmark : c ≠ '\uFEFF' := by
      rintro rfl
      exact absurd hc (by decide)
    show d.lexRules.start c = .word ∨ d.lexRules.start c = .letterE
    rw [LexRules.start, if_neg (LexRules.not_nul_of_wordStart hstart), if_neg (by simp [hblank, hmark])]
    by_cases hescape : (d.lexRules.escapeStrings && (c == 'e' || c == 'E')) = true
    · rw [if_pos hescape]
      exact .inr rfl
    · rw [if_neg hescape, if_pos hstart]
      exact .inl rfl
  rcases hopens with hopens | hopens
  · exact ⟨.word, .inl rfl, by rw [hopens, hword]⟩
  · rw [hopens]
    cases cs with
    | nil => exact ⟨.letterE, .inr rfl, rfl⟩
    | cons x cs =>
      obtain ⟨hx, hrest⟩ := List.forall_mem_cons.1 hparts
      refine ⟨.word, .inl rfl, ?_⟩
      have hquote : x ≠ '\'' := by
        rintro rfl
        revert hx
        decide
      have hnext : d.lexRules.lexer.extend .letterE x = some .word := by
        show (if x = '\'' then some (LexState.quoted x true) else if Sql.wordPart x then some .word else none) = some .word
        rw [if_neg hquote, if_pos hx]
      rw [Lexer.takes, hnext, Option.bind_some]
      exact Lexer.takes_of_forall (fun y hy => if_pos hy) hrest

/-- A word that stands as it is. -/
theorem leads_word {f : Frag} {name : String} (htext : d.renderFrag f = name) (h : Identifier name.toList) :
    Leads k d Spot.ready [f] (Spot.qualifies d) := by
  obtain ⟨c, cs, hchars, hc, -⟩ := Identifier.iff.1 h
  rw [hchars] at h
  obtain ⟨st, hst, htakes⟩ := takes_identifier d h
  have hfacts : (∀ ended, Spot.qualifies d ⟨some st, ended⟩ = true) ∧ k.watched st = false := by
    rcases hst with rfl | rfl
    · exact ⟨by cases d <;> decide, by cases k <;> rfl⟩
    · exact ⟨by cases d <;> decide, by cases k <;> rfl⟩
  exact leads_lexeme (by rw [htext, hchars]) (wordStart_of_letter hc).2 htakes (.inr hfacts.2) hfacts.1

/-- A number, with its sign if it has one. -/
theorem leads_number {text : String} (h : NumericLiteral text.toList) : Leads k d Spot.ready [.number text] (Spot.stopped d) := by
  obtain ⟨sign, mantissa, exponent, htext, hsign, hmantissa, hexponent⟩ := h
  obtain ⟨c, rest, phase, hunsigned, hc, hphase, htakes⟩ :=
    @QuotedTokens.takes_unsigned d.lexRules (mantissa ++ exponent) ⟨mantissa, exponent, rfl, hmantissa, hexponent⟩
  rw [hunsigned] at htext
  have hfacts : (∀ ended, Spot.stopped d ⟨some (.number phase), ended⟩ = true) ∧ k.watched (.number phase) = false := by
    refine ⟨?_, by cases k <;> rfl⟩
    cases phase with
    | exponent => exact absurd rfl hphase
    | int | frac | expDigits => cases d <;> decide
  obtain ⟨hstart, hpass⟩ := pass_of_takes htakes hfacts.2
  have hdigit : d.lexRules.lexer.pass k.watched ⟨none, false⟩ (c :: rest) = some ⟨some (.number phase), false⟩ := by
    have hstep : d.lexRules.lexer.step none c = some (d.lexRules.lexer.start c) := rfl
    simp [Lexer.pass, hstep, hstart, hpass]
  -- a sign is a lexeme of its own
  have hsigned : ∀ s, text.toList = s :: c :: rest → Sql.isBlank s = false → k.watched (d.lexRules.lexer.start s) = false →
      d.lexRules.lexer.extend (d.lexRules.lexer.start s) c = none → Leads k d Spot.ready [.number text] (Spot.stopped d) := by
    intro s htext hs hfree hext
    have hcut : d.lexRules.lexer.Cuts (some (d.lexRules.lexer.start s)) c := by
      intro st hst
      obtain rfl := Option.some.inj hst
      exact hext
    have hafter : d.lexRules.lexer.after (s :: c :: rest) = some (.number phase) := by
      rw [← Lexer.after_of_takes htakes]
      exact @Lexer.after_of_cuts _ d.lexRules.lexer [s] c hcut rest
    refine leads_solid htext hafter (.inr ⟨⟨some (.number phase), false⟩, ?_⟩) (fun spot hspot => ⟨anew_of_ready hspot s, fun _ => cutsAt_of_ready hspot hs⟩)
      hfacts.1
    have hstep : d.lexRules.lexer.step none s = some (d.lexRules.lexer.start s) := rfl
    rw [Lexer.pass]
    simp only [Bool.false_and, Bool.false_eq_true, if_false, hstep, Option.any_some, hfree]
    rw [Lexer.pass_of_cuts hcut, hdigit]
  have hne : c ≠ '-' := by
    rintro rfl
    revert hc
    decide
  cases hsign with
  | none => exact leads_lexeme htext (QuotedTokens.not_blank_of_digit hc) htakes (.inr hfacts.2) hfacts.1
  | minus =>
    have hstart : d.lexRules.lexer.start '-' = .minus := by cases d <;> decide
    refine hsigned '-' htext (by decide) (by rw [hstart]; cases k <;> rfl) ?_
    rw [hstart]
    exact if_neg hne
  | plus =>
    have hstart : d.lexRules.lexer.start '+' = .symbol '+' := by cases d <;> decide
    refine hsigned '+' htext (by decide) (by rw [hstart]; cases k <;> rfl) ?_
    rw [hstart]
    rfl

theorem apart_param (k : Reading) (index : Nat) : k.apart (.param index) = true := by cases k <;> rfl

theorem exists_digits (n : Nat) : ∃ c cs, (toString n).toList = c :: cs ∧ Str.isAsciiDigit c = true ∧ ∀ x ∈ cs, Str.isAsciiDigit x = true := by
  have hdigit : ∀ x ∈ (toString n).toList, Str.isAsciiDigit x = true := by
    intro x hx
    have hx' := mem_toString_isDigit hx
    rw [Str.isAsciiDigit_iff]
    simp only [Char.isDigit, Bool.and_eq_true, decide_eq_true_eq] at hx'
    exact hx'
  obtain ⟨c, cs, htext⟩ := List.exists_cons_of_ne_nil (toString_ne_empty n)
  rw [htext] at hdigit
  exact ⟨c, cs, htext, List.forall_mem_cons.1 hdigit⟩

/-- A placeholder is one lexeme. -/
theorem takes_placeholder (d : Dialect) (index : Nat) : ∃ c cs, (d.placeholder index).toList = c :: cs ∧ Sql.isBlank c = false ∧
    d.lexRules.lexer.takes (d.lexRules.lexer.start c) cs = some (.param false) := by
  cases d with
  | postgres =>
    obtain ⟨c, cs, htext, hc, hcs⟩ := exists_digits index
    refine ⟨'$', c :: cs, ?_, by decide, ?_⟩
    · show ("$" ++ toString index).toList = _
      rw [String.toList_append, htext]
      rfl
    · have hopen : Dialect.postgres.lexRules.lexer.extend .dollar c = some (.param false) := if_pos hc
      show Dialect.postgres.lexRules.lexer.takes .dollar (c :: cs) = _
      rw [Lexer.takes, hopen, Option.bind_some]
      refine Lexer.takes_of_forall (fun x hx => ?_) hcs
      show (if (false && Sql.wordPart x) || (!false && true && Str.isAsciiDigit x) then some (LexState.param false) else none) = _
      rw [hx]
      rfl
  | mySql | sqlite | duckDb =>
    have htext : "?".toList = ['?'] := by decide
    exact ⟨'?', [], htext, by decide, by decide⟩

/-- The placeholder of a parameter. -/
theorem leads_param (index : Nat) : Leads k d Spot.ready [.param index] (Spot.stopped d) := by
  obtain ⟨c, cs, htext, hc, htakes⟩ := takes_placeholder d index
  exact leads_lexeme htext hc htakes (.inl (apart_param k index)) (by cases d <;> decide)

/-! ## Texts of several pieces -/

theorem Leads.code_append {x y : String} (hx : Leads k d P (code x) Q) (hy : Leads k d Q (code y) R) : Leads k d P (code (x ++ y)) R := by
  intro spot hspot
  obtain ⟨spot', hspot', hR⟩ := (hx.append hy) spot hspot
  refine ⟨spot', ?_, hR⟩
  rw [reads_append, reads_code] at hspot'
  rw [reads_code, String.toList_append, Lexer.pass_append]
  simpa only [reads_code] using hspot'

/-- A count in the generator's text. -/
theorem leads_toString (n : Nat) : Leads k d Spot.ready (code (toString n)) (Spot.stopped d) := by
  obtain ⟨c, cs, htext, hc, hcs⟩ := exists_digits n
  have hfree : k.watched (.number .int) = false := by cases k <;> rfl
  have htakes : d.lexRules.lexer.takes (d.lexRules.lexer.start c) cs = some (.number .int) := by
    rw [QuotedTokens.start_of_digit hc]
    exact QuotedTokens.takes_digits (by decide) hcs
  have hstopped : ∀ ended, Spot.stopped d ⟨some (.number .int), ended⟩ = true := by cases d <;> decide
  exact leads_lexeme (f := .code (toString n)) htext (QuotedTokens.not_blank_of_digit hc) htakes (.inr hfree) hstopped

theorem Leads.stopped_of_ready (h : Leads k d P t Spot.ready) : Leads k d P t (Spot.stopped d) :=
  h.to_mono fun _ hspot => Spot.stopped_of_ready hspot

theorem Leads.of_stopped (h : Leads k d (Spot.stopped d) t Q) : Leads k d Spot.ready t Q :=
  h.from_mono fun _ hspot => Spot.stopped_of_ready hspot

/-- A column behind its qualifier. -/
theorem leads_qualified {owner column : String} (howner : Leads k d Spot.ready (raw owner) (Spot.qualifies d)) (hcolumn : '\x00' ∉ column.toList) :
    Leads k d Spot.ready (qualified owner column) (Spot.stopped d) :=
  (howner.append leads_dot).append (leads_dotted_ident hcolumn)

/-- Texts with a separator. -/
theorem leads_join {sep : String} {ts : List SqlText} (hsep : Leads k d (Spot.stopped d) (code sep) Spot.ready)
    (h : ∀ t ∈ ts, Leads k d Spot.ready t (Spot.stopped d)) : Leads k d Spot.ready (join sep ts) (Spot.stopped d) := by
  induction ts using join.induct with
  | case1 => exact (Leads.nil Spot.ready).stopped_of_ready
  | case2 t => exact h t List.mem_cons_self
  | case3 t u rest ih => exact ((h t List.mem_cons_self).append hsep).append (ih fun t ht => h t (List.mem_cons_of_mem _ ht))

theorem leads_flatten {ts : List SqlText} (h : ∀ t ∈ ts, Leads k d P t P) : Leads k d P ts.flatten P := by
  induction ts with
  | nil => exact Leads.nil P
  | cons t ts ih => exact (h t List.mem_cons_self).append (ih fun t ht => h t (List.mem_cons_of_mem _ ht))

theorem leads_comma : Leads k d (Spot.stopped d) (code ", ") Spot.ready :=
  leads_stopped (by decide) (by cases k <;> cases d <;> decide)

theorem leads_close : Leads k d (Spot.stopped d) (code ")") Spot.ready :=
  leads_stopped (by decide) (by cases k <;> cases d <;> decide)

theorem leads_open : Leads k d (Spot.stopped d) (code "(") Spot.ready :=
  leads_stopped (by decide) (by cases k <;> cases d <;> decide)

theorem leads_blank : Leads k d (Spot.stopped d) (code " ") Spot.ready :=
  leads_stopped (by decide) (by cases k <;> cases d <;> decide)

/-- Text of the registry or of a custom aggregation is read by itself, up to a character behind it. -/
def Reading.closedBefore (k : Reading) (d : Dialect) (c : Char) (x : String) : Bool := (passed k d x).any fun spot => spot.anew d c

/-- Behind a place where reading starts anew, text that is closed is read by itself. -/
theorem exists_pass_closed {spot : Spot} {c : Char} {x : String} (hspot : spot.ready = true) (hclosed : k.closedBefore d c x = true) :
    ∃ spot' : Spot, d.lexRules.lexer.pass k.watched spot x.toList = some spot' ∧ spot'.anew d c = true := by
  obtain ⟨spot', hpassed, hanew⟩ := (Option.any_eq_true _ _).1 hclosed
  rw [passed] at hpassed
  cases hchars : x.toList with
  | nil => exact ⟨spot, rfl, anew_of_ready hspot c⟩
  | cons y ys =>
    rw [hchars] at hpassed
    exact ⟨spot', by rw [pass_of_anew (anew_of_ready hspot y), hpassed], hanew⟩

/-- The opening of an aggregation. -/
theorem leads_aggregation {agg : AggregationType} {column : SqlText}
    (hagg : ∀ name, agg = .custom name → k.closedBefore d '(' name = true) (hcolumn : Leads k d Spot.ready column (Spot.stopped d)) :
    Leads k d Spot.ready (aggregateText agg column) Spot.ready := by
  have hfixed : ∀ name : String, name.toList ≠ [] → (passed k d name).any (Spot.stopped d) = true →
      Leads k d Spot.ready (code name ++ code "(" ++ column ++ code ")") Spot.ready := fun name hne hname =>
    (((leads_ready hne hname).append leads_open).append hcolumn).append leads_close
  cases agg with
  | sum => exact hfixed "SUM" (by decide) (by cases k <;> cases d <;> decide)
  | avg => exact hfixed "AVG" (by decide) (by cases k <;> cases d <;> decide)
  | count => exact hfixed "COUNT" (by decide) (by cases k <;> cases d <;> decide)
  | min => exact hfixed "MIN" (by decide) (by cases k <;> cases d <;> decide)
  | max => exact hfixed "MAX" (by decide) (by cases k <;> cases d <;> decide)
  | countDistinct =>
    have hopen : Leads k d Spot.ready (code "COUNT(DISTINCT ") Spot.ready := leads_ready (by decide) (by cases k <;> cases d <;> decide)
    exact (hopen.append hcolumn).append leads_close
  | custom name =>
    have hopen : Leads k d Spot.ready (code name ++ code "(") Spot.ready := by
      intro spot hspot
      obtain ⟨mid, hmid, hanew⟩ := exists_pass_closed hspot (hagg name rfl)
      have hbracket : (passed k d "(").any Spot.ready = true := by cases k <;> cases d <;> decide
      obtain ⟨spot', hspot', hready⟩ := leads_of_passed (P := fun spot => spot.anew d '(') (x := "(") rfl (fun _ h => h) hbracket mid hanew
      refine ⟨spot', ?_, hready⟩
      rw [reads_append, reads_code, hmid]
      exact hspot'
    exact (hopen.append hcolumn).append leads_close

end

end GraphNight
