import GraphNight.Sql.OpenTokens
import GraphNight.Sql.TrimmedText

/-!
# What a caller's names do to a statement

Every name and number of a statement is read apart from the text around it, a quoted name as one
name, where all that is spliced as it stands are plain identifiers, the database reads what is quoted,
and custom aggregations and the SQL of the source leave nothing open.
-/

namespace GraphNight

open SqlText

/-- The text is one lexeme. -/
def Dialect.OneLexeme (d : Dialect) (x : String) : Prop := ∃ st, d.lex x = [(st, x.toList)]

/-- What a piece may be: a quoted name, a plain identifier, an allow-listed function, a number or a
placeholder. -/
def Dialect.Confined (d : Dialect) : Frag → Prop
  | .code _ => True
  | .raw x => isPlainIdentifier x = true ∧ d.OneLexeme x
  | .ident x => ∃ l name, d.lex (d.quoteIdent x) = [l] ∧ d.denoted l = some (.name name)
  | .func name => isAllowedFunction name = true ∧ d.OneLexeme name
  | .number x => NumericLiteral x.toList
  | .param index => d.lex (d.placeholder index) = [(.param false, (d.placeholder index).toList)]
  | .value _ => False

/-- Every piece of a text but the generator's own is confined, and is read in the statement as it is by
itself, apart from what stands around it. -/
def TokensKept (d : Dialect) (sql : String) (t : SqlText) : Prop :=
  ∀ before f behind, t = before ++ f :: behind → (∀ x, f ≠ .code x) →
    d.Confined f ∧ ∃ rest, sql.toList = (d.render before).toList ++ (d.renderFrag f).toList ++ rest ∧
      d.lex sql = d.lex (d.render before) ++ d.lex (d.renderFrag f) ++ d.lexRules.lexer.lex rest

/-- What is spliced as it stands is a plain identifier, and what is quoted is a name the database reads. -/
def Dialect.PlainPiece (d : Dialect) : Frag → Prop
  | .raw x => isPlainIdentifier x = true
  | .ident x => d.Legible x
  | _ => True

namespace SqlGenerator

/-- What a statement splices as it stands are plain identifiers, what it quotes are names the database
reads, and what is copied from a custom aggregation or from the SQL of the source leaves nothing open. -/
structure PlainSplices (g : SqlGenerator) (query : Query) (m : Model) (sourceAlias : String) : Prop where
  names : Spliced (g.dialectFor m.name).PlainPiece g query m sourceAlias
  aggregations : ∀ measure ∈ query.measures, FormulaParser.needsParse (Str.trim measure.formula.expression) = false →
    ∀ name, measure.aggregation = .custom name → Reading.closedBefore .names (g.dialectFor m.name) '(' name = true
  source : ∀ sql, sourceOverride (some m) = some sql →
    Reading.closedBefore .names (g.dialectFor m.name) ')' (Str.trimEndMatches ';' (Str.trim sql)) = true

end SqlGenerator

section

variable {d : Dialect}

theorem oneLexeme_of_identifier {x : String} (h : Identifier x.toList) : d.OneLexeme x := by
  obtain ⟨c, cs, hchars, -⟩ := Identifier.iff.1 h
  rw [hchars] at h
  obtain ⟨st, -, htakes⟩ := takes_identifier d h
  refine ⟨st, ?_⟩
  rw [Dialect.lex, hchars]
  exact Lexer.lex_of_takes htakes

theorem confined_param (d : Dialect) (index : Nat) : d.Confined (.param index) := by
  obtain ⟨c, cs, htext, -, htakes⟩ := takes_placeholder d index
  show d.lex (d.placeholder index) = _
  rw [Dialect.lex, htext]
  exact Lexer.lex_of_takes htakes

/-- What stands between the quotes of a name. -/
theorem denoted_quoteIdent (d : Dialect) (x : String) (backslash : Bool) :
    d.denoted (.closed d.identQuote backslash, (d.quoteIdent x).toList) = (d.quotedName x).map .name := by
  rw [d.quoteIdent_toList]
  simp [Quote.quote, Dialect.denoted, (QuotedTokens.identQuote_ne d).1, Quote.undouble_double]

/-- A lexeme that denotes a name is a quoted one. -/
theorem closed_of_denoted {l : LexState × List Char} {name : String} (h : d.denoted l = some (.name name)) :
    ∃ backslash, l.1 = .closed d.identQuote backslash := by
  unfold Dialect.denoted at h
  split at h
  · next q backslash c cs =>
    by_cases hident : q = d.identQuote
    · exact ⟨backslash, congrArg (LexState.closed · backslash) hident⟩
    · rw [if_neg hident] at h
      split_ifs at h
      simp at h
  · split at h <;> simp at h
  · simp at h
  · simp at h
  · simp at h

/-- **A quoted name is one lexeme** exactly where the database reads it. -/
theorem confined_ident {x : String} : d.Confined (.ident x) ↔ d.Legible x := by
  constructor
  · rintro ⟨l, name, hlex, hname⟩
    obtain ⟨st, chars⟩ := l
    obtain ⟨backslash, hst⟩ := closed_of_denoted hname
    obtain rfl : st = .closed d.identQuote backslash := hst
    have hchars : chars = (d.quoteIdent x).toList := by
      have hflat := Lexer.flatten_lex (L := d.lexRules.lexer) (d.quoteIdent x).toList
      rw [show d.lexRules.lexer.lex (d.quoteIdent x).toList = _ from hlex] at hflat
      simpa using hflat
    subst hchars
    rw [denoted_quoteIdent] at hname
    refine ⟨fun hmem => ?_, ?_⟩
    · have hone : (LexState.closed d.identQuote backslash, (d.quoteIdent x).toList) ∈ d.lexRules.lexer.lex (d.quoteIdent x).toList := by
        rw [show d.lexRules.lexer.lex (d.quoteIdent x).toList = _ from hlex]
        exact List.mem_singleton.2 rfl
      obtain ⟨c, rest, hrest, htakes⟩ := Lexer.mem_lex hone
      obtain ⟨rfl, rfl⟩ := List.cons.inj (hrest.symm.trans (d.quoteIdent_toList x))
      rw [(identQuote_facts d).1] at htakes
      have hwithin : (LexState.quoted d.identQuote false).within d.identQuote = true := by simp [LexState.within]
      have hinside := nul_of_takes (QuotedTokens.identQuote_ne d).2 hwithin htakes (List.mem_append_left _ (Quote.mem_double hmem))
      revert hinside
      cases d <;> decide
    · obtain ⟨name', hname', -⟩ := Option.map_eq_some_iff.1 hname
      rw [hname']
      rfl
  · rintro ⟨hnul, hname⟩
    obtain ⟨cs, htext, htakes⟩ := takes_quoteIdent d hnul
    obtain ⟨name, hname⟩ := Option.isSome_iff_exists.1 hname
    refine ⟨(.closed d.identQuote false, (d.quoteIdent x).toList), name, ?_, ?_⟩
    · rw [Dialect.lex, htext]
      exact Lexer.lex_of_takes htakes
    · rw [denoted_quoteIdent, hname]
      rfl

theorem settled_confined (d : Dialect) : Settled d.Confined where
  code _ := trivial
  func _ hallowed := ⟨hallowed, oneLexeme_of_identifier (identifier_of_isAllowedFunction hallowed)⟩
  number _ hnumber := hnumber

theorem confined_raw {x : String} : d.Confined (.raw x) ↔ d.PlainPiece (.raw x) :=
  and_iff_left_of_imp fun hplain => oneLexeme_of_identifier (identifier_of_plain hplain)

/-! ## Plain identifiers are read apart -/

theorem qualifies_of_plain {x : String} (h : isPlainIdentifier x = true) : SqlGenerator.Qualifies .names d x :=
  leads_word rfl (identifier_of_plain h)

/-- Two words with a dot between them. -/
theorem leads_dotted_words {x y : String} (hx : isPlainIdentifier x = true) (hy : isPlainIdentifier y = true) :
    Leads .names d Spot.ready (raw x ++ code "." ++ raw y) (Spot.stopped d) := by
  let worded : Spot → Bool := fun spot => spot.state == some .word || spot.state == some .letterE
  let pointed : Spot → Bool := fun spot => !spot.ended && spot.state == some .point
  have hfirst : Leads .names d Spot.ready (raw x) worded := by
    obtain ⟨c, cs, hchars, hc, -⟩ := Identifier.iff.1 (identifier_of_plain hx)
    obtain ⟨st, hst, htakes⟩ := takes_identifier d (hchars ▸ identifier_of_plain hx)
    refine leads_lexeme (f := .raw x) hchars (wordStart_of_letter hc).2 htakes (.inl rfl) fun ended => ?_
    rcases hst with rfl | rfl <;> rfl
  have hdot : Leads .names d worded (code ".") pointed := by
    have hchars : ".".toList = ['.'] := by decide
    refine leads_of_passed hchars ?_ (by cases d <;> decide)
    rintro ⟨state, ended⟩ hspot
    simp only [worded, Bool.or_eq_true, beq_iff_eq] at hspot
    rcases hspot with rfl | rfl <;> cases ended <;> cases d <;> decide
  have hsecond : Leads .names d pointed (raw y) (Spot.stopped d) := by
    obtain ⟨c, cs, hchars, hc, -⟩ := Identifier.iff.1 (identifier_of_plain hy)
    obtain ⟨st, hst, htakes⟩ := takes_identifier d (hchars ▸ identifier_of_plain hy)
    have hdigit : Str.isAsciiDigit c = false := by
      rw [Bool.eq_false_iff, Ne, Str.isAsciiDigit_iff]
      intro hdigit
      simp only [Bool.or_eq_true, beq_iff_eq, Str.isAsciiAlphabetic_iff] at hc
      rcases hc with hc | rfl
      · omega
      · revert hdigit
        decide
    refine leads_solid (f := .raw y) hchars (Lexer.after_of_takes htakes) (.inl rfl) ?_ fun ended => ?_
    · rintro ⟨state, ended⟩ hspot
      simp only [pointed, Bool.and_eq_true, Bool.not_eq_true', beq_iff_eq] at hspot
      obtain ⟨rfl, rfl⟩ := hspot
      have hextend : d.lexRules.lexer.extend .point c = none := if_neg (by simp [hdigit])
      have hcut : d.lexRules.lexer.cutsAt (some .point) c = true := by simp [Lexer.cutsAt, hextend]
      have hstep : d.lexRules.lexer.step (some .point) c = some (d.lexRules.lexer.start c) := Lexer.step_of_cuts (Lexer.cutsAt_iff.1 hcut)
      exact ⟨by rw [Spot.anew, hstep]; simp, fun _ => hcut⟩
    · rcases hst with rfl | rfl <;> cases ended <;> cases d <;> decide
  exact (hfirst.append hdot).append hsecond

theorem apart_of_not_code {f : Frag} (hcode : ∀ x, f ≠ .code x) : Reading.names.apart f = true := by
  cases f with
  | code x => exact absurd rfl (hcode x)
  | _ => rfl

theorem not_code_of_apart {f : Frag} (h : Reading.names.apart f = true) : ∀ x, f ≠ .code x := by
  rintro x rfl
  cases h

end

namespace SqlGenerator

variable {g : SqlGenerator} {query : Query} {m : Model} {sourceAlias : String} {out : GeneratedSql} {plan : LogicalPlan}

theorem Spliced.imp {P Q : Frag → Prop} (hcode : ∀ x, Q (.code x)) (hraw : ∀ x, P (.raw x) → Q (.raw x))
    (hident : ∀ x, P (.ident x) → Q (.ident x)) (h : Spliced P g query m sourceAlias) : Spliced Q g query m sourceAlias where
  fields field hfield owner column hresolve := (h.fields field hfield owner column hresolve).imp (hraw _) (hident _)
  measures measure hmeasure reads hreads :=
    (h.measures measure hmeasure reads hreads).imp
      (fun howned field hfield owner column hresolve => (howned field hfield owner column hresolve).imp (hraw _) (hident _))
      fun hwindow hw => hraw _ (hwindow hw)
  times td htd := (h.times td htd).imp (hraw _) (hraw _)
  orders order horder := by
    have hone := h.orders order horder
    split_ifs at hone ⊢
    · exact hraw _ hone
    · exact hone.imp (hraw _) (hident _)
  conditions e he f hf := by
    have hkind : (∃ x, f = .code x) ∨ (∃ x, f = .raw x) ∨ ∃ x, f = .ident x :=
      forall_onNames (P := fun f => (∃ x, f = .code x) ∨ (∃ x, f = .raw x) ∨ ∃ x, f = .ident x) (fun x => .inl ⟨x, rfl⟩)
        (fun x => .inr (.inl ⟨x, rfl⟩)) (fun x => .inr (.inr ⟨x, rfl⟩)) _ f hf
    have hone := h.conditions e he f hf
    obtain ⟨x, rfl⟩ | ⟨x, rfl⟩ | ⟨x, rfl⟩ := hkind
    · exact hcode x
    · exact hraw x hone
    · exact hident x hone
  joined e he := (h.joined e he).imp (hident _) (hident _)
  labels name hname := hident _ (h.labels name hname)
  named := hident _ h.named
  table hnone := hident _ (h.table hnone)

theorem readPart_of_plain {d : Dialect} {f : Frag} (h : d.PlainPiece f) : ReadPart .names d f := by
  cases f with
  | raw x => exact qualifies_of_plain h
  | ident x => exact h.1
  | _ => trivial

theorem PlainSplices.spliceable (h : g.PlainSplices query m sourceAlias) : g.Spliceable .names query m sourceAlias where
  fields field hfield owner column hresolve :=
    (h.names.fields field hfield owner column hresolve).imp (fun hplain => qualifies_of_plain hplain) And.left
  measures measure hmeasure reads hreads :=
    (h.names.measures measure hmeasure reads hreads).imp
      (fun howned field hfield owner column hresolve =>
        (howned field hfield owner column hresolve).imp (fun hplain => qualifies_of_plain hplain) And.left)
      fun hwindow hw => qualifies_of_plain (hwindow hw)
  aggregations := h.aggregations
  times td htd := leads_dotted_words (h.names.times td htd).1 (h.names.times td htd).2
  orders order horder := by
    have hplain := h.names.orders order horder
    unfold orderByItem
    dsimp only
    split_ifs at hplain ⊢ with hdot
    · exact absurd (by simpa [Str.containsChar] using hdot) (identifier_of_plain hplain).dot_not_mem
    · exact leads_qualified (qualifies_of_plain hplain.1) hplain.2.1
  conditions e he := leads_onNames fun f hf => readPart_of_plain (h.names.conditions e he f hf)
  source := h.source
  table hnone := (h.names.table hnone).1
  named := h.names.named.1
  labels name hname := (h.names.labels name hname).1
  joined e he := ⟨(h.names.joined e he).1.1, (h.names.joined e he).2.1⟩

/-- Every piece of a statement whose splices are plain identifiers is confined. -/
theorem Statement.forall_confined (h : g.Statement query out m sourceAlias plan) :
    (∀ f ∈ (g.dialectFor m.name).statementParts plan, (g.dialectFor m.name).Confined f) ↔
      Spliced (g.dialectFor m.name).PlainPiece g query m sourceAlias := by
  rw [h.forall_parts (settled_confined _) (confined_param _)]
  exact ⟨.imp (fun _ => trivial) (fun _ => confined_raw.1) fun _ => confined_ident.1,
    .imp (fun _ => trivial) (fun _ => confined_raw.2) fun _ => confined_ident.2⟩

/-- What is confined ends in no blank. -/
theorem Statement.solid_of_confined (h : g.Statement query out m sourceAlias plan) {f : Frag} (hf : f ∈ (g.dialectFor m.name).statementParts plan)
    (hconfined : (g.dialectFor m.name).Confined f) (hcode : ∀ x, f ≠ .code x) : Solid (g.dialectFor m.name) f := by
  cases f with
  | raw x =>
    have hplain := identifier_of_plain hconfined.1
    obtain ⟨c, cs, hchars, -⟩ := Identifier.iff.1 hplain
    exact solid_of_wordy (fun hnil => absurd (hchars.symm.trans hnil) (List.cons_ne_nil _ _)) hplain.wordy
  | _ => exact h.solid_parts _ hf hcode (fun x hx => by cases hx)

/-- **Plain splices keep the tokens of a statement.** -/
theorem PlainSplices.tokensKept (hs : g.PlainSplices query m sourceAlias) (h : g.Statement query out m sourceAlias plan) :
    TokensKept (g.dialectFor m.name) out.sql ((g.dialectFor m.name).statementParts plan) := by
  have hconfined := h.forall_confined.2 hs.names
  have hsolid : ∀ f ∈ (g.dialectFor m.name).statementParts plan, (∀ x, f ≠ .code x) → Solid (g.dialectFor m.name) f :=
    fun f hf hcode => h.solid_of_confined hf (hconfined f hf) hcode
  have hloose := h.solid_parts
  have hsql := h.sql_toList
  obtain ⟨spot, hreads⟩ := h.reads_parts hs.spliceable
  obtain ⟨last, htrimmed⟩ := reads_trimText (fun f hf hapart => hsolid f hf (not_code_of_apart hapart)) hloose hreads
  intro before f behind hparts hcode
  generalize g.dialectFor m.name = d at *
  have hmem : f ∈ d.statementParts plan := by simp [hparts]
  refine ⟨hconfined f hmem, ?_⟩
  obtain ⟨behind', hbehind⟩ := trimText_append_solid before behind (hsolid f hmem hcode)
  rw [hparts, hbehind] at htrimmed hsql
  have hpieces : d.pieces .names (before ++ f :: behind') =
      d.pieces .names before ++ ⟨true, (d.renderFrag f).toList⟩ :: d.pieces .names behind' := by
    rw [pieces_append]
    exact congrArg _ (congrArg (fun apart => (⟨apart, (d.renderFrag f).toList⟩ : Lexer.Piece) :: _) (apart_of_not_code hcode))
  have hlex := Lexer.lex_of_along rfl ((congrArg _ hpieces).symm.trans htrimmed)
  rw [← hpieces, text_pieces, text_pieces, text_pieces, ← hsql] at hlex
  refine ⟨(d.render behind').toList, ?_, hlex⟩
  rw [hsql, Dialect.render_append, String.toList_append, render_toList_cons, List.append_assoc]

end SqlGenerator

/-! ## Where a reading that goes through stands -/

/-- A reading of the text that goes through leads from places of one kind to places of another. -/
def Conveys (d : Dialect) (P : Spot → Bool) (t : SqlText) (Q : Spot → Bool) : Prop :=
  ∀ spot spot', P spot = true → reads .names d spot t = some spot' → Q spot' = true

section

variable {d : Dialect} {P Q R : Spot → Bool} {t u : SqlText}

theorem Leads.conveys (h : Leads .names d P t Q) : Conveys d P t Q := by
  intro spot spot' hspot hreads
  obtain ⟨last, hlast, hQ⟩ := h spot hspot
  obtain rfl := Option.some.inj (hlast.symm.trans hreads)
  exact hQ

theorem Conveys.append (ht : Conveys d P t Q) (hu : Conveys d Q u R) : Conveys d P (t ++ u) R := by
  intro spot spot' hspot hreads
  rw [reads_append] at hreads
  obtain ⟨mid, hmid, hreads⟩ := Option.bind_eq_some_iff.1 hreads
  exact hu mid spot' (ht spot mid hspot hmid) hreads

theorem Conveys.to_mono {Q' : Spot → Bool} (ht : Conveys d P t Q) (h : ∀ spot, Q spot = true → Q' spot = true) : Conveys d P t Q' :=
  fun spot spot' hspot hreads => h spot' (ht spot spot' hspot hreads)

/-- Behind a quoted name it does not matter what stands before it. -/
theorem follows_ident (t : SqlText) {x : String} (hx : '\x00' ∉ x.toList) : Conveys d P (t ++ ident x) (Spot.stopped d) := by
  intro spot spot' _ hreads
  rw [reads_append] at hreads
  obtain ⟨mid, -, hreads⟩ := Option.bind_eq_some_iff.1 hreads
  obtain ⟨cs, htext, htakes⟩ := takes_quoteIdent d hx
  obtain ⟨-, -, hstopped, -⟩ := identQuote_facts d
  rw [show ident x = [.ident x] from rfl, reads_singleton, Lexer.readPiece,
    if_pos (show Reading.names.apart (.ident x) = true from rfl)] at hreads
  obtain ⟨-, -, -, -, rfl⟩ := Lexer.setApart_eq_some hreads
  have hafter : d.lexRules.lexer.after (d.renderFrag (.ident x)).toList = some (.closed d.identQuote false) := by
    rw [show d.renderFrag (.ident x) = d.quoteIdent x from rfl, htext]
    exact Lexer.after_of_takes htakes
  rw [hafter]
  exact hstopped true

theorem follows_join {sep : String} {ts : List SqlText} (hsep : Conveys d (Spot.stopped d) (code sep) Spot.ready)
    (h : ∀ t ∈ ts, Conveys d Spot.ready t (Spot.stopped d)) : Conveys d Spot.ready (join sep ts) (Spot.stopped d) := by
  induction ts using join.induct with
  | case1 => exact (Leads.nil Spot.ready).stopped_of_ready.conveys
  | case2 t => exact h t List.mem_cons_self
  | case3 t u rest ih => exact ((h t List.mem_cons_self).append hsep).append (ih fun t ht => h t (List.mem_cons_of_mem _ ht))

/-- What stands before one of several texts. -/
theorem exists_join_append {sep : String} (hsep : Conveys d (Spot.stopped d) (code sep) Spot.ready) (before : List SqlText) (t : SqlText)
    (behind : List SqlText) (h : ∀ t ∈ before, Conveys d Spot.ready t (Spot.stopped d)) :
    ∃ first rest, join sep (before ++ t :: behind) = first ++ (t ++ rest) ∧ Conveys d Spot.ready first Spot.ready := by
  induction before with
  | nil =>
    cases behind with
    | nil => exact ⟨[], [], (List.append_nil t).symm, (Leads.nil _).conveys⟩
    | cons u behind => exact ⟨[], code sep ++ join sep (u :: behind), by simp [join], (Leads.nil _).conveys⟩
  | cons u before ih =>
    obtain ⟨hu, hbefore⟩ := List.forall_mem_cons.1 h
    obtain ⟨first, rest, hjoin, hfirst⟩ := ih hbefore
    refine ⟨u ++ code sep ++ first, rest, ?_, (hu.append hsep).append hfirst⟩
    obtain ⟨v, vs, hcons⟩ := List.exists_cons_of_ne_nil (show before ++ t :: behind ≠ [] by simp)
    rw [List.cons_append, hcons, join, ← hcons, hjoin]
    simp only [List.append_assoc]

/-- A name in the trimmed text stands where it did. -/
theorem exists_of_trimText {before behind : SqlText} {f : Frag} (hsolid : ∀ f ∈ t, (∀ x, f ≠ .code x) → Solid d f)
    (h : trimText d t = before ++ f :: behind) (hcode : ∀ x, f ≠ .code x) : ∃ behind', t = before ++ f :: behind' := by
  induction t generalizing before with
  | nil => simp [trimText] at h
  | cons x t ih =>
    rw [trimText] at h
    split_ifs at h
    · obtain ⟨rfl, hrest⟩ : before = [] ∧ f :: behind = [trimFrag x] := by
        rcases List.append_eq_singleton_iff.1 h.symm with hfirst | ⟨-, hrest⟩
        · exact hfirst
        · cases hrest
      obtain ⟨rfl, -⟩ := List.cons.inj hrest
      have hname : ∀ y, x ≠ .code y := by
        rintro y rfl
        exact hcode _ rfl
      rw [trimFrag_of_solid (hsolid x List.mem_cons_self hname)]
      exact ⟨t, rfl⟩
    · cases before with
      | nil =>
        obtain ⟨rfl, -⟩ := List.cons.inj h
        exact ⟨t, rfl⟩
      | cons y before =>
        obtain ⟨rfl, hrest⟩ := List.cons.inj h
        obtain ⟨behind', rfl⟩ := ih (fun f hf => hsolid f (List.mem_cons_of_mem _ hf)) hrest
        exact ⟨behind', rfl⟩

/-- **A text whose tokens are kept is read whole.** -/
theorem TokensKept.reads {sql : String} (h : TokensKept d sql t) (hsql : sql.toList = (d.render (trimText d t)).toList)
    (hsolid : ∀ f ∈ t, (∀ x, f ≠ .code x) → Solid d f) : ∃ spot, reads .names d ⟨none, false⟩ (trimText d t) = some spot := by
  refine @Lexer.exists_along _ d.lexRules.lexer [] false (d.pieces .names (trimText d t)) (fun hno => by cases hno) ?_
  intro before p behind hpieces hp
  obtain ⟨first, last, htrim, rfl, hlast⟩ := List.map_eq_append_iff.1 hpieces
  obtain ⟨f, rest, rfl, rfl, rfl⟩ := List.map_eq_cons_iff.1 hlast
  have hcode := not_code_of_apart hp
  obtain ⟨behind', hparts⟩ := exists_of_trimText hsolid htrim hcode
  obtain ⟨-, rest', htext, hlex⟩ := h first f behind' hparts hcode
  have hrest : rest' = (d.render rest).toList := by
    rw [hsql, htrim, Dialect.render_append, String.toList_append, render_toList_cons, List.append_assoc] at htext
    exact (List.append_cancel_left (List.append_cancel_left htext)).symm
  obtain ⟨c, hc, -⟩ := hsolid f (by simp [hparts]) hcode
  refine ⟨fun hnil => ?_, ?_⟩
  · have hno : (d.renderFrag f).toList = [] := hnil
    rw [hno] at hc
    cases hc
  · have hwhole : Lexer.Piece.text (d.pieces .names (trimText d t)) = sql.toList := (text_pieces _ _ _).trans hsql.symm
    have hbefore : Lexer.Piece.text (d.pieces .names first) = (d.render first).toList := text_pieces _ _ _
    have hbehind : Lexer.Piece.text (d.pieces .names rest) = (d.render rest).toList := text_pieces _ _ _
    rw [Dialect.pieces] at hbefore hbehind
    rw [List.nil_append, List.nil_append, hwhole, hbefore, hbehind, ← hrest]
    exact hlex

end

/-! ## What has to be plain and closed -/

section

variable {d : Dialect}

/-- A confined name begins with no line break. -/
theorem head_of_confined {f : Frag} (hconfined : d.Confined f) (hcode : ∀ x, f ≠ .code x) :
    ∃ c ∈ (d.renderFrag f).toList.head?, c ≠ '\n' ∧ c ≠ '\r' := by
  have hwordy : ∀ {cs : List Char}, cs ≠ [] → Wordy cs → ∃ c ∈ cs.head?, c ≠ '\n' ∧ c ≠ '\r' := by
    intro cs hne hwordy
    obtain ⟨c, cs, rfl⟩ := List.exists_cons_of_ne_nil hne
    have hpart := hwordy c List.mem_cons_self
    refine ⟨c, rfl, ?_, ?_⟩
    · rintro rfl
      exact absurd hpart (by decide)
    · rintro rfl
      exact absurd hpart (by decide)
  have hidentifier : ∀ {cs : List Char}, Identifier cs → ∃ c ∈ cs.head?, c ≠ '\n' ∧ c ≠ '\r' := by
    intro cs hcs
    obtain ⟨c, rest, hchars, -⟩ := Identifier.iff.1 hcs
    exact hwordy (by simp [hchars]) hcs.wordy
  cases f with
  | code x => exact absurd rfl (hcode x)
  | raw x => exact hidentifier (identifier_of_plain hconfined.1)
  | func name => exact hidentifier (identifier_of_isAllowedFunction hconfined.1)
  | number x => exact hwordy (NumericLiteral.ne_nil hconfined) (NumericLiteral.wordy hconfined)
  | value v => exact absurd hconfined not_false
  | ident x =>
    refine ⟨d.identQuote, by rw [show d.renderFrag (.ident x) = d.quoteIdent x from rfl, d.quoteIdent_toList]; rfl, ?_⟩
    cases d <;> decide
  | param index =>
    cases d with
    | postgres =>
      have htext : (Dialect.postgres.renderFrag (.param index)).toList = '$' :: (toString index).toList := String.toList_append
      exact ⟨'$', by rw [htext]; rfl, by decide⟩
    | mySql | sqlite | duckDb =>
      have htext : "?".toList = ['?'] := by decide
      exact ⟨'?', (congrArg List.head? htext).trans rfl, by decide⟩

theorem reads_code_append {spot : Spot} (x y : String) (t : SqlText) :
    reads .names d spot (code (x ++ y) ++ t) = reads .names d spot (code x ++ (code y ++ t)) := by
  rw [reads_append, reads_append, reads_code, reads_code, String.toList_append, Lexer.pass_append, Option.bind_assoc]
  congr 1

end

namespace SqlGenerator

section

variable {g : SqlGenerator} {query : Query} {m : Model} {sourceAlias : String} {out : GeneratedSql} {plan : LogicalPlan}

/-- Up to the next name an aggregated column is ordinary text. -/
theorem dullToName_column {base expr : String} {column t : SqlText} (h : g.resolveExpression sourceAlias base expr = .ok column)
    (ht : dullToName t = true) : dullToName (column ++ t) = true := by
  unfold resolveExpression at h
  obtain ⟨call, -, h⟩ := Res.bind_eq_ok.1 h
  cases call with
  | none =>
    obtain rfl := Except.ok.inj h
    rw [qualifyField_eq]
    cases g.resolveField base expr sourceAlias with
    | none => exact Bool.and_eq_true_iff.2 ⟨by decide, ht⟩
    | some p => rfl
  | some call =>
    obtain rfl := Except.ok.inj h
    rfl

theorem Statement.follows_item (h : g.Statement query out m sourceAlias plan) {d : Dialect} (hlabels : ∀ name ∈ query.selectedNames, '\x00' ∉ name.toList) :
    ∀ t ∈ plan.selectItems.map Dialect.selectItemText, Conveys d Spot.ready t (Spot.stopped d) := by
  intro t ht
  obtain ⟨item, hitem, rfl⟩ := List.mem_map.1 ht
  have hmem : item.aliasName ∈ query.selectedNames.map some := h.aliasNames ▸ List.mem_map_of_mem hitem
  obtain ⟨label, hlabel, halias⟩ := List.mem_map.1 hmem
  unfold Dialect.selectItemText
  rw [← halias]
  exact follows_ident _ (hlabels label hlabel)

/-- What stands before an item of the select list. -/
theorem Statement.exists_item (h : g.Statement query out m sourceAlias plan) {d : Dialect} {expression : SqlText} {label : String}
    {item : SelectItem} (hitem : item ∈ plan.selectItems) (hlabel : item = ⟨expression, some label⟩)
    (hlabels : ∀ name ∈ query.selectedNames, '\x00' ∉ name.toList) :
    ∃ first, Conveys d Spot.first first Spot.ready ∧
      ∃ rest, d.statementParts plan = first ++ (expression ++ (code " AS " ++ .ident label :: rest)) := by
  obtain ⟨before, behind, hitems⟩ := List.append_of_mem hitem
  have hfollows := h.follows_item (d := d) hlabels
  rw [hitems, List.map_append, List.map_cons] at hfollows
  obtain ⟨first, rest, hjoin, hfirst⟩ := exists_join_append leads_comma.conveys (before.map Dialect.selectItemText) (Dialect.selectItemText item)
    (behind.map Dialect.selectItemText) fun t ht => hfollows t (List.mem_append_left _ ht)
  have htext : Dialect.selectItemText item = expression ++ (code " AS " ++ ident label) := by
    rw [hlabel, ← List.append_assoc]
    rfl
  refine ⟨_, (leads_select plan.distinct).conveys.append hfirst, ?_⟩
  rw [Dialect.statementParts_eq, hitems, List.map_append, List.map_cons, hjoin, htext]
  simp only [ident, List.append_assoc, List.cons_append, List.nil_append]
  exact ⟨_, rfl⟩

/-- What stands before the source. -/
theorem Statement.exists_from (h : g.Statement query out m sourceAlias plan) (d : Dialect)
    (hlabels : ∀ name ∈ query.selectedNames, '\x00' ∉ name.toList) :
    ∃ first, Conveys d Spot.first first Spot.ready ∧
      ∃ rest, d.statementParts plan = first ++ (Dialect.renderSource plan ++ (code " " ++ .ident plan.sourceAlias :: rest)) := by
  have hlist : Conveys d Spot.ready (join ", " (plan.selectItems.map Dialect.selectItemText)) (Spot.stopped d) :=
    follows_join leads_comma.conveys (h.follows_item hlabels)
  have hfrom : Leads .names d (Spot.stopped d) (code " FROM ") Spot.ready := leads_stopped (by decide) (by cases d <;> decide)
  refine ⟨_, ((leads_select plan.distinct).conveys.append hlist).append hfrom.conveys, ?_⟩
  rw [Dialect.statementParts_eq]
  simp only [ident, List.append_assoc, List.cons_append, List.nil_append]
  exact ⟨_, rfl⟩

/-- The direct form of a measure. -/
theorem exists_column {base : String} {measure : Measure} {t : SqlText} {name : String} (h : g.buildMeasureExpression sourceAlias base measure = .ok t)
    (hform : FormulaParser.needsParse (Str.trim measure.formula.expression) = false) (hname : measure.aggregation = .custom name) :
    ∃ column, g.resolveExpression sourceAlias base measure.formula.expression = .ok column ∧ t = code name ++ (code "(" ++ (column ++ code ")")) := by
  unfold buildMeasureExpression at h
  dsimp only at h
  rw [if_neg (by simp [hform])] at h
  obtain ⟨column, hcolumn, h⟩ := Res.bind_eq_ok.1 h
  refine ⟨column, hcolumn, ?_⟩
  rw [← Except.ok.inj h, hname, ← List.append_assoc, ← List.append_assoc]
  rfl

/-- What is read behind a text that ends in a name. -/
theorem exists_trimmed {d : Dialect} {t before behind : SqlText} {f : Frag} (hreads : ∃ spot, reads .names d ⟨none, false⟩ (trimText d t) = some spot)
    (hconfined : ∀ f ∈ t, d.Confined f) (hsolid : ∀ f ∈ t, (∀ x, f ≠ .code x) → Solid d f) (hcode : ∀ x, f ≠ .code x) (ht : t = before ++ f :: behind) :
    ∃ behind' spot, reads .names d ⟨none, false⟩ (before ++ f :: behind') = some spot ∧
      ∀ x ∈ before ++ f :: behind', Reading.names.apart x = true → ∃ c ∈ (d.renderFrag x).toList.head?, c ≠ '\n' ∧ c ≠ '\r' := by
  obtain ⟨behind', hbehind⟩ := trimText_append_solid before behind (hsolid f (by simp [ht]) hcode)
  obtain ⟨spot, hspot⟩ := hreads
  rw [← ht] at hbehind
  refine ⟨behind', spot, hbehind ▸ hspot, fun x hx hapart => ?_⟩
  obtain ⟨first, last, hsplit⟩ := List.append_of_mem (hbehind ▸ hx)
  obtain ⟨last', hparts⟩ := exists_of_trimText hsolid hsplit (not_code_of_apart hapart)
  exact head_of_confined (hconfined x (by simp [hparts])) (not_code_of_apart hapart)

/-- **A statement whose tokens are kept has plain splices.** -/
theorem Statement.plainSplices (h : g.Statement query out m sourceAlias plan)
    (hkept : TokensKept (g.dialectFor m.name) out.sql ((g.dialectFor m.name).statementParts plan)) : g.PlainSplices query m sourceAlias := by
  have hconfined : ∀ f ∈ (g.dialectFor m.name).statementParts plan, (g.dialectFor m.name).Confined f := by
    intro f hf
    by_cases hcode : ∀ x, f ≠ .code x
    · obtain ⟨before, behind, hparts⟩ := List.append_of_mem hf
      exact (hkept before f behind hparts hcode).1
    · obtain ⟨x, hx⟩ := not_forall.1 hcode
      rw [not_not.1 hx]
      trivial
  have hsolid : ∀ f ∈ (g.dialectFor m.name).statementParts plan, (∀ x, f ≠ .code x) → Solid (g.dialectFor m.name) f :=
    fun f hf hcode => h.solid_of_confined hf (hconfined f hf) hcode
  have hreads := hkept.reads h.sql_toList hsolid
  have hname : ∀ x y, Frag.ident x ≠ .code y := fun _ _ hno => by cases hno
  have hlabels : ∀ name ∈ query.selectedNames, '\x00' ∉ name.toList := fun name hname => ((h.forall_confined.1 hconfined).labels name hname).1
  refine ⟨h.forall_confined.1 hconfined, fun measure hmeasure hform name haggregation => ?_, fun sql hsql => ?_⟩
  · obtain ⟨measures, dimensions, hmeasures, -, hitems⟩ := h.items_eq
    obtain ⟨item, hitem, hmem⟩ := Res.exists_of_mapM hmeasures measure hmeasure
    obtain ⟨expr, hexpr, hlabelled⟩ := Res.bind_eq_ok.1 hmem
    obtain ⟨column, hcolumn, rfl⟩ := exists_column hexpr hform haggregation
    obtain ⟨first, hfirst, rest, hparts⟩ := h.exists_item (show item ∈ plan.selectItems by simp [hitems, hitem]) (Except.ok.inj hlabelled).symm hlabels
    rw [← List.append_assoc, ← List.append_assoc] at hparts
    obtain ⟨rest', spot, hspot, hheads⟩ := exists_trimmed hreads hconfined hsolid (hname _) hparts
    rw [List.append_assoc, List.append_assoc, List.append_assoc (code name), List.append_assoc (code "("), List.append_assoc column] at hspot hheads
    rw [reads_append] at hspot
    obtain ⟨mid, hmid, hspot⟩ := Option.bind_eq_some_iff.1 hspot
    have hbehind : dullToName (code ")" ++ (code " AS " ++ .ident (measure.formula.label.getD measure.formula.expression) :: rest')) = true :=
      Bool.and_eq_true_iff.2 ⟨by decide, Bool.and_eq_true_iff.2 ⟨by decide, rfl⟩⟩
    exact closed_of_reads (hfirst _ mid rfl hmid) (.inl rfl) (by decide) (dullToName_column hcolumn hbehind)
      (fun f hf => hheads f (List.mem_append_right _ (List.mem_append_right _ (List.mem_append_right _ hf)))) hspot
  · obtain ⟨first, hfirst, rest, hparts⟩ := h.exists_from (g.dialectFor m.name) hlabels
    have hsource : Dialect.renderSource plan = code ("(" ++ (Str.trimEndMatches ';' (Str.trim sql) ++ ")")) := by
      obtain ⟨items, clause, joins, -, -, -, rfl⟩ := h.parts
      simp only [Dialect.renderSource, hsql, Option.isSome_some, if_true, Option.getD_some, String.append_assoc]
    rw [hsource, ← List.append_assoc, ← List.append_assoc] at hparts
    obtain ⟨rest', spot, hspot, hheads⟩ := exists_trimmed hreads hconfined hsolid (hname _) hparts
    rw [List.append_assoc, List.append_assoc] at hspot hheads
    rw [reads_append] at hspot
    obtain ⟨mid, hmid, hspot⟩ := Option.bind_eq_some_iff.1 hspot
    rw [reads_code_append, reads_append] at hspot
    obtain ⟨inside, hinside, hspot⟩ := Option.bind_eq_some_iff.1 hspot
    rw [reads_code_append] at hspot
    have hready : inside.ready = true := leads_open.of_stopped.conveys mid inside (hfirst _ mid rfl hmid) hinside
    have hbehind : dullToName (code " " ++ .ident plan.sourceAlias :: rest') = true := Bool.and_eq_true_iff.2 ⟨by decide, rfl⟩
    exact closed_of_reads hready (.inr rfl) (by decide) hbehind
      (fun f hf hapart => hheads f (List.mem_append_right _ (List.mem_append_right _ hf)) hapart) hspot

end

/-! ## A field to order by -/

namespace OrderedOrders

def orders : Model := { name := "orders", datasource := "warehouse", dimensions := [⟨"status", none⟩] }

def generator : SqlGenerator := (new .postgres ⟨fun _ => false, fun _ => false⟩).withModels [orders]

/-- The orders' statuses in the order of a field. -/
def query (field : String) : Query where
  name := some "orders"
  dimensions := [⟨"status", none⟩]
  order := [⟨field, false⟩]

end OrderedOrders

end SqlGenerator

end GraphNight
