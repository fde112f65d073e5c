import GraphNight.Lib.Padding
import GraphNight.Sql.StatementPieces

/-!
# A statement without the blanks behind it

`trim` takes blanks off the end of the generator's own text only: a name, a number, a placeholder or
a value ends in no blank.
-/

namespace GraphNight

open SqlText

/-- A piece whose text ends in no blank. -/
def Solid (d : Dialect) (f : Frag) : Prop := ∃ c ∈ (d.renderFrag f).toList.getLast?, Str.isWhitespace c = false

/-- `str::trim_end`. -/
def trimEnd (s : String) : String := String.ofList (s.toList.rdropWhile Str.isWhitespace)

/-- A piece without the blanks behind it. -/
def trimFrag : Frag → Frag
  | .code x => .code (trimEnd x)
  | .raw x => .raw (trimEnd x)
  | f => f

/-- A text without the blanks behind it. -/
def trimText (d : Dialect) : SqlText → SqlText
  | [] => []
  | f :: t => if (d.render t).toList.all Str.isWhitespace then [trimFrag f] else f :: trimText d t

section

variable {d : Dialect} {f : Frag} {t : SqlText}

theorem rdropWhile_append_of_not_blank {cs ds : List Char} (h : ¬Str.Blank ds) :
    (cs ++ ds).rdropWhile Str.isWhitespace = cs ++ ds.rdropWhile Str.isWhitespace := by
  induction ds using List.reverseRecOn with
  | nil => exact absurd Str.Blank.nil h
  | append_singleton ds c ih =>
    rw [← List.append_assoc]
    by_cases hc : Str.isWhitespace c = true
    · rw [List.rdropWhile_concat_pos _ _ _ hc, List.rdropWhile_concat_pos _ _ _ hc]
      exact ih fun hblank => h (hblank.append (.singleton hc))
    · rw [List.rdropWhile_concat_neg _ _ _ hc, List.rdropWhile_concat_neg _ _ _ hc, List.append_assoc]

theorem rdropWhile_of_solid (h : Solid d f) : (d.renderFrag f).toList.rdropWhile Str.isWhitespace = (d.renderFrag f).toList := by
  obtain ⟨c, hc, hno⟩ := h
  rw [List.rdropWhile_eq_self_iff]
  intro hne
  rw [Option.mem_def, List.getLast?_eq_getLast_of_ne_nil hne] at hc
  rw [Option.some.inj hc, hno]
  exact Bool.false_ne_true

theorem not_blank_of_solid (h : Solid d f) : ¬Str.Blank (d.renderFrag f).toList := by
  obtain ⟨c, hc, hno⟩ := h
  intro hblank
  rw [hblank c (List.mem_of_getLast? hc)] at hno
  cases hno

/-- What is neither code nor spliced as it stands is solid. -/
theorem trimFrag_render (h : (∀ x, f ≠ .code x) → (∀ x, f ≠ .raw x) → Solid d f) :
    (d.renderFrag (trimFrag f)).toList = (d.renderFrag f).toList.rdropWhile Str.isWhitespace := by
  cases f with
  | code x => exact String.toList_ofList
  | raw x => exact String.toList_ofList
  | _ => exact (rdropWhile_of_solid (h (by simp) (by simp))).symm

theorem trimFrag_of_solid (h : Solid d f) : trimFrag f = f := by
  have hsame := rdropWhile_of_solid h
  cases f with
  | code x => exact congrArg Frag.code ((congrArg String.ofList hsame).trans String.ofList_toList)
  | raw x => exact congrArg Frag.raw ((congrArg String.ofList hsame).trans String.ofList_toList)
  | _ => rfl

theorem render_toList_cons (d : Dialect) (f : Frag) (t : SqlText) :
    (d.render (f :: t)).toList = (d.renderFrag f).toList ++ (d.render t).toList := by
  rw [Dialect.render_cons, String.toList_append]

theorem all_whitespace_iff {cs : List Char} : cs.all Str.isWhitespace = true ↔ Str.Blank cs := List.all_eq_true

/-- **The trimmed text is what `trim` leaves of the string.** -/
theorem render_trimText (h : ∀ f ∈ t, (∀ x, f ≠ .code x) → (∀ x, f ≠ .raw x) → Solid d f) :
    (d.render (trimText d t)).toList = (d.render t).toList.rdropWhile Str.isWhitespace := by
  induction t with
  | nil => rfl
  | cons f t ih =>
    have hf := h f List.mem_cons_self
    rw [trimText, render_toList_cons]
    split_ifs with hblank
    · rw [(all_whitespace_iff.1 hblank).rdropWhile_append, ← trimFrag_render hf]
      simp
    · rw [rdropWhile_append_of_not_blank fun hno => hblank (all_whitespace_iff.2 hno), render_toList_cons,
        ih fun f hf => h f (List.mem_cons_of_mem _ hf)]

/-- What stands before a solid piece is not trimmed. -/
theorem trimText_append_solid (before : SqlText) (behind : SqlText) (h : Solid d f) :
    ∃ behind', trimText d (before ++ f :: behind) = before ++ f :: behind' := by
  induction before with
  | nil =>
    rw [List.nil_append, trimText]
    split_ifs
    · exact ⟨[], by rw [trimFrag_of_solid h]; rfl⟩
    · exact ⟨_, rfl⟩
  | cons x before ih =>
    obtain ⟨behind', hbehind⟩ := ih
    refine ⟨behind', ?_⟩
    have hblank : ¬(d.render (before ++ f :: behind)).toList.all Str.isWhitespace = true := by
      rw [all_whitespace_iff]
      intro hall
      refine not_blank_of_solid h fun c hc => hall c ?_
      simp [hc]
    rw [List.cons_append, trimText, if_neg hblank, hbehind]
    rfl

/-! ## What ends in no blank -/

theorem solid_of_wordy (hne : (d.renderFrag f).toList ≠ []) (h : Wordy (d.renderFrag f).toList) : Solid d f :=
  ⟨_, List.getLast?_eq_getLast_of_ne_nil hne, not_isWhitespace_of_isWordPart (h _ (List.getLast_mem hne))⟩

theorem solid_of_concat {cs : List Char} {c : Char} (h : (d.renderFrag f).toList = cs ++ [c]) (hc : Str.isWhitespace c = false) : Solid d f :=
  ⟨c, by rw [h, List.getLast?_concat]; rfl, hc⟩

theorem solid_ident (d : Dialect) (name : String) : Solid d (.ident name) :=
  solid_of_concat ((d.quoteIdent_toList name).trans List.cons_append.symm) (by cases d <;> decide)

theorem solid_param (d : Dialect) (index : Nat) : Solid d (.param index) := by
  cases d with
  | postgres =>
    have htext : (Dialect.postgres.renderFrag (.param index)).toList = '$' :: (toString index).toList := String.toList_append
    refine solid_of_wordy (by simp [htext]) ?_
    rw [htext]
    obtain ⟨c, cs, hdigits, hc, hcs⟩ := exists_digits index
    rw [hdigits]
    refine .cons (by decide) fun x hx => ?_
    have hdigit : Str.isAsciiDigit x = true := List.forall_mem_cons (p := fun x => Str.isAsciiDigit x = true) |>.2 ⟨hc, hcs⟩ x hx
    simp [isWordPart, Str.isAsciiAlphanumeric, hdigit]
  | mySql | sqlite | duckDb =>
    have htext : "?".toList = [] ++ ['?'] := by decide
    exact solid_of_concat htext (by decide)

/-- The pieces of the generator's own. -/
theorem settled_solid (d : Dialect) : Settled fun f => (∀ x, f ≠ .code x) → (∀ x, f ≠ .raw x) → Solid d f where
  code x hcode _ := absurd rfl (hcode x)
  func name hallowed _ _ := by
    have hname := identifier_of_isAllowedFunction hallowed
    obtain ⟨c, cs, hchars, -⟩ := Identifier.iff.1 hname
    exact solid_of_wordy (fun hnil => absurd (hchars.symm.trans hnil) (List.cons_ne_nil _ _)) hname.wordy
  number x hnumber _ _ := solid_of_wordy hnumber.ne_nil hnumber.wordy

variable {k : Reading}

theorem reads_trimFrag {spot spot' : Spot} (hsolid : k.apart f = true → Solid d f)
    (hloose : (∀ x, f ≠ .code x) → (∀ x, f ≠ .raw x) → Solid d f) (h : reads k d spot [f] = some spot') :
    ∃ spot', reads k d spot [trimFrag f] = some spot' := by
  by_cases hf : Solid d f
  · rw [trimFrag_of_solid hf]
    exact ⟨spot', h⟩
  have hapart : k.apart f = false := Bool.eq_false_iff.2 fun hapart => hf (hsolid hapart)
  have htrim : k.apart (trimFrag f) = false := by
    cases f with
    | code x => cases k <;> rfl
    | raw x =>
      cases k with
      | names => cases hapart
      | binds => rfl
    | _ => exact hapart
  rw [reads_loose hapart] at h
  rw [reads_loose htrim, trimFrag_render hloose]
  obtain ⟨rest, hrest⟩ := List.rdropWhile_prefix Str.isWhitespace (d.renderFrag f).toList
  rw [← hrest, Lexer.pass_append] at h
  obtain ⟨mid, hmid, -⟩ := Option.bind_eq_some_iff.1 h
  exact ⟨mid, hmid⟩

/-- A text that is read whole is read whole without the blanks behind it. -/
theorem reads_trimText {spot spot' : Spot} (hsolid : ∀ f ∈ t, k.apart f = true → Solid d f)
    (hloose : ∀ f ∈ t, (∀ x, f ≠ .code x) → (∀ x, f ≠ .raw x) → Solid d f) (h : reads k d spot t = some spot') :
    ∃ spot', reads k d spot (trimText d t) = some spot' := by
  induction t generalizing spot with
  | nil => exact ⟨spot', h⟩
  | cons f t ih =>
    rw [show f :: t = [f] ++ t from rfl, reads_append] at h
    obtain ⟨mid, hmid, h⟩ := Option.bind_eq_some_iff.1 h
    rw [trimText]
    split_ifs
    · exact reads_trimFrag (hsolid f List.mem_cons_self) (hloose f List.mem_cons_self) hmid
    · obtain ⟨last, hlast⟩ := ih (fun f hf => hsolid f (List.mem_cons_of_mem _ hf)) (fun f hf => hloose f (List.mem_cons_of_mem _ hf)) h
      refine ⟨last, ?_⟩
      rw [show f :: trimText d t = [f] ++ trimText d t from rfl, reads_append, hmid]
      exact hlast

/-! ## A generated statement -/

/-- **`trim` of a text that does not begin with a blank.** -/
theorem trim_render (hhead : ∃ c ∈ (d.render t).toList.head?, Str.isWhitespace c = false)
    (h : ∀ f ∈ t, (∀ x, f ≠ .code x) → (∀ x, f ≠ .raw x) → Solid d f) :
    (Str.trim (d.render t)).toList = (d.render (trimText d t)).toList := by
  obtain ⟨c, hc, hno⟩ := hhead
  obtain ⟨cs, hchars⟩ := List.head?_eq_some_iff.1 hc
  rw [Str.trim, String.toList_ofList, render_trimText h, hchars, List.dropWhile_cons_of_neg (by simp [hno])]

end

/-- A statement begins with its keyword. -/
theorem exists_statementParts_cons (d : Dialect) (plan : LogicalPlan) : ∃ rest, d.statementParts plan = .code "SELECT " :: rest := by
  rw [Dialect.statementParts_eq]
  simp [code]

theorem head_select (d : Dialect) (rest : SqlText) :
    ∃ c ∈ (d.render (.code "SELECT " :: rest)).toList.head?, Str.isWhitespace c = false := by
  have hword : (d.renderFrag (.code "SELECT ")).toList = 'S' :: "ELECT ".toList := by cases d <;> decide
  rw [render_toList_cons, hword]
  exact ⟨'S', rfl, by decide⟩

namespace SqlGenerator

variable {g : SqlGenerator} {query : Query} {m : Model} {sourceAlias : String} {out : GeneratedSql} {plan : LogicalPlan}

theorem Statement.solid_parts (h : g.Statement query out m sourceAlias plan) :
    ∀ f ∈ (g.dialectFor m.name).statementParts plan, (∀ x, f ≠ .code x) → (∀ x, f ≠ .raw x) → Solid (g.dialectFor m.name) f := by
  have hraw : ∀ x, (∀ y, Frag.raw x ≠ .code y) → (∀ y, Frag.raw x ≠ .raw y) → Solid (g.dialectFor m.name) (.raw x) :=
    fun x _ hno => absurd rfl (hno x)
  exact (h.forall_parts (settled_solid _) fun i _ _ => solid_param _ i).2
    (.of_forall (settled_solid _).code hraw fun name _ _ => solid_ident _ name)

/-- **The text that runs, piece by piece.** -/
theorem Statement.sql_toList (h : g.Statement query out m sourceAlias plan) :
    out.sql.toList = ((g.dialectFor m.name).render (trimText (g.dialectFor m.name) ((g.dialectFor m.name).statementParts plan))).toList := by
  obtain ⟨rest, hrest⟩ := exists_statementParts_cons (g.dialectFor m.name) plan
  have hsolid := h.solid_parts
  rw [h.sql_eq, ← Dialect.render_statementParts]
  rw [hrest] at hsolid ⊢
  exact trim_render (head_select _ _) hsolid

end SqlGenerator

end GraphNight
