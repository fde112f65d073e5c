import GraphNight.Core.FunctionCalls
import GraphNight.Lib.RegexRuns

/-!
# What the formula parser reads

The shorthand is read exactly where it is two runs of word characters, a ratio where neither part
has the character that ends it; any other text without a bracket is one sum of all of it.
-/

namespace GraphNight

open Regex

/-- A column as it can stand in a formula. -/
structure WrittenColumn (text : String) : Prop where
  ne_empty : text ≠ ""
  plain : ∀ c ∈ text.toList, c ≠ ':' ∧ c ≠ ',' ∧ c ≠ '(' ∧ c ≠ ')'

/-- What is in a joined text is in one of its parts, or between them. -/
theorem mem_of_mem_intercalate {c : Char} {sep : List Char} {parts : List (List Char)} (h : c ∈ sep.intercalate parts) :
    c ∈ sep ∨ ∃ part ∈ parts, c ∈ part := by
  induction parts with
  | nil => exact absurd h List.not_mem_nil
  | cons first parts ih =>
    cases parts with
    | nil =>
      rw [List.intercalate_singleton] at h
      exact .inr ⟨first, List.mem_cons_self, h⟩
    | cons second parts =>
      rw [List.intercalate_cons_cons] at h
      simp only [List.mem_append] at h
      obtain (h | h) | h := h
      · exact .inr ⟨first, List.mem_cons_self, h⟩
      · exact .inl h
      · obtain h | ⟨part, hpart, hc⟩ := ih h
        · exact .inl h
        · exact .inr ⟨part, List.mem_cons_of_mem _ hpart, hc⟩

/-- A call has a character that is neither a word's nor whitespace only as a bracket or a comma. -/
theorem IsCall.not_mem {text : String} {call : FunctionCall} (h : IsCall text call) {c : Char} (hword : isWordPart c = false)
    (hspace : Str.isWhitespace c = false) (hc : c ≠ '(' ∧ c ≠ ',' ∧ c ≠ ')') : c ∉ text.toList := by
  obtain ⟨lead, gap, body, htext, hlead, hgap, hallowed, src, trail, rfl, htrail, hargs⟩ := h
  have hblank {cs : List Char} (hcs : Str.Blank cs) : c ∉ cs := fun hmem => by
    rw [hcs c hmem] at hspace
    cases hspace
  have hname := (identifier_of_isAllowedFunction hallowed).wordy.not_mem hword
  have hsrc : c ∉ src := by
    obtain ⟨hsrc, -⟩ | ⟨raws, rfl, -, hraws⟩ := hargs
    · exact hblank hsrc
    · intro hmem
      obtain hmem | ⟨raw, hraw, hmem⟩ := mem_of_mem_intercalate hmem
      · exact hc.2.1 (List.mem_singleton.1 hmem)
      · obtain ⟨i, hi, rfl⟩ := List.mem_iff_getElem.1 hraw
        have hlen := hraws.length_eq
        exact (hraws.get hi (hlen ▸ hi)).not_mem hword hspace hmem
  rw [htext]
  simp [hblank hlead, hblank hgap, hblank htrail, hname, hsrc, hc.1, hc.2.2]

namespace FormulaParser

variable {fp : FormulaParser}

/-- Two runs of word characters with a colon between them; the first may hold `*`. -/
def WordPair (fp : FormulaParser) (text : String) : Prop :=
  ∃ field agg, text = field ++ ":" ++ agg ∧ field ≠ "" ∧ (∀ c ∈ field.toList, fp.isWord c = true ∨ c = '*') ∧
    agg ≠ "" ∧ ∀ c ∈ agg.toList, fp.isWord c = true

theorem isWord_eq_false {c : Char} (h : c ∈ [':', ',', '(', ')', '.']) (fp : FormulaParser) : fp.isWord c = false := by
  simp only [List.mem_cons, List.not_mem_nil, or_false] at h
  obtain rfl | rfl | rfl | rfl | rfl := h <;> rfl

theorem groupText_eq (caps : List (List Char)) (i : Nat) : groupText caps [i] = String.ofList (caps.getD i []) := by
  rw [groupText, List.flatMap_singleton]

/-- **The shorthand is read** exactly from a pair of words. -/
theorem aggCaptures_eq_some {text field agg : String} :
    fp.aggCaptures text = some (field, agg) ↔ text = field ++ ":" ++ agg ∧ field ≠ "" ∧
      (∀ c ∈ field.toList, fp.isWord c = true ∨ c = '*') ∧ agg ≠ "" ∧ ∀ c ∈ agg.toList, fp.isWord c = true := by
  have hcolon (x : Char) (t : List Char) (hx : (fp.isWord x || x == '*') = true) :
      run (lit ":" ++ [plus fp.isWord, .eot]) (x :: t) = none := by
    rw [Option.eq_none_iff_forall_ne_some]
    intro caps hcaps
    obtain ⟨rest, -, htext, -⟩ := run_lit_eq_some.1 hcaps
    obtain rfl : x = ':' := (List.cons.inj htext).1
    rw [isWord_eq_false (by decide)] at hx
    cases hx
  have hend (x : Char) (t : List Char) (_ : fp.isWord x = true) : run [.eot] (x :: t) = none := rfl
  unfold aggCaptures
  rw [show fp.aggRegex = .rep (fun c => fp.isWord c || c == '*') 1 none :: (lit ":" ++ [plus fp.isWord, .eot]) from rfl,
    Option.map_eq_some_iff]
  constructor
  · rintro ⟨caps, hcaps, hgroups⟩
    obtain ⟨taken, rest, caps', htext, htaken, hmin, hrest, rfl⟩ := (run_rep_eq_some hcolon).1 hcaps
    obtain ⟨tail, caps', rfl, htail, rfl⟩ := run_lit_eq_some.1 hrest
    obtain ⟨last, rest, caps', rfl, hlast, hmin', hdone, rfl⟩ := (run_rep_eq_some hend).1 htail
    obtain ⟨rfl, rfl⟩ := run_eot_eq_some.1 hdone
    obtain ⟨rfl, rfl⟩ := Prod.mk.inj hgroups
    rw [groupText_eq, groupText_eq]
    refine ⟨String.toList_injective (by simpa using htext), ?_, ?_, ?_, ?_⟩
    · intro hempty
      have hnil : taken = [] := String.ofList_eq_empty_iff.1 hempty
      subst hnil
      cases hmin
    · intro c hc
      simpa using htaken c (by simpa using hc)
    · intro hempty
      have hnil : last = [] := String.ofList_eq_empty_iff.1 hempty
      subst hnil
      cases hmin'
    · intro c hc
      exact hlast c (by simpa using hc)
  · rintro ⟨rfl, hfield, hfieldWord, hagg, haggWord⟩
    refine ⟨[field.toList, [':'], agg.toList, []], ?_, ?_⟩
    · refine (run_rep_eq_some hcolon).2 ⟨field.toList, ':' :: agg.toList, [[':'], agg.toList, []], by simp, ?_, ?_, ?_, rfl⟩
      · intro c hc
        simpa using hfieldWord c hc
      · exact List.length_pos_iff.2 (by simpa using hfield)
      · refine run_lit_eq_some.2 ⟨agg.toList, [agg.toList, []], rfl, ?_, rfl⟩
        refine (run_rep_eq_some hend).2 ⟨agg.toList, [], [[]], (List.append_nil _).symm, haggWord, ?_, rfl, rfl⟩
        exact List.length_pos_iff.2 (by simpa using hagg)
    · rw [groupText_eq, groupText_eq]
      simp

theorem aggCaptures_eq_none {text : String} : fp.aggCaptures text = none ↔ ¬fp.WordPair text := by
  rw [Option.eq_none_iff_forall_ne_some]
  constructor
  · rintro h ⟨field, agg, hpair⟩
    exact h (field, agg) (aggCaptures_eq_some.2 hpair)
  · rintro h ⟨field, agg⟩ hcaps
    exact h ⟨field, agg, aggCaptures_eq_some.1 hcaps⟩

/-- A text without a bracket calls no formula function. -/
theorem captures_of_no_bracket {text : String} (h : '(' ∉ text.toList) :
    fp.timeShiftCaptures text = none ∧ ratioCaptures text = none := by
  have hno (w : String) (hw : '(' ∈ w.toList) : ¬w.toList <:+: text.toList := fun hin => h (hin.subset hw)
  constructor
  · rw [timeShiftCaptures, timeShiftRegex]
    simp only [List.append_assoc]
    rw [search_eq_none (hno "time_shift(" (by decide))]
    rfl
  · rw [ratioCaptures, ratioRegex]
    simp only [List.append_assoc]
    rw [search_eq_none (hno "ratio(" (by decide))]
    rfl

/-- A repetition of anything but a character ends where that character is. -/
theorem run_until {c : Char} {w : String} (hw : ∃ cs, w.toList = c :: cs) {ps : List Piece} {part after : List Char}
    {caps : List (List Char)} (hne : part ≠ []) (hpart : c ∉ part) (hafter : run (lit w ++ ps) after = some caps) :
    run (plus (· != c) :: (lit w ++ ps)) (part ++ after) = some (part :: caps) := by
  refine (run_rep_eq_some ?_).2 ⟨part, after, caps, rfl, ?_, List.length_pos_iff.2 hne, hafter, rfl⟩
  · intro x t hx
    rw [Option.eq_none_iff_forall_ne_some]
    intro caps' hcaps
    obtain ⟨rest, -, htext, -⟩ := run_lit_eq_some.1 hcaps
    obtain ⟨cs, hcs⟩ := hw
    rw [hcs] at htext
    obtain rfl := (List.cons.inj htext).1
    simp at hx
  · intro x hx
    simpa using fun heq : x = c => hpart (heq ▸ hx)

/-- What follows a ratio's comma. -/
theorem run_denominator {denom : List Char} (hne : ¬Str.Blank denom) (h : ')' ∉ denom) (after : List Char) :
    run (star Str.isWhitespace :: plus (· != ')') :: (lit ")" ++ [])) (denom ++ ')' :: after) =
      some [denom.takeWhile Str.isWhitespace, denom.dropWhile Str.isWhitespace, [')']] := by
  have hrest : denom.dropWhile Str.isWhitespace ≠ [] := fun hnil => hne (List.dropWhile_eq_nil_iff.1 hnil)
  obtain ⟨c, rest, hcons⟩ := List.exists_cons_of_ne_nil hrest
  have hwhite : Str.isWhitespace c = false := by
    have hhead := List.head?_dropWhile_not Str.isWhitespace denom
    rw [hcons] at hhead
    simpa using hhead
  have hsplit : denom ++ ')' :: after = denom.takeWhile Str.isWhitespace ++ (c :: rest ++ ')' :: after) := by
    rw [← hcons, ← List.append_assoc, List.takeWhile_append_dropWhile]
  obtain ⟨htake, hdrop⟩ := @takeWhile_append_of_head Str.isWhitespace (denom.takeWhile Str.isWhitespace) (c :: rest ++ ')' :: after)
    (fun d hd => List.mem_takeWhile_imp hd) (fun d hd => Option.some.inj hd ▸ hwhite)
  have hclose : ')' ∉ c :: rest := fun hmem => h ((List.dropWhile_suffix _).mem (hcons ▸ hmem))
  have hlast : run (lit ")" ++ []) (')' :: after) = some [[')']] := run_lit_eq_some.2 ⟨after, [], rfl, rfl, rfl⟩
  have hdenom : run (plus (· != ')') :: (lit ")" ++ [])) (c :: rest ++ ')' :: after) = some [c :: rest, [')']] :=
    run_until ⟨[], rfl⟩ (List.cons_ne_nil _ _) hclose hlast
  rw [hsplit, hcons]
  have hfirst := @run_rep_first Str.isWhitespace 0 (plus (· != ')') :: (lit ")" ++ []))
    (denom.takeWhile Str.isWhitespace ++ (c :: rest ++ ')' :: after)) [c :: rest, [')']] (Nat.zero_le _) (by rw [hdrop]; exact hdenom)
  rw [htake] at hfirst
  exact hfirst

/-- **A ratio is taken apart** at its first comma and its first closing bracket. -/
theorem ratioCaptures_of_plain {text num denom : String} (htext : text = "ratio(" ++ num ++ "," ++ denom ++ ")") (hnum : num ≠ "")
    (hcomma : ',' ∉ num.toList) (hblank : ¬Str.Blank denom.toList) (hclose : ')' ∉ denom.toList) :
    ratioCaptures text = some (num, String.ofList (denom.toList.dropWhile Str.isWhitespace)) := by
  have hnumNe : num.toList ≠ [] := by simpa using hnum
  have hpieces : ratioRegex = lit "ratio(" ++ (plus (· != ',') :: (lit "," ++ (star Str.isWhitespace :: plus (· != ')') :: (lit ")" ++ [])))) :=
    rfl
  have hafter := (run_lit_eq_some (w := ",")).2 ⟨denom.toList ++ [')'], _, rfl, run_denominator hblank hclose [], rfl⟩
  have hrun := (run_lit_eq_some (w := "ratio(")).2 ⟨_, _, rfl, run_until ⟨[], rfl⟩ hnumNe hcomma hafter, rfl⟩
  rw [← hpieces] at hrun
  have hlist : text.toList = "ratio(".toList ++ (num.toList ++ (",".toList ++ (denom.toList ++ [')']))) := by
    rw [htext]
    simp
  rw [ratioCaptures, hlist, search_of_run hrun, Option.map_some, groupText_eq, groupText_eq]
  simp

/-- A text without a bracket is a shorthand, or one sum of all of it. -/
theorem parseMeasure_of_no_bracket {text : String} (htrim : Str.trim text = text) (hne : text ≠ "") (h : '(' ∉ text.toList) :
    fp.parseMeasure text = match fp.aggCaptures text with
      | some (field, agg) => do
        let aggregation ← parseAggregation agg
        return .simple field aggregation
      | none => .ok (.simple text .sum) := by
  obtain ⟨hshift, hratio⟩ := @captures_of_no_bracket fp text h
  unfold parseMeasure
  cases hcaps : fp.aggCaptures text <;> simp only [parseMeasureWithin, htrim, if_neg hne, hshift, hratio, hcaps]

/-- The measure of a text with a colon is no call: what the parser makes of it has a colon again, or no bracket. -/
theorem parseMeasure_not_call {text : String} {measure : Measure} (hcolon : ':' ∈ (Str.trim text).toList)
    (h : fp.parseMeasure text = .ok measure) (call : FunctionCall) : parseFunctionCall measure.formula.expression ≠ .ok (some call) := by
  have hno {expr : String} (hexpr : ':' ∈ expr.toList) : parseFunctionCall expr ≠ .ok (some call) := fun hcall =>
    (parseFunctionCall_eq_some.1 hcall).not_mem (by decide) (by decide) (by decide) hexpr
  unfold parseMeasure at h
  rw [parseMeasureWithin] at h
  split_ifs at h with hempty
  · exact absurd h Res.fail_ne_ok
  split at h
  · obtain ⟨offset, -, h⟩ := Res.bind_eq_ok.1 h
    obtain ⟨inner, -, h⟩ := Res.bind_eq_ok.1 h
    obtain rfl := Except.ok.inj h
    exact hno (by simp [timeShiftMeasure])
  · split at h
    · obtain ⟨num, -, h⟩ := Res.bind_eq_ok.1 h
      obtain ⟨denom, -, h⟩ := Res.bind_eq_ok.1 h
      obtain rfl := Except.ok.inj h
      exact hno (by simp [ratioMeasure])
    · split at h
      · rename_i field agg hcaps
        obtain ⟨aggregation, -, h⟩ := Res.bind_eq_ok.1 h
        obtain rfl := Except.ok.inj h
        obtain ⟨-, -, hfield, -⟩ := aggCaptures_eq_some.1 hcaps
        intro hcall
        obtain ⟨lead, name, gap, rest, htext, -⟩ := (parseFunctionCall_eq_some.1 hcall).callShape
        have hbracket : '(' ∈ field.toList := by
          rw [show field = (Measure.simple field aggregation).formula.expression from rfl, htext]
          simp
        obtain hword | hstar := hfield _ hbracket
        · rw [isWord_eq_false (by decide)] at hword
          cases hword
        · cases hstar
      · obtain rfl := Except.ok.inj h
        exact hno hcolon

/-- The names of the aggregations. -/
def aggregationNames : List String := ["sum", "avg", "average", "count", "min", "max", "count_distinct", "countd"]

theorem mem_aggregationNames {agg : String} {aggregation : AggregationType} (h : parseAggregation agg = .ok aggregation) :
    Str.toLowercase agg ∈ aggregationNames := by
  unfold parseAggregation at h
  split at h
  case h_9 => exact absurd h Res.fail_ne_ok
  all_goals
    rename_i hname
    rw [hname]
    decide

/-- The name of an aggregation has no punctuation. -/
theorem parseAggregation_plain {agg : String} {aggregation : AggregationType} (h : parseAggregation agg = .ok aggregation) {c : Char}
    (hc : c ∈ [':', ',', '(', ')', '.']) : c ∉ agg.toList := by
  intro hmem
  have hnone : (aggregationNames.all fun name => [':', ',', '(', ')', '.'].all fun d => !name.toList.contains d) = true := by decide +kernel
  have hname := List.all_eq_true.1 (List.all_eq_true.1 hnone _ (mem_aggregationNames h)) c hc
  have hlower : (if c.toNat = 0x212A then 'k' else c.toLower) = c := by
    simp only [List.mem_cons, List.not_mem_nil, or_false] at hc
    obtain rfl | rfl | rfl | rfl | rfl := hc <;> rfl
  have hmem' : c ∈ (Str.toLowercase agg).toList := by
    rw [Str.toLowercase, String.toList_ofList]
    exact List.mem_map.2 ⟨c, hmem, hlower⟩
  simp [hmem'] at hname

end FormulaParser

end GraphNight
