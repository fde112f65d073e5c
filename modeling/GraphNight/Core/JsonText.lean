import GraphNight.Core.QueryJson
import GraphNight.Lib.RegexRuns
import Mathlib.Tactic.IntervalCases

/-!
# JSON texts can be read back

A value ends where its text says it does, so the text of a value, and that of a query, stands for
one value only. It is written on one line.
-/

namespace GraphNight

/-! ## Strings -/

/-- The value of a hexadecimal digit. -/
def hexValue (c : Char) : Nat := if Str.isAsciiDigit c then c.toNat - '0'.toNat else c.toNat - 'a'.toNat + 10

/-- The character an escape stands for, after its backslash. -/
def unescapeRest : List Char → Option (Char × List Char)
  | 'u' :: '0' :: '0' :: high :: low :: rest => some (Char.ofNat (16 * hexValue high + hexValue low), rest)
  | 'b' :: rest => some (Char.ofNat 8, rest)
  | 't' :: rest => some (Char.ofNat 9, rest)
  | 'n' :: rest => some (Char.ofNat 10, rest)
  | 'f' :: rest => some (Char.ofNat 12, rest)
  | 'r' :: rest => some (Char.ofNat 13, rest)
  | c :: rest => some (c, rest)
  | [] => none

/-- The first character of what is in a JSON string. -/
def unescape : List Char → Option (Char × List Char)
  | [] => none
  | c :: rest => if c = '\\' then unescapeRest rest else some (c, rest)

/-- **An escape is read back.** -/
theorem unescape_escapeChar (c : Char) (rest : List Char) : unescape ((Value.escapeChar c).toList ++ rest) = some (c, rest) := by
  have hof {n : Nat} (h : c.toNat = n) : Char.ofNat n = c := by rw [← h, Char.ofNat_toNat]
  unfold Value.escapeChar
  split_ifs with hquote hslash h8 h9 h10 h12 h13 h32
  · rw [hquote]
    rfl
  · rw [hslash]
    rfl
  · rw [← hof h8]
    rfl
  · rw [← hof h9]
    rfl
  · rw [← hof h10]
    rfl
  · rw [← hof h12]
    rfl
  · rw [← hof h13]
    rfl
  · obtain ⟨n, hn⟩ : ∃ n, c.toNat = n := ⟨_, rfl⟩
    rw [hn] at h32
    rw [← hof hn]
    clear hof hn hquote hslash h8 h9 h10 h12 h13
    interval_cases n <;> rfl
  · rw [String.toList_singleton, List.singleton_append, unescape, if_neg hslash]

/-- No escape begins with a quote. -/
theorem escapeChar_head (c : Char) : ∃ d ds, (Value.escapeChar c).toList = d :: ds ∧ d ≠ '"' := by
  unfold Value.escapeChar
  split_ifs with hquote hslash
  case neg => exact ⟨c, [], by simp, hquote⟩
  all_goals exact ⟨'\\', _, by simp; rfl, by decide⟩

/-- **The text in a JSON string is read back.** -/
theorem quoted_inj {cs ds rest rest' : List Char}
    (h : cs.flatMap (fun c => (Value.escapeChar c).toList) ++ '"' :: rest = ds.flatMap (fun c => (Value.escapeChar c).toList) ++ '"' :: rest') :
    cs = ds ∧ rest = rest' := by
  induction cs generalizing ds with
  | nil =>
    cases ds with
    | nil => exact ⟨rfl, (List.cons.inj h).2⟩
    | cons d ds =>
      obtain ⟨x, xs, hx, hne⟩ := escapeChar_head d
      rw [List.flatMap_cons, hx] at h
      exact absurd (List.cons.inj h).1.symm hne
  | cons c cs ih =>
    cases ds with
    | nil =>
      obtain ⟨x, xs, hx, hne⟩ := escapeChar_head c
      rw [List.flatMap_cons, hx] at h
      exact absurd (List.cons.inj h).1 hne
    | cons d ds =>
      rw [List.flatMap_cons, List.flatMap_cons, List.append_assoc, List.append_assoc] at h
      have hread := congrArg unescape h
      rw [unescape_escapeChar, unescape_escapeChar] at hread
      obtain ⟨rfl, htail⟩ := Prod.mk.inj (Option.some.inj hread)
      obtain ⟨rfl, hrest⟩ := ih htail
      exact ⟨rfl, hrest⟩

theorem quoteJson_append (s : String) (rest : List Char) : (Value.quoteJson s).toList ++ rest =
    '"' :: (s.toList.flatMap (fun c => (Value.escapeChar c).toList) ++ '"' :: rest) := by
  simp [Value.quoteJson]

theorem quoteJson_inj {s t : String} {rest rest' : List Char}
    (h : (Value.quoteJson s).toList ++ rest = (Value.quoteJson t).toList ++ rest') : s = t ∧ rest = rest' := by
  rw [quoteJson_append, quoteJson_append] at h
  obtain ⟨hchars, hrest⟩ := quoted_inj (List.cons.inj h).2
  exact ⟨String.toList_inj.1 hchars, hrest⟩

/-! ## Values -/

/-- A character of a number. -/
def isNumberChar (c : Char) : Bool := Str.isAsciiDigit c || c == '+' || c == '-' || c == '.' || c == 'e' || c == 'E'

namespace Value

/-- Every number in a value is one. -/
inductive WellFormed : Value → Prop where
  | null : WellFormed .null
  | bool (b : Bool) : WellFormed (.bool b)
  | number {text : String} (hne : text ≠ "") (htext : ∀ c ∈ text.toList, isNumberChar c = true) : WellFormed (.number text)
  | string (s : String) : WellFormed (.string s)
  | array {items : List Value} (hitems : ∀ v ∈ items, WellFormed v) : WellFormed (.array items)
  | object {fields : List (String × Value)} (hfields : ∀ e ∈ fields, WellFormed e.2) : WellFormed (.object fields)

/-- What kind of value a text begins. -/
def kindOf (c : Char) : Nat :=
  if c = 'n' then 1
  else if c = 't' ∨ c = 'f' then 2
  else if isNumberChar c then 3
  else if c = '"' then 4
  else if c = '[' then 5
  else if c = '\x7b' then 6
  else 0

def kind : Value → Nat
  | .null => 1
  | .bool _ => 2
  | .number _ => 3
  | .string _ => 4
  | .array _ => 5
  | .object _ => 6

/-- The first character of a value's text tells its kind. -/
theorem toJson_head {v : Value} (h : v.WellFormed) : ∃ c cs, v.toJson.toList = c :: cs ∧ kindOf c = v.kind := by
  cases h with
  | null => exact ⟨'n', _, by rw [toJson]; rfl, rfl⟩
  | bool b =>
    cases b with
    | true => exact ⟨'t', _, by rw [toJson]; rfl, rfl⟩
    | false => exact ⟨'f', _, by rw [toJson]; rfl, rfl⟩
  | number hne htext =>
    rename_i text
    obtain ⟨c, cs, hcs⟩ := List.exists_cons_of_ne_nil (show text.toList ≠ [] by simpa using hne)
    refine ⟨c, cs, by rw [toJson, hcs], ?_⟩
    have hc := htext c (by rw [hcs]; exact List.mem_cons_self)
    have hn : c ≠ 'n' ∧ c ≠ 't' ∧ c ≠ 'f' := by
      refine ⟨?_, ?_, ?_⟩ <;> rintro rfl <;> exact absurd hc (by decide)
    rw [kindOf, if_neg hn.1, if_neg (not_or.2 hn.2), if_pos hc]
    rfl
  | string s => exact ⟨'"', _, by rw [toJson, ← List.append_nil (quoteJson s).toList, quoteJson_append], rfl⟩
  | array _ => exact ⟨'[', _, by rw [toJson, String.toList_append, String.toList_append]; rfl, rfl⟩
  | object _ => exact ⟨'\x7b', _, by rw [toJson, String.toList_append, String.toList_append]; rfl, rfl⟩

/-- What may follow a value in a text. -/
def Follows (rest : List Char) : Prop := ∀ c ∈ rest.head?, c = ',' ∨ c = ']' ∨ c = '\x7d'

theorem Follows.not_number {rest : List Char} (h : Follows rest) : ∀ c ∈ rest.head?, isNumberChar c = false := by
  intro c hc
  obtain rfl | rfl | rfl := h c hc <;> rfl

theorem follows_cons {c : Char} (h : c = ',' ∨ c = ']' ∨ c = '\x7d') (rest : List Char) : Follows (c :: rest) := by
  intro d hd
  obtain rfl := Option.some.inj hd
  exact h

/-- A text that begins as a value does goes on as the same kind of value. -/
theorem kind_eq {v w : Value} {rest rest' : List Char} (hv : v.WellFormed) (hw : w.WellFormed)
    (h : v.toJson.toList ++ rest = w.toJson.toList ++ rest') : v.kind = w.kind := by
  obtain ⟨c, cs, hcs, hkind⟩ := toJson_head hv
  obtain ⟨d, ds, hds, hkind'⟩ := toJson_head hw
  rw [hcs, hds] at h
  rw [← hkind, ← hkind', (List.cons.inj h).1]

theorem not_closing_of_kind {v : Value} (hv : v.WellFormed) {c : Char} (hc : kindOf c = 0) {rest rest' : List Char} :
    c :: rest ≠ v.toJson.toList ++ rest' := by
  obtain ⟨d, ds, hds, hkind⟩ := toJson_head hv
  rw [hds]
  intro h
  rw [(List.cons.inj h).1, hkind] at hc
  cases v <;> cases hc

/-- What follows the first item of an array. -/
def itemsTail : List Value → String
  | [] => ""
  | w :: ws => "," ++ itemsJson (w :: ws)

theorem itemsJson_cons (v : Value) (vs : List Value) : itemsJson (v :: vs) = v.toJson ++ itemsTail vs := by
  cases vs with
  | nil => rw [itemsJson, itemsTail, String.append_empty]
  | cons w ws => rw [itemsJson, itemsTail, String.append_assoc]

/-- What follows the first field of an object. -/
def fieldsTail : List (String × Value) → String
  | [] => ""
  | e :: es => "," ++ fieldsJson (e :: es)

theorem fieldsJson_cons (k : String) (v : Value) (es : List (String × Value)) :
    fieldsJson ((k, v) :: es) = quoteJson k ++ ":" ++ v.toJson ++ fieldsTail es := by
  cases es with
  | nil => rw [fieldsJson, fieldsTail, String.append_empty]
  | cons e es => rw [fieldsJson, fieldsTail, String.append_assoc]

theorem follows_itemsTail (vs : List Value) (rest : List Char) : Follows ((itemsTail vs).toList ++ ']' :: rest) := by
  cases vs with
  | nil => exact follows_cons (.inr (.inl rfl)) rest
  | cons w ws =>
    rw [itemsTail, String.toList_append]
    exact follows_cons (.inl rfl) _

theorem follows_fieldsTail (es : List (String × Value)) (rest : List Char) : Follows ((fieldsTail es).toList ++ '\x7d' :: rest) := by
  cases es with
  | nil => exact follows_cons (.inr (.inr rfl)) rest
  | cons e es =>
    rw [fieldsTail, String.toList_append]
    exact follows_cons (.inl rfl) _

mutual

/-- **The text of a value is that of no other**, and ends where it does. -/
theorem toJson_inj : ∀ (v : Value) {w : Value} {rest rest' : List Char}, v.WellFormed → w.WellFormed → Follows rest → Follows rest' →
    v.toJson.toList ++ rest = w.toJson.toList ++ rest' → v = w ∧ rest = rest'
  | .null, w, rest, rest', hv, hw, _, _, h => by
    have hkind := kind_eq hv hw h
    cases w <;> cases hkind
    exact ⟨rfl, List.append_cancel_left h⟩
  | .bool b, w, rest, rest', hv, hw, _, _, h => by
    have hkind := kind_eq hv hw h
    cases w <;> cases hkind
    rename_i b'
    cases b <;> cases b'
    · exact ⟨rfl, List.append_cancel_left h⟩
    · exact absurd (List.cons.inj (show 'f' :: _ = 't' :: _ from h)).1 (by decide)
    · exact absurd (List.cons.inj (show 't' :: _ = 'f' :: _ from h)).1 (by decide)
    · exact ⟨rfl, List.append_cancel_left h⟩
  | .number text, w, rest, rest', hv, hw, hrest, hrest', h => by
    have hkind := kind_eq hv hw h
    cases w <;> cases hkind
    rename_i text'
    cases hv with
    | number hne htext =>
      cases hw with
      | number hne' htext' =>
        rw [toJson, toJson] at h
        have hleft := Regex.takeWhile_append_of_head htext hrest.not_number
        have hright := Regex.takeWhile_append_of_head htext' hrest'.not_number
        rw [h, hright.1, hright.2] at hleft
        rw [String.toList_inj.1 hleft.1, hleft.2]
        exact ⟨rfl, rfl⟩
  | .string s, w, rest, rest', hv, hw, _, _, h => by
    have hkind := kind_eq hv hw h
    cases w <;> cases hkind
    rw [toJson, toJson] at h
    obtain ⟨rfl, hrest⟩ := quoteJson_inj h
    exact ⟨rfl, hrest⟩
  | .array items, w, rest, rest', hv, hw, _, _, h => by
    have hkind := kind_eq hv hw h
    cases w <;> cases hkind
    rename_i items'
    cases hv with
    | array hitems =>
      cases hw with
      | array hitems' =>
        rw [toJson, toJson] at h
        simp only [String.toList_append, List.append_assoc] at h
        obtain ⟨rfl, hrest⟩ := itemsJson_inj items hitems hitems' (List.append_cancel_left h)
        exact ⟨rfl, hrest⟩
  | .object fields, w, rest, rest', hv, hw, _, _, h => by
    have hkind := kind_eq hv hw h
    cases w <;> cases hkind
    rename_i fields'
    cases hv with
    | object hfields =>
      cases hw with
      | object hfields' =>
        rw [toJson, toJson] at h
        simp only [String.toList_append, List.append_assoc] at h
        obtain ⟨rfl, hrest⟩ := fieldsJson_inj fields hfields hfields' (List.append_cancel_left h)
        exact ⟨rfl, hrest⟩

theorem itemsJson_inj : ∀ (vs : List Value) {ws : List Value} {rest rest' : List Char}, (∀ v ∈ vs, v.WellFormed) →
    (∀ w ∈ ws, w.WellFormed) → (itemsJson vs).toList ++ ("]".toList ++ rest) = (itemsJson ws).toList ++ ("]".toList ++ rest') →
    vs = ws ∧ rest = rest'
  | [], ws, rest, rest', _, hws, h => by
    cases ws with
    | nil => exact ⟨rfl, (List.cons.inj h).2⟩
    | cons w ws =>
      rw [itemsJson_cons, String.toList_append, List.append_assoc] at h
      exact absurd h (not_closing_of_kind (hws w List.mem_cons_self) rfl)
  | v :: vs, ws, rest, rest', hvs, hws, h => by
    cases ws with
    | nil =>
      rw [itemsJson_cons, String.toList_append, List.append_assoc] at h
      exact absurd h.symm (not_closing_of_kind (hvs v List.mem_cons_self) rfl)
    | cons w ws =>
      rw [itemsJson_cons, itemsJson_cons, String.toList_append, String.toList_append, List.append_assoc, List.append_assoc] at h
      obtain ⟨rfl, htail⟩ := toJson_inj v (hvs v List.mem_cons_self) (hws w List.mem_cons_self) (follows_itemsTail vs rest)
        (follows_itemsTail ws rest') h
      cases vs with
      | nil =>
        cases ws with
        | nil => exact ⟨rfl, (List.cons.inj htail).2⟩
        | cons w ws =>
          rw [itemsTail, itemsTail, String.toList_append] at htail
          exact absurd (List.cons.inj (show ']' :: _ = ',' :: _ from htail)).1 (by decide)
      | cons v' vs =>
        cases ws with
        | nil =>
          rw [itemsTail, itemsTail, String.toList_append] at htail
          exact absurd (List.cons.inj (show ',' :: _ = ']' :: _ from htail)).1 (by decide)
        | cons w ws =>
          rw [itemsTail, itemsTail, String.toList_append, String.toList_append, List.append_assoc, List.append_assoc] at htail
          obtain ⟨heq, hrest⟩ := itemsJson_inj (v' :: vs) (fun u hu => hvs u (List.mem_cons_of_mem _ hu))
            (fun u hu => hws u (List.mem_cons_of_mem _ hu)) (List.append_cancel_left htail)
          exact ⟨by rw [heq], hrest⟩

theorem fieldsJson_inj : ∀ (es : List (String × Value)) {fs : List (String × Value)} {rest rest' : List Char},
    (∀ e ∈ es, e.2.WellFormed) → (∀ f ∈ fs, f.2.WellFormed) →
    (fieldsJson es).toList ++ ("\x7d".toList ++ rest) = (fieldsJson fs).toList ++ ("\x7d".toList ++ rest') → es = fs ∧ rest = rest'
  | [], fs, rest, rest', _, hfs, h => by
    cases fs with
    | nil => exact ⟨rfl, (List.cons.inj h).2⟩
    | cons f fs =>
      obtain ⟨k, w⟩ := f
      rw [fieldsJson_cons] at h
      simp only [String.toList_append, List.append_assoc] at h
      rw [quoteJson_append] at h
      exact absurd (List.cons.inj (show '\x7d' :: _ = '"' :: _ from h)).1 (by decide)
  | (k, v) :: es, fs, rest, rest', hes, hfs, h => by
    cases fs with
    | nil =>
      rw [fieldsJson_cons] at h
      simp only [String.toList_append, List.append_assoc] at h
      rw [quoteJson_append] at h
      exact absurd (List.cons.inj (show '"' :: _ = '\x7d' :: _ from h)).1 (by decide)
    | cons f fs =>
      obtain ⟨l, w⟩ := f
      rw [fieldsJson_cons, fieldsJson_cons] at h
      simp only [String.toList_append, List.append_assoc] at h
      obtain ⟨rfl, hvalue⟩ := quoteJson_inj h
      obtain ⟨rfl, htail⟩ := toJson_inj v (hes (k, v) List.mem_cons_self) (hfs (k, w) List.mem_cons_self) (follows_fieldsTail es rest)
        (follows_fieldsTail fs rest') (List.append_cancel_left hvalue)
      cases es with
      | nil =>
        cases fs with
        | nil => exact ⟨rfl, (List.cons.inj htail).2⟩
        | cons f fs =>
          rw [fieldsTail, fieldsTail, String.toList_append] at htail
          exact absurd (List.cons.inj (show '\x7d' :: _ = ',' :: _ from htail)).1 (by decide)
      | cons e es =>
        cases fs with
        | nil =>
          rw [fieldsTail, fieldsTail, String.toList_append] at htail
          exact absurd (List.cons.inj (show ',' :: _ = '\x7d' :: _ from htail)).1 (by decide)
        | cons f fs =>
          rw [fieldsTail, fieldsTail, String.toList_append, String.toList_append, List.append_assoc, List.append_assoc] at htail
          obtain ⟨heq, hrest⟩ := fieldsJson_inj (e :: es) (fun u hu => hes u (List.mem_cons_of_mem _ hu))
            (fun u hu => hfs u (List.mem_cons_of_mem _ hu)) (List.append_cancel_left htail)
          exact ⟨by rw [heq], hrest⟩

end

end Value

/-! ## Queries -/

theorem toString_inj {n m : Nat} (h : toString n = toString m) : n = m := by
  have hdigits := congrArg (fun s : String => Nat.ofDigitChars 10 s.toList 0) h
  simpa [Nat.toString_eq_repr, Nat.toList_repr] using hdigits

theorem isNumberChar_of_toString {n : Nat} {c : Char} (h : c ∈ (toString n).toList) : isNumberChar c = true := by
  rw [Nat.toString_eq_repr, Nat.toList_repr] at h
  have hdigit := Nat.isDigit_of_mem_toDigits (by decide) (by decide) h
  have hascii : Str.isAsciiDigit c = true := by
    simpa [Char.isDigit, Str.isAsciiDigit, Char.le_def] using hdigit
  rw [isNumberChar, hascii]
  rfl

namespace Json

theorem optional_inj {α : Type} (write : α → Value) (hnull : ∀ a, write a ≠ .null) (hwrite : ∀ a b, write a = write b → a = b)
    {o o' : Option α} (h : optional write o = optional write o') : o = o' := by
  cases o with
  | none =>
    cases o' with
    | none => rfl
    | some b => exact absurd h.symm (hnull b)
  | some a =>
    cases o' with
    | none => exact absurd h (hnull a)
    | some b => rw [hwrite a b h]

theorem optionalText_inj {o o' : Option String} (h : optionalText o = optionalText o') : o = o' :=
  optional_inj .string (fun _ h => by cases h) (fun _ _ => Value.string.inj) h

theorem optionalCount_inj {o o' : Option Nat} (h : optionalCount o = optionalCount o') : o = o' :=
  optional_inj (fun n => .number (toString n)) (fun _ h => by cases h) (fun _ _ hab => toString_inj (Value.number.inj hab)) h

theorem optionalFlag_inj {o o' : Option Bool} (h : optionalFlag o = optionalFlag o') : o = o' :=
  optional_inj .bool (fun _ h => by cases h) (fun _ _ => Value.bool.inj) h

theorem aggregation_inj {a b : AggregationType} (h : aggregation a = aggregation b) : a = b := by
  cases a <;> cases b <;> simp_all [aggregation]

theorem dateTruncUnit_inj {a b : TimeGranularity} (h : a.dateTruncUnit = b.dateTruncUnit) : a = b := by
  cases a <;> cases b <;> first | rfl | exact absurd h (by decide)

theorem debugName_inj {a b : FilterOperator} (h : a.debugName = b.debugName) : a = b := by
  cases a <;> cases b <;> first | rfl | exact absurd h (by decide)

theorem formula_inj {a b : Formula} (h : formula a = formula b) : a = b := by
  cases a
  cases b
  simp only [formula, Value.object.injEq, List.cons.injEq, Prod.mk.injEq, Value.string.injEq, true_and, and_true] at h
  obtain ⟨rfl, hlabel, hformat⟩ := h
  rw [optionalText_inj hlabel, optionalText_inj hformat]

theorem measure_inj {a b : Measure} (h : measure a = measure b) : a = b := by
  cases a
  cases b
  simp only [measure, Value.object.injEq, List.cons.injEq, Prod.mk.injEq, true_and, and_true] at h
  obtain ⟨hformula, haggregation⟩ := h
  rw [formula_inj hformula, aggregation_inj haggregation]

theorem dimension_inj {a b : Dimension} (h : dimension a = dimension b) : a = b := by
  cases a
  cases b
  simp only [dimension, Value.object.injEq, List.cons.injEq, Prod.mk.injEq, Value.string.injEq, true_and, and_true] at h
  obtain ⟨rfl, hlabel⟩ := h
  rw [optionalText_inj hlabel]

theorem timeDimension_inj {a b : TimeDimension} (h : timeDimension a = timeDimension b) : a = b := by
  cases a
  cases b
  simp only [timeDimension, Value.object.injEq, List.cons.injEq, Prod.mk.injEq, Value.string.injEq, true_and, and_true] at h
  obtain ⟨rfl, hgranularity, hlabel⟩ := h
  rw [dateTruncUnit_inj hgranularity, optionalText_inj hlabel]

theorem filter_inj {a b : Filter} (h : filter a = filter b) : a = b := by
  cases a
  cases b
  simp only [filter, Value.object.injEq, List.cons.injEq, Prod.mk.injEq, Value.string.injEq, Value.bool.injEq, true_and, and_true] at h
  obtain ⟨rfl, hoperator, rfl, rfl⟩ := h
  rw [debugName_inj hoperator]

theorem orderBy_inj {a b : OrderBy} (h : orderBy a = orderBy b) : a = b := by
  cases a
  cases b
  simp only [orderBy, Value.object.injEq, List.cons.injEq, Prod.mk.injEq, Value.string.injEq, Value.bool.injEq, true_and, and_true] at h
  obtain ⟨rfl, rfl⟩ := h
  rfl

theorem sourceSpec_inj {a b : SourceSpec} (h : sourceSpec a = sourceSpec b) : a = b := by
  cases a
  cases b
  simp only [sourceSpec, Value.object.injEq, List.cons.injEq, Prod.mk.injEq, Value.string.injEq, true_and, and_true] at h
  obtain ⟨rfl, hdatasource, halias⟩ := h
  rw [optionalText_inj hdatasource, optionalText_inj halias]

theorem query_inj {a b : Query} (h : query a = query b) : a = b := by
  cases a
  cases b
  simp only [query, Value.object.injEq, List.cons.injEq, Prod.mk.injEq, Value.array.injEq, true_and, and_true] at h
  obtain ⟨hname, hsource, hmeasures, hdimensions, htimes, hfilters, horder, hlimit, hoffset, hperiods, hdistinct, hstage⟩ := h
  rw [optionalText_inj hname, optional_inj sourceSpec (fun _ h => by cases h) (fun _ _ => sourceSpec_inj) hsource,
    List.map_injective_iff.2 (fun _ _ => measure_inj) hmeasures, List.map_injective_iff.2 (fun _ _ => dimension_inj) hdimensions,
    List.map_injective_iff.2 (fun _ _ => timeDimension_inj) htimes, List.map_injective_iff.2 (fun _ _ => filter_inj) hfilters,
    List.map_injective_iff.2 (fun _ _ => orderBy_inj) horder, optionalCount_inj hlimit, optionalCount_inj hoffset,
    optionalFlag_inj hperiods, optionalFlag_inj hdistinct, optionalText_inj hstage]

theorem wellFormed_optional {α : Type} {write : α → Value} (hwrite : ∀ a, (write a).WellFormed) (o : Option α) : (optional write o).WellFormed := by
  cases o with
  | none => exact .null
  | some a => exact hwrite a

theorem wellFormed_optionalText (o : Option String) : (optionalText o).WellFormed := wellFormed_optional .string o

theorem wellFormed_optionalCount (o : Option Nat) : (optionalCount o).WellFormed := by
  refine wellFormed_optional (fun n => .number ?_ fun c hc => isNumberChar_of_toString hc) o
  intro hempty
  have hdigits := congrArg String.toList hempty
  rw [Nat.toString_eq_repr, Nat.toList_repr] at hdigits
  exact Nat.toDigits_ne_nil hdigits

theorem wellFormed_optionalFlag (o : Option Bool) : (optionalFlag o).WellFormed := wellFormed_optional .bool o

theorem wellFormed_fields {fields : List (String × Value)} (h : (fields.map (·.2)).Forall Value.WellFormed) : (Value.object fields).WellFormed := by
  refine .object fun e he => ?_
  exact List.forall_iff_forall_mem.1 h _ (List.mem_map_of_mem he)

theorem wellFormed_aggregation (a : AggregationType) : (aggregation a).WellFormed := by
  cases a with
  | custom name => exact wellFormed_fields (.string name)
  | _ => exact .string _

theorem wellFormed_measure (m : Measure) : (measure m).WellFormed :=
  wellFormed_fields ⟨wellFormed_fields ⟨.string _, wellFormed_optionalText _, wellFormed_optionalText _⟩, wellFormed_aggregation _⟩

theorem wellFormed_dimension (d : Dimension) : (dimension d).WellFormed := wellFormed_fields ⟨.string _, wellFormed_optionalText _⟩

theorem wellFormed_timeDimension (td : TimeDimension) : (timeDimension td).WellFormed :=
  wellFormed_fields ⟨.string _, .string _, wellFormed_optionalText _⟩

theorem wellFormed_filter {f : Filter} (h : f.value.WellFormed) : (filter f).WellFormed := wellFormed_fields ⟨.string _, .string _, h, .bool _⟩

theorem wellFormed_orderBy (o : OrderBy) : (orderBy o).WellFormed := wellFormed_fields ⟨.string _, .bool _⟩

theorem wellFormed_sourceSpec (s : SourceSpec) : (sourceSpec s).WellFormed :=
  wellFormed_fields ⟨.string _, wellFormed_optionalText _, wellFormed_optionalText _⟩

theorem wellFormed_map {α : Type} {write : α → Value} {as : List α} (h : ∀ a ∈ as, (write a).WellFormed) : (Value.array (as.map write)).WellFormed := by
  refine .array fun v hv => ?_
  obtain ⟨a, ha, rfl⟩ := List.mem_map.1 hv
  exact h a ha

end Json

/-- The values of a query's filters are JSON values. -/
def Query.WellFormed (q : Query) : Prop := ∀ f ∈ q.filters, f.value.WellFormed

theorem Json.wellFormed_query {q : Query} (h : q.WellFormed) : (Json.query q).WellFormed :=
  wellFormed_fields ⟨wellFormed_optionalText _, wellFormed_optional wellFormed_sourceSpec _, wellFormed_map fun m _ => wellFormed_measure m,
    wellFormed_map fun d _ => wellFormed_dimension d, wellFormed_map fun td _ => wellFormed_timeDimension td,
    wellFormed_map fun f hf => wellFormed_filter (h f hf), wellFormed_map fun o _ => wellFormed_orderBy o, wellFormed_optionalCount _,
    wellFormed_optionalCount _, wellFormed_optionalFlag _, wellFormed_optionalFlag _, wellFormed_optionalText _⟩

/-- **The JSON text of a query is that of no other.** -/
theorem Query.toJson_inj {q q' : Query} (hq : q.WellFormed) (hq' : q'.WellFormed) (h : q.toJson = q'.toJson) : q = q' := by
  have hempty : Value.Follows [] := fun c hc => by cases hc
  refine Json.query_inj ((Json.query q).toJson_inj (Json.wellFormed_query hq) (Json.wellFormed_query hq') hempty hempty ?_).1
  exact congrArg (fun s => s.toList ++ []) h

/-! ## Texts of one line -/

namespace Value

/-- A character that does not break a line, nor is any other control character. -/
def Shown (c : Char) : Prop := 32 ≤ c.toNat

theorem shown_of_number {c : Char} (h : isNumberChar c = true) : Shown c := by
  simp only [isNumberChar, Bool.or_eq_true, Str.isAsciiDigit, Bool.and_eq_true, decide_eq_true_eq, beq_iff_eq] at h
  rcases h with ((((⟨h, -⟩ | rfl) | rfl) | rfl) | rfl) | rfl
  · have hle : '0'.toNat ≤ c.toNat := h
    exact Nat.le_trans (by decide) hle
  all_goals
    unfold Shown
    decide

theorem shown_escapeChar (c : Char) : ∀ d ∈ (escapeChar c).toList, Shown d := by
  have hall : (escapeChar c).toList.all (fun d => decide (32 ≤ d.toNat)) = true := by
    by_cases h32 : c.toNat < 32
    · obtain ⟨n, hn⟩ : ∃ n, c.toNat = n := ⟨_, rfl⟩
      rw [hn] at h32
      rw [← Char.ofNat_toNat c, hn]
      clear hn
      interval_cases n <;> rfl
    · unfold escapeChar
      split_ifs with hquote hslash h8 h9 h10 h12 h13
      · rfl
      · rfl
      · omega
      · omega
      · omega
      · omega
      · omega
      · simpa using h32
  intro d hd
  have hd32 := List.all_eq_true.1 hall d hd
  simpa [Shown] using hd32

theorem shown_quoteJson (s : String) : ∀ c ∈ (quoteJson s).toList, Shown c := by
  intro c hc
  simp only [quoteJson, String.toList_append, String.toList_ofList, List.mem_append, List.mem_flatMap] at hc
  rcases hc with (hc | ⟨d, -, hc⟩) | hc
  · rw [List.mem_singleton.1 hc]
    unfold Shown
    decide
  · exact shown_escapeChar d c hc
  · rw [List.mem_singleton.1 hc]
    unfold Shown
    decide

theorem shown_append {s t : String} (hs : ∀ c ∈ s.toList, Shown c) (ht : ∀ c ∈ t.toList, Shown c) :
    ∀ c ∈ (s ++ t).toList, Shown c := by
  intro c hc
  rw [String.toList_append] at hc
  rcases List.mem_append.1 hc with hc | hc
  · exact hs c hc
  · exact ht c hc

theorem shown_itemsJson {items : List Value} (h : ∀ v ∈ items, ∀ c ∈ v.toJson.toList, Shown c) :
    ∀ c ∈ (itemsJson items).toList, Shown c := by
  induction items with
  | nil => simp [itemsJson]
  | cons v vs ih =>
    rw [itemsJson_cons]
    apply shown_append (h v List.mem_cons_self)
    cases vs with
    | nil => simp [itemsTail]
    | cons w ws =>
      rw [itemsTail]
      exact shown_append (by simp [Shown]) (ih fun u hu => h u (List.mem_cons_of_mem v hu))

theorem shown_fieldsJson {fields : List (String × Value)} (h : ∀ e ∈ fields, ∀ c ∈ e.2.toJson.toList, Shown c) :
    ∀ c ∈ (fieldsJson fields).toList, Shown c := by
  induction fields with
  | nil => simp [fieldsJson]
  | cons e es ih =>
    obtain ⟨k, v⟩ := e
    rw [fieldsJson_cons]
    apply shown_append (shown_append (shown_append (shown_quoteJson k) (by simp [Shown])) (h (k, v) List.mem_cons_self))
    cases es with
    | nil => simp [fieldsTail]
    | cons e' es =>
      rw [fieldsTail]
      exact shown_append (by simp [Shown]) (ih fun u hu => h u (List.mem_cons_of_mem _ hu))

/-- **The text of a value is one line.** -/
theorem shown_toJson {v : Value} (h : v.WellFormed) : ∀ c ∈ v.toJson.toList, Shown c := by
  induction h with
  | null => simp [toJson, Shown]
  | bool b => cases b <;> simp [toJson, Shown]
  | number hne htext =>
    rw [toJson]
    exact fun c hc => shown_of_number (htext c hc)
  | string s =>
    rw [toJson]
    exact shown_quoteJson s
  | array hitems ih =>
    rw [toJson]
    exact shown_append (shown_append (by simp [Shown]) (shown_itemsJson ih)) (by simp [Shown])
  | object hfields ih =>
    rw [toJson]
    exact shown_append (shown_append (by simp [Shown]) (shown_fieldsJson ih)) (by simp [Shown])

/-- A value's text is no other's. -/
theorem eq_of_toJson {v w : Value} (hv : v.WellFormed) (hw : w.WellFormed) (h : v.toJson = w.toJson) : v = w := by
  have hempty : Follows [] := fun c hc => by cases hc
  exact (v.toJson_inj hv hw hempty hempty (congrArg (fun s => s.toList ++ []) h)).1

end Value

end GraphNight
