import GraphNight.Core.RustStd
import GraphNight.Core.Security
import GraphNight.Lib.Padding
import GraphNight.Lib.Utf8

/-!
# Built-in mask functions (`graphnight-core/src/security.rs`, `masks`)

`email_mask` and `truncate_mask` slice by bytes: on a character of more than one byte at
the cut they panic, and with them the query that applies the mask.
-/

namespace GraphNight

namespace Masks

def emailMask : MaskFn := fun value =>
  match Str.splitFirst '@' value.toList with
  | some (local', rest) =>
    let domain := String.ofList ('@' :: rest)
    if 2 < Utf8.size local' then
      (Utf8.sliceTo local' 1).bind fun first => (Utf8.sliceFrom local' (Utf8.size local' - 1)).map fun last =>
        String.ofList first ++ "***" ++ String.ofList last ++ domain
    else some ("***" ++ domain)
  | none => some "***"

/-- The digits of a value: `digits` in `phone_mask` and `credit_card_mask`. -/
def digits (value : String) : List Char := value.toList.filter Str.isAsciiDigit

/-- `&digits[digits.len() - 4..]`; a digit is one byte. -/
def lastFour (value : String) : List Char := (digits value).drop ((digits value).length - 4)

def phoneMask : MaskFn := fun value =>
  some (if 10 ≤ (digits value).length then "(***) ***-" ++ String.ofList ((lastFour value).leftpad 4 '0') else "***-***-****")

def ssnMask : MaskFn := fun _ => some "***-**-****"

def creditCardMask : MaskFn := fun value =>
  some (if 4 ≤ (digits value).length then "**** **** **** " ++ String.ofList ((lastFour value).leftpad 4 ' ')
    else "**** **** **** ****")

def hashMask (std : RustStd) : MaskFn := fun value =>
  some ("hash_" ++ String.ofList (Nat.toDigits 16 (std.hash value).toNat))

def truncateMask (len : Nat) : MaskFn := fun value =>
  if len < Utf8.size value.toList then (Utf8.sliceTo value.toList len).map fun front => String.ofList front ++ "..."
  else some value

end Masks

/-- The functions of `masks`. -/
inductive Mask where
  | email
  | phone
  | ssn
  | creditCard
  | hash
  | truncate (len : Nat)
deriving DecidableEq, Repr

/-- What a mask is documented to let through of a value. -/
inductive Revealed where
  | nothing
  | domain (domain : List Char)
  | ends (first last : Char) (domain : List Char)
  | lastFour (digits : List Char)
  /-- Nothing is said of what the output hides. -/
  | unspecified (value : String)
deriving DecidableEq

namespace Mask

variable (std : RustStd) {mask : Mask} {value : String}

def apply : Mask → MaskFn
  | email => Masks.emailMask
  | phone => Masks.phoneMask
  | ssn => Masks.ssnMask
  | creditCard => Masks.creditCardMask
  | hash => Masks.hashMask std
  | truncate len => Masks.truncateMask len

/-- The first and last character of a local part longer than two, and the domain; the last
four digits where there are as many as a number has. -/
def revealed : Mask → String → Revealed
  | email, value =>
    match Str.splitFirst '@' value.toList with
    | some (local', domain) =>
      match local'.head?, local'.getLast? with
      | some first, some last => if 2 < local'.length then .ends first last domain else .domain domain
      | _, _ => .domain domain
    | none => .nothing
  | phone, value => if 10 ≤ (Masks.digits value).length then .lastFour (Masks.lastFour value) else .nothing
  | ssn, _ => .nothing
  | creditCard, value => if 4 ≤ (Masks.digits value).length then .lastFour (Masks.lastFour value) else .nothing
  | hash, value => .unspecified value
  | truncate _, value => .unspecified value

/-- A mask returns on a value, and what it returns tells no more of the value than what is
revealed: any value with the same revealed part looks the same where the mask returns. -/
def Hides (mask : Mask) (value : String) : Prop :=
  ∃ masked, mask.apply std value = some masked ∧
    ∀ value' masked', mask.revealed value' = mask.revealed value → mask.apply std value' = some masked' → masked' = masked

/-- No cut of the mask is inside a character: a local part of more than two bytes begins
and ends with characters of one byte, a text that is truncated has a boundary there. -/
def CutsBetween : Mask → String → Prop
  | email, value => ∀ local' domain, Str.splitFirst '@' value.toList = some (local', domain) → 2 < Utf8.size local' →
      (∀ c ∈ local'.head?, c.utf8Size = 1) ∧ ∀ c ∈ local'.getLast?, c.utf8Size = 1
  | truncate len, value => len < Utf8.size value.toList → Utf8.IsBoundary value.toList len
  | _, _ => True

/-- What a mask writes for what is revealed. -/
def shown : Mask → Revealed → String
  | email, .domain domain => "***" ++ String.ofList ('@' :: domain)
  | email, .ends first last domain => String.ofList [first] ++ "***" ++ String.ofList [last] ++ String.ofList ('@' :: domain)
  | email, _ => "***"
  | phone, .lastFour digits => "(***) ***-" ++ String.ofList (digits.leftpad 4 '0')
  | phone, _ => "***-***-****"
  | ssn, _ => "***-**-****"
  | creditCard, .lastFour digits => "**** **** **** " ++ String.ofList (digits.leftpad 4 ' ')
  | creditCard, _ => "**** **** **** ****"
  | mask, .unspecified value => (mask.apply std value).getD ""
  | _, _ => ""

/-- More than two bytes between characters of one byte are more than two characters. -/
theorem two_lt_length {cs : List Char} (h : 2 < Utf8.size cs) (hhead : ∀ c ∈ cs.head?, c.utf8Size = 1)
    (hlast : ∀ c ∈ cs.getLast?, c.utf8Size = 1) : 2 < cs.length := by
  match cs with
  | [] => cases h
  | [c] =>
    have := hhead c rfl
    simp only [Utf8.size_cons, Utf8.size_nil] at h
    omega
  | [c, d] =>
    have := hhead c rfl
    have := hlast d rfl
    simp only [Utf8.size_cons, Utf8.size_nil] at h
    omega
  | c :: d :: e :: rest =>
    simp only [List.length_cons]
    omega

theorem email_eq_some {masked : String} :
    Masks.emailMask value = some masked ↔ email.CutsBetween value ∧ masked = email.shown std (email.revealed value) := by
  simp only [Masks.emailMask, CutsBetween, revealed]
  cases hsplit : Str.splitFirst '@' value.toList with
  | none => simp [shown, eq_comm]
  | some p =>
    obtain ⟨local', domain⟩ := p
    have hcuts : (∀ l d, some (local', domain) = some (l, d) → 2 < Utf8.size l →
        (∀ c ∈ l.head?, c.utf8Size = 1) ∧ ∀ c ∈ l.getLast?, c.utf8Size = 1) ↔
        (2 < Utf8.size local' → (∀ c ∈ local'.head?, c.utf8Size = 1) ∧ ∀ c ∈ local'.getLast?, c.utf8Size = 1) := by
      simp
    rw [hcuts]
    dsimp only
    by_cases hsize : 2 < Utf8.size local'
    · have hne : local' ≠ [] := by
        rintro rfl
        cases hsize
      have hfirst := List.head?_eq_some_head hne
      have hlast := List.getLast?_eq_some_getLast hne
      generalize local'.head hne = first at hfirst
      generalize local'.getLast hne = last at hlast
      simp only [hsize, if_true, Option.bind_eq_some_iff, Option.map_eq_some_iff, Utf8.sliceTo_one, Utf8.sliceFrom_last hne,
        hfirst, hlast]
      have hlen : (∀ c ∈ some first, c.utf8Size = 1) → (∀ c ∈ some last, c.utf8Size = 1) → 2 < local'.length := fun h h' =>
        two_lt_length hsize (by rwa [hfirst]) (by rwa [hlast])
      constructor
      · rintro ⟨_, ⟨c, rfl, hc, hone⟩, _, ⟨d, rfl, hd, hone'⟩, rfl⟩
        cases hc
        cases hd
        have hhead : ∀ c ∈ some first, c.utf8Size = 1 := by simpa using hone
        have htail : ∀ c ∈ some last, c.utf8Size = 1 := by simpa using hone'
        exact ⟨fun _ => ⟨hhead, htail⟩, by rw [if_pos (hlen hhead htail)]; rfl⟩
      · rintro ⟨hcut, rfl⟩
        obtain ⟨hhead, htail⟩ := hcut trivial
        rw [if_pos (hlen hhead htail)]
        exact ⟨[first], ⟨first, rfl, rfl, hhead first rfl⟩, [last], ⟨last, rfl, rfl, htail last rfl⟩, rfl⟩
    · have hlen : ¬2 < local'.length := by
        have := Utf8.length_le_size local'
        omega
      simp only [hsize, hlen, if_false, false_implies, true_and, Option.some_inj, eq_comm]
      split <;> simp [shown]

/-- A mask returns where its cuts are between characters, and writes what is revealed. -/
theorem apply_eq_some {masked : String} :
    mask.apply std value = some masked ↔ mask.CutsBetween value ∧ masked = mask.shown std (mask.revealed value) := by
  cases mask with
  | email => exact email_eq_some std
  | phone =>
    by_cases h : 10 ≤ (Masks.digits value).length <;> simp [apply, Masks.phoneMask, CutsBetween, revealed, shown, h, eq_comm]
  | ssn => simp [apply, Masks.ssnMask, CutsBetween, shown, eq_comm]
  | creditCard =>
    by_cases h : 4 ≤ (Masks.digits value).length <;> simp [apply, Masks.creditCardMask, CutsBetween, revealed, shown, h, eq_comm]
  | hash => simp [apply, Masks.hashMask, CutsBetween, revealed, shown, eq_comm]
  | truncate len =>
    simp only [apply, CutsBetween, revealed, shown, ← Utf8.sliceTo_isSome, Masks.truncateMask]
    by_cases hlen : len < Utf8.size value.toList
    · cases Utf8.sliceTo value.toList len with
      | none => simp [hlen]
      | some front =>
        simp only [hlen, if_true, Option.map_some, Option.some_inj, Option.isSome_some, implies_true, true_and, Option.getD_some]
        exact eq_comm
    · simp only [hlen, if_false, false_implies, true_and, Option.some_inj, Option.getD_some]
      exact eq_comm

/-- A mask hides what it is documented to hide on exactly the values it cuts between characters. -/
theorem hides_iff (std : RustStd) (mask : Mask) (value : String) : mask.Hides std value ↔ mask.CutsBetween value := by
  constructor
  · rintro ⟨masked, hmasked, -⟩
    exact ((apply_eq_some std).1 hmasked).1
  · intro hcut
    refine ⟨_, (apply_eq_some std).2 ⟨hcut, rfl⟩, ?_⟩
    intro value' masked' hrevealed hmasked'
    rw [((apply_eq_some std).1 hmasked').2, hrevealed]

/-- A first letter with an accent is two bytes, and `email_mask` takes one of them. -/
theorem accent_panics : Masks.emailMask "émile@x.fr" = none ∧ ¬email.Hides ⟨fun _ => false, id, List.Perm.refl, fun _ => 0, fun _ => none, id⟩ "émile@x.fr" := by
  have hnone : Masks.emailMask "émile@x.fr" = none := by decide
  refine ⟨hnone, ?_⟩
  rintro ⟨masked, hmasked, -⟩
  rw [apply, hnone] at hmasked
  cases hmasked

end Mask

end GraphNight
