/-!
# `serde_json::Value`

A number is kept as the text serde_json prints for it. An object is the list of
its entries in the map's order.
-/

namespace GraphNight

/-- `serde_json::Value`. -/
inductive Value where
  | null
  | bool (b : Bool)
  | number (text : String)
  | string (s : String)
  | array (items : List Value)
  | object (fields : List (String × Value))
deriving Repr, Inhabited

namespace Value

mutual

/-- Equality test, by recursion on the tree. -/
def same : Value → Value → Bool
  | null, null => true
  | bool a, bool b => a == b
  | number a, number b => a == b
  | string a, string b => a == b
  | array as, array bs => sameItems as bs
  | object as, object bs => sameFields as bs
  | _, _ => false

def sameItems : List Value → List Value → Bool
  | [], [] => true
  | a :: as, b :: bs => same a b && sameItems as bs
  | _, _ => false

def sameFields : List (String × Value) → List (String × Value) → Bool
  | [], [] => true
  | (k, a) :: as, (l, b) :: bs => k == l && same a b && sameFields as bs
  | _, _ => false

end

mutual

theorem same_iff : ∀ a b : Value, same a b = true ↔ a = b
  | null, b => by cases b <;> simp [same]
  | bool _, b => by cases b <;> simp [same]
  | number _, b => by cases b <;> simp [same]
  | string _, b => by cases b <;> simp [same]
  | array as, b => by cases b <;> simp [same, sameItems_iff as]
  | object as, b => by cases b <;> simp [same, sameFields_iff as]

theorem sameItems_iff : ∀ as bs : List Value, sameItems as bs = true ↔ as = bs
  | [], bs => by cases bs <;> simp [sameItems]
  | a :: as, bs => by cases bs <;> simp [sameItems, same_iff a, sameItems_iff as]

theorem sameFields_iff : ∀ as bs : List (String × Value), sameFields as bs = true ↔ as = bs
  | [], bs => by cases bs <;> simp [sameFields]
  | (k, a) :: as, bs => by
    cases bs with
    | nil => simp [sameFields]
    | cons b bs =>
      obtain ⟨l, b⟩ := b
      simp [sameFields, same_iff a, sameFields_iff as]

end

instance : DecidableEq Value := fun a b => decidable_of_iff _ (same_iff a b)

/-- The escape serde_json writes for one character of a string. -/
def escapeChar (c : Char) : String :=
  if c = '"' then "\\\""
  else if c = '\\' then "\\\\"
  else if c.toNat = 8 then "\\b"
  else if c.toNat = 9 then "\\t"
  else if c.toNat = 10 then "\\n"
  else if c.toNat = 12 then "\\f"
  else if c.toNat = 13 then "\\r"
  else if c.toNat < 32 then
    "\\u00" ++ String.ofList [Nat.digitChar (c.toNat / 16), Nat.digitChar (c.toNat % 16)]
  else String.singleton c

/-- A JSON string literal. -/
def quoteJson (s : String) : String :=
  "\"" ++ String.ofList (s.toList.flatMap fun c => (escapeChar c).toList) ++ "\""

mutual

/-- `Value::to_string`: compact JSON. -/
def toJson : Value → String
  | null => "null"
  | bool b => if b then "true" else "false"
  | number n => n
  | string s => quoteJson s
  | array items => "[" ++ itemsJson items ++ "]"
  | object fields => "\x7b" ++ fieldsJson fields ++ "\x7d"

def itemsJson : List Value → String
  | [] => ""
  | [v] => toJson v
  | v :: w :: vs => toJson v ++ "," ++ itemsJson (w :: vs)

def fieldsJson : List (String × Value) → String
  | [] => ""
  | [(k, v)] => quoteJson k ++ ":" ++ toJson v
  | (k, v) :: e :: es => quoteJson k ++ ":" ++ toJson v ++ "," ++ fieldsJson (e :: es)

end

/-- `Value::as_array`. -/
def asArray : Value → Option (List Value)
  | array items => some items
  | _ => none

/-- `Value::as_str`. -/
def asStr : Value → Option String
  | string s => some s
  | _ => none

end Value

end GraphNight
