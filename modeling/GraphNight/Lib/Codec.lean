import GraphNight.Lib.Fault

/-!
# Serialisation

What a format makes of a value, and what it reads a text as. Both directions may fail.
-/

/-- A text format of the values of a type. -/
structure Codec (α : Type) where
  write : α → Res String String
  read : String → Res String α

namespace Codec

variable {α : Type}

/-- What was written is read back as it was. -/
def RoundTrips (c : Codec α) : Prop := ∀ a text, c.write a = .ok text → c.read text = .ok a

/-- Every value can be written. -/
def Total (c : Codec α) : Prop := ∀ a, ∃ text, c.write a = .ok text

end Codec
