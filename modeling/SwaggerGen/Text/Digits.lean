/-!
# Digits

The value of a digit in a base up to sixteen, and of a row of digits. Only the ASCII digits and letters
count.
-/

namespace SwaggerGen.Text

def digit? (base : Nat) (c : Char) : Option Nat :=
  let value :=
    if c.isDigit then c.toNat - '0'.toNat
    else if 'a' ≤ c ∧ c ≤ 'f' then c.toNat - 'a'.toNat + 10
    else if 'A' ≤ c ∧ c ≤ 'F' then c.toNat - 'A'.toNat + 10
    else base
  if value < base then some value else none

/-- The number that digits continue a number to, the most significant first. -/
def continueNumber? (base value : Nat) : List Char → Option Nat
  | [] => some value
  | c :: rest => (digit? base c).bind fun digit => continueNumber? base (value * base + digit) rest

def number? (base : Nat) (digits : List Char) : Option Nat :=
  if digits.isEmpty then none else continueNumber? base 0 digits

def leadingNumber? (base count : Nat) (s : List Char) : Option Nat :=
  if (s.take count).length = count then number? base (s.take count) else none

theorem digit?_lt {base value : Nat} {c : Char} (h : digit? base c = some value) : value < base := by
  obtain ⟨hlt, heq⟩ := Option.ite_none_right_eq_some.mp h
  cases heq
  exact hlt

end SwaggerGen.Text
