import SwaggerGen.Text.Digits

/-!
# Decimals in a text

A decimal has digits before or behind a point, or both, and perhaps an exponent of ten behind `e`. A sign
may stand in front of it.
-/

namespace SwaggerGen.Text

def withoutSign : List Char → List Char
  | '+' :: rest => rest
  | '-' :: rest => rest
  | s => s

/-- The exponent that a text ends with: zero for no text, the number behind `e` and a sign, or nothing
for a text of another form. -/
def exponent? : List Char → Option Int
  | [] => some 0
  | c :: rest =>
      if c = 'e' ∨ c = 'E' then
        match rest with
        | '-' :: digits => (number? 10 digits).map fun n => -(n : Int)
        | '+' :: digits => (number? 10 digits).map Int.ofNat
        | digits => (number? 10 digits).map Int.ofNat
      else none

/-- The digits and the exponent of a decimal without a sign. -/
def decimal? (s : List Char) : Option (List Char × Int) :=
  let whole := s.takeWhile Char.isDigit
  match s.dropWhile Char.isDigit with
  | '.' :: rest =>
      let fraction := rest.takeWhile Char.isDigit
      if whole.isEmpty && fraction.isEmpty then none
      else (exponent? (rest.dropWhile Char.isDigit)).map fun e => (whole ++ fraction, e - fraction.length)
  | rest => if whole.isEmpty then none else (exponent? rest).map (whole, ·)

end SwaggerGen.Text
