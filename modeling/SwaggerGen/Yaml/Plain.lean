import SwaggerGen.Text.Decimal

/-!
# Plain scalars that are not strings

What a plain scalar of YAML is read as: null, a truth value, an integer of up to 128 bits, a finite
number, an infinity, or else a string. A run of digits that begins with a needless zero is a string, but
other readers take it for a number, so it counts as ambiguous here.
-/

namespace SwaggerGen.Yaml

open Text (decimal? number? withoutSign)

/-- The words for null, and nothing at all. -/
def isNull (s : List Char) : Bool :=
  s.isEmpty || ["~", "null", "Null", "NULL"].any (·.toList == s)

def isBoolean (s : List Char) : Bool :=
  ["true", "True", "TRUE", "false", "False", "FALSE"].any (·.toList == s)

/-- Digits with a needless zero in front, a sign before them or not. -/
def isPaddedDigits (s : List Char) : Bool :=
  match withoutSign s with
  | '0' :: c :: rest => (c :: rest).all Char.isDigit
  | _ => false

/-- The number behind a sign: in base sixteen, eight or two after `0x`, `0o` or `0b`, or else in base
ten. -/
def magnitude? (s : List Char) : Option Nat :=
  match s with
  | '0' :: 'x' :: digits => number? 16 digits
  | '0' :: 'o' :: digits => number? 8 digits
  | '0' :: 'b' :: digits => number? 2 digits
  | digits => number? 10 digits

/-- An integer of up to 128 bits; a negative one has one bit less. -/
def isInteger (s : List Char) : Bool :=
  !isPaddedDigits s &&
    match s with
    | '-' :: rest => (magnitude? rest).any (· ≤ Nat.pow 2 127)
    | '+' :: rest => (magnitude? rest).any (· < Nat.pow 2 128)
    | s => (magnitude? s).any (· < Nat.pow 2 128)

/-- Numbers from here on are too large for a double, even after rounding. -/
def doubleBound : Nat := Nat.pow 2 1024 - Nat.pow 2 970

/-- Whether a decimal stays below the bound of doubles. Only decimals with a leading digit of about the
same size as the bound's are compared in full. -/
def isBelowDoubleBound (digits : List Char) (exponent : Int) : Bool :=
  let significant := digits.dropWhile (· == '0')
  let size := exponent + significant.length
  if significant.isEmpty || size ≤ 308 then true
  else if size ≥ 310 then false
  else
    let n := (number? 10 significant).getD 0
    n * Nat.pow 10 exponent.toNat < doubleBound * Nat.pow 10 (-exponent).toNat

def isInfinity (s : List Char) : Bool := [".inf", ".Inf", ".INF"].any (·.toList == s)

/-- The words for a result that is no number. -/
def isNaN (s : List Char) : Bool := [".nan", ".NaN", ".NAN"].any (·.toList == s)

/-- A finite decimal, an infinity, or no number. -/
def isFloat (s : List Char) : Bool :=
  isInfinity (withoutSign s) || isNaN s ||
    (!isPaddedDigits s &&
      (decimal? (withoutSign s)).any fun (digits, exponent) => isBelowDoubleBound digits exponent)

/-- Whether a plain scalar would be read as something other than the string it shows, or could be. -/
def isAmbiguous (s : List Char) : Bool :=
  isNull s || isBoolean s || isInteger s || isFloat s || isPaddedDigits s

end SwaggerGen.Yaml
