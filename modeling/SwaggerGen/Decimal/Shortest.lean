/-!
# Shortest decimals

The decimal with the fewest digits that still reads back as a given double, and its text. The double
is `mantissa · 2 ^ exponent`; the reals that round to it form an interval around it, ends included when
the mantissa is even. For one digit, two digits and so on, the two neighbours of the value on that
decimal grid are tried; the first grid with a hit wins, and of two hits the nearer.
-/

namespace SwaggerGen.Decimal

/-- A positive real `mantissa · 2 ^ exponent`. The gap to the next smaller double is half the usual one
when `narrowBelow` holds. -/
structure Binary where
  mantissa : Nat
  exponent : Int
  narrowBelow : Bool
  deriving DecidableEq, Repr

/-- The magnitude that the bits of a finite double stand for. -/
def Binary.ofBits (bits : UInt64) : Binary :=
  let fraction := bits.toNat % Nat.pow 2 52
  let biased := bits.toNat / Nat.pow 2 52 % Nat.pow 2 11
  if biased = 0 then ⟨fraction, -1074, false⟩
  else ⟨fraction + Nat.pow 2 52, Int.ofNat biased - 1075, fraction == 0 && biased != 1⟩

/-- A decimal `digits · 10 ^ exponent`. -/
structure Scientific where
  digits : Nat
  exponent : Int
  deriving DecidableEq, Repr

/-- The quotient `a · 2 ^ p · 10 ^ e` as a numerator and a denominator. -/
def scaled (a : Nat) (p e : Int) : Nat × Nat :=
  (a * Nat.pow 2 p.toNat * Nat.pow 10 e.toNat, Nat.pow 2 (-p).toNat * Nat.pow 10 (-e).toNat)

def digitCount (n : Nat) : Nat := (Nat.toDigits 10 n).length

/-- The exponent of the leading decimal digit of a binary that is at least `10 ^ -400`. -/
def leadingExponent (b : Binary) : Int :=
  let (num, den) := scaled b.mantissa b.exponent 400
  (digitCount (num / den) : Int) - 401

/-- Whether `d · 10 ^ e` rounds to the binary: four times the mantissa is compared in quarter steps. -/
def Binary.accepts (b : Binary) (d : Nat) (e : Int) : Bool :=
  let (num, den) := scaled d (2 - b.exponent) e
  let low := 4 * b.mantissa - (if b.narrowBelow then 1 else 2)
  let high := 4 * b.mantissa + 2
  if b.mantissa % 2 = 0 then low * den ≤ num && num ≤ high * den
  else low * den < num && num < high * den

/-- The hit on the grid of multiples of `10 ^ e`, if there is one. Of two hits the nearer is taken, and
the even one when both are equally near. -/
def onGrid? (b : Binary) (e : Int) : Option Nat :=
  let (num, den) := scaled b.mantissa b.exponent (-e)
  let below := num / den
  match b.accepts below e, b.accepts (below + 1) e with
  | true, true =>
      let remainder := num % den
      if 2 * remainder < den || (2 * remainder == den && below % 2 == 0) then some below
      else some (below + 1)
  | true, false => some below
  | false, true => some (below + 1)
  | false, false => none

/-- The first grid with a hit, from the coarsest on. -/
def firstHit (b : Binary) (leading : Int) : Nat → Nat → Scientific
  | 0, _ => ⟨b.mantissa, b.exponent⟩
  | tries + 1, count =>
      let e := leading - count
      match onGrid? b e with
      | some d => ⟨d, e⟩
      | none => firstHit b leading tries (count + 1)

/-- The shortest decimal of a binary. Seventeen digits are always enough. -/
def Binary.shortest (b : Binary) : Scientific := firstHit b (leadingExponent b) 17 0

/-- How the digits of a number are laid out. -/
structure Layout where
  /-- The leading digit stands at a power of ten in this range: positional notation. -/
  least : Int
  greatest : Int

def withPoint (digits : List Char) (whole : Nat) : List Char :=
  let fraction := digits.drop whole
  digits.take whole ++ '.' :: (if fraction = [] then ['0'] else fraction)

def zeros (n : Nat) : List Char := List.replicate n '0'

/-- The digits of a decimal without the zeros at its end. -/
def significant (s : Scientific) : List Char :=
  ((Nat.toDigits 10 s.digits).reverse.dropWhile (· == '0')).reverse

/-- The exponent part of scientific notation, always with a sign and without needless zeros. -/
def exponentPart (e : Int) : List Char :=
  ['e', if e < 0 then '-' else '+'] ++ Nat.toDigits 10 e.natAbs

def Scientific.render (layout : Layout) (s : Scientific) : List Char :=
  let digits := significant s
  let leading := s.exponent + digitCount s.digits - 1
  if layout.least ≤ leading ∧ leading ≤ layout.greatest then
    if leading < 0 then '0' :: '.' :: zeros (-leading - 1).toNat ++ digits
    else withPoint (digits ++ zeros (leading.toNat + 1 - digits.length)) (leading.toNat + 1)
  else
    match digits with
    | [first] => first :: exponentPart leading
    | first :: more => first :: '.' :: more ++ exponentPart leading
    | [] => ['0']

def render (layout : Layout) (x : Float) : List Char :=
  let sign := if x.toBits.toNat / Nat.pow 2 63 = 1 then ['-'] else []
  let magnitude := Binary.ofBits x.toBits
  if magnitude.mantissa = 0 then sign ++ ['0', '.', '0']
  else sign ++ magnitude.shortest.render layout

end SwaggerGen.Decimal
