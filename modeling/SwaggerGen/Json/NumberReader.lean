import SwaggerGen.Json.Reading

/-!
# Reading numbers

A number without fraction and exponent is an integer, as long as sixty-four bits hold it. Any other one
is a double: its digits make a significand below `2 ^ 64`, which is then scaled by a power of ten. A number
that nobody asks for is passed over whatever its size.
-/

namespace SwaggerGen.Json

def digitValue (c : Char) : Nat := c.toNat - '0'.toNat

/-- Takes digits into a significand as long as it stays below `2 ^ 64`; gives it and the digits that
are left over. -/
def takeDigits : Nat → List Char → Nat × List Char
  | value, [] => (value, [])
  | value, c :: rest =>
      if value * 10 + digitValue c < Nat.pow 2 64 then takeDigits (value * 10 + digitValue c) rest
      else (value, c :: rest)

def powerOfTen (n : Nat) : Float := Float.ofScientific 1 false n

/-- A significand times a power of ten: one multiplication or division, after as many divisions by
`10 ^ 308` as a smaller exponent needs. Too large a product is refused. -/
def realOf? (significand : Nat) (exponent : Int) : Option Float :=
  let rec reduce : Nat → Float → Nat → Float
    | 0, x, _ => x
    | tries + 1, x, n =>
        if n ≤ 308 then x / powerOfTen n
        else if x == 0 then x
        else reduce tries (x / powerOfTen 308) (n - 308)
  let x := significand.toUInt64.toFloat
  if exponent < 0 then some (reduce 4 x exponent.natAbs)
  else if exponent ≤ 308 then
    let product := x * powerOfTen exponent.natAbs
    if product.isInf then none else some product
  else if significand = 0 then some x
  else none

def signed (negative : Bool) (x : Float) : Float := if negative then -x else x

/-- Reads the digits of an exponent, while it stays below `2 ^ 31`. The flag tells whether the digits
went beyond; the text behind is then the one after the first digit too many. -/
def takeExponent : Nat → List Char → Nat × Bool × List Char
  | value, [] => (value, false, [])
  | value, c :: rest =>
      if c.isDigit then
        if value * 10 + digitValue c < Nat.pow 2 31 then takeExponent (value * 10 + digitValue c) rest
        else (value, true, rest)
      else (value, false, c :: rest)

/-- The double with a significand and an exponent, or the fault that it is too large. -/
def finishReal (negative : Bool) (significand : Nat) (exponent : Int) : Reader Number := fun rest =>
  match realOf? significand exponent with
  | some x => .ok (.real (signed negative x), rest)
  | none => faultAt .numberTooLarge rest

/-- Whether an exponent is negative, and the text behind its sign. -/
def takeSign : List Char → Bool × List Char
  | '+' :: rest => (false, rest)
  | '-' :: rest => (true, rest)
  | s => (false, s)

/-- Reads an exponent behind its letter, and with it finishes a number. -/
def readExponent (negative : Bool) (significand : Nat) (exponent : Int) : Reader Number := fun s =>
  let (down, s) := takeSign s
  match s with
  | [] => faultAt .endInValue []
  | c :: rest =>
      if c.isDigit then
        match takeExponent 0 (c :: rest) with
        | (_, true, rest) =>
            if significand ≠ 0 ∧ !down then faultAt .numberTooLarge rest
            else .ok (.real (signed negative 0), rest.dropWhile Char.isDigit)
        | (value, false, rest) =>
            finishReal negative significand (if down then exponent - value else exponent + value) rest
      else faultAhead .badNumber (c :: rest)

def readScale (negative : Bool) (significand : Nat) (exponent : Int) : Reader Number
  | 'e' :: rest => readExponent negative significand exponent rest
  | 'E' :: rest => readExponent negative significand exponent rest
  | rest => finishReal negative significand exponent rest

def readFraction (negative : Bool) (significand : Nat) (exponent : Int) : Reader Number := fun s =>
  let digits := s.takeWhile Char.isDigit
  let rest := s.dropWhile Char.isDigit
  if digits = [] then
    match s with
    | [] => faultAhead .endInValue []
    | s => faultAhead .badNumber s
  else
    let (significand, leftOver) := takeDigits significand digits
    readScale negative significand (exponent - (digits.length - leftOver.length : Nat)) rest

/-- The number of a significand without fraction and exponent. A negative zero and a number beyond
sixty-four bits are doubles. -/
def wholeNumber (negative : Bool) (significand : Nat) : Number :=
  if !negative then .integer significand
  else if 0 < significand ∧ significand ≤ Nat.pow 2 63 then .integer (-significand)
  else .real (-significand.toUInt64.toFloat)

def readMagnitude (negative : Bool) : Reader Number := fun s =>
  match s with
  | [] => faultAt .endInValue []
  | c :: rest =>
      if !c.isDigit then faultAhead .badNumber (c :: rest)
      else if c = '0' ∧ (rest.head?.any Char.isDigit) then faultAhead .badNumber rest
      else
        let digits := s.takeWhile Char.isDigit
        let rest := s.dropWhile Char.isDigit
        let (significand, leftOver) := takeDigits 0 digits
        match rest with
        | '.' :: rest => readFraction negative significand leftOver.length rest
        | 'e' :: rest => readExponent negative significand leftOver.length rest
        | 'E' :: rest => readExponent negative significand leftOver.length rest
        | rest =>
            if leftOver = [] then .ok (wholeNumber negative significand, rest)
            else finishReal negative significand leftOver.length rest

def readNumber : Reader Number
  | '-' :: rest => readMagnitude true rest
  | s => readMagnitude false s

def skipExponent (s : List Char) : Except Fault (List Char) :=
  match (takeSign s).2 with
  | [] => faultAt .badNumber []
  | c :: rest =>
      if c.isDigit then .ok (rest.dropWhile Char.isDigit) else faultAhead .badNumber (c :: rest)

def skipScale : List Char → Except Fault (List Char)
  | 'e' :: rest => skipExponent rest
  | 'E' :: rest => skipExponent rest
  | rest => .ok rest

/-- Passes over a number behind its sign; its size does not matter. -/
def skipMagnitude (s : List Char) : Except Fault (List Char) :=
  match s with
  | [] => faultAt .badNumber []
  | c :: rest =>
      if !c.isDigit then faultAhead .badNumber (c :: rest)
      else if c = '0' ∧ (rest.head?.any Char.isDigit) then faultAhead .badNumber rest
      else
        match s.dropWhile Char.isDigit with
        | '.' :: rest =>
            if rest.head?.any Char.isDigit then skipScale (rest.dropWhile Char.isDigit)
            else faultAhead .badNumber rest
        | rest => skipScale rest

end SwaggerGen.Json
