import SwaggerGen.Json.Reading
import SwaggerGen.Text.Digits

/-!
# Reading strings

A string ends at the first quote that is not escaped. An escape gives one character; one that is outside
of the basic plane is given by two escapes, the two halves of a surrogate pair. A string that nobody asks
for is passed over without looking at such pairs.
-/

namespace SwaggerGen.Json

/-- The fault of four bytes that were to be hexadecimal digits. -/
def hexFault {α : Type} (s : List Char) : Except Fault α :=
  if byteCount s < 4 then faultAt .endInString []
  else .error (.settled .badEscape (byteCount s - 4))

def hexNumber (s : List Char) : Except Fault Nat :=
  match Text.leadingNumber? 16 4 s with
  | some n => .ok n
  | none => hexFault s

def letterEscape? : Char → Option Char
  | '"' => some '"'
  | '\\' => some '\\'
  | '/' => some '/'
  | 'b' => some '\x08'
  | 'f' => some '\x0c'
  | 'n' => some '\n'
  | 'r' => some '\r'
  | 't' => some '\t'
  | _ => none

def isHighSurrogate (n : Nat) : Bool := 0xd800 ≤ n && n ≤ 0xdbff

def isLowSurrogate (n : Nat) : Bool := 0xdc00 ≤ n && n ≤ 0xdfff

def pairChar (high low : Nat) : Char :=
  Char.ofNat ((high - 0xd800) * 0x400 + (low - 0xdc00) + 0x10000)

/-- The character of a pair whose first half has been read. -/
def lowerHalf (high : Nat) : List Char → Except Fault Char
  | [] => faultAt .endInString []
  | ['\\'] => faultAt .endInString []
  | '\\' :: 'u' :: rest => do
      let low ← hexNumber rest
      if isLowSurrogate low then .ok (pairChar high low) else faultAt .loneSurrogate (rest.drop 4)
  | '\\' :: rest => faultAhead .cutSurrogatePair rest
  | rest => faultAhead .cutSurrogatePair rest

/-- The character of an escape, and how many characters the escape takes behind its backslash. -/
def readEscape : List Char → Except Fault (Char × Nat)
  | [] => faultAt .endInString []
  | c :: rest =>
      if c = 'u' then do
        let n ← hexNumber rest
        if isLowSurrogate n then faultAt .loneSurrogate (rest.drop 4)
        else if isHighSurrogate n then .ok (← lowerHalf n (rest.drop 4), 11)
        else .ok (Char.ofNat n, 5)
      else
        match letterEscape? c with
        | some plain => .ok (plain, 1)
        | none => faultAhead .badEscape (c :: rest)

/-- Reads the characters up to the closing quote, where the last escape still covers the first ones. -/
def readCharacters : Nat → Reader (List Char)
  | _, [] => faultAt .endInString []
  | covered + 1, _ :: rest => readCharacters covered rest
  | 0, c :: rest =>
      if c = '"' then .ok ([], rest)
      else if c = '\\' then do
        let (plain, length) ← readEscape rest
        let (more, rest) ← readCharacters length rest
        .ok (plain :: more, rest)
      else if c.toNat < 0x20 then faultAt .controlCharacter rest
      else do
        let (more, rest) ← readCharacters 0 rest
        .ok (c :: more, rest)

def readString (s : List Char) : Except Fault (String × List Char) := do
  let (characters, rest) ← readCharacters 0 s
  .ok (String.ofList characters, rest)

/-- How many characters an escape takes behind its backslash, if nobody asks for its character. -/
def skipEscape : List Char → Except Fault Nat
  | [] => faultAt .endInString []
  | c :: rest =>
      if c = 'u' then (hexNumber rest).map fun _ => 5
      else if (letterEscape? c).isSome then .ok 1
      else faultAhead .badEscape (c :: rest)

/-- Passes over the characters up to the closing quote, where the last escape still covers the first
ones. -/
def skipCharacters : Nat → List Char → Except Fault (List Char)
  | _, [] => faultAt .endInString []
  | covered + 1, _ :: rest => skipCharacters covered rest
  | 0, c :: rest =>
      if c = '"' then .ok rest
      else if c = '\\' then do
        let length ← skipEscape rest
        skipCharacters length rest
      else if c.toNat < 0x20 then faultAt .controlCharacter (c :: rest)
      else skipCharacters 0 rest

def skipString (s : List Char) : Except Fault (List Char) := skipCharacters 0 s

end SwaggerGen.Json
