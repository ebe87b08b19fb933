import SwaggerGen.Json.Container

/-!
# Passing over values

A value that nobody asks for is passed over: it may nest to any depth, its numbers may be of any size, and
its strings may hold unpaired surrogates. Only the open brackets are kept in mind.
-/

namespace SwaggerGen.Json

inductive Bracket where
  | square
  | curly
  deriving DecidableEq, Repr

def Bracket.closing : Bracket → Char
  | square => ']'
  | curly => '}'

/-- What comes next while values are passed over. -/
inductive Awaiting where
  | value
  | firstItem
  | comma
  deriving DecidableEq, Repr

/-- Passes over the key and the colon that stand before a value inside an object. -/
def skipKey (bracket : Bracket) (s : List Char) : Except Fault (List Char) :=
  match bracket with
  | .square => .ok s
  | .curly =>
      match skipSpace s with
      | [] => faultAhead .endInObject []
      | '"' :: rest => do
          let rest ← skipString rest
          readColon rest
      | rest => faultAhead .keyNotString rest

def Bracket.ended : Bracket → Cause
  | square => .endInList
  | curly => .endInObject

def Bracket.commaMissing : Bracket → Cause
  | square => .listCommaMissing
  | curly => .objectCommaMissing

/-- Passes over what is left of a value that is inside the given brackets, the innermost first. Every
two steps take at least one character. -/
def skipInside : Nat → Awaiting → List Bracket → List Char → Except Fault (List Char)
  | 0, _, _, s => faultAhead .endInValue s
  | bound + 1, .value, brackets, s =>
      match skipSpace s with
      | [] => faultAhead .endInValue []
      | 'n' :: rest => do
          let (_, rest) ← readWord "ull".toList rest
          skipInside bound .comma brackets rest
      | 't' :: rest => do
          let (_, rest) ← readWord "rue".toList rest
          skipInside bound .comma brackets rest
      | 'f' :: rest => do
          let (_, rest) ← readWord "alse".toList rest
          skipInside bound .comma brackets rest
      | '"' :: rest => do
          let rest ← skipString rest
          skipInside bound .comma brackets rest
      | '[' :: rest => skipInside bound .firstItem (.square :: brackets) rest
      | '{' :: rest => skipInside bound .firstItem (.curly :: brackets) rest
      | '-' :: rest => do
          let rest ← skipMagnitude rest
          skipInside bound .comma brackets rest
      | c :: rest =>
          if c.isDigit then do
            let rest ← skipMagnitude (c :: rest)
            skipInside bound .comma brackets rest
          else faultAhead .notAValue (c :: rest)
  | _ + 1, _, [], s => .ok s
  | bound + 1, awaiting, bracket :: outer, s =>
      match skipSpace s with
      | [] => faultAhead bracket.ended []
      | c :: rest =>
          if c = bracket.closing then skipInside bound .comma outer rest
          else if awaiting = .firstItem then do
            let s ← skipKey bracket (c :: rest)
            skipInside bound .value (bracket :: outer) s
          else if c = ',' then do
            let s ← skipKey bracket rest
            skipInside bound .value (bracket :: outer) s
          else faultAhead bracket.commaMissing (c :: rest)

def skipValue (s : List Char) : Except Fault (List Char) :=
  skipInside (2 * s.length + 2) .value [] s

end SwaggerGen.Json
