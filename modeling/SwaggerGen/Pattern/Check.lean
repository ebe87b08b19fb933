import SwaggerGen.Pattern.ClassSet
import SwaggerGen.Text.Letter

/-!
# Checking a pattern

A pattern is checked from left to right, without being built. Two things can be wrong with it: it does not
have the form of a pattern, or it asks where words beyond ASCII begin and end, which an automaton that reads
bytes cannot tell.
-/

namespace SwaggerGen.Pattern

/-- What is wrong with a pattern. -/
inductive Fault where
  | form
  | wordEdge
  deriving DecidableEq, Repr

def Fault.message : Fault → String
  | form => "error building NFA"
  | wordEdge =>
      "unsupported regex feature for DFAs: cannot build DFAs for regexes with Unicode word boundaries; " ++
        "switch to ASCII word boundaries, or heuristically enable Unicode word boundaries or use a " ++
        "different regex engine"

/-- A part of a row: flags, or something that can be repeated, with its depth. -/
inductive Part where
  | flags
  | operand (depth : Nat)
  deriving DecidableEq, Repr

def Part.depth : Part → Nat
  | flags => 0
  | operand depth => depth

/-- A group whose end has not been reached. -/
structure OpenGroup where
  /-- The mode behind the group. -/
  outer : Mode
  /-- The parts behind the last bar, the last one first. -/
  parts : List Part
  /-- The greatest depth before that bar. -/
  before : Option Nat

namespace OpenGroup

def empty (outer : Mode) : OpenGroup := ⟨outer, [], none⟩

def add (group : OpenGroup) (part : Part) : OpenGroup := { group with parts := part :: group.parts }

/-- The depth of the alternative behind the last bar. -/
def lastDepth (group : OpenGroup) : Nat := rowDepth (group.parts.map Part.depth)

def depth (group : OpenGroup) : Nat :=
  match group.before with
  | none => group.lastDepth
  | some before => max before group.lastDepth + 1

def alternate (group : OpenGroup) : OpenGroup :=
  ⟨group.outer, [], some (max (group.before.getD 0) group.lastDepth)⟩

def repeatLast? (group : OpenGroup) : Option OpenGroup :=
  match group.parts with
  | .operand depth :: parts => some { group with parts := .operand (depth + 1) :: parts }
  | _ => none

end OpenGroup

/-- What is known of a pattern at some place in it. -/
structure Progress where
  mode : Mode
  group : OpenGroup
  /-- The groups around the innermost one. -/
  enclosing : List OpenGroup
  /-- The names that groups have. -/
  names : List (List Char)
  /-- Whether the edge of a word beyond ASCII has been asked for. -/
  hasWordEdge : Bool

namespace Progress

def initial : Progress := ⟨.initial, .empty .initial, [], [], false⟩

def add (progress : Progress) (part : Part) : Progress :=
  { progress with group := progress.group.add part }

def addAtom? (progress : Progress) (atom : Atom) : Option Progress :=
  if progress.mode.allows atom then
    let edge := atom = .wordEdge && progress.mode.unicode
    some { progress.add (.operand 0) with hasWordEdge := progress.hasWordEdge || edge }
  else none

def enter (progress : Progress) (mode : Mode) : Progress :=
  { progress with
    mode := mode
    group := .empty progress.mode
    enclosing := progress.group :: progress.enclosing }

def leave? (progress : Progress) : Option Progress :=
  match progress.enclosing with
  | [] => none
  | group :: enclosing =>
      some
        { progress with
          mode := progress.group.outer
          group := group.add (.operand (progress.group.depth + 1))
          enclosing := enclosing }

/-- With the name of a group, which no other group has. -/
def name? (progress : Progress) (name : List Char) : Option Progress :=
  if progress.names.contains name then none
  else some { progress with names := name :: progress.names }

end Progress

def beginsName (c : Char) : Bool := c == '_' || Text.isLetter c

def continuesName (c : Char) : Bool :=
  c == '_' || c == '.' || c == '[' || c == ']' || Text.isLetterOrNumber c

def takeName (s : List Char) : Option (List Char × List Char) :=
  match s.takeWhile (· != '>'), s.dropWhile (· != '>') with
  | c :: name, _ :: rest =>
      if beginsName c && name.all continuesName then some (c :: name, rest) else none
  | _, _ => none

/-- Takes what stands behind an opening parenthesis: a name, flags for the group, or flags for what is left
of the group around them. -/
def takeOpening (progress : Progress) (s : List Char) : Option (Progress × List Char) :=
  let named (s : List Char) := do
    let (name, rest) ← takeName s
    let progress ← progress.name? name
    some (progress.enter progress.mode, rest)
  match progress.mode.skip s with
  | '?' :: 'P' :: '<' :: s => named s
  | '?' :: '<' :: s => named s
  | '?' :: s => do
      match ← takeFlags true [] progress.mode s with
      | (mode, .colon, rest) => some (progress.enter mode, rest)
      | (mode, .parenthesis, rest) => some ({ progress.add .flags with mode := mode }, rest)
  | s => some (progress.enter progress.mode, s)

/-- Checks the rest of a pattern. Each step takes at least one character. -/
def checkRest : Nat → Progress → List Char → Option Progress
  | 0, _, _ => none
  | bound + 1, progress, s =>
      match progress.mode.skip s with
      | [] => some progress
      | '(' :: rest => do
          let (progress, rest) ← takeOpening progress rest
          checkRest bound progress rest
      | ')' :: rest => do checkRest bound (← progress.leave?) rest
      | '|' :: rest => checkRest bound { progress with group := progress.group.alternate } rest
      | '[' :: rest => do
          let (depth, rest) ← takeClass progress.mode rest
          checkRest bound (progress.add (.operand depth)) rest
      | '{' :: _ => none
      | c :: rest =>
          if c = '?' ∨ c = '*' ∨ c = '+' then do
            let group ← progress.group.repeatLast?
            checkRest bound { progress with group := group } (if rest.head? = some '?' then rest.drop 1 else rest)
          else do
            let (atom, rest) ← takeAtom progress.mode (c :: rest)
            checkRest bound (← progress.addAtom? atom) rest

def depthLimit : Nat := 250

/-- What is wrong with a pattern in which no brace is closed, if anything. -/
def fault? (s : List Char) : Option Fault :=
  match checkRest (s.length + 1) .initial s with
  | none => some .form
  | some progress =>
      if !progress.enclosing.isEmpty || depthLimit < progress.group.depth then some .form
      else if progress.hasWordEdge then some .wordEdge
      else none

end SwaggerGen.Pattern
