import SwaggerGen.Pattern.Atom

/-!
# Classes of a pattern

A class stands between square brackets: characters, ranges, named sets and other classes, joined, or
combined by operators. Of a class that has been taken only the depth is kept: how many parts stand inside
of one another.
-/

namespace SwaggerGen.Pattern

/-- The depth of parts in a row: one part alone adds nothing to its own. -/
def rowDepth : List Nat → Nat
  | [] => 0
  | [depth] => depth
  | depths => depths.foldl max 0 + 1

/-- A class whose end has not been reached. -/
structure OpenClass where
  /-- The depths of the parts behind the last operator. -/
  parts : List Nat
  /-- The depth of all that stands before that operator. -/
  before : Option Nat

namespace OpenClass

def empty : OpenClass := ⟨[], none⟩

def add (set : OpenClass) (depth : Nat) : OpenClass := { set with parts := depth :: set.parts }

def depth (set : OpenClass) : Nat :=
  match set.before with
  | none => rowDepth set.parts
  | some before => max before (rowDepth set.parts) + 1

/-- The class behind an operator. -/
def combine (set : OpenClass) : OpenClass := ⟨[], some set.depth⟩

end OpenClass

/-- The operators of classes: what both have, what only the first has, and what only one of them has. -/
def isOperator : Char → Bool
  | '&' | '-' | '~' => true
  | _ => false

def setNames : List String :=
  ["alnum", "alpha", "ascii", "blank", "cntrl", "digit", "graph", "lower", "print", "punct", "space",
    "upper", "word", "xdigit"]

/-- Takes a named set, behind its bracket: whether the set is complemented, and the text behind it. -/
def takeNamedSet : List Char → Option (Bool × List Char)
  | ':' :: s =>
      let complement := s.head? = some '^'
      let s := if complement then s.drop 1 else s
      match s.dropWhile (· != ':') with
      | ':' :: ']' :: rest =>
          if setNames.contains (String.ofList (s.takeWhile (· != ':'))) then some (complement, rest)
          else none
      | _ => none
  | _ => none

def isRange (mode : Mode) (first last : Atom) : Bool :=
  mode.allowsInClass first && mode.allowsInClass last &&
    match first, last with
    | .literal a _, .literal b _ => a ≤ b
    | _, _ => false

/-- Takes a range or an atom. A dash before a bracket or another dash makes no range. -/
def takeClassItem (mode : Mode) (s : List Char) : Option (List Char) := do
  let (first, s) ← takeClassAtom mode s
  match mode.skip s with
  | [] => none
  | c :: rest =>
      if c = '-' ∧ mode.ahead rest ≠ some ']' ∧ mode.ahead rest ≠ some '-' then do
        let (last, s) ← takeClassAtom mode (mode.skip rest)
        if isRange mode first last then some s else none
      else if mode.allowsInClass first then some (c :: rest)
      else none

/-- Takes what may stand at the front of a class, behind its bracket: a caret for the complement. The
complement of a set of bytes holds bytes beyond ASCII, and is refused. -/
def enterClass (mode : Mode) (s : List Char) : Option (List Char) :=
  match mode.skip s with
  | '^' :: rest => if mode.unicode then some rest else none
  | s => some s

/-- Takes the rest of a class that is inside of other ones, the innermost first: its depth, and the text
behind it. At the front dashes stand for themselves, and so does a bracket that comes first. Each step
takes at least one character. -/
def takeClassRest (mode : Mode) :
    Nat → Bool → OpenClass → List OpenClass → List Char → Option (Nat × List Char)
  | 0, _, _, _, _ => none
  | bound + 1, front, set, outer, s =>
      match mode.skip s with
      | [] => none
      | c :: rest =>
          if front ∧ c = '-' then takeClassRest mode bound true (set.add 0) outer rest
          else if front ∧ c = ']' ∧ set.parts.isEmpty then
            takeClassRest mode bound false (set.add 0) outer rest
          else if c = '[' then
            match takeNamedSet rest with
            | some (complement, rest) =>
                if mode.allowsInClass (.kind complement) then
                  takeClassRest mode bound false (set.add 0) outer rest
                else none
            | none => do
                let rest ← enterClass mode rest
                takeClassRest mode bound true .empty (set :: outer) rest
          else if c = ']' then
            match outer with
            | [] => some (set.depth + 1, rest)
            | enclosing :: outer =>
                takeClassRest mode bound false (enclosing.add (set.depth + 1)) outer rest
          else if isOperator c ∧ rest.head? = some c then
            takeClassRest mode bound false set.combine outer (rest.drop 1)
          else do
            let rest ← takeClassItem mode (c :: rest)
            takeClassRest mode bound false (set.add 0) outer rest

/-- Takes a class, behind its bracket: its depth, and the text behind it. -/
def takeClass (mode : Mode) (s : List Char) : Option (Nat × List Char) := do
  let rest ← enterClass mode s
  takeClassRest mode (rest.length + 1) true .empty [] rest

end SwaggerGen.Pattern
