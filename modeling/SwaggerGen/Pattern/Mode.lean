import SwaggerGen.Text.Blank

/-!
# Modes of a pattern

A pattern is a regular expression. Flags in a pattern tell how the text behind them is read, up to the end
of the group that they stand in. Of the seven flags two matter here: one makes blanks and comments stand
for nothing, the other makes the pattern match characters rather than bytes.
-/

namespace SwaggerGen.Pattern

/-- How the text of a pattern is read at some place. -/
structure Mode where
  /-- Whether blanks and comments stand for nothing. -/
  spaced : Bool
  /-- Whether characters are matched rather than bytes. -/
  unicode : Bool
  deriving DecidableEq, Repr

/-- The text behind the blanks and comments at its front. A comment goes from a number sign to the end of
its line; the flag tells that the text begins inside of one. -/
def behindBlanks (comment : Bool) : List Char → List Char
  | [] => []
  | c :: rest =>
      if comment then behindBlanks (c != '\n') rest
      else if Text.isBlank c then behindBlanks false rest
      else if c = '#' then behindBlanks true rest
      else c :: rest

namespace Mode

def initial : Mode := ⟨false, true⟩

def skip (mode : Mode) (s : List Char) : List Char := if mode.spaced then behindBlanks false s else s

/-- The character that is looked at ahead. Of a comment only the number sign is passed by, and the blanks
around it; blanks up to the end of the pattern are not. -/
def ahead (mode : Mode) (s : List Char) : Option Char :=
  if mode.spaced then
    match s.dropWhile Text.isBlank with
    | '#' :: rest => (rest.dropWhile Text.isBlank).head?.or s.head?
    | rest => rest.head?.or s.head?
  else s.head?

def switch (mode : Mode) (flag : Char) (on : Bool) : Mode :=
  if flag = 'x' then { mode with spaced := on }
  else if flag = 'u' then { mode with unicode := on }
  else mode

end Mode

def flagLetters : List Char := ['i', 'm', 's', 'U', 'u', 'R', 'x']

/-- What stands behind flags. -/
inductive FlagEnd where
  | colon
  | parenthesis
  deriving DecidableEq, Repr

/-- Takes flags up to the colon or the parenthesis behind them. A dash switches the flags off that follow
it; nothing may occur twice, a dash may not come last, and before a parenthesis there is at least one
flag. The characters that have been seen come with the last one first. -/
def takeFlags (on : Bool) (seen : List Char) (mode : Mode) :
    List Char → Option (Mode × FlagEnd × List Char)
  | [] => none
  | c :: rest =>
      if c = ':' then
        if seen.head? = some '-' then none else some (mode, .colon, rest)
      else if c = ')' then
        if seen.isEmpty ∨ seen.head? = some '-' then none else some (mode, .parenthesis, rest)
      else if seen.contains c then none
      else if c = '-' then takeFlags false (c :: seen) mode rest
      else if flagLetters.contains c then takeFlags on (c :: seen) (mode.switch c on) rest
      else none

end SwaggerGen.Pattern
