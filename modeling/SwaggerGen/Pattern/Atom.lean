import SwaggerGen.Pattern.Mode
import SwaggerGen.Text.Digits

/-!
# Atoms of a pattern

The smallest parts of a pattern: a character, a set of characters with a name, a place. Most of them can be
written with a backslash. No brace is ever closed in the patterns that are read here, so a form that needs
braces is refused.
-/

namespace SwaggerGen.Pattern

open Text (digit?)

/-- A smallest part of a pattern. -/
inductive Atom where
  /-- A character, and whether it is written with the two digits of a byte. -/
  | literal (c : Char) (byte : Bool)
  /-- The digits, the blanks or the characters of words, or all but those. -/
  | kind (complement : Bool)
  /-- A general category of characters, or all but those in it. -/
  | category
  | anyCharacter
  /-- The front or the end of the text or of a line. -/
  | margin
  /-- A place where a word begins or ends, or where none does. -/
  | wordEdge
  deriving DecidableEq, Repr

/-- What a backslash and a character stand for, when nothing else belongs to it. -/
def escaped? (c : Char) : Option Atom :=
  match c with
  | 'd' | 's' | 'w' => some (.kind false)
  | 'D' | 'S' | 'W' => some (.kind true)
  | 'a' => some (.literal '\x07' false)
  | 'f' => some (.literal '\x0c' false)
  | 't' => some (.literal '\t' false)
  | 'n' => some (.literal '\n' false)
  | 'r' => some (.literal '\r' false)
  | 'v' => some (.literal '\x0b' false)
  | 'A' | 'z' => some .margin
  | 'b' | 'B' | '<' | '>' => some .wordEdge
  | c => if c ≤ '\x7f' ∧ ¬c.isAlphanum then some (.literal c false) else none

/-- Takes a number of hexadecimal digits, and continues a value with them. -/
def takeHex (mode : Mode) : Nat → Nat → List Char → Option (Nat × List Char)
  | 0, value, s => some (value, s)
  | _ + 1, _, [] => none
  | count + 1, value, c :: rest =>
      (digit? 16 c).bind fun digit => takeHex mode count (16 * value + digit) (mode.skip rest)

def takeCode (mode : Mode) (count : Nat) (s : List Char) : Option (Atom × List Char) :=
  (takeHex mode count 0 (mode.skip s)).bind fun (code, rest) =>
    if code.isValidChar then some (.literal (Char.ofNat code) (count = 2), rest) else none

def categoryLetters : List Char := ['C', 'L', 'M', 'N', 'P', 'S', 'Z']

def takeCategory (mode : Mode) (s : List Char) : Option (Atom × List Char) :=
  match mode.skip s with
  | [] => none
  | c :: rest => if categoryLetters.contains c.toUpper then some (.category, rest) else none

/-- Takes what stands behind a backslash. -/
def takeEscape (mode : Mode) : List Char → Option (Atom × List Char)
  | [] => none
  | 'x' :: rest => takeCode mode 2 rest
  | 'u' :: rest => takeCode mode 4 rest
  | 'U' :: rest => takeCode mode 8 rest
  | 'p' :: rest => takeCategory mode rest
  | 'P' :: rest => takeCategory mode rest
  | c :: rest => (escaped? c).map (·, rest)

/-- Takes an atom outside of classes. -/
def takeAtom (mode : Mode) : List Char → Option (Atom × List Char)
  | [] => none
  | '\\' :: rest => takeEscape mode rest
  | '.' :: rest => some (.anyCharacter, rest)
  | '^' :: rest => some (.margin, rest)
  | '$' :: rest => some (.margin, rest)
  | c :: rest => some (.literal c false, rest)

/-- Takes an atom inside of a class. -/
def takeClassAtom (mode : Mode) : List Char → Option (Atom × List Char)
  | [] => none
  | '\\' :: rest => takeEscape mode rest
  | c :: rest => some (.literal c false, rest)

/-- Whether an atom may stand outside of classes. A pattern that matches bytes may not match one beyond
ASCII on its own. -/
def Mode.allows (mode : Mode) : Atom → Bool
  | .literal c byte => mode.unicode || !byte || c ≤ '\x7f'
  | .kind complement => mode.unicode || !complement
  | .category | .anyCharacter => mode.unicode
  | .margin | .wordEdge => true

/-- Whether an atom may stand inside of a class. A place is not in any class. -/
def Mode.allowsInClass (mode : Mode) : Atom → Bool
  | .literal c _ => mode.unicode || c ≤ '\x7f'
  | .kind complement => mode.unicode || !complement
  | .category => mode.unicode
  | .anyCharacter | .margin | .wordEdge => false

end SwaggerGen.Pattern
