import SwaggerGen.Json.Fault

/-!
# Reading JSON text

Readers take the unread text and give back a value and the text behind it. A fault is placed either at
the text that is unread or one byte ahead, at the character that was looked at but not taken.
-/

namespace SwaggerGen.Json

/-- Reads a value from the front of a text. -/
abbrev Reader (α : Type) := List Char → Except Fault (α × List Char)

/-- A fault at the front of the unread text. -/
def faultAt {α : Type} (cause : Cause) (rest : List Char) : Except Fault α :=
  .error (.settled cause (byteCount rest))

/-- A fault one byte behind the front of the unread text, unless the text has ended. -/
def faultAhead {α : Type} (cause : Cause) (rest : List Char) : Except Fault α :=
  .error (.settled cause (byteCount rest - 1))

/-- A blank between the parts of a JSON text. -/
def isSpace (c : Char) : Bool := c == ' ' || c == '\n' || c == '\t' || c == '\r'

def skipSpace (s : List Char) : List Char := s.dropWhile isSpace

def readWord : List Char → Reader Unit
  | [], s => .ok ((), s)
  | _ :: _, [] => faultAt .endInValue []
  | letter :: letters, c :: rest =>
      if c = letter then readWord letters rest
      else .error (.settled .unknownWord (byteCount (c :: rest) - 1))

end SwaggerGen.Json
