import SwaggerGen.Json.Printer
import SwaggerGen.Text.Quoted

/-!
# Faults in JSON input

What can be wrong with a JSON text or with a tree that is to be taken as a value of some format, and
the message for each. A fault found in a text is settled at a place or still loose: a loose one is
settled by the container around it.
-/

namespace SwaggerGen.Json

/-- What stands where something else was wanted. -/
inductive Found where
  | null
  | boolean (b : Bool)
  | number (n : Number)
  | string (s : String)
  | list
  | object
  deriving Repr

/-- What was wanted instead. -/
inductive Wanted where
  | string
  | list
  | object
  | variantName
  | labelled (label : String)
  deriving DecidableEq, Repr

/-- The length that a list was wanted to have. -/
inductive Extent where
  | fields (label : String) (count : Nat)
  | fewerItems
  | items (count : Nat)
  deriving DecidableEq, Repr

/-- What is wrong. The first group is about the text, the second about the shape of a value. -/
inductive Cause where
  | endInList
  | endInObject
  | endInString
  | endInValue
  | colonMissing
  | listCommaMissing
  | objectCommaMissing
  | unknownWord
  | notAValue
  | badEscape
  | badNumber
  | numberTooLarge
  | loneSurrogate
  | cutSurrogatePair
  | controlCharacter
  | keyNotString
  | trailingComma
  | trailingCharacters
  | tooDeep
  | wrongType (found : Found) (wanted : Wanted)
  | missingField (name : String)
  | repeatedField (name : String)
  | unknownVariant (name : String) (known : List String)
  | wrongLength (length : Nat) (wanted : Extent)
  deriving Repr

def Found.phrase : Found → String
  | null => "null"
  | boolean b => "boolean `" ++ String.ofList (booleanWord b) ++ "`"
  | number (.integer n) => "integer `" ++ toString n ++ "`"
  | number (.real x) => "floating point `" ++ String.ofList (Decimal.render realLayout x) ++ "`"
  | string s => "string " ++ Text.quoted s
  | list => "sequence"
  | object => "map"

def Wanted.phrase : Wanted → String
  | string => "a string"
  | list => "a sequence"
  | object => "a map"
  | variantName => "variant identifier"
  | labelled label => label

def elements (count : Nat) : String :=
  if count = 1 then "1 element" else toString count ++ " elements"

def Extent.phrase : Extent → String
  | fields label count => label ++ " with " ++ elements count
  | fewerItems => "fewer elements in array"
  | items count => elements count ++ " in sequence"

def backquoted (name : String) : String := "`" ++ name ++ "`"

def choicePhrase : List String → String
  | [] => "there are no variants"
  | [one] => "expected " ++ backquoted one
  | [one, other] => "expected " ++ backquoted one ++ " or " ++ backquoted other
  | names => "expected one of " ++ ", ".intercalate (names.map backquoted)

def Cause.message : Cause → String
  | endInList => "EOF while parsing a list"
  | endInObject => "EOF while parsing an object"
  | endInString => "EOF while parsing a string"
  | endInValue => "EOF while parsing a value"
  | colonMissing => "expected `:`"
  | listCommaMissing => "expected `,` or `]`"
  | objectCommaMissing => "expected `,` or `\x7d`"
  | unknownWord => "expected ident"
  | notAValue => "expected value"
  | badEscape => "invalid escape"
  | badNumber => "invalid number"
  | numberTooLarge => "number out of range"
  | loneSurrogate => "lone leading surrogate in hex escape"
  | cutSurrogatePair => "unexpected end of hex escape"
  | controlCharacter => "control character (\\u0000-\\u001F) found while parsing a string"
  | keyNotString => "key must be a string"
  | trailingComma => "trailing comma"
  | trailingCharacters => "trailing characters"
  | tooDeep => "recursion limit exceeded"
  | wrongType found wanted => "invalid type: " ++ found.phrase ++ ", expected " ++ wanted.phrase
  | missingField name => "missing field " ++ backquoted name
  | repeatedField name => "duplicate field " ++ backquoted name
  | unknownVariant name known => "unknown variant " ++ backquoted name ++ ", " ++ choicePhrase known
  | wrongLength length wanted =>
      "invalid length " ++ toString length ++ ", expected " ++ wanted.phrase

/-- A place in a text: lines are counted from one, bytes within a line from zero. -/
structure Position where
  line : Nat
  column : Nat
  deriving DecidableEq, Repr, Inhabited

/-- The place that is reached from another one by passing a number of bytes of a text. -/
def Position.advance (text : List Char) (bytes : Nat) (start : Position) : Position :=
  match text with
  | [] => start
  | c :: rest =>
      if bytes = 0 then start
      else
        let next : Position :=
          if c = '\n' then ⟨start.line + 1, 0⟩ else ⟨start.line, start.column + min c.utf8Size bytes⟩
        next.advance rest (bytes - c.utf8Size)

def byteCount (s : List Char) : Nat := s.foldr (fun c count => c.utf8Size + count) 0

/-- A fault in a text. A settled one is placed by the number of bytes that come after it; a loose one
holds the text that is still unread. -/
inductive Fault where
  | settled (cause : Cause) (left : Nat)
  | loose (cause : Cause) (rest : List Char)

/-- An error of the input: its cause, and its place when the input was a text. -/
structure InputError where
  cause : Cause
  position : Option Position
  deriving Repr

def Fault.inText (text : List Char) : Fault → InputError
  | settled cause left =>
      ⟨cause, some (Position.advance text (byteCount text - left) ⟨1, 0⟩)⟩
  | loose cause rest =>
      ⟨cause, some (Position.advance text (byteCount text - byteCount rest) ⟨1, 0⟩)⟩

def InputError.message (error : InputError) : String :=
  match error.position with
  | none => error.cause.message
  | some place =>
      error.cause.message ++ " at line " ++ toString place.line ++ " column " ++ toString place.column

end SwaggerGen.Json
