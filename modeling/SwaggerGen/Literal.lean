import SwaggerGen.Text.Blank
import SwaggerGen.Text.Digits

/-!
# String literals

An info value or a doc property is written as a literal of the description language: between back
quotes it is raw, with carriage returns removed; between double or single quotes it takes escapes, and
between single quotes it is one character. A text that is no literal stands for the empty string.

An escape gives either a character or a single byte; the bytes of all items together have to be UTF-8.
-/

namespace SwaggerGen.Literal

/-- What one raw character or one escape contributes to a literal. -/
inductive Item where
  | char (c : Char)
  | byte (b : UInt8)
  deriving DecidableEq, Repr

/-- The bytes of an item: the UTF-8 form of a character, or the byte itself. -/
def Item.bytes : Item → List UInt8
  | char c => String.utf8EncodeChar c
  | byte b => [b]

def byte? (n : Nat) : Option Item := if n < 256 then some (.byte n.toUInt8) else none

def char? (n : Nat) : Option Item :=
  if n.isValidChar then some (.char (Char.ofNat n)) else none

/-- The item of an escape and how many characters it takes after the backslash. -/
def escape? (quote : Char) : List Char → Option (Item × Nat)
  | [] => none
  | 'a' :: _ => some (.char '\x07', 1)
  | 'b' :: _ => some (.char '\x08', 1)
  | 'f' :: _ => some (.char '\x0c', 1)
  | 'n' :: _ => some (.char '\n', 1)
  | 'r' :: _ => some (.char '\r', 1)
  | 't' :: _ => some (.char '\t', 1)
  | 'v' :: _ => some (.char '\x0b', 1)
  | '\\' :: _ => some (.char '\\', 1)
  | 'x' :: rest => ((Text.leadingNumber? 16 2 rest).bind byte?).map (·, 3)
  | 'u' :: rest => ((Text.leadingNumber? 16 4 rest).bind char?).map (·, 5)
  | 'U' :: rest => ((Text.leadingNumber? 16 8 rest).bind char?).map (·, 9)
  | c :: rest =>
      if c = quote then some (.char c, 1)
      else ((Text.leadingNumber? 8 3 (c :: rest)).bind byte?).map (·, 3)

/-- The items of a literal body, where the last escape still covers the first characters. -/
def itemsAfter? (quote : Char) : Nat → List Char → Option (List Item)
  | _, [] => some []
  | covered + 1, _ :: rest => itemsAfter? quote covered rest
  | 0, c :: rest =>
      if c = '\n' ∨ c = quote then none
      else if c = '\\' then do
        let (item, length) ← escape? quote rest
        let items ← itemsAfter? quote length rest
        some (item :: items)
      else (itemsAfter? quote 0 rest).map (.char c :: ·)

/-- The string that a list of items spells, if their bytes are UTF-8. -/
def spelled? (items : List Item) : Option String :=
  String.fromUTF8? (items.flatMap Item.bytes).toByteArray

def unescape? (quote : Char) (body : List Char) : Option String :=
  (itemsAfter? quote 0 body).bind spelled?

/-- What stands between two equal characters that begin and end a text. -/
def between? (s : List Char) : Option (Char × List Char) :=
  match s with
  | quote :: rest =>
      match rest.getLast? with
      | some last => if last = quote then some (quote, rest.dropLast) else none
      | none => none
  | [] => none

/-- The string that a literal without blanks around it stands for. -/
def value? (s : List Char) : Option String :=
  match between? s with
  | some ('`', body) =>
      if '`' ∈ body then none else some (String.ofList (body.filter (· != '\r')))
  | some ('"', body) => unescape? '"' body
  | some ('\'', body) => (unescape? '\'' body).filter (·.length == 1)
  | _ => none

/-- The string that a literal stands for; the empty string for any other text. -/
def unquote (raw : String) : String := (value? (Text.trim raw.toList)).getD ""

end SwaggerGen.Literal
